import FieldTemplate.Markdown.Span
import FieldTemplate.Unicode.Word

/-!
# Emphasis

Text between asterisks or underscores is emphasised or strong.  Underscores inside a word
mark nothing, and of several readings of a run of marks the first in `Flavour.readings` wins.
-/

namespace FieldTemplate.Markdown

set_option autoImplicit false

/-- How the parts of an emphasised text nest. -/
inductive Nesting where
  | em
  | strong
  /-- The first part is emphasised inside what is strong. -/
  | emInStrong
  /-- The first part is strong inside what is emphasised. -/
  | strongInEm
  /-- The second part is emphasised inside what is strong. -/
  | strongThenEm
deriving DecidableEq, Repr

/-- An emphasised text: its parts, and what follows it. -/
structure Emphasised where
  first : Marked
  second : Marked
  rest : Marked

/-- A way to read marks; it sees the piece before them. -/
structure Reading where
  nesting : Nesting
  at? : Option Piece → Marked → Option Emphasised

namespace Emphasis

def emTag : Text := "em".toList
def strongTag : Text := "strong".toList

def marks (mark : Char) (n : Nat) : Text := List.replicate n mark

/-- What follows so many marks. -/
def after? (mark : Char) (n : Nat) (m : Marked) : Option Marked :=
  Marked.dropText? (marks mark n) m

def startsWith (mark : Char) (m : Marked) : Bool := (after? mark 1 m).isSome

def isWordPiece (p : Piece) : Bool := p.satisfies Unicode.isWord

def wordBefore (before : Option Piece) : Bool := (before.map isWordPiece).getD false

def wordFollows (m : Marked) : Bool := (m.head?.map isWordPiece).getD false

/-- The shortest text, if need be empty, before so many marks. -/
def upTo? (mark : Char) (n : Nat) (m : Marked) : Option (Marked × Marked) :=
  match after? mark n m with
  | some rest => some ([], rest)
  | none => m.findCut? fun _ rest => after? mark n rest

/-- Three marks, a part, `close` marks, a part, `3 - close` marks. -/
def triple? (mark : Char) (close : Nat) (m : Marked) : Option Emphasised :=
  (after? mark 3 m).bind fun m =>
    let found := m.findCut? fun _ rest => (after? mark close rest).bind (upTo? mark (3 - close))
    found.map fun (first, second, rest) => ⟨first, second, rest⟩

/-- Text before marks that does not contain them. -/
def plainUpTo? (mark : Char) (m : Marked) : Option (Marked × Marked) :=
  match m.takeWhile fun p => !p.isChar mark with
  | [] => none
  | inner => (after? mark 1 (m.drop inner.length)).map (inner, ·)

/-- Two asterisks, a part, one asterisk, a part, three asterisks. -/
def doubleThenSingle? (m : Marked) : Option Emphasised :=
  (after? '*' 2 m).bind fun m => (plainUpTo? '*' m).bind fun first =>
    if startsWith '*' first.2 then none
    else (first.2.findCut? fun _ rest => after? '*' 3 rest).map fun (second, rest) =>
      ⟨first.1, second, rest⟩

def doubleAsterisk? (m : Marked) : Option Emphasised :=
  (after? '*' 2 m).bind fun m =>
    (m.findCut? fun _ rest => after? '*' 2 rest).map fun (inner, rest) => ⟨inner, [], rest⟩

def singleAsterisk? (m : Marked) : Option Emphasised :=
  (after? '*' 1 m).bind fun m => (plainUpTo? '*' m).map fun inner => ⟨inner.1, [], inner.2⟩

/-- So many marks that no word goes on behind. -/
def closingAt? (n : Nat) (m : Marked) : Option Marked :=
  (after? '_' n m).filter fun rest => !wordFollows rest

/-- Two underscores at a word's edge, a part, one underscore, a part, three underscores. -/
def doubleThenSingleWord? (before : Option Piece) (m : Marked) : Option Emphasised :=
  if wordBefore before then none
  else (after? '_' 2 m).bind fun m =>
    if startsWith '_' m then none
    else
      let found := m.findCut? fun last rest =>
        if isWordPiece last then none
        else (after? '_' 1 rest).bind fun rest =>
          if startsWith '_' rest then none else rest.findCut? fun _ rest => closingAt? 3 rest
      found.map fun (first, second, rest) => ⟨first, second, rest⟩

/-- So many underscores at a word's edge around a part. -/
def word? (n : Nat) (before : Option Piece) (m : Marked) : Option Emphasised :=
  if wordBefore before then none
  else (after? '_' n m).bind fun m =>
    if startsWith '_' m then none
    else
      let found := m.findCut? fun last rest =>
        if last.isChar '_' then none else closingAt? n rest
      found.map fun (inner, rest) => ⟨inner, [], rest⟩

end Emphasis

/-- A kind of mark with its readings, the first of which wins. -/
structure Flavour where
  mark : Char
  readings : List Reading

namespace Flavour

def asterisk : Flavour where
  mark := '*'
  readings := [
    ⟨.emInStrong, fun _ => Emphasis.triple? '*' 1⟩,
    ⟨.strongInEm, fun _ => Emphasis.triple? '*' 2⟩,
    ⟨.strongThenEm, fun _ => Emphasis.doubleThenSingle?⟩,
    ⟨.strong, fun _ => Emphasis.doubleAsterisk?⟩,
    ⟨.em, fun _ => Emphasis.singleAsterisk?⟩]

def underscore : Flavour where
  mark := '_'
  readings := [
    ⟨.emInStrong, fun _ => Emphasis.triple? '_' 1⟩,
    ⟨.strongInEm, fun _ => Emphasis.triple? '_' 2⟩,
    ⟨.strongThenEm, Emphasis.doubleThenSingleWord?⟩,
    ⟨.strong, Emphasis.word? 2⟩,
    ⟨.em, Emphasis.word? 1⟩]

end Flavour

namespace Emphasis

/-- The element of an emphasised text whose parts are read by `part`. -/
def element (nesting : Nesting) (part : Marked → List Draft) (e : Emphasised) : Draft :=
  let em (content : List Draft) : Draft := .element emTag [] content
  let strong (content : List Draft) : Draft := .element strongTag [] content
  match nesting with
  | .em => em (part e.first)
  | .strong => strong (part e.first)
  | .emInStrong => strong (em (part e.first) :: part e.second)
  | .strongInEm => em (strong (part e.first) :: part e.second)
  | .strongThenEm => strong (part e.first ++ [em (part e.second)])

/-- Reads marks at a place by each reading in turn, each after what the one before took. -/
def takeAll (element : List Reading → Nesting → Emphasised → Draft) :
    Option Piece → List Reading → Marked → List Draft × Marked
  | _, [], m => ([], m)
  | before, reading :: later, m =>
    match reading.at? before m with
    | none => takeAll element before later m
    | some e =>
      let last := (m.take (m.length - e.rest.length)).getLast?
      let next := takeAll element last later e.rest
      (element later reading.nesting e :: next.1, next.2)

/-- Text characters in front of drafts. -/
def consText (p : Piece) : List Draft → List Draft
  | .text m :: rest => .text (p :: m) :: rest
  | rest => .text [p] :: rest

/-- Reads the emphasis inside an emphasised text; only later readings nest in it. -/
def parts (mark : Char) : Nat → List Reading → Option Piece → Marked → List Draft
  | _, _, _, [] => []
  | 0, _, _, m => [.text m]
  | fuel + 1, readings, before, p :: m =>
    let found : List Draft × Marked :=
      if p.isChar mark then
        takeAll (fun later nesting e => element nesting (parts mark fuel later none) e)
          before readings (p :: m)
      else ([], m)
    if found.1.isEmpty then consText p (parts mark fuel readings (some p) m)
    else found.1 ++ parts mark fuel readings
      ((p :: m).take ((p :: m).length - found.2.length)).getLast? found.2

/-- The first reading of a place, with the later ones left for its parts. -/
def firstReading? (before : Option Piece) (here : Marked) :
    List Reading → Option (Nesting × List Reading × Emphasised)
  | [] => none
  | reading :: later =>
    match reading.at? before here with
    | some e => some (reading.nesting, later, e)
    | none => firstReading? before here later

/-- The emphasis that starts at a place. -/
def rule (flavour : Flavour) : Rule := fun before here =>
  if (here.head?.map (Piece.isChar flavour.mark)).getD false then
    match firstReading? before.head? here flavour.readings with
    | some (nesting, later, e) =>
      .put [element nesting (parts flavour.mark here.length later none) e] e.rest
    | none => .nothing
  else .nothing

end Emphasis

end FieldTemplate.Markdown
