import FieldTemplate.Format.Entity
import FieldTemplate.Markdown.Emphasis
import FieldTemplate.Markdown.Link

/-!
# Text inside blocks

The rules other than links and emphasis, and the order in which all rules apply: code spans
come first, so that nothing inside them is read, and emphasis last.
-/

namespace FieldTemplate.Markdown

set_option autoImplicit false

namespace Inline

def startsWithChar (p : Char → Bool) (m : Marked) : Bool :=
  (m.head?.map (Piece.satisfies p)).getD false

/-! ## Code and escapes -/

/-- The text of a code span as finished HTML. -/
def codeText (m : Marked) : Marked :=
  m.trim.map fun
    | .char c => .raw (escapeCode [c])
    | p => p

/-- The shortest text before a run of exactly `n` backticks. -/
def codeUpTo? (n : Nat) (m : Marked) : Option (Marked × Marked) :=
  m.findCut? fun last rest =>
    if !last.isChar '\u0060' && (Marked.run '\u0060' rest).1 = n then some (rest.drop n) else none

/-- The span that opens with the most backticks, at most `n`. -/
def codeSpan? (here : Marked) : Nat → Option (Marked × Marked)
  | 0 => none
  | n + 1 => (codeUpTo? (n + 1) (here.drop (n + 1))).or (codeSpan? here n)

/-- Code between backticks; backslashes before a backtick stand for themselves in pairs. -/
def code : Rule := fun before here =>
  if (before.head?.map (Piece.isChar '\\')).getD false then .nothing
  else
    let slashes := Marked.run '\\' here
    if slashes.1 ≠ 0 then
      if slashes.1 % 2 = 0 && startsWithChar (· == '\u0060') slashes.2 then
        .put (List.replicate (slashes.1 / 2) (.finished (.literal '\\'))) slashes.2
      else .nothing
    else
      match codeSpan? here (Marked.run '\u0060' here).1 with
      | some (inner, rest) =>
        .put [.element "code".toList [] ((codeText inner).map .finished)] rest
      | none => .nothing

/-- Characters that a backslash makes literal. -/
def isEscapable (c : Char) : Bool := "\\\u0060*_\x7b\x7d[]()>#+-.!".toList.contains c

def escape : Rule := fun _ here =>
  match here with
  | p :: .char c :: rest =>
    if p.isChar '\\' then
      if isEscapable c then .put [.finished (.literal c)] rest else .pass 2
    else .nothing
  | p :: _ :: _ => if p.isChar '\\' then .pass 2 else .nothing
  | _ => .nothing

/-! ## Addresses in angle brackets -/

/-- The text between angle brackets, and what follows them. -/
def angled? (here : Marked) : Option (Marked × Marked) :=
  (Marked.dropText? ['<'] here).bind fun m =>
    let inner := m.takeWhile fun p => !(p.isChar '<' || p.isChar '>')
    (Marked.dropText? ['>'] (m.drop inner.length)).map (inner, ·)

/-- Characters that no later rule looks at. -/
def fixed (m : Marked) : Marked :=
  m.map fun
    | .char c => .literal c
    | p => p

/-- Whether a text starts with a scheme of the web or of file transfer. -/
def hasScheme (m : Marked) : Bool :=
  let start := Text.lowerAscii (Marked.plain ((m.take 8).takeWhile fun p => p.char?.isSome))
  ["http://", "https://", "ftp://", "ftps://"].any fun s => Text.startsWith s.toList start

def autolink : Rule := fun _ here =>
  match angled? here with
  | some (inner, rest) =>
    if hasScheme inner then
      .put [.element "a".toList [Link.written "href" (Marked.plain inner)]
        ((fixed inner).map .finished)] rest
    else .nothing
  | none => .nothing

/-- Whether a text has the form of a mail address. -/
def isMailAddress (m : Marked) : Bool :=
  let domain := (m.reverse.takeWhile fun p => !p.isChar '@').reverse
  let user := m.take (m.length - domain.length - 1)
  !domain.isEmpty && !user.isEmpty && domain.length < m.length &&
    !m.any (Piece.isChar ' ') && !user.any (Piece.isChar '!')

/-- A mail address is written in character references. -/
def automail : Rule := fun _ here =>
  match angled? here with
  | some (inner, rest) =>
    if isMailAddress inner then
      let address := Marked.plain inner
      let scheme := "mailto:".toList
      let address := (Text.dropStart? scheme address).getD address
      .put [.element "a".toList
        [("href".toList, (scheme ++ address).flatMap Html.numericReference)]
        [.finished (.raw (address.flatMap Html.reference))]] rest
    else .nothing
  | none => .nothing

/-! ## Line breaks, tags and references -/

def lineBreak : Rule := fun _ here =>
  match Marked.dropText? [' ', ' ', '\n'] here with
  | some rest => .put [.element "br".toList [] []] rest
  | none => .nothing

/-- The source of pieces inside a tag: elements as they are shown, and a backslash before
other finished pieces. -/
def tagText (m : Marked) : Text :=
  m.flatMap fun
    | .char c => [c]
    | .literal c => ['\\', c]
    | .raw html => '\\' :: html
    | p => p.render

/-- The length of the text up to the end of a comment in which no other one starts. -/
def commentBody? : Marked → Option Nat
  | [] => none
  | p :: m =>
    if (Marked.dropText? "-->".toList (p :: m)).isSome then some 0
    else if (Marked.dropText? "<!--".toList (p :: m)).isSome then none
    else (commentBody? m).map (· + 1)

/-- The length of a comment without its angle brackets. -/
def comment? (m : Marked) : Option Nat :=
  (Marked.dropText? "!--".toList m).bind fun rest => (commentBody? rest).map (· + 5)

/-- The length of a tag without its angle brackets. -/
def tag? (m : Marked) : Option Nat :=
  let name := (Marked.dropText? ['/'] m).getD m
  if startsWithChar Char.isAlpha name then
    let isInner (p : Piece) : Bool := !(p.isChar '<' || p.isChar '>')
    let isName (p : Piece) : Bool := isInner p && !(p.isChar '@' || p.isChar ' ')
    let rest := name.dropWhile isName
    let rest := if startsWithChar (· == ' ') rest then rest.dropWhile isInner else rest
    if startsWithChar (· == '>') rest then some (m.length - rest.length) else none
  else none

def html : Rule := fun _ here =>
  match Marked.dropText? ['<'] here with
  | none => .nothing
  | some m =>
    match (tag? m).or (comment? m) with
    | some length =>
      .put [.finished (.raw ('<' :: tagText (m.take length) ++ ['>']))] (m.drop (length + 1))
    | none => .nothing

def entity : Rule := fun _ here =>
  match here with
  | .char '&' :: m =>
    let isPart (p : Piece) : Bool := p.satisfies fun c => c.isAlphanum || c == '#'
    let name := Marked.plain (m.takeWhile isPart)
    match m.dropWhile isPart with
    | .char ';' :: rest =>
      let isReference :=
        match name with
        | '#' :: 'x' :: digits => !digits.isEmpty && digits.all Text.isHexDigit
        | '#' :: digits => !digits.isEmpty && digits.all Text.isDigit
        | _ => !name.isEmpty && name.all Char.isAlphanum
      if isReference then .put [.finished (.raw ('&' :: name ++ [';']))] rest else .nothing
    | _ => .nothing
  | _ => .nothing

/-- At most three marks of emphasis that stand alone are no marks. -/
def loneMarks : Rule := fun before here =>
  let isBoundary (m : Marked) : Bool := (m.head?.map Piece.isBlank).getD true
  match here with
  | .char c :: _ =>
    let run := Marked.run c here
    if (c == '*' || c == '_') && isBoundary before && run.1 ≤ 3 && isBoundary run.2 then
      .put ((List.replicate run.1 (.finished (.literal c)))) run.2
    else .nothing
  | _ => .nothing

/-- All rules in the order in which they apply. -/
def rules (references : References) : List Rule :=
  [code, escape] ++ Link.rules references ++
    [autolink, automail, lineBreak, html, entity, loneMarks,
      Emphasis.rule .asterisk, Emphasis.rule .underscore]

end Inline

/-- The text of a block as finished pieces; among other blocks it is read twice as a whole. -/
def Marked.finish (references : References) (amongBlocks : Bool) (m : Marked) : Marked :=
  let read := inline (Inline.rules references)
  settleBreaksAll (Marked.reread read (m.length + 1) amongBlocks (read m))

end FieldTemplate.Markdown
