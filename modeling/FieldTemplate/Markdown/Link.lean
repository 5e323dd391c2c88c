import FieldTemplate.Markdown.Output
import FieldTemplate.Markdown.Reference
import FieldTemplate.Markdown.Span

/-!
# Links and images

`[text](target "title")` and `[text][name]` are links, and with an exclamation mark in front
images.  Brackets nest in the text, parentheses in the target, and a title that never closes
belongs to the target.
-/

namespace FieldTemplate.Markdown

set_option autoImplicit false

namespace Link

/-! ## The parts of a link -/

/-- The text up to the closing bracket, brackets nesting, and what follows it. -/
def bracketed? : Nat → Marked → Option (Marked × Marked)
  | _, [] => none
  | depth, p :: m =>
    if p.isChar ']' && depth == 0 then some ([], m)
    else
      let depth := if p.isChar ']' then depth - 1 else if p.isChar '[' then depth + 1 else depth
      (bracketed? depth m).map fun cut => (p :: cut.1, cut.2)

/-- The target and the title of a link, and what follows its closing parenthesis. -/
structure Destination where
  url : Marked
  title : Option Marked
  rest : Marked

/-- A quotation mark that may open a title: how many pieces stand up to and with it, and up to
and with the last one that may close it. -/
structure TitleMark where
  mark : Char
  opened : Nat
  closed : Option Nat

/-- The search for the end of a link, after so many pieces. -/
structure Search where
  position : Nat
  /-- Parentheses that are open. -/
  depth : Nat
  /-- Parentheses that are open if the title never closes. -/
  spare : Nat
  /-- Where the link ends if the title never closes, as far as a parenthesis shows it. -/
  fallback : Option Nat
  first : Option TitleMark
  second : Option TitleMark
  /-- The last piece that is no space. -/
  last : Option Piece

namespace Search

def start : Search := ⟨0, 1, 1, none, none, none, none⟩

/-- Whether a title mark was closed, by the last piece that is no space. -/
def justClosed (s : Search) (t : TitleMark) : Bool :=
  t.closed.isSome && (s.last.map (Piece.isChar t.mark)).getD false

/-- The title mark that was just closed. -/
def closing? (s : Search) : Option TitleMark :=
  (s.first.filter s.justClosed).or (s.second.filter s.justClosed)

def openParenthesis (s : Search) : Search :=
  if s.first.isNone then { s with depth := s.depth + 1 } else { s with spare := s.spare - 1 }

def closeParenthesis (s : Search) : Search :=
  if s.closing?.isSome then { s with depth := 0 }
  else if s.first.isNone then { s with depth := s.depth - 1 }
  else if s.spare = 0 then s
  else
    { s with
      spare := s.spare - 1
      fallback := if s.spare = 1 then some (s.position + 1) else s.fallback }

def quote (mark : Char) (s : Search) : Search :=
  let opened : TitleMark := ⟨mark, s.position + 1, none⟩
  match s.first, s.second with
  | none, _ => { s with first := some opened, spare := s.depth, depth := 1 }
  | some t, none =>
    if t.mark = mark then { s with first := some { t with closed := some (s.position + 1) } }
    else { s with second := some opened }
  | some t, some u =>
    if t.mark = mark then { s with first := some { t with closed := some (s.position + 1) } }
    else { s with second := some { u with closed := some (s.position + 1) } }

/-- Moves past a piece. -/
def step (p : Piece) (s : Search) : Search :=
  let s :=
    if p.isChar '(' then s.openParenthesis
    else if p.isChar ')' then s.closeParenthesis
    else if p.isChar '\'' then s.quote '\''
    else if p.isChar '"' then s.quote '"'
    else s
  { s with position := s.position + 1 }

def remember (p : Piece) (s : Search) : Search :=
  if p.isChar ' ' then s else { s with last := some p }

end Search

/-- A link whose title never closes ends at the fallback, or else before the last piece. -/
def untitled (whole : Marked) (fallback : Option Nat) : Destination :=
  match fallback with
  | some last => ⟨whole.take (last - 1), none, whole.drop last⟩
  | none => ⟨whole.take (whole.length - 2), none, whole.drop (whole.length - 1)⟩

/-- Where the link that starts with `whole` ends. -/
def destinationFrom (whole : Marked) : Search → Marked → Option Destination
  | s, [] => if s.spare = 0 then some (untitled whole s.fallback) else none
  | s, p :: m =>
    let s := s.step p
    if s.depth = 0 then
      match s.closing? with
      | some t =>
        let closed := t.closed.getD 0
        some ⟨whole.take (t.opened - 1), some ((whole.take (closed - 1)).drop t.opened), m⟩
      | none => some ⟨whole.take (s.position - 1), none, m⟩
    else destinationFrom whole (s.remember p) m

/-- A title in quotation marks, and what follows it. -/
def quoted? : Marked → Option (Marked × Marked)
  | .char '"' :: m => Marked.cutAt '"' m
  | .char '\'' :: m => Marked.cutAt '\'' m
  | _ => none

/-- A destination whose target stands in angle brackets, after the parenthesis. -/
def angled? : Marked → Option Destination
  | .char '<' :: m =>
    match m.dropWhile fun p => !(p.isChar '<' || p.isChar '>') with
    | .char '>' :: rest =>
      let url := m.takeWhile fun p => !(p.isChar '<' || p.isChar '>')
      let rest := Marked.trimLeft rest
      match rest with
      | .char ')' :: after => some ⟨url, none, after⟩
      | _ =>
        (quoted? rest).bind fun title =>
          match Marked.trimLeft title.2 with
          | .char ')' :: after => some ⟨url, some title.1, after⟩
          | _ => none
    | _ => none
  | _ => none

/-- The destination of a link, from its parenthesis on. -/
def destination? : Marked → Option Destination
  | .char '(' :: m =>
    let m := Marked.trimLeft m
    match angled? m, m with
    | some d, _ => some d
    | none, .char ')' :: rest => some ⟨[], none, rest⟩
    | none, _ => destinationFrom m .start m
  | _ => none

/-- Takes one pair of quotation marks off a text. -/
def dequote (s : Text) : Text :=
  match s with
  | [] => []
  | c :: rest =>
    if (c == '"' || c == '\'') && s.getLast? == some c then rest.dropLast else s

namespace Destination

def urlText (d : Destination) : Text := Text.trim (Marked.plain d.url)

def titleText (d : Destination) : Option Text :=
  d.title.map fun title =>
    (dequote (Marked.plain (Marked.trim title))).map fun c => if Text.isBlank c then ' ' else c

end Destination

/-! ## The rules -/

/-- An attribute with its value as it is written. -/
def written (name : String) (value : Text) : Text × Text :=
  (name.toList, escapeAttribute value)

def titleAttribute (title : Option Text) : List (Text × Text) :=
  match title with
  | some title => [written "title" title]
  | none => []

def anchor (url : Text) (title : Option Text) (text : Marked) : Draft :=
  .element "a".toList (written "href" url :: titleAttribute title) [.text text]

def image (url : Text) (title : Option Text) (text : Marked) : Draft :=
  .element "img".toList
    (written "alt" (Marked.plain text) :: written "src" url :: titleAttribute title) []

/-- What follows the opening bracket of a link. -/
def linkOpening? (before here : Marked) : Option Marked :=
  if (before.head?.map (Piece.isChar '!')).getD false then none
  else Marked.dropText? ['['] here

/-- What follows the opening bracket of an image. -/
def imageOpening? (_before here : Marked) : Option Marked := Marked.dropText? ['!', '['] here

/-- Links or images with a destination of their own. -/
def inlineRule (opening? : Marked → Marked → Option Marked)
    (make : Text → Option Text → Marked → Draft) : Rule := fun before here =>
  let found := (opening? before here).bind fun m => (bracketed? 0 m).bind fun text =>
    (destination? text.2).map fun d => (text.1, d)
  match found with
  | some (text, d) => .put [make d.urlText d.titleText text] d.rest
  | none => .nothing

/-- The name in brackets after a link text, and what follows it. -/
def name? (m : Marked) : Option (Marked × Marked) :=
  let m := match m with
    | p :: rest => if p.isBlank then rest else p :: rest
    | [] => []
  (Marked.dropText? ['['] m).bind (Marked.cutAt ']')

/-- Blanks in a row count as one space in a name. -/
def collapse : Bool → Text → Text
  | _, [] => []
  | afterBlank, c :: s =>
    if Text.isBlank c then if afterBlank then collapse true s else ' ' :: collapse true s
    else c :: collapse false s

/-- Links or images whose destination stands elsewhere. -/
def referenceRule (references : References) (opening? : Marked → Marked → Option Marked)
    (named? : Marked × Marked → Option (Marked × Marked))
    (make : Text → Option Text → Marked → Draft) : Rule := fun before here =>
  let found := (opening? before here).bind fun m => (bracketed? 0 m).bind fun text =>
    (named? text).map fun name => (text.1, name.1, name.2)
  match found with
  | some (text, name, rest) =>
    let target := (Marked.chars? name).bind fun name =>
      references.lookup (collapse false (Text.lower name))
    match target with
    | some target => .put [make target.url target.title text] rest
    | none => .pass (here.length - rest.length)
  | none => .nothing

/-- The name after the text, or the text itself if that name is empty. -/
def fullName (text : Marked × Marked) : Option (Marked × Marked) :=
  (name? text.2).map fun name => (if name.1.isEmpty then text.1 else name.1, name.2)

/-- The text itself. -/
def shortName (text : Marked × Marked) : Option (Marked × Marked) := some text

/-- The rules for links and images in the order in which they apply. -/
def rules (references : References) : List Rule := [
  referenceRule references linkOpening? fullName anchor,
  inlineRule linkOpening? anchor,
  inlineRule imageOpening? image,
  referenceRule references imageOpening? fullName image,
  referenceRule references linkOpening? shortName anchor,
  referenceRule references imageOpening? shortName image]

end Link

end FieldTemplate.Markdown
