import FieldTemplate.Yaml.Token.Basic

/-!
# Plain scalars

A plain scalar ends before a colon that a blank follows, before a comment, before a line
that is not indented far enough and, within brackets, before a bracket, a comma or a
question mark.  Single line breaks are folded.
-/

namespace FieldTemplate.Yaml.Plain

set_option autoImplicit false

def isFlowIndicator (c : Char) : Bool :=
  c == ',' || c == '[' || c == ']' || c == '{' || c == '}'

/-- Whether a plain scalar may start here. -/
def starts (flow : Bool) (p : Cursor) : Bool :=
  let c := p.head
  let indicator := c == '-' || c == '?' || c == ':' || isFlowIndicator c || c == '#' || c == '&' ||
    c == '*' || c == '!' || c == '|' || c == '>' || c == '\'' || c == '"' || c == '%' || c == '@' ||
    c == '\u0060'
  !(isBlankOrEnd c || indicator) ||
    (!isBlankOrEnd (p.peek 1) && (c == '-' || (!flow && (c == '?' || c == ':'))))

/-- The characters up to a blank or an indicator that ends the scalar. -/
def word (flow : Bool) : Text → Text
  | [] => []
  | c :: rest =>
    let after := rest.headD endMark
    let colonEnds := c == ':' && (isBlankOrEnd after || (flow && isFlowIndicator after))
    if isBlankOrEnd c || colonEnds || (flow && (isFlowIndicator c || c == '?')) then []
    else c :: word flow rest

/-- Line breaks and indentation after the first line break; `none` at a document marker. -/
def breaks : Nat → Cursor → Option Text × Cursor
  | 0, p => (some [], p)
  | fuel + 1, p =>
    if p.head = ' ' then breaks fuel p.next
    else if isBreak p.head then
      let (s, p) := p.lineBreak
      if p.seesDocumentMarker then (none, p)
      else
        let (more, p) := breaks fuel p
        (more.map (s ++ ·), p)
    else (some [], p)

/-- The blanks between two words as they count in the scalar; nothing means that the scalar ends.
Also tells whether a line break was passed. -/
def spaces (p : Cursor) : Text × Bool × Cursor :=
  let (blanks, p) := p.takeWhile (· == ' ')
  if isBreak p.head then
    let (first, p) := p.lineBreak
    if p.seesDocumentMarker then ([], true, p)
    else match breaks p.fuel p with
      | (none, p) => ([], true, p)
      | (some more, p) =>
        let folded := if first ≠ ['\n'] then first else if more.isEmpty then [' '] else []
        (folded ++ more, true, p)
  else (blanks, false, p)

/-- The words of a scalar from here on, with the given blanks before the first one.  Tells
whether the last blanks passed a line break. -/
def words (flow : Bool) (indent : Int) : Nat → Text → Bool → Cursor → Text × Bool × Cursor
  | 0, _, broken, p => ([], broken, p)
  | fuel + 1, before, broken, p =>
    if p.head = '#' then ([], broken, p)
    else
      let w := word flow p.rest
      if w.isEmpty then ([], broken, p)
      else
        let (gap, broken, q) := spaces (p.skip w.length)
        if gap.isEmpty || q.head == '#' || (!flow && (q.column : Int) < indent) then
          (before ++ w, broken, q)
        else
          let (more, broken, q) := words flow indent fuel gap broken q
          (before ++ w ++ more, broken, q)

/-- A plain scalar; tells whether a line break was passed behind it, so that a key may follow. -/
def scalar (flow : Bool) (indent : Int) (p : Cursor) : Token × Bool × Cursor :=
  let (s, broken, p) := words flow indent p.fuel [] false p
  (.scalar s.wide true, broken, p)

end FieldTemplate.Yaml.Plain
