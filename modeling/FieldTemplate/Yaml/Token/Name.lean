import FieldTemplate.Yaml.Token.Basic

/-!
# Names in YAML: directives, anchors, aliases and tags
-/

namespace FieldTemplate.Yaml.Name

set_option autoImplicit false

def isWordChar (c : Char) : Bool :=
  Text.isDigit c || ('A' ≤ c && c ≤ 'Z') || ('a' ≤ c && c ≤ 'z') || c == '-' || c == '_'

/-- A word of at least one character. -/
def word (p : Cursor) : Read Text :=
  let (s, p) := p.takeWhile isWordChar
  if s.isEmpty then .error .malformed else .ok (s, p)

/-! ## Anchors and aliases -/

/-- What may follow an anchor or an alias. -/
def endsAnchor (c : Char) : Bool :=
  isBlankOrEnd c || c == '?' || c == ':' || c == ',' || c == ']' || c == '}' || c == '%' ||
    c == '@' || c == '\u0060'

/-- The name after the indicator of an anchor or an alias. -/
def anchor (p : Cursor) : Read Text :=
  match word p.next with
  | .error e => .error e
  | .ok (s, p) => if endsAnchor p.head then .ok (s, p) else .error .malformed

/-! ## Tags -/

def isUriChar (c : Char) : Bool :=
  isWordChar c || c == ';' || c == '/' || c == '?' || c == ':' || c == '@' || c == '&' ||
    c == '=' || c == '+' || c == '$' || c == ',' || c == '.' || c == '!' || c == '~' ||
    c == '*' || c == '\'' || c == '(' || c == ')' || c == '[' || c == ']'

/-- The bytes of a run of percent escapes, if all of them are complete. -/
def escapedBytes : Nat → Cursor → Option (List UInt8 × Cursor)
  | 0, p => some ([], p)
  | fuel + 1, p =>
    if p.head ≠ '%' then some ([], p)
    else
      let a := p.peek 1
      let b := p.peek 2
      if Text.isHexDigit a && Text.isHexDigit b then
        (escapedBytes fuel (p.skip 3)).map fun (bs, p) =>
          ((16 * Text.hexValue a + Text.hexValue b).toUInt8 :: bs, p)
      else none

/-- The characters of a URI; a run of percent escapes must be well-formed UTF-8. -/
def uriChars : Nat → Cursor → Read Text
  | 0, p => .ok ([], p)
  | fuel + 1, p =>
    let (run, p) := p.takeWhile isUriChar
    if p.head ≠ '%' then .ok (run, p)
    else match escapedBytes p.fuel p with
      | none => .error .malformed
      | some (bs, p) =>
        match Utf8.decode bs with
        | .error _ => .error .malformed
        | .ok s => (uriChars fuel p).map fun (more, p) => (run ++ s ++ more, p)

def uri (p : Cursor) : Read Text :=
  let seen := isUriChar p.head || p.head == '%'
  if seen then uriChars p.fuel p else .error .malformed

/-- A tag handle: one exclamation mark, or a word between two. -/
def handle (p : Cursor) : Read Text :=
  if p.head ≠ '!' then .error .malformed
  else if p.peek 1 = ' ' then .ok (['!'], p.next)
  else
    let (s, q) := p.next.takeWhile isWordChar
    if q.head = '!' then .ok ('!' :: s ++ ['!'], q.next) else .error .malformed

/-- Whether a second exclamation mark follows before the next blank. -/
def hasHandle (s : Text) : Bool :=
  (s.takeWhile fun c => !isSpaceOrEnd c).contains '!'

/-- A tag at its exclamation mark. -/
def tag (p : Cursor) : Read TagName :=
  let finish (r : Read TagName) : Read TagName :=
    match r with
    | .error e => .error e
    | .ok (t, p) => if isSpaceOrEnd p.head then .ok (t, p) else .error .malformed
  let c := p.peek 1
  if c = '<' then
    finish <| match uri (p.skip 2) with
      | .error e => .error e
      | .ok (s, p) => if p.head = '>' then .ok (⟨none, s⟩, p.next) else .error .malformed
  else if isBlankOrEnd c then finish (.ok (⟨none, ['!']⟩, p.next))
  else
    let start : Read Text := if hasHandle (p.rest.drop 1) then handle p else .ok (['!'], p.next)
    finish <| match start with
      | .error e => .error e
      | .ok (h, p) => (uri p).map fun (s, p) => (⟨some h, s⟩, p)

/-! ## Directives -/

def number (p : Cursor) : Read Nat :=
  let (ds, p) := p.takeWhile Text.isDigit
  if ds.isEmpty then .error .malformed
  else if Text.digitLimit < ds.length then .error (.integerLength ds.length)
  else .ok (Text.toNat ds, p)

def skipSpaces (p : Cursor) : Cursor := p.skipWhile (· == ' ')

def version (p : Cursor) : Read Directive :=
  match number (skipSpaces p) with
  | .error e => .error e
  | .ok (major, p) =>
    if p.head ≠ '.' then .error .malformed
    else match number p.next with
      | .error e => .error e
      | .ok (minor, p) =>
        if isSpaceOrEnd p.head then .ok (.version major minor, p) else .error .malformed

def tagDirective (p : Cursor) : Read Directive :=
  match handle (skipSpaces p) with
  | .error e => .error e
  | .ok (h, p) =>
    if p.head ≠ ' ' then .error .malformed
    else match uri (skipSpaces p) with
      | .error e => .error e
      | .ok (s, p) => if isSpaceOrEnd p.head then .ok (.tag h s, p) else .error .malformed

/-- A comment may follow a directive on its line. -/
def lineEnd (d : Directive) (p : Cursor) : Read Directive :=
  let p := skipSpaces p
  let p := if p.head = '#' then p.skipWhile fun c => !isBreakOrEnd c else p
  if isBreakOrEnd p.head then .ok (d, p.lineBreak.2) else .error .malformed

/-- A directive at its percent sign.  Only two names are known; others are passed over. -/
def directive (p : Cursor) : Read Directive :=
  match word p.next with
  | .error e => .error e
  | .ok (name, p) =>
    if !isSpaceOrEnd p.head then .error .malformed
    else
      let body : Read Directive :=
        if name = "YAML".toList then version p
        else if name = "TAG".toList then tagDirective p
        else .ok (.other, p.skipWhile fun c => !isBreakOrEnd c)
      match body with
      | .error e => .error e
      | .ok (d, p) => lineEnd d p

end FieldTemplate.Yaml.Name
