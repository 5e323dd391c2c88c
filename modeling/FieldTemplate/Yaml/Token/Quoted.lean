import FieldTemplate.Yaml.Token.Basic

/-!
# Quoted scalars

Between single quotes only a doubled quote is special; between double quotes backslash
escapes are resolved and a backslash at the end of a line joins it to the next one.  An escape can
name a surrogate.  In both a single line break is folded to a space and of several the first is
dropped.
-/

namespace FieldTemplate.Yaml.Quoted

set_option autoImplicit false

/-- Escapes of one character. -/
def simpleEscape? : Char → Option Char
  | '0' => some '\x00'
  | 'a' => some '\x07'
  | 'b' => some '\x08'
  | 't' => some '\x09'
  | '\t' => some '\x09'
  | 'n' => some '\x0A'
  | 'v' => some '\x0B'
  | 'f' => some '\x0C'
  | 'r' => some '\x0D'
  | 'e' => some '\x1B'
  | ' ' => some ' '
  | '"' => some '"'
  | '\\' => some '\\'
  | '/' => some '/'
  | 'N' => some '\u0085'
  | '_' => some '\u00A0'
  | 'L' => some '\u2028'
  | 'P' => some '\u2029'
  | _ => none

/-- The number of hexadecimal digits after the letter of a numeric escape. -/
def codeLength? : Char → Option Nat
  | 'x' => some 2
  | 'u' => some 4
  | 'U' => some 8
  | _ => none

/-- Empty lines and indentation after a line break; a document marker must not follow. -/
def breaks : Nat → Cursor → Read Text
  | 0, p => .ok ([], p)
  | fuel + 1, p =>
    if p.seesDocumentMarker then .error .malformed
    else
      let p := p.skipWhile fun c => c == ' ' || c == '\t'
      if isBreak p.head then
        let (s, p) := p.lineBreak
        (breaks fuel p).map fun (more, p) => (s ++ more, p)
      else .ok ([], p)

/-- Blanks inside a scalar: kept within a line, folded around a line break. -/
def spaces (p : Cursor) : Read Text :=
  let (blanks, p) := p.takeWhile fun c => c == ' ' || c == '\t'
  if p.head = endMark then .error .malformed
  else if isBreak p.head then
    let (first, p) := p.lineBreak
    (breaks p.fuel p).map fun (more, p) =>
      let folded := if first ≠ ['\n'] then first else if more.isEmpty then [' '] else []
      (folded ++ more, p)
  else .ok (blanks, p)

def isOrdinary (c : Char) : Bool :=
  !(c == '\'' || c == '"' || c == '\\' || isBlankOrEnd c)

/-- An escape after its backslash. -/
def escape (p : Cursor) : Read WideText :=
  let c := p.head
  match simpleEscape? c with
  | some x => .ok ([.char x], p.next)
  | none =>
    match codeLength? c with
    | some n =>
      let p := p.next
      let ds := p.rest.take n
      if ds.length = n ∧ ds.all Text.isHexDigit then
        let code := ds.foldl (fun m d => 16 * m + Text.hexValue d) 0
        if code < 0x110000 then .ok ([.ofNat code], p.skip n)
        else .error (if code < 0x80000000 then .codePoint else .codeOverflow)
      else .error .malformed
    | none =>
      if isBreak c then (breaks p.fuel p.lineBreak.2).map fun (s, p) => (s.wide, p)
      else .error .malformed

/-- Characters other than blanks, up to a blank or the closing quote. -/
def nonSpaces (double : Bool) : Nat → Cursor → Read WideText
  | 0, p => .ok ([], p)
  | fuel + 1, p =>
    let (run, p) := p.takeWhile isOrdinary
    let c := p.head
    let andThen (s : WideText) (p : Cursor) : Read WideText :=
      (nonSpaces double fuel p).map fun (more, p) => (run.wide ++ s ++ more, p)
    if !double && c == '\'' && p.peek 1 == '\'' then andThen [.char '\''] (p.skip 2)
    else if (double && c == '\'') || (!double && (c == '"' || c == '\\')) then
      andThen [.char c] p.next
    else if double && c == '\\' then
      match escape p.next with
      | .error e => .error e
      | .ok (s, p) => andThen s p
    else .ok (run.wide, p)

/-- Runs of blanks and of other characters up to the closing quote. -/
def body (double : Bool) : Nat → Cursor → Read WideText
  | 0, _ => .error .malformed
  | fuel + 1, p =>
    match nonSpaces double p.fuel p with
    | .error e => .error e
    | .ok (s, p) =>
      if p.head = (if double then '"' else '\'') then .ok (s, p.next)
      else match spaces p with
        | .error e => .error e
        | .ok (t, p) => (body double fuel p).map fun (more, p) => (s ++ t.wide ++ more, p)

/-- A quoted scalar at its opening quote. -/
def scalar (p : Cursor) : Read Token :=
  (body (p.head == '"') p.fuel p.next).map fun (s, p) => (.scalar s false, p)

end FieldTemplate.Yaml.Quoted
