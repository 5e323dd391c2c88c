import FieldTemplate.Text.Utf8

/-!
# The characters of a YAML text

A text is bytes in UTF-8 or, behind a byte order mark, in UTF-16, or characters that were
decoded before.  Either way only printable characters are let in.  `Cursor` walks through
them and knows line and column; past the end it sees the null character, which no text
holds.
-/

namespace FieldTemplate.Yaml

set_option autoImplicit false

/-- Characters that may stand in a YAML text. -/
def isPrintable (c : Char) : Bool :=
  let n := c.toNat
  n == 0x09 || n == 0x0A || n == 0x0D || (0x20 ≤ n && n ≤ 0x7E) || n == 0x85 ||
    (0xA0 ≤ n && n ≤ 0xD7FF) || (0xE000 ≤ n && n ≤ 0xFFFD) || 0x10000 ≤ n

/-- The text of UTF-16 code units. -/
def ofUnits : List Nat → Option Text
  | [] => some []
  | u :: rest =>
    if 0xD800 ≤ u ∧ u ≤ 0xDBFF then
      match rest with
      | v :: rest =>
        if 0xDC00 ≤ v ∧ v ≤ 0xDFFF then
          (ofUnits rest).map (Char.ofNat (0x10000 + (u - 0xD800) * 0x400 + (v - 0xDC00)) :: ·)
        else none
      | [] => none
    else if 0xDC00 ≤ u ∧ u ≤ 0xDFFF then none
    else (ofUnits rest).map (Char.ofNat u :: ·)

/-- Pairs of bytes as code units; `none` if a byte is left over. -/
def unitsOf (littleEndian : Bool) : List UInt8 → Option (List Nat)
  | [] => some []
  | [_] => none
  | a :: b :: rest =>
    let u := if littleEndian then a.toNat + 256 * b.toNat else 256 * a.toNat + b.toNat
    (unitsOf littleEndian rest).map (u :: ·)

/-- The characters of a YAML text; a byte order mark stays in front of them. -/
def decode (bs : List UInt8) : Option Text :=
  match bs with
  | 0xFF :: 0xFE :: _ => (unitsOf true bs).bind ofUnits
  | 0xFE :: 0xFF :: _ => (unitsOf false bs).bind ofUnits
  | _ => (Utf8.decode bs).toOption

/-- What is left of a text, and where it stands. -/
structure Cursor where
  rest : Text
  index : Nat
  line : Nat
  column : Nat

def isBreak (c : Char) : Bool :=
  c == '\n' || c == '\r' || c == '\u0085' || c == '\u2028' || c == '\u2029'

def endMark : Char := '\x00'

def isBreakOrEnd (c : Char) : Bool := c == endMark || isBreak c

def isSpaceOrEnd (c : Char) : Bool := c == ' ' || isBreakOrEnd c

def isBlankOrEnd (c : Char) : Bool := c == '\t' || isSpaceOrEnd c

def byteOrderMark : Char := '\uFEFF'

namespace Cursor

def start (s : Text) : Cursor := ⟨s, 0, 0, 0⟩

/-- The character `k` places ahead. -/
def peek (p : Cursor) (k : Nat) : Char := (p.rest.drop k).headD endMark

def head (p : Cursor) : Char := p.rest.headD endMark

/-- One character on.  A carriage return before a newline does not yet end the line. -/
def next (p : Cursor) : Cursor :=
  match p.rest with
  | [] => p
  | c :: rest =>
    if isBreak c && !(c == '\r' && rest.head? == some '\n') then
      ⟨rest, p.index + 1, p.line + 1, 0⟩
    else if c = byteOrderMark then ⟨rest, p.index + 1, p.line, p.column⟩
    else ⟨rest, p.index + 1, p.line, p.column + 1⟩

def skip (p : Cursor) : Nat → Cursor
  | 0 => p
  | n + 1 => p.next.skip n

/-- The initial characters of a class, and the cursor behind them. -/
def takeWhile (p : Cursor) (isIn : Char → Bool) : Text × Cursor :=
  let s := p.rest.takeWhile isIn
  (s, p.skip s.length)

def skipWhile (p : Cursor) (isIn : Char → Bool) : Cursor := (p.takeWhile isIn).2

/-- Whether the given characters come next. -/
def sees (p : Cursor) (s : Text) : Bool := s.isPrefixOf p.rest

/-- A line break as it counts in a scalar: the two separators as they are, all others as a
newline, and nothing where there is no line break. -/
def lineBreak (p : Cursor) : Text × Cursor :=
  let c := p.head
  if c = '\r' ∧ p.peek 1 = '\n' then (['\n'], p.skip 2)
  else if c = '\r' ∨ c = '\n' ∨ c = '\u0085' then (['\n'], p.next)
  else if c = '\u2028' ∨ c = '\u2029' then ([c], p.next)
  else ([], p)

/-- Whether a document marker of the three given characters comes next. -/
def seesMarker (p : Cursor) (marker : Text) : Bool := p.sees marker && isBlankOrEnd (p.peek 3)

def documentStart : Text := ['-', '-', '-']
def documentEnd : Text := ['.', '.', '.']

def seesDocumentMarker (p : Cursor) : Bool :=
  p.seesMarker documentStart || p.seesMarker documentEnd

/-- More steps than there are characters left. -/
def fuel (p : Cursor) : Nat := p.rest.length + 1

end Cursor

end FieldTemplate.Yaml
