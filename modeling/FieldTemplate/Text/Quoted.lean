import FieldTemplate.Text.Wide
import FieldTemplate.Unicode.Printable

/-!
# Quoted texts

A text as messages and tables show it: between quotes, on one line, with an escape for
every character that does not print.  Single quotes are used unless the text holds a single
quote and no double one.
-/

namespace FieldTemplate

set_option autoImplicit false

namespace Text

def hexDigits (width n : Nat) : Text := padLeft width '0' (Nat.toDigits 16 n)

/-- The escape of a character by its code point: two, four or eight hexadecimal digits. -/
def codeEscape (c : Char) : Text :=
  let n := c.toNat
  if n ≤ 0xFF then '\\' :: 'x' :: hexDigits 2 n
  else if n ≤ 0xFFFF then '\\' :: 'u' :: hexDigits 4 n
  else '\\' :: 'U' :: hexDigits 8 n

def quoteChar (quote c : Char) : Text :=
  if c = quote ∨ c = '\\' then ['\\', c]
  else if c = '\n' then ['\\', 'n']
  else if c = '\r' then ['\\', 'r']
  else if c = '\t' then ['\\', 't']
  else if Unicode.printable.has c then [c]
  else codeEscape c

/-- The quoted form of a text. -/
def quoted (s : Text) : Text :=
  let quote := if s.contains '\'' && !s.contains '"' then '"' else '\''
  quote :: s.flatMap (quoteChar quote) ++ [quote]

end Text

namespace WideText

/-- A surrogate does not print. -/
def quotePoint (quote : Char) : CodePoint → Text
  | .char c => Text.quoteChar quote c
  | .surrogate n => '\\' :: 'u' :: Text.hexDigits 4 (CodePoint.firstSurrogate + n)

/-- The quoted form of a text. -/
def quoted (s : WideText) : Text :=
  let quote := if s.contains (.char '\'') && !s.contains (.char '"') then '"' else '\''
  quote :: s.flatMap (quotePoint quote) ++ [quote]

end WideText

end FieldTemplate
