import FieldTemplate.Number.Decimal
import FieldTemplate.Unicode.DecimalDigit

/-!
# Reading numbers

The texts of doubles, decimals and integers in full: an optional sign, digits that may be
grouped by single underscores, a point and an exponent; or one of the words for an infinity
or for no number.
-/

namespace FieldTemplate

set_option autoImplicit false

namespace Text

/-- The initial digits and the rest. -/
def spanDigits (s : Text) : Text × Text := (s.takeWhile isDigit, s.dropWhile isDigit)

/-- A sign, if there is one: whether it is a minus, and the rest. -/
def cutSign : Text → Bool × Text
  | '-' :: rest => (true, rest)
  | '+' :: rest => (false, rest)
  | s => (false, s)

/-- Removes single underscores between two digits; `none` if one stands anywhere else. -/
def ungroup? (isDigit : Char → Bool) : Text → Option Text
  | [] => some []
  | '_' :: _ => none
  | c :: '_' :: d :: rest =>
    if isDigit c && isDigit d then (ungroup? isDigit (d :: rest)).map (c :: ·) else none
  | c :: rest => (ungroup? isDigit rest).map (c :: ·)

end Text

/-- An unsigned decimal numeral: its digits and the power of ten of the last one. -/
structure Numeral where
  digits : Text
  exponent : Int

namespace Numeral

/-- Digits, an optional point with digits on at least one side, an optional exponent. -/
def read? (s : Text) : Option Numeral :=
  let (before, rest) := Text.spanDigits s
  let (after, rest) := match rest with
    | '.' :: r => Text.spanDigits r
    | r => ([], r)
  let point : Int := after.length
  if before.isEmpty && after.isEmpty then none
  else match rest with
    | [] => some ⟨before ++ after, -point⟩
    | c :: r =>
      if c = 'e' ∨ c = 'E' then
        let (negative, ds) := Text.cutSign r
        if ds.isEmpty || !ds.all Text.isDigit then none
        else
          let k : Int := Text.toNat ds
          some ⟨before ++ after, (if negative then -k else k) - point⟩
      else none

end Numeral

/-- ASCII lower case. -/
def Text.asciiLower (s : Text) : Text := s.map Char.toLower

namespace Binary64

/-- Reads a double in the digits of any script; spaces around it are ignored. -/
def read? (s : Text) : Option Binary64 := do
  let s ← Text.ungroup? Text.isDigit (Text.numeral s)
  let (negative, body) := Text.cutSign s
  let word := Text.asciiLower body
  if word = "inf".toList ∨ word = "infinity".toList then return .infinite negative
  if word = "nan".toList then return .nan
  let numeral ← Numeral.read? body
  return ofDecimal negative (Text.toNat numeral.digits) numeral.exponent

end Binary64

namespace Decimal

/-- Reads a decimal in the digits of any script; blanks around it and underscores in it are
ignored. -/
def read? (s : Text) : Option Decimal := do
  let s := ((Text.trim s).filter (· ≠ '_')).map Text.numeralChar
  let (negative, body) := Text.cutSign s
  let word := Text.asciiLower body
  if word = "inf".toList ∨ word = "infinity".toList then return .infinite negative
  if let some payload := Text.dropStart? "nan".toList word then
    if payload.all Text.isDigit then return .nan negative false (Text.toNat payload)
  if let some payload := Text.dropStart? "snan".toList word then
    if payload.all Text.isDigit then return .nan negative true (Text.toNat payload)
  let numeral ← Numeral.read? body
  return .finite negative (Text.toNat numeral.digits) numeral.exponent

end Decimal

end FieldTemplate
