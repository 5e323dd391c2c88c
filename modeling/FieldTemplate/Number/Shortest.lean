import FieldTemplate.Number.Binary64

/-!
# The shortest decimal that reads back

`shortest m e` is the decimal with the fewest digits among those that round to the double
`m * 2 ^ e`, and of those the nearest to it.  Where a double lies between two grid points of
the same number of digits, only these two can be the nearest, so no other is tried.
-/

namespace FieldTemplate.Binary64

set_option autoImplicit false

/-- The exponent of the first decimal digit of a positive quotient. -/
def log10Ratio (num den : Nat) : Int :=
  let d : Int := ((Text.ofNat num).length : Int) - (Text.ofNat den).length
  if den * Nat.pow 10 d.toNat ≤ num * Nat.pow 10 (-d).toNat then d else d - 1

/-- Whether `digits * 10 ^ exponent` rounds to the double `m * 2 ^ e`. -/
def readsBack (m : Nat) (e : Int) (digits : Nat) (exponent : Int) : Bool :=
  ofDecimal false digits exponent == .finite false m e

/-- The decimal of the given number of digits that reads back and lies nearest, if any does.
Of two at the same distance the one with the even last digit is taken. -/
def nearestOfLength? (m : Nat) (e : Int) (length : Nat) : Option (Nat × Int) :=
  let (num, den) := ratio m e
  let k := log10Ratio num den - ((length : Int) - 1)
  let num := num * Nat.pow 10 (-k).toNat
  let den := den * Nat.pow 10 k.toNat
  let low := num / den
  let rest := num % den
  let lowFirst := 2 * rest < den || (2 * rest == den && low % 2 == 0)
  let (first, second) := if lowFirst then (low, low + 1) else (low + 1, low)
  if readsBack m e first k then some (first, k)
  else if readsBack m e second k then some (second, k)
  else none

/-- Seventeen digits always read back. -/
def maxDigits : Nat := 17

/-- Digits without trailing zeros, and the exponent of the last one. -/
def stripZeros : Nat → Nat → Int → Nat × Int
  | 0, digits, exponent => (digits, exponent)
  | fuel + 1, digits, exponent =>
    if digits ≠ 0 ∧ digits % 10 = 0 then stripZeros fuel (digits / 10) (exponent + 1)
    else (digits, exponent)

/-- Digits and exponent of the shortest decimal of a positive double. -/
def shortest (m : Nat) (e : Int) : Nat × Int :=
  match (List.range maxDigits).findSome? fun i => nearestOfLength? m e (i + 1) with
  | some (digits, exponent) => stripZeros maxDigits digits exponent
  | none => (0, 0)

/-- How a decimal is laid out: positional notation for a first digit from ten to `low` up to
ten to `high`, the exponent form outside. -/
structure Layout where
  low : Int
  high : Int

/-- Positional from `0.0001` up to sixteen digits before the point. -/
def layout : Layout := ⟨-4, 15⟩

/-- A signed exponent of at least two digits. -/
def exponentText (k : Int) : Text :=
  (if k < 0 then '-' else '+') :: Text.padLeft 2 '0' (Text.ofNat k.natAbs)

/-- A positive decimal in positional notation, with at least one digit after the point. -/
def positional (digits : Nat) (exponent : Int) : Text :=
  let ds := Text.ofNat digits
  if 0 ≤ exponent then ds ++ List.replicate exponent.toNat '0' ++ ['.', '0']
  else
    let places := (-exponent).toNat
    let ds := Text.padLeft (places + 1) '0' ds
    ds.take (ds.length - places) ++ '.' :: ds.drop (ds.length - places)

/-- A positive decimal in exponent form: one digit before the point, which is left out where
nothing follows it. -/
def scientific (digits : Nat) (exponent : Int) : Text :=
  let ds := Text.ofNat digits
  let k := exponent + ((ds.length : Int) - 1)
  let mantissa := match ds with
    | d :: r :: rest => d :: '.' :: r :: rest
    | short => short
  mantissa ++ 'e' :: exponentText k

def magnitudeText (m : Nat) (e : Int) : Text :=
  if m = 0 then ['0', '.', '0']
  else
    let (digits, exponent) := shortest m e
    let first := exponent + (((Text.ofNat digits).length : Int) - 1)
    if layout.low ≤ first ∧ first ≤ layout.high then positional digits exponent
    else scientific digits exponent

/-- The shortest text of a double that reads back as the same double. -/
def toText : Binary64 → Text
  | .nan => "nan".toList
  | .infinite s => if s then "-inf".toList else "inf".toList
  | .finite s m e => if s then '-' :: magnitudeText m e else magnitudeText m e

end FieldTemplate.Binary64
