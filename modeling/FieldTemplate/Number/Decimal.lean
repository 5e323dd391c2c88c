import FieldTemplate.Number.Binary64

/-!
# Decimals with a significand and an exponent

`reduce` rounds to 28 significant digits, a half to the even digit, and drops trailing
zeros; `plain` writes a finite decimal without an exponent.  A decimal whose first digit
would stand beyond ten to the power 999999 cannot be reduced.
-/

namespace FieldTemplate

set_option autoImplicit false

/-- `finite negative c e` is `c * 10 ^ e`, negated if so marked. -/
inductive Decimal where
  | finite (negative : Bool) (coefficient : Nat) (exponent : Int)
  | infinite (negative : Bool)
  | nan (negative signaling : Bool) (payload : Nat)
deriving DecidableEq, Repr

namespace Decimal

def precision : Nat := 28
def maxAdjusted : Int := 999999
def minAdjusted : Int := -999999

/-- The least exponent of a result: the last digit of a full significand at `minAdjusted`. -/
def leastExponent : Int := minAdjusted - (precision - 1)

/-- The power of ten that the first digit stands for. -/
def adjusted (coefficient : Nat) (exponent : Int) : Int :=
  exponent + (((Text.ofNat coefficient).length : Int) - 1)

/-- The coefficient and exponent after rounding away the digits below `exponent + drop`.  With
more places dropped than there are digits, less than half a unit is left. -/
def dropDigits (coefficient : Nat) (exponent : Int) (drop : Nat) : Nat × Int :=
  if (Text.ofNat coefficient).length < drop then (0, exponent + drop)
  else (roundDiv coefficient (Nat.pow 10 drop), exponent + drop)

/-- Rounds to the precision, and to the least exponent if the number is that small.  `none` if
the first digit stands too high. -/
def round? (coefficient : Nat) (exponent : Int) : Option (Nat × Int) :=
  if coefficient = 0 then some (0, 0)
  else
    let width := (Text.ofNat coefficient).length
    let drop := max (width - precision) (leastExponent - exponent).toNat
    let (c, e) := dropDigits coefficient exponent drop
    let (c, e) := if c = Nat.pow 10 precision then (Nat.pow 10 (precision - 1), e + 1) else (c, e)
    if c ≠ 0 ∧ maxAdjusted < adjusted c e then none else some (c, e)

/-- Drops trailing zeros of a nonzero coefficient as long as the exponent may grow. -/
def stripZeros : Nat → Nat → Int → Nat × Int
  | 0, c, e => (c, e)
  | fuel + 1, c, e =>
    if c ≠ 0 ∧ c % 10 = 0 ∧ e < maxAdjusted then stripZeros fuel (c / 10) (e + 1) else (c, e)

/-- Coefficient and exponent, rounded and without trailing zeros; a zero has exponent zero. -/
def reduce? (coefficient : Nat) (exponent : Int) : Option (Nat × Int) :=
  (round? coefficient exponent).map fun (c, e) =>
    if c = 0 then (0, 0) else stripZeros precision c e

/-- The magnitude without exponent: digits, with a point only if the exponent is negative. -/
def plain (coefficient : Nat) (exponent : Int) : Text :=
  let ds := Text.ofNat coefficient
  if 0 ≤ exponent then ds ++ List.replicate exponent.toNat '0'
  else
    let places := (-exponent).toNat
    let ds := Text.padLeft (places + 1) '0' ds
    ds.take (ds.length - places) ++ '.' :: ds.drop (ds.length - places)

/-- The text that shows coefficient and exponent as they are: positional where the exponent is
not positive and the number is at least a millionth, else in exponent form. -/
def toText : Decimal → Text
  | .infinite s => if s then "-Infinity".toList else "Infinity".toList
  | .nan s signaling payload =>
    (if s then ['-'] else []) ++ (if signaling then "sNaN".toList else "NaN".toList) ++
      (if payload = 0 then [] else Text.ofNat payload)
  | .finite s c e =>
    let first := adjusted c e
    let body :=
      if e ≤ 0 ∧ -6 ≤ first then plain c e
      else
        let ds := Text.ofNat c
        let mantissa := match ds with
          | d :: r :: rest => d :: '.' :: r :: rest
          | short => short
        mantissa ++ 'E' :: (if first < 0 then '-' else '+') :: Text.ofNat first.natAbs
    if s then '-' :: body else body

end Decimal

end FieldTemplate
