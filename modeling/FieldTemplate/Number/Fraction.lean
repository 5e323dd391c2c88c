import FieldTemplate.Text.Basic

/-!
# Fractions

A quotient of integers in lowest terms, with a denominator that is not zero.
-/

namespace FieldTemplate

set_option autoImplicit false

/-- The zero is named here, so that no further structure on the numbers is looked for. -/
abbrev IsDenominator (den : Nat) : Prop := @NeZero Nat Zero.ofOfNat0 den

structure Fraction where
  num : Int
  den : Nat
  [den_ne_zero : IsDenominator den]
deriving DecidableEq, Repr

namespace Fraction

/-- The fraction in lowest terms; `none` if the denominator is zero. -/
def of? (num : Int) (den : Nat) : Option Fraction :=
  if h : den = 0 then none
  else
    let g := Nat.gcd num.natAbs den
    have den_pos : 0 < den := Nat.pos_of_ne_zero h
    have g_pos : 0 < g := Nat.gcd_pos_of_pos_right _ den_pos
    have : IsDenominator (den / g) :=
      ⟨Nat.ne_of_gt (Nat.div_pos (Nat.gcd_le_right _ den_pos) g_pos)⟩
    some ⟨num / g, den / g⟩

/-- A whole number shows no denominator. -/
def toText (q : Fraction) : Text :=
  if q.den = 1 then Text.ofInt q.num else Text.ofInt q.num ++ '/' :: Text.ofNat q.den

end Fraction

end FieldTemplate
