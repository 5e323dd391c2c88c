import FieldTemplate.Number.Fraction
import FieldTemplate.Number.Binary64
import Mathlib.Data.Int.Log
import Mathlib.Data.Rat.Floor
import Mathlib.Tactic.Linarith
import Mathlib.Tactic.Ring
import Mathlib.Tactic.Positivity
import Mathlib.Tactic.FieldSimp

/-!
# Rounding to the nearest

`roundDiv` gives the nearest integer to a quotient, a half going to the even one
(`roundDiv_eq_iff`).  A quotient is rounded to an infinity exactly from half a unit above the
greatest double on (`Binary64.ofRatio_eq_infinite_iff`).
-/

namespace FieldTemplate

set_option autoImplicit false

/-- **A half goes to the even integer**: a rounded quotient is beyond `k` if the quotient lies
more than half way to the next integer, or half way if `k` is odd. -/
theorem succ_le_roundDiv_iff (num k : Nat) {den : Nat} (pos : 0 < den) :
    k + 1 ≤ roundDiv num den ↔
      (2 * k + 1) * den < 2 * num ∨ ((2 * k + 1) * den = 2 * num ∧ k % 2 = 1) := by
  have parts := Nat.div_add_mod num den
  have small := Nat.mod_lt num pos
  simp only [roundDiv]
  generalize num / den = q at *
  generalize num % den = r at *
  subst parts
  -- the three places of `k`: where it is not the quotient, the multiples of `den` decide
  rcases Nat.lt_trichotomy k q with below | rfl | above
  · have : (k + 1) * den ≤ q * den := Nat.mul_le_mul_right den below
    have : (2 * k + 1) * den < 2 * (den * q + r) := by nlinarith
    split
    · omega
    · split <;> omega
  · have : (2 * k + 1) * den = 2 * (den * k) + den := by ring
    split
    · omega
    · split <;> omega
  · have : (q + 1) * den ≤ k * den := Nat.mul_le_mul_right den above
    have : 2 * (den * q + r) < (2 * k + 1) * den := by nlinarith
    split
    · omega
    · split <;> omega

/-- A quotient below an integer is not rounded beyond it. -/
theorem roundDiv_le {num den k : Nat} (pos : 0 < den) (le : num ≤ k * den) :
    roundDiv num den ≤ k := by
  by_contra above
  have beyond := (succ_le_roundDiv_iff num k pos).1 (Nat.lt_of_not_le above)
  have : (2 * k + 1) * den = 2 * (k * den) + den := by ring
  omega

/-- A quotient beyond an integer is not rounded below it. -/
theorem le_roundDiv {num den k : Nat} (pos : 0 < den) (le : k * den ≤ num) :
    k ≤ roundDiv num den := by
  cases k with
  | zero => exact Nat.zero_le _
  | succ k =>
      have : (2 * k + 1) * den + den = 2 * ((k + 1) * den) := by ring
      exact (succ_le_roundDiv_iff num k pos).2 (.inl (by omega))

theorem roundDiv_mul (r : Nat) {den : Nat} (pos : 0 < den) : roundDiv (r * den) den = r :=
  Nat.le_antisymm (roundDiv_le pos le_rfl) (le_roundDiv pos le_rfl)

@[simp] theorem roundDiv_one (num : Nat) : roundDiv num 1 = num := by
  simpa using roundDiv_mul num one_pos

/-! ## The nearest integer -/

/-- The nearest integer, and the even one of two that are equally near. -/
def IsNearest (x : ℚ) (r : Nat) : Prop :=
  |x - r| < 1 / 2 ∨ |x - r| = 1 / 2 ∧ r % 2 = 0

theorem IsNearest.distance_le {x : ℚ} {r : Nat} (nearest : IsNearest x r) : |x - r| ≤ 1 / 2 :=
  nearest.elim le_of_lt fun half => half.1.le

/-- What is nearest to a number at a finer place is so at a coarser one, if it has a place there. -/
theorem IsNearest.of_scaled {x : ℚ} {m k : Nat}
    (nearest : IsNearest (x * 10 ^ k) (m * 10 ^ k : Nat)) : IsNearest x m := by
  cases k with
  | zero => simpa using nearest
  | succ k =>
      left
      have scaled : |x - m| * 10 ^ (k + 1) ≤ 1 / 2 := by
        have near := nearest.distance_le
        push_cast at near
        rwa [← sub_mul, abs_mul, abs_of_pos (by positivity : (0 : ℚ) < 10 ^ (k + 1))] at near
      have large : (1 : ℚ) < 10 ^ (k + 1) := one_lt_pow₀ (by norm_num) k.succ_ne_zero
      nlinarith [abs_nonneg (x - m)]

/-- The comparison with the middle between two integers, as one of quotients. -/
theorem succ_le_roundDiv_iff_middle (num k : Nat) {den : Nat} (pos : 0 < den) :
    k + 1 ≤ roundDiv num den ↔
      (k + 1 / 2 : ℚ) < num / den ∨ (k + 1 / 2 : ℚ) = num / den ∧ k % 2 = 1 := by
  have den_pos : (0 : ℚ) < den := by exact_mod_cast pos
  have scaled : (k + 1 / 2 : ℚ) * den = ((2 * k + 1) * den : Nat) / 2 := by
    push_cast
    ring
  rw [succ_le_roundDiv_iff num k pos, lt_div_iff₀ den_pos, eq_div_iff den_pos.ne', scaled,
    div_lt_iff₀ two_pos, div_eq_iff two_ne_zero, mul_comm (num : ℚ)]
  norm_cast

theorem roundDiv_le_iff (num r : Nat) {den : Nat} (pos : 0 < den) :
    roundDiv num den ≤ r ↔
      (num / den : ℚ) < r + 1 / 2 ∨ (num / den : ℚ) = r + 1 / 2 ∧ r % 2 = 0 := by
  rw [← Nat.not_lt, Nat.lt_iff_add_one_le, succ_le_roundDiv_iff_middle num r pos]
  generalize (r + 1 / 2 : ℚ) = middle
  rcases lt_trichotomy (num / den : ℚ) middle with below | here | above
  · simp [below, below.ne', below.le]
  · simp [here]
  · simp [above, above.ne', above.le]

theorem le_roundDiv_iff (num r : Nat) {den : Nat} (pos : 0 < den) :
    r ≤ roundDiv num den ↔
      (r - 1 / 2 : ℚ) < num / den ∨ (r - 1 / 2 : ℚ) = num / den ∧ r % 2 = 0 := by
  cases r with
  | zero =>
      have nonneg : (0 : ℚ) ≤ num / den := by positivity
      refine iff_of_true (Nat.zero_le _) (.inl ?_)
      push_cast
      linarith
  | succ k =>
      have middle : ((k + 1 : Nat) - 1 / 2 : ℚ) = k + 1 / 2 := by
        push_cast
        ring
      have parity : (k + 1) % 2 = 0 ↔ k % 2 = 1 := by omega
      rw [succ_le_roundDiv_iff_middle num k pos, middle, parity]

/-- To be nearest is to be so from both sides. -/
theorem isNearest_iff (x : ℚ) (r : Nat) :
    IsNearest x r ↔ (x < r + 1 / 2 ∨ x = r + 1 / 2 ∧ r % 2 = 0) ∧
      (r - 1 / 2 < x ∨ r - 1 / 2 = x ∧ r % 2 = 0) := by
  constructor
  · rintro (near | ⟨half, even⟩)
    · obtain ⟨lower, upper⟩ := abs_lt.1 near
      exact ⟨.inl (by linarith), .inl (by linarith)⟩
    · rcases (abs_eq (by norm_num)).1 half with above | below
      · exact ⟨.inr ⟨by linarith, even⟩, .inl (by linarith)⟩
      · exact ⟨.inl (by linarith), .inr ⟨by linarith, even⟩⟩
  · rintro ⟨upper | ⟨above, even⟩, lower | ⟨below, even⟩⟩
    · exact .inl (abs_lt.2 ⟨by linarith, by linarith⟩)
    · exact .inr ⟨(abs_eq (by norm_num)).2 (.inr (by linarith)), even⟩
    · exact .inr ⟨(abs_eq (by norm_num)).2 (.inl (by linarith)), even⟩
    · linarith

/-- **A quotient is rounded to the nearest integer**, from a half to the even one. -/
theorem roundDiv_eq_iff (num r : Nat) {den : Nat} (pos : 0 < den) :
    roundDiv num den = r ↔ IsNearest (num / den) r := by
  rw [le_antisymm_iff, roundDiv_le_iff num r pos, le_roundDiv_iff num r pos, isNearest_iff]

/-! ## Doubles -/

namespace Binary64

theorem two_zpow_eq_div (k : Int) : (2 : ℚ) ^ k = 2 ^ k.toNat / 2 ^ (-k).toNat := by
  rw [← zpow_natCast, ← zpow_natCast, ← zpow_sub₀ two_ne_zero, Int.toNat_sub_toNat_neg]

/-- The comparison with a power of two that needs no fractions. -/
theorem two_zpow_le_div_iff (num : Nat) {den : Nat} (den_pos : 0 < den) (k : Int) :
    (2 : ℚ) ^ k ≤ num / den ↔ den * 2 ^ k.toNat ≤ num * 2 ^ (-k).toNat := by
  rw [two_zpow_eq_div, div_le_div_iff₀ (by positivity) (by exact_mod_cast den_pos)]
  rw [mul_comm]
  exact_mod_cast Iff.rfl

/-- The highest binary digit of a quotient is the whole part of its logarithm. -/
theorem log2Ratio_eq {num den : Nat} (num_pos : 0 < num) (den_pos : 0 < den) :
    log2Ratio num den = Int.log 2 ((num : ℚ) / den) := by
  have pos : (0 : ℚ) < num / den := by positivity
  have log_le (k : Int) : k ≤ Int.log 2 ((num : ℚ) / den) ↔ (2 : ℚ) ^ k ≤ num / den :=
    (Int.zpow_le_iff_le_log one_lt_two pos).symm
  have log_lt (k : Int) : Int.log 2 ((num : ℚ) / den) < k ↔ (num : ℚ) / den < 2 ^ k :=
    (Int.lt_zpow_iff_log_lt one_lt_two pos).symm
  -- the logarithms of the parts leave the quotient within two powers of the difference
  have num_ge : (2 : ℚ) ^ (num.log2 : Int) ≤ num := by
    exact_mod_cast Nat.log2_self_le num_pos.ne'
  have num_lt : (num : ℚ) < 2 ^ (num.log2 + 1 : Int) := by
    exact_mod_cast Nat.lt_log2_self (n := num)
  have den_ge : (2 : ℚ) ^ (den.log2 : Int) ≤ den := by
    exact_mod_cast Nat.log2_self_le den_pos.ne'
  have den_lt : (den : ℚ) < 2 ^ (den.log2 + 1 : Int) := by
    exact_mod_cast Nat.lt_log2_self (n := den)
  have below : (2 : ℚ) ^ ((num.log2 : Int) - den.log2 - 1) ≤ num / den := by
    rw [show (num.log2 : Int) - den.log2 - 1 = num.log2 - (den.log2 + 1) by ring,
      zpow_sub₀ two_ne_zero]
    gcongr
  have above : (num : ℚ) / den < 2 ^ ((num.log2 : Int) - den.log2 + 1) := by
    rw [show (num.log2 : Int) - den.log2 + 1 = (num.log2 + 1) - den.log2 by ring,
      zpow_sub₀ two_ne_zero]
    exact div_lt_div₀ num_lt den_ge (zpow_nonneg two_pos.le _) (zpow_pos two_pos _)
  rw [← log_le] at below
  rw [← log_lt] at above
  simp only [log2Ratio]
  split
  · next fits =>
    have := (log_le _).2 ((two_zpow_le_div_iff num den_pos _).2 fits)
    omega
  · next misses =>
    have := (log_le _).not.2 ((two_zpow_le_div_iff num den_pos _).not.2 misses)
    omega

theorem natCast_le_log2Ratio_iff {num den : Nat} (num_pos : 0 < num) (den_pos : 0 < den)
    (k : Nat) : (k : Int) ≤ log2Ratio num den ↔ den * 2 ^ k ≤ num := by
  rw [log2Ratio_eq num_pos den_pos, ← Int.zpow_le_iff_le_log one_lt_two (by positivity)]
  have := two_zpow_le_div_iff num den_pos k
  simpa using this

/-- Half a unit of the last place above the greatest double. -/
def limit : Nat := (2 ^ (precision + 1) - 1) * 2 ^ (maxExponent - 1).toNat

/-- The mantissa and exponent that a positive quotient is rounded to, before the carry. -/
theorem ofRatio_infinite_iff_carry {negative : Bool} {num den : Nat} (num_pos : 0 < num) :
    (∃ s, ofRatio negative num den = .infinite s) ↔
      let e := max minExponent (log2Ratio num den - (precision - 1))
      maxExponent < e ∨ (maxExponent = e ∧
        roundDiv (num * Nat.pow 2 (-e).toNat) (den * Nat.pow 2 e.toNat) = Nat.pow 2 precision) := by
  rw [ofRatio, if_neg num_pos.ne']
  simp only
  generalize max minExponent _ = e
  split
  · next carry =>
    split
    · simp only [infinite.injEq, exists_eq', carry, and_true, true_iff]
      omega
    · simp only [reduceCtorEq, exists_false, carry, and_true, false_iff]
      omega
  · next carry =>
    split
    · simp only [infinite.injEq, exists_eq', true_iff]
      omega
    · simp only [reduceCtorEq, exists_false, carry, and_false, or_false, false_iff]
      omega

theorem mul_two_pow_add (den k n : Nat) : den * 2 ^ (k + n) = 2 ^ k * (2 ^ n * den) := by
  rw [Nat.pow_add, Nat.mul_left_comm, Nat.mul_comm den]

/-- **From the limit on a quotient is rounded to an infinity**, and below it is not. -/
theorem ofRatio_eq_infinite_iff (negative : Bool) (num : Nat) {den : Nat} (den_pos : 0 < den) :
    (∃ s, ofRatio negative num den = .infinite s) ↔ limit * den ≤ num := by
  have limit_eq : limit * den = (2 ^ (precision + 1) - 1) * (2 ^ (maxExponent - 1).toNat * den) :=
    Nat.mul_assoc _ _ _
  have unit_pos : 0 < 2 ^ (maxExponent - 1).toNat * den :=
    Nat.mul_pos (Nat.two_pow_pos _) den_pos
  rcases num.eq_zero_or_pos with rfl | num_pos
  · simp only [ofRatio, if_true, reduceCtorEq, exists_false, false_iff, limit_eq, precision]
    omega
  have least := natCast_le_log2Ratio_iff num_pos den_pos (53 + (maxExponent - 1).toNat)
  have most := natCast_le_log2Ratio_iff num_pos den_pos (54 + (maxExponent - 1).toNat)
  have den_eq : den * 2 ^ maxExponent.toNat = 2 * (2 ^ (maxExponent - 1).toNat * den) := by
    rw [show maxExponent.toNat = 1 + (maxExponent - 1).toNat by decide, mul_two_pow_add, pow_one]
  rw [mul_two_pow_add] at least most
  rw [ofRatio_infinite_iff_carry num_pos, limit_eq]
  -- every bound is a multiple of this product
  generalize 2 ^ (maxExponent - 1).toNat * den = unit at *
  have min_eq : minExponent = -1074 := rfl
  have max_eq : maxExponent = 971 := rfl
  simp only [precision]
  rcases lt_trichotomy (log2Ratio num den) 1023 with below | here | above
  · omega
  · -- in the last power of two below the limit all is decided by the carry
    have exponent : max minExponent (log2Ratio num den - ((53 : Nat) - 1)) = maxExponent := by
      omega
    have num_eq : num * 2 ^ (-maxExponent).toNat = num := Nat.mul_one num
    have atMost : roundDiv num (2 * unit) ≤ 2 ^ 53 := roundDiv_le (by omega) (by omega)
    have reaches := succ_le_roundDiv_iff num (2 ^ 53 - 1) (show 0 < 2 * unit by omega)
    rw [exponent, Nat.pow_eq, Nat.pow_eq, Nat.pow_eq, den_eq, num_eq]
    omega
  · omega

end Binary64

end FieldTemplate
