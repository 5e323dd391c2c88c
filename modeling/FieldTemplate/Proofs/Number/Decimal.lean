import FieldTemplate.Number.Decimal
import FieldTemplate.Proofs.Number.Numeral
import FieldTemplate.Proofs.Number.Rounding

/-!
# Decimals that are too large

A decimal cannot be rounded to the precision exactly from half a unit of the last digit below
the first power of ten that is out of reach on (`Decimal.reduce?_eq_none_iff`).
-/

namespace FieldTemplate

set_option autoImplicit false

namespace Decimal

theorem ten_zpow_pos (k : Int) : (0 : ℚ) < 10 ^ k := zpow_pos (by norm_num) k

theorem ten_zpow_le_iff {j k : Int} : (10 : ℚ) ^ j ≤ 10 ^ k ↔ j ≤ k :=
  zpow_le_zpow_iff_right₀ (by norm_num)

/-- The first digit stands for the greatest power of ten that the number reaches. -/
theorem le_adjusted_iff {c : Nat} (pos : 0 < c) (e k : Int) :
    k ≤ adjusted c e ↔ (10 : ℚ) ^ k ≤ c * 10 ^ e := by
  have shifted : (10 : ℚ) ^ k ≤ c * 10 ^ e ↔ (10 : ℚ) ^ (k - e) ≤ c := by
    rw [zpow_sub₀ (by norm_num), div_le_iff₀ (ten_zpow_pos e)]
  have some_digit := Text.length_ofNat_pos c
  rw [shifted, adjusted]
  rcases lt_or_ge (k - e) 0 with negative | whole
  · have below : (10 : ℚ) ^ (k - e) ≤ 1 := zpow_le_one_of_nonpos₀ (by norm_num) negative.le
    have one_le : (1 : ℚ) ≤ c := by exact_mod_cast pos
    exact iff_of_true (by omega) (below.trans one_le)
  · obtain ⟨n, power⟩ := Int.eq_ofNat_of_zero_le whole
    have digits : n < (Text.ofNat c).length ↔ 10 ^ n ≤ c := by
      cases n with
      | zero => exact iff_of_true some_digit pos
      | succ n => simpa using (Text.length_ofNat_le_iff (n := c) n.succ_pos).not
    rw [power, zpow_natCast, show k ≤ e + ((Text.ofNat c).length - 1 : Int) ↔
      n < (Text.ofNat c).length by omega, digits]
    exact_mod_cast Iff.rfl

/-- More places than there are digits leave nothing. -/
theorem dropDigits_eq (c : Nat) (e : Int) (drop : Nat) :
    dropDigits c e drop = (roundDiv c (10 ^ drop), e + drop) := by
  rw [dropDigits]
  split
  · next all =>
    have some_digit := Text.length_ofNat_pos c
    have small : c < 10 ^ (drop - 1) := (Text.length_ofNat_le_iff (by omega)).1 (by omega)
    have tenfold : 10 ^ drop = 10 * 10 ^ (drop - 1) := by
      rw [← Nat.pow_succ', Nat.succ_eq_add_one, Nat.sub_add_cancel (by omega)]
    have none_left : ¬ 0 + 1 ≤ roundDiv c (10 ^ drop) := by
      rw [succ_le_roundDiv_iff c 0 (by positivity)]
      omega
    congr 1
    omega
  · rfl

/-- The places that rounding drops. -/
def excess (c : Nat) (e : Int) : Nat :=
  max ((Text.ofNat c).length - precision) (leastExponent - e).toNat

/-- Rounding leaves no more digits than the precision. -/
theorem lt_of_excess (c : Nat) (e : Int) : c < 10 ^ (precision + excess c e) :=
  (Text.length_ofNat_le_iff (by simp [precision])).1 (by rw [excess]; omega)

/-- A carry changes the spelling of the rounded number, not its value. -/
theorem round?_eq_none_iff_rounded {c : Nat} (pos : 0 < c) (e : Int) :
    round? c e = none ↔
      (10 : ℚ) ^ (maxAdjusted + 1) ≤ roundDiv c (10 ^ excess c e) * 10 ^ (e + excess c e) := by
  have high {r : Nat} (f : Int) : (r ≠ 0 ∧ maxAdjusted < adjusted r f) ↔
      (10 : ℚ) ^ (maxAdjusted + 1) ≤ r * 10 ^ f := by
    rcases r.eq_zero_or_pos with rfl | some_left
    · simpa using ten_zpow_pos (maxAdjusted + 1)
    · rw [← le_adjusted_iff some_left, Int.lt_iff_add_one_le]
      exact and_iff_right some_left.ne'
  rw [round?, if_neg pos.ne', excess]
  simp only [dropDigits_eq]
  generalize max ((Text.ofNat c).length - precision) (leastExponent - e).toNat = drop
  generalize roundDiv c (10 ^ drop) = r
  generalize e + (drop : Int) = f
  split
  · next carry =>
    have same : ((Nat.pow 10 (precision - 1) : Nat) : ℚ) * 10 ^ (f + 1) = r * 10 ^ f := by
      rw [carry, zpow_add_one₀ (by norm_num)]
      simp only [precision, Nat.pow_eq]
      push_cast
      ring
    simp only [high, same, ite_eq_left_iff, reduceCtorEq, imp_false, not_not]
  · simp only [high, ite_eq_left_iff, reduceCtorEq, imp_false, not_not]

/-- Half a unit of the last place below the least power of ten that no decimal may reach. -/
def limit : ℚ := (10 ^ precision - 1 / 2) * 10 ^ (maxAdjusted + 1 - precision)

/-- A power of ten is odd less one, so half a unit below it is enough to reach it. -/
theorem ten_pow_le_roundDiv_iff {c drop q j : Nat} (full : 0 < drop → 10 ^ (q + drop) ≤ c) :
    10 ^ (q + 1) ≤ roundDiv c (10 ^ drop) * 10 ^ j ↔
      (2 * 10 ^ (q + 1) - 1) * 10 ^ drop ≤ 2 * c * 10 ^ j := by
  have ten_le : 10 ^ (q + 1) = 10 * 10 ^ q := Nat.pow_succ'
  have some_unit : 0 < 10 ^ q := by positivity
  cases j with
  | zero =>
      have odd := succ_le_roundDiv_iff c (10 ^ (q + 1) - 1) (show 0 < 10 ^ drop by positivity)
      rw [show 10 ^ (q + 1) - 1 + 1 = 10 ^ (q + 1) by omega,
        show 2 * (10 ^ (q + 1) - 1) + 1 = 2 * 10 ^ (q + 1) - 1 by omega] at odd
      rw [pow_zero, mul_one, mul_one, odd]
      omega
  | succ j =>
      rcases drop.eq_zero_or_pos with rfl | dropped
      · rw [pow_zero, roundDiv_one, mul_one, mul_assoc]
        omega
      · have large := full dropped
        rw [pow_add] at large
        have ten_pow : 10 ≤ 10 ^ (j + 1) := Nat.le_self_pow j.succ_ne_zero 10
        refine iff_of_true ?_ ?_
        · calc 10 ^ (q + 1) = 10 ^ q * 10 := pow_succ 10 q
            _ ≤ roundDiv c (10 ^ drop) * 10 ^ (j + 1) := by
              gcongr
              exact le_roundDiv (by positivity) large
        · calc (2 * 10 ^ (q + 1) - 1) * 10 ^ drop ≤ 2 * 10 ^ (q + 1) * 10 ^ drop := by
                gcongr
                omega
            _ = 2 * (10 ^ q * 10 ^ drop) * 10 := by ring
            _ ≤ 2 * c * 10 ^ (j + 1) := by gcongr

/-- The unit of the last place that the least power of ten out of reach would have. -/
theorem ten_zpow_top : (10 : ℚ) ^ (maxAdjusted + 1) =
    10 ^ precision * 10 ^ (maxAdjusted + 1 - precision) := by
  rw [← zpow_natCast, ← zpow_add₀ (by norm_num), add_sub_cancel]

theorem ten_zpow_add (e : Int) (drop : Nat) : (10 : ℚ) ^ (e + drop) = 10 ^ e * 10 ^ drop := by
  rw [zpow_add₀ (by norm_num), zpow_natCast]

/-- With all digits below the unit no carry makes up for it. -/
theorem lt_limit_of_low {c drop : Nat} {e : Int} (digits : c < 10 ^ (precision + drop))
    (low : e + drop < maxAdjusted + 1 - precision) :
    (roundDiv c (10 ^ drop) : ℚ) * 10 ^ (e + drop) < 10 ^ (maxAdjusted + 1) ∧
      (c : ℚ) * 10 ^ e < limit := by
  have place_pos := ten_zpow_pos (e + drop)
  have place_le : (10 : ℚ) * 10 ^ (e + drop) ≤ 10 ^ (maxAdjusted + 1 - precision) := by
    rw [mul_comm, ← zpow_add_one₀ (by norm_num), ten_zpow_le_iff]
    omega
  have rounded : (roundDiv c (10 ^ drop) : ℚ) * 10 ^ (e + drop) ≤
      10 ^ precision * 10 ^ (e + drop) := by
    rw [pow_add] at digits
    gcongr
    exact_mod_cast roundDiv_le (by positivity) digits.le
  have exact : (c : ℚ) * 10 ^ e ≤ 10 ^ precision * 10 ^ (e + drop) := by
    rw [ten_zpow_add, mul_comm ((10 : ℚ) ^ e), ← mul_assoc, ← pow_add]
    have := (ten_zpow_pos e).le
    gcongr
    exact_mod_cast digits.le
  rw [ten_zpow_top, limit]
  generalize (10 : ℚ) ^ (maxAdjusted + 1 - precision) = unit at *
  generalize (c : ℚ) * 10 ^ e = number at *
  rw [precision] at *
  norm_num at *
  constructor <;> linarith

/-- With the last digit at the unit or above it, rounding decides as the limit does. -/
theorem reaches_iff_of_high {c drop : Nat} {e : Int} (full : 0 < drop → 10 ^ (27 + drop) ≤ c)
    (high : maxAdjusted + 1 - precision ≤ e + drop) :
    (10 : ℚ) ^ (maxAdjusted + 1) ≤ roundDiv c (10 ^ drop) * 10 ^ (e + drop) ↔
      limit ≤ (c : ℚ) * 10 ^ e := by
  have drop_pos : (0 : ℚ) < 10 ^ drop := by positivity
  have unit_pos := ten_zpow_pos (maxAdjusted + 1 - precision)
  obtain ⟨j, exponent⟩ := Int.eq_ofNat_of_zero_le (Int.sub_nonneg.2 high)
  have shifted : (10 : ℚ) ^ (e + drop) = 10 ^ j * 10 ^ (maxAdjusted + 1 - precision) := by
    rw [show e + drop = (maxAdjusted + 1 - precision) + j by omega, ten_zpow_add, mul_comm]
  rw [ten_zpow_top, limit, shifted]
  generalize (10 : ℚ) ^ (maxAdjusted + 1 - precision) = unit at *
  have whole : (c : ℚ) * 10 ^ e * 10 ^ drop = c * 10 ^ j * unit := by
    rw [mul_assoc, ← ten_zpow_add, shifted, mul_assoc]
  calc 10 ^ precision * unit ≤ (roundDiv c (10 ^ drop) : ℚ) * (10 ^ j * unit)
      ↔ (10 : ℚ) ^ precision ≤ roundDiv c (10 ^ drop) * 10 ^ j := by
        rw [← mul_assoc, mul_le_mul_iff_left₀ unit_pos]
    _ ↔ (2 * 10 ^ precision - 1) * 10 ^ drop ≤ (2 : ℚ) * c * 10 ^ j := by
        have cast : (2 * 10 ^ precision - 1 : ℚ) = (2 * 10 ^ (27 + 1) - 1 : Nat) := by
          norm_num [precision]
        rw [cast, precision]
        exact_mod_cast ten_pow_le_roundDiv_iff (j := j) full
    _ ↔ (10 ^ precision - 1 / 2) * unit ≤ (c : ℚ) * 10 ^ e := by
        rw [← mul_le_mul_iff_left₀ (b := (10 ^ precision - 1 / 2) * unit) drop_pos, whole,
          ← mul_le_mul_iff_left₀ unit_pos]
        constructor <;> intro le <;> linarith

/-- **What cannot be rounded is what reaches the limit.** -/
theorem round?_eq_none_iff (c : Nat) (e : Int) :
    round? c e = none ↔ limit ≤ (c : ℚ) * 10 ^ e := by
  rcases c.eq_zero_or_pos with rfl | pos
  · have limit_pos : 0 < limit := mul_pos (by norm_num [precision]) (ten_zpow_pos _)
    simpa [round?] using limit_pos
  rw [round?_eq_none_iff_rounded pos]
  rcases lt_or_ge (e + excess c e) (maxAdjusted + 1 - precision) with low | high
  · obtain ⟨rounded, exact⟩ := lt_limit_of_low (lt_of_excess c e) low
    exact iff_of_false rounded.not_ge exact.not_ge
  · refine reaches_iff_of_high (fun dropped => ?_) high
    -- so high up all the places are dropped for the precision, and a full significand is left
    have places : excess c e = (Text.ofNat c).length - precision := by
      simp only [excess, maxAdjusted, leastExponent, minAdjusted, precision] at *
      omega
    rw [← Nat.not_lt, ← Text.length_ofNat_le_iff (by omega)]
    simp only [precision] at *
    omega

theorem reduce?_eq_none_iff (c : Nat) (e : Int) :
    reduce? c e = none ↔ limit ≤ (c : ℚ) * 10 ^ e := by
  rw [reduce?, Option.map_eq_none_iff, round?_eq_none_iff]

end Decimal

end FieldTemplate
