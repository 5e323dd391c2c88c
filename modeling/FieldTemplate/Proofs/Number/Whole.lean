import FieldTemplate.Proofs.Number.Canonical

/-!
# Whole numbers in every type

A whole number has the same text as an integer, a decimal, a double and a fraction: its numeral,
with a minus sign if it is negative.  For decimals the exponent and trailing zeros make no
difference, since they have the text of the reduced form, and that has no places
(`Decimal.plain_of_whole`); a fraction is turned into a double first, which is exact for whole
numbers of the precision (`Binary64.ofRatio_of_whole`).  The main statement is
`whole_numbers_render_alike`.
-/

namespace FieldTemplate

set_option autoImplicit false

/-- A magnitude with its sign. -/
def signedValue (negative : Bool) (x : ℚ) : ℚ := if negative then -x else x

/-- The numbers that are equal to a whole number. -/
inductive Atom.IsWhole (n : Int) : Atom → Prop
  | int : IsWhole n (.int n)
  | decimal {negative : Bool} {c : Nat} {e : Int} (same : signedValue negative (c * 10 ^ e) = n) :
      IsWhole n (.decimal (.finite negative c e))
  | double {negative : Bool} {m : Nat} {e : Int} (same : signedValue negative (m * 2 ^ e) = n) :
      IsWhole n (.double (.finite negative m e))
  /-- Larger ones need not be doubles. -/
  | fraction {q : Fraction} (same : (q.num : ℚ) / q.den = n) (small : n.natAbs ≤ 2 ^ 53) :
      IsWhole n (.fraction q)

/-- The zeros, with the sign that they show. -/
inductive Atom.IsZero : Bool → Atom → Prop
  | int : IsZero false (.int 0)
  | decimal {negative : Bool} {e : Int} : IsZero negative (.decimal (.finite negative 0 e))
  | double {negative : Bool} {e : Int} : IsZero negative (.double (.finite negative 0 e))

variable {n : Int} {k : Nat} {negative : Bool}

/-- The sign and the magnitude of a number that is not zero. -/
theorem sign_and_magnitude {x : ℚ} (nonneg : 0 ≤ x) (nonzero : n ≠ 0)
    (same : signedValue negative x = n) : negative = decide (n < 0) ∧ x = n.natAbs := by
  have size : (n.natAbs : ℚ) = |(n : ℚ)| := by rw [Nat.cast_natAbs, Int.cast_abs]
  rw [size, ← same]
  cases negative with
  | false =>
      have positive : 0 ≤ n := by
        have value : (0 : ℚ) ≤ n := same ▸ nonneg
        exact_mod_cast value
      exact ⟨(decide_eq_false positive.not_gt).symm, (abs_of_nonneg nonneg).symm⟩
  | true =>
      have below : n < 0 := by
        have value : (n : ℚ) ≤ 0 := same ▸ neg_nonpos.2 nonneg
        exact lt_of_le_of_ne (by exact_mod_cast value) nonzero
      refine ⟨(decide_eq_true below).symm, ?_⟩
      rw [signedValue, if_pos rfl, abs_neg, abs_of_nonneg nonneg]

theorem Text.ofInt_eq (n : Int) : ofInt n = signed (decide (n < 0)) (ofNat n.natAbs) := by
  cases n with
  | ofNat n => rfl
  | negSucc n =>
      rw [decide_eq_true (Int.negSucc_lt_zero n)]
      rfl

/-! ## Decimals -/

namespace Decimal

variable {c : Nat} {e : Int}

/-- A reduced form of a whole number has no places. -/
theorem plain_of_whole (form : IsReduced c e) (same : (c : ℚ) * 10 ^ e = k) :
    plain c e = Text.ofNat k := by
  have whole : 0 ≤ e := by
    rcases form with ⟨-, rfl⟩ | nonzero
    · exact le_rfl
    · exact exponent_le_of_eq (c := k) nonzero (by rw [same, zpow_zero, mul_one])
  obtain ⟨zeros, rfl⟩ := Int.eq_ofNat_of_zero_le whole
  have value : k = c * 10 ^ zeros := by
    rw [zpow_natCast] at same
    exact_mod_cast same.symm
  rw [plain_eq form, value]
  simp [Text.lastDigits, Text.withPlaces]

theorem fits_of_whole (pos : 0 < k) (few : k < 10 ^ precision) (same : (c : ℚ) * 10 ^ e = k) :
    Fits c e := by
  have c_pos : 0 < c := by
    rw [Nat.pos_iff_ne_zero]
    rintro rfl
    rw [Nat.cast_zero, zero_mul] at same
    exact pos.ne (by exact_mod_cast same)
  refine .inr ⟨?_, ?_, ?_⟩
  · rcases le_total 0 e with whole | below
    · have least : c ≤ k := by
        have unit : (1 : ℚ) ≤ 10 ^ e := one_le_zpow₀ (by norm_num) whole
        have nonneg : (0 : ℚ) ≤ c := c.cast_nonneg
        have reached := le_mul_of_one_le_right nonneg unit
        rw [same] at reached
        exact_mod_cast reached
      exact ⟨c, 0, by rw [pow_zero, mul_one], least.trans_lt few⟩
    · obtain ⟨zeros, rfl⟩ : ∃ zeros : Nat, e = -(zeros : Int) := ⟨(-e).toNat, by omega⟩
      refine ⟨k, zeros, (mul_ten_zpow_eq_iff c k (-(zeros : Int)) zeros).1 ?_, few⟩
      rw [same, neg_add_cancel, zpow_zero, mul_one]
  · have least : (0 : Int) ≤ adjusted c e := by
      rw [le_adjusted_iff c_pos, same, zpow_zero]
      exact_mod_cast pos
    exact le_trans (by decide) least
  · have most : ¬ (precision : Int) ≤ adjusted c e := by
      rw [le_adjusted_iff c_pos, same, zpow_natCast, not_le]
      exact_mod_cast few
    simp only [precision, maxAdjusted] at *
    omega

theorem scalarText_of_whole (pos : 0 < k) (few : k < 10 ^ precision)
    (same : (c : ℚ) * 10 ^ e = k) :
    (finite negative c e).scalarText = .ok (signed negative (Text.ofNat k)) := by
  have fits := fits_of_whole pos few same
  obtain ⟨d, f, text, form, value⟩ := exists_scalarText_of_fits fits negative
  rw [text, plain_of_whole form (value.trans same)]

end Decimal

/-! ## Doubles and fractions -/

namespace Binary64

variable {m : Nat} {e : Int}

theorem mul_two_zpow_eq_iff : (m : ℚ) * 2 ^ e = k ↔ m * 2 ^ e.toNat = k * 2 ^ (-e).toNat := by
  have den_pos : (0 : ℚ) < 2 ^ (-e).toNat := by positivity
  rw [two_zpow_eq_div, ← mul_div_assoc, div_eq_iff den_pos.ne']
  exact_mod_cast Iff.rfl

/-- A double is taken for a whole number exactly if it is one. -/
theorem whole?_eq_some_iff : whole? m e = some k ↔ (m : ℚ) * 2 ^ e = k := by
  have den_pos : 0 < 2 ^ (-e).toNat := Nat.two_pow_pos _
  rw [mul_two_zpow_eq_iff, whole?, ratio]
  simp only [Nat.pow_eq]
  generalize m * 2 ^ e.toNat = num
  generalize 2 ^ (-e).toNat = den at *
  constructor
  · intro found
    split at found
    · next divisible =>
      cases found
      exact (Nat.div_mul_cancel (Nat.dvd_of_mod_eq_zero divisible)).symm
    · cases found
  · rintro rfl
    rw [Nat.mul_mod_left, if_pos rfl, Nat.mul_div_cancel _ den_pos]

theorem scalarText_of_whole (small : k < 10 ^ 21) (same : (m : ℚ) * 2 ^ e = k) :
    (finite negative m e).scalarText = signed negative (Text.ofNat k) := by
  rw [scalarText, whole?_eq_some_iff.2 same]
  exact if_pos small

/-- A quotient that has a mantissa at its place is not rounded. -/
theorem ofRatio_of_exact {num den : Nat} (num_pos : 0 < num) (den_pos : 0 < den)
    (place : max minExponent (log2Ratio num den - (precision - 1)) = e) (low : e < maxExponent)
    (exact : num * 2 ^ (-e).toNat = m * (den * 2 ^ e.toNat)) :
    ∃ m' e', ofRatio negative num den = .finite negative m' e' ∧ (m' : ℚ) * 2 ^ e' = m * 2 ^ e := by
  have rounded : roundDiv (num * Nat.pow 2 (-e).toNat) (den * Nat.pow 2 e.toNat) = m := by
    rw [Nat.pow_eq, Nat.pow_eq, exact]
    exact roundDiv_mul m (Nat.mul_pos den_pos (Nat.two_pow_pos _))
  rw [ofRatio, if_neg num_pos.ne']
  simp only [place, rounded]
  split
  · next carry =>
    rw [if_neg (by omega)]
    refine ⟨_, _, rfl, ?_⟩
    rw [carry, zpow_add_one₀ two_ne_zero]
    simp only [precision, Nat.pow_eq]
    push_cast
    ring
  · rw [if_neg (by omega)]
    exact ⟨m, e, rfl, rfl⟩

/-- **A whole number of the precision is turned into a double without rounding.** -/
theorem ofRatio_of_whole {num den : Nat} (den_pos : 0 < den) (pos : 0 < k) (small : k ≤ 2 ^ 53)
    (whole : num = k * den) :
    ∃ m e, ofRatio negative num den = .finite negative m e ∧ (m : ℚ) * 2 ^ e = k := by
  have num_pos : 0 < num := by
    rw [whole]
    exact Nat.mul_pos pos den_pos
  have power (j : Nat) : (j : Int) ≤ log2Ratio num den ↔ 2 ^ j ≤ k := by
    rw [natCast_le_log2Ratio_iff num_pos den_pos, whole, mul_comm den,
      Nat.mul_le_mul_right_iff den_pos]
  have least := (power 0).2 pos
  have top := power 53
  have most := power 54
  obtain ⟨e, log⟩ : ∃ e, log2Ratio num den = e + 52 := ⟨log2Ratio num den - 52, by omega⟩
  have place : max minExponent (log2Ratio num den - (precision - 1)) = e := by
    simp only [minExponent, precision]
    omega
  -- the place is at most that of the units, but for the greatest number, which is a power of two
  obtain ⟨m, exact⟩ : ∃ m, m * 2 ^ e.toNat = k * 2 ^ (-e).toNat := by
    rcases le_or_gt e 0 with below | above
    · exact ⟨k * 2 ^ (-e).toNat, by rw [Int.toNat_eq_zero.2 below, pow_zero, mul_one]⟩
    · obtain ⟨rfl, greatest⟩ : e = 1 ∧ k = 2 ^ 53 := by omega
      exact ⟨2 ^ 52, by rw [greatest]; decide⟩
  have low : e < maxExponent := by
    simp only [maxExponent]
    omega
  have multiple : num * 2 ^ (-e).toNat = m * (den * 2 ^ e.toNat) := by
    rw [whole, mul_right_comm, ← exact]
    ring
  rw [← mul_two_zpow_eq_iff.2 exact]
  exact ofRatio_of_exact num_pos den_pos place low multiple

end Binary64

theorem Fraction.scalarText_of_whole {q : Fraction} (same : (q.num : ℚ) / q.den = n)
    (nonzero : n ≠ 0) (exact : n.natAbs ≤ 2 ^ 53) (small : n.natAbs < 10 ^ 21) :
    q.scalarText = .ok (signed (decide (n < 0)) (Text.ofNat n.natAbs)) := by
  have den_pos : 0 < q.den := Nat.pos_of_ne_zero q.den_ne_zero.out
  have num_eq : q.num = n * q.den := by
    rw [div_eq_iff (by exact_mod_cast den_pos.ne')] at same
    exact_mod_cast same
  have sign : decide (q.num < 0) = decide (n < 0) := by
    have den_pos' : (0 : Int) < q.den := by exact_mod_cast den_pos
    rw [num_eq, decide_eq_decide]
    exact ⟨fun below => neg_of_mul_neg_left below den_pos'.le,
      fun below => mul_neg_of_neg_of_pos below den_pos'⟩
  have size : q.num.natAbs = n.natAbs * q.den := by rw [num_eq, Int.natAbs_mul, Int.natAbs_natCast]
  obtain ⟨m, e, double, value⟩ :=
    Binary64.ofRatio_of_whole den_pos (Int.natAbs_pos.2 nonzero) exact size
  rw [scalarText, double]
  show Except.ok _ = _
  rw [Binary64.scalarText_of_whole small value, sign]

theorem integerText_of_lt (small : n.natAbs < 10 ^ 21) :
    integerText n = .ok (signed (decide (n < 0)) (Text.ofNat n.natAbs)) := by
  have few : n.natAbs < 10 ^ Text.digitLimit :=
    small.trans_le (Nat.pow_le_pow_right (by decide) (by decide))
  rw [integerText, Text.ofInt?_eq, if_pos few]
  exact congrArg Except.ok (Text.ofInt_eq n)

/-! ## All types together -/

theorem Atom.scalarText_of_isWhole {a : Atom} (whole : a.IsWhole n) (nonzero : n ≠ 0)
    (small : n.natAbs < 10 ^ 21) :
    a.scalarText = .ok (signed (decide (n < 0)) (Text.ofNat n.natAbs)).wide := by
  cases whole with
  | int => exact congrArg (Except.map Text.wide) (integerText_of_lt small)
  | @decimal _ c e same =>
      have nonneg : 0 ≤ (c : ℚ) * 10 ^ e := mul_nonneg c.cast_nonneg (Decimal.ten_zpow_pos e).le
      obtain ⟨rfl, magnitude⟩ := sign_and_magnitude nonneg nonzero same
      have few : n.natAbs < 10 ^ Decimal.precision :=
        small.trans (Nat.pow_lt_pow_right (by decide) (by decide))
      exact congrArg (Except.map Text.wide)
        (Decimal.scalarText_of_whole (Int.natAbs_pos.2 nonzero) few magnitude)
  | @double _ m e same =>
      have nonneg : 0 ≤ (m : ℚ) * 2 ^ e := mul_nonneg m.cast_nonneg (zpow_pos two_pos e).le
      obtain ⟨rfl, magnitude⟩ := sign_and_magnitude nonneg nonzero same
      exact congrArg (Except.ok ∘ Text.wide) (Binary64.scalarText_of_whole small magnitude)
  | fraction same exact =>
      exact congrArg (Except.map Text.wide)
        (Fraction.scalarText_of_whole same nonzero exact small)

theorem Atom.scalarText_of_isZero {a : Atom} (zero : a.IsZero negative) :
    a.scalarText = .ok (signed negative ['0']).wide := by
  cases zero with
  | int => rfl
  | decimal => rfl
  | double =>
      have none_left (e : Int) : ((0 : Nat) : ℚ) * 2 ^ e = (0 : Nat) := by simp
      exact congrArg (Except.ok ∘ Text.wide)
        (Binary64.scalarText_of_whole (by decide) (none_left _))

/-- **Whole numbers render alike in every numeric type.**  Below the limit of the exponent form, an
integer, and any decimal, double or fraction that is equal to it, has one text: the base-ten digits
without a leading zero, behind a minus sign if it is negative.  A zero has the sign that it
shows. -/
theorem whole_numbers_render_alike :
    (∀ n : Int, n ≠ 0 → n.natAbs < 10 ^ 21 →
      ∃ digits, Text.IsNumeral digits ∧ Text.toNat digits = n.natAbs ∧
        ∀ a, Atom.IsWhole n a → a.scalarText = .ok (signed (decide (n < 0)) digits).wide) ∧
    (∀ negative a, Atom.IsZero negative a → a.scalarText = .ok (signed negative ['0']).wide) := by
  constructor
  · intro n nonzero small
    refine ⟨Text.ofNat n.natAbs, Text.isNumeral_ofNat _, Text.toNat_numeral _, fun a whole => ?_⟩
    exact Atom.scalarText_of_isWhole whole nonzero small
  · intro negative a zero
    exact Atom.scalarText_of_isZero zero

/-- A decimal with an exponent, one with more trailing zeros than the precision has digits, a double
and a fraction. -/
theorem whole_numbers_render_alike_minus_1200 :
    ∃ digits, Text.IsNumeral digits ∧ Text.toNat digits = 1200 ∧
      (Atom.int (-1200)).scalarText = .ok (Text.wide ('-' :: digits)) ∧
      (Atom.decimal (.finite true 12 2)).scalarText = .ok (Text.wide ('-' :: digits)) ∧
      (Atom.decimal (.finite true (12 * 10 ^ 40) (-38))).scalarText = .ok (Text.wide ('-' :: digits)) ∧
      (Atom.double (.finite true 75 4)).scalarText = .ok (Text.wide ('-' :: digits)) ∧
      (Atom.fraction ⟨-1200, 1⟩).scalarText = .ok (Text.wide ('-' :: digits)) ∧
      (Atom.double (.finite true 0 (-1074))).scalarText = .ok (Text.wide ['-', '0']) := by
  obtain ⟨whole, zero⟩ := whole_numbers_render_alike
  obtain ⟨digits, numeral, value, alike⟩ := whole (-1200) (by decide) (by decide)
  refine ⟨digits, numeral, value, alike _ .int, alike _ (.decimal ?_), alike _ (.decimal ?_),
    alike _ (.double ?_), alike _ (.fraction ?_ (by decide)), zero true _ .double⟩
  · norm_num [signedValue]
  · norm_num [signedValue]
  · norm_num [signedValue]
  · norm_num

end FieldTemplate
