import FieldTemplate.Proofs.Number.Whole
import FieldTemplate.Value.Key
import Mathlib.Data.Nat.Cast.Field
import Mathlib.NumberTheory.Padics.PadicVal.Basic

/-!
# Numbers as keys

Two numbers of whatever types are one key just if they are equal (`Atom.sameKey_iff_eq`), however
far apart their exponents are.  What a number is compared by has no factor of two or of five outside
of its powers (`Amount.Lowest`), so it is the only such form of the number (`Amount.Lowest.unique`).
-/

namespace FieldTemplate

set_option autoImplicit false

/-! ## Splitting a number -/

theorem splitOff_mul_pow (p steps n : Nat) :
    (splitOff p steps n).1 * p ^ (splitOff p steps n).2 = n := by
  induction steps generalizing n with
  | zero => simp [splitOff]
  | succ steps ih =>
      rw [splitOff]
      split
      · next divides =>
        rw [Nat.pow_succ, ← Nat.mul_assoc, ih, Nat.div_mul_cancel (Nat.dvd_of_mod_eq_zero divides)]
      · simp

/-- A number has a factor less often than the steps that would bring it down to zero. -/
theorem not_dvd_splitOff {p steps n : Nat} (nonzero : n ≠ 0) (enough : n < p ^ steps) :
    ¬ p ∣ (splitOff p steps n).1 := by
  induction steps generalizing n with
  | zero => exact absurd (Nat.lt_one_iff.1 enough) nonzero
  | succ steps ih =>
      rw [splitOff]
      split
      · next divides =>
        have divides := Nat.dvd_of_mod_eq_zero divides
        have pos : 0 < p := Nat.pos_of_dvd_of_pos divides (Nat.pos_of_ne_zero nonzero)
        refine ih (Nat.div_ne_zero_iff_of_dvd divides |>.2 ⟨nonzero, pos.ne'⟩) ?_
        exact Nat.div_lt_of_lt_mul (Nat.pow_succ' ▸ enough)
      · next other => exact fun divides => other (Nat.mod_eq_zero_of_dvd divides)

namespace TenSplit

theorem of_eq (n : Nat) : (of n).rest * 5 ^ (of n).fives * 2 ^ (of n).twos = n := by
  simp only [of, splitOff_mul_pow]

theorem coprime_rest {n : Nat} (nonzero : n ≠ 0) : (of n).rest.Coprime 10 := by
  have two := splitOff_mul_pow 2 n n
  have five := splitOff_mul_pow 5 (splitOff 2 n n).1 (splitOff 2 n n).1
  have nonzero' : (splitOff 2 n n).1 ≠ 0 := by
    intro zero
    rw [zero, Nat.zero_mul] at two
    exact nonzero two.symm
  have noTwo : ¬ 2 ∣ (of n).rest := fun divides =>
    not_dvd_splitOff nonzero (Nat.lt_pow_self (by decide)) (five ▸ divides.mul_right _)
  have noFive : ¬ 5 ∣ (of n).rest := not_dvd_splitOff nonzero' (Nat.lt_pow_self (by decide))
  change Nat.Coprime _ (2 * 5)
  exact (Nat.prime_two.coprime_iff_not_dvd.2 noTwo).symm.mul_right
    (Nat.prime_five.coprime_iff_not_dvd.2 noFive).symm

end TenSplit

namespace Amount

/-- The number `num / den * 2 ^ twos * 5 ^ fives`. -/
def number (num : Int) (den : Nat) (twos fives : Int) : ℚ := num / den * 2 ^ twos * 5 ^ fives

/-- In lowest terms, without a factor of two or of five outside of their powers. -/
structure Lowest (num : Int) (den : Nat) : Prop where
  coprime : num.natAbs.Coprime den
  num_coprime : num.natAbs.Coprime 10
  den_coprime : den.Coprime 10

namespace Lowest

variable {num num' : Int} {den den' : Nat} {twos twos' fives fives' : Int}

theorem ne_zero (lowest : Lowest num den) : num ≠ 0 ∧ den ≠ 0 := by
  constructor
  · rintro rfl
    exact absurd lowest.num_coprime (by decide)
  · rintro rfl
    exact absurd lowest.den_coprime (by decide)

theorem quotient_ne_zero (lowest : Lowest num den) : (num : ℚ) / den ≠ 0 :=
  div_ne_zero (by exact_mod_cast lowest.ne_zero.1) (by exact_mod_cast lowest.ne_zero.2)

theorem padicValRat_div (lowest : Lowest num den) {p : Nat} [prime : Fact p.Prime]
    (divides : p ∣ 10) : padicValRat p ((num : ℚ) / den) = 0 := by
  obtain ⟨num_ne, den_ne⟩ := lowest.ne_zero
  have noNum : ¬ p ∣ num.natAbs := (prime.out.coprime_iff_not_dvd).1
    (lowest.num_coprime.coprime_dvd_right divides).symm
  have noDen : ¬ p ∣ den := (prime.out.coprime_iff_not_dvd).1
    (lowest.den_coprime.coprime_dvd_right divides).symm
  rw [padicValRat.div (by exact_mod_cast num_ne) (by exact_mod_cast den_ne), padicValRat.of_int,
    padicValRat.of_nat, padicValInt, padicValNat.eq_zero_of_not_dvd noNum,
    padicValNat.eq_zero_of_not_dvd noDen]
  rfl

theorem padicValRat_number (lowest : Lowest num den) {p : Nat} [Fact p.Prime]
    (divides : p ∣ 10) :
    padicValRat p (number num den twos fives) =
      twos * padicValRat p 2 + fives * padicValRat p 5 := by
  have quotient := lowest.quotient_ne_zero
  have two : (2 : ℚ) ^ twos ≠ 0 := zpow_ne_zero _ (by norm_num)
  have five : (5 : ℚ) ^ fives ≠ 0 := zpow_ne_zero _ (by norm_num)
  rw [number, padicValRat.mul (mul_ne_zero quotient two) five, padicValRat.mul quotient two,
    lowest.padicValRat_div divides, padicValRat.zpow, padicValRat.zpow, zero_add]

/-- **A number has one such form.** -/
theorem unique (lowest : Lowest num den) (lowest' : Lowest num' den')
    (same : number num den twos fives = number num' den' twos' fives') :
    num = num' ∧ den = den' ∧ twos = twos' ∧ fives = fives' := by
  have two_five : padicValRat 2 5 = 0 := by
    have := @padicValNat_primes 2 5 ⟨Nat.prime_two⟩ ⟨Nat.prime_five⟩ (by decide)
    exact_mod_cast this
  have five_two : padicValRat 5 2 = 0 := by
    have := @padicValNat_primes 5 2 ⟨Nat.prime_five⟩ ⟨Nat.prime_two⟩ (by decide)
    exact_mod_cast this
  have two_two : padicValRat 2 2 = 1 := padicValRat.self (by decide)
  have five_five : padicValRat 5 5 = 1 := padicValRat.self (by decide)
  have : Fact (Nat.Prime 5) := ⟨Nat.prime_five⟩
  obtain rfl : twos = twos' := by
    have count := congrArg (padicValRat 2) same
    rw [lowest.padicValRat_number (by decide), lowest'.padicValRat_number (by decide)] at count
    simpa [two_two, two_five] using count
  obtain rfl : fives = fives' := by
    have count := congrArg (padicValRat 5) same
    rw [lowest.padicValRat_number (by decide), lowest'.padicValRat_number (by decide)] at count
    simpa [five_two, five_five] using count
  have two : (2 : ℚ) ^ twos ≠ 0 := zpow_ne_zero _ (by norm_num)
  have five : (5 : ℚ) ^ fives ≠ 0 := zpow_ne_zero _ (by norm_num)
  have quotient : (num : ℚ) / (den : Int) = num' / (den' : Int) := by
    simpa [number, two, five] using same
  have pos : 0 < (den : Int) := by exact_mod_cast Nat.pos_of_ne_zero lowest.ne_zero.2
  have pos' : 0 < (den' : Int) := by exact_mod_cast Nat.pos_of_ne_zero lowest'.ne_zero.2
  obtain ⟨nums, dens⟩ := Rat.div_int_inj pos pos' lowest.coprime lowest'.coprime quotient
  exact ⟨nums, by exact_mod_cast dens, rfl, rfl⟩

theorem number_ne_zero (lowest : Lowest num den) : number num den twos fives ≠ 0 :=
  mul_ne_zero (mul_ne_zero lowest.quotient_ne_zero (zpow_ne_zero _ (by norm_num)))
    (zpow_ne_zero _ (by norm_num))

end Lowest

/-- The form of a number. -/
inductive Means : Amount → ℚ → Prop
  | zero : Means zero 0
  | lowest {num : Int} {den : Nat} {twos fives : Int} (lowest : Lowest num den) :
    Means (.exact num den twos fives) (number num den twos fives)

theorem Means.eq_iff {a b : Amount} {x y : ℚ} (means : a.Means x) (means' : b.Means y) :
    a = b ↔ x = y := by
  cases means with
  | zero =>
      cases means' with
      | zero => exact iff_of_true rfl rfl
      | lowest lowest =>
          refine iff_of_false (fun same => ?_) lowest.number_ne_zero.symm
          cases same
          exact lowest.ne_zero.1 rfl
  | lowest lowest =>
      cases means' with
      | zero =>
          refine iff_of_false (fun same => ?_) lowest.number_ne_zero
          cases same
          exact lowest.ne_zero.1 rfl
      | lowest lowest' =>
          constructor
          · rintro ⟨⟩
            rfl
          · intro same
            obtain ⟨rfl, rfl, rfl, rfl⟩ := lowest.unique lowest' same
            rfl

theorem number_neg (num : Int) (den : Nat) (twos fives : Int) :
    number (-num) den twos fives = -number num den twos fives := by
  rw [number, number]
  push_cast
  ring

section

variable {num den : Nat}

theorem rest_pos (nonzero : num ≠ 0) : 0 < (TenSplit.of num).rest := by
  refine Nat.pos_of_ne_zero fun zero => ?_
  have coprime := TenSplit.coprime_rest nonzero
  rw [zero] at coprime
  exact absurd coprime (by decide)

theorem lowest_of_split (num_ne : num ≠ 0) (den_ne : den ≠ 0) {s : Int}
    (magnitude : s.natAbs =
      (TenSplit.of num).rest / (TenSplit.of num).rest.gcd (TenSplit.of den).rest) :
    Lowest s ((TenSplit.of den).rest / (TenSplit.of num).rest.gcd (TenSplit.of den).rest) := by
  have g_pos := Nat.gcd_pos_of_pos_right (TenSplit.of num).rest (rest_pos den_ne)
  constructor
  · rw [magnitude]
    exact Nat.coprime_div_gcd_div_gcd g_pos
  · rw [magnitude]
    exact (TenSplit.coprime_rest num_ne).coprime_dvd_left
      (Nat.div_dvd_of_dvd (Nat.gcd_dvd_left _ _))
  · exact (TenSplit.coprime_rest den_ne).coprime_dvd_left
      (Nat.div_dvd_of_dvd (Nat.gcd_dvd_right _ _))

/-- Splitting a quotient does not change it. -/
theorem number_of_split (den_ne : den ≠ 0) (twos fives : Int) :
    let n := TenSplit.of num
    let d := TenSplit.of den
    number (n.rest / n.rest.gcd d.rest : Nat) (d.rest / n.rest.gcd d.rest)
      (twos + n.twos - d.twos) (fives + n.fives - d.fives) = number num den twos fives := by
  have num_eq := TenSplit.of_eq num
  have den_eq := TenSplit.of_eq den
  have rest_ne : ((TenSplit.of den).rest : ℚ) ≠ 0 := by exact_mod_cast (rest_pos den_ne).ne'
  have g_ne : (((TenSplit.of num).rest.gcd (TenSplit.of den).rest : Nat) : ℚ) ≠ 0 := by
    exact_mod_cast (Nat.gcd_pos_of_pos_right (TenSplit.of num).rest (rest_pos den_ne)).ne'
  dsimp only
  generalize TenSplit.of num = n at num_eq g_ne ⊢
  generalize TenSplit.of den = d at den_eq rest_ne g_ne ⊢
  rw [number, number, Int.cast_natCast, Int.cast_natCast, Nat.cast_div (Nat.gcd_dvd_left _ _) g_ne,
    Nat.cast_div (Nat.gcd_dvd_right _ _) g_ne, ← num_eq, ← den_eq]
  push_cast
  rw [zpow_sub₀ two_ne_zero, zpow_sub₀ (by norm_num), zpow_add₀ two_ne_zero,
    zpow_add₀ (by norm_num)]
  simp only [zpow_natCast]
  field_simp

/-- What a quotient is compared by is its form. -/
theorem means_ofRatio (negative : Bool) (num : Nat) (den_ne : den ≠ 0) (twos fives : Int) :
    (ofRatio negative num den twos fives).Means
      (signedValue negative (number num den twos fives)) := by
  by_cases num_ne : num = 0
  · subst num_ne
    have zero : signedValue negative (number (0 : Nat) den twos fives) = 0 := by
      cases negative <;> simp [signedValue, number]
    rw [zero]
    exact .zero
  · rw [ofRatio, if_neg num_ne, ← number_of_split den_ne]
    cases negative with
    | false => exact .lowest (lowest_of_split num_ne den_ne (Int.natAbs_natCast _))
    | true =>
        rw [signedValue, if_pos rfl, ← number_neg]
        refine .lowest (lowest_of_split num_ne den_ne ?_)
        rw [if_pos rfl, Int.natAbs_neg, Int.natAbs_natCast]

end

end Amount

/-! ## Atoms -/

namespace Atom

/-- The number that an atom is, if it is a real one. -/
def value? : Atom → Option ℚ
  | .bool b => some b.toNat
  | .int n => some n
  | .fraction q => some (q.num / q.den)
  | .double (.finite s m e) => some (signedValue s (m * 2 ^ e))
  | .decimal (.finite s c e) => some (signedValue s (c * 10 ^ e))
  | _ => none

theorem exists_means_of_value {a : Atom} {x : ℚ} (isNumber : a.value? = some x) :
    ∃ amount : Amount, a.meaning = .real amount ∧ amount.Means x := by
  have ratio (negative : Bool) (num : Nat) {den : Nat} (den_ne : den ≠ 0) (twos fives : Int)
      {y : ℚ} (same : signedValue negative (Amount.number num den twos fives) = y) :
      (Amount.ofRatio negative num den twos fives).Means y :=
    same ▸ Amount.means_ofRatio negative num den_ne twos fives
  have signed (n : Int) (den : Nat) :
      signedValue (decide (n < 0)) (Amount.number n.natAbs den 0 0) = n / den := by
    by_cases negative : n < 0
    · simp [signedValue, Amount.number, negative, abs_of_neg, neg_div]
    · simp [signedValue, Amount.number, negative, abs_of_nonneg (not_lt.1 negative)]
  cases a with
  | bool b =>
      cases isNumber
      exact ⟨_, rfl, ratio false b.toNat one_ne_zero 0 0 (by simp [signedValue, Amount.number])⟩
  | int n =>
      cases isNumber
      exact ⟨_, rfl, ratio _ _ one_ne_zero 0 0 (by rw [signed]; simp)⟩
  | fraction q =>
      cases isNumber
      exact ⟨_, rfl, ratio _ _ q.den_ne_zero.out 0 0 (signed _ _)⟩
  | double x =>
      cases x with
      | nan | infinite => cases isNumber
      | finite s m e =>
          cases isNumber
          exact ⟨_, rfl, ratio s m one_ne_zero e 0 (by simp [Amount.number])⟩
  | decimal x =>
      cases x with
      | nan | infinite => cases isNumber
      | finite s c e =>
          cases isNumber
          refine ⟨_, rfl, ratio s c one_ne_zero e e ?_⟩
          rw [Amount.number, mul_assoc, ← mul_zpow]
          norm_num
  | _ => cases isNumber

/-- **Numbers are one key just if they are equal**, whatever their types are. -/
theorem sameKey_iff_eq {a b : Atom} {x y : ℚ} (left : a.value? = some x)
    (right : b.value? = some y) : a.sameKey b = true ↔ x = y := by
  obtain ⟨amount, meaning, means⟩ := exists_means_of_value left
  obtain ⟨amount', meaning', means'⟩ := exists_means_of_value right
  rw [← means.eq_iff means']
  simp [sameKey, meaning, meaning', Meaning.real]

/-- A number that is far too long to be written out. -/
example : (Atom.decimal (.finite false 1 (10 ^ 12))).sameKey
    (.decimal (.finite false 10 (10 ^ 12 - 1))) = true := by
  decide +kernel

end Atom

end FieldTemplate
