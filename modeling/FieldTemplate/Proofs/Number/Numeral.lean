import FieldTemplate.Text.Basic
import Mathlib.Data.List.Basic
import Mathlib.Tactic.Ring

/-!
# Base-ten numerals

A numeral has at least one digit and no zero in front of another digit.  Each number has one, from
which it is read back (`Text.isNumeral_ofNat`, `Text.toNat_numeral`); the digits behind a
point are of a fixed number, so `Text.lastDigits` keeps the zeros in front.
-/

namespace FieldTemplate.Text

set_option autoImplicit false

/-- At least one digit, and no zero in front of another. -/
structure IsNumeral (s : Text) : Prop where
  digits : ∀ c ∈ s, isDigit c = true
  nonempty : s ≠ []
  noLeadingZero : s.head? = some '0' → s = ['0']

/-- The digits of the last places of a number, leading zeros included. -/
def lastDigits : Nat → Nat → Text
  | 0, _ => []
  | places + 1, n => lastDigits places (n / 10) ++ [Nat.digitChar (n % 10)]

/-! ## Digits -/

theorem isDigit_digitChar {d : Nat} (small : d < 10) : isDigit (Nat.digitChar d) = true := by
  have table : ∀ d < 10, isDigit (Nat.digitChar d) = true := by decide
  exact table d small

theorem isDigit_iff {c : Char} : isDigit c = true ↔ 48 ≤ c.toNat ∧ c.toNat ≤ 57 := by
  rw [isDigit, Bool.and_eq_true, decide_eq_true_iff, decide_eq_true_iff]
  exact Iff.rfl

/-- What holds of the ten digits holds of a digit. -/
theorem of_isDigit {P : Char → Prop} {c : Char} (digit : isDigit c = true)
    (table : ∀ d < 10, P (Char.ofNat (48 + d))) : P c := by
  obtain ⟨least, most⟩ := isDigit_iff.1 digit
  have here := table (c.toNat - 48) (by omega)
  rwa [Nat.add_sub_cancel' least, Char.ofNat_toNat] at here

theorem isDigit_of_mem_ofNat {c : Char} {n : Nat} (member : c ∈ ofNat n) : isDigit c = true :=
  Nat.isDigit_of_mem_toDigits (by decide) (by decide) member

theorem isDigit_of_mem_lastDigits {c : Char} {places n : Nat} (member : c ∈ lastDigits places n) :
    isDigit c = true := by
  induction places generalizing n with
  | zero => cases member
  | succ places ih =>
      rcases List.mem_append.1 member with front | last
      · exact ih front
      · rw [List.mem_singleton.1 last]
        exact isDigit_digitChar (Nat.mod_lt n (by decide))

/-- The last digit comes off the end. -/
theorem ofNat_eq (n : Nat) :
    ofNat n = if n < 10 then [Nat.digitChar n] else ofNat (n / 10) ++ [Nat.digitChar (n % 10)] :=
  Nat.toDigits_eq_if (by decide)

theorem length_ofNat_le_iff {n k : Nat} (pos : 0 < k) : (ofNat n).length ≤ k ↔ n < 10 ^ k :=
  Nat.length_toDigits_le_iff (by decide) pos

/-- An integer is written exactly if it lies below that power of ten. -/
theorem ofInt?_eq (n : Int) :
    ofInt? n = if n.natAbs < 10 ^ digitLimit then some (ofInt n) else none := by
  simp only [ofInt?, length_ofNat_le_iff (show 0 < digitLimit by decide)]

theorem length_ofNat_pos (n : Nat) : 0 < (ofNat n).length := Nat.length_toDigits_pos

theorem ofNat_ne_nil (n : Nat) : ofNat n ≠ [] := Nat.toDigits_ne_nil

theorem head?_ofNat_ne_zero {n : Nat} (pos : 0 < n) : (ofNat n).head? ≠ some '0' := by
  induction n using Nat.strongRecOn with
  | ind n ih =>
      rw [ofNat_eq]
      split
      · next small =>
        have table : ∀ d < 10, 0 < d → Nat.digitChar d ≠ '0' := by decide
        simpa using table n small pos
      · next large =>
        have front := ih (n / 10) (by omega) (by omega)
        rwa [List.head?_append_of_ne_nil _ (ofNat_ne_nil _)]

/-- **The numeral of a number is one.** -/
theorem isNumeral_ofNat (n : Nat) : IsNumeral (ofNat n) := by
  refine ⟨fun c member => isDigit_of_mem_ofNat member, ofNat_ne_nil n, fun zero => ?_⟩
  rcases n.eq_zero_or_pos with rfl | pos
  · rfl
  · exact absurd zero (head?_ofNat_ne_zero pos)

/-! ## Values -/

theorem toNat_append (s t : Text) : toNat (s ++ t) = 10 ^ t.length * toNat s + toNat t := by
  have appended : toNat (s ++ t) = Nat.ofDigitChars 10 t (toNat s) := Nat.ofDigitChars_append 0
  rw [appended, Nat.ofDigitChars_eq_ofDigitChars_zero]
  rfl

/-- **A number is read back from its numeral.** -/
theorem toNat_numeral (n : Nat) : toNat (ofNat n) = n := Nat.ofDigitChars_ten_toDigits

theorem length_lastDigits (places n : Nat) : (lastDigits places n).length = places := by
  induction places generalizing n with
  | zero => rfl
  | succ places ih => rw [lastDigits, List.length_append, ih, List.length_singleton]

theorem toNat_lastDigits (places n : Nat) : toNat (lastDigits places n) = n % 10 ^ places := by
  induction places generalizing n with
  | zero =>
      rw [pow_zero, Nat.mod_one]
      rfl
  | succ places ih =>
      have last : toNat [Nat.digitChar (n % 10)] = n % 10 := by
        have table : ∀ d < 10, toNat [Nat.digitChar d] = d := by decide
        exact table _ (Nat.mod_lt n (by decide))
      rw [lastDigits, toNat_append, ih, last, List.length_singleton, pow_one, Nat.pow_succ',
        Nat.mod_mul]
      omega

/-! ## Filling with zeros -/

/-- Zeros at the end multiply. -/
theorem ofNat_append_zeros {n : Nat} (pos : 0 < n) (k : Nat) :
    ofNat n ++ List.replicate k '0' = ofNat (n * 10 ^ k) := by
  induction k with
  | zero => simp
  | succ k ih =>
      have some_left : 0 < n * 10 ^ k := Nat.mul_pos pos (Nat.pow_pos (by decide))
      have tenfold : n * 10 ^ (k + 1) = 10 * (n * 10 ^ k) + 0 := by ring
      rw [List.replicate_succ', ← List.append_assoc, ih, tenfold]
      exact Nat.toDigits_append_toDigits (b := 10) (d := 0) (by decide) some_left (by decide)

/-- **Zeros in front fill up the last places**, and what stands before these is the quotient. -/
theorem padLeft_ofNat (places n : Nat) :
    padLeft (places + 1) '0' (ofNat n) = ofNat (n / 10 ^ places) ++ lastDigits places n := by
  induction places generalizing n with
  | zero =>
      have some_digit : 1 - (ofNat n).length = 0 := Nat.sub_eq_zero_of_le (length_ofNat_pos n)
      rw [padLeft, some_digit, pow_zero, Nat.div_one, lastDigits, List.append_nil]
      rfl
  | succ places ih =>
      have front : padLeft (places + 2) '0' (ofNat n) =
          padLeft (places + 1) '0' (ofNat (n / 10)) ++ [Nat.digitChar (n % 10)] := by
        rw [ofNat_eq n]
        split
        · next small =>
          rw [Nat.div_eq_of_lt small, Nat.mod_eq_of_lt small]
          have zeros : padLeft (places + 1) '0' (ofNat 0) = List.replicate (places + 1) '0' := by
            rw [List.replicate_succ']
            rfl
          rw [zeros]
          rfl
        · have same (k : Nat) : places + 2 - (k + 1) = places + 1 - k := by omega
          rw [padLeft, padLeft, List.length_append, List.length_singleton, same,
            List.append_assoc]
      rw [front, ih, lastDigits, ← List.append_assoc, Nat.div_div_eq_div_mul, ← Nat.pow_succ']

end FieldTemplate.Text
