import FieldTemplate.Text.Quoted
import Mathlib.Data.List.Basic

/-!
# Characters of numbers, parts and quoted texts

Digits are the only characters of a number (`Text.not_mem_ofNat`), and a text that is quoted gets
no characters but quotes, backslashes, letters and digits (`Text.not_mem_quoted`).
-/

namespace FieldTemplate.Text

set_option autoImplicit false

theorem not_mem_ofNat {c : Char} (other : c.isDigit = false) (n : Nat) : c ∉ ofNat n := by
  intro member
  have digit : c.isDigit = true :=
    Nat.isDigit_of_mem_toDigits (Nat.succ_pos 9) (Nat.le_refl 10) member
  rw [other] at digit
  cases digit

/-- Every digit of a number is one of its base. -/
theorem exists_digitChar_of_mem_toDigits {b n : Nat} (base : 1 < b) {c : Char}
    (member : c ∈ Nat.toDigits b n) : ∃ d < b, c = d.digitChar := by
  induction n using Nat.strongRecOn with
  | ind n ih =>
      rw [Nat.toDigits_eq_if base] at member
      split at member
      · next small => exact ⟨n, small, List.mem_singleton.1 member⟩
      · next large =>
        rcases List.mem_append.1 member with front | last
        · exact ih (n / b) (Nat.div_lt_self (by omega) base) front
        · exact ⟨n % b, Nat.mod_lt n (by omega), List.mem_singleton.1 last⟩

/-- A character splits a text into parts, or it is in one of them. -/
theorem mem_splitOn {d c : Char} {s : Text} (member : c ∈ s) :
    c = d ∨ ∃ part ∈ splitOn d s, c ∈ part := by
  induction s with
  | nil => cases member
  | cons first rest ih =>
      rw [splitOn]
      by_cases here : first = d
      · rw [if_pos here]
        rcases List.mem_cons.1 member with rfl | behind
        · exact .inl here
        · rcases ih behind with same | ⟨part, parts, inside⟩
          · exact .inl same
          · exact .inr ⟨part, List.mem_cons_of_mem _ parts, inside⟩
      · rw [if_neg here]
        -- the first character joins the first part, and all others stay where they are
        cases split : splitOn d rest with
        | nil =>
            simp only [split, List.mem_cons, List.not_mem_nil, false_and, exists_false, or_false,
              exists_eq_left] at ih member ⊢
            exact member.symm.imp_left ih
        | cons part parts =>
            simp only [split, List.mem_cons, exists_eq_or_imp] at ih member ⊢
            rcases member with first | behind
            · exact .inr (.inl (.inl first))
            · exact (ih behind).imp_right (Or.imp_left .inr)

/-! ## Quoted texts -/

theorem not_mem_hexDigits {c : Char} (other : ∀ d < 16, c ≠ Nat.digitChar d) (width n : Nat) :
    c ∉ hexDigits width n := by
  intro member
  rcases List.mem_append.1 member with filled | digit
  · exact other 0 (by decide) (List.eq_of_mem_replicate filled)
  · obtain ⟨d, small, same⟩ := exists_digitChar_of_mem_toDigits (by decide) digit
    exact other d small same

/-- A bracket in a quoted text was in the text. -/
theorem not_mem_quoted {s : Text} (absent : '[' ∉ s) : '[' ∉ quoted s := by
  have escaped (c : Char) : '[' ∉ codeEscape c := by
    have digits := @not_mem_hexDigits '[' (by decide)
    unfold codeEscape
    dsimp only
    split
    · simp [digits]
    · split <;> simp [digits]
  have each (quote : Char) : ∀ c ∈ s, '[' ∉ quoteChar quote c := by
    intro c member
    have other : '[' ≠ c := fun same => absent (same ▸ member)
    unfold quoteChar
    split
    · simp [other]
    split
    · simp
    split
    · simp
    split
    · simp
    split
    · simp [other]
    · exact escaped c
  have body (quote : Char) : '[' ∉ s.flatMap (quoteChar quote) := by
    simpa [List.mem_flatMap] using each quote
  unfold quoted
  dsimp only
  split <;> simp [body]

end FieldTemplate.Text
