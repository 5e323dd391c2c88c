import FieldTemplate.Number.Reader
import FieldTemplate.Value.Scalar
import FieldTemplate.Proofs.Number.Numeral
import FieldTemplate.Proofs.Number.Reduced
import FieldTemplate.Proofs.Text.Trim

/-!
# Decimals in positional notation

The text of a reduced decimal is a numeral and, behind a point, places that do not end with a zero
(`Decimal.plain_eq`, `Decimal.isPositional_plain`).  It is read back as a decimal of the same value
(`Decimal.read?_plain`): the reader finds nothing to clean and no word, and takes the digits on both
sides of the point for one number.
-/

namespace FieldTemplate

set_option autoImplicit false

namespace Text

/-- A whole part and the places behind the point, which is left out if there are none. -/
def withPlaces (whole places : Text) : Text :=
  if places = [] then whole else whole ++ '.' :: places

/-- An optional minus sign, a numeral, and at most one point with places behind it, the last of
which is not zero. -/
def IsPositional (s : Text) : Prop :=
  ∃ negative whole places, s = signed negative (withPlaces whole places) ∧ IsNumeral whole ∧
    (∀ c ∈ places, isDigit c = true) ∧ places.getLast? ≠ some '0'

/-- The characters that a text in positional notation is made of. -/
def IsNumeric (c : Char) : Prop := isDigit c = true ∨ c = '.' ∨ c = '-'

theorem isNumeric_of_mem_withPlaces {whole places : Text} {c : Char}
    (front : ∀ c ∈ whole, isDigit c = true) (behind : ∀ c ∈ places, isDigit c = true)
    (member : c ∈ withPlaces whole places) : IsNumeric c := by
  rw [withPlaces] at member
  split at member
  · exact .inl (front c member)
  · rcases List.mem_append.1 member with inFront | inPlaces
    · exact .inl (front c inFront)
    · rcases List.mem_cons.1 inPlaces with point | place
      · exact .inr (.inl point)
      · exact .inl (behind c place)

/-- The reader of numbers leaves these characters as they are. -/
theorem IsNumeric.uncleaned {c : Char} (numeric : IsNumeric c) :
    isBlank c = false ∧ c ≠ '_' ∧ numeralChar c = c := by
  rcases numeric with digit | rfl | rfl
  · exact of_isDigit (P := fun c => isBlank c = false ∧ c ≠ '_' ∧ numeralChar c = c) digit
      (by decide)
  · decide
  · decide

theorem cleaned_of_isNumeric {s : Text} (numeric : ∀ c ∈ s, IsNumeric c) :
    ((trim s).filter (· ≠ '_')).map numeralChar = s := by
  have solid : trim s = s :=
    trim_of_trimmed (trimmed_of_solid fun c member => (numeric c member).uncleaned.1)
  have kept : s.filter (· ≠ '_') = s := by
    rw [List.filter_eq_self]
    intro c member
    exact decide_eq_true (numeric c member).uncleaned.2.1
  rw [solid, kept]
  exact (List.map_congr_left fun c member => (numeric c member).uncleaned.2.2).trans s.map_id

end Text

namespace Decimal

open Text

variable {c : Nat} {e : Int} {d : Char} {s rest whole places : Text}

/-! ## Reading -/

theorem cutSign_signed (digit : isDigit d = true) (negative : Bool) (rest : Text) :
    cutSign (signed negative (d :: rest)) = (negative, d :: rest) := by
  cases negative with
  | true => rfl
  | false =>
      have unsigned : d ≠ '-' ∧ d ≠ '+' :=
        of_isDigit (P := fun d => d ≠ '-' ∧ d ≠ '+') digit (by decide)
      show cutSign (d :: rest) = _
      rw [cutSign.eq_def]
      split
      · next minus => exact absurd (List.cons.inj minus).1 unsigned.1
      · next plus => exact absurd (List.cons.inj plus).1 unsigned.2
      · rfl

/-- A text with a digit behind the sign is none of the words, and is read as a numeral. -/
theorem read?_of_digit {negative : Bool} (digit : isDigit d = true)
    (cleaned : ((trim s).filter (· ≠ '_')).map numeralChar = signed negative (d :: rest)) :
    read? s = (Numeral.read? (d :: rest)).map fun numeral =>
      .finite negative (toNat numeral.digits) numeral.exponent := by
  have letters : d.toLower ≠ 'i' ∧ 'n' ≠ d.toLower ∧ 's' ≠ d.toLower :=
    of_isDigit (P := fun d => d.toLower ≠ 'i' ∧ 'n' ≠ d.toLower ∧ 's' ≠ d.toLower) digit
      (by decide)
  unfold read?
  rw [cleaned]
  dsimp only
  rw [cutSign_signed digit]
  simp [asciiLower, dropStart?, letters, Option.map_eq_bind]

theorem spanDigits_append (digits : ∀ c ∈ s, isDigit c = true)
    (stop : ∀ c ∈ rest.head?, isDigit c = false) : spanDigits (s ++ rest) = (s, rest) := by
  rw [spanDigits, List.takeWhile_append_of_pos digits, List.dropWhile_append_of_pos digits]
  cases rest with
  | nil => rw [List.takeWhile_nil, List.dropWhile_nil, List.append_nil]
  | cons c rest =>
      have other : ¬ isDigit c = true := by simp [stop c rfl]
      rw [List.takeWhile_cons_of_neg other, List.dropWhile_cons_of_neg other, List.append_nil]

theorem spanDigits_of_digits (digits : ∀ c ∈ s, isDigit c = true) : spanDigits s = (s, []) := by
  have stop : ∀ c ∈ ([] : Text).head?, isDigit c = false := by simp
  simpa using spanDigits_append digits stop

/-- Digits on both sides of a point are one number, with its exponent as far down as there are
places. -/
theorem numeral_read?_withPlaces (front : ∀ c ∈ whole, isDigit c = true) (nonempty : whole ≠ [])
    (behind : ∀ c ∈ places, isDigit c = true) :
    Numeral.read? (withPlaces whole places) = some ⟨whole ++ places, -(places.length : Int)⟩ := by
  have some_digit : whole.isEmpty = false := by simpa using nonempty
  rw [withPlaces]
  split
  · next none =>
    subst none
    simp [Numeral.read?, spanDigits_of_digits front, some_digit]
  · have point : spanDigits (whole ++ '.' :: places) = (whole, '.' :: places) :=
      spanDigits_append front (by simp; decide)
    simp [Numeral.read?, point, spanDigits_of_digits behind, some_digit]

/-- **A text in positional notation is read as what its digits say.** -/
theorem read?_withPlaces (front : IsNumeral whole) (behind : ∀ c ∈ places, isDigit c = true)
    (negative : Bool) :
    read? (signed negative (withPlaces whole places)) =
      some (.finite negative (toNat (whole ++ places)) (-(places.length : Int))) := by
  have numeric : ∀ c ∈ signed negative (withPlaces whole places), IsNumeric c := by
    have body (c : Char) := isNumeric_of_mem_withPlaces (c := c) front.digits behind
    cases negative with
    | false => exact body
    | true => exact List.forall_mem_cons.2 ⟨.inr (.inr rfl), body⟩
  obtain ⟨d, rest, split⟩ : ∃ d rest, withPlaces whole places = d :: rest ∧ isDigit d = true := by
    obtain ⟨d, more, rfl⟩ := List.exists_cons_of_ne_nil front.nonempty
    have digit := front.digits d List.mem_cons_self
    rw [withPlaces]
    split
    · exact ⟨d, more, rfl, digit⟩
    · exact ⟨d, _, rfl, digit⟩
  have cleaned := cleaned_of_isNumeric numeric
  rw [split.1] at cleaned ⊢
  rw [read?_of_digit split.2 cleaned, ← split.1,
    numeral_read?_withPlaces front.digits front.nonempty behind]
  rfl

/-! ## Writing -/

/-- **The text of a decimal** is its whole part and as many places as the exponent is below zero. -/
theorem plain_eq (reduced : IsReduced c e) :
    plain c e = withPlaces (ofNat (c * 10 ^ e.toNat / 10 ^ (-e).toNat))
      (lastDigits (-e).toNat c) := by
  unfold plain
  dsimp only
  split
  · next whole =>
    have noPlaces : (-e).toNat = 0 := by omega
    rw [noPlaces, pow_zero, Nat.div_one, lastDigits, withPlaces, if_pos rfl]
    rcases reduced with ⟨rfl, rfl⟩ | nonzero
    · rfl
    · exact ofNat_append_zeros (by omega) _
  · next below =>
    have some_places : lastDigits (-e).toNat c ≠ [] := by
      rw [← List.length_pos_iff_ne_nil, length_lastDigits]
      omega
    have noZeros : e.toNat = 0 := by omega
    rw [noZeros, pow_zero, Nat.mul_one, withPlaces, if_neg some_places, padLeft_ofNat]
    generalize ofNat (c / 10 ^ (-e).toNat) = whole
    have split : (whole ++ lastDigits (-e).toNat c).length - (-e).toNat = whole.length := by
      rw [List.length_append, length_lastDigits, Nat.add_sub_cancel]
    rw [split, List.take_left' rfl, List.drop_left' rfl]

/-- **The text of a reduced decimal has no needless character.** -/
theorem isPositional_plain (reduced : IsReduced c e) (negative : Bool) :
    IsPositional (signed negative (plain c e)) := by
  refine ⟨negative, _, _, by rw [plain_eq reduced], isNumeral_ofNat _,
    fun _ => isDigit_of_mem_lastDigits, ?_⟩
  rcases reduced with ⟨rfl, rfl⟩ | nonzero
  · exact nofun
  · cases (-e).toNat with
    | zero => exact nofun
    | succ places =>
        have table : ∀ d < 10, d ≠ 0 → Nat.digitChar d ≠ '0' := by decide
        rw [lastDigits, List.getLast?_concat, Option.some_inj.ne]
        exact table _ (Nat.mod_lt c (by decide)) nonzero

/-- **The text of a reduced decimal is read back** with the same sign and the same value. -/
theorem read?_plain (reduced : IsReduced c e) (negative : Bool) :
    ∃ d f, read? (signed negative (plain c e)) = some (.finite negative d f) ∧
      (d : ℚ) * 10 ^ f = c * 10 ^ e := by
  rw [plain_eq reduced, read?_withPlaces (isNumeral_ofNat _) fun _ => isDigit_of_mem_lastDigits]
  refine ⟨_, _, rfl, ?_⟩
  rw [toNat_append, toNat_numeral, toNat_lastDigits, length_lastDigits]
  rcases le_total 0 e with whole | below
  · obtain ⟨k, rfl⟩ := Int.eq_ofNat_of_zero_le whole
    simp [Nat.mod_one]
  · obtain ⟨k, rfl⟩ : ∃ k : Nat, e = -(k : Int) := ⟨(-e).toNat, by omega⟩
    simp [Nat.div_add_mod]

end Decimal

end FieldTemplate
