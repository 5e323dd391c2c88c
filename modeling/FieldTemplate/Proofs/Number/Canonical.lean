import FieldTemplate.Proofs.Number.Positional

/-!
# The text of a decimal

Decimals that fit into the precision have one text for each sign and value, from which both are read
back; any other decimal within the range has the text of the nearest one that fits.  The main
statement is `Decimal.text_is_canonical_and_exact`.
-/

namespace FieldTemplate.Decimal

set_option autoImplicit false

variable {negative : Bool} {c d r : Nat} {e f : Int}

/-- Below the limit the text is that of a reduced form of the rounded number. -/
theorem exists_scalarText (low : rounded c e < 10 ^ (maxAdjusted + 1)) (negative : Bool) :
    ∃ d f, (finite negative c e).scalarText = .ok (signed negative (plain d f)) ∧
      IsReduced d f ∧ (d : ℚ) * 10 ^ f = rounded c e := by
  obtain ⟨d, f, reduced, form, same⟩ := exists_reduce? low
  exact ⟨d, f, by rw [scalarText, reduced], form, same⟩

/-- Numbers that are rounded alike have the same text. -/
theorem scalarText_congr (same : rounded c e = rounded d f) (negative : Bool) :
    (finite negative c e).scalarText = (finite negative d f).scalarText := by
  have reduced : reduce? c e = reduce? d f := by
    ext ⟨a, g⟩
    rw [reduce?_eq_some_iff, reduce?_eq_some_iff, same]
  rw [scalarText, scalarText, reduced]

/-- The text of a decimal that fits is that of a reduced form of it. -/
theorem exists_scalarText_of_fits (fits : Fits c e) (negative : Bool) :
    ∃ d f, (finite negative c e).scalarText = .ok (signed negative (plain d f)) ∧
      IsReduced d f ∧ (d : ℚ) * 10 ^ f = c * 10 ^ e := by
  have exact := rounded_of_fits fits
  have low := lt_limit_of_fits fits
  rw [← exact] at low ⊢
  exact exists_scalarText low negative

/-- **A decimal that fits has a text in positional notation, which is read back.** -/
theorem scalarText_of_fits (fits : Fits c e) (negative : Bool) :
    ∃ t, (finite negative c e).scalarText = .ok t ∧ Text.IsPositional t ∧
      ∃ d f, read? t = some (.finite negative d f) ∧ (d : ℚ) * 10 ^ f = c * 10 ^ e := by
  obtain ⟨d, f, text, form, same⟩ := exists_scalarText_of_fits fits negative
  refine ⟨_, text, isPositional_plain form negative, ?_⟩
  rw [← same]
  exact read?_plain form negative

/-- **Texts are the same exactly if sign and value are.** -/
theorem scalarText_eq_iff {s t : Bool} (left : Fits c e) (right : Fits d f) :
    (finite s c e).scalarText = (finite t d f).scalarText ↔
      s = t ∧ (c : ℚ) * 10 ^ e = d * 10 ^ f := by
  constructor
  · intro same
    obtain ⟨u, leftText, -, _, _, leftRead, leftValue⟩ := scalarText_of_fits left s
    obtain ⟨v, rightText, -, _, _, rightRead, rightValue⟩ := scalarText_of_fits right t
    rw [leftText, rightText] at same
    cases same
    rw [leftRead] at rightRead
    cases rightRead
    exact ⟨rfl, leftValue.symm.trans rightValue⟩
  · rintro ⟨rfl, same⟩
    apply scalarText_congr
    rw [rounded_of_fits left, rounded_of_fits right, same]

/-- What a number is rounded to fits, if it is in the range. -/
theorem fits_of_roundsTo {x : ℚ} (rounds : RoundsTo x r f) (least : minAdjusted ≤ adjusted r f)
    (most : adjusted r f ≤ maxAdjusted) : Fits r f := by
  refine .inr ⟨?_, least, most⟩
  rcases rounds.le.eq_or_lt with rfl | few
  · exact ⟨10 ^ (precision - 1), 1, by decide, by decide⟩
  · exact ⟨r, 0, by rw [pow_zero, mul_one], few⟩

/-- **The text of a decimal is canonical and exact.**  If it fits into the precision, it has a text
in positional notation without needless zeros, from which its sign and value are read back, and
texts are the same exactly if sign and value are.  Any other is rounded to the nearest of the
numbers with as many digits as the precision, a half to the even one, and has the text of that, if it
is in the range. -/
theorem text_is_canonical_and_exact :
    (∀ negative c e, Fits c e →
      ∃ t, (finite negative c e).scalarText = .ok t ∧ Text.IsPositional t ∧
        ∃ d f, read? t = some (.finite negative d f) ∧ (d : ℚ) * 10 ^ f = c * 10 ^ e) ∧
    (∀ s t c d e f, Fits c e → Fits d f →
      ((finite s c e).scalarText = (finite t d f).scalarText ↔
        s = t ∧ (c : ℚ) * 10 ^ e = d * 10 ^ f)) ∧
    (∀ (c : Nat) e, 0 < c → ∃ r f, RoundsTo (c * 10 ^ e) r f) ∧
    (∀ negative (c : Nat) e r f, RoundsTo (c * 10 ^ e) r f →
      minAdjusted ≤ adjusted r f → adjusted r f ≤ maxAdjusted →
        Fits r f ∧ (finite negative c e).scalarText = (finite negative r f).scalarText) := by
  refine ⟨fun negative c e fits => scalarText_of_fits fits negative,
    fun s t c d e f => scalarText_eq_iff, fun c e pos => exists_roundsTo pos e,
    fun negative c e r f rounds least most => ?_⟩
  have fits := fits_of_roundsTo rounds least most
  refine ⟨fits, scalarText_congr ?_ negative⟩
  rw [rounded_of_roundsTo rounds least, rounded_of_fits fits]

/-- One number with trailing zeros and with an exponent; and one with 29 digits, half way between a
number of 28 nines and the power of ten behind it, which is the even one. -/
theorem text_is_canonical_and_exact_from_half :
    (finite true 12000 (-2)).scalarText = (finite true 12 1).scalarText ∧
      (finite false 99999999999999999999999999995 (-29)).scalarText =
        (finite false (10 ^ 28) (-28)).scalarText := by
  obtain ⟨-, same, -, rounded⟩ := text_is_canonical_and_exact
  refine ⟨(same true true 12000 12 (-2) 1 ?_ ?_).2 ⟨rfl, by norm_num⟩,
    (rounded false 99999999999999999999999999995 (-29) (10 ^ 28) (-28) ?_ ?_ ?_).2⟩
  · exact .inr ⟨⟨12, 3, by decide, by decide⟩, by decide, by decide⟩
  · exact .inr ⟨⟨12, 0, by decide, by decide⟩, by decide, by decide⟩
  · refine ⟨by norm_num [precision], by norm_num [precision], .inr ⟨by norm_num, by decide⟩⟩
  · decide +kernel
  · decide +kernel

end FieldTemplate.Decimal
