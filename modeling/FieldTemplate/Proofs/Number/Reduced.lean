import FieldTemplate.Proofs.Number.Decimal

/-!
# The reduced form of a decimal

Reducing a decimal rounds it (`Decimal.rounded`) and drops its trailing zeros; nothing else has that
value and no trailing zero, which says what the reduced form is (`Decimal.reduce?_eq_some_iff`).  A
decimal that fits into the precision is not changed by rounding (`Decimal.rounded_of_fits`), and any
other is rounded to the nearest of 28 digits, a half to the even one, as long as the result is
within the range of exponents (`Decimal.rounded_of_roundsTo`).
-/

namespace FieldTemplate

set_option autoImplicit false

namespace Decimal

variable {c d r : Nat} {e f g : Int}

/-- The number that rounding leaves. -/
def rounded (c : Nat) (e : Int) : ℚ := roundDiv c (10 ^ excess c e) * 10 ^ (e + excess c e)

/-- No trailing zero; and a zero has the exponent zero. -/
def IsReduced (c : Nat) (e : Int) : Prop := c = 0 ∧ e = 0 ∨ c % 10 ≠ 0

/-! ## One form for each number -/

/-- Numbers at different exponents are compared at the lower one. -/
theorem mul_ten_zpow_eq_iff (c d : Nat) (e : Int) (k : Nat) :
    (c : ℚ) * 10 ^ e = d * 10 ^ (e + k) ↔ c = d * 10 ^ k := by
  have scaled : (d : ℚ) * 10 ^ (e + k) = (d * 10 ^ k : Nat) * 10 ^ e := by
    rw [ten_zpow_add]
    push_cast
    ring
  rw [scaled, mul_left_inj' (ten_zpow_pos e).ne', Nat.cast_inj]

theorem exponent_le_of_eq (reduced : d % 10 ≠ 0) (same : (c : ℚ) * 10 ^ e = d * 10 ^ f) :
    e ≤ f := by
  by_contra above
  obtain ⟨k, rfl⟩ : ∃ k : Nat, e = f + (k + 1 : Nat) := ⟨(e - f - 1).toNat, by omega⟩
  rw [eq_comm, mul_ten_zpow_eq_iff, Nat.pow_succ'] at same
  refine reduced (Nat.mod_eq_zero_of_dvd ⟨c * 10 ^ k, ?_⟩)
  rw [same, Nat.mul_left_comm]

/-- **A number has one reduced form.** -/
theorem IsReduced.unique (left : IsReduced c e) (right : IsReduced d f)
    (same : (c : ℚ) * 10 ^ e = d * 10 ^ f) : c = d ∧ e = f := by
  have zero_iff : c = 0 ↔ d = 0 := by
    have sides : (c : ℚ) * 10 ^ e = 0 ↔ (d : ℚ) * 10 ^ f = 0 := by rw [same]
    simpa [(ten_zpow_pos e).ne', (ten_zpow_pos f).ne'] using sides
  rcases left with ⟨rfl, rfl⟩ | left
  · rcases right with ⟨rfl, rfl⟩ | right
    · exact ⟨rfl, rfl⟩
    · exact absurd (zero_iff.1 rfl) (by omega)
  · rcases right with ⟨rfl, rfl⟩ | right
    · exact absurd (zero_iff.2 rfl) (by omega)
    · obtain rfl := le_antisymm (exponent_le_of_eq right same) (exponent_le_of_eq left same.symm)
      rw [mul_left_inj' (ten_zpow_pos e).ne', Nat.cast_inj] at same
      exact ⟨same, rfl⟩

/-! ## Rounding and dropping zeros -/

/-- A carry changes the spelling of the rounded number only, and leaves it within the precision. -/
theorem round?_eq_some (pos : 0 < c) (some_left : round? c e = some (r, g)) :
    r < 10 ^ precision ∧ (r : ℚ) * 10 ^ g = rounded c e := by
  have small : roundDiv c (10 ^ excess c e) ≤ 10 ^ precision := by
    refine roundDiv_le (by positivity) ?_
    rw [← pow_add]
    exact (lt_of_excess c e).le
  rw [round?, if_neg pos.ne'] at some_left
  simp only [dropDigits_eq] at some_left
  rw [← excess] at some_left
  rw [rounded]
  generalize roundDiv c (10 ^ excess c e) = q at *
  generalize e + (excess c e : Int) = h at *
  split at some_left
  · next carry =>
    split at some_left
    · cases some_left
    · cases some_left
      refine ⟨Nat.pow_lt_pow_right (by decide) (by decide), ?_⟩
      rw [carry, zpow_add_one₀ (by norm_num)]
      simp only [precision, Nat.pow_eq]
      push_cast
      ring
  · next fits =>
    split at some_left
    · cases some_left
    · cases some_left
      exact ⟨lt_of_le_of_ne small fits, rfl⟩

/-- Zeros are dropped up to the last one: below the limit the exponent may grow as far. -/
theorem stripZeros_spec {fuel : Nat} (pos : 0 < c) (few : c < 10 ^ fuel)
    (low : (c : ℚ) * 10 ^ e < 10 ^ (maxAdjusted + 1)) :
    (stripZeros fuel c e).1 % 10 ≠ 0 ∧
      ((stripZeros fuel c e).1 : ℚ) * 10 ^ (stripZeros fuel c e).2 = c * 10 ^ e := by
  induction fuel generalizing c e with
  | zero => omega
  | succ fuel ih =>
      rw [stripZeros]
      by_cases divisible : c % 10 = 0
      · have tenfold : c = c / 10 * 10 := by omega
        have same : ((c / 10 : Nat) : ℚ) * 10 ^ (e + 1) = c * 10 ^ e := by
          rw [eq_comm]
          exact (mul_ten_zpow_eq_iff c (c / 10) e 1).2 tenfold
        have some_left : 0 < c / 10 := by omega
        have room : e < maxAdjusted := by
          have reached : (10 : ℚ) ^ (e + 1) ≤ (c / 10 : Nat) * 10 ^ (e + 1) :=
            le_mul_of_one_le_left (ten_zpow_pos _).le (by exact_mod_cast some_left)
          have below := reached.trans_lt (same.trans_lt low)
          rw [← not_le, ten_zpow_le_iff] at below
          omega
        rw [if_pos ⟨pos.ne', divisible, room⟩, ← same]
        rw [← same] at low
        exact ih some_left (by rw [Nat.pow_succ] at few; omega) low
      · rw [if_neg fun all => divisible all.2.1]
        exact ⟨divisible, rfl⟩

theorem rounded_zero (e : Int) : rounded 0 e = 0 := by
  have none_left : roundDiv 0 (10 ^ excess 0 e) = 0 :=
    Nat.le_zero.1 (roundDiv_le (by positivity) (Nat.zero_le _))
  rw [rounded, none_left, Nat.cast_zero, zero_mul]

/-- Below the limit a number has a reduced form, that of the rounded number. -/
theorem exists_reduce? (low : rounded c e < 10 ^ (maxAdjusted + 1)) :
    ∃ d f, reduce? c e = some (d, f) ∧ IsReduced d f ∧ (d : ℚ) * 10 ^ f = rounded c e := by
  rcases c.eq_zero_or_pos with rfl | pos
  · exact ⟨0, 0, rfl, .inl ⟨rfl, rfl⟩, by rw [rounded_zero, Nat.cast_zero, zero_mul]⟩
  · have possible : round? c e ≠ none := fun none =>
      absurd ((round?_eq_none_iff_rounded pos e).1 none) (not_le.2 low)
    obtain ⟨⟨r, g⟩, some_left⟩ := Option.ne_none_iff_exists'.1 possible
    obtain ⟨small, same⟩ := round?_eq_some pos some_left
    rw [reduce?, some_left, Option.map_some]
    rcases r.eq_zero_or_pos with rfl | left
    · exact ⟨0, 0, rfl, .inl ⟨rfl, rfl⟩, by rw [← same, Nat.cast_zero, zero_mul, zero_mul]⟩
    · rw [← same] at low ⊢
      obtain ⟨whole, value⟩ := stripZeros_spec left small low
      exact ⟨_, _, by simp only [if_neg left.ne'], .inr whole, value⟩

/-- **The reduced form is that of the rounded number**, as long as this is below the limit. -/
theorem reduce?_eq_some_iff :
    reduce? c e = some (d, f) ↔
      rounded c e < 10 ^ (maxAdjusted + 1) ∧ IsReduced d f ∧ (d : ℚ) * 10 ^ f = rounded c e := by
  constructor
  · intro reduced
    have low : rounded c e < 10 ^ (maxAdjusted + 1) := by
      rcases c.eq_zero_or_pos with rfl | pos
      · rw [rounded_zero]
        exact ten_zpow_pos _
      · by_contra high
        have none := (round?_eq_none_iff_rounded pos e).2 (not_lt.1 high)
        rw [reduce?, none] at reduced
        cases reduced
    obtain ⟨_, _, found, form, same⟩ := exists_reduce? low
    rw [reduced] at found
    cases found
    exact ⟨low, form, same⟩
  · rintro ⟨low, form, same⟩
    obtain ⟨d', f', found, form', same'⟩ := exists_reduce? low
    obtain ⟨rfl, rfl⟩ := form.unique form' (same.trans same'.symm)
    exact found

/-! ## Numbers that fit -/

/-- No more digits than the precision, apart from trailing zeros, and a first digit within the
range; or a zero. -/
def Fits (c : Nat) (e : Int) : Prop :=
  c = 0 ∨ (∃ d k, c = d * 10 ^ k ∧ d < 10 ^ precision) ∧
    minAdjusted ≤ adjusted c e ∧ adjusted c e ≤ maxAdjusted

/-- What is dropped of a number that fits is trailing zeros. -/
theorem exists_mul_of_fits (fits : Fits c e) : ∃ q, c = q * 10 ^ excess c e := by
  rcases fits with rfl | ⟨⟨d, k, rfl, few⟩, least, -⟩
  · exact ⟨0, by rw [Nat.zero_mul]⟩
  · have width : (Text.ofNat (d * 10 ^ k)).length ≤ precision + k := by
      refine (Text.length_ofNat_le_iff (by simp [precision])).2 ?_
      rw [pow_add]
      gcongr
    have enough : excess (d * 10 ^ k) e ≤ k := by
      rw [adjusted] at least
      simp only [excess, leastExponent, precision] at *
      omega
    refine ⟨d * 10 ^ (k - excess (d * 10 ^ k) e), ?_⟩
    rw [mul_assoc, ← pow_add, Nat.sub_add_cancel enough]

/-- **Rounding leaves a number alone that fits.** -/
theorem rounded_of_fits (fits : Fits c e) : rounded c e = c * 10 ^ e := by
  obtain ⟨q, whole⟩ := exists_mul_of_fits fits
  have exact : roundDiv c (10 ^ excess c e) = q := by
    generalize excess c e = drop at whole
    rw [whole]
    exact roundDiv_mul q (by positivity)
  rw [rounded, exact, eq_comm]
  exact (mul_ten_zpow_eq_iff c q e _).2 whole

theorem lt_limit_of_fits (fits : Fits c e) : (c : ℚ) * 10 ^ e < 10 ^ (maxAdjusted + 1) := by
  rcases fits with rfl | ⟨-, -, most⟩
  · simpa using ten_zpow_pos (maxAdjusted + 1)
  · rcases c.eq_zero_or_pos with rfl | pos
    · simpa using ten_zpow_pos (maxAdjusted + 1)
    · rw [← not_le, ← le_adjusted_iff pos]
      omega

/-! ## Numbers that are rounded -/

/-- The number is rounded to `r * 10 ^ f` at the last of its digits within the precision, to the
nearest and from a half to the even one. -/
structure RoundsTo (x : ℚ) (r : Nat) (f : Int) : Prop where
  full : (10 : ℚ) ^ (precision - 1) ≤ x / 10 ^ f
  within : x / 10 ^ f < (10 : ℚ) ^ precision
  nearest : IsNearest (x / 10 ^ f) r

variable {x : ℚ}

theorem ten_pow_le_div_iff (x : ℚ) (f : Int) (k : Nat) :
    (10 : ℚ) ^ k ≤ x / 10 ^ f ↔ 10 ^ (f + k) ≤ x := by
  rw [ten_zpow_add, mul_comm ((10 : ℚ) ^ f), le_div_iff₀ (ten_zpow_pos f)]

theorem RoundsTo.pos (rounds : RoundsTo x r f) : 0 < x := by
  have ten_pos : (0 : ℚ) < 10 ^ (precision - 1) := by positivity
  exact (div_pos_iff_of_pos_right (ten_zpow_pos f)).1 (ten_pos.trans_le rounds.full)

/-- The place is that of the last digit within the precision. -/
theorem RoundsTo.adjusted_eq (rounds : RoundsTo (c * 10 ^ e) r f) :
    adjusted c e = f + (precision - 1 : Nat) := by
  have pos : 0 < c := by
    rw [Nat.pos_iff_ne_zero]
    rintro rfl
    simpa using rounds.pos
  have lower := (ten_pow_le_div_iff _ _ _).1 rounds.full
  have upper := (ten_pow_le_div_iff _ _ _).not.1 (not_le.2 rounds.within)
  rw [← le_adjusted_iff pos] at lower upper
  simp only [precision] at *
  omega

theorem RoundsTo.le (rounds : RoundsTo x r f) : r ≤ 10 ^ precision := by
  have near := (abs_le.1 rounds.nearest.distance_le).1
  have within := rounds.within
  have below : (r : ℚ) < (10 ^ precision : Nat) + 1 := by
    push_cast
    linarith
  exact Nat.lt_succ_iff.1 (by exact_mod_cast below)

/-- Every number is rounded to some number within the precision. -/
theorem exists_roundsTo (pos : 0 < c) (e : Int) : ∃ r f, RoundsTo (c * 10 ^ e) r f := by
  -- the place of the last digit within the precision
  obtain ⟨f, place⟩ : ∃ f, adjusted c e = f + (precision - 1 : Nat) :=
    ⟨_, (sub_add_cancel _ _).symm⟩
  have full : (10 : ℚ) ^ (precision - 1) ≤ c * 10 ^ e / 10 ^ f := by
    rw [ten_pow_le_div_iff, ← le_adjusted_iff pos, place]
  have within : (c : ℚ) * 10 ^ e / 10 ^ f < 10 ^ precision := by
    rw [← not_le, ten_pow_le_div_iff, ← le_adjusted_iff pos, place]
    simp only [precision]
    omega
  have quotient : (c : ℚ) * 10 ^ e / 10 ^ f =
      (c * 10 ^ (e - f).toNat : Nat) / (10 ^ (f - e).toNat : Nat) := by
    have powers : (10 : ℚ) ^ (e - f) = 10 ^ (e - f).toNat / 10 ^ (f - e).toNat := by
      rw [← zpow_natCast, ← zpow_natCast, ← zpow_sub₀ (by norm_num)]
      congr 1
      omega
    rw [mul_div_assoc, ← zpow_sub₀ (by norm_num), powers]
    push_cast
    ring
  refine ⟨roundDiv (c * 10 ^ (e - f).toNat) (10 ^ (f - e).toNat), f, full, within, ?_⟩
  rw [quotient]
  exact (roundDiv_eq_iff _ _ (by positivity)).1 rfl

/-- At a coarser place a number is rounded alike, if the rounded number has one there. -/
theorem rounded_of_multiple {m : Nat} (nearest : IsNearest (c * 10 ^ e / 10 ^ f) r)
    (coarser : f ≤ e + excess c e) (multiple : (r : ℚ) * 10 ^ f = m * 10 ^ (e + excess c e)) :
    rounded c e = r * 10 ^ f := by
  obtain ⟨k, place⟩ : ∃ k : Nat, e + excess c e = f + k := ⟨(e + excess c e - f).toNat, by omega⟩
  have number : (c : ℚ) * 10 ^ e / 10 ^ f = (c : ℚ) / (10 ^ excess c e : Nat) * 10 ^ k := by
    have powers : (10 : ℚ) ^ e * 10 ^ excess c e = 10 ^ f * 10 ^ k := by
      rw [← ten_zpow_add, ← ten_zpow_add, place]
    have := (ten_zpow_pos f).ne'
    push_cast
    field_simp
    rw [mul_assoc, powers, mul_assoc]
  rw [rounded, multiple]
  rw [place, mul_ten_zpow_eq_iff] at multiple
  rw [number, multiple] at nearest
  rw [(roundDiv_eq_iff c m (by positivity)).2 nearest.of_scaled]

/-- A number without digits beyond its own exponent is the nearest one to itself. -/
theorem eq_of_whole {k : Nat} (nearest : IsNearest (c * 10 ^ (f + k) / 10 ^ f) r) :
    (r : ℚ) * 10 ^ f = c * 10 ^ (f + k) := by
  have whole : (c : ℚ) * 10 ^ (f + k) / 10 ^ f = (c * 10 ^ k : Nat) / (1 : Nat) := by
    have := (ten_zpow_pos f).ne'
    rw [ten_zpow_add]
    push_cast
    field_simp
  rw [whole] at nearest
  rw [mul_ten_zpow_eq_iff, ← (roundDiv_eq_iff _ r one_pos).2 nearest, roundDiv_one]

/-- **Rounding gives the nearest number within the precision** and from a half the even one, as long
as that is in the range. -/
theorem rounded_of_roundsTo (rounds : RoundsTo (c * 10 ^ e) r f)
    (least : minAdjusted ≤ adjusted r f) : rounded c e = r * 10 ^ f := by
  have place := rounds.adjusted_eq
  have coarser : f ≤ e + excess c e := by
    simp only [adjusted, excess, precision] at *
    omega
  suffices multiple : ∃ m : Nat, (r : ℚ) * 10 ^ f = m * 10 ^ (e + excess c e) by
    obtain ⟨m, multiple⟩ := multiple
    exact rounded_of_multiple rounds.nearest coarser multiple
  by_cases here : f = e + excess c e
  · exact ⟨r, by rw [← here]⟩
  by_cases exact : excess c e = 0
  · obtain ⟨k, rfl⟩ : ∃ k : Nat, e = f + k := ⟨(e - f).toNat, by omega⟩
    refine ⟨c, ?_⟩
    rw [exact, Nat.cast_zero, add_zero]
    exact eq_of_whole rounds.nearest
  · -- the number is below the range, and rounded up to the least one in it
    have most : (Text.ofNat r).length ≤ precision + 1 := by
      refine (Text.length_ofNat_le_iff (Nat.succ_pos _)).2 (rounds.le.trans_lt ?_)
      exact Nat.pow_lt_pow_right (by decide) (Nat.lt_succ_self _)
    obtain ⟨place, full⟩ : e + excess c e = f + 1 ∧ ¬ (Text.ofNat r).length ≤ precision := by
      simp only [adjusted, excess, leastExponent, precision] at *
      omega
    rw [Text.length_ofNat_le_iff (by decide), Nat.not_lt] at full
    have carried : r = 10 ^ (precision - 1) * 10 ^ 1 := by
      rw [← pow_add]
      exact Nat.le_antisymm rounds.le full
    refine ⟨10 ^ (precision - 1), ?_⟩
    rw [place]
    exact (mul_ten_zpow_eq_iff r _ f 1).2 carried

end Decimal

end FieldTemplate
