import FieldTemplate.Proofs.Unicode.Normalization
import FieldTemplate.Unicode.Lowercase

/-!
# Lower case and ASCII

On ASCII characters the lower case is that of ASCII (`lowerAfter_ascii_cons`,
`Text.lower_of_ascii`).  All others go to others again, but for two that go to a small letter
(`exists_lowerAfter_cons`), so lower case makes no character of ASCII but small letters.
-/

namespace FieldTemplate

set_option autoImplicit false

namespace Unicode

variable {n first last target : Nat} {c d : Char} {before rest : Text}

/-- A run goes from other characters than those of ASCII to such characters, or to `k`. -/
structure SoundRun (first last target : Nat) : Prop where
  source : 0x80 ≤ first
  target : (0x80 ≤ target ∧ target + (last - first) < 0xD800) ∨
    (0xDFFF < target ∧ target + (last - first) < 0x110000) ∨ (first = last ∧ target = 0x6B)

instance (first last target : Nat) : Decidable (SoundRun first last target) :=
  decidable_of_iff (0x80 ≤ first ∧ ((0x80 ≤ target ∧ target + (last - first) < 0xD800) ∨
      (0xDFFF < target ∧ target + (last - first) < 0x110000) ∨ (first = last ∧ target = 0x6B)))
    ⟨fun ⟨source, target⟩ => ⟨source, target⟩, fun ⟨source, target⟩ => ⟨source, target⟩⟩

/-- All runs but that of the capital letters of ASCII. -/
theorem soundRun_of_mem_tail : ∀ run ∈ lowerRuns.tail, SoundRun run.1 run.2.1 run.2.2.2 := by
  decide +kernel

theorem lowerCode_cases (n : Nat) (runs : List (Nat × Nat × Nat × Nat)) :
    lowerCode n runs = n ∨
      ∃ run ∈ runs, run.1 ≤ n ∧ n ≤ run.2.1 ∧ lowerCode n runs = run.2.2.2 + (n - run.1) := by
  induction runs with
  | nil => exact .inl rfl
  | cons run runs ih =>
      obtain ⟨first, last, step, target⟩ := run
      rw [lowerCode]
      split
      · next inside => exact .inr ⟨_, List.mem_cons_self, inside.1, inside.2.1, rfl⟩
      · rcases ih with same | ⟨run, member, lower, upper, found⟩
        · exact .inl same
        · exact .inr ⟨run, List.mem_cons_of_mem _ member, lower, upper, found⟩

theorem lowerCode_lowerRuns (n : Nat) :
    lowerCode n lowerRuns =
      if 0x41 ≤ n ∧ n ≤ 0x5A then 0x61 + (n - 0x41) else lowerCode n lowerRuns.tail := by
  rw [show lowerRuns = (0x41, 0x5A, 1, 0x61) :: lowerRuns.tail from rfl, lowerCode, List.tail_cons]
  simp only [Nat.mod_one, and_true]

theorem lowerCode_ascii (ascii : n < 0x80) :
    lowerCode n lowerRuns = if 0x41 ≤ n ∧ n ≤ 0x5A then 0x61 + (n - 0x41) else n := by
  have behind : lowerCode n lowerRuns.tail = n := by
    rcases lowerCode_cases n lowerRuns.tail with same | ⟨run, member, lower, -⟩
    · exact same
    · have source := (soundRun_of_mem_tail run member).source
      omega
  rw [lowerCode_lowerRuns, behind]

theorem lowerChar_of_ascii (ascii : c.toNat < 0x80) : lowerChar c = [c.toLower] := by
  have table : ∀ n < 0x80, Char.ofNat (if 0x41 ≤ n ∧ n ≤ 0x5A then 0x61 + (n - 0x41) else n) =
      (Char.ofNat n).toLower := by decide
  have other : c ≠ 'İ' := by
    rintro rfl
    exact absurd ascii (by decide)
  rw [lowerChar, if_neg other, lowerCode_ascii ascii, table _ ascii, Char.ofNat_toNat]

/-- Two small letters are the lower case of other characters than those of ASCII. -/
theorem mem_lowerChar (large : 0x80 ≤ c.toNat) (member : d ∈ lowerChar c) :
    0x80 ≤ d.toNat ∨ d = 'i' ∨ d = 'k' := by
  rw [lowerChar] at member
  split at member
  · rcases List.mem_cons.1 member with rfl | mark
    · exact .inr (.inl rfl)
    · obtain rfl := List.mem_singleton.1 mark
      exact .inl (by decide)
  · obtain rfl := List.mem_singleton.1 member
    rw [lowerCode_lowerRuns, if_neg (by omega)]
    rcases lowerCode_cases c.toNat lowerRuns.tail with same | ⟨run, inside, lower, upper, found⟩
    · rw [same, Char.ofNat_toNat]
      exact .inl large
    · rw [found]
      rcases (soundRun_of_mem_tail run inside).target with
        ⟨low, high⟩ | ⟨low, high⟩ | ⟨same, letter⟩
      · rw [toNat_ofNat (.inl (by omega))]
        exact .inl (by omega)
      · rw [toNat_ofNat (.inr ⟨by omega, by omega⟩)]
        exact .inl (by omega)
      · have start : c.toNat - run.1 = 0 := by omega
        rw [start, letter]
        exact .inr (.inr rfl)

/-! ## Texts -/

theorem lowerAfter_cons (other : c ≠ 'Σ') (before rest : Text) :
    lowerAfter before (c :: rest) = lowerChar c ++ lowerAfter (c :: before) rest := by
  rw [lowerAfter.eq_def]
  split
  · next empty => cases empty
  · next same => exact absurd (List.cons.inj same).1 other
  · next same =>
    obtain ⟨rfl, rfl⟩ := List.cons.inj same
    rfl

theorem lowerAfter_ascii_cons (ascii : c.toNat < 0x80) (before rest : Text) :
    lowerAfter before (c :: rest) = c.toLower :: lowerAfter (c :: before) rest := by
  have other : c ≠ 'Σ' := by
    rintro rfl
    exact absurd ascii (by decide)
  rw [lowerAfter_cons other, lowerChar_of_ascii ascii, List.singleton_append]

theorem exists_lowerAfter_cons (large : 0x80 ≤ c.toNat) (before rest : Text) :
    ∃ lowered, lowerAfter before (c :: rest) = lowered ++ lowerAfter (c :: before) rest ∧
      ∀ d ∈ lowered, 0x80 ≤ d.toNat ∨ d = 'i' ∨ d = 'k' := by
  by_cases sigma : c = 'Σ'
  · subst sigma
    refine ⟨[_], rfl, List.forall_mem_singleton.2 (.inl ?_)⟩
    split <;> decide
  · exact ⟨_, lowerAfter_cons sigma before rest, fun d => mem_lowerChar large⟩

end Unicode

namespace Text

theorem lower_of_ascii {s : Text} (ascii : ∀ c ∈ s, c.toNat < 0x80) :
    s.lower = s.map Char.toLower := by
  have after (before : Text) : Unicode.lowerAfter before s = s.map Char.toLower := by
    induction s generalizing before with
    | nil => rfl
    | cons c rest ih =>
        obtain ⟨here, behind⟩ := List.forall_mem_cons.1 ascii
        rw [Unicode.lowerAfter_ascii_cons here, ih behind, List.map_cons]
  exact after []

end Text

end FieldTemplate
