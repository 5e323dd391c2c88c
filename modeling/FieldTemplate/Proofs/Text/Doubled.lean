import FieldTemplate.Text.Basic

/-!
# Doubled characters

A delimiter is one character twice in a row.  `Doubled d s` says that the text holds one,
`UpTo d s` that two more `d` behind the text are the first such pair of the whole.

The main statement is `cutDouble_eq_some_iff`: a cut is the decomposition of the text at its
leftmost pair, and there is only one such decomposition (`upTo_unique`).  Everything else
about pairs in a composed text comes from `doubled_append_iff`: a pair lies on one side of a
seam, or across it.
-/

namespace FieldTemplate

set_option autoImplicit false

namespace Text

/-- The character stands twice in a row somewhere in the text. -/
def Doubled (d : Char) (s : Text) : Prop := [d, d] <:+: s

/-- The leftmost pair of `s ++ [d, d]` is the one behind `s`. -/
def UpTo (d : Char) (s : Text) : Prop := ¬ Doubled d (s ++ [d])

variable {d : Char}

@[simp] theorem not_doubled_nil : ¬ Doubled d [] := by simp [Doubled]

@[simp] theorem not_doubled_singleton (c : Char) : ¬ Doubled d [c] := by
  intro doubled
  have := List.IsInfix.length_le doubled
  simp at this

theorem doubled_cons_cons (a b : Char) (s : Text) :
    Doubled d (a :: b :: s) ↔ (a = d ∧ b = d) ∨ Doubled d (b :: s) := by
  unfold Doubled
  rw [List.infix_cons_iff]
  simp [List.cons_prefix_cons, eq_comm]

/-- A pair in a composed text lies on the left, on the right, or across the seam. -/
theorem doubled_append_iff (s t : Text) :
    Doubled d (s ++ t) ↔
      Doubled d s ∨ Doubled d t ∨ (s.getLast? = some d ∧ t.head? = some d) := by
  induction s with
  | nil => simp
  | cons a s ih =>
      cases s with
      | nil =>
          cases t with
          | nil => simp
          | cons b t => simp [doubled_cons_cons, or_comm]
      | cons b s =>
          rw [List.cons_append] at ih
          rw [List.cons_append, List.cons_append, doubled_cons_cons, ih, doubled_cons_cons]
          simp only [List.getLast?_cons_cons, or_assoc]

theorem doubled_pair (s t : Text) : Doubled d (s ++ d :: d :: t) :=
  ⟨s, t, by simp⟩

theorem Doubled.append_right {s : Text} (doubled : Doubled d s) (t : Text) :
    Doubled d (s ++ t) :=
  (doubled_append_iff s t).2 (.inl doubled)

/-- Up to the first pair there is none, and the text does not end with half of one. -/
theorem upTo_iff {s : Text} : UpTo d s ↔ ¬ Doubled d s ∧ s.getLast? ≠ some d := by
  simp [UpTo, doubled_append_iff]

theorem UpTo.not_doubled {s : Text} (upTo : UpTo d s) : ¬ Doubled d s := (upTo_iff.1 upTo).1

@[simp] theorem upTo_nil : UpTo d [] := by simp [upTo_iff]

@[simp] theorem upTo_singleton (c : Char) : UpTo d [c] ↔ c ≠ d := by simp [upTo_iff]

theorem upTo_cons_cons (a b : Char) (s : Text) :
    UpTo d (a :: b :: s) ↔ ¬ (a = d ∧ b = d) ∧ UpTo d (b :: s) := by
  simp only [UpTo, List.cons_append, doubled_cons_cons, not_or]

theorem upTo_of_not_mem {s : Text} (absent : d ∉ s) : UpTo d s := by
  refine upTo_iff.2 ⟨fun doubled => absent ?_, fun last => absent (List.mem_of_getLast? last)⟩
  exact doubled.subset List.mem_cons_self

/-! ## Cuts -/

theorem cutDouble_eq_none_iff {s : Text} : cutDouble d s = none ↔ ¬ Doubled d s := by
  induction s with
  | nil => simp [cutDouble]
  | cons a s ih =>
      cases s with
      | nil => simp [cutDouble]
      | cons b s =>
          rw [cutDouble, doubled_cons_cons]
          split
          · next pair => simp [pair]
          · next other => simp [ih, other]

instance (s : Text) : Decidable (Doubled d s) :=
  decidable_of_iff ((cutDouble d s).isSome = true) <| by
    rw [Option.isSome_iff_ne_none, Ne, cutDouble_eq_none_iff, Classical.not_not]

instance (s : Text) : Decidable (UpTo d s) :=
  inferInstanceAs (Decidable (¬ Doubled d (s ++ [d])))

theorem cutDouble_of_upTo {before : Text} (upTo : UpTo d before) (after : Text) :
    cutDouble d (before ++ d :: d :: after) = some (before, after) := by
  induction before with
  | nil => simp [cutDouble]
  | cons a before ih =>
      cases before with
      | nil =>
          have other : a ≠ d := (upTo_singleton a).1 upTo
          simp [cutDouble, other]
      | cons b before =>
          obtain ⟨other, tail⟩ := (upTo_cons_cons a b before).1 upTo
          rw [List.cons_append, List.cons_append, cutDouble, if_neg other,
            ← List.cons_append, ih tail]
          rfl

theorem upTo_of_cutDouble {s before after : Text} (cut : cutDouble d s = some (before, after)) :
    UpTo d before := by
  induction s generalizing before after with
  | nil => simp [cutDouble] at cut
  | cons a s ih =>
      cases s with
      | nil => simp [cutDouble] at cut
      | cons b s =>
          rw [cutDouble] at cut
          split at cut
          · cases cut
            exact upTo_nil
          · next other =>
            obtain ⟨⟨inner, rest⟩, found, same⟩ := Option.map_eq_some_iff.1 cut
            cases same
            have tail := ih found
            have shape := eq_of_cutDouble found
            cases inner with
            | nil =>
                obtain ⟨rfl, -⟩ := List.cons.inj shape
                exact (upTo_singleton a).2 fun same => other ⟨same, rfl⟩
            | cons c inner =>
                obtain ⟨rfl, -⟩ := List.cons.inj shape
                exact (upTo_cons_cons a b inner).2 ⟨other, tail⟩

/-- **A cut is the decomposition at the leftmost pair.** -/
theorem cutDouble_eq_some_iff {s before after : Text} :
    cutDouble d s = some (before, after) ↔ s = before ++ d :: d :: after ∧ UpTo d before := by
  constructor
  · intro cut
    exact ⟨eq_of_cutDouble cut, upTo_of_cutDouble cut⟩
  · rintro ⟨rfl, upTo⟩
    exact cutDouble_of_upTo upTo after

theorem exists_upTo_of_doubled {s : Text} (doubled : Doubled d s) :
    ∃ before after, s = before ++ d :: d :: after ∧ UpTo d before := by
  cases cut : cutDouble d s with
  | none => exact absurd doubled (cutDouble_eq_none_iff.1 cut)
  | some parts => exact ⟨parts.1, parts.2, cutDouble_eq_some_iff.1 cut⟩

/-- There is one leftmost pair. -/
theorem upTo_unique {before before' after after' : Text} (upTo : UpTo d before)
    (upTo' : UpTo d before') (same : before ++ d :: d :: after = before' ++ d :: d :: after') :
    before = before' ∧ after = after' := by
  have cut := cutDouble_of_upTo upTo after
  rw [same, cutDouble_of_upTo upTo' after'] at cut
  cases cut
  exact ⟨rfl, rfl⟩

/-- A pair comes before a pair of another character if there is none of the latter before it. -/
theorem length_lt_of_pairs {e : Char} (other : d ≠ e) {before after body rest : Text}
    (same : before ++ d :: d :: after = body ++ e :: e :: rest) (free : ¬ Doubled e before) :
    before.length < body.length := by
  rcases List.append_eq_append_iff.1 same with ⟨t, rfl, tail⟩ | ⟨t, rfl, tail⟩
  · cases t with
    | nil => exact absurd (List.cons.inj tail).1 other
    | cons c t => simp
  · -- the other pair would start within `before`, so it is in it or across its end
    rcases t with _ | ⟨a, _ | ⟨b, t⟩⟩
    · exact absurd (List.cons.inj tail).1.symm other
    · simp only [List.cons_append, List.nil_append, List.cons.injEq] at tail
      exact absurd tail.2.1.symm other
    · simp only [List.cons_append, List.cons.injEq] at tail
      obtain ⟨rfl, rfl, -⟩ := tail
      exact absurd (doubled_pair body t) free

end Text

end FieldTemplate
