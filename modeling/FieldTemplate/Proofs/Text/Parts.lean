import FieldTemplate.Text.Basic

/-!
# Parts of a text

What is joined with a separator is split at it into the same parts (`Text.splitOn_join`), and a text
is cut at the first occurrence of a character (`Text.cutAt_append`).  A character that does not
occur has nothing to be replaced (`Text.replaceChar_of_not_mem`).
-/

namespace FieldTemplate.Text

set_option autoImplicit false

variable {d : Char} {parts : List Text}

theorem splitOn_eq_splitOn (d : Char) (s : Text) : splitOn d s = List.splitOn d s := by
  simp only [List.splitOn]
  induction s with
  | nil => simp [splitOn]
  | cons c rest ih =>
      rw [splitOn, List.splitOnP_cons_eq_if_modifyHead, ih]
      by_cases here : c = d
      · simp [here]
      · obtain ⟨part, parts, split⟩ :=
          List.exists_cons_of_ne_nil (List.splitOnP_ne_nil (· == d) rest)
        simp [here, split]

theorem splitOn_ne_nil (d : Char) (s : Text) : splitOn d s ≠ [] := by
  rw [splitOn_eq_splitOn]
  exact List.splitOnP_ne_nil _ s

theorem join_cons_cons (sep part next : Text) (rest : List Text) :
    join sep (part :: next :: rest) = part ++ sep ++ join sep (next :: rest) := rfl

theorem join_eq_intercalate (sep : Text) (parts : List Text) :
    join sep parts = sep.intercalate parts := by
  induction parts with
  | nil => rfl
  | cons part rest ih =>
      cases rest with
      | nil => rw [join, List.intercalate_singleton]
      | cons next rest => rw [join_cons_cons, List.intercalate_cons_cons, ih]

/-- **What is joined is split into its parts**, if the separator is in none of them. -/
theorem splitOn_join (absent : ∀ part ∈ parts, d ∉ part) (nonempty : parts ≠ []) :
    splitOn d (join [d] parts) = parts := by
  rw [splitOn_eq_splitOn, join_eq_intercalate]
  exact List.splitOn_intercalate d absent nonempty

/-- The first part stands in front. -/
theorem head?_join (sep : Text) (c : Char) (part : Text) (rest : List Text) :
    (join sep ((c :: part) :: rest)).head? = some c := by
  cases rest <;> rfl

theorem cutAt_append {before : Text} (absent : d ∉ before) (after : Text) :
    cutAt d (before ++ d :: after) = some (before, after) := by
  induction before with
  | nil => simp [cutAt]
  | cons c before ih =>
      obtain ⟨other, behind⟩ := List.ne_and_not_mem_of_not_mem_cons absent
      rw [List.cons_append, cutAt, if_neg other.symm, ih behind]
      rfl

theorem replaceChar_of_not_mem {s : Text} (absent : d ∉ s) (filler : Text) :
    s.replaceChar d filler = s := by
  induction s with
  | nil => rfl
  | cons c rest ih =>
      obtain ⟨here, behind⟩ := List.ne_and_not_mem_of_not_mem_cons absent
      rw [replaceChar, List.flatMap_cons, if_neg here.symm, ← replaceChar, ih behind]
      rfl

end FieldTemplate.Text
