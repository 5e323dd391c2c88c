import FieldTemplate.Text.Blank
import Mathlib.Data.List.DropRight

/-!
# Trimmed texts

`Trimmed s` says that a text has no blank at either end.  Trimming cuts blanks off both ends
(`exists_trim`) and leaves a trimmed text; the converse `trim_padded` says that it undoes
any padding of a trimmed text, so the two determine `trim`.
-/

namespace FieldTemplate

set_option autoImplicit false

namespace Text

/-- The text neither starts nor ends with a blank. -/
def Trimmed (s : Text) : Prop :=
  (∀ c ∈ s.head?, isBlank c = false) ∧ (∀ c ∈ s.getLast?, isBlank c = false)

instance (s : Text) : Decidable (Trimmed s) :=
  -- on the two ends alone: a bound over all characters would be decided by going through them
  decidable_of_iff (s.head?.any isBlank = false ∧ s.getLast?.any isBlank = false) <| by
    simp [Trimmed, Option.any_eq_false]

theorem allBlank_iff {s : Text} : allBlank s = true ↔ ∀ c ∈ s, isBlank c = true := by
  simp [allBlank]

theorem allBlank_append {s t : Text} (left : allBlank s = true) (right : allBlank t = true) :
    allBlank (s ++ t) = true := by
  rw [allBlank, List.all_append, Bool.and_eq_true]
  exact ⟨left, right⟩

theorem not_mem_of_allBlank {s : Text} {d : Char} (blank : allBlank s = true)
    (solid : isBlank d = false) : d ∉ s := by
  intro member
  rw [allBlank_iff.1 blank d member] at solid
  cases solid

theorem trimRight_eq_rdropWhile (s : Text) : trimRight s = s.rdropWhile isBlank := rfl

theorem trimLeft_of_allBlank_append {l : Text} (blank : allBlank l = true) (s : Text) :
    trimLeft (l ++ s) = trimLeft s :=
  List.dropWhile_append_of_pos (allBlank_iff.1 blank)

theorem trimRight_append_of_allBlank {r : Text} (blank : allBlank r = true) (s : Text) :
    trimRight (s ++ r) = trimRight s := by
  unfold trimRight
  rw [List.reverse_append, List.dropWhile_append_of_pos]
  simpa using allBlank_iff.1 blank

theorem trimLeft_of_head {s : Text} (solid : ∀ c, s.head? = some c → isBlank c = false) :
    trimLeft s = s := by
  cases s with
  | nil => rfl
  | cons c s => simp [trimLeft, solid c rfl]

theorem trimRight_of_last {s : Text} (solid : ∀ c, s.getLast? = some c → isBlank c = false) :
    trimRight s = s := by
  rw [trimRight_eq_rdropWhile, List.rdropWhile_eq_self_iff]
  intro nonempty
  simpa using solid _ (List.getLast?_eq_some_getLast nonempty)

/-- **Trimming undoes padding.** -/
theorem trim_padded {l s r : Text} (left : allBlank l = true) (right : allBlank r = true)
    (trimmed : Trimmed s) : trim (l ++ s ++ r) = s := by
  cases s with
  | nil =>
      have gone := trimLeft_of_allBlank_append (allBlank_append left right) []
      rw [List.append_nil] at gone
      rw [List.append_nil, trim, gone]
      rfl
  | cons c s =>
      have start : trimLeft (l ++ (c :: s) ++ r) = (c :: s) ++ r := by
        rw [List.append_assoc, trimLeft_of_allBlank_append left]
        apply trimLeft_of_head
        simpa using trimmed.1
      rw [trim, start, trimRight_append_of_allBlank right, trimRight_of_last trimmed.2]

theorem trim_of_trimmed {s : Text} (trimmed : Trimmed s) : trim s = s := by
  simpa using trim_padded (l := []) (r := []) rfl rfl trimmed

theorem trimmed_of_solid {s : Text} (solid : ∀ c ∈ s, isBlank c = false) : Trimmed s :=
  ⟨fun c head => solid c (List.mem_of_mem_head? head),
    fun c last => solid c (List.mem_of_mem_getLast? last)⟩

theorem exists_trimLeft (s : Text) :
    ∃ l, allBlank l = true ∧ s = l ++ trimLeft s := by
  refine ⟨s.takeWhile isBlank, ?_, List.takeWhile_append_dropWhile.symm⟩
  exact allBlank_iff.2 fun c member => List.mem_takeWhile_imp member

theorem exists_trimRight (s : Text) :
    ∃ r, allBlank r = true ∧ s = trimRight s ++ r := by
  refine ⟨s.rtakeWhile isBlank, ?_, List.rdropWhile_append_rtakeWhile.symm⟩
  exact allBlank_iff.2 fun c member => List.mem_rtakeWhile_imp member

/-- Trimming takes blanks off the ends and nothing else. -/
theorem exists_trim (s : Text) :
    ∃ l r, allBlank l = true ∧ allBlank r = true ∧ s = l ++ trim s ++ r := by
  obtain ⟨l, left, split⟩ := exists_trimLeft s
  obtain ⟨r, right, tail⟩ := exists_trimRight (trimLeft s)
  refine ⟨l, r, left, right, ?_⟩
  rw [trim, List.append_assoc, ← tail]
  exact split

theorem head?_trimLeft {s : Text} {c : Char} (head : (trimLeft s).head? = some c) :
    isBlank c = false := by
  have := List.head?_dropWhile_not isBlank s
  rw [show s.dropWhile isBlank = trimLeft s from rfl, head] at this
  simpa using this

theorem getLast?_trimRight {s : Text} {c : Char} (last : (trimRight s).getLast? = some c) :
    isBlank c = false := by
  rw [trimRight, List.getLast?_reverse] at last
  have := List.head?_dropWhile_not isBlank s.reverse
  rw [last] at this
  simpa using this

theorem trimmed_trim (s : Text) : Trimmed (trim s) := by
  refine ⟨fun c head => ?_, fun c last => getLast?_trimRight last⟩
  -- the first character survives the cut on the right, which leaves a prefix
  obtain ⟨r, -, split⟩ := exists_trimRight (trimLeft s)
  refine head?_trimLeft (s := s) ?_
  rw [split, List.head?_append, show (trimRight (trimLeft s)).head? = some c from head]
  rfl

theorem trim_eq_nil_iff {s : Text} : trim s = [] ↔ allBlank s = true := by
  constructor
  · intro gone
    obtain ⟨l, r, left, right, split⟩ := exists_trim s
    rw [split, gone, List.append_nil]
    exact allBlank_append left right
  · intro blank
    simpa using trim_padded blank (r := []) rfl (s := []) ⟨by simp, by simp⟩

end Text

end FieldTemplate
