import FieldTemplate.Text.Position
import FieldTemplate.Text.Utf8
import Mathlib.Data.List.Induction

/-!
# Lines and columns

The column of a place counts the characters behind the last newline in front of it
(`Text.placeOf_eq`).  A character moves a place to the right or, if it is a newline, to the start of
the next line (`Text.placeOf_succ`), so places are in the order of their indexes
(`Text.precedes_placeOf`) and no two indexes have the same place.
-/

namespace FieldTemplate

set_option autoImplicit false

/-- On an earlier line, or on the same line and further to the left. -/
def Place.Precedes (a b : Place) : Prop :=
  a.line < b.line ∨ a.line = b.line ∧ a.column < b.column

theorem Place.Precedes.trans {a b c : Place} (left : a.Precedes b) (right : b.Precedes c) :
    a.Precedes c := by
  unfold Precedes at *
  omega

theorem Place.not_precedes_self (a : Place) : ¬ a.Precedes a := by
  unfold Precedes
  omega

namespace Text

variable {s before line : Text} {p q : Nat}

/-- `line` is what stands behind the last newline of a text, or all of it if there is none. -/
def LastLine (before line : Text) : Prop :=
  ∃ lines, before = lines ++ line ∧ (lines = [] ∨ lines.getLast? = some '\n') ∧ '\n' ∉ line

theorem exists_lastLine (before : Text) : ∃ line, LastLine before line := by
  induction before using List.reverseRecOn with
  | nil => exact ⟨[], [], rfl, .inl rfl, List.not_mem_nil⟩
  | append_singleton before c ih =>
      by_cases newline : c = '\n'
      · subst newline
        refine ⟨[], before ++ ['\n'], (List.append_nil _).symm, .inr ?_, List.not_mem_nil⟩
        exact List.getLast?_concat
      · obtain ⟨line, lines, rfl, whole, absent⟩ := ih
        refine ⟨line ++ [c], lines, List.append_assoc .., whole, ?_⟩
        rw [List.mem_append, List.mem_singleton, not_or]
        exact ⟨absent, Ne.symm newline⟩

theorem untilNewline_reverse (last : LastLine before line) :
    untilNewline before.reverse = line.reverse := by
  obtain ⟨lines, rfl, whole, absent⟩ := last
  have inLine : ∀ c ∈ line.reverse, decide (c ≠ '\n') = true := by
    intro c member
    refine decide_eq_true ?_
    rintro rfl
    exact absent (List.mem_reverse.1 member)
  rw [untilNewline, List.reverse_append, List.takeWhile_append_of_pos inLine]
  rcases whole with rfl | ends
  · simp
  · obtain ⟨front, rfl⟩ := List.getLast?_eq_some_iff.1 ends
    simp

/-- **The column counts from the last newline**, and the line counts the newlines. -/
theorem placeOf_eq (inside : p ≤ s.length) (last : LastLine (s.take p) line) :
    s.placeOf p = ⟨(s.take p).count '\n' + 1, line.length + 1⟩ := by
  have before : (s.take p).length = p := List.length_take_of_le inside
  have fits : line.length ≤ p := by
    obtain ⟨lines, split, -, -⟩ := last
    rw [← before, split, List.length_append]
    exact Nat.le_add_left _ _
  rw [placeOf]
  simp only [untilNewline_reverse last, List.length_reverse, before, Place.mk.injEq, true_and]
  omega

theorem untilNewline_newline_cons (rest : Text) : untilNewline ('\n' :: rest) = [] := rfl

theorem untilNewline_cons {c : Char} (other : c ≠ '\n') (rest : Text) :
    untilNewline (c :: rest) = c :: untilNewline rest :=
  List.takeWhile_cons_of_pos (decide_eq_true other)

/-- **One character further**: a newline ends the line, any other character, or the void behind the
end of the text, takes one column. -/
theorem placeOf_succ (s : Text) (p : Nat) :
    s.placeOf (p + 1) =
      if s[p]? = some '\n' then ⟨(s.placeOf p).line + 1, 1⟩
      else ⟨(s.placeOf p).line, (s.placeOf p).column + 1⟩ := by
  have short : (s.take p).length ≤ p := by
    rw [List.length_take]
    exact Nat.min_le_left _ _
  cases found : s[p]? with
  | none =>
      rw [if_neg (Option.some_ne_none _).symm]
      simp only [placeOf, List.take_add_one, found, Option.toList_none, List.append_nil,
        Place.mk.injEq, true_and]
      omega
  | some c =>
      have full : (s.take p).length = p :=
        List.length_take_of_le (Nat.le_of_lt (List.getElem?_eq_some_iff.1 found).1)
      have step : s.take (p + 1) = s.take p ++ [c] := by
        rw [List.take_add_one, found, Option.toList_some]
      by_cases newline : c = '\n'
      · subst newline
        rw [if_pos rfl, placeOf, step]
        simp [untilNewline_newline_cons, full, placeOf]
      · rw [if_neg (fun same => newline (Option.some.inj same)), placeOf, step]
        simp only [placeOf, List.reverse_append, List.reverse_cons, List.reverse_nil,
          List.nil_append, List.cons_append, untilNewline_cons newline, List.length_append,
          List.length_cons, List.length_nil, full, List.count_append, Place.mk.injEq]
        constructor
        · simp [newline]
        · omega

theorem precedes_placeOf_succ (s : Text) (p : Nat) :
    (s.placeOf p).Precedes (s.placeOf (p + 1)) := by
  rw [placeOf_succ]
  split
  · exact .inl (Nat.lt_succ_self _)
  · exact .inr ⟨rfl, Nat.lt_succ_self _⟩

/-- **Places are in the order of their indexes.** -/
theorem precedes_placeOf (s : Text) (later : p < q) : (s.placeOf p).Precedes (s.placeOf q) := by
  induction later with
  | refl => exact precedes_placeOf_succ s p
  | step _ ih => exact ih.trans (precedes_placeOf_succ s _)

theorem placeOf_injective (s : Text) : Function.Injective s.placeOf := by
  intro p q same
  rcases Nat.lt_trichotomy p q with later | here | earlier
  · exact absurd (same ▸ precedes_placeOf s later) (Place.not_precedes_self _)
  · exact here
  · exact absurd (same ▸ precedes_placeOf s earlier) (Place.not_precedes_self _)

/-- The size of a text is the number of bytes of its UTF-8 form. -/
theorem length_encode (s : Text) : (Utf8.encode s).length = s.bytes := by
  induction s with
  | nil => rfl
  | cons c rest ih =>
      rw [Utf8.encode, List.flatMap_cons, List.length_append, ← Utf8.encode, ih,
        String.length_utf8EncodeChar, bytes_cons]

end Text

end FieldTemplate
