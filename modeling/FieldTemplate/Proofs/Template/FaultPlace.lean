import FieldTemplate.Proofs.Template.Fault
import FieldTemplate.Proofs.Text.Position

/-!
# The place of a fault

Every fault is reported at an opening: at that of the placeholder at fault, or at the one inside of
it (`exists_opening_of_stop`).  The main statement is `fault_place_is_exact`: the three coordinates of
a fault, by character, by byte, and by line and column, name the place of this opening, and line and
column are as good as the index, since no two places of a text share them.
-/

namespace FieldTemplate

set_option autoImplicit false

open Text

/-- The place that a fault is reported at is one of an opening. -/
theorem Spoiled.exists_opening {inner : Text} {fault : SyntaxFault} {n : Nat}
    (spoiled : Spoiled inner fault n) :
    ∃ before after, opening ++ inner = before ++ (opening ++ after) ∧
      (opening ++ inner).take n = before := by
  cases spoiled with
  | @nested before after upTo noClosing =>
      refine ⟨opening ++ before, after, (List.append_assoc ..).symm, ?_⟩
      rw [← List.append_assoc, List.take_left' (by simp [opening]; omega)]
  | empty rest blank => exact ⟨[], _, rfl, rfl⟩
  | unterminated noOpening noClosing => exact ⟨[], _, rfl, rfl⟩

/-- **The reader stops at an opening**, with its place counted from the start of the text. -/
theorem exists_opening_of_stop {source : Text} {stop : Stop}
    (stopped : (lex source).stop = some stop) :
    ∃ before after, source = before ++ (opening ++ after) ∧
      stop.cursor = Cursor.start.past before := by
  rcases readable_or_spoiled source with readable |
    ⟨p, inner, fault, n, rfl, readable, boundary, spoiled⟩
  · rw [readable] at stopped
    cases stopped
  · obtain ⟨before, after, split, taken⟩ := spoiled.exists_opening
    rw [lex, lexFrom_readable_append readable boundary, Lexing.prepend_stop,
      lexFrom_spoiled spoiled, taken] at stopped
    cases stopped
    exact ⟨p ++ before, after, by rw [split, List.append_assoc], Cursor.past_past ..⟩

/-- **The place of a fault is exact.**  There is an opening at its index; its offset is the number
of bytes in front of that index, its line counts the newlines there and its column the characters
behind the last of them.  Along a text, places only move on, so the index can be found from line
and column. -/
theorem fault_place_is_exact (source : Text) :
    (∀ e, tokenize source = .error e →
      opening <+: source.drop e.position ∧
      e.offset = (Utf8.encode (source.take e.position)).length ∧
      e.place = some (source.placeOf e.position) ∧
      ∃ line, LastLine (source.take e.position) line ∧
        e.place = some ⟨(source.take e.position).count '\n' + 1, line.length + 1⟩) ∧
    (∀ p q, p < q → (source.placeOf p).Precedes (source.placeOf q)) ∧
    Function.Injective source.placeOf := by
  refine ⟨fun e raised => ?_, fun p q => precedes_placeOf source, placeOf_injective source⟩
  obtain ⟨stop, stopped, rfl⟩ := tokenize_eq_error_iff.1 raised
  obtain ⟨before, after, rfl, cursor⟩ := exists_opening_of_stop stopped
  have position : (stop.toError (before ++ (opening ++ after))).position = before.length := by
    rw [Stop.toError, SyntaxError.make, cursor]
    exact Nat.zero_add _
  have offset : (stop.toError (before ++ (opening ++ after))).offset = before.bytes := by
    rw [Stop.toError, SyntaxError.make, cursor]
    exact Nat.zero_add _
  have taken : (before ++ (opening ++ after)).take before.length = before := List.take_left' rfl
  have place : (stop.toError (before ++ (opening ++ after))).place =
      some ((before ++ (opening ++ after)).placeOf before.length) := by
    rw [← position]
    rfl
  have inside : before.length ≤ (before ++ (opening ++ after)).length := by
    rw [List.length_append]
    exact Nat.le_add_right _ _
  obtain ⟨line, last⟩ := exists_lastLine before
  rw [position, taken, offset, place, placeOf_eq inside (taken.symm ▸ last), taken]
  refine ⟨?_, (length_encode before).symm, rfl, line, last, rfl⟩
  rw [List.drop_left' rfl]
  exact List.prefix_append _ _

/-- Three lines: a placeholder, a character of two bytes, and one of three in front of an opening
inside of another one. -/
def nestedOnLineThree : Text := "\x7b\x7ba\x7d\x7d\né\n€\x7b\x7b \x7b\x7b".toList

theorem fault_place_is_exact_nested :
    ∃ e, tokenize nestedOnLineThree = .error e ∧ e.position = 12 ∧
      opening <+: nestedOnLineThree.drop 12 ∧
      e.offset = (Utf8.encode (nestedOnLineThree.take 12)).length ∧
      ∃ line, LastLine (nestedOnLineThree.take 12) line ∧
        e.place = some ⟨3, line.length + 1⟩ := by
  have raised : tokenize nestedOnLineThree = .error ⟨.nested, 15, 12, some ⟨3, 5⟩⟩ := by
    decide +kernel
  obtain ⟨opens, offset, -, line, last, place⟩ :=
    (fault_place_is_exact nestedOnLineThree).1 _ raised
  exact ⟨_, raised, rfl, opens, offset, line, last, place⟩

end FieldTemplate
