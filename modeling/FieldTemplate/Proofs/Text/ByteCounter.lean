import FieldTemplate.Proofs.Text.Position

/-!
# Byte offsets, one query after the other

A counter keeps its last answer and counts on from it.  What it keeps is exact after every query
(`ByteCounter.Exact.query`), whether the query moves on, stands still, goes back or lies past the
end, so no answer depends on the queries in front of it: the main statement is
`ByteCounter.every_answer_counts_from_the_start`.
-/

namespace FieldTemplate

set_option autoImplicit false

/-- What stands in front of an index further on is what stands in front of this one and what lies
between the two. -/
theorem Text.byteOffset_add (s : Text) (index length : Nat) :
    s.byteOffset (index + length) = s.byteOffset index + bytes ((s.drop index).take length) := by
  rw [byteOffset, List.take_add, bytes_append, ← byteOffset]

namespace ByteCounter

/-- The offset that the counter keeps is the one of the index that it keeps. -/
def Exact (counter : ByteCounter) : Prop :=
  counter.offset = counter.source.byteOffset counter.index

theorem exact_start (source : Text) : (start source).Exact := rfl

/-- From an exact counter a query gets the offset of its index, wherever that lies. -/
theorem Exact.query_eq {counter : ByteCounter} (exact : counter.Exact) (index : Nat) :
    counter.query index = (counter.source.byteOffset index,
      { counter with index := index, offset := counter.source.byteOffset index }) := by
  have counted : (counter.query index).1 = counter.source.byteOffset index := by
    by_cases back : index < counter.index
    · simp only [ByteCounter.query, back, if_true]
      show 0 + _ = _
      rw [Nat.zero_add, Nat.sub_zero, List.drop_zero]
      rfl
    · have ahead : counter.index + (index - counter.index) = index := by omega
      simp only [ByteCounter.query, back, if_false]
      rw [exact, ← Text.byteOffset_add, ahead]
  rw [← counted]
  rfl

/-- **A query leaves the counter exact.** -/
theorem Exact.query {counter : ByteCounter} (exact : counter.Exact) (index : Nat) :
    (counter.query index).2.Exact := by
  rw [exact.query_eq]
  rfl

theorem Exact.queries_eq {counter : ByteCounter} (exact : counter.Exact) (indexes : List Nat) :
    counter.queries indexes = indexes.map counter.source.byteOffset := by
  induction indexes generalizing counter with
  | nil => rfl
  | cons index rest ih =>
      have behind := ih (exact.query index)
      rw [exact.query_eq] at behind
      rw [queries, List.map_cons, exact.query_eq]
      exact congrArg _ behind

/-- **Every answer is the one that is counted from the start.**  Whatever is asked of one counter,
in any order, twice, backwards or past the end, each answer is the number of bytes in front of the
index asked for, and no query in front of it makes a difference. -/
theorem every_answer_counts_from_the_start (source : Text) (indexes : List Nat) :
    (start source).queries indexes =
      indexes.map fun index => (Utf8.encode (source.take index)).length := by
  rw [(exact_start source).queries_eq]
  apply List.map_congr_left
  intro index _
  exact (Text.length_encode _).symm

/-- Past the end and back again. -/
example : (start "é€".toList).queries [1, 7, 2, 0, 1] = [2, 5, 5, 0, 2] := by decide

end ByteCounter

end FieldTemplate
