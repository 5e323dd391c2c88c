import FieldTemplate.Proofs.Value.Entries

/-!
# Nested dictionaries

The data that files and assignments hold: every mapping on the way to a value is a dictionary,
and its keys are distinct.  What lies in a sequence is behind no path of keys and may be
anything.
-/

namespace FieldTemplate

set_option autoImplicit false

inductive Value.Nested : Value → Prop
  | atom (a : Atom) : Nested (.atom a)
  | sequence (kind : SequenceKind) (items : List Value) : Nested (.sequence kind items)
  | dict {entries : Entries} :
      entries.Distinct → (∀ entry ∈ entries, Nested entry.2) → Nested (.mapping .dict entries)

namespace Value.Nested

theorem empty : (Value.dict []).Nested := .dict Entries.distinct_nil (by simp)

theorem singleton (key : Atom) {v : Value} (nested : v.Nested) :
    (Value.dict [(key, v)]).Nested :=
  .dict (Entries.distinct_cons_iff.2 ⟨by simp [Entries.keys], Entries.distinct_nil⟩)
    (by simpa using nested)

theorem distinct {entries : Entries} (nested : (Value.dict entries).Nested) :
    entries.Distinct := by
  cases nested with
  | dict distinct _ => exact distinct

theorem entry {entries : Entries} (nested : (Value.dict entries).Nested) :
    ∀ entry ∈ entries, entry.2.Nested := by
  cases nested with
  | dict _ values => exact values

theorem get? {entries : Entries} (nested : (Value.dict entries).Nested) {key : Atom} {v : Value}
    (found : entries.get? key = some v) : v.Nested := by
  obtain ⟨k, member⟩ := Entries.mem_of_get? found
  exact nested.entry _ member

theorem insert {entries : Entries} (nested : (Value.dict entries).Nested) (key : Atom) {v : Value}
    (new : v.Nested) : (Value.dict (entries.insert key v)).Nested := by
  refine .dict (nested.distinct.insert key v) fun entry member => ?_
  rcases Entries.mem_insert member with same | old
  · rw [same]
    exact new
  · exact nested.entry entry old

end Value.Nested

end FieldTemplate
