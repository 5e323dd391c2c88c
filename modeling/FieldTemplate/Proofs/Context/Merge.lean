import FieldTemplate.Context.Merge
import FieldTemplate.Proofs.Value.Nested
import FieldTemplate.Render.Basic

/-!
# Looking up in merged dictionaries

What a path leads to after a merge is decided by where it leads in the dictionary on top
(`Value.standing`): to nothing that the top knows of, so the base decides; through something that
is no dictionary, so to nothing; or to a value, which is then written over that of the base
(`lookup_over`).
-/

namespace FieldTemplate

set_option autoImplicit false

/-- What a dictionary says of a path of keys. -/
inductive Standing where
  /-- A key on the way is absent. -/
  | silent
  /-- The path goes on behind a value that is no dictionary. -/
  | cut
  | valued (v : Value)

/-- Walks a path of keys through nested dictionaries. -/
def Value.standing (v : Value) : List Text → Standing
  | [] => .valued v
  | key :: rest =>
    match v with
    | .mapping .dict entries =>
      match Entries.get? entries (.text key) with
      | some w => w.standing rest
      | none => .silent
    | _ => .cut

/-- What a dictionary makes of the value that was behind a path. -/
def Standing.onto (old : Option Value) : Standing → Option Value
  | .silent => old
  | .cut => none
  | .valued v => some (v.over old)

/-! ## One key -/

/-- **A key of distinct ones is written over what was there**, and the others keep their values. -/
theorem get?_merge {upper : Entries} (distinct : upper.Distinct) (base : Entries) (key : Atom) :
    (merge base upper).get? key =
      match upper.get? key with
      | none => base.get? key
      | some v => some (v.over (base.get? key)) := by
  induction upper generalizing base with
  | nil => rw [merge]; rfl
  | cons entry rest ih =>
      obtain ⟨k, v⟩ := entry
      obtain ⟨other, distinct⟩ := Entries.distinct_cons_iff.1 distinct
      rw [merge, ih distinct, Entries.get?_insert, Entries.get?]
      by_cases here : k.sameKey key = true
      · -- the rest does not come back to the key that was just written
        have absent : Entries.get? rest key = none := by
          rw [← Entries.get?_congr rest here, Entries.get?_eq_none_iff]
          intro k' member
          rw [Bool.eq_false_iff]
          intro same
          simpa [Atom.sameKey_symm same] using other k' member
        simp [here, absent, Entries.get?_congr base here]
      · simp [here]

theorem Value.over_none (v : Value) : v.over none = v := by
  rcases v with _ | _ | ⟨_ | _, es⟩ <;> simp [Value.over]

/-- Keys that the base does not have come behind it. -/
theorem merge_eq_append {upper : Entries} (distinct : upper.Distinct) {base : Entries}
    (apart : ∀ key ∈ upper.keys, base.get? key = none) : merge base upper = base ++ upper := by
  induction upper generalizing base with
  | nil => rw [merge, List.append_nil]
  | cons entry rest ih =>
      obtain ⟨k, v⟩ := entry
      obtain ⟨other, distinct⟩ := Entries.distinct_cons_iff.1 distinct
      have absent : base.get? k = none := apart k List.mem_cons_self
      have apart' : ∀ key ∈ Entries.keys rest, (base.insert k v).get? key = none := by
        intro key member
        rw [Entries.get?_insert, other key member]
        exact apart key (List.mem_cons_of_mem _ member)
      rw [merge, absent, Value.over_none, ih distinct apart',
        Entries.insert_of_get?_eq_none v absent, List.append_assoc, List.singleton_append]

/-! ## Paths -/

/-- The entries that a dictionary is merged onto: what is no dictionary has none. -/
def Value.entriesBelow : Option Value → Entries
  | some (.mapping .dict base) => base
  | _ => []

@[simp] theorem Value.entriesBelow_dict (base : Entries) :
    Value.entriesBelow (some (.dict base)) = base := rfl

theorem Value.over_dict {entries : Entries} (distinct : entries.Distinct) (old : Option Value) :
    (Value.dict entries).over old = .dict (merge (entriesBelow old) entries) := by
  have alone : merge [] entries = entries := merge_eq_append distinct fun _ _ => rfl
  rcases old with _ | _ | _ | ⟨_ | _, base⟩ <;> simp [Value.dict, Value.over, entriesBelow, alone]

@[simp] theorem Value.over_atom (a : Atom) (old : Option Value) :
    (Value.atom a).over old = .atom a := by
  rw [Value.over]

@[simp] theorem Value.over_sequence (kind : SequenceKind) (items : List Value)
    (old : Option Value) : (Value.sequence kind items).over old = .sequence kind items := by
  rw [Value.over]

theorem Value.over_of_not_dict {v : Value} (old : Option Value) (other : ∀ es, v ≠ .dict es) :
    v.over old = v := by
  rcases v with _ | _ | ⟨_ | _, es⟩
  · exact Value.over_atom ..
  · exact Value.over_sequence ..
  · exact absurd rfl (other es)
  · rw [Value.over]

theorem Value.Nested.entriesBelow {old : Option Value} (below : ∀ w ∈ old, w.Nested) :
    (Value.dict (Value.entriesBelow old)).Nested := by
  rcases old with _ | _ | _ | ⟨_ | _, base⟩
  case some.mapping.dict => exact below _ rfl
  all_goals exact .empty

theorem Value.lookup_dict_cons (entries : Entries) (key : Text) (rest : List Text) :
    (Value.dict entries).lookup (key :: rest) =
      (entries.get? (.text key)).bind fun v => v.lookup rest := by
  rw [Value.dict, Value.lookup]
  cases entries.get? (.text key) <;> rfl

theorem Value.lookup_entriesBelow {old : Option Value} (below : ∀ w ∈ old, w.Nested)
    (key : Text) (rest : List Text) :
    (old.bind fun w => w.lookup (key :: rest)) =
      ((Value.entriesBelow old).get? (.text key)).bind fun w => w.lookup rest := by
  rcases old with _ | _ | _ | ⟨_ | _, base⟩
  case some.mapping.dict => exact Value.lookup_dict_cons base key rest
  case some.mapping.readOnly => exact nomatch below _ rfl
  all_goals rfl

/-- **A path leads through a merge as it leads through the value on top**, and to the base where
that is silent. -/
theorem lookup_over {v : Value} (nested : v.Nested) {old : Option Value}
    (below : ∀ w ∈ old, w.Nested) (path : List Text) :
    (v.over old).lookup path = (v.standing path).onto (old.bind fun w => w.lookup path) := by
  induction path generalizing v old with
  | nil => simp [Value.lookup, Value.standing, Standing.onto]
  | cons key rest ih =>
      cases nested with
      | atom a => rw [Value.over_atom]; rfl
      | sequence kind items => rw [Value.over_sequence]; rfl
      | @dict entries distinct values =>
          have nested : (Value.dict entries).Nested := .dict distinct values
          have merged := Value.over_dict distinct old
          rw [Value.dict] at merged
          rw [merged, Value.lookup_dict_cons, get?_merge distinct, Value.lookup_entriesBelow below,
            Value.standing]
          cases found : entries.get? (.text key) with
          | none => rfl
          | some w =>
              exact ih (nested.get? found) fun u there =>
                (Value.Nested.entriesBelow below).get? there

/-- A path through a nested value on its own. -/
theorem lookup_eq_onto_none {v : Value} (nested : v.Nested) (path : List Text) :
    v.lookup path = (v.standing path).onto none := by
  have alone := lookup_over nested (fun w (there : w ∈ none) => nomatch there) path
  rwa [Value.over_none] at alone

theorem lookup_merge {base upper : Entries} (below : (Value.dict base).Nested)
    (nested : (Value.dict upper).Nested) (path : List Text) :
    (Value.dict (merge base upper)).lookup path =
      ((Value.dict upper).standing path).onto ((Value.dict base).lookup path) := by
  have merged := @lookup_over _ nested (some (.dict base)) (by simpa using below) path
  rwa [Value.over_dict nested.distinct] at merged

/-! ## Merging keeps dictionaries nested -/

/-- Entries that stay nested over anything are merged one by one onto what is nested. -/
theorem Value.Nested.merge_entries {entries : Entries}
    (each : ∀ entry ∈ entries, ∀ {old : Option Value}, (∀ w ∈ old, w.Nested) →
      (entry.2.over old).Nested)
    {base : Entries} (below : (Value.dict base).Nested) :
    (Value.dict (merge base entries)).Nested := by
  induction entries generalizing base with
  | nil => rwa [merge]
  | cons entry rest ih =>
      rw [merge]
      have first : (entry.2.over (base.get? entry.1)).Nested :=
        each entry List.mem_cons_self fun w there => below.get? there
      exact ih (fun e member => each e (List.mem_cons_of_mem _ member)) (below.insert entry.1 first)

theorem Value.Nested.over {v : Value} (nested : v.Nested) {old : Option Value}
    (below : ∀ w ∈ old, w.Nested) : (v.over old).Nested := by
  induction nested generalizing old with
  | atom a => rw [Value.over_atom]; exact .atom a
  | sequence kind items => rw [Value.over_sequence]; exact .sequence kind items
  | @dict entries distinct values ih =>
      have merged := Value.over_dict distinct old
      rw [Value.dict] at merged
      rw [merged]
      exact Value.Nested.merge_entries ih (Value.Nested.entriesBelow below)

theorem nested_merge {base upper : Entries} (below : (Value.dict base).Nested)
    (nested : (Value.dict upper).Nested) : (Value.dict (merge base upper)).Nested := by
  have merged := @Value.Nested.over _ nested (some (.dict base)) (by simpa using below)
  rwa [Value.over_dict nested.distinct] at merged

end FieldTemplate
