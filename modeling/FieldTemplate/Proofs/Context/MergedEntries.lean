import FieldTemplate.Proofs.Context.Merge

/-!
# The entries of merged dictionaries

* `merge_eq_overlaid_append`: a merge is the base with values written over its own, and behind it
  the entries that the base lacks, so its keys are those of the base and then the new ones
  (`keys_merge`);
* `Value.under_over_of_eq_some`, `Value.exists_of_under_over`: what lies under a path of keys, of
  whatever type they are, once a value has been written over another.
-/

namespace FieldTemplate

set_option autoImplicit false

/-! ## Entry by entry -/

/-- A value with another one written over it, if there is one. -/
def Value.topped (old : Value) : Option Value → Value
  | none => old
  | some v => v.over (some old)

namespace Entries

variable {base upper rest : Entries} {key : Atom} {v old : Value}

theorem get?_tail_eq_none (distinct : Distinct ((key, v) :: rest)) : rest.get? key = none := by
  rw [get?_eq_none_iff]
  intro k member
  rw [Atom.sameKey_comm]
  exact (distinct_cons_iff.1 distinct).1 k member

/-- An entry is found under its key, if the key is the same as itself. -/
theorem get?_of_mem (distinct : base.Distinct) (member : (key, v) ∈ base)
    (self : key.sameKey key = true) : base.get? key = some v := by
  induction base with
  | nil => cases member
  | cons first rest ih =>
      obtain ⟨k, w⟩ := first
      obtain ⟨other, distinct⟩ := distinct_cons_iff.1 distinct
      rcases List.mem_cons.1 member with ⟨rfl, rfl⟩ | behind
      · rw [get?, if_pos self]
      · have apart : k.sameKey key = false := other key (List.mem_map_of_mem behind)
        rw [get?, apart]
        exact ih distinct behind

/-- What is no number is found under no key. -/
theorem sameKey_self_of_get? (found : base.get? key = some v) : key.sameKey key = true := by
  induction base with
  | nil => cases found
  | cons first rest ih =>
      rw [get?] at found
      split at found
      · next here =>
        rw [← Atom.sameKey_congr here]
        exact here
      · exact ih found

/-- A key that is there is written in its place. -/
theorem insert_eq_map (distinct : base.Distinct) (found : base.get? key = some old) :
    base.insert key v = base.map fun e => if e.1.sameKey key then (e.1, v) else e := by
  induction base with
  | nil => cases found
  | cons first rest ih =>
      obtain ⟨k, w⟩ := first
      obtain ⟨other, distinct⟩ := distinct_cons_iff.1 distinct
      rw [get?] at found
      rw [insert, List.map_cons]
      by_cases here : k.sameKey key = true
      · -- no key behind this one is the same
        have kept : ∀ e ∈ rest, (if e.1.sameKey key then (e.1, v) else e) = e := by
          intro e member
          have apart : e.1.sameKey key = false := by
            rw [Atom.sameKey_comm, ← Atom.sameKey_congr here]
            exact other e.1 (List.mem_map_of_mem member)
          simp [apart]
        simp [here, List.map_congr_left kept]
      · rw [if_neg here] at found
        simp [here, ih distinct found]

/-- The base with what the upper entries write over its values. -/
def overlaid (base upper : Entries) : Entries :=
  base.map fun e => (e.1, e.2.topped (upper.get? e.1))

/-- The upper entries whose keys the base lacks. -/
def added (base upper : Entries) : Entries := upper.filter fun e => (base.get? e.1).isNone

theorem added_insert (other : ∀ k ∈ rest.keys, key.sameKey k = false) (base : Entries) :
    (base.insert key v).added rest = base.added rest := by
  refine List.filter_congr fun e member => ?_
  have apart := other e.1 (List.mem_map_of_mem member)
  rw [get?_insert, apart]
  rfl

theorem overlaid_cons_of_none (absent : base.get? key = none) :
    base.overlaid ((key, v) :: rest) = base.overlaid rest := by
  refine List.map_congr_left fun e member => ?_
  have apart : key.sameKey e.1 = false := by
    rw [Atom.sameKey_comm]
    exact get?_eq_none_iff.1 absent e.1 (List.mem_map_of_mem member)
  rw [get?, apart]
  rfl

theorem overlaid_cons_of_some (distinct : base.Distinct) (found : base.get? key = some old)
    (single : rest.get? key = none) :
    base.overlaid ((key, v) :: rest) = (base.insert key (v.over (some old))).overlaid rest := by
  rw [insert_eq_map distinct found, overlaid, overlaid, List.map_map]
  refine List.map_congr_left fun e member => ?_
  by_cases here : e.1.sameKey key = true
  · have self : e.1.sameKey e.1 = true := by
      rw [Atom.sameKey_congr_right here]
      exact here
    have value : some e.2 = some old := by
      rw [← found, ← get?_of_mem distinct member self, get?_congr base here]
    have behind : rest.get? e.1 = none := (get?_congr rest here).trans single
    simp [here, get?, Atom.sameKey_comm key, behind, Value.topped, Option.some.inj value]
  · simp [here, get?, Atom.sameKey_comm key]

theorem Distinct.merge (distinct : base.Distinct) (upper : Entries) :
    (merge base upper).Distinct := by
  induction upper generalizing base with
  | nil => rwa [FieldTemplate.merge]
  | cons entry rest ih =>
      rw [FieldTemplate.merge]
      exact ih (distinct.insert _ _)

end Entries

section

variable {base upper : Entries}

/-- **A merge is the base with values written over its own**, and behind it the entries that the
base lacks. -/
theorem merge_eq_overlaid_append (below : base.Distinct) (distinct : upper.Distinct) :
    merge base upper = base.overlaid upper ++ base.added upper := by
  induction upper generalizing base with
  | nil => simp [merge, Entries.overlaid, Entries.added, Entries.get?, Value.topped]
  | cons entry rest ih =>
      obtain ⟨key, v⟩ := entry
      have single := Entries.get?_tail_eq_none distinct
      obtain ⟨other, distinct⟩ := Entries.distinct_cons_iff.1 distinct
      rw [merge, ih (below.insert _ _) distinct, Entries.added_insert other]
      cases found : base.get? key with
      | none =>
          rw [Value.over_none, Entries.insert_of_get?_eq_none v found,
            Entries.overlaid_cons_of_none found]
          simp [Entries.overlaid, Entries.added, found, single, Value.topped]
      | some old =>
          rw [Entries.overlaid_cons_of_some below found single]
          simp [Entries.added, found]

@[simp] theorem Value.over_dict_dict (base upper : Entries) :
    (Value.dict upper).over (some (.dict base)) = .dict (merge base upper) := by
  rw [Value.dict, Value.dict, Value.over]
  rfl

/-- Unless both are dictionaries, a value replaces the one below. -/
theorem Value.over_eq_self {v : Value} {old : Option Value}
    (other : ∀ below es, old = some (.dict below) → v ≠ .dict es) : v.over old = v := by
  by_cases isDict : ∃ es, v = .dict es
  · obtain ⟨es, rfl⟩ := isDict
    rcases old with _ | _ | _ | ⟨_ | _, base⟩
    case some.mapping.dict => exact absurd rfl (other base es rfl)
    all_goals simp [Value.dict, Value.over]
  · exact over_of_not_dict old fun es same => isDict ⟨es, same⟩

theorem nil_merge (distinct : upper.Distinct) : merge [] upper = upper :=
  merge_eq_append distinct fun _ _ => rfl

/-- The keys of the base stay where and as they are, and the new ones come behind them. -/
theorem keys_merge (below : base.Distinct) (distinct : upper.Distinct) :
    (merge base upper).keys =
      base.keys ++ upper.keys.filter fun key => (base.get? key).isNone := by
  rw [merge_eq_overlaid_append below distinct]
  simp [Entries.keys, Entries.overlaid, Entries.added, List.filter_map, Function.comp_def]

end

/-! ## Under a path of keys -/

namespace Value

def IsDict (v : Value) : Prop := ∃ entries, v = .dict entries

/-- The value under a path of keys, through nested dictionaries. -/
def under (v : Value) : List Atom → Option Value
  | [] => some v
  | key :: rest =>
    match v with
    | .mapping .dict entries => (Entries.get? entries key).bind fun w => w.under rest
    | _ => none

theorem under_dict_cons (entries : Entries) (key : Atom) (rest : List Atom) :
    (Value.mapping .dict entries).under (key :: rest) =
      (entries.get? key).bind fun w => w.under rest := rfl

theorem Nested.under {v w : Value} (nested : v.Nested) {path : List Atom}
    (found : v.under path = some w) : w.Nested := by
  induction path generalizing v with
  | nil =>
      cases found
      exact nested
  | cons key rest ih =>
      cases nested with
      | atom a => cases found
      | sequence kind items => cases found
      | dict distinct values =>
          rw [under_dict_cons, Option.bind_eq_some_iff] at found
          obtain ⟨u, there, behind⟩ := found
          exact ih (Nested.get? (.dict distinct values) there) behind

theorem under_entriesBelow (old : Option Value) (key : Atom) (rest : List Atom) :
    (old.bind fun w => w.under (key :: rest)) =
      ((entriesBelow old).get? key).bind fun w => w.under rest := by
  rcases old with _ | _ | _ | ⟨_ | _, base⟩ <;> rfl

theorem under_over_cons {entries : Entries} (distinct : entries.Distinct) (old : Option Value)
    (key : Atom) (rest : List Atom) :
    ((Value.mapping .dict entries).over old).under (key :: rest) =
      match entries.get? key with
      | none => old.bind fun w => w.under (key :: rest)
      | some v => (v.over ((entriesBelow old).get? key)).under rest := by
  have merged := over_dict distinct old
  rw [dict, dict] at merged
  rw [merged, under_dict_cons, get?_merge distinct, under_entriesBelow]
  cases entries.get? key <;> rfl

/-- **What a value holds under a path is written over what was there.** -/
theorem under_over_of_eq_some {v u : Value} (nested : v.Nested) {path : List Atom}
    (found : v.under path = some u) (old : Option Value) :
    (v.over old).under path = some (u.over (old.bind fun w => w.under path)) := by
  induction path generalizing v old with
  | nil =>
      cases found
      cases old <;> rfl
  | cons key rest ih =>
      cases nested with
      | atom a => cases found
      | sequence kind items => cases found
      | dict distinct values =>
          rw [under_dict_cons, Option.bind_eq_some_iff] at found
          obtain ⟨w, there, behind⟩ := found
          rw [under_over_cons distinct, under_entriesBelow, there]
          exact ih (Nested.get? (.dict distinct values) there) behind _

/-- What lies under a path was there before, or it was written over that. -/
theorem exists_of_under_over {v u : Value} (nested : v.Nested) {path : List Atom}
    {old : Option Value} (found : (v.over old).under path = some u) :
    (∃ w ∈ old, w.under path = some u) ∨
      ∃ w, v.under path = some w ∧ ∃ before, u = w.over before := by
  induction path generalizing v old with
  | nil =>
      cases found
      exact .inr ⟨v, rfl, old, rfl⟩
  | cons key rest ih =>
      cases nested with
      | atom a => rw [Value.over_atom] at found; cases found
      | sequence kind items => rw [Value.over_sequence] at found; cases found
      | @dict entries distinct values =>
          rw [under_over_cons distinct] at found
          rw [under_dict_cons]
          cases there : entries.get? key with
          | none =>
              rw [there] at found
              exact .inl (Option.bind_eq_some_iff.1 found)
          | some v' =>
              rw [there] at found
              rcases ih (Nested.get? (.dict distinct values) there) found with
                ⟨w, below, behind⟩ | written
              · refine .inl (Option.bind_eq_some_iff.1 ?_)
                rw [under_entriesBelow, below]
                exact behind
              · exact .inr written

theorem isDict_over_iff (v : Value) (old : Option Value) : (v.over old).IsDict ↔ v.IsDict := by
  rcases v with a | ⟨kind, items⟩ | ⟨_ | _, entries⟩
  · rw [Value.over_atom]
  · rw [Value.over_sequence]
  · refine iff_of_true ?_ ⟨entries, rfl⟩
    rcases old with _ | _ | _ | ⟨_ | _, base⟩ <;> simp [IsDict, dict, Value.over]
  · rw [Value.over]

end Value

end FieldTemplate
