import FieldTemplate.Host.Usual
import FieldTemplate.Proofs.Context.Layers
import FieldTemplate.Proofs.Context.MergedEntries

/-!
# Layers that come twice

A layer that has just been merged is merged again without effect (`merge_merge_self`), since what it
writes is there already (`merge_eq_self`).  So a data file or an assignment may stand twice in a row
(`repeating_changes_nothing`).  This takes keys that can be found again: a key that is no number is
the same as none, and is added every time.
-/

namespace FieldTemplate

set_option autoImplicit false

/-! ## What is there already -/

/-- Every key is the same as itself, so that none of them is a double or a decimal that is no
number. -/
inductive Value.SelfKeyed : Value → Prop
  | atom (a : Atom) : SelfKeyed (.atom a)
  | sequence (kind : SequenceKind) (items : List Value) : SelfKeyed (.sequence kind items)
  | dict {entries : Entries} :
      (∀ entry ∈ entries, entry.1.sameKey entry.1 = true) →
      (∀ entry ∈ entries, SelfKeyed entry.2) → SelfKeyed (.mapping .dict entries)

/-- Writing what is there already changes nothing. -/
theorem Entries.insert_self {entries : Entries} {key : Atom} {v : Value}
    (found : entries.get? key = some v) : entries.insert key v = entries := by
  induction entries with
  | nil => cases found
  | cons first rest ih =>
      obtain ⟨k, w⟩ := first
      rw [get?] at found
      rw [insert]
      by_cases here : k.sameKey key = true
      · rw [if_pos here] at found ⊢
        cases found
        rfl
      · rw [if_neg here] at found ⊢
        rw [ih found]

/-- **Merging changes nothing** if every value that is written leaves the one below as it is. -/
theorem merge_eq_self {base upper : Entries}
    (kept : ∀ entry ∈ upper, ∃ v, base.get? entry.1 = some v ∧ entry.2.over (some v) = v) :
    merge base upper = base := by
  induction upper with
  | nil => rw [merge]
  | cons entry rest ih =>
      obtain ⟨key, v⟩ := entry
      obtain ⟨⟨old, found, same⟩, others⟩ := List.forall_mem_cons.1 kept
      rw [merge, found, same, Entries.insert_self found]
      exact ih others

theorem merge_merge_self_of_each {base upper : Entries} (distinct : upper.Distinct)
    (self : ∀ entry ∈ upper, entry.1.sameKey entry.1 = true)
    (each : ∀ entry ∈ upper, ∀ old, entry.2.over (some (entry.2.over old)) = entry.2.over old) :
    merge (merge base upper) upper = merge base upper := by
  refine merge_eq_self fun entry member => ?_
  have found := Entries.get?_of_mem distinct member (self entry member)
  refine ⟨entry.2.over (base.get? entry.1), ?_, each entry member _⟩
  rw [get?_merge distinct, found]

/-- **A value that is written twice is written once.** -/
theorem Value.over_over_self {v : Value} (nested : v.Nested) (self : v.SelfKeyed)
    (old : Option Value) : v.over (some (v.over old)) = v.over old := by
  induction nested generalizing old with
  | atom a => simp only [Value.over_atom]
  | sequence kind items => simp only [Value.over_sequence]
  | @dict entries distinct values ih =>
      cases self with
      | dict keys selves =>
          change (Value.dict entries).over (some ((Value.dict entries).over old)) =
            (Value.dict entries).over old
          rw [Value.over_dict distinct old, Value.over_dict_dict]
          congr 1
          exact merge_merge_self_of_each distinct keys fun entry member old =>
            ih entry member (selves entry member) old

/-! ## Layers -/

section

variable {a b : Entries}

theorem merge_merge_self (nested : (Value.dict b).Nested) (self : (Value.dict b).SelfKeyed)
    (a : Entries) : merge (merge a b) b = merge a b := by
  have values := Value.over_over_self nested self (some (.dict a))
  simp only [Value.over_dict_dict] at values
  exact (Value.mapping.inj values).2

theorem merge_self (nested : (Value.dict a).Nested) (self : (Value.dict a).SelfKeyed) :
    merge a a = a := by
  have twice := merge_merge_self nested self []
  rwa [nil_merge nested.distinct] at twice

/-- Where both hold dictionaries, the keys of the base come first and the new ones behind them. -/
theorem keys_under_merge (below : (Value.dict a).Nested) (nested : (Value.dict b).Nested)
    {path : List Atom} {ea eb : Entries} (lower : (Value.dict a).under path = some (.dict ea))
    (upper : (Value.dict b).under path = some (.dict eb)) :
    ∃ merged, (Value.dict (merge a b)).under path = some (.dict merged) ∧
      merged.keys = ea.keys ++ eb.keys.filter fun key => (ea.get? key).isNone := by
  have found := Value.under_over_of_eq_some nested upper (some (.dict a))
  rw [Value.over_dict_dict, Option.bind_some, lower, Value.over_dict_dict] at found
  refine ⟨merge ea eb, found, ?_⟩
  exact keys_merge (below.under lower).distinct (nested.under upper).distinct

end

namespace Context

variable {tree : FileTree} {cwd : Location} {defaults layer : Entries}

theorem ofLayers_repeated (nested : (Value.dict layer).Nested) (self : (Value.dict layer).SelfKeyed)
    (base : Entries) (before after : List Entries) :
    ofLayers base (before ++ layer :: layer :: after) =
      ofLayers base (before ++ layer :: after) := by
  simp only [ofLayers, List.foldl_append, List.foldl_cons]
  rw [merge_merge_self nested self]

theorem build_repeated_file [Host] {path : Path}
    (self : ∀ layer, (DataFile.load tree cwd path).result = .ok layer →
      (Value.dict layer).SelfKeyed)
    (before after : List Path) (assignments : List Text) :
    (build tree cwd defaults (before ++ path :: path :: after) assignments).result =
      (build tree cwd defaults (before ++ path :: after) assignments).result := by
  rw [build_result, build_result]
  refine mapM_bind_repeated (fun layer loaded files files' => ?_) before after
  have nested := DataFile.nested_of_load loaded
  simp only [List.append_assoc, List.cons_append, ofLayers_repeated nested (self layer loaded)]

theorem build_repeated_assignment [Host] {assignment : Text}
    (self : ∀ layer, Assignment.parse assignment = .ok layer → (Value.dict layer).SelfKeyed)
    (paths : List Path) (before after : List Text) :
    (build tree cwd defaults paths (before ++ assignment :: assignment :: after)).result =
      (build tree cwd defaults paths (before ++ assignment :: after)).result := by
  rw [build_result, build_result]
  congr 1
  funext files
  refine mapM_bind_repeated (fun layer parsed sets sets' => ?_) before after
  have nested := Assignment.nested_of_parse parsed
  simp only [← List.append_assoc files, ofLayers_repeated nested (self layer parsed)]

end Context

/-- **Repeating a layer changes nothing**, neither a value nor the order of a key.  What has been
merged once is merged again without effect, and so is a layer onto itself; where two layers both
hold dictionaries, the keys of the lower one keep their places and their spelling, and the new ones
of the upper one come behind them in their order.  So a data file or an assignment may be given
twice in a row. -/
theorem repeating_changes_nothing [Host] {a b : Entries} (below : (Value.dict a).Nested)
    (nested : (Value.dict b).Nested) (self : (Value.dict a).SelfKeyed)
    (self' : (Value.dict b).SelfKeyed) :
    merge (merge a b) b = merge a b ∧ merge a a = a ∧
    (∀ path ea eb, (Value.dict a).under path = some (.dict ea) →
      (Value.dict b).under path = some (.dict eb) →
        ∃ merged, (Value.dict (merge a b)).under path = some (.dict merged) ∧
          merged.keys = ea.keys ++ eb.keys.filter fun key => (ea.get? key).isNone) ∧
    ∀ (tree : FileTree) (cwd : Location) (defaults : Entries),
      (∀ path, (∀ layer, (DataFile.load tree cwd path).result = .ok layer →
          (Value.dict layer).SelfKeyed) →
        ∀ before after assignments,
          (Context.build tree cwd defaults (before ++ path :: path :: after) assignments).result =
            (Context.build tree cwd defaults (before ++ path :: after) assignments).result) ∧
      ∀ assignment, (∀ layer, Assignment.parse assignment = .ok layer →
          (Value.dict layer).SelfKeyed) →
        ∀ paths before after,
          (Context.build tree cwd defaults paths
            (before ++ assignment :: assignment :: after)).result =
              (Context.build tree cwd defaults paths (before ++ assignment :: after)).result := by
  refine ⟨merge_merge_self nested self' a, merge_self below self, ?_, ?_⟩
  · intro path ea eb lower upper
    exact keys_under_merge below nested lower upper
  · intro tree cwd defaults
    constructor
    · intro path self before after assignments
      exact Context.build_repeated_file self before after assignments
    · intro assignment self paths before after
      exact Context.build_repeated_assignment self paths before after

open scoped Host

/-- A dictionary under `true`, and another key behind it. -/
def keyedByTrue : Entries :=
  [(.bool true, .dict [(.text "x".toList, .null)]), (.text "y".toList, .null)]

/-- A dictionary under `1`, which is the same key, and another key in front of it. -/
def keyedByOne : Entries :=
  [(.text "w".toList, .null),
    (.int 1, .dict [(.text "z".toList, .null), (.text "x".toList, .text [])])]

theorem repeating_changes_nothing_across_types :
    merge (merge keyedByTrue keyedByOne) keyedByOne = merge keyedByTrue keyedByOne ∧
      merge keyedByTrue keyedByTrue = keyedByTrue ∧
      (∃ merged, (Value.dict (merge keyedByTrue keyedByOne)).under [] = some (.dict merged) ∧
        merged.keys = [.bool true, .text "y".toList, .text "w".toList]) ∧
      (∃ merged, (Value.dict (merge keyedByTrue keyedByOne)).under [.int 1] =
          some (.dict merged) ∧ merged.keys = [.text "x".toList, .text "z".toList]) ∧
      (Context.build .empty [] keyedByTrue [] ["w=".toList, "w=".toList]).result =
        (Context.build .empty [] keyedByTrue [] ["w=".toList]).result := by
  have below : (Value.dict keyedByTrue).Nested :=
    (Value.Nested.singleton (.bool true) (.singleton (.text "x".toList) (.atom .null))).insert
      (.text "y".toList) (.atom .null)
  have inner : (Value.dict [(.text "z".toList, .null), (.text "x".toList, .text [])]).Nested :=
    (Value.Nested.singleton (.text "z".toList) (.atom .null)).insert (.text "x".toList)
      (.atom (.text []))
  have nested : (Value.dict keyedByOne).Nested :=
    (Value.Nested.singleton (.text "w".toList) (.atom .null)).insert (.int 1) inner
  have self : (Value.dict keyedByTrue).SelfKeyed := by
    refine .dict (by decide) ?_
    refine List.forall_mem_cons.2 ⟨.dict (by decide) ?_, List.forall_mem_singleton.2 (.atom .null)⟩
    exact List.forall_mem_singleton.2 (.atom .null)
  have self' : (Value.dict keyedByOne).SelfKeyed := by
    refine .dict (by decide) ?_
    refine List.forall_mem_cons.2 ⟨.atom .null, List.forall_mem_singleton.2 (.dict (by decide) ?_)⟩
    exact List.forall_mem_cons.2 ⟨.atom .null, List.forall_mem_singleton.2 (.atom (.text []))⟩
  obtain ⟨twice, onto, keys, contexts⟩ := repeating_changes_nothing below nested self self'
  refine ⟨twice, onto, keys [] keyedByTrue keyedByOne rfl rfl, keys [.int 1] _ _ rfl rfl, ?_⟩
  refine (contexts .empty [] keyedByTrue).2 "w=".toList (fun layer parsed => ?_) [] [] []
  cases parsed
  exact .dict (by decide) (List.forall_mem_singleton.2 (.atom (.text [])))

end FieldTemplate
