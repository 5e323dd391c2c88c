import FieldTemplate.Host.Usual
import FieldTemplate.Proofs.Context.MergedEntries
import FieldTemplate.Proofs.Context.Precedence
import Mathlib.Data.List.Induction
import Mathlib.Data.List.Triplewise

/-!
# Merging in groups

Layers that are merged one onto the other may be merged in groups first, unless something that is
no dictionary lies between two dictionaries (`Value.SeveredAt`).  Merged from the bottom it
replaces the lower dictionary, and the upper one replaces it; merged from the top it is replaced
first, and the two dictionaries are merged with each other.

* `Value.over_over`, `merge_merge`: three values, or three layers, can be merged from either end;
* `Context.Grouping.merged_eq_ofLayers`: so can any number of them, in any grouping;
* `merging_in_any_grouping`: and so can the layers of a context.
-/

namespace FieldTemplate

set_option autoImplicit false

/-- Under this path the outer two hold dictionaries, and the middle one holds something else. -/
def Value.SeveredAt (lower middle upper : Value) (path : List Atom) : Prop :=
  (∃ u ∈ lower.under path, u.IsDict) ∧ (∃ w ∈ middle.under path, ¬ w.IsDict) ∧
    ∃ v ∈ upper.under path, v.IsDict

/-! ## Three layers -/

section

variable {a b c : Entries}

namespace Entries

theorem added_merge (distinct : b.Distinct) :
    (merge a b).added c = a.added (b.added c) := by
  rw [added, added, added, List.filter_filter]
  refine List.filter_congr fun e _ => ?_
  rw [get?_merge distinct]
  cases b.get? e.1 <;> simp

theorem overlaid_added : (a.added b).overlaid c = a.added (b.overlaid c) := by
  simp only [overlaid, added, List.filter_map, Function.comp_def]

theorem overlaid_overlaid (below : a.Distinct) (distinct : c.Distinct)
    (each : ∀ key u w v, a.get? key = some u → b.get? key = some w → c.get? key = some v →
      v.over (some (w.over (some u))) = (v.over (some w)).over (some u)) :
    (a.overlaid b).overlaid c = a.overlaid (merge b c) := by
  rw [overlaid, overlaid, List.map_map]
  refine List.map_congr_left fun e member => ?_
  have value : (e.2.topped (b.get? e.1)).topped (c.get? e.1) =
      e.2.topped ((merge b c).get? e.1) := by
    rw [get?_merge distinct]
    cases top : c.get? e.1 with
    | none => rfl
    | some v =>
        cases middle : b.get? e.1 with
        | none => simp only [Value.topped, Value.over_none]
        | some w =>
            have found := get?_of_mem below member (sameKey_self_of_get? top)
            exact each e.1 e.2 w v found middle top
  exact Prod.ext rfl value

end Entries

/-- Layers can be merged from either end if the values under each key can. -/
theorem merge_merge_of_each (lower : a.Distinct) (middle : b.Distinct) (upper : c.Distinct)
    (each : ∀ key u w v, a.get? key = some u → b.get? key = some w → c.get? key = some v →
      v.over (some (w.over (some u))) = (v.over (some w)).over (some u)) :
    merge (merge a b) c = merge a (merge b c) := by
  calc merge (merge a b) c
      = (merge a b).overlaid c ++ (merge a b).added c :=
        merge_eq_overlaid_append (lower.merge b) upper
    _ = (a.overlaid b ++ a.added b).overlaid c ++ a.added (b.added c) := by
        rw [Entries.added_merge middle, merge_eq_overlaid_append lower middle]
    _ = (a.overlaid b).overlaid c ++ (a.added (b.overlaid c) ++ a.added (b.added c)) := by
        rw [← Entries.overlaid_added]
        simp [Entries.overlaid]
    _ = a.overlaid (merge b c) ++ a.added (merge b c) := by
        rw [Entries.overlaid_overlaid lower upper each, merge_eq_overlaid_append middle upper]
        simp [Entries.added]
    _ = merge a (merge b c) := (merge_eq_overlaid_append lower (middle.merge c)).symm

end

namespace Value

/-- Two dictionaries that are severed under a key are severed under the path through it. -/
theorem exists_severedAt_cons {old : Option Value} {middle upper : Entries} {key : Atom}
    {u w v : Value} (below : (entriesBelow old).get? key = some u)
    (between : middle.get? key = some w) (above : upper.get? key = some v) {path : List Atom}
    (severed : SeveredAt u w v path) :
    ∃ lower ∈ old, SeveredAt lower (.dict middle) (.dict upper) (key :: path) := by
  obtain ⟨⟨u', found, isDict⟩, ⟨w', found', other⟩, v', found'', isDict'⟩ := severed
  have through : (old.bind fun lower => lower.under (key :: path)) = some u' := by
    rw [under_entriesBelow, below]
    exact found
  obtain ⟨lower, there, behind⟩ := Option.bind_eq_some_iff.1 through
  refine ⟨lower, there, ⟨u', behind, isDict⟩, ⟨w', ?_, other⟩, v', ?_, isDict'⟩
  · rw [dict, under_dict_cons, between]
    exact found'
  · rw [dict, under_dict_cons, above]
    exact found''

theorem entriesBelow_of_not_dict {old : Option Value} (other : ∀ u ∈ old, ¬ u.IsDict) :
    entriesBelow old = [] := by
  rcases old with _ | _ | _ | ⟨_ | _, base⟩
  case some.mapping.dict => exact absurd ⟨base, rfl⟩ (other _ rfl)
  all_goals rfl

/-- **Three values can be merged from either end** unless the middle one severs the others. -/
theorem over_over {v w : Value} (upper : v.Nested) (middle : w.Nested) {old : Option Value}
    (lower : ∀ u ∈ old, u.Nested) (whole : ∀ u ∈ old, ∀ path, ¬ SeveredAt u w v path) :
    v.over (some (w.over old)) = (v.over (some w)).over old := by
  induction upper generalizing w old with
  | atom a => simp only [Value.over_atom]
  | sequence kind items => simp only [Value.over_sequence]
  | @dict entries distinct values ih =>
      have merged := Value.over_dict distinct
      rw [dict] at merged
      have nested : (Value.dict entries).Nested := .dict distinct values
      by_cases isDict : w.IsDict
      · -- three dictionaries are merged key by key
        obtain ⟨es, rfl⟩ := isDict
        have below := Nested.entriesBelow lower
        change (Value.dict entries).over (some ((Value.dict es).over old)) =
          ((Value.dict entries).over (some (Value.dict es))).over old
        rw [Value.over_dict_dict, Value.over_dict middle.distinct, Value.over_dict_dict,
          Value.over_dict (middle.distinct.merge entries)]
        congr 1
        refine merge_merge_of_each below.distinct middle.distinct distinct ?_
        intro key u w v found found' found''
        obtain ⟨k, member⟩ := Entries.mem_of_get? found''
        refine ih (k, v) member (middle.get? found') (fun _ same => ?_)
          fun _ same path severed => ?_
        · cases same
          exact below.get? found
        · cases same
          obtain ⟨u', there, severed⟩ := exists_severedAt_cons found found' found'' severed
          exact whole u' there (key :: path) severed
      · -- what is no dictionary replaces the old value, which was no dictionary either
        have kept : w.over old = w := over_of_not_dict old fun es same => isDict ⟨es, same⟩
        have bare : entriesBelow old = [] := by
          refine entriesBelow_of_not_dict fun u there dict => ?_
          exact whole u there [] ⟨⟨u, rfl, dict⟩, ⟨w, rfl, isDict⟩, _, rfl, entries, rfl⟩
        have bare' : entriesBelow (some w) = [] := by
          refine entriesBelow_of_not_dict fun u there => ?_
          cases there
          exact isDict
        rw [kept, merged, bare', nil_merge distinct, Value.over_dict distinct, bare,
          nil_merge distinct]

end Value

/-- **Three layers can be merged from either end** unless the middle one severs the others. -/
theorem merge_merge {a b c : Entries} (lower : (Value.dict a).Nested)
    (middle : (Value.dict b).Nested) (upper : (Value.dict c).Nested)
    (whole : ∀ path ≠ [], ¬ Value.SeveredAt (.dict a) (.dict b) (.dict c) path) :
    merge (merge a b) c = merge a (merge b c) := by
  have values := @Value.over_over _ _ upper middle (some (.dict a)) (by simpa using lower) ?_
  · simp only [Value.over_dict_dict] at values
    exact (Value.mapping.inj values).2
  · intro u there path severed
    cases there
    cases path with
    | nil =>
        -- at the root there are three dictionaries
        obtain ⟨-, ⟨w, there, other⟩, -⟩ := severed
        cases there
        exact other ⟨b, rfl⟩
    | cons key rest => exact whole _ (by simp) severed

/-- A null between two dictionaries under one key: only merged from the top do they share it. -/
example :
    let shared (layer : Entries) :=
      ((Value.dict layer).under [.text "x".toList, .text "p".toList]).isSome &&
        ((Value.dict layer).under [.text "x".toList, .text "q".toList]).isSome
    let a : Entries := [(.text "x".toList, .dict [(.text "p".toList, .null)])]
    let b : Entries := [(.text "x".toList, .null)]
    let c : Entries := [(.text "x".toList, .dict [(.text "q".toList, .null)])]
    shared (merge (merge a b) c) = false ∧ shared (merge a (merge b c)) = true := by decide

/-! ## Any number of layers -/

/-- Under no path does the middle layer sever the other two. -/
def Unsevered (lower middle upper : Entries) : Prop :=
  ∀ path ≠ [], ¬ Value.SeveredAt (.dict lower) (.dict middle) (.dict upper) path

namespace Context

section

variable {base : Entries} {layers : List Entries}

/-- Under every path merged layers hold a dictionary only if one of them does, and something else
only if one of them does. -/
theorem exists_under_of_ofLayers (nested : ∀ layer ∈ layers, (Value.dict layer).Nested)
    {path : List Atom} {u : Value}
    (found : (Value.dict (ofLayers base layers)).under path = some u) :
    ∃ layer ∈ base :: layers, ∃ w ∈ (Value.dict layer).under path, (u.IsDict ↔ w.IsDict) := by
  induction layers generalizing base with
  | nil => exact ⟨base, List.mem_cons_self, u, found, Iff.rfl⟩
  | cons layer rest ih =>
      obtain ⟨own, others⟩ := List.forall_mem_cons.1 nested
      obtain ⟨l, member, w, there, same⟩ := ih others found
      rcases List.mem_cons.1 member with rfl | behind
      · rw [← Value.over_dict_dict] at there
        rcases Value.exists_of_under_over own there with ⟨v, is, below⟩ | ⟨v, above, before, rfl⟩
        · cases is
          exact ⟨base, List.mem_cons_self, w, below, same⟩
        · refine ⟨layer, by simp, v, above, same.trans ?_⟩
          exact Value.isDict_over_iff v before
      · exact ⟨l, by simp [behind], w, there, same⟩

/-- Merged layers sever two others only if one of the layers does. -/
theorem unsevered_ofLayers_middle {lower upper : Entries}
    (nested : ∀ layer ∈ layers, (Value.dict layer).Nested)
    (whole : ∀ layer ∈ base :: layers, Unsevered lower layer upper) :
    Unsevered lower (ofLayers base layers) upper := by
  rintro path nonempty ⟨below, ⟨w, found, other⟩, above⟩
  obtain ⟨layer, member, v, there, same⟩ := exists_under_of_ofLayers nested found
  refine whole layer member path nonempty ⟨below, ⟨v, there, ?_⟩, above⟩
  rwa [← same]

theorem unsevered_ofLayers_lower {middle upper : Entries}
    (nested : ∀ layer ∈ layers, (Value.dict layer).Nested)
    (whole : ∀ layer ∈ base :: layers, Unsevered layer middle upper) :
    Unsevered (ofLayers base layers) middle upper := by
  rintro path nonempty ⟨⟨u, found, isDict⟩, between, above⟩
  obtain ⟨layer, member, v, there, same⟩ := exists_under_of_ofLayers nested found
  exact whole layer member path nonempty ⟨⟨v, there, same.1 isDict⟩, between, above⟩

/-- A group of layers is merged onto another one as its layers are, one by one. -/
theorem merge_ofLayers {lower : Entries} (below : (Value.dict lower).Nested)
    (nested : ∀ layer ∈ base :: layers, (Value.dict layer).Nested)
    (whole : (base :: layers).Pairwise (Unsevered lower)) :
    merge lower (ofLayers base layers) = ofLayers (merge lower base) layers := by
  induction layers using List.reverseRecOn with
  | nil => rfl
  | append_singleton layers last ih =>
      obtain ⟨own, others⟩ := List.forall_mem_cons.1 nested
      obtain ⟨others, upper⟩ := List.forall_mem_append.1 others
      have upper : (Value.dict last).Nested := upper last (List.mem_singleton_self _)
      rw [← List.cons_append, List.pairwise_append] at whole
      obtain ⟨whole, -, behind⟩ := whole
      have between : Unsevered lower (ofLayers base layers) last :=
        unsevered_ofLayers_middle others fun layer member =>
          behind layer member last (List.mem_singleton_self _)
      have before := ih (List.forall_mem_cons.2 ⟨own, others⟩) whole
      calc merge lower (ofLayers base (layers ++ [last]))
          = merge lower (merge (ofLayers base layers) last) := by simp [ofLayers]
        _ = merge (merge lower (ofLayers base layers)) last :=
            (merge_merge below (nested_ofLayers own others) upper between).symm
        _ = ofLayers (merge lower base) (layers ++ [last]) := by rw [before]; simp [ofLayers]

end

/-- Layers in groups that are merged first, and these again in groups. -/
inductive Grouping where
  | layer (entries : Entries)
  | group (first second : Grouping)

namespace Grouping

def layers : Grouping → List Entries
  | .layer entries => [entries]
  | .group first second => first.layers ++ second.layers

def merged : Grouping → Entries
  | .layer entries => entries
  | .group first second => merge first.merged second.merged

theorem layers_ne_nil (g : Grouping) : g.layers ≠ [] := by
  induction g with
  | layer entries => simp [layers]
  | group first second ih _ => simp [layers, ih]

/-- **Layers can be merged in any grouping** as long as none of them severs two others. -/
theorem merged_eq_ofLayers {g : Grouping} (nested : ∀ layer ∈ g.layers, (Value.dict layer).Nested)
    (whole : g.layers.Triplewise Unsevered) {base : Entries} {rest : List Entries}
    (order : g.layers = base :: rest) : g.merged = ofLayers base rest := by
  induction g generalizing base rest with
  | layer entries =>
      cases order
      rfl
  | group first second ih ih' =>
      obtain ⟨b, ls, left⟩ := List.exists_cons_of_ne_nil first.layers_ne_nil
      obtain ⟨b', ls', right⟩ := List.exists_cons_of_ne_nil second.layers_ne_nil
      rw [layers] at nested whole order
      obtain ⟨nested, nested'⟩ := List.forall_mem_append.1 nested
      obtain ⟨whole, whole', across, -⟩ := List.triplewise_append.1 whole
      have merged := ih nested whole left
      have merged' := ih' nested' whole' right
      rw [left] at nested across order
      rw [right] at nested' across order
      obtain ⟨own, others⟩ := List.forall_mem_cons.1 nested
      have pairs : (b' :: ls').Pairwise (Unsevered (ofLayers b ls)) := by
        refine List.pairwise_iff_getElem.2 fun i j lt lt' before => ?_
        refine unsevered_ofLayers_lower others fun layer member => ?_
        exact List.pairwise_iff_getElem.1 (across layer member) i j lt lt' before
      obtain ⟨rfl, rfl⟩ := List.cons.inj order
      calc merge first.merged second.merged
          = merge (ofLayers b ls) (ofLayers b' ls') := by rw [merged, merged']
        _ = ofLayers (merge (ofLayers b ls) b') ls' :=
            merge_ofLayers (nested_ofLayers own others) nested' pairs
        _ = ofLayers b (ls ++ b' :: ls') := by simp [ofLayers]

end Grouping

end Context

/-- **Layers can be merged in any grouping.**  Of three layers it makes no difference which two are
merged first, not even for the order of the keys, unless the middle one holds something that is no
dictionary under a path where the other two hold dictionaries.  If no three of the defaults, the
data files and the assignments are severed like this, a context is the same however they are merged
in groups beforehand. -/
theorem merging_in_any_grouping [Host] {a b c : Entries}
    (nested : ∀ layer ∈ [a, b, c], (Value.dict layer).Nested) (whole : Unsevered a b c) :
    merge (merge a b) c = merge a (merge b c) ∧
    ∀ {tree : FileTree} {cwd : Location} {defaults : Entries} {paths : List Path}
      {assignments : List Text} {files sets : List Entries} (g : Context.Grouping),
      (Value.dict defaults).Nested →
      List.Forall₂ (fun path layer => (DataFile.load tree cwd path).result = .ok layer)
        paths files →
      List.Forall₂ (fun assignment layer => Assignment.parse assignment = .ok layer)
        assignments sets →
      g.layers = defaults :: (files ++ sets) → g.layers.Triplewise Unsevered →
      (Context.build tree cwd defaults paths assignments).result = .ok g.merged := by
  obtain ⟨lower, middle, upper⟩ := by simpa using nested
  refine ⟨merge_merge lower middle upper whole, ?_⟩
  intro tree cwd defaults paths assignments files sets g own loaded parsed order whole
  have layers : ∀ layer ∈ g.layers, (Value.dict layer).Nested := by
    rw [order]
    exact List.forall_mem_cons.2 ⟨own, List.forall_mem_append.2
      ⟨forall_mem_of_forall₂ (fun _ _ done => DataFile.nested_of_load done) loaded,
        forall_mem_of_forall₂ (fun _ _ done => Assignment.nested_of_parse done) parsed⟩⟩
  have merged := Context.Grouping.merged_eq_ofLayers layers whole order
  exact Context.build_eq_ok_iff.2 ⟨files, sets, loaded, parsed, merged⟩

open scoped Host

/-- Something is assigned behind a scalar that was assigned over a scalar. -/
theorem merging_in_any_grouping_behind_scalar :
    let a : Entries := [(.text "y".toList, .atom (.int 1))]
    let b : Entries := [(.text "y".toList, .text [])]
    let c : Entries := [(.text "y".toList, .dict [(.text "z".toList, .text [])])]
    Unsevered a b c ∧ merge (merge a b) c = merge a (merge b c) ∧
      (Context.build .empty [] a [] ["y=".toList, "y.z=".toList]).result =
        .ok (merge a (merge b c)) := by
  intro a b c
  have first : Assignment.parse "y=".toList = .ok b := rfl
  have second : Assignment.parse "y.z=".toList = .ok c := rfl
  have own : (Value.dict a).Nested := .singleton _ (.atom _)
  have nested : ∀ layer ∈ [a, b, c], (Value.dict layer).Nested := by
    rw [List.forall_mem_cons, List.forall_mem_cons, List.forall_mem_singleton]
    exact ⟨own, Assignment.nested_of_parse first, Assignment.nested_of_parse second⟩
  have whole : Unsevered a b c := by
    rintro path nonempty ⟨⟨u, below, es, rfl⟩, -, v, above, es', rfl⟩
    cases path with
    | nil => exact nonempty rfl
    | cons key rest =>
        by_cases here : (Atom.text [.char 'y']).sameKey key = true
        · -- there the base holds a number
          have number : (Value.atom (.int 1)).under rest = some (.dict es) := by
            simpa [a, Value.dict, Value.under_dict_cons, Entries.get?, here] using below
          cases rest <;> cases number
        · simp [c, Value.dict, Value.under_dict_cons, Entries.get?, here] at above
  obtain ⟨same, groups⟩ := merging_in_any_grouping nested whole
  exact ⟨whole, same, groups (.group (.layer a) (.group (.layer b) (.layer c))) own .nil
    (.cons first (.cons second .nil)) rfl (List.triplewise_triple.2 whole)⟩

end FieldTemplate
