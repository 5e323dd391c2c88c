import FieldTemplate.Host.Usual
import FieldTemplate.Proofs.Context.Precedence
import FieldTemplate.Proofs.Text.Wide
import FieldTemplate.Proofs.Value.Reordered
import Mathlib.Data.List.Perm.Basic

/-!
# Assignments that do not depend on each other

Assignments at separate paths, neither of which leads through the other, can be given in any order:
the contexts are the same up to the order of keys (`independent_assignments_commute`).  A value in
the way of a path is replaced by the first assignment behind it and kept by the others, whichever
comes first (`Assignment.nest_over_comm`).
-/

namespace FieldTemplate

set_option autoImplicit false

/-! ## Merging what is reordered -/

namespace Value.Reordered

theorem entriesBelow {old old' : Option Value} (same : Option.Rel Reordered old old') :
    Reordered (.dict (Value.entriesBelow old)) (.dict (Value.entriesBelow old')) := by
  cases same with
  | none => exact .refl _
  | some same =>
      rcases same.eq_or_dict with rfl | ⟨a, b, rfl, rfl, -⟩
      · exact .refl _
      · exact same

/-- Entries that keep the order over anything are merged one by one onto what is reordered. -/
theorem merge_entries {entries : Entries} (values : ∀ entry ∈ entries, entry.2.Nested)
    (each : ∀ entry ∈ entries, ∀ {old old' : Option Value}, (∀ w ∈ old, w.Nested) →
      Option.Rel Reordered old old' → Reordered (entry.2.over old) (entry.2.over old'))
    {base base' : Entries} (below : (Value.dict base).Nested)
    (same : Reordered (.dict base) (.dict base')) :
    Reordered (.dict (merge base entries)) (.dict (merge base' entries)) := by
  induction entries generalizing base base' with
  | nil => rwa [merge, merge]
  | cons entry rest ih =>
      obtain ⟨key, v⟩ := entry
      obtain ⟨nested, others⟩ := List.forall_mem_cons.1 values
      have old : ∀ w ∈ base.get? key, w.Nested := fun w there => below.get? there
      have written : Reordered (v.over (base.get? key)) (v.over (base'.get? key)) :=
        each _ List.mem_cons_self old (same.get? below.distinct key)
      rw [merge, merge]
      exact ih others (fun e member => each e (List.mem_cons_of_mem _ member))
        (below.insert key (nested.over old)) (same.insert below.distinct key written)

/-- **Writing over what is reordered** gives what is reordered. -/
theorem over_congr {v : Value} (nested : v.Nested) {old old' : Option Value}
    (below : ∀ w ∈ old, w.Nested) (same : Option.Rel Reordered old old') :
    Reordered (v.over old) (v.over old') := by
  induction nested generalizing old old' with
  | atom a => rw [Value.over_atom, Value.over_atom]; exact .refl _
  | sequence kind items => rw [Value.over_sequence, Value.over_sequence]; exact .refl _
  | @dict entries distinct values ih =>
      have merged := Value.over_dict distinct
      rw [Value.dict] at merged
      rw [merged, merged]
      exact merge_entries values ih (Value.Nested.entriesBelow below) (entriesBelow same)

end Value.Reordered

/-! ## Layers in another order -/

namespace Context

variable {base base' layer layer' : Entries} {layers layers' : List Entries}

theorem reordered_merge (nested : (Value.dict layer).Nested) (below : (Value.dict base).Nested)
    (same : Value.Reordered (.dict base) (.dict base')) :
    Value.Reordered (.dict (merge base layer)) (.dict (merge base' layer)) := by
  have merged := @Value.Reordered.over_congr _ nested (some (.dict base)) _ (by simpa using below)
    (.some same)
  rwa [Value.over_dict nested.distinct, Value.over_dict nested.distinct] at merged

theorem reordered_ofLayers (nested : ∀ layer ∈ layers, (Value.dict layer).Nested)
    (below : (Value.dict base).Nested) (same : Value.Reordered (.dict base) (.dict base')) :
    Value.Reordered (.dict (ofLayers base layers)) (.dict (ofLayers base' layers)) := by
  induction layers generalizing base base' with
  | nil => exact same
  | cons layer rest ih =>
      obtain ⟨own, others⟩ := List.forall_mem_cons.1 nested
      exact ih others (nested_merge below own) (reordered_merge own below same)

/-- Two layers that can be merged in either order. -/
def Commute (layer layer' : Entries) : Prop :=
  ∀ base, Value.Reordered (.dict (merge (merge base layer) layer'))
    (.dict (merge (merge base layer') layer))

theorem Commute.symm (commute : Commute layer layer') : Commute layer' layer :=
  fun base => (commute base).symm

/-- **Layers that commute pairwise can be merged in any order.** -/
theorem ofLayers_perm (perm : layers.Perm layers') (commute : layers.Pairwise Commute)
    (nested : ∀ layer ∈ layers, (Value.dict layer).Nested) (below : (Value.dict base).Nested) :
    Value.Reordered (.dict (ofLayers base layers)) (.dict (ofLayers base layers')) := by
  induction perm generalizing base with
  | nil => exact .refl _
  | cons layer _ ih =>
      obtain ⟨own, others⟩ := List.forall_mem_cons.1 nested
      exact ih (List.pairwise_cons.1 commute).2 others (nested_merge below own)
  | swap x y rest =>
      obtain ⟨second, first, others⟩ := by simpa only [List.forall_mem_cons] using nested
      have swapped : Commute y x := (List.pairwise_cons.1 commute).1 x List.mem_cons_self
      exact reordered_ofLayers others (nested_merge (nested_merge below second) first)
        (swapped base)
  | trans first _ ih ih' =>
      exact (ih commute nested below).trans
        (ih' ((first.pairwise_iff Commute.symm).1 commute)
          (fun layer member => nested layer (first.mem_iff.2 member)) below)

end Context

/-! ## Separate paths -/

/-- Neither path leads through the other. -/
def Apart (path path' : List Text) : Prop := ¬ path <+: path' ∧ ¬ path' <+: path

namespace Assignment

/-- The path of keys that an assignment writes to. -/
def keyPath (assignment : Text) : List Text :=
  match Text.cutAt '=' assignment with
  | none => []
  | some (before, _) => Text.splitOn '.' (Text.trim before)

/-- An assignment is read as a value behind its path of keys. -/
theorem exists_nest_of_parse [Host] {assignment : Text} {layer : Entries}
    (done : parse assignment = .ok layer) :
    ∃ part parts v, keyPath assignment = part :: parts ∧ layer = [(.text part, nest v parts)] := by
  rw [parse] at done
  cases cut : Text.cutAt '=' assignment with
  | none => rw [cut] at done; cases done
  | some cut' =>
      obtain ⟨before, raw⟩ := cut'
      simp only [cut] at done
      simp only [keyPath, cut]
      split at done
      · cases done
      split at done
      · cases done
      next keys =>
      split at done
      · cases done
      split at done
      · cases done
      · cases done
        exact ⟨_, _, _, keys, rfl⟩

/-- A value behind a path is written under the first key, over what was there. -/
theorem nest_over_cons (v : Value) (part : Text) (parts : List Text) (old : Option Value) :
    (nest v (part :: parts)).over old =
      .dict ((Value.entriesBelow old).insert (.text part)
        ((nest v parts).over ((Value.entriesBelow old).get? (.text part)))) := by
  have alone : Entries.Distinct [(.text part, nest v parts)] := List.pairwise_singleton _ _
  rw [nest, Value.over_dict alone, merge, merge]

/-- **Values behind separate paths can be written in either order.** -/
theorem nest_over_comm {path path' : List Text} (apart : Apart path path') (v w : Value)
    (old : Option Value) :
    Value.Reordered ((nest w path').over (some ((nest v path).over old)))
      ((nest v path).over (some ((nest w path').over old))) := by
  induction path generalizing path' old with
  | nil => exact absurd List.nil_prefix apart.1
  | cons part parts ih =>
      cases path' with
      | nil => exact absurd List.nil_prefix apart.2
      | cons part' parts' =>
          simp only [nest_over_cons, Value.entriesBelow_dict, Entries.get?_insert,
            Atom.sameKey_text, Text.wide_inj]
          by_cases same : part = part'
          · -- one key: both values lie behind it, and it is the rest of the paths that differs
            subst same
            have behind : Apart parts parts' := by simpa [Apart] using apart
            have self : (Atom.text part).sameKey (.text part) = true := by
              simp [Atom.sameKey_text]
            simp only [decide_true, if_true, Entries.insert_insert _ self]
            obtain ⟨before, key, after, place⟩ :=
              (Value.entriesBelow old).exists_insert_eq (.text part)
            rw [place, place]
            exact .within before key after (ih behind _)
          · have other : (Atom.text part).sameKey (.text part') = false := by
              simp [Atom.sameKey_text, same]
            simp only [same, Ne.symm same, decide_false, Bool.false_eq_true, if_false]
            exact .entries (Entries.insert_comm _ other _ _)

theorem commute_of_apart [Host] {a b : Text} {layer layer' : Entries} (done : parse a = .ok layer)
    (done' : parse b = .ok layer') (apart : Apart (keyPath a) (keyPath b)) :
    Context.Commute layer layer' := by
  obtain ⟨part, parts, v, path, rfl⟩ := exists_nest_of_parse done
  obtain ⟨part', parts', w, path', rfl⟩ := exists_nest_of_parse done'
  intro base
  rw [path, path'] at apart
  simpa only [nest_over_cons, Value.entriesBelow_dict, merge] using
    nest_over_comm apart v w (some (.dict base))

end Assignment

/-- **Independent assignments commute**: when no assignment writes to a path of keys that leads to
or through that of another, all orders of the assignments give one context, up to the order of
keys at every level, and the same behind every path.  This holds whatever the defaults and the
data files have on the way of the paths, and if a data file cannot be loaded, all orders fail
alike. -/
theorem independent_assignments_commute [Host] {tree : FileTree} {cwd : Location}
    {defaults : Entries} {paths : List Path} {assignments assignments' : List Text}
    (nested : (Value.dict defaults).Nested)
    (parsed : ∀ assignment ∈ assignments, ∃ layer, Assignment.parse assignment = .ok layer)
    (apart : assignments.Pairwise fun a b => Apart (Assignment.keyPath a) (Assignment.keyPath b))
    (perm : assignments.Perm assignments') :
    (∃ context context',
      (Context.build tree cwd defaults paths assignments).result = .ok context ∧
      (Context.build tree cwd defaults paths assignments').result = .ok context' ∧
      Value.Reordered (.dict context) (.dict context') ∧
      ∀ path, Option.Rel Value.Reordered ((Value.dict context).lookup path)
        ((Value.dict context').lookup path)) ∨
    ∃ e, (∃ path ∈ paths, (DataFile.load tree cwd path).result = .error e) ∧
      (Context.build tree cwd defaults paths assignments).result = .error (.data e) ∧
      (Context.build tree cwd defaults paths assignments').result = .error (.data e) := by
  cases loaded : paths.mapM fun path => (DataFile.load tree cwd path).result with
  | error e =>
      obtain ⟨i, path, given, failed, -⟩ := mapM_eq_error_iff.1 loaded
      refine .inr ⟨e, ⟨path, List.mem_of_getElem? given, failed⟩, ?_, ?_⟩
      all_goals rw [Context.build_result, loaded]; rfl
  | ok files =>
      obtain ⟨sets, read⟩ := exists_forall₂_iff.2 parsed
      obtain ⟨sets', read', sets_perm⟩ := List.perm_comp_forall₂ perm.symm read
      have loaded := mapM_eq_ok_iff.1 loaded
      have nestedFiles : ∀ layer ∈ files, (Value.dict layer).Nested :=
        forall_mem_of_forall₂ (fun _ _ done => DataFile.nested_of_load done) loaded
      have nestedSets : ∀ layer ∈ sets, (Value.dict layer).Nested :=
        forall_mem_of_forall₂ (fun _ _ done => Assignment.nested_of_parse done) read
      have below := Context.nested_ofLayers nested nestedFiles
      have commute : sets.Pairwise Context.Commute :=
        pairwise_of_forall₂ read (fun _ _ _ _ => Assignment.commute_of_apart) apart
      have same : Value.Reordered (.dict (Context.ofLayers defaults (files ++ sets)))
          (.dict (Context.ofLayers defaults (files ++ sets'))) := by
        simpa only [Context.ofLayers, List.foldl_append] using
          Context.ofLayers_perm sets_perm.symm commute nestedSets below
      refine .inl ⟨_, _, Context.build_eq_ok_iff.2 ⟨files, sets, loaded, read, rfl⟩,
        Context.build_eq_ok_iff.2 ⟨files, sets', loaded, read', rfl⟩, same, fun path => ?_⟩
      exact same.lookup (Context.nested_ofLayers nested
        (List.forall_mem_append.2 ⟨nestedFiles, nestedSets⟩)) path

open scoped Host

/-- A data file with a number in the way of what is assigned behind it. -/
def obstructedTree : FileTree :=
  ⟨[(["d.json".toList], Json.bytesOf "\x7b\"a\":1\x7d")], [], false⟩

/-- Whether there is a two under `a.b` and a three under `a.c`. -/
def holdsBoth (context : Entries) : Bool :=
  match (Value.dict context).lookup ["a".toList, "b".toList],
    (Value.dict context).lookup ["a".toList, "c".toList] with
  | some (.atom (.int 2)), some (.atom (.int 3)) => true
  | _, _ => false

theorem independent_assignments_commute_behind_scalar :
    ∃ context context',
      (Context.build obstructedTree [] [] [Path.ofText "d.json".toList]
        ["a.b=2".toList, "a.c=3".toList]).result = .ok context ∧
      (Context.build obstructedTree [] [] [Path.ofText "d.json".toList]
        ["a.c=3".toList, "a.b=2".toList]).result = .ok context' ∧
      Value.Reordered (.dict context) (.dict context') ∧ holdsBoth context = true := by
  have whole : (Context.build obstructedTree [] [] [Path.ofText "d.json".toList]
      ["a.b=2".toList, "a.c=3".toList]).result.map holdsBoth = .ok true := by decide +kernel
  obtain ⟨built, done, both⟩ := except_map_eq_ok_iff.1 whole
  have first : (Assignment.parse "a.b=2".toList).map List.length = .ok 1 := by decide +kernel
  have second : (Assignment.parse "a.c=3".toList).map List.length = .ok 1 := by decide +kernel
  obtain ⟨layer, parsed, -⟩ := except_map_eq_ok_iff.1 first
  obtain ⟨layer', parsed', -⟩ := except_map_eq_ok_iff.1 second
  have apart : Apart ["a".toList, "b".toList] ["a".toList, "c".toList] := by simp [Apart]
  rcases @independent_assignments_commute _ obstructedTree [] [] [Path.ofText "d.json".toList] _ _
      .empty (List.forall_mem_cons.2 ⟨⟨_, parsed⟩, List.forall_mem_singleton.2 ⟨_, parsed'⟩⟩)
      (List.pairwise_pair.2 apart) (.swap "a.c=3".toList "a.b=2".toList []) with
    ⟨context, context', made, made', same, -⟩ | ⟨e, -, failed, -⟩
  · rw [done] at made
    cases made
    exact ⟨built, context', done, made', same, both.symm⟩
  · rw [done] at failed
    cases failed

end FieldTemplate
