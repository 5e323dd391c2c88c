import FieldTemplate.Host.Usual
import FieldTemplate.Proofs.Command.Options
import FieldTemplate.Proofs.Context.Layers
import FieldTemplate.Proofs.Context.Merge

/-!
# Which layer has the last word

Along a path of keys the last layer that is not silent decides what the merged context holds
there.  On a command line the layers come from two kinds of options, and only the order within
each kind counts.  The main statement is `last_decisive_layer_wins`.
-/

namespace FieldTemplate

set_option autoImplicit false

namespace Context

theorem nested_ofLayers {base : Entries} {layers : List Entries}
    (below : (Value.dict base).Nested) (nested : ∀ layer ∈ layers, (Value.dict layer).Nested) :
    (Value.dict (ofLayers base layers)).Nested := by
  induction layers generalizing base with
  | nil => exact below
  | cons layer rest ih =>
      exact ih (nested_merge below (nested layer List.mem_cons_self)) fun l member =>
        nested l (List.mem_cons_of_mem _ member)

/-- Layers that are silent leave a path as it is. -/
theorem lookup_ofLayers_of_silent {base : Entries} {layers : List Entries} {path : List Text}
    (below : (Value.dict base).Nested) (nested : ∀ layer ∈ layers, (Value.dict layer).Nested)
    (silent : ∀ layer ∈ layers, (Value.dict layer).standing path = .silent) :
    (Value.dict (ofLayers base layers)).lookup path = (Value.dict base).lookup path := by
  induction layers generalizing base with
  | nil => rfl
  | cons layer rest ih =>
      have own := nested layer List.mem_cons_self
      have merged := ih (nested_merge below own)
        (fun l member => nested l (List.mem_cons_of_mem _ member))
        (fun l member => silent l (List.mem_cons_of_mem _ member))
      refine merged.trans ?_
      rw [lookup_merge below own, silent layer List.mem_cons_self, Standing.onto]

/-- **The last layer that is not silent decides**, on top of what was there before it. -/
theorem exists_lookup_of_last {base layer : Entries} {layers before after : List Entries}
    {path : List Text} (nested : ∀ l ∈ base :: layers, (Value.dict l).Nested)
    (order : base :: layers = before ++ layer :: after)
    (silent : ∀ later ∈ after, (Value.dict later).standing path = .silent) :
    ∃ old, (Value.dict (ofLayers base layers)).lookup path =
      ((Value.dict layer).standing path).onto old := by
  have later : ∀ l ∈ after, (Value.dict l).Nested := fun l member =>
    nested l (by simp [order, member])
  cases before with
  | nil =>
      cases order
      have own := nested base List.mem_cons_self
      exact ⟨none, (lookup_ofLayers_of_silent own later silent).trans
        (lookup_eq_onto_none own path)⟩
  | cons first before =>
      cases order
      have own := nested layer (by simp)
      have below : (Value.dict (ofLayers base before)).Nested :=
        nested_ofLayers (nested base List.mem_cons_self) fun l member => nested l (by simp [member])
      refine ⟨(Value.dict (ofLayers base before)).lookup path, ?_⟩
      rw [← lookup_merge below own,
        ← lookup_ofLayers_of_silent (nested_merge below own) later silent]
      simp [ofLayers]

end Context

/-- A dictionary over anything is a dictionary. -/
theorem exists_over_dict (entries : Entries) (old : Option Value) :
    ∃ merged, (Value.dict entries).over old = .dict merged := by
  rcases old with _ | _ | _ | ⟨_ | _, base⟩ <;> simp [Value.dict, Value.over]

/-- **The last decisive layer wins**: the defaults, the data files and the assignments are layers
in this order, and of those that are not silent on a path of keys the last one decides.  Its value
is the result, but for a dictionary, which is merged; where it cuts the path, and where all layers
are silent, nothing is there.  On a command line it makes no difference how data files and
assignments lie among each other. -/
theorem last_decisive_layer_wins [Host] {tree : FileTree} {cwd : Location} {defaults : Entries}
    {paths : List Path} {assignments : List Text} {files sets : List Entries}
    (nested : (Value.dict defaults).Nested)
    (loaded : List.Forall₂ (fun path layer => (DataFile.load tree cwd path).result = .ok layer)
      paths files)
    (parsed : List.Forall₂ (fun assignment layer => Assignment.parse assignment = .ok layer)
      assignments sets) :
    (∃ context, (Context.build tree cwd defaults paths assignments).result = .ok context ∧
      ∀ path, path ≠ [] →
        ((∀ layer ∈ defaults :: (files ++ sets), (Value.dict layer).standing path = .silent) →
          (Value.dict context).lookup path = none) ∧
        ∀ before layer after, defaults :: (files ++ sets) = before ++ layer :: after →
          (∀ later ∈ after, (Value.dict later).standing path = .silent) →
            ((Value.dict layer).standing path = .cut → (Value.dict context).lookup path = none) ∧
            (∀ v, (Value.dict layer).standing path = .valued v → (∀ entries, v ≠ .dict entries) →
              (Value.dict context).lookup path = some v) ∧
            ∀ entries, (Value.dict layer).standing path = .valued (.dict entries) →
              ∃ merged, (Value.dict context).lookup path = some (.dict merged)) ∧
    ∀ (env : Command.Environment) (args args' : List Text) (given given' : List Command.Given)
      (others : List Text),
      Command.scan .render true args = .ok (given, others) →
      Command.scan .render true args' = .ok (given', others) →
      Command.SameInOrder given given' →
      env.runArgs ("render".toList :: args) = env.runArgs ("render".toList :: args') := by
  refine ⟨⟨Context.ofLayers defaults (files ++ sets),
    Context.build_eq_ok_iff.2 ⟨files, sets, loaded, parsed, rfl⟩, fun path _ => ?_⟩,
    fun env args args' given given' others scanned scanned' same =>
      env.runArgs_render_congr scanned scanned' same⟩
  have layers : ∀ layer ∈ files ++ sets, (Value.dict layer).Nested :=
    List.forall_mem_append.2
      ⟨forall_mem_of_forall₂ (fun _ _ done => DataFile.nested_of_load done) loaded,
        forall_mem_of_forall₂ (fun _ _ done => Assignment.nested_of_parse done) parsed⟩
  have all : ∀ layer ∈ defaults :: (files ++ sets), (Value.dict layer).Nested :=
    List.forall_mem_cons.2 ⟨nested, layers⟩
  constructor
  · intro silent
    obtain ⟨silentDefaults, silentLayers⟩ := List.forall_mem_cons.1 silent
    rw [Context.lookup_ofLayers_of_silent nested layers silentLayers, lookup_eq_onto_none nested,
      silentDefaults, Standing.onto]
  · intro before layer after order silent
    obtain ⟨old, lookup⟩ := Context.exists_lookup_of_last all order silent
    rw [lookup]
    refine ⟨fun cut => ?_, fun v valued other => ?_, fun entries valued => ?_⟩
    · rw [cut, Standing.onto]
    · rw [valued, Standing.onto, Value.over_of_not_dict old other]
    · obtain ⟨merged, same⟩ := exists_over_dict entries old
      exact ⟨merged, by rw [valued, Standing.onto, same]⟩

open scoped Host

/-- A tree of one data file. -/
def layeredTree : FileTree :=
  ⟨[(["d.json".toList], Json.bytesOf "\x7b\"a\":\x7b\"b\":1\x7d\x7d")], [], false⟩

/-- Whether a layer holds a one under `a.b`. -/
def holdsOne (layer : Entries) : Bool :=
  match (Value.dict layer).standing ["a".toList, "b".toList] with
  | .valued (.atom (.int 1)) => true
  | _ => false

theorem standing_of_holdsOne {layer : Entries} (one : holdsOne layer = true) :
    (Value.dict layer).standing ["a".toList, "b".toList] = .valued (.atom (.int 1)) := by
  rw [holdsOne] at one
  split at one
  · assumption
  · cases one

theorem last_decisive_layer_wins_below_assignment :
    (∃ context, (Context.build layeredTree [] [] [Path.ofText "d.json".toList]
        ["a.c=".toList]).result = .ok context ∧
      (Value.dict context).lookup ["a".toList, "b".toList] = some (.atom (.int 1)) ∧
      ∃ merged, (Value.dict context).lookup ["a".toList] = some (.dict merged)) ∧
    (⟨layeredTree, [], [], false⟩ : Command.Environment).runArgs
        ("render".toList :: ["-d", "d.json", "-s", "a.c=", "t"].map String.toList) =
      (⟨layeredTree, [], [], false⟩ : Command.Environment).runArgs
        ("render".toList :: ["--set=a.c=", "t", "-dd.json"].map String.toList) := by
  have file : (DataFile.load layeredTree [] (Path.ofText "d.json".toList)).result.map holdsOne =
      .ok true := by decide +kernel
  obtain ⟨layer, loaded, one⟩ := except_map_eq_ok_iff.1 file
  have valued := standing_of_holdsOne one.symm
  have assigned : Assignment.parse "a.c=".toList =
      .ok [(.text "a".toList, .dict [(.text "c".toList, .text [])])] := rfl
  obtain ⟨⟨context, built, decided⟩, lines⟩ := last_decisive_layer_wins .empty
    (.cons loaded .nil) (.cons assigned .nil)
  refine ⟨⟨context, built, ?_, ?_⟩, ?_⟩
  · refine ((decided _ (by simp)).2 [[]] layer _ rfl ?_).2.1 _ valued nofun
    exact List.forall_mem_singleton.2 rfl
  · exact ((decided ["a".toList] (by simp)).2 [[], layer] _ [] rfl (by simp)).2.2 _ rfl
  · exact lines _ _ _
      [(.data, "d.json".toList), (.assign, "a.c=".toList)]
      [(.assign, "a.c=".toList), (.data, "d.json".toList)] ["t".toList]
      (by decide +kernel) (by decide +kernel) ⟨by decide, by decide, by decide⟩

end FieldTemplate
