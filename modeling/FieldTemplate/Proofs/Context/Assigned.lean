import FieldTemplate.Host.Usual
import FieldTemplate.Proofs.Context.Independence
import FieldTemplate.Proofs.Context.MergedEntries
import FieldTemplate.Proofs.Render.Placeholder

/-!
# What an assignment writes

Three readers know of dotted paths: that of assignments, the merge and the lookup of fields.  They
agree at every depth: what is assigned behind a path is what a field of that path sees, and a path
apart from it leads to what it led to before (`assigned_value_is_seen`).

* `Assignment.Denotes`, `Assignment.denotes_iff`: the value that a text stands for;
* `Assignment.parse_keyed`: an assignment is read as that value behind the parts of its key;
* `Assignment.lookup_merge_nest`, `Assignment.lookup_merge_nest_of_apart`: what is behind a path,
  and behind a path apart from it, once a value has been merged there.
-/

namespace FieldTemplate

set_option autoImplicit false

namespace Assignment

/-! ## Values and keys -/

/-- The value that the text of an assignment stands for. -/
inductive Denotes [Host] (raw : Text) : Value → Prop
  | blank : Text.allBlank raw = true → Denotes raw (.text [])
  | text : Text.allBlank raw = false → Yaml.readText raw = .error .malformed →
      Denotes raw (.text raw)
  | yaml {v : Value} : Text.allBlank raw = false → Yaml.readText raw = .ok v → Denotes raw v

theorem denotes_iff [Host] {raw : Text} {v : Value} : Denotes raw v ↔ readValue raw = .ok v := by
  constructor
  · intro denotes
    cases denotes with
    | blank blank => rw [readValue, if_pos blank]
    | text solid malformed => simp [readValue, solid, malformed]
    | yaml solid read => simp [readValue, solid, read]
  · intro read
    rw [readValue] at read
    split at read
    · next blank =>
      cases read
      exact .blank blank
    · next solid =>
      have solid := Bool.eq_false_iff.2 solid
      split at read
      · next malformed =>
        cases read
        exact .text solid malformed
      · exact .yaml solid read

theorem Denotes.unique [Host] {raw : Text} {v w : Value} (denotes : Denotes raw v)
    (denotes' : Denotes raw w) : v = w := by
  have same := (denotes_iff.1 denotes).symm.trans (denotes_iff.1 denotes')
  exact Except.ok.inj same

/-- **An assignment to a key whose parts are not empty** is read as its value behind them. -/
theorem parse_keyed [Host] {key : Text} (noSign : '=' ∉ key)
    (solid : ∀ part ∈ Text.splitOn '.' (Text.trim key), part ≠ []) (raw : Text) :
    ∃ part parts, Text.splitOn '.' (Text.trim key) = part :: parts ∧
      parse (key ++ '=' :: raw) =
        ((readValue raw).mapError .value).map fun v => [(.text part, nest v parts)] := by
  have nonempty : Text.trim key ≠ [] := by
    intro empty
    rw [empty] at solid
    exact solid [] List.mem_cons_self rfl
  obtain ⟨part, parts, split⟩ :=
    List.exists_cons_of_ne_nil (Text.splitOn_ne_nil '.' (Text.trim key))
  have whole : (part :: parts).any List.isEmpty = false := by
    rw [List.any_eq_false, ← split]
    simpa using solid
  refine ⟨part, parts, split, ?_⟩
  simp only [parse, Text.cutAt_append noSign, if_neg nonempty, split, whole]
  cases readValue raw <;> rfl

/-! ## Behind a path -/

section

variable {v : Value} {path names : List Text}

theorem standing_nest (v : Value) (names : List Text) :
    (nest v names).standing names = .valued v := by
  induction names with
  | nil => rfl
  | cons name rest ih =>
      have self : (Atom.text name).sameKey (.text name) = true := by simp [Atom.sameKey_text]
      simp [nest, Value.dict, Value.standing, Entries.get?, self, ih]

/-- A value behind a path says nothing of a path apart from it. -/
theorem standing_nest_of_apart (apart : Apart path names) (v : Value) :
    (nest v names).standing path = .silent := by
  induction path generalizing names with
  | nil => exact absurd List.nil_prefix apart.1
  | cons key path ih =>
      cases names with
      | nil => exact absurd List.nil_prefix apart.2
      | cons name names =>
          by_cases same : name = key
          · -- the first keys are one, and the rests are apart
            subst same
            have behind : Apart path names := by simpa [Apart] using apart
            have self : (Atom.text name).sameKey (.text name) = true := by simp [Atom.sameKey_text]
            simp [nest, Value.dict, Value.standing, Entries.get?, self, ih behind]
          · simp [nest, Value.dict, Value.standing, Entries.get?, Atom.sameKey_text, same]

end

section

variable {context : Entries} {v : Value}

/-- What is behind a path is what the assignment says of it, onto what was there. -/
theorem lookup_merge_layer (below : (Value.dict context).Nested) (nested : v.Nested) (name : Text)
    (names path : List Text) :
    (Value.dict (merge context [(.text name, nest v names)])).lookup path =
      ((nest v (name :: names)).standing path).onto ((Value.dict context).lookup path) :=
  lookup_merge below (nested_nest nested (name :: names)) path

theorem lookup_merge_nest (below : (Value.dict context).Nested) (nested : v.Nested) (name : Text)
    (names : List Text) :
    (Value.dict (merge context [(.text name, nest v names)])).lookup (name :: names) =
      some (v.over ((Value.dict context).lookup (name :: names))) := by
  rw [lookup_merge_layer below nested, standing_nest, Standing.onto]

theorem lookup_merge_nest_of_apart (below : (Value.dict context).Nested) (nested : v.Nested)
    {name : Text} {names path : List Text} (apart : Apart path (name :: names)) :
    (Value.dict (merge context [(.text name, nest v names)])).lookup path =
      (Value.dict context).lookup path := by
  rw [lookup_merge_layer below nested, standing_nest_of_apart apart, Standing.onto]

end

/-- What is assigned to a field's path is one value behind it. -/
theorem exists_denotes_of_parse [Host] {names : List Text} {raw : Text} {layer : Entries}
    (nonempty : names ≠ []) (identifiers : ∀ name ∈ names, FieldPath.isIdentifier name = true)
    (parsed : parse (Text.join ['.'] names ++ '=' :: raw) = .ok layer) :
    ∃ v name rest, Denotes raw v ∧ names = name :: rest ∧ layer = [(.text name, nest v rest)] := by
  have path := FieldPath.parse_join nonempty identifiers
  have noSign : '=' ∉ Text.join ['.'] names :=
    FieldPath.not_mem_of_parse path (by decide) (by decide)
  have trimmed : Text.trim (Text.join ['.'] names) = Text.join ['.'] names := by
    simpa using Text.trim_padded (l := []) (r := []) rfl rfl (FieldPath.trimmed_of_parse path)
  have split : Text.splitOn '.' (Text.trim (Text.join ['.'] names)) = names := by
    rw [trimmed]
    exact Text.splitOn_join
      (fun name member => FieldPath.not_dot_mem_of_isIdentifier (identifiers name member)) nonempty
  have solid : ∀ part ∈ Text.splitOn '.' (Text.trim (Text.join ['.'] names)), part ≠ [] := by
    rw [split]
    rintro part member rfl
    cases identifiers [] member
  obtain ⟨name, rest, split', keyed⟩ := parse_keyed noSign solid raw
  rw [keyed] at parsed
  obtain ⟨v, read, rfl⟩ := except_map_eq_ok_iff.1 parsed
  refine ⟨v, name, rest, denotes_iff.2 (except_mapError_eq_ok_iff.1 read), ?_, rfl⟩
  exact split.symm.trans split'

end Assignment

/-- **An assigned value is seen, and nothing else is changed.**  What is assigned to a path of
identifiers is found behind it, whatever lay in its way; only where there was a dictionary, a
dictionary is merged into it.  No path apart from it leads anywhere else than before.  A field of
that path, in any template, is rendered from what is found. -/
theorem assigned_value_is_seen [Host] {context layer : Entries} {names : List Text} {raw : Text}
    (nested : (Value.dict context).Nested) (nonempty : names ≠ [])
    (identifiers : ∀ name ∈ names, FieldPath.isIdentifier name = true)
    (parsed : Assignment.parse (Text.join ['.'] names ++ '=' :: raw) = .ok layer) :
    ∃ v seen, Assignment.Denotes raw v ∧
      (Value.dict (merge context layer)).lookup names = some seen ∧
      (∀ old new, (Value.dict context).lookup names = some (.dict old) → v = .dict new →
        seen = .dict (merge old new)) ∧
      ((∀ old new, (Value.dict context).lookup names = some (.dict old) → v ≠ .dict new) →
        seen = v) ∧
      (∀ path, Apart path names →
        (Value.dict (merge context layer)).lookup path = (Value.dict context).lookup path) ∧
      (∀ source t path, Template.compile source = .ok t →
        .field path (Text.join ['.'] names) ∈ t.nodes → ∀ mode,
          renderNode mode (.dict (merge context layer)) (.field path (Text.join ['.'] names)) =
            ⟨[], renderValue mode.formatter (Text.join ['.'] names) seen⟩) ∧
      ∀ left right, Text.allBlank left = true → Text.allBlank right = true → ∀ mode,
        (compile (.dict (merge context layer))
          (opening ++ left ++ Text.join ['.'] names ++ right ++ closing) mode).result =
            (renderValue mode.formatter (Text.join ['.'] names) seen).mapError .render := by
  obtain ⟨v, name, rest, denotes, rfl, rfl⟩ :=
    Assignment.exists_denotes_of_parse nonempty identifiers parsed
  have value := Assignment.nested_of_readValue (Assignment.denotes_iff.1 denotes)
  have path := FieldPath.parse_join nonempty identifiers
  have found := Assignment.lookup_merge_nest nested value name rest
  refine ⟨v, _, denotes, found, ?_, ?_, ?_, ?_, ?_⟩
  · rintro old new there rfl
    rw [there, Value.over_dict_dict]
  · intro other
    exact Value.over_eq_self other
  · intro path apart
    exact Assignment.lookup_merge_nest_of_apart nested value apart
  · intro source t path' compiled member mode
    have same := Template.parse_of_mem_nodes compiled member
    rw [path] at same
    cases same
    exact renderNode_of_lookup found _ mode
  · intro left right blank blank' mode
    rw [compile_placeholder_result path blank blank', renderNode_of_lookup found]

open scoped Host

/-- A number in the way of what is assigned behind its key, and another key. -/
def obstructedContext : Entries := [(.text "a".toList, .atom (.int 5)), (.text "k".toList, .null)]

def isSeven : Value → Bool
  | .atom (.int 7) => true
  | _ => false

theorem eq_of_isSeven {v : Value} (seven : isSeven v = true) : v = .atom (.int 7) := by
  rw [isSeven.eq_def] at seven
  split at seven
  · rfl
  · cases seven

theorem assigned_value_is_seen_behind_scalar :
    ∃ layer, Assignment.parse "a.b=7".toList = .ok layer ∧
      (Value.dict (merge obstructedContext layer)).lookup [['a'], ['b']] =
        some (.atom (.int 7)) ∧
      (Value.dict (merge obstructedContext layer)).lookup [['k']] = some .null ∧
      (compile (.dict (merge obstructedContext layer)) "\x7b\x7b a.b \x7d\x7d".toList .plain).result
        = .ok (Text.wide ['7']) := by
  have read : (Yaml.readText ['7']).map isSeven = .ok true := by decide +kernel
  obtain ⟨w, read, seven⟩ := except_map_eq_ok_iff.1 read
  have denotes : Assignment.Denotes ['7'] (.atom (.int 7)) :=
    .yaml rfl (by rw [read, eq_of_isSeven seven.symm])
  have whole : (Assignment.parse "a.b=7".toList).map List.length = .ok 1 := by decide +kernel
  obtain ⟨layer, parsed, -⟩ := except_map_eq_ok_iff.1 whole
  have nested : (Value.dict obstructedContext).Nested :=
    (Value.Nested.singleton (.text "a".toList) (.atom (.int 5))).insert (.text "k".toList)
      (.atom .null)
  obtain ⟨v, seen, denotes', found, -, replaced, kept, -, field⟩ :=
    @assigned_value_is_seen _ obstructedContext layer [['a'], ['b']] ['7'] nested (by simp)
      (by decide) parsed
  obtain rfl := denotes.unique denotes'
  obtain rfl := replaced nofun
  refine ⟨layer, parsed, found, kept [['k']] (by simp [Apart]), ?_⟩
  exact field [' '] [' '] rfl rfl .plain

end FieldTemplate
