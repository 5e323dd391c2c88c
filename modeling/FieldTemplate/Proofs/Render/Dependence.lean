import FieldTemplate.Proofs.Render.Steps
import FieldTemplate.Proofs.Template.Fields
import FieldTemplate.Proofs.Value.Entries
import Mathlib.Logic.Relation

/-!
# What a rendering depends on

A template sees of its data what its fields lead to, and of a mapping there not even that: only
that it is one (`Value.Alike`).  So data that agree on the fields are rendered to the same text,
or to the same error with the same misses on the way, whatever the formatter does.  An entry that
no field passes through may be added, changed or removed (`lookup_of_edited`).  The main statement
is `rendering_reads_only_fields`.
-/

namespace FieldTemplate

set_option autoImplicit false

/-! ## Values that a field does not tell apart -/

/-- The same value, or two mappings. -/
inductive Value.Alike : Value → Value → Prop
  | same (v : Value) : Alike v v
  | mappings (kind kind' : MappingKind) (entries entries' : Entries) :
      Alike (.mapping kind entries) (.mapping kind' entries')

theorem Value.Alike.step_eq {v w : Value} (alike : v.Alike w) (expr : Text) :
    v.step expr = w.step expr := by
  cases alike with
  | same => rfl
  | mappings => rfl

theorem Value.alike_refl (found : Option Value) : Option.Rel Alike found found := by
  cases found with
  | none => exact .none
  | some v => exact .some (.same v)

theorem Node.step_congr {d₁ d₂ : Value} {path : List Text}
    (alike : Option.Rel Value.Alike (d₁.lookup path) (d₂.lookup path)) (strict : Bool)
    (expr : Text) :
    (Node.field path expr).step strict d₁ = (Node.field path expr).step strict d₂ := by
  rw [step, step]
  generalize d₁.lookup path = found₁ at alike
  generalize d₂.lookup path = found₂ at alike
  cases alike with
  | none => rfl
  | some same => exact same.step_eq expr

/-! ## Renderings of the same steps -/

theorem renderNodes_congr {d₁ d₂ : Value} {mode : RenderMode} {nodes : List Node}
    (same : ∀ node ∈ nodes, node.step mode.strict d₁ = node.step mode.strict d₂) :
    renderNodes mode d₁ nodes = renderNodes mode d₂ nodes := by
  induction nodes with
  | nil => rfl
  | cons node rest ih =>
      rw [renderNodes, renderNodes, renderNode_eq, renderNode_eq, same node List.mem_cons_self,
        ih fun n member => same n (List.mem_cons_of_mem _ member)]

/-- A template gives the same from both data, in any mode: the text, or the error, and the notes. -/
structure Template.Indistinct (t : Template) (d₁ d₂ : Value) : Prop where
  /-- Also with a formatter that fails or remembers what it was asked. -/
  callback : ∀ (ε : Type) (callback : Callback ε) (strict : Bool),
    t.renderWith callback strict d₁ = t.renderWith callback strict d₂
  plain : ∀ mode, t.render mode d₁ = t.render mode d₂

theorem Template.indistinct_of_steps {t : Template} {d₁ d₂ : Value}
    (same : ∀ node ∈ t.nodes, ∀ strict, node.step strict d₁ = node.step strict d₂) :
    t.Indistinct d₁ d₂ where
  callback ε callback strict := by
    rw [renderWith, renderWith, List.map_congr_left fun node member => same node member strict]
  plain mode := renderNodes_congr fun node member => same node member mode.strict

theorem Template.Indistinct.compile_eq {source : Text} {t : Template}
    (compiled : compile source = .ok t) {d₁ d₂ : Value} (same : t.Indistinct d₁ d₂)
    (mode : RenderMode) :
    FieldTemplate.compile d₁ source mode = FieldTemplate.compile d₂ source mode := by
  rw [compile_of_template compiled, compile_of_template compiled, same.plain]

theorem Template.Indistinct.trans {t : Template} {d₁ d₂ d₃ : Value}
    (first : t.Indistinct d₁ d₂) (second : t.Indistinct d₂ d₃) : t.Indistinct d₁ d₃ where
  callback ε callback strict :=
    (first.callback ε callback strict).trans (second.callback ε callback strict)
  plain mode := (first.plain mode).trans (second.plain mode)

/-- Fields that lead to values that are alike are enough. -/
theorem Template.indistinct_of_alike {source : Text} {t : Template}
    (compiled : compile source = .ok t) {d₁ d₂ : Value}
    (alike : ∀ expr ∈ t.fields, ∀ path, FieldPath.parse expr = .ok path →
      Option.Rel Value.Alike (d₁.lookup path) (d₂.lookup path)) : t.Indistinct d₁ d₂ := by
  refine indistinct_of_steps fun node member strict => ?_
  cases node with
  | text s => rfl
  | field path expr =>
      have listed : expr ∈ t.fields := mem_fields_iff.2 ⟨path, member⟩
      have agreed := alike expr listed path (parse_of_mem_nodes compiled member)
      exact Node.step_congr agreed strict expr

/-! ## Edits -/

/-- The second value is the first one with an entry added, changed or removed; the keys say where
it lies, from the outermost mapping inwards. -/
inductive Value.Edited : List Atom → Value → Value → Prop
  | here {kind : MappingKind} {entries entries' : Entries} (key : Atom)
      (others : ∀ k, key.sameKey k = false → entries.get? k = entries'.get? k) :
      Edited [key] (.mapping kind entries) (.mapping kind entries')
  | within {kind : MappingKind} {entries entries' : Entries} {keys : List Atom} {v w : Value}
      (key : Atom) (others : ∀ k, key.sameKey k = false → entries.get? k = entries'.get? k)
      (old : entries.get? key = some v) (new : entries'.get? key = some w)
      (inner : Edited keys v w) :
      Edited (key :: keys) (.mapping kind entries) (.mapping kind entries')

/-- Whether a path leads through the entry under some keys, or ends there. -/
def passesThrough : List Text → List Atom → Bool
  | _, [] => true
  | [], _ :: _ => false
  | segment :: path, key :: keys => key.sameKey (.text segment) && passesThrough path keys

theorem Value.lookup_mapping_cons (kind : MappingKind) (entries : Entries) (segment : Text)
    (path : List Text) :
    (Value.mapping kind entries).lookup (segment :: path) =
      (entries.get? (.text segment)).bind fun v => v.lookup path := by
  rw [lookup]
  cases entries.get? (.text segment) <;> rfl

/-- **A path that does not pass through an edited entry leads where it led before**, or to a
mapping that the entry lies in. -/
theorem lookup_of_edited {keys : List Atom} {d₁ d₂ : Value} (edited : d₁.Edited keys d₂)
    {path : List Text} (apart : passesThrough path keys = false) :
    Option.Rel Value.Alike (d₁.lookup path) (d₂.lookup path) := by
  induction edited generalizing path with
  | here key others =>
      cases path with
      | nil => exact .some (.mappings ..)
      | cons segment path =>
          have other : key.sameKey (.text segment) = false := by
            simpa [passesThrough] using apart
          rw [Value.lookup_mapping_cons, Value.lookup_mapping_cons, others _ other]
          exact Value.alike_refl _
  | within key others old new inner ih =>
      cases path with
      | nil => exact .some (.mappings ..)
      | cons segment path =>
          rw [Value.lookup_mapping_cons, Value.lookup_mapping_cons]
          by_cases on : key.sameKey (.text segment) = true
          · rw [passesThrough, on, Bool.true_and] at apart
            rw [← Entries.get?_congr _ on, ← Entries.get?_congr _ on, old, new]
            exact ih apart
          · rw [others _ (Bool.eq_false_iff.2 on)]
            exact Value.alike_refl _

/-- One edit of an entry that no field passes through. -/
def Template.EditedApart (t : Template) (d₁ d₂ : Value) : Prop :=
  ∃ keys, d₁.Edited keys d₂ ∧
    ∀ expr ∈ t.fields, ∀ path, FieldPath.parse expr = .ok path → passesThrough path keys = false

/-- **A rendering reads nothing of its data but the fields.**  Two data in which every listed
expression leads to the same value, or to none, are rendered alike: to the same text, or with the
same error, and with the same notes of what is missing.  So are data that go over into each other
by adding, changing and removing entries that no field passes through. -/
theorem rendering_reads_only_fields {source : Text} {t : Template}
    (compiled : Template.compile source = .ok t) :
    (∀ expr ∈ t.fields, ∃ path, FieldPath.parse expr = .ok path) ∧
    (∀ d₁ d₂ : Value,
      (∀ expr ∈ t.fields, ∀ path, FieldPath.parse expr = .ok path →
        d₁.lookup path = d₂.lookup path) →
      t.Indistinct d₁ d₂ ∧ ∀ mode, compile d₁ source mode = compile d₂ source mode) ∧
    (∀ d₁ d₂ : Value, Relation.ReflTransGen t.EditedApart d₁ d₂ →
      t.Indistinct d₁ d₂ ∧ ∀ mode, compile d₁ source mode = compile d₂ source mode) := by
  refine ⟨fun expr listed => ?_, fun d₁ d₂ agree => ?_, fun d₁ d₂ edits => ?_⟩
  · obtain ⟨path, member⟩ := Template.mem_fields_iff.1 listed
    exact ⟨path, Template.parse_of_mem_nodes compiled member⟩
  · have same : t.Indistinct d₁ d₂ := Template.indistinct_of_alike compiled
      fun expr listed path parsed => by
        rw [agree expr listed path parsed]
        exact Value.alike_refl _
    exact ⟨same, same.compile_eq compiled⟩
  · have same : t.Indistinct d₁ d₂ := by
      induction edits with
      | refl => exact ⟨fun _ _ _ => rfl, fun _ => rfl⟩
      | tail _ edit ih =>
          obtain ⟨keys, edited, apart⟩ := edit
          exact ih.trans <| Template.indistinct_of_alike compiled fun expr listed path parsed =>
            lookup_of_edited edited (apart expr listed path parsed)
    exact ⟨same, same.compile_eq compiled⟩

/-- A field below `a`, and one that is missing in the data below. -/
def nestedSource : Text := "\x7b\x7ba.b\x7d\x7d\x7b\x7bx\x7d\x7d".toList

def nestedTemplate : Template :=
  ⟨[.field [['a'], ['b']] "a.b".toList, .field [['x']] ['x']], nestedSource⟩

theorem rendering_reads_only_fields_beside_sibling :
    Template.compile nestedSource = .ok nestedTemplate ∧
      (∀ mode,
        compile (.dict [(.text "a".toList, .dict [(.text "b".toList, .text "1".toList)])])
            nestedSource mode =
          compile
            (.dict [(.text "a".toList, .dict [(.text "b".toList, .text "1".toList)]),
              (.int 7, .null)])
            nestedSource mode) ∧
      nestedTemplate.Indistinct
        (.dict [(.text "a".toList,
          .dict [(.text "b".toList, .text "1".toList), (.text "c".toList, .null)])])
        (.dict [(.text "a".toList, .dict [(.text "b".toList, .text "1".toList)])]) := by
  have compiled : Template.compile nestedSource = .ok nestedTemplate := by decide +kernel
  obtain ⟨-, agree, edits⟩ := rendering_reads_only_fields compiled
  have listed : nestedTemplate.fields = ["a.b".toList, ['x']] := rfl
  have nested : FieldPath.parse "a.b".toList = .ok [['a'], ['b']] := rfl
  have plain : FieldPath.parse ['x'] = .ok [['x']] := rfl
  refine ⟨compiled, (agree _ _ ?_).2,
    (edits _ _ (.single ⟨[.text "a".toList, .text "c".toList], ?_, ?_⟩)).1⟩
  · simp only [listed, List.forall_mem_cons, nested, plain]
    refine ⟨?_, ?_, by simp⟩ <;> rintro _ ⟨⟩ <;> rfl
  · refine .within _ (fun k other => ?_) rfl rfl (.here _ fun k other => ?_)
    · simp only [Entries.get?, other, Bool.false_eq_true, if_false]
    · simp only [Entries.get?, other, Bool.false_eq_true, if_false]
  · simp only [listed, List.forall_mem_cons, nested, plain]
    refine ⟨?_, ?_, by simp⟩ <;> rintro _ ⟨⟩ <;> rfl

end FieldTemplate
