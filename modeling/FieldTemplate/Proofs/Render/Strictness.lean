import FieldTemplate.Proofs.Render.Steps

/-!
# Strict and lenient rendering

A strict rendering is a lenient one in which the first miss is an error.  The two go through the
same steps, but for the misses (`strictly`), and so they agree up to the first of them, whatever
the formatter does (`run_strictly`).  The main statement is `strict_is_lenient_to_first_miss`.
-/

namespace FieldTemplate

set_option autoImplicit false

/-- A miss in lenient mode is an error in strict mode. -/
def NodeStep.strictly : NodeStep → NodeStep
  | .miss expr => .fail (.missing expr)
  | step => step

theorem Value.step_ne_missing (expr expr' : Text) (v : Value) :
    v.step expr ≠ .fail (.missing expr') := by
  rw [Value.step]
  cases v.kind with
  | null | mapping | sequence | other => simp
  | string | boolean | number | date => cases v.scalarText <;> simp

theorem Value.strictly_step (expr : Text) (v : Value) :
    (v.step expr).strictly = v.step expr := by
  rw [Value.step]
  cases v.kind with
  | null | mapping | sequence | other => rfl
  | string | boolean | number | date => cases v.scalarText <;> rfl

theorem Node.step_strict (data : Value) (node : Node) :
    node.step true data = (node.step false data).strictly := by
  cases node with
  | text s => rfl
  | field path expr =>
      rw [Node.step, Node.step]
      cases data.lookup path with
      | none => rfl
      | some v => exact (Value.strictly_step expr v).symm

theorem Node.lenient_step_ne_missing (data : Value) (node : Node) (expr : Text) :
    node.step false data ≠ .fail (.missing expr) := by
  cases node with
  | text s => simp [Node.step]
  | field path expr' =>
      rw [Node.step]
      cases data.lookup path with
      | none => simp
      | some v => exact Value.step_ne_missing expr' expr v

/-- The outcome in strict mode, from the misses and the outcome in lenient mode. -/
def firstMissOr {ε : Type} (result : Except (RenderError ⊕ ε) WideText) :
    List Text → Except (RenderError ⊕ ε) WideText
  | [] => result
  | first :: _ => .error (.inl (.missing first))

/-- **The run of the stricter steps stops at the first miss**, and is the same if there is none.
Only a step that fails on its own is an error in a run with misses. -/
theorem run_strictly {ε : Type} (callback : Callback ε) (asked : List WideText)
    {steps : List NodeStep} (lenient : ∀ expr, .fail (.missing expr) ∉ steps) :
    ∃ missed, (NodeStep.run callback asked steps).notes = missed.map .missing ∧
      (NodeStep.run callback asked (steps.map .strictly)).result =
        firstMissOr (NodeStep.run callback asked steps).result missed ∧
      ∀ expr, (NodeStep.run callback asked steps).result ≠ .error (.inl (.missing expr)) := by
  induction steps generalizing asked with
  | nil => exact ⟨[], rfl, rfl, by simp [NodeStep.run, Traced.ofExcept]⟩
  | cons step rest ih =>
      have lenient' : ∀ expr, .fail (.missing expr) ∉ rest := fun expr member =>
        lenient expr (List.mem_cons_of_mem _ member)
      -- what is put in front of a text leaves the errors as they are
      have inFront (s : WideText) (asked : List WideText) :
          ∃ missed, (NodeStep.run callback asked rest).notes = missed.map .missing ∧
            ((NodeStep.run callback asked (rest.map .strictly)).result.map (s ++ ·)) =
              firstMissOr ((NodeStep.run callback asked rest).result.map (s ++ ·)) missed ∧
            ∀ expr, (NodeStep.run callback asked rest).result.map (s ++ ·) ≠
              .error (.inl (.missing expr)) := by
        obtain ⟨missed, notes, strict, never⟩ := ih asked lenient'
        refine ⟨missed, notes, ?_, fun expr raised => never expr ?_⟩
        · rw [strict]
          cases missed <;> rfl
        · cases same : (NodeStep.run callback asked rest).result with
          | ok t => rw [same] at raised; cases raised
          | error e => rw [same] at raised; exact raised
      cases step with
      | emit s =>
          simp only [List.map_cons, NodeStep.strictly, NodeStep.run, Traced.bind_ofExcept_ok]
          exact inFront s asked
      | ask s =>
          simp only [List.map_cons, NodeStep.strictly, NodeStep.run]
          cases callback asked s with
          | error e => exact ⟨[], rfl, rfl, by simp [Traced.ofExcept]⟩
          | ok answer =>
              simp only [Traced.bind_ofExcept_ok]
              exact inFront answer (asked ++ [s])
      | miss expr =>
          obtain ⟨missed, notes, -, never⟩ := ih asked lenient'
          refine ⟨expr :: missed, ?_, rfl, never⟩
          simp [NodeStep.run, Traced.note, notes]
      | fail e =>
          refine ⟨[], rfl, rfl, fun expr raised => ?_⟩
          cases raised
          exact lenient expr List.mem_cons_self

/-- **Strict mode is lenient mode with the first miss turned into an error**, for any formatter,
also one that fails or remembers.  The misses are those that the lenient rendering notes, up to
where it fails if it does; with none of them the two outcomes are the same.  So a lenient rendering
never lacks a field, and a text rendered strictly is the one rendered leniently. -/
theorem strict_is_lenient_to_first_miss (t : Template) (data : Value) :
    (∀ (ε : Type) (callback : Callback ε), ∃ missed : List Text,
      (t.renderWith callback false data).notes = missed.map .missing ∧
      (missed = [] →
        (t.renderWith callback true data).result = (t.renderWith callback false data).result) ∧
      (∀ first rest, missed = first :: rest →
        (t.renderWith callback true data).result = .error (.inl (.missing first))) ∧
      (∀ expr, (t.renderWith callback false data).result ≠ .error (.inl (.missing expr))) ∧
      (∀ text, (t.renderWith callback true data).result = .ok text →
        (t.renderWith callback false data).result = .ok text)) ∧
    (∀ (ε : Type) (formatter : Formatter) (strict : Bool),
      t.renderWith (Callback.total formatter : Callback ε) strict data =
        ⟨(t.render ⟨formatter, strict⟩ data).traced.notes,
          (t.render ⟨formatter, strict⟩ data).result.mapError .inl⟩) := by
  refine ⟨fun ε callback => ?_,
    fun ε formatter strict => renderWith_total ε t formatter strict data⟩
  have lenient : ∀ expr, .fail (.missing expr) ∉ t.nodes.map (Node.step false data) := by
    intro expr member
    obtain ⟨node, -, same⟩ := List.mem_map.1 member
    exact node.lenient_step_ne_missing data expr same
  have steps : t.nodes.map (Node.step true data) =
      (t.nodes.map (Node.step false data)).map .strictly := by
    rw [List.map_map]
    exact List.map_congr_left fun node _ => node.step_strict data
  obtain ⟨missed, notes, strict, never⟩ := run_strictly callback [] lenient
  rw [← steps] at strict
  refine ⟨missed, notes, ?_, ?_, never, ?_⟩
  · rintro rfl
    exact strict
  · rintro first rest rfl
    exact strict
  · intro text rendered
    rw [Template.renderWith, strict] at rendered
    cases missed with
    | nil => exact rendered
    | cons first rest => cases rendered

end FieldTemplate
