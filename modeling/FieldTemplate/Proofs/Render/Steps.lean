import FieldTemplate.Proofs.Render.Rendering
import FieldTemplate.Render.Callback

/-!
# Renderings step by step

Every rendering goes through the steps of its nodes (`renderNode_eq`): what differs from one
formatter to the next is only what becomes of the scalars.  A formatter that always answers
gives the plain rendering (`renderWith_total`).
-/

namespace FieldTemplate

set_option autoImplicit false

/-- What a step contributes with a formatter that always answers. -/
def NodeStep.rendering (formatter : Formatter) : NodeStep → Rendering
  | .emit s => .text s
  | .ask s => .text (formatter s)
  | .miss expr => ⟨[expr], .ok []⟩
  | .fail e => .fail e

theorem rendering_step (formatter : Formatter) (expr : Text) (v : Value) :
    (v.step expr).rendering formatter = ⟨[], renderValue formatter expr v⟩ := by
  rw [Value.step, renderValue]
  cases v.kind with
  | null | mapping | sequence | other => rfl
  | string | boolean | number | date => cases v.scalarText <;> rfl

theorem renderNode_eq (mode : RenderMode) (data : Value) (node : Node) :
    renderNode mode data node = (node.step mode.strict data).rendering mode.formatter := by
  cases node with
  | text s => rfl
  | field path expr =>
      rw [renderNode, Node.step]
      cases data.lookup path with
      | none => cases mode.strict <;> rfl
      | some v => exact (rendering_step mode.formatter expr v).symm

theorem run_total (ε : Type) (formatter : Formatter) (strict : Bool) (data : Value)
    (asked : List WideText) (nodes : List Node) :
    NodeStep.run (Callback.total formatter : Callback ε) asked (nodes.map (Node.step strict data)) =
      ⟨(renderNodes ⟨formatter, strict⟩ data nodes).traced.notes,
        (renderNodes ⟨formatter, strict⟩ data nodes).result.mapError .inl⟩ := by
  induction nodes generalizing asked with
  | nil => rfl
  | cons node rest ih =>
      rw [renderNodes, renderNode_eq, List.map_cons]
      have behind := ih asked
      have behindAsked (s : WideText) := ih (asked ++ [s])
      generalize renderNodes ⟨formatter, strict⟩ data rest = r at behind behindAsked
      cases node.step strict data with
      | fail e => rfl
      | emit s =>
          rw [NodeStep.run, behind, Traced.bind_ofExcept_ok]
          rcases r with ⟨missed, _ | t⟩ <;> rfl
      | ask s =>
          have answer : (Callback.total formatter : Callback ε) asked s = .ok (formatter s) := rfl
          simp only [NodeStep.run, answer, behindAsked, Traced.bind_ofExcept_ok]
          rcases r with ⟨missed, _ | t⟩ <;> rfl
      | miss expr =>
          rw [NodeStep.run, behind]
          rcases r with ⟨missed, _ | t⟩ <;> rfl

/-- **A formatter that always answers gives the plain rendering**, with its misses as notes. -/
theorem renderWith_total (ε : Type) (t : Template) (formatter : Formatter) (strict : Bool)
    (data : Value) :
    t.renderWith (Callback.total formatter : Callback ε) strict data =
      ⟨(t.render ⟨formatter, strict⟩ data).traced.notes,
        (t.render ⟨formatter, strict⟩ data).result.mapError .inl⟩ :=
  run_total ε formatter strict data [] t.nodes

end FieldTemplate
