import FieldTemplate.Render.Compile
import FieldTemplate.Proofs.Template.Nodes

/-!
# Renderings in sequence

Node lists are rendered one after another (`renderNodes_append`), and the text of the whole is
that of the parts (`Rendering.append_result_eq_ok_iff`).  `compile_of_template` reduces a text
that is compiled and rendered in one step to its template.
-/

namespace FieldTemplate

set_option autoImplicit false

namespace Rendering

@[simp] theorem text_nil_append (r : Rendering) : (text []).append r = r := by
  rcases r with ⟨missed, _ | s⟩ <;> rfl

@[simp] theorem append_text_nil (r : Rendering) : r.append (text []) = r := by
  rcases r with ⟨missed, _ | s⟩
  · rfl
  · simp [append, text, Except.map]

theorem append_assoc (a b c : Rendering) : (a.append b).append c = a.append (b.append c) := by
  rcases a with ⟨_, _ | s⟩
  · rfl
  · rcases b with ⟨_, _ | t⟩
    · rfl
    · rcases c with ⟨_, _ | u⟩ <;> simp [append, Except.map]

/-- The text of one rendering after another is the text of the one and then of the other. -/
theorem append_result_eq_ok_iff {a b : Rendering} {s : WideText} :
    (a.append b).result = .ok s ↔
      ∃ first rest, a.result = .ok first ∧ b.result = .ok rest ∧ s = first ++ rest := by
  rcases a with ⟨_, _ | first⟩
  · simp [append]
  · simp [append, except_map_eq_ok_iff]

end Rendering

theorem renderNodes_append (mode : RenderMode) (data : Value) (xs ys : List Node) :
    renderNodes mode data (xs ++ ys) =
      (renderNodes mode data xs).append (renderNodes mode data ys) := by
  induction xs with
  | nil => simp [renderNodes]
  | cons x xs ih => simp only [List.cons_append, renderNodes, ih, Rendering.append_assoc]

@[simp] theorem renderNodes_textNodes (mode : RenderMode) (data : Value) (s : Text) :
    renderNodes mode data (textNodes s) = .text s.wide := by
  by_cases empty : s = []
  · simp [textNodes, empty, renderNodes]
  · simp [textNodes, empty, renderNodes, renderNode]

/-- Only values of a scalar kind have a text. -/
theorem isScalar_of_scalarText {v : Value} {s : WideText} (text : v.scalarText = .ok s) :
    v.kind.isScalar = true := by
  cases v with
  | atom a => cases a <;> first | rfl | cases text
  | sequence => cases text
  | mapping => cases text

/-- A field that has a text is null and its text is empty, or it is the formatted scalar. -/
theorem renderValue_eq_ok {formatter : Formatter} {expr : Text} {s : WideText}
    {v : Value}
    (rendered : renderValue formatter expr v = .ok s) :
    (v.kind = .null ∧ s = []) ∨ ∃ scalar, v.scalarText = .ok scalar ∧ s = formatter scalar := by
  unfold renderValue at rendered
  split at rendered
  · next null => cases rendered; exact .inl ⟨null, rfl⟩
  · cases rendered
  · cases rendered
  · cases rendered
  · split at rendered
    · next scalar text => cases rendered; exact .inr ⟨scalar, text, rfl⟩
    · cases rendered

/-- A formatter matters through what it makes of the scalar's text. -/
theorem renderValue_congr {f g : Formatter} {v : Value}
    (agree : ∀ s, v.scalarText = .ok s → f s = g s) (expr : Text) :
    renderValue f expr v = renderValue g expr v := by
  unfold renderValue
  cases text : v.scalarText with
  | error e => rfl
  | ok s => simp only [agree s text]

/-! ## Compiling and rendering in one step -/

theorem compileTraced_result (source : Text) :
    (Template.compileTraced source).result = Template.compile source := by
  rw [Template.compileTraced, Template.compile]
  cases tokenize source with
  | error e => rfl
  | ok tokens =>
      dsimp only
      cases Template.ofTokens tokens source <;> rfl

theorem compile_of_template {source : Text} {t : Template}
    (compiled : Template.compile source = .ok t) (data : Value) (mode : RenderMode) :
    compile data source mode =
      ⟨(Template.compileTraced source).notes ++ (t.render mode data).missed.map .missing,
        (t.render mode data).result.mapError .render⟩ := by
  have result := compileTraced_result source
  rw [compiled] at result
  rw [compile]
  split
  · next traced => rw [traced] at result; cases result
  · next traced =>
    rw [traced] at result ⊢
    cases result
    rfl

end FieldTemplate
