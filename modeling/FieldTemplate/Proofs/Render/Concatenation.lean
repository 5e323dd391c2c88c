import FieldTemplate.Proofs.Render.Rendering
import FieldTemplate.Proofs.Template.Fields
import FieldTemplate.Proofs.Template.Seam

/-!
# Templates one behind the other

Two template texts can be put together and used as one, unless a brace at the seam makes an
opening (`Seamless`).  A fault of the back text is a fault of the whole, moved by the length of
the front text; and the whole renders as the two parts one after the other
(`render_of_compile_append`).  The main statement is `compile_append_laws`.
-/

namespace FieldTemplate

set_option autoImplicit false

open Text

/-- A literal that is cut in two renders as its two parts. -/
theorem renderNodes_textNodes_append (mode : RenderMode) (data : Value) (s t : Text) :
    renderNodes mode data (textNodes (s ++ t)) =
      (renderNodes mode data (textNodes s)).append (renderNodes mode data (textNodes t)) := by
  simp [Rendering.append, Rendering.text, Except.map]

theorem fieldsOf_textNodes_append (seen : List Text) (s : Text) (nodes : List Node) :
    Template.fieldsOf seen (textNodes s ++ nodes) = Template.fieldsOf seen nodes := by
  by_cases empty : s = [] <;> simp [textNodes, empty, Template.fieldsOf]

theorem fieldsOf_append_textNodes (seen : List Text) (nodes : List Node) (s : Text) :
    Template.fieldsOf seen (nodes ++ textNodes s) = Template.fieldsOf seen nodes := by
  have literal : Template.fieldsOf seen (textNodes s) = [] := by
    simpa [Template.fieldsOf] using fieldsOf_textNodes_append seen s []
  rw [Template.fieldsOf_append, literal, List.filter_nil, List.append_nil]

/-- The template of the whole has the fields of the parts and renders as they do in turn. -/
theorem render_of_compile_append {s₁ s₂ : Text} {t₁ t₂ : Template} (seamless : Seamless s₁ s₂)
    (compiled₁ : Template.compile s₁ = .ok t₁) (compiled₂ : Template.compile s₂ = .ok t₂) :
    ∃ t, Template.compile (s₁ ++ s₂) = .ok t ∧
      t.fields = t₁.fields ++ (t₂.fields.filter fun e => e ∉ t₁.fields) ∧
      ∀ mode data, t.render mode data = (t₁.render mode data).append (t₂.render mode data) := by
  obtain ⟨xs, last, first, ys, nodes₁, nodes₂, compiled⟩ :=
    Template.compile_append seamless compiled₁ compiled₂
  refine ⟨_, compiled, ?_, fun mode data => ?_⟩
  · rw [Template.fields, Template.fields, Template.fields, nodes₁, nodes₂,
      fieldsOf_append_textNodes, fieldsOf_textNodes_append, Template.fieldsOf_append,
      fieldsOf_textNodes_append]
  · simp only [Template.render, nodes₁, nodes₂, renderNodes_append,
      renderNodes_textNodes_append mode data last first, Rendering.append_assoc]

/-- A fault in the back text is the fault of the whole, at its place behind the front text. -/
theorem tokenize_append_error {s₁ s₂ : Text} (readable : ∃ tokens, tokenize s₁ = .ok tokens)
    (seamless : Seamless s₁ s₂) {e : SyntaxError} (broken : tokenize s₂ = .error e) :
    ∃ e', tokenize (s₁ ++ s₂) = .error e' ∧ e'.fault = e.fault ∧
      e'.position = e.position + s₁.length ∧ e'.offset = e.offset + s₁.bytes := by
  obtain ⟨stop, stopped, rfl⟩ := tokenize_eq_error_iff.1 broken
  obtain ⟨front, last, place, first, rest, -, behind, whole⟩ :=
    lexFrom_append (readable_iff_tokenize.2 readable) seamless .start
  have same : (lex (s₁ ++ s₂)).stop = (lexFrom (Cursor.start.past s₁) s₂).stop := by
    rw [lex, whole, behind, Lexing.prepend_stop, Lexing.prepend_stop]
  rcases lexFrom_stop s₂ with none_ | ⟨fault, n, some_⟩
  · rw [lex, none_] at stopped
    cases stopped
  · rw [lex, some_] at stopped
    cases stopped
    have stopped : (lex (s₁ ++ s₂)).stop =
        some ⟨fault, (Cursor.start.past s₁).past (s₂.take n)⟩ := by
      rw [same, some_]
    refine ⟨_, tokenize_eq_error_iff.2 ⟨_, stopped, rfl⟩, rfl, ?_, ?_⟩
    · simp only [Stop.toError, SyntaxError.make, Cursor.past, Cursor.start]
      omega
    · simp only [Stop.toError, SyntaxError.make, Cursor.past, Cursor.start]
      omega

/-- **Templates can be put together.**  Behind a text that can be read, and without an opening
across the seam, a fault stays the fault it is and moves by what stands in front of it.  If both
texts are templates, so is the whole: it has the fields of the first and the new ones of the
second, and rendering it is rendering the first and then the second, up to the first error. -/
theorem compile_append_laws (s₁ s₂ : Text) (readable : ∃ tokens, tokenize s₁ = .ok tokens)
    (seamless : ¬ (s₁.getLast? = some '{' ∧ s₂.head? = some '{')) :
    (∀ e, tokenize s₂ = .error e →
      ∃ e', tokenize (s₁ ++ s₂) = .error e' ∧ e'.fault = e.fault ∧
        e'.position = e.position + s₁.length ∧ e'.offset = e.offset + s₁.bytes) ∧
    (∀ t₁ t₂, Template.compile s₁ = .ok t₁ → Template.compile s₂ = .ok t₂ →
      ∃ t, Template.compile (s₁ ++ s₂) = .ok t ∧
        t.fields = t₁.fields ++ (t₂.fields.filter fun e => e ∉ t₁.fields) ∧
        ∀ mode data, (t.render mode data).result = do
          let front ← (t₁.render mode data).result
          let back ← (t₂.render mode data).result
          return front ++ back) := by
  refine ⟨fun e => tokenize_append_error readable seamless, fun t₁ t₂ compiled₁ compiled₂ => ?_⟩
  obtain ⟨t, compiled, fields, render⟩ := render_of_compile_append seamless compiled₁ compiled₂
  refine ⟨t, compiled, fields, fun mode data => ?_⟩
  rw [render]
  rcases t₁.render mode data with ⟨_, _ | front⟩
  · rfl
  · rcases t₂.render mode data with ⟨_, _ | back⟩ <;> rfl

/-- A text that ends with a single brace behind a placeholder. -/
def bracedFront : Text := 'ü' :: opening ++ " a ".toList ++ closing ++ ['}']

/-- A text that starts with a single brace in front of an opening. -/
def bracedBack (rest : Text) : Text := '{' :: ' ' :: opening ++ rest

/-- Single braces on either side of the seam, with a fault and without. -/
theorem compile_append_laws_braces :
    (∃ e, tokenize (bracedFront ++ bracedBack ['b']) = .error e ∧
      e.fault = .unterminated ∧ e.position = 11 ∧ e.offset = 12) ∧
    ∃ t, Template.compile (bracedFront ++ bracedBack ('b' :: closing)) = .ok t ∧
      t.fields = [['a'], ['b']] := by
  have readable : ∃ tokens, tokenize bracedFront = .ok tokens :=
    ⟨[.literal ['ü'] 0, .placeholder ['a'] 2, .literal ['}'] 9], by decide +kernel⟩
  have laws (s₂ : Text) := compile_append_laws bracedFront s₂ readable
    fun across => absurd across.1 (by decide +kernel)
  constructor
  · obtain ⟨e, raised, fault, position, offset⟩ := (laws (bracedBack ['b'])).1
      ⟨.unterminated, 2, 2, some ⟨1, 3⟩⟩ (by decide +kernel)
    exact ⟨e, raised, fault, position, offset⟩
  · obtain ⟨t, compiled, fields, -⟩ := (laws (bracedBack ('b' :: closing))).2
      ⟨[.text ['ü'], .field [['a']] ['a'], .text ['}']], bracedFront⟩
      ⟨[.text ['{', ' '], .field [['b']] ['b']], bracedBack ('b' :: closing)⟩
      (by decide +kernel) (by decide +kernel)
    exact ⟨t, compiled, fields⟩

end FieldTemplate
