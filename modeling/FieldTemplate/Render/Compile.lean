import FieldTemplate.Render.Basic
import FieldTemplate.Render.Note

/-!
# From a template text to a rendered text in one step
-/

namespace FieldTemplate

set_option autoImplicit false

inductive CompileError where
  | template (e : TemplateError)
  | render (e : RenderError)
deriving DecidableEq, Repr

def CompileError.message : CompileError → Text
  | .template e => e.message
  | .render e => e.message

/-- The template of a text, with a note for each stage that is passed. -/
def Template.compileTraced (source : Text) : Traced TemplateError Template :=
  match tokenize source with
  | .error e => .ofExcept (.error (.syntaxError e))
  | .ok tokens =>
    .note (.tokenized source.length tokens.length) <|
      match ofTokens tokens source with
      | .error e => .ofExcept (.error (.path e))
      | .ok t => .note (.parsed t.nodes.length) (.ofExcept (.ok t))

/-- A rendering with a note for each missing field. -/
def Rendering.traced (r : Rendering) : Traced RenderError WideText :=
  ⟨r.missed.map .missing, r.result⟩

/-- Compiles a template text and renders it. -/
def compile (data : Value) (source : Text) (mode : RenderMode) : Traced CompileError WideText :=
  match Template.compileTraced source with
  | ⟨notes, .error e⟩ => ⟨notes, .error (.template e)⟩
  | ⟨notes, .ok t⟩ =>
    let r := t.render mode data
    ⟨notes ++ r.missed.map .missing, r.result.mapError .render⟩

end FieldTemplate
