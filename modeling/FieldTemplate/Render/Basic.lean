import FieldTemplate.Template.Basic
import FieldTemplate.Value.Entries
import FieldTemplate.Value.Scalar

/-!
# Rendering

Nodes are rendered from left to right: texts as they are, fields through the formatter.  A
field that is null gives nothing.  A field that is missing gives nothing either, and its
expression is recorded; in strict mode it ends the rendering instead.
-/

namespace FieldTemplate

set_option autoImplicit false

/-- A formatter sees the text of each field and nothing else. -/
abbrev Formatter := WideText → WideText

inductive RenderError where
  | missing (expr : Text)
  | nonScalar (expr : Text)
  | unsupported (expr : Text)
  | scalar (e : ScalarError)
deriving DecidableEq, Repr

def RenderError.message : RenderError → Text
  | .missing expr => "Missing field: ".toList ++ expr
  | .nonScalar expr => "Field does not resolve to a scalar: ".toList ++ expr
  | .unsupported expr => "Unsupported value type for field: ".toList ++ expr
  | .scalar e => e.message

/-- The value at a path through nested mappings. -/
def Value.lookup (v : Value) : List Text → Option Value
  | [] => some v
  | segment :: rest =>
    match v with
    | .mapping _ entries =>
      match Entries.get? entries (.text segment.wide) with
      | some w => w.lookup rest
      | none => none
    | _ => none

/-- The expressions that were missing, in order, and the text or the first error. -/
structure Rendering where
  missed : List Text
  result : Except RenderError WideText

namespace Rendering

def text (s : WideText) : Rendering := ⟨[], .ok s⟩

def fail (e : RenderError) : Rendering := ⟨[], .error e⟩

/-- One rendering after another; an error ends it. -/
def append (first rest : Rendering) : Rendering :=
  match first.result with
  | .error e => ⟨first.missed, .error e⟩
  | .ok s => ⟨first.missed ++ rest.missed, rest.result.map (s ++ ·)⟩

end Rendering

structure RenderMode where
  formatter : Formatter
  strict : Bool

/-- Lenient, and texts as they are. -/
def RenderMode.plain : RenderMode := ⟨id, false⟩

/-- The text that a value contributes for the given expression. -/
def renderValue (formatter : Formatter) (expr : Text) (v : Value) :
    Except RenderError WideText :=
  match v.kind with
  | .null => .ok []
  | .mapping | .sequence => .error (.nonScalar expr)
  | .other => .error (.unsupported expr)
  | _ =>
    match v.scalarText with
    | .ok s => .ok (formatter s)
    | .error e => .error (.scalar e)

def renderNode (mode : RenderMode) (data : Value) : Node → Rendering
  | .text s => .text s.wide
  | .field path expr =>
    match data.lookup path with
    | some v => ⟨[], renderValue mode.formatter expr v⟩
    | none => if mode.strict then .fail (.missing expr) else ⟨[expr], .ok []⟩

def renderNodes (mode : RenderMode) (data : Value) : List Node → Rendering
  | [] => .text []
  | node :: rest => (renderNode mode data node).append (renderNodes mode data rest)

namespace Template

def render (t : Template) (mode : RenderMode) (data : Value) : Rendering :=
  renderNodes mode data t.nodes

end Template

end FieldTemplate
