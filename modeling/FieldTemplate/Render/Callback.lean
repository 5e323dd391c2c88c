import FieldTemplate.Render.Compile

/-!
# Rendering with a formatter of the caller

A formatter that comes from outside need not be a function of the text alone: it may fail, and
it may remember what it was asked.  What a node comes to is settled first, by the data and the
mode (`Node.step`); only then is the formatter asked, for one scalar after the other.
-/

namespace FieldTemplate

set_option autoImplicit false

/-- What a node comes to before any formatter is asked. -/
inductive NodeStep where
  | emit (s : WideText)
  /-- The text of a scalar, for the formatter. -/
  | ask (s : WideText)
  | miss (expr : Text)
  | fail (e : RenderError)
deriving DecidableEq, Repr

def Value.step (expr : Text) (v : Value) : NodeStep :=
  match v.kind with
  | .null => .emit []
  | .mapping | .sequence => .fail (.nonScalar expr)
  | .other => .fail (.unsupported expr)
  | _ =>
    match v.scalarText with
    | .ok s => .ask s
    | .error e => .fail (.scalar e)

def Node.step (strict : Bool) (data : Value) : Node → NodeStep
  | .text s => .emit s.wide
  | .field path expr =>
    match data.lookup path with
    | some v => v.step expr
    | none => if strict then .fail (.missing expr) else .miss expr

/-- A formatter that sees the texts it was asked for before, and answers or fails. -/
abbrev Callback (ε : Type) := List WideText → WideText → Except ε WideText

/-- A formatter that always answers, and in the same way. -/
def Callback.total {ε : Type} (formatter : Formatter) : Callback ε := fun _ s => .ok (formatter s)

/-- The text of a list of steps, with a note for each miss, behind the texts already asked for. -/
def NodeStep.run {ε : Type} (callback : Callback ε) :
    List WideText → List NodeStep → Traced (RenderError ⊕ ε) WideText
  | _, [] => .ofExcept (.ok [])
  | asked, .emit s :: rest =>
    (run callback asked rest).bind fun behind => .ofExcept (.ok (s ++ behind))
  | asked, .miss expr :: rest => .note (.missing expr) (run callback asked rest)
  | _, .fail e :: _ => .ofExcept (.error (.inl e))
  | asked, .ask s :: rest =>
    match callback asked s with
    | .error e => .ofExcept (.error (.inr e))
    | .ok answer =>
      (run callback (asked ++ [s]) rest).bind fun behind => .ofExcept (.ok (answer ++ behind))

/-- A rendering whose formatter may fail in its own way. -/
def Template.renderWith {ε : Type} (t : Template) (callback : Callback ε) (strict : Bool)
    (data : Value) : Traced (RenderError ⊕ ε) WideText :=
  NodeStep.run callback [] (t.nodes.map (Node.step strict data))

end FieldTemplate
