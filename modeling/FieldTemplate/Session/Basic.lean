import FieldTemplate.Context.Layers
import FieldTemplate.Format.Named
import FieldTemplate.Render.Compile

/-!
# Sessions

A session keeps named templates, a way of rendering and a context, and takes commands one
after the other.  A command that fails leaves the session as it was.
-/

namespace FieldTemplate

set_option autoImplicit false

structure Session where
  templates : List (Text × Template)
  mode : RenderMode
  context : Entries

namespace Session

def start : Session := ⟨[], .plain, []⟩

inductive Command where
  | template (name source : Text)
  | renderer (formatter : FormatterChoice) (strict : Bool)
  | render (name : Text)
  /-- Renders with a formatter and strictness of its own. -/
  | shortcut (name : Text) (formatter : FormatterChoice) (strict : Bool)
  | reset (data : Entries)
  | merge (data : Entries)
  | assign (assignments : List Text)
  | file (path : Path) (content : Text)

inductive Answer where
  | template (t : Template)
  | mode (strict : Bool)
  | text (s : WideText)
  | context (entries : Entries)

inductive SessionError where
  | template (e : TemplateError)
  | render (e : RenderError)
  | context (e : ContextError)
  | formatter (e : UnknownFormatter)
  | file (e : FileError)
  | noTemplate (name : Text)

def template? (s : Session) (name : Text) : Option Template :=
  (s.templates.find? fun e => e.1 == name).map (·.2)

def renderWith (s : Session) (name : Text) (mode : RenderMode) :
    Except SessionError (Answer × Session) :=
  match s.template? name with
  | none => .error (.noTemplate name)
  | some t =>
    match (t.render mode (.dict s.context)).result with
    | .error e => .error (.render e)
    | .ok text => .ok (.text text, s)

/-- The session with a new context, which is also the answer. -/
def withContext (s : Session) (entries : Entries) : Answer × Session :=
  (.context entries, { s with context := entries })

/-- The answer to a command, and the session after it. -/
def apply [Host] (s : Session) : Command → Except SessionError (Answer × Session)
  | .template name source =>
    match Template.compile source with
    | .error e => .error (.template e)
    | .ok t => .ok (.template t, { s with templates := (name, t) :: s.templates })
  | .renderer choice strict =>
    match choice.formatter with
    | .error e => .error (.formatter e)
    | .ok f => .ok (.mode strict, { s with mode := ⟨f, strict⟩ })
  | .render name => s.renderWith name s.mode
  | .shortcut name choice strict =>
    match choice.formatter with
    | .error e => .error (.formatter e)
    | .ok f => s.renderWith name ⟨f, strict⟩
  | .reset data => .ok (s.withContext data)
  | .merge data => .ok (s.withContext (FieldTemplate.merge s.context data))
  | .assign assignments =>
    match Context.assignmentLayers assignments with
    | .error e => .error (.context (.assignment e))
    | .ok layers => .ok (s.withContext (Context.ofLayers s.context layers))
  | .file path content =>
    match FileTree.empty.save [] path (Utf8.encode content) with
    | ⟨_, some e⟩ => .error (.file e)
    | ⟨tree, none⟩ =>
      match (DataFile.load tree [] path).result with
      | .error e => .error (.context (.data e))
      | .ok layer => .ok (s.withContext (FieldTemplate.merge s.context layer))

/-- The answers to a list of commands.  An error is an answer and changes nothing. -/
def run [Host] (s : Session) : List Command → List (Except SessionError Answer)
  | [] => []
  | command :: rest =>
    match s.apply command with
    | .error e => .error e :: s.run rest
    | .ok (answer, next) => .ok answer :: next.run rest

end Session

end FieldTemplate
