import FieldTemplate.Command.Arguments
import FieldTemplate.Command.Report
import FieldTemplate.Console.Table

/-!
# Commands

Each command is a function of its environment: the files, the working directory, the
standard input.  `render` goes through its stages in a fixed order (configuration, template
text, tokens and paths, data files, assignments, formatter, fields) and writes nothing
before the last one has passed.
-/

namespace FieldTemplate.Command

set_option autoImplicit false

structure Environment where
  tree : FileTree
  cwd : Location
  stdin : List UInt8
  debug : Bool

/-- A fault that a command leaves to the system. -/
inductive Escaped where
  | file (e : FileError)
  | markup (e : Markup.MarkupError)
  /-- A text with surrogates is to be written, which has no UTF-8 form. -/
  | encoding
deriving DecidableEq, Repr

/-- What may stand on the streams beside the text of an outcome, in words that are not fixed. -/
inductive Unsaid where
  | nothing
  /-- Log lines on the error stream. -/
  | log
  /-- Help on either stream. -/
  | help
deriving DecidableEq, Repr

/-- How a command ends: the text on its streams and the files after it. -/
structure Outcome where
  exitCode : Nat
  stdout : Text
  stderr : Text
  unsaid : Unsaid
  tree : FileTree
  escaped : Option Escaped

namespace Environment

def finish (env : Environment) (verbose : Bool) (exitCode : Nat) (stdout stderr : Text) : Outcome :=
  { exitCode := exitCode
    stdout := stdout
    stderr := stderr
    unsaid := if verbose || env.debug then .log else .nothing
    tree := env.tree
    escaped := none }

def fail (env : Environment) (verbose : Bool) (f : Failure) : Outcome :=
  env.finish verbose 1 [] f.report.text

def escape (env : Environment) (verbose : Bool) (e : Escaped) : Outcome :=
  { env.finish verbose 1 [] [] with escaped := some e }

/-- A command line that asks for help or that cannot be understood changes nothing. -/
def help (env : Environment) (exitCode : Nat) : Outcome :=
  ⟨exitCode, [], [], .help, env.tree, none⟩

/-! ## Templates -/

def decodeSource (bytes : List UInt8) : Except SourceError Text :=
  match Utf8.decode bytes with
  | .ok s => .ok (Text.unixLines s)
  | .error e => .error (.encoding e)

/-- The name of a template and its text; a hyphen stands for the standard input. -/
def readSource (env : Environment) (template : Text) : Except SourceError (Text × Text) :=
  if template = ['-'] then (decodeSource env.stdin).map fun s => ("<stdin>".toList, s)
  else
    let path := Path.ofText template
    match env.tree.pathExists env.cwd path with
    | .error e => .error (.unreadable e)
    | .ok false => .error (.notFound path)
    | .ok true =>
      match env.tree.read env.cwd path with
      | .error _ => .error (.notFile path)
      | .ok bytes => (decodeSource bytes).map fun s => (path.toText, s)

/-- A template with its name. -/
def compileSource (env : Environment) (template : Text) : Except Failure (Text × Template) :=
  match env.readSource template with
  | .error e => .error (.source e)
  | .ok (name, s) =>
    match Template.compile s with
    | .error e => .error (.template name e)
    | .ok t => .ok (name, t)

/-! ## Rendering -/

/-- The rendered text of a request, through all stages. -/
def renderText [Host] (env : Environment) (r : RenderRequest) : Except Failure WideText := do
  let config ← (Config.load env.tree env.cwd r.config).mapError .config
  let (_, t) ← env.compileSource r.template
  let data ← (Context.assemble env.tree env.cwd config.defaults r.data r.assignments).mapError
    .context
  let formatter ← (config.formatterFor r.formatter).mapError .formatter
  (t.render ⟨formatter, r.strict.getD config.strict⟩ (.dict data)).result.mapError .render

/-- Hands over a rendered text.  A file is opened, and empty, before the text is encoded. -/
def deliver (env : Environment) (r : RenderRequest) (s : WideText) : Outcome :=
  match r.output, s.text? with
  | none, some text => env.finish r.verbose 0 (onStream text) []
  | none, none => env.escape r.verbose .encoding
  | some path, text =>
    match env.tree.save env.cwd path ((text.map Utf8.encode).getD []) with
    | ⟨tree, some e⟩ => { env.escape r.verbose (.file e) with tree := tree }
    | ⟨tree, none⟩ =>
      if text.isSome then { env.finish r.verbose 0 [] [] with tree := tree }
      else { env.escape r.verbose .encoding with tree := tree }

def render [Host] (env : Environment) (r : RenderRequest) : Outcome :=
  match env.renderText r with
  | .error f => env.fail r.verbose f
  | .ok s => env.deliver r s

/-! ## Looking at templates -/

def check (env : Environment) (template : Text) (verbose : Bool) : Outcome :=
  match env.compileSource template with
  | .error f => env.fail verbose f
  | .ok (name, t) =>
    let fields := t.fields
    let head := name ++ ": OK (".toList ++ Text.ofNat fields.length ++ " fields)\n".toList
    let lines := fields.flatMap fun expr => ' ' :: ' ' :: expr ++ ['\n']
    env.finish verbose 0 (onStream (head ++ lines)) []

def tokenColumns : List Table.Column :=
  [⟨"offset".toList, .right⟩, ⟨"kind".toList, .left⟩, ⟨"value".toList, .left⟩]

def tokenRow : Token → List Text
  | .literal s offset => [Text.ofNat offset, "literal".toList, Text.quoted s]
  | .placeholder path offset => [Text.ofNat offset, "placeholder".toList, path]

def tokens [Host] (env : Environment) (template : Text) : Outcome :=
  match env.readSource template with
  | .error e => env.fail false (.source e)
  | .ok (name, s) =>
    match tokenize s with
    | .error e => env.fail false (.template name (.syntaxError e))
    | .ok ts =>
      match Table.ofMarkup name tokenColumns (ts.map tokenRow) with
      | .error e => env.escape false (.markup e)
      | .ok shown => env.finish false 0 shown []

def versionText : Text := "stache 0.1.0\n".toList

def run [Host] (env : Environment) : Request → Outcome
  | .version => env.finish false 0 versionText []
  | .help => env.help 0
  | .render r => env.render r
  | .check template verbose => env.check template verbose
  | .tokens template => env.tokens template

/-- Runs a command line. -/
def runArgs [Host] (env : Environment) (args : List Text) : Outcome :=
  match Request.parse args with
  | .error _ => env.help 2
  | .ok request => env.run request

end Environment

end FieldTemplate.Command
