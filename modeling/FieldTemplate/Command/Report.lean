import FieldTemplate.Config.File
import FieldTemplate.Context.Layers
import FieldTemplate.Render.Compile

/-!
# Reports of failures

Every reason for which a command gives up is a `Failure`, and its report is what the command
writes to the error stream.  Faults that the user can mend are told, all others are unexpected.

Where the wording is a reader's own the report is cut in front of it.  This is so behind
`Unexpected error` and behind `Failed to parse` with its path; what is left out there are the words
of the reader or of the interpreter, and the place in the file with the file's location.  So two
error streams that are equal here are equal up to these words.
-/

namespace FieldTemplate.Command

set_option autoImplicit false

/-- A template that cannot be read. -/
inductive SourceError where
  | notFound (path : Path)
  | notFile (path : Path)
  | unreadable (e : FileError)
  | encoding (e : Utf8Error)
deriving DecidableEq, Repr

def SourceError.message : SourceError → Text
  | .notFound p => "Template not found: ".toList ++ p.toText
  | .notFile p => "Template is not a file: ".toList ++ p.toText
  | .unreadable _ => []
  | .encoding e => e.message

inductive Failure where
  | config (e : ConfigError)
  | source (e : SourceError)
  | template (name : Text) (e : TemplateError)
  | context (e : ContextError)
  | formatter (e : UnknownFormatter)
  | render (e : RenderError)
deriving DecidableEq, Repr

/-! ## Terminal sequences -/

def isSequenceBody (c : Char) : Bool := c == ';' || c == '?' || Text.isDigit c

def isSequenceEnd (c : Char) : Bool := ('a' ≤ c && c ≤ 'z') || ('A' ≤ c && c ≤ 'Z')

/-- What follows a control sequence after its escape character, if there is one. -/
def afterSequence? : Text → Option Text
  | '[' :: rest =>
    match rest.dropWhile isSequenceBody with
    | c :: after => if isSequenceEnd c then some after else none
    | [] => none
  | _ => none

/-- A text without the control sequences that set colours and the like. -/
def withoutSequences : Nat → Text → Text
  | 0, s => s
  | _ + 1, [] => []
  | fuel + 1, c :: rest =>
    if c = '\x1B' then
      match afterSequence? rest with
      | some after => withoutSequences fuel after
      | none => c :: withoutSequences fuel rest
    else c :: withoutSequences fuel rest

/-- A text as it arrives on a stream that is no terminal. -/
def onStream (s : Text) : Text := withoutSequences s.length s

/-! ## Reports -/

inductive Report where
  | told (message : Text)
  /-- A reader's own words would follow. -/
  | toldInPart (message : Text)
  | unexpected
deriving DecidableEq, Repr

def Report.text : Report → Text
  | .told message => onStream ("Error: ".toList ++ message) ++ ['\n']
  | .toldInPart message => onStream ("Error: ".toList ++ message)
  | .unexpected => "Unexpected error".toList

/-- Scalars without a value are told of, as long as it is the value that is wrong. -/
def yamlReport : Yaml.YamlError → Report
  | .malformed => .unexpected
  | .emptyNumber | .boolean _ | .timestamp | .timestampMapping | .codeOverflow
  | .weightOverflow | .endless | .tooDeep =>
    .unexpected
  | e => .told e.message

def dataReport : DataError → Report
  | .unreadable _ | .tooDeep => .unexpected
  | .yaml e => yamlReport e
  | .malformed p => .toldInPart (DataError.malformed p).message
  | e => .told e.message

def contextReport : ContextError → Report
  | .data e => dataReport e
  | .assignment (.value e) => yamlReport e
  | .assignment e => .told e.message
  | .tooDeep => .unexpected

def configReport : ConfigError → Report
  | .unreadable _ => .unexpected
  | .yaml e => yamlReport e
  | .invalid issues => .told ("Invalid configuration: ".toList ++ invalidMessage issues)
  | e => .told e.message

def templateReport (name : Text) : TemplateError → Report
  | .syntaxError e =>
    let p := e.place.getD ⟨0, 0⟩
    .told (name ++ ':' :: Text.ofNat p.line ++ ':' :: Text.ofNat p.column ++
      [':', ' '] ++ e.message)
  | .path e => .told e.message

def sourceReport : SourceError → Report
  | .unreadable _ => .unexpected
  | e => .told e.message

def renderReport : RenderError → Report
  | .scalar (.notScalar kind) => .told (ScalarError.notScalar kind).message
  | .scalar .integerLength => .told ScalarError.integerLength.message
  | .scalar _ => .unexpected
  | e => .told e.message

def Failure.report : Failure → Report
  | .config e => configReport e
  | .source e => sourceReport e
  | .template name e => templateReport name e
  | .context e => contextReport e
  | .formatter e => .told e.message
  | .render e => renderReport e

end FieldTemplate.Command
