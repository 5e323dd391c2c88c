import FieldTemplate.Config.Basic
import FieldTemplate.Files.Tree
import FieldTemplate.Yaml.Value

/-!
# Configuration files

Without a path the nearest file of the fixed name is taken, from the working directory
upwards; without any file the usual configuration.  An empty file, and any other content
that counts as nothing, is a configuration without fields.
-/

namespace FieldTemplate

set_option autoImplicit false

inductive ConfigError where
  | notFound (path : Path)
  | unreadable (e : FileError)
  | encoding (e : Utf8Error)
  | yaml (e : Yaml.YamlError)
  | invalid (issues : List Config.Issue)
deriving DecidableEq, Repr

/-- The summary line of a list of issues; their wording is not part of it. -/
def invalidMessage (issues : List Config.Issue) : Text :=
  Text.ofNat issues.length ++
    (if issues.length = 1 then " validation error for StacheConfig".toList
      else " validation errors for StacheConfig".toList)

def ConfigError.message : ConfigError → Text
  | .notFound p => "Config file not found: ".toList ++ p.toText
  | .unreadable _ => []
  | .encoding e => e.message
  | .yaml e => e.message
  | .invalid issues => invalidMessage issues

namespace Config

def fileName : Text := "stache.yaml".toList

/-- The nearest configuration file, looked for in a directory and then in those around it. -/
def findUpward (tree : FileTree) : Nat → Location → Option Location
  | 0, _ => none
  | fuel + 1, dir =>
    let candidate := dir ++ [fileName]
    if (tree.file? candidate).isSome || tree.isDir candidate then some candidate
    else if dir.isEmpty then none
    else findUpward tree fuel dir.dropLast

def find (tree : FileTree) (cwd : Location) : Option Location :=
  findUpward tree (cwd.length + 1) cwd

/-- Values that count as nothing. -/
def isNothing : Value → Bool
  | .atom .null => true
  | .atom (.bool b) => !b
  | .atom (.int n) => n == 0
  | .atom (.double (.finite _ m _)) => m == 0
  | .atom (.text s) => s.isEmpty
  | .atom (.bytes bs) => bs.isEmpty
  | .sequence _ items => items.isEmpty
  | .mapping _ entries => entries.isEmpty
  | _ => false

/-- The fault of a file with bytes that cannot be taken.  They are decoded block by block and read
meanwhile, so a fault in front of the block with these bytes may be met before the one of their
own. -/
def streamFault [Host] (bytes : List UInt8) (own : ConfigError) : ConfigError :=
  match (Utf8.decode (bytes.take (Host.blockStart bytes))).map Yaml.document with
  | .ok (.error fault) => if Host.faultFirst bytes then .yaml fault else own
  | _ => own

/-- Bytes that are no text have their position counted from the start of the block; an unfinished
character at the end is looked at alone. -/
def inBlock [Host] (bytes : List UInt8) (e : Utf8Error) : Utf8Error :=
  { e with position := if e.fault = .truncated then 0 else e.position - Host.blockStart bytes }

/-- The configuration in the bytes of a file. -/
def decode [Host] (bytes : List UInt8) : Except ConfigError Config :=
  match Utf8.decode bytes with
  | .error e => .error (streamFault bytes (.encoding (inBlock bytes e)))
  | .ok s =>
    if s.all Yaml.isPrintable then
      match Yaml.readText s with
      | .error e => .error (.yaml e)
      | .ok v => (read (if isNothing v then .dict [] else v)).mapError .invalid
    else .error (streamFault bytes (.yaml .malformed))

def loadAt [Host] (tree : FileTree) (cwd : Location) (path : Path) : Except ConfigError Config :=
  match tree.read cwd path with
  | .error e => .error (.unreadable e)
  | .ok bytes => decode bytes

/-- The configuration of a path, or of the nearest file. -/
def load [Host] (tree : FileTree) (cwd : Location) (path : Option Path) :
    Except ConfigError Config :=
  match path with
  | some p =>
    match tree.pathExists cwd p with
    | .error e => .error (.unreadable e)
    | .ok false => .error (.notFound p)
    | .ok true => loadAt tree cwd p
  | none =>
    match find tree cwd with
    | none => .ok usual
    | some location => loadAt tree [] ⟨[], location⟩

end Config

end FieldTemplate
