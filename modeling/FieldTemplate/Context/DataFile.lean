import FieldTemplate.Files.Tree
import FieldTemplate.Json.Reader
import FieldTemplate.Render.Note
import FieldTemplate.Unicode.Lowercase
import FieldTemplate.Yaml.Value

/-!
# Data files

A data file is YAML or JSON, by the end of its name, and holds a mapping or nothing.
-/

namespace FieldTemplate

set_option autoImplicit false

inductive DataFormat where
  | yaml
  | json
deriving DecidableEq, Repr

def DataFormat.ofSuffix? (suffix : Text) : Option DataFormat :=
  if suffix = ".json".toList then some .json
  else if suffix = ".yaml".toList ∨ suffix = ".yml".toList then some .yaml
  else none

inductive DataError where
  | notFound (path : Path)
  | unreadable (e : FileError)
  | unknownFormat (suffix : Text)
  | malformed (path : Path)
  | notMapping (path : Path)
  | encoding (e : Utf8Error)
  | yaml (e : Yaml.YamlError)
  /-- JSON for which the stack has no room. -/
  | tooDeep
deriving DecidableEq, Repr

/-- What a reader has to say about a malformed file is not part of the message. -/
def DataError.message : DataError → Text
  | .notFound p => "Data file not found: ".toList ++ p.toText
  | .unreadable _ => []
  | .unknownFormat suffix =>
    "Unsupported data file type '".toList ++ suffix ++ "' (use .yaml, .yml or .json)".toList
  | .malformed p => "Failed to parse ".toList ++ p.toText
  | .notMapping p => "Data in ".toList ++ p.toText ++ " must be a mapping at the top level".toList
  | .encoding e => e.message
  | .yaml e => e.message
  | .tooDeep => Yaml.YamlError.tooDeep.message

namespace DataFile

/-- The value that the bytes of a file stand for. -/
def decode [Host] (path : Path) (format : DataFormat) (bytes : List UInt8) :
    Except DataError Value :=
  match format with
  | .json => (Json.read bytes).mapError fun
    | .malformed => .malformed path
    | .encoding e => .encoding e
    | .tooDeep => .tooDeep
  | .yaml => (Yaml.readBytes bytes).mapError fun
    | .malformed => .malformed path
    | e => .yaml e

/-- The entries of a data file. -/
def load [Host] (tree : FileTree) (cwd : Location) (path : Path) : Traced DataError Entries :=
  match tree.pathExists cwd path with
  | .error e => .ofExcept (.error (.unreadable e))
  | .ok false => .ofExcept (.error (.notFound path))
  | .ok true =>
    match tree.read cwd path with
    | .error e => .ofExcept (.error (.unreadable e))
    | .ok bytes =>
      let suffix := path.suffix.lower
      match DataFormat.ofSuffix? suffix with
      | none => .ofExcept (.error (.unknownFormat suffix))
      | some format =>
        match decode path format bytes with
        | .error e => .ofExcept (.error e)
        | .ok (.atom .null) => .ofExcept (.ok [])
        | .ok (.mapping .dict entries) =>
          .note (.loaded entries.length path.toText) (.ofExcept (.ok entries))
        | .ok _ => .ofExcept (.error (.notMapping path))

end DataFile

end FieldTemplate
