import FieldTemplate.Text.Wide
import FieldTemplate.Yaml.Error
import FieldTemplate.Yaml.Source

/-!
# Tokens of YAML

Scalars carry their text with folding and escapes resolved; indentation shows as the start
and end of block collections.
-/

namespace FieldTemplate.Yaml

set_option autoImplicit false

/-- A tag as written: its handle, if it has one, and the rest. -/
structure TagName where
  handle : Option Text
  suffix : Text
deriving DecidableEq, Repr

inductive Directive where
  | version (major minor : Nat)
  | tag (handle start : Text)
  | other
deriving DecidableEq, Repr

inductive Token where
  | directive (d : Directive)
  | documentStart
  | documentEnd
  | streamEnd
  | blockSequenceStart
  | blockMappingStart
  | blockEnd
  | flowSequenceStart
  | flowSequenceEnd
  | flowMappingStart
  | flowMappingEnd
  | blockEntry
  | flowEntry
  | key
  | value
  | alias (name : Text)
  | anchor (name : Text)
  | tag (name : TagName)
  | scalar (text : WideText) (plain : Bool)
deriving DecidableEq, Repr

/-- What was read at a cursor, and the cursor behind it. -/
abbrev Read (α : Type) := Except YamlError (α × Cursor)

end FieldTemplate.Yaml
