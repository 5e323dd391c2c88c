import FieldTemplate.Context.Merge
import FieldTemplate.Yaml.Value

/-!
# Assignments

`a.b=value` stands for the mapping that holds `value` under `a` and `b`.  The value is read
as YAML; what is not YAML is taken as text, and a blank value is the empty text.
-/

namespace FieldTemplate

set_option autoImplicit false

inductive AssignmentError where
  /-- No equals sign, or nothing in front of it. -/
  | shape (assignment : Text)
  /-- A key with an empty part. -/
  | key (key : Text)
  /-- A value that the YAML grammar lets through and that has no value. -/
  | value (e : Yaml.YamlError)
deriving DecidableEq, Repr

def AssignmentError.message : AssignmentError → Text
  | .shape s => "Invalid --set value '".toList ++ s ++ "' (expected KEY=VALUE)".toList
  | .key k => "Invalid --set key '".toList ++ k ++ ['\'']
  | .value e => e.message

namespace Assignment

/-- The value that a text stands for. -/
def readValue [Host] (raw : Text) : Except Yaml.YamlError Value :=
  if Text.allBlank raw then .ok (.text [])
  else match Yaml.readText raw with
    | .error .malformed => .ok (.text raw.wide)
    | result => result

/-- A value under a path of keys. -/
def nest (value : Value) : List Text → Value
  | [] => value
  | part :: rest => .dict [(.text part.wide, nest value rest)]

/-- The dictionary of one entry that an assignment stands for. -/
def parse [Host] (assignment : Text) : Except AssignmentError Entries :=
  match Text.cutAt '=' assignment with
  | none => .error (.shape assignment)
  | some (before, raw) =>
    let key := Text.trim before
    if key = [] then .error (.shape assignment)
    else match Text.splitOn '.' key with
      | [] => .error (.key key)
      | part :: parts =>
        if (part :: parts).any List.isEmpty then .error (.key key)
        else match readValue raw with
          | .error e => .error (.value e)
          | .ok v => .ok [(.text part.wide, nest v parts)]

end Assignment

end FieldTemplate
