import FieldTemplate.Value.Basic

/-!
# Kinds of values and the text of a scalar

Every value has one kind; strings, booleans, numbers and dates are the scalar ones and have
a text.  Numbers are written in one way whatever their type: whole numbers as plain digits,
decimals without an exponent, other doubles in the shortest form that reads back.
-/

namespace FieldTemplate

set_option autoImplicit false

inductive ValueKind where
  | null
  | string
  | boolean
  | number
  | date
  | mapping
  | sequence
  | other
deriving DecidableEq, Repr

namespace ValueKind

def name : ValueKind → Text
  | .null => "null".toList
  | .string => "string".toList
  | .boolean => "boolean".toList
  | .number => "number".toList
  | .date => "date".toList
  | .mapping => "mapping".toList
  | .sequence => "sequence".toList
  | .other => "other".toList

def isScalar : ValueKind → Bool
  | .string | .boolean | .number | .date => true
  | _ => false

end ValueKind

def Atom.kind : Atom → ValueKind
  | .null => .null
  | .text _ => .string
  | .bool _ => .boolean
  | .int _ | .double _ | .notANumber | .decimal _ | .fraction _ => .number
  | .date _ | .timestamp _ | .time _ => .date
  | .range .. => .sequence
  | .bytes _ | .complex .. | .object => .other

def Value.kind : Value → ValueKind
  | .atom a => a.kind
  | .sequence .. => .sequence
  | .mapping .. => .mapping

end FieldTemplate
