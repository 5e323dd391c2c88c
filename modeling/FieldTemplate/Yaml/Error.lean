import FieldTemplate.Text.Quoted
import FieldTemplate.Text.StandIn
import FieldTemplate.Value.Moment

/-!
# Faults of a YAML text

A text may break the grammar or use a tag that is not known; all such faults are one.  The
others are faults of a scalar that the grammar lets through and that has no value, and those of a
document that is too deep.
-/

namespace FieldTemplate.Yaml

set_option autoImplicit false

inductive YamlError where
  | malformed
  /-- An escape for a code point beyond the last one. -/
  | codePoint
  /-- An escape for a number beyond 31 bits. -/
  | codeOverflow
  | moment (e : MomentError)
  | integer (base : Nat) (digits : WideText)
  /-- More digits than are read in base ten. -/
  | integerLength (digits : Nat)
  | float (digits : WideText)
  /-- A place in base sixty whose weight is beyond the greatest double. -/
  | weightOverflow
  /-- A number without any character. -/
  | emptyNumber
  | boolean (word : WideText)
  | timestamp
  /-- A mapping with a default value where a timestamp is expected. -/
  | timestampMapping
  /-- A scalar that is defined by itself. -/
  | endless
  /-- A recursion for which the stack has no room. -/
  | tooDeep
deriving DecidableEq, Repr

/-- A fault with the surrogates in the place of their stand-ins. -/
def YamlError.restore (block : Nat) : YamlError → YamlError
  | .integer base digits => .integer base (StandIn.restore block digits)
  | .float digits => .float (StandIn.restore block digits)
  | .boolean word => .boolean (StandIn.restore block word)
  | e => e

/-- So much of the digits of an integer is shown. -/
def quotedLimit : Nat := 200

/-- Nothing is said of a text that is malformed. -/
def YamlError.message : YamlError → Text
  | .malformed => []
  | .codePoint => "chr() arg not in range(0x110000)".toList
  | .codeOverflow => "Python int too large to convert to C int".toList
  | .moment e => e.message
  | .integer base digits =>
    "invalid literal for int() with base ".toList ++ Text.ofNat base ++ [':', ' '] ++
      digits.quoted.take quotedLimit
  | .integerLength digits =>
    Text.digitLimitMessage (": value has ".toList ++ Text.ofNat digits ++ " digits".toList)
  | .float digits => "could not convert string to float: ".toList ++ digits.quoted
  | .weightOverflow => "int too large to convert to float".toList
  | .emptyNumber => "string index out of range".toList
  | .boolean word => word.quoted
  | .timestamp => "'NoneType' object has no attribute 'groupdict'".toList
  | .timestampMapping => "expected string or bytes-like object, got 'list'".toList
  | .endless | .tooDeep => "maximum recursion depth exceeded".toList

end FieldTemplate.Yaml
