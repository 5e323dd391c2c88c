import FieldTemplate.Number.Shortest
import FieldTemplate.Value.Kind

/-!
# The text of a scalar
-/

namespace FieldTemplate

set_option autoImplicit false

/-- Why a value has no scalar text. -/
inductive ScalarError where
  | notScalar (kind : ValueKind)
  /-- An integer with more digits than are written. -/
  | integerLength
  /-- A decimal whose first digit stands beyond the greatest power of ten. -/
  | decimalOverflow
  /-- A fraction beyond the greatest double. -/
  | fractionOverflow
deriving DecidableEq, Repr

def ScalarError.message : ScalarError → Text
  | .notScalar kind => "Not a scalar kind: ".toList ++ kind.name
  | .integerLength => Text.digitLimitMessage []
  | .decimalOverflow => "[<class 'decimal.Overflow'>]".toList
  | .fractionOverflow => "integer division result too large for a float".toList

/-- Doubles of this magnitude and more keep their exponent form even if they are whole. -/
def wholeLimit : Nat := Nat.pow 10 21

def signed (negative : Bool) (s : Text) : Text := if negative then '-' :: s else s

namespace Binary64

/-- A whole double is written as an integer, with a sign for a negative zero. -/
def scalarText : Binary64 → Text
  | .nan => "NaN".toList
  | .infinite s => if s then "-Inf".toList else "+Inf".toList
  | .finite s m e =>
    match whole? m e with
    | some n => if n < wholeLimit then signed s (Text.ofNat n) else toText (.finite s m e)
    | none => toText (.finite s m e)

end Binary64

namespace Decimal

def scalarText : Decimal → Except ScalarError Text
  | .nan .. => .ok "NaN".toList
  | .infinite s => .ok (if s then "-Inf".toList else "+Inf".toList)
  | .finite s c e =>
    match reduce? c e with
    | some (c, e) => .ok (signed s (plain c e))
    | none => .error .decimalOverflow

end Decimal

namespace Fraction

def scalarText (q : Fraction) : Except ScalarError Text :=
  match Binary64.ofRatio (q.num < 0) q.num.natAbs q.den with
  | .infinite _ => .error .fractionOverflow
  | x => .ok x.scalarText

end Fraction

def integerText (n : Int) : Except ScalarError Text :=
  match Text.ofInt? n with
  | some s => .ok s
  | none => .error .integerLength

/-- The text of an atom of scalar kind. -/
def Atom.scalarText : Atom → Except ScalarError WideText
  | .text s => .ok s
  | .bool b => .ok (Text.wide (if b then "true".toList else "false".toList))
  | .int n => (integerText n).map Text.wide
  | .double x => .ok x.scalarText.wide
  | .notANumber => .ok Binary64.nan.scalarText.wide
  | .decimal x => x.scalarText.map Text.wide
  | .fraction q => q.scalarText.map Text.wide
  | .date d => .ok d.toText.wide
  | .timestamp t => .ok t.toText.wide
  | .time t => .ok t.toText.wide
  | a => .error (.notScalar a.kind)

def Value.scalarText : Value → Except ScalarError WideText
  | .atom a => a.scalarText
  | v => .error (.notScalar v.kind)

end FieldTemplate
