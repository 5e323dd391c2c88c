import FieldTemplate.Unicode.Lowercase
import FieldTemplate.Value.Basic
import FieldTemplate.Yaml.Error
import FieldTemplate.Yaml.Tag

/-!
# The values of scalars

`Scalar.value` reads the text of a scalar by its tag.  A text that its tag lets through and
that has no value is a fault of its own kind.
-/

namespace FieldTemplate.Yaml

set_option autoImplicit false

namespace Scalar

def withoutGaps (s : Text) : Text := s.filter (· ≠ '_')

/-- A nonempty text split into its sign and the rest. -/
def cutSign (s : Text) : Except YamlError (Bool × Text) :=
  if s.isEmpty then .error .emptyNumber else .ok (Text.cutSign s)

def digitValue (c : Char) : Nat :=
  if 'a' ≤ c ∧ c ≤ 'z' then c.toNat - 'a'.toNat + 10
  else if 'A' ≤ c ∧ c ≤ 'Z' then c.toNat - 'A'.toNat + 10
  else if Text.isDigit c then c.toNat - '0'.toNat
  else 99

/-- The letter of the mark that may stand in front of digits of a base. -/
def baseLetter : Nat → Option Char
  | 2 => some 'b'
  | 8 => some 'o'
  | 16 => some 'x'
  | _ => none

/-- Digits without the mark of their base. -/
def withoutMark (base : Nat) (s : Text) : Text :=
  match s with
  | '0' :: c :: rest => if baseLetter base = some c.toLower then rest else s
  | _ => s

/-- The digits in front of a text, if there are more than are read in base ten.  Other bases have
no limit. -/
def tooLong? (base : Nat) (s : Text) : Option Nat :=
  let digits := (s.takeWhile Text.isDigit).length
  if base = 10 ∧ Text.digitLimit < digits then some digits else none

/-- An integer in the given base; spaces around it and a sign are allowed. -/
def integer (base : Nat) (s : Text) : Except YamlError Int :=
  let (negative, body) := Text.cutSign (Text.numeral s)
  let ds := withoutMark base body
  if let some digits := tooLong? base ds then .error (.integerLength digits)
  else if !ds.isEmpty && ds.all fun c => digitValue c < base then
    let n : Int := ds.foldl (fun n c => base * n + digitValue c) 0
    .ok (if negative then -n else n)
  else .error (.integer base s.wide)

/-- Integers in base sixty, most significant first. -/
def sixtieths (parts : List Text) : Except YamlError Int := do
  let ds ← parts.mapM (integer 10)
  return ds.foldl (fun n d => 60 * n + d) 0

/-- An integer in the notations of YAML 1.1. -/
def int (s : Text) : Except YamlError Int := do
  let (negative, s) ← cutSign (withoutGaps s)
  let n ← match s with
    | [] => .error .emptyNumber
    | ['0'] => pure 0
    | '0' :: 'b' :: rest => integer 2 rest
    | '0' :: 'x' :: rest => integer 16 rest
    | '0' :: _ => integer 8 s
    | _ => if s.contains ':' then sixtieths (Text.splitOn ':' s) else integer 10 s
  return if negative then -n else n

def decimalFloat (s : Text) : Except YamlError Binary64 :=
  match Binary64.read? s with
  | some x => .ok x
  | none => .error (.float s.wide)

/-- The sum of digits in base sixty, least significant first, each step rounded. -/
def sixtiethSum (sum : Binary64) (weight : Nat) : List Binary64 → Except YamlError Binary64
  | [] => .ok sum
  | d :: rest =>
    match Binary64.ofInt weight with
    | .infinite _ => .error .weightOverflow
    | w => sixtiethSum (sum.add (d.mul w)) (weight * 60) rest

/-- A double in the notations of YAML 1.1. -/
def float (s : Text) : Except YamlError Atom := do
  let (negative, s) ← cutSign (withoutGaps s).lower
  if s = ".inf".toList then return .double (.infinite negative)
  if s = ".nan".toList then return .notANumber
  let x ← if s.contains ':' then do
      let ds ← (Text.splitOn ':' s).mapM decimalFloat
      sixtiethSum .zero 1 ds.reverse
    else decimalFloat s
  return .double (if negative then x.neg else x)

def boolean (s : Text) : Except YamlError Bool :=
  let word := s.lower
  if Plain.trueWords.contains word then .ok true
  else if Plain.falseWords.contains word then .ok false
  else .error (.boolean word.wide)

/-- The first six digits of a fraction, as microseconds. -/
def micros (fraction : Text) : Nat := Text.toNat (Text.padRight 6 '0' (fraction.take 6))

def timestamp (s : Text) : Except YamlError Atom :=
  match Plain.stamp? (Plain.withoutNewline s) with
  | none => .error .timestamp
  | some stamp => (do
    match stamp.clock with
    | none => return .date (← Date.of? stamp.year stamp.month stamp.day)
    | some clock =>
      let offset ← match clock.offset with
        | none => pure none
        | some seconds => (TimeOfDay.checkOffset seconds).map some
      let date ← Date.of? stamp.year stamp.month stamp.day
      let time ← TimeOfDay.of? clock.hour clock.minute clock.second (micros clock.fraction) offset
      return .timestamp ⟨date, time⟩ : Except MomentError Atom).mapError .moment

/-- The six bits of a base64 character. -/
def sixBits? (c : Char) : Option Nat :=
  if 'A' ≤ c ∧ c ≤ 'Z' then some (c.toNat - 'A'.toNat)
  else if 'a' ≤ c ∧ c ≤ 'z' then some (c.toNat - 'a'.toNat + 26)
  else if Text.isDigit c then some (c.toNat - '0'.toNat + 52)
  else if c = '+' then some 62
  else if c = '/' then some 63
  else none

/-- The bytes of a base64 text.  `filled` characters of a group of four have been read, with
`bits` left over from them; other characters are passed over, and padding ends the text. -/
def base64 (filled bits pads : Nat) : Text → Option (List UInt8)
  | [] => if filled = 0 then some [] else none
  | c :: rest =>
    if c = '=' then
      if 2 ≤ filled ∧ 4 ≤ filled + pads + 1 then some [] else
        base64 filled bits (if 2 ≤ filled then pads + 1 else pads) rest
    else match sixBits? c with
      | none => base64 filled bits pads rest
      | some n =>
        match filled with
        | 0 => base64 1 n 0 rest
        | 1 => (base64 2 (n % 16) 0 rest).map ((bits * 4 + n / 16).toUInt8 :: ·)
        | 2 => (base64 3 (n % 4) 0 rest).map ((bits * 16 + n / 4).toUInt8 :: ·)
        | _ => (base64 0 0 0 rest).map ((bits * 64 + n).toUInt8 :: ·)

def binary (s : Text) : Except YamlError (List UInt8) :=
  if s.all fun c => c.toNat < 128 then
    match base64 0 0 0 s with
    | some bs => .ok bs
    | none => .error .malformed
  else .error .malformed

/-- Reads a text that may have surrogates. -/
def reading {α : Type} (read : Text → Except YamlError α) (s : WideText) : Except YamlError α :=
  match s.text? with
  | some t => read t
  | none =>
    let (block, t) := s.withStandIns
    (read t).mapError (·.restore block)

/-- The value of a scalar by its tag; collections have none. -/
def value (tag : Tag) (s : WideText) : Except YamlError Atom :=
  match tag with
  | .null => .ok .null
  | .bool => (reading boolean s).map .bool
  | .int => (reading int s).map .int
  | .float => reading float s
  | .timestamp => reading timestamp s
  | .binary => (reading binary s).map .bytes
  | .str => .ok (.text s)
  | _ => .error .malformed

end Scalar

end FieldTemplate.Yaml
