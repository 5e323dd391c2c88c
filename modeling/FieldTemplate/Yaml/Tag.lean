import FieldTemplate.Number.Reader
import FieldTemplate.Value.Moment

/-!
# Tags, and what a plain scalar stands for

YAML 1.1 reads the type of a plain scalar off its characters.  `Tag.ofPlain` is that rule;
the patterns it asks for are spelled out here one by one.  A newline at the end does not
count: a plain scalar never has one, but a quoted one that is read in the same way may.
-/

namespace FieldTemplate.Yaml

set_option autoImplicit false

/-- The types that have a value, the two marks of special keys, and all other tags. -/
inductive Tag where
  | null
  | bool
  | int
  | float
  | timestamp
  | binary
  | str
  | seq
  | map
  | set
  | orderedMap
  | pairs
  | merge
  | default
  | unknown
deriving DecidableEq, Repr

def coreStart : Text := "tag:yaml.org,2002:".toList

namespace Tag

/-- The tag of a name in the core namespace. -/
def ofCoreName (name : Text) : Tag :=
  match String.ofList name with
  | "null" => .null
  | "bool" => .bool
  | "int" => .int
  | "float" => .float
  | "timestamp" => .timestamp
  | "binary" => .binary
  | "str" => .str
  | "seq" => .seq
  | "map" => .map
  | "set" => .set
  | "omap" => .orderedMap
  | "pairs" => .pairs
  | "merge" => .merge
  | "value" => .default
  | _ => .unknown

def ofText (t : Text) : Tag :=
  match Text.dropStart? coreStart t with
  | some name => ofCoreName name
  | none => .unknown

end Tag

namespace Plain

/-! ## Numbers -/

def isDigitOrGap (c : Char) : Bool := Text.isDigit c || c == '_'

def unsigned : Text → Text
  | '+' :: rest => rest
  | '-' :: rest => rest
  | s => s

/-- A nonempty text of the given characters. -/
def allOf (isIn : Char → Bool) (s : Text) : Bool := !s.isEmpty && s.all isIn

/-- Digits with gaps that start with a digit. -/
def startsWithDigit : Text → Bool
  | c :: rest => Text.isDigit c && rest.all isDigitOrGap
  | [] => false

/-- A part of a base-sixty number after its first one. -/
def isSixtieth : Text → Bool
  | [d] => Text.isDigit d
  | [t, d] => '0' ≤ t && t ≤ '5' && Text.isDigit d
  | _ => false

def isInt (s : Text) : Bool :=
  let s := unsigned s
  match s with
  | '0' :: 'b' :: rest => allOf (fun c => c == '0' || c == '1' || c == '_') rest
  | '0' :: 'x' :: rest => allOf (fun c => Text.isHexDigit c || c == '_') rest
  | '0' :: rest => rest.all fun c => ('0' ≤ c && c ≤ '7') || c == '_'
  | _ =>
    match Text.splitOn ':' s with
    | first :: parts => startsWithDigit first && parts.all isSixtieth
    | [] => false

/-- An exponent, whose sign is required, or nothing. -/
def isExponent : Text → Bool
  | [] => true
  | e :: sign :: ds =>
    (e == 'e' || e == 'E') && (sign == '+' || sign == '-') && allOf Text.isDigit ds
  | _ => false

def isInfinity (s : Text) : Bool :=
  s == ".inf".toList || s == ".Inf".toList || s == ".INF".toList

def isNotANumber (s : Text) : Bool :=
  s == ".nan".toList || s == ".NaN".toList || s == ".NAN".toList

def isFloat (s : Text) : Bool :=
  let t := unsigned s
  isInfinity t || isNotANumber s ||
    match Text.cutAt '.' t with
    | none => false
    | some (before, after) =>
      let exponent := after.dropWhile isDigitOrGap
      if before.isEmpty then
        t.length == s.length && startsWithDigit (after.takeWhile isDigitOrGap) &&
          isExponent exponent
      else match Text.splitOn ':' before with
        | first :: parts =>
          startsWithDigit first && parts.all isSixtieth &&
            (if parts.isEmpty then isExponent exponent else exponent.isEmpty)
        | [] => false

/-! ## Timestamps -/

/-- The written fields of a timestamp; without `clock` it is a date.  `padded` says that month
and day have two digits each. -/
structure Clock where
  hour : Nat
  minute : Nat
  second : Nat
  fraction : Text
  offset : Option Int

structure Stamp where
  year : Nat
  month : Nat
  day : Nat
  padded : Bool
  clock : Option Clock

/-- Between `least` and `most` digits, as many as there are. -/
def digits? (least most : Nat) (s : Text) : Option (Text × Text) :=
  let ds := (s.take most).takeWhile Text.isDigit
  if least ≤ ds.length then some (ds, s.drop ds.length) else none

def mark? (c : Char) : Text → Option Text
  | d :: rest => if c = d then some rest else none
  | [] => none

/-- The offset from UTC at the end of a timestamp: none, `Z`, or hours and minutes. -/
def offset? (s : Text) : Option (Option Int) :=
  match s with
  | [] => some none
  | _ =>
    match s.dropWhile fun c => c == ' ' || c == '\t' with
    | ['Z'] => some (some 0)
    | c :: rest =>
      if c = '+' ∨ c = '-' then do
        let (hours, rest) ← digits? 1 2 rest
        let minutes ← match rest with
          | [] => some []
          | ':' :: rest => do
            let (ms, rest) ← digits? 2 2 rest
            if rest.isEmpty then some ms else none
          | _ => none
        let seconds : Int := Text.toNat hours * 3600 + Text.toNat minutes * 60
        return some (if c = '-' then -seconds else seconds)
      else none
    | [] => none

def clock? (s : Text) : Option Clock := do
  let (hour, s) ← digits? 1 2 s
  let s ← mark? ':' s
  let (minute, s) ← digits? 2 2 s
  let s ← mark? ':' s
  let (second, s) ← digits? 2 2 s
  let (fraction, s) := match s with
    | '.' :: rest => Text.spanDigits rest
    | s => ([], s)
  let offset ← offset? s
  return ⟨Text.toNat hour, Text.toNat minute, Text.toNat second, fraction, offset⟩

def stamp? (s : Text) : Option Stamp := do
  let (year, s) ← digits? 4 4 s
  let s ← mark? '-' s
  let (month, s) ← digits? 1 2 s
  let s ← mark? '-' s
  let (day, s) ← digits? 1 2 s
  let padded := month.length == 2 && day.length == 2
  let date (clock : Option Clock) : Stamp :=
    ⟨Text.toNat year, Text.toNat month, Text.toNat day, padded, clock⟩
  match s with
  | [] => return date none
  | c :: rest =>
    if c = 'T' ∨ c = 't' then return date (some (← clock? rest))
    else if c = ' ' ∨ c = '\t' then
      return date (some (← clock? (rest.dropWhile fun d => d == ' ' || d == '\t')))
    else none

/-- A date alone is only recognised with two digits for month and day. -/
def isTimestamp (s : Text) : Bool :=
  match stamp? s with
  | some stamp => stamp.clock.isSome || stamp.padded
  | none => false

/-! ## Words -/

def isNull (s : Text) : Bool :=
  s == [] || s == ['~'] || s == "null".toList || s == "Null".toList || s == "NULL".toList

def trueWords : List Text :=
  ["yes", "Yes", "YES", "true", "True", "TRUE", "on", "On", "ON"].map String.toList

def falseWords : List Text :=
  ["no", "No", "NO", "false", "False", "FALSE", "off", "Off", "OFF"].map String.toList

/-- A text without the newline at its end; a newline alone stays. -/
def withoutNewline (s : Text) : Text :=
  match s.reverse with
  | '\n' :: c :: rest => (c :: rest).reverse
  | _ => s

end Plain

/-- The type of a plain scalar. -/
def Tag.ofPlain (s : Text) : Tag :=
  let s := Plain.withoutNewline s
  if Plain.trueWords.contains s || Plain.falseWords.contains s then .bool
  else if Plain.isFloat s then .float
  else if Plain.isInt s then .int
  else if s == ['<', '<'] then .merge
  else if Plain.isNull s then .null
  else if Plain.isTimestamp s then .timestamp
  else if s == ['='] then .default
  else if s == ['!'] || s == ['&'] || s == ['*'] then .unknown
  else .str

end FieldTemplate.Yaml
