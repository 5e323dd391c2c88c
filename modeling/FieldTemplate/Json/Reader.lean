import FieldTemplate.Host
import FieldTemplate.Number.Reader
import FieldTemplate.Text.Utf8
import FieldTemplate.Value.Entries

/-!
# Reading JSON

RFC 8259 without leniency: no comments, no trailing commas, no byte order mark, no control
characters in strings, no lone surrogates, no double beyond the greatest one and no integer of
more characters than the limit for digits.  All other integers are exact.  A name that occurs twice
keeps its place and its last value.  Strings are bytes until their end is found, so a fault in their
encoding is placed within the string.
-/

namespace FieldTemplate.Json

set_option autoImplicit false

inductive JsonError where
  | malformed
  | encoding (e : Utf8Error)
  /-- Arrays and objects for which the stack has no room. -/
  | tooDeep
deriving DecidableEq, Repr

/-- What has been read and the bytes after it. -/
abbrev Read (α : Type) := Except JsonError (α × List UInt8)

def isSpace (b : UInt8) : Bool := b == 0x20 || b == 0x09 || b == 0x0A || b == 0x0D

def skipSpace (bs : List UInt8) : List UInt8 := bs.dropWhile isSpace

def byte (c : Char) : UInt8 := c.toNat.toUInt8

def bytesOf (s : String) : List UInt8 := s.toList.map byte

/-! ## Strings -/

/-- The four hexadecimal digits of an escaped code unit. -/
def codeUnit? : List UInt8 → Option (Nat × List UInt8)
  | a :: b :: c :: d :: rest =>
    let ds := [a, b, c, d].map fun x => Char.ofNat x.toNat
    if ds.all Text.isHexDigit then
      some (ds.foldl (fun n x => 16 * n + Text.hexValue x) 0, rest)
    else none
  | _ => none

/-- A code point escaped as one code unit or as a pair of surrogates. -/
def codePoint? (bs : List UInt8) : Option (Nat × List UInt8) :=
  match codeUnit? bs with
  | none => none
  | some (u, rest) =>
    if 0xDC00 ≤ u ∧ u ≤ 0xDFFF then none
    else if 0xD800 ≤ u ∧ u ≤ 0xDBFF then
      match rest with
      | b :: c :: rest =>
        if b = byte '\\' ∧ c = byte 'u' then
          match codeUnit? rest with
          | some (v, rest) =>
            if 0xDC00 ≤ v ∧ v ≤ 0xDFFF then
              some (0x10000 + (u - 0xD800) * 0x400 + (v - 0xDC00), rest)
            else none
          | none => none
        else none
      | _ => none
    else some (u, rest)

/-- The bytes of a string after its opening quote, with escapes resolved; latest byte first in
`done`. -/
def stringBytes : Nat → List UInt8 → List UInt8 → Option (List UInt8 × List UInt8)
  | 0, _, _ => none
  | _ + 1, _, [] => none
  | fuel + 1, done, b :: rest =>
    if b = byte '"' then some (done.reverse, rest)
    else if b < 0x20 then none
    else if b ≠ byte '\\' then stringBytes fuel (b :: done) rest
    else match rest with
      | [] => none
      | c :: rest =>
        let plain (x : UInt8) := stringBytes fuel (x :: done) rest
        if c = byte '"' ∨ c = byte '\\' ∨ c = byte '/' then plain c
        else if c = byte 'b' then plain 0x08
        else if c = byte 'f' then plain 0x0C
        else if c = byte 'n' then plain 0x0A
        else if c = byte 'r' then plain 0x0D
        else if c = byte 't' then plain 0x09
        else if c = byte 'u' then
          match codePoint? rest with
          | some (n, rest) =>
            stringBytes fuel ((Utf8.encode [Char.ofNat n]).reverse ++ done) rest
          | none => none
        else none

/-- A string after its opening quote. -/
def string (bs : List UInt8) : Read Text :=
  match stringBytes (bs.length + 1) [] bs with
  | none => .error .malformed
  | some (content, rest) =>
    match Utf8.decode content with
    | .error e => .error (.encoding e)
    | .ok s => .ok (s, rest)

/-! ## Numbers -/

def isDigitByte (b : UInt8) : Bool := byte '0' ≤ b && b ≤ byte '9'

def digits (bs : List UInt8) : Text × List UInt8 :=
  ((bs.takeWhile isDigitByte).map fun b => Char.ofNat b.toNat, bs.dropWhile isDigitByte)

/-- A fraction, if a point follows: its digits, of which there is at least one. -/
def fraction (bs : List UInt8) : Option (Option Text × List UInt8) :=
  match bs with
  | b :: rest =>
    if b = byte '.' then
      let (ds, rest) := digits rest
      if ds.isEmpty then none else some (some ds, rest)
    else some (none, bs)
  | [] => some (none, [])

/-- An exponent, if one follows. -/
def exponent (bs : List UInt8) : Option (Option Int × List UInt8) :=
  match bs with
  | b :: rest =>
    if b = byte 'e' ∨ b = byte 'E' then
      let (negative, rest) := match rest with
        | c :: r => if c = byte '-' then (true, r) else if c = byte '+' then (false, r)
          else (false, c :: r)
        | [] => (false, [])
      let (ds, rest) := digits rest
      if ds.isEmpty then none
      else
        let k : Int := Text.toNat ds
        some (some (if negative then -k else k), rest)
    else some (none, bs)
  | [] => some (none, [])

/-- An integer, or a double if there is a point or an exponent. -/
def number (bs : List UInt8) : Read Atom :=
  let (negative, bs) := match bs with
    | b :: rest => if b = byte '-' then (true, rest) else (false, b :: rest)
    | [] => (false, [])
  let (whole, rest) := digits bs
  if whole.isEmpty || (whole.length > 1 && whole.head? == some '0') then .error .malformed
  else match fraction rest with
    | none => .error .malformed
    | some (places, rest) =>
      match exponent rest with
      | none => .error .malformed
      | some (power, rest) =>
        match places, power with
        | none, none =>
          if Text.digitLimit < whole.length + negative.toNat then .error .malformed
          else
            let n : Int := Text.toNat whole
            .ok (.int (if negative then -n else n), rest)
        | _, _ =>
          let after := places.getD []
          match Binary64.ofDecimal negative (Text.toNat (whole ++ after))
              (power.getD 0 - after.length) with
          | .infinite _ => .error .malformed
          | x => .ok (.double x, rest)

/-! ## Values -/

/-- Reads a fixed word. -/
def word (w : String) (a : Atom) (bs : List UInt8) : Read Value :=
  let expected := bytesOf w
  if expected.isPrefixOf bs then .ok (.atom a, bs.drop expected.length) else .error .malformed

section

variable [Host]

mutual

/-- A value at the start of the text, inside of `level` arrays and objects. -/
def value (level : Nat) : Nat → List UInt8 → Read Value
  | 0, _ => .error .malformed
  | fuel + 1, bs =>
    match skipSpace bs with
    | [] => .error .malformed
    | b :: rest =>
      if b = byte '\x7b' then
        if !Host.room .json level then .error .tooDeep
        else match skipSpace rest with
        | c :: after =>
          if c = byte '\x7d' then .ok (.dict [], after)
          else (members (level + 1) fuel [] (c :: after)).map fun (es, rest) => (.dict es, rest)
        | [] => .error .malformed
      else if b = byte '[' then
        if !Host.room .json level then .error .tooDeep
        else match skipSpace rest with
        | c :: after =>
          if c = byte ']' then .ok (.sequence .list [], after)
          else (items (level + 1) fuel (c :: after)).map fun (vs, rest) =>
            (.sequence .list vs, rest)
        | [] => .error .malformed
      else if b = byte '"' then (string rest).map fun (s, rest) => (.text s.wide, rest)
      else if b = byte 't' then word "true" (.bool true) (b :: rest)
      else if b = byte 'f' then word "false" (.bool false) (b :: rest)
      else if b = byte 'n' then word "null" .null (b :: rest)
      else (number (b :: rest)).map fun (a, rest) => (.atom a, rest)

/-- The rest of an array that has at least one more item. -/
def items (level : Nat) : Nat → List UInt8 → Read (List Value)
  | 0, _ => .error .malformed
  | fuel + 1, bs =>
    match value level fuel bs with
    | .error e => .error e
    | .ok (v, rest) =>
      match skipSpace rest with
      | c :: rest =>
        if c = byte ',' then (items level fuel rest).map fun (vs, rest) => (v :: vs, rest)
        else if c = byte ']' then .ok ([v], rest)
        else .error .malformed
      | [] => .error .malformed

/-- The rest of an object that has at least one more member, onto the members so far. -/
def members (level : Nat) : Nat → Entries → List UInt8 → Read Entries
  | 0, _, _ => .error .malformed
  | fuel + 1, entries, bs =>
    match skipSpace bs with
    | q :: rest =>
      if q ≠ byte '"' then .error .malformed
      else match string rest with
        | .error e => .error e
        | .ok (name, rest) =>
          match skipSpace rest with
          | c :: rest =>
            if c ≠ byte ':' then .error .malformed
            else match value level fuel rest with
              | .error e => .error e
              | .ok (v, rest) =>
                let entries := entries.insert (.text name.wide) v
                match skipSpace rest with
                | d :: rest =>
                  if d = byte ',' then members level fuel entries rest
                  else if d = byte '\x7d' then .ok (entries, rest)
                  else .error .malformed
                | [] => .error .malformed
          | [] => .error .malformed
    | [] => .error .malformed

end

end

/-- The value of a JSON text.  Each step of the readers takes a byte, so the length of the text
bounds their depth. -/
def read [Host] (bs : List UInt8) : Except JsonError Value :=
  match value 0 (2 * bs.length + 2) bs with
  | .error e => .error e
  | .ok (v, rest) => if (skipSpace rest).isEmpty then .ok v else .error .malformed

end FieldTemplate.Json
