import FieldTemplate.Yaml.Value

/-!
# The usual host

A stack of a thousand calls, of which a YAML node takes two.  Files are decoded in blocks of 8192
bytes and read in blocks of 4096 characters.  Documents that lie in themselves are unfolded beyond
what the stack has room for.
-/

namespace FieldTemplate.Host

set_option autoImplicit false

/-- The host without the order in which the faults of a file are met. -/
@[reducible] def basic : Host where
  room
    | .node _, level => level < 480
    | .json, level => level < 950
    | .mergeKey, level => level < 950
    | .standIn, level => level < 950
    | .merge, level => level < 950
  unfolding := ⟨1024, 4096⟩
  blockStart _ := 0
  faultFirst _ := false
  named? _ := none

/-! ## Blocks -/

def isContinuation (b : UInt8) : Bool := 0x80 ≤ b && b ≤ 0xBF

/-- The last place up to the given one at which a character starts. -/
def characterStart (bytes : List UInt8) : Nat → Nat
  | 0 => 0
  | n + 1 =>
    if isContinuation ((bytes.drop (n + 1)).headD 0) then characterStart bytes n else n + 1

/-- Where the block starts with bytes that are no text.  A character that is cut by the end of a
block is decoded with the next one. -/
def undecodedStart (bytes : List UInt8) (e : Utf8Error) : Nat :=
  let fault := if e.fault = .start then e.position else e.position + e.count
  let start := 8192 * (fault / 8192)
  if e.position ≤ start then e.position else characterStart bytes start

/-- Where the block starts with the first character that no document has, if there is one. -/
def unprintableStart? (s : Text) : Option Nat :=
  let front := s.takeWhile Yaml.isPrintable
  if front.length = s.length then none
  else some (Utf8.encode (s.take (4096 * (front.length / 4096)))).length

/-- A text that has a fault, even when its last line is left out, which a block may have cut. -/
def isFaulty (bytes : List UInt8) : Bool :=
  match Utf8.decode bytes with
  | .error _ => false
  | .ok s =>
    match @Yaml.document basic (s.reverse.dropWhile (· ≠ '\n')).reverse with
    | .error _ => true
    | .ok _ => false

/-- Characters that no document has are met in front of bytes that are no text. -/
def usualBlockStart (bytes : List UInt8) : Nat :=
  match Utf8.decode bytes with
  | .ok s => (unprintableStart? s).getD 0
  | .error e =>
    let start := undecodedStart bytes e
    match (Utf8.decode (bytes.take start)).toOption.bind unprintableStart? with
    | some earlier => if isFaulty (bytes.take earlier) then earlier else start
    | none => start

scoped instance usual : Host :=
  { basic with
    blockStart := usualBlockStart
    faultFirst := fun bytes => isFaulty (bytes.take (usualBlockStart bytes)) }

end FieldTemplate.Host
