import FieldTemplate.Text.Basic

/-!
# Reading UTF-8

Only the shortest form of a scalar value is accepted.  An error says which bytes cannot be
read: the first of them, their number, and whether a start or a continuation is wrong or the
text ends too early.
-/

namespace FieldTemplate

set_option autoImplicit false

inductive Utf8Fault where
  | start
  | continuation
  | truncated
deriving DecidableEq, Repr

/-- `count` bytes from `position` on cannot be read; the first of them is `byte`. -/
structure Utf8Error where
  fault : Utf8Fault
  position : Nat
  count : Nat
  byte : UInt8
deriving DecidableEq, Repr

namespace Utf8Error

def reason : Utf8Fault → Text
  | .start => "invalid start byte".toList
  | .continuation => "invalid continuation byte".toList
  | .truncated => "unexpected end of data".toList

def message (e : Utf8Error) : Text :=
  "'utf-8' codec can't decode ".toList ++
    (if e.count = 1 then
      "byte 0x".toList ++ Text.padLeft 2 '0' (Nat.toDigits 16 e.byte.toNat) ++
        " in position ".toList ++ Text.ofNat e.position
    else
      "bytes in position ".toList ++ Text.ofNat e.position ++ '-' ::
        Text.ofNat (e.position + e.count - 1)) ++
    [':', ' '] ++ reason e.fault

end Utf8Error

namespace Utf8

/-- The number of continuation bytes after a start byte. -/
def tailLength? (a : UInt8) : Option Nat :=
  if a < 0x80 then some 0
  else if 0xC2 ≤ a ∧ a ≤ 0xDF then some 1
  else if 0xE0 ≤ a ∧ a ≤ 0xEF then some 2
  else if 0xF0 ≤ a ∧ a ≤ 0xF4 then some 3
  else none

/-- The least and the greatest second byte after a start byte. -/
def secondRange (a : UInt8) : UInt8 × UInt8 :=
  if a = 0xE0 then (0xA0, 0xBF)
  else if a = 0xED then (0x80, 0x9F)
  else if a = 0xF0 then (0x90, 0xBF)
  else if a = 0xF4 then (0x80, 0x8F)
  else (0x80, 0xBF)

/-- The payload of the start byte. -/
def leadBits (a : UInt8) : Nat :=
  if a < 0x80 then a.toNat
  else if a < 0xE0 then a.toNat - 0xC0
  else if a < 0xF0 then a.toNat - 0xE0
  else a.toNat - 0xF0

/-- Reads `n` continuation bytes onto `bits`.  On a fault: its kind and how many bytes of the
sequence were read before it. -/
def readTail (range : UInt8 × UInt8) (bits read : Nat) :
    Nat → List UInt8 → Except (Utf8Fault × Nat) Nat
  | 0, _ => .ok bits
  | _ + 1, [] => .error (.truncated, read)
  | n + 1, b :: rest =>
    if range.1 ≤ b ∧ b ≤ range.2 then
      readTail (0x80, 0xBF) (bits * 64 + (b.toNat - 0x80)) (read + 1) n rest
    else .error (.continuation, read)

/-- The text of bytes whose first one stands at the given position. -/
def decodeFrom (position : Nat) : List UInt8 → Except Utf8Error Text
  | [] => .ok []
  | a :: rest =>
    match tailLength? a with
    | none => .error ⟨.start, position, 1, a⟩
    | some n =>
      match readTail (secondRange a) (leadBits a) 1 n rest with
      | .error (fault, count) => .error ⟨fault, position, count, a⟩
      | .ok bits => (decodeFrom (position + 1 + n) (rest.drop n)).map (Char.ofNat bits :: ·)
termination_by bs => bs.length
decreasing_by simp only [List.length_drop, List.length_cons]; omega

def decode (bs : List UInt8) : Except Utf8Error Text := decodeFrom 0 bs

def encode (s : Text) : List UInt8 := s.flatMap String.utf8EncodeChar

end Utf8

end FieldTemplate
