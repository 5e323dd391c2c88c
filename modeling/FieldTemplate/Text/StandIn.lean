import FieldTemplate.Text.Wide

/-!
# Stand-ins for surrogates

What is made for texts without surrogates can be used for other texts as well, where a surrogate
counts as a character for private use does: neither blank nor part of a word or of a number.  The
characters of a block for private use of which a text has none stand in for its surrogates, and are
put right in what comes out.
-/

namespace FieldTemplate

set_option autoImplicit false

namespace StandIn

/-- Blocks of characters for private use, with one for each surrogate. -/
def blocks : List Nat := (List.range 63).map fun i => 0xF0000 + 0x800 * i

def isIn (block n : Nat) : Bool := block ≤ n && n < block + 0x800

/-- A block without any of the given code points. -/
def freshBlock (used : List Nat) : Nat :=
  (blocks.find? fun block => !used.any (isIn block)).getD (blocks.headD 0)

def standIn (block : Nat) : CodePoint → Char
  | .char c => c
  | .surrogate n => Char.ofNat (block + n)

/-- The surrogate that a character stands in for. -/
def surrogate? (block : Nat) (c : Char) : Option (Fin 0x800) :=
  if h : block ≤ c.toNat ∧ c.toNat < block + 0x800 then some ⟨c.toNat - block, by omega⟩ else none

def restorePoint (block : Nat) : CodePoint → CodePoint
  | .char c => ((surrogate? block c).map CodePoint.surrogate).getD (.char c)
  | .surrogate n => .surrogate n

/-- A text with the surrogates in the place of their stand-ins. -/
def restore (block : Nat) (s : WideText) : WideText := s.map (restorePoint block)

end StandIn

namespace WideText

/-- A text without surrogates, and the block of their stand-ins in it. -/
def withStandIns (s : WideText) : Nat × Text :=
  let block := StandIn.freshBlock ((s.filled ' ').map Char.toNat)
  (block, s.map (StandIn.standIn block))

end WideText

end FieldTemplate
