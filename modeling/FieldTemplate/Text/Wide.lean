import FieldTemplate.Text.Basic

/-!
# Texts with surrogates

A text that data files spell with escapes can hold halves of the pairs that stand for a character in
UTF-16.  Such a half is no character, and it has no UTF-8 form.  A text without any is the wide form
of a `Text`.
-/

namespace FieldTemplate

set_option autoImplicit false

/-- A character, or the half of a pair. -/
inductive CodePoint where
  | char (c : Char)
  | surrogate (n : Fin 0x800)
deriving DecidableEq, Repr

abbrev WideText := List CodePoint

/-- The wide form of a text. -/
def Text.wide (s : Text) : WideText := s.map .char

instance : Coe Text WideText := ⟨Text.wide⟩

namespace CodePoint

def firstSurrogate : Nat := 0xD800

/-- The code point of a number below the last one. -/
def ofNat (n : Nat) : CodePoint :=
  if h : firstSurrogate ≤ n ∧ n < firstSurrogate + 0x800 then
    .surrogate ⟨n - firstSurrogate, by omega⟩
  else .char (Char.ofNat n)

/-- The character, or one that is put in the place of a surrogate. -/
def charOr (filler : Char) : CodePoint → Char
  | .char c => c
  | .surrogate _ => filler

end CodePoint

namespace WideText

/-- The text without surrogates that this is, if there are none in it. -/
def text? : WideText → Option Text
  | [] => some []
  | .char c :: rest => (text? rest).map (c :: ·)
  | .surrogate _ :: _ => none

/-- The text with another character in the place of every surrogate. -/
def filled (filler : Char) (s : WideText) : Text := s.map (CodePoint.charOr filler)

/-- The text with the usual sign of what is lost in the place of every surrogate. -/
def lossy (s : WideText) : Text := s.filled '\uFFFD'

end WideText

namespace Text

@[simp] theorem wide_nil : wide [] = [] := rfl

@[simp] theorem wide_cons (c : Char) (s : Text) : wide (c :: s) = .char c :: s.wide := rfl

@[simp] theorem wide_append (s t : Text) : wide (s ++ t) = s.wide ++ t.wide := List.map_append

end Text

end FieldTemplate
