import FieldTemplate.Text.Basic
import FieldTemplate.Unicode.LetterCase

/-!
# Lower case

The full lower-case form of a text.  Two characters do not go to a single fixed one: a
capital I with a dot above keeps its dot as a combining mark, and a capital sigma becomes a
final sigma at the end of a word.
-/

namespace FieldTemplate.Unicode

set_option autoImplicit false

/-- The target of a code point in the first run that holds it, or the code point itself. -/
def lowerCode (n : Nat) : List (Nat × Nat × Nat × Nat) → Nat
  | [] => n
  | (first, last, step, target) :: rest =>
    if first ≤ n ∧ n ≤ last ∧ (n - first) % step = 0 then target + (n - first)
    else lowerCode n rest

/-- The lower-case form of one character, whatever stands around it. -/
def lowerChar (c : Char) : Text :=
  if c = 'İ' then ['i', '\u0307'] else [Char.ofNat (lowerCode c.toNat lowerRuns)]

/-- Whether the nearest character that is not ignored has case. -/
def nearestIsCased : Text → Bool
  | [] => false
  | c :: rest => if caseIgnorable.has c then nearestIsCased rest else cased.has c

/-- Lower case of a text whose preceding characters, nearest first, are given. -/
def lowerAfter (before : Text) : Text → Text
  | [] => []
  | 'Σ' :: rest =>
    (if nearestIsCased before && !nearestIsCased rest then 'ς' else 'σ')
      :: lowerAfter ('Σ' :: before) rest
  | c :: rest => lowerChar c ++ lowerAfter (c :: before) rest

end Unicode

def Text.lower (s : Text) : Text := Unicode.lowerAfter [] s

end FieldTemplate
