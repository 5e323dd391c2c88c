import FieldTemplate.Text.Basic
import FieldTemplate.Unicode.CombiningClass
import FieldTemplate.Unicode.Decomposition

/-!
# Canonical normal forms

`decomposed` takes every character apart and sorts each run of combining marks by class;
`composed` also puts marks back on their base where a composite exists.  Hangul syllables
are computed, all other characters are looked up.
-/

namespace FieldTemplate.Unicode

set_option autoImplicit false

/-! ## Tables -/

/-- The canonical combining class; zero for a character that starts a sequence. -/
def combiningClass (n : Nat) : Nat :=
  match combiningRuns.find? fun (first, last, _) => first ≤ n && n ≤ last with
  | some (_, _, k) => k
  | none => 0

/-- The code point that another one is only another code for. -/
def otherCode (n : Nat) : Option Nat :=
  let row (table : List (Nat × Nat)) := (table.find? fun row => row.1 == n).map (·.2)
  (row singletons).or ((row ideographs).or (row supplementaryIdeographs))

/-- One step of decomposition, if the code point has one. -/
def decomposeStep (n : Nat) : Option (Nat × Option Nat) :=
  match composites.find? fun row => row.1 == n with
  | some (_, a, b) => some (a, some b)
  | none =>
    match excludedPairs.find? fun row => row.1 == n with
    | some (_, a, b) => some (a, some b)
    | none => (otherCode n).map fun a => (a, none)

/-- The composite of two code points in the table. -/
def tableComposite (a b : Nat) : Option Nat :=
  (composites.find? fun (_, x, y) => x == a && y == b).map (·.1)

/-! ## Hangul -/

def hangulFirst : Nat := 0xAC00
def leadFirst : Nat := 0x1100
def vowelFirst : Nat := 0x1161
def tailBase : Nat := 0x11A7
def vowelCount : Nat := 21
def tailCount : Nat := 28
def leadCount : Nat := 19
def hangulCount : Nat := leadCount * vowelCount * tailCount

/-- A Hangul syllable as lead, vowel and, where it has one, tail. -/
def decomposeHangul (n : Nat) : Option (List Nat) :=
  if hangulFirst ≤ n ∧ n < hangulFirst + hangulCount then
    let i := n - hangulFirst
    let lead := leadFirst + i / (vowelCount * tailCount)
    let vowel := vowelFirst + i % (vowelCount * tailCount) / tailCount
    let tail := i % tailCount
    some (if tail = 0 then [lead, vowel] else [lead, vowel, tailBase + tail])
  else none

/-- A lead with a vowel, or a syllable without tail with a tail. -/
def composeHangul (a b : Nat) : Option Nat :=
  if leadFirst ≤ a ∧ a < leadFirst + leadCount ∧ vowelFirst ≤ b ∧ b < vowelFirst + vowelCount then
    some (hangulFirst + ((a - leadFirst) * vowelCount + (b - vowelFirst)) * tailCount)
  else if hangulFirst ≤ a ∧ a < hangulFirst + hangulCount ∧ (a - hangulFirst) % tailCount = 0 ∧
      tailBase < b ∧ b < tailBase + tailCount then
    some (a + (b - tailBase))
  else none

def composite (a b : Nat) : Option Nat :=
  (composeHangul a b).or (tableComposite a b)

/-! ## Decomposition -/

/-- Decomposition by table, to the given depth. -/
def decomposeTable : Nat → Nat → List Nat
  | 0, n => [n]
  | depth + 1, n =>
    match decomposeStep n with
    | none => [n]
    | some (a, none) => decomposeTable depth a
    | some (a, some b) => decomposeTable depth a ++ [b]

/-- The deepest decomposition takes three steps. -/
def decompositionDepth : Nat := 3

/-- The full canonical decomposition of a code point. -/
def decompose (n : Nat) : List Nat :=
  if n < 0x80 then [n]
  else match decomposeHangul n with
    | some parts => parts
    | none => decomposeTable decompositionDepth n

/-- Puts a mark in front of a sorted text, past the marks of a lower class. -/
def settle (n : Nat) : List Nat → List Nat
  | [] => [n]
  | m :: rest =>
    if combiningClass m ≠ 0 ∧ combiningClass m < combiningClass n then m :: settle n rest
    else n :: m :: rest

/-- Marks after the same base in the order of their classes; equal classes keep their order. -/
def sortMarks : List Nat → List Nat
  | [] => []
  | n :: rest => settle n (sortMarks rest)

/-! ## Composition -/

/-- Composition behind a base.  The marks that stayed apart so far are held with the nearest
one first; a character joins the base only if no mark of its class or a higher one, and no
other base, stands between them. -/
def composeFrom (base : Nat) (apart : List Nat) : List Nat → List Nat
  | [] => base :: apart.reverse
  | n :: rest =>
    let free := match apart with
      | [] => true
      | m :: _ => combiningClass m < combiningClass n
    match if free then composite base n else none with
    | some joined => composeFrom joined apart rest
    | none =>
      if combiningClass n = 0 then base :: apart.reverse ++ composeFrom n [] rest
      else composeFrom base (n :: apart) rest

/-- Marks before the first base stay as they are. -/
def composeMarks : List Nat → List Nat
  | [] => []
  | n :: rest =>
    if combiningClass n = 0 then composeFrom n [] rest else n :: composeMarks rest

end Unicode

namespace Text

/-- The canonical decomposition of a text. -/
def decomposed (s : Text) : Text :=
  (Unicode.sortMarks (s.flatMap fun c => Unicode.decompose c.toNat)).map Char.ofNat

/-- The canonical composition of a text. -/
def composed (s : Text) : Text :=
  (Unicode.composeMarks
    (Unicode.sortMarks (s.flatMap fun c => Unicode.decompose c.toNat))).map Char.ofNat

end Text

end FieldTemplate
