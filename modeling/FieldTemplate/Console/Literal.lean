import FieldTemplate.Console.Literal.Token

/-!
# Literals

A literal is a number, a quoted text, one of four constants, or a group of literals with commas
between them.  A number can have one sign in front of it, and an imaginary one can be added to
another number.  Braces around literals make a set, or a dictionary if all of them are pairs; what
stands in a set and what is a key must be neither of these.
-/

namespace FieldTemplate.Console

set_option autoImplicit false

namespace Literal

/-- What can be done with a literal. -/
inductive Shape where
  /-- A number without a sign. -/
  | number (n : Number)
  /-- A number with a sign. -/
  | signed (n : Number)
  /-- The name of the empty set, which is not a literal itself. -/
  | setName
  /-- Any other literal that can be a key. -/
  | hashable
  /-- A set or a dictionary, or a group with one. -/
  | unhashable

def Shape.isLiteral : Shape → Bool
  | .setName => false
  | _ => true

def Shape.isKey : Shape → Bool
  | .setName | .unhashable => false
  | _ => true

def constants : List Text := ["None", "True", "False"].map String.toList

/-- Where the small letters of an alphabet for formulas start, of which there are thirteen. -/
def isFormulaLetter (c letter : Char) : Bool :=
  let n := c.toNat - 0x1D400
  0x1D400 ≤ c.toNat && n < 13 * 52 && n % 52 == 26 + (letter.toNat - 'a'.toNat) &&
    c.toNat != 0x1D4BA

/-- Whether a character is a letter or another form of it that may stand for it in a name. -/
def isFormOf (c letter : Char) (others : List Nat) : Bool :=
  c == letter || others.contains c.toNat || isFormulaLetter c letter

/-- Whether a name is that of the empty set, in any form of its letters. -/
def isSetName : Text → Bool
  | [c, d, e] =>
    isFormOf c 's' [0x017F, 0x02E2, 0x209B, 0xFF53] &&
      isFormOf d 'e' [0x1D49, 0x2091, 0x212F, 0x2147, 0xFF45] &&
      isFormOf e 't' [0x1D57, 0x209C, 0xFF54]
  | _ => false

/-- The quoted texts in front of the tokens go with one in front of them. -/
def behindQuoted (bytes : Bool) : List Token → Option (List Token)
  | .quoted bytes' :: rest => if bytes = bytes' then behindQuoted bytes rest else none
  | rest => some rest

/-- The least integer that is beyond all doubles. -/
def doubleLimit : Nat := Nat.pow 2 1024 - Nat.pow 2 970

/-- Whether an imaginary number can be added. -/
def Number.addable : Number → Bool
  | .int n => n < doubleLimit
  | .real => true
  | .imaginary => false

mutual

/-- The literal in front of the tokens, and what follows it. -/
def value : Nat → List Token → Option (Shape × List Token)
  | 0, _ => none
  | fuel + 1, ts => do
    let (left, after) ← operand fuel ts
    match after with
    | .plus :: more | .minus :: more =>
      match left, ← unsigned fuel more with
      | .number n, (.number .imaginary, rest) | .signed n, (.number .imaginary, rest) =>
        if n.addable then some (.hashable, rest) else none
      | _, _ => none
    | _ => some (left, after)

/-- A literal without a sum. -/
def operand : Nat → List Token → Option (Shape × List Token)
  | 0, _ => none
  | fuel + 1, ts =>
    match ts with
    | .plus :: rest | .minus :: rest => do
      match ← unsigned fuel rest with
      | (.number n, after) => some (.signed n, after)
      | _ => none
    | ts => unsigned fuel ts

/-- A literal without a sum and without a sign. -/
def unsigned : Nat → List Token → Option (Shape × List Token)
  | 0, _ => none
  | fuel + 1, ts => do
    match ← single fuel ts with
    | (.setName, .opening .round :: .closing .round :: rest) => some (.unhashable, rest)
    | found => some found

def single : Nat → List Token → Option (Shape × List Token)
  | 0, _ => none
  | fuel + 1, ts =>
    match ts with
    | .number n :: rest => some (.number n, rest)
    | .quoted bytes :: rest => (behindQuoted bytes rest).map fun after => (.hashable, after)
    | .ellipsis :: rest => some (.hashable, rest)
    | .name s :: rest =>
      if constants.contains s then some (.hashable, rest)
      else if isSetName s then some (.setName, rest)
      else none
    | .opening .round :: .closing .round :: rest => some (.hashable, rest)
    | .opening .round :: rest => do
      match ← value fuel rest with
      | (shape, .closing .round :: after) => some (shape, after)
      | (shape, after) => group fuel true shape after
    | .opening .curly :: .closing .curly :: rest => some (.unhashable, rest)
    | .opening .curly :: rest => do
      let (first, after) ← value fuel rest
      let rest ← match after with
        | .colon :: _ => pairs fuel first after
        | _ => elements fuel first after
      some (.unhashable, rest)
    | _ => none

/-- A group behind one of its literals. -/
def group : Nat → (keys : Bool) → Shape → List Token → Option (Shape × List Token)
  | 0, _, _, _ => none
  | fuel + 1, keys, shape, ts =>
    let keys := keys && shape.isKey
    let whole : Shape := if keys then .hashable else .unhashable
    if !shape.isLiteral then none
    else
      match ts with
      | .closing .round :: rest | .comma :: .closing .round :: rest => some (whole, rest)
      | .comma :: rest => do
        let (next, after) ← value fuel rest
        group fuel keys next after
      | _ => none

/-- What follows a set, behind one of its elements. -/
def elements : Nat → Shape → List Token → Option (List Token)
  | 0, _, _ => none
  | fuel + 1, shape, ts =>
    if !shape.isKey then none
    else
      match ts with
      | .closing .curly :: rest | .comma :: .closing .curly :: rest => some rest
      | .comma :: rest => do
        let (next, after) ← value fuel rest
        elements fuel next after
      | _ => none

/-- What follows a dictionary, behind one of its keys. -/
def pairs : Nat → Shape → List Token → Option (List Token)
  | 0, _, _ => none
  | fuel + 1, key, ts =>
    match ts with
    | .colon :: rest => do
      let (shape, after) ← value fuel rest
      if !(key.isKey && shape.isLiteral) then none
      else
        match after with
        | .closing .curly :: rest | .comma :: .closing .curly :: rest => some rest
        | .comma :: rest => do
          let (next, after) ← value fuel rest
          pairs fuel next after
        | _ => none
    | _ => none

end

end Literal

/-- Whether a text is a literal, or several with commas between them. -/
def isLiteral [Host] (s : Text) : Bool :=
  match Literal.tokens s with
  | none => false
  | some [] => false
  | some ts =>
    match Literal.value (5 * ts.length + 12) (.opening .round :: ts ++ [.closing .round]) with
    | some (shape, []) => shape.isLiteral && !s.contains '\x00'
    | _ => false

end FieldTemplate.Console
