import FieldTemplate.Text.Basic

/-!
# Numbers in literals

Digits may have single underscores between them.  A prefix with a zero and a letter gives the base
of an integer.  A number in base ten may have a point in it, an exponent behind it and a letter for
an imaginary number at its end; without any of these it is an integer, which starts with a zero only
if there is nothing but zeros, and which has no more digits than are converted.
-/

namespace FieldTemplate.Console.Literal

set_option autoImplicit false

inductive Number where
  | int (n : Nat)
  | real
  | imaginary

/-- What names and numbers go on with. -/
def isNamePart (c : Char) : Bool := c.isAlphanum || c == '_' || 0x80 ≤ c.toNat

/-- The digits in front of a text, and what follows them.  There has to be one in front and one
behind each underscore. -/
def digits (isDigit : Char → Bool) : Text → Option (Text × Text)
  | [] => none
  | [c] => if isDigit c then some ([c], []) else none
  | c :: '_' :: rest =>
    if isDigit c then (digits isDigit rest).map fun (ds, after) => (c :: ds, after) else none
  | c :: d :: rest =>
    if !isDigit c then none
    else if isDigit d then (digits isDigit (d :: rest)).map fun (ds, after) => (c :: ds, after)
    else some ([c], d :: rest)

/-- A number ends where no name goes on. -/
def ended (n : Number) (after : Text) : Option (Number × Text) :=
  if (after.head?.map isNamePart).getD false then none else some (n, after)

/-- An integer behind the prefix that says its base. -/
def based (base : Nat) (isDigit : Char → Bool) (s : Text) : Option (Number × Text) := do
  let s := match s with
    | '_' :: rest => rest
    | s => s
  let (ds, after) ← digits isDigit s
  ended (.int (ds.foldl (fun n c => base * n + Text.hexValue c) 0)) after

def startsWithDigit (s : Text) : Bool := (s.head?.map Text.isDigit).getD false

/-- Whether there is a point, and what follows it and the digits behind it. -/
def fraction : Text → Option (Bool × Text)
  | '.' :: rest =>
    if startsWithDigit rest then (digits Text.isDigit rest).map fun (_, after) => (true, after)
    else some (true, rest)
  | s => some (false, s)

/-- Whether there is an exponent, and what follows it. -/
def exponent : Text → Option (Bool × Text)
  | c :: rest =>
    if c = 'e' ∨ c = 'E' then
      let unsigned := match rest with
        | '+' :: ds => ds
        | '-' :: ds => ds
        | ds => ds
      (digits Text.isDigit unsigned).map fun (_, after) => (true, after)
    else some (false, c :: rest)
  | [] => some (false, [])

/-- An integer in base ten. -/
def integer (ds : Text) : Option Number :=
  if ds.all (· == '0') then some (.int 0)
  else if ds.head? = some '0' ∨ Text.digitLimit < ds.length then none
  else some (.int (Text.toNat ds))

/-- A number in base ten behind its digits in front of a point. -/
def decimal (whole after : Text) : Option (Number × Text) := do
  let (pointed, after) ← fraction after
  let (powered, after) ← exponent after
  match after with
  | 'j' :: rest | 'J' :: rest => ended .imaginary rest
  | _ =>
    if pointed || powered then ended .real after
    else (integer whole).bind fun n => ended n after

/-- The number in front of a text that starts with a digit, or with a point and a digit. -/
def number : Text → Option (Number × Text)
  | '0' :: c :: rest =>
    if c = 'x' ∨ c = 'X' then based 16 Text.isHexDigit rest
    else if c = 'o' ∨ c = 'O' then based 8 (fun d => '0' ≤ d && d ≤ '7') rest
    else if c = 'b' ∨ c = 'B' then based 2 (fun d => '0' ≤ d && d ≤ '1') rest
    else (digits Text.isDigit ('0' :: c :: rest)).bind fun (ds, after) => decimal ds after
  | '.' :: rest => decimal [] ('.' :: rest)
  | s => (digits Text.isDigit s).bind fun (ds, after) => decimal ds after

end FieldTemplate.Console.Literal
