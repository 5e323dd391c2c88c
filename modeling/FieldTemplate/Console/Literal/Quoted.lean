import FieldTemplate.Host
import FieldTemplate.Text.Basic

/-!
# Quoted texts in literals

The letters in front of a quoted text make it one of bytes, or take its backslashes as they are.
Three quotes in front of a text also end it, and then it can have several lines.
-/

namespace FieldTemplate.Console.Literal

set_option autoImplicit false

/-- Whether the text is one of bytes, and whether its backslashes escape nothing. -/
structure Prefix where
  bytes : Bool
  raw : Bool

/-- What the letters in front of a quote say. -/
def Prefix.ofLetters? (letters : Text) : Option Prefix :=
  match String.ofList (Text.lowerAscii letters) with
  | "" | "u" => some ⟨false, false⟩
  | "r" => some ⟨false, true⟩
  | "b" => some ⟨true, false⟩
  | "br" | "rb" => some ⟨true, true⟩
  | _ => none

/-- A text up to its closing quote, and what follows that. -/
def insideLine (quote : Char) : Text → Option (Text × Text)
  | [] => none
  | '\\' :: c :: rest =>
    (insideLine quote rest).map fun (inside, after) => ('\\' :: c :: inside, after)
  | c :: rest =>
    if c = quote then some ([], rest)
    else if c = '\n' then none
    else (insideLine quote rest).map fun (inside, after) => (c :: inside, after)

/-- A text up to its three closing quotes, and what follows them. -/
def insideLines (quote : Char) : Text → Option (Text × Text)
  | [] => none
  | '\\' :: c :: rest =>
    (insideLines quote rest).map fun (inside, after) => ('\\' :: c :: inside, after)
  | c :: rest =>
    if c = quote ∧ rest.take 2 = [quote, quote] then some ([], rest.drop 2)
    else (insideLines quote rest).map fun (inside, after) => (c :: inside, after)

/-- The inside of a text behind its opening quote, and what follows the text. -/
def inside (quote : Char) (s : Text) : Option (Text × Text) :=
  if s.take 2 = [quote, quote] then insideLines quote (s.drop 2) else insideLine quote s

/-- So many hexadecimal digits in front of a text, as a number. -/
def hexadecimal? (count : Nat) (s : Text) : Option Nat :=
  let ds := s.take count
  if ds.length = count ∧ ds.all Text.isHexDigit then
    some (ds.foldl (fun n c => 16 * n + Text.hexValue c) 0)
  else none

/-- Whether an escape can be read, from the character behind its backslash on.  In a text of bytes
there are no escapes for code points. -/
def canEscape [Host] (bytes : Bool) (c : Char) (rest : Text) : Bool :=
  if c = 'x' then (hexadecimal? 2 rest).isSome
  else if bytes then true
  else if c = 'u' then (hexadecimal? 4 rest).isSome
  else if c = 'U' then ((hexadecimal? 8 rest).filter (· ≤ 0x10FFFF)).isSome
  else if c = 'N' then
    match rest with
    | '{' :: named =>
      match Text.cutAt '}' named with
      | some (name, _) => (Host.named? name).isSome
      | none => false
    | _ => false
  else true

/-- Whether all escapes of a text can be read. -/
def canUnescape [Host] (bytes : Bool) : Text → Bool
  | '\\' :: c :: rest => canEscape bytes c rest && canUnescape bytes rest
  | _ :: rest => canUnescape bytes rest
  | [] => true

/-- Whether there is a text with this inside. -/
def Prefix.allows [Host] (p : Prefix) (inside : Text) : Bool :=
  (!p.bytes || inside.all fun c => c.toNat < 0x80) && (p.raw || canUnescape p.bytes inside)

end FieldTemplate.Console.Literal
