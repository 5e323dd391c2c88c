import FieldTemplate.Console.Literal.Number
import FieldTemplate.Console.Literal.Quoted

/-!
# Tokens of literals

A literal is one line.  Inside brackets it can have line ends, and so it can behind a backslash;
in front of it and behind it there can be lines with comments.
-/

namespace FieldTemplate.Console.Literal

set_option autoImplicit false

inductive Bracket where
  | round
  | curly
deriving DecidableEq

inductive Token where
  | opening (b : Bracket)
  | closing (b : Bracket)
  | comma
  | colon
  | plus
  | minus
  | ellipsis
  | name (s : Text)
  | number (n : Number)
  | quoted (bytes : Bool)

def withoutComment (s : Text) : Text := s.dropWhile (· != '\n')

/-- The literal behind the blank lines and comments in front of it, unless it is indented.  The
indentation of a line stays that of the line that was continued with it. -/
def behindLeadingLines : Nat → (indented continued : Bool) → Text → Option Text
  | 0, _, _, _ => none
  | fuel + 1, indented, continued, s =>
    match s with
    | ' ' :: rest | '\t' :: rest => behindLeadingLines fuel true continued rest
    | '\x0C' :: rest => behindLeadingLines fuel false continued rest
    | ['\\', '\n'] => none
    | '\\' :: '\n' :: rest => behindLeadingLines fuel indented (continued || indented) rest
    | '#' :: rest => behindLeadingLines fuel false false (withoutComment rest)
    | '\n' :: rest => behindLeadingLines fuel false false rest
    | s => if indented || continued then none else some s

/-- Nothing but blank lines and comments. -/
def blankLines : Nat → Text → Bool
  | 0, _ => false
  | fuel + 1, s =>
    match s with
    | [] => true
    | ' ' :: rest | '\t' :: rest | '\x0C' :: rest | '\n' :: rest => blankLines fuel rest
    | '\\' :: '\n' :: rest => !rest.isEmpty && blankLines fuel rest
    | '#' :: rest => blankLines fuel (withoutComment rest)
    | _ => false

/-- Brackets nest no deeper than this. -/
def bracketLimit : Nat := 200

/-- The brackets that are open behind a bracket, latest first. -/
def bracketsBehind (open' : List Bracket) : Token → Option (List Bracket)
  | .opening b => if open'.length < bracketLimit then some (b :: open') else none
  | .closing b =>
    match open' with
    | b' :: others => if b = b' then some others else none
    | [] => none
  | _ => some open'

/-- A name, or a quoted text behind the letters in front of it. -/
def word [Host] (s : Text) : Option (Token × Text) :=
  let letters := s.takeWhile isNamePart
  match s.drop letters.length with
  | c :: rest =>
    if c = '\'' ∨ c = '"' then do
      let p ← Prefix.ofLetters? letters
      let (text, after) ← inside c rest
      if p.allows text then some (.quoted p.bytes, after) else none
    else if letters.isEmpty then none
    else some (.name letters, c :: rest)
  | [] => some (.name letters, [])

/-- The token in front of a text that starts with one. -/
def token [Host] : Text → Option (Token × Text)
  | '(' :: rest => some (.opening .round, rest)
  | ')' :: rest => some (.closing .round, rest)
  | '\x7b' :: rest => some (.opening .curly, rest)
  | '\x7d' :: rest => some (.closing .curly, rest)
  | ',' :: rest => some (.comma, rest)
  | ':' :: rest => some (.colon, rest)
  | '+' :: rest => some (.plus, rest)
  | '-' :: rest => some (.minus, rest)
  | '.' :: '.' :: '.' :: rest => some (.ellipsis, rest)
  | s =>
    if startsWithDigit s || (s.head? == some '.' && startsWithDigit (s.drop 1)) then
      (number s).map fun (n, after) => (.number n, after)
    else word s

/-- The tokens of a line, behind the brackets that are open. -/
def tokensFrom [Host] : Nat → List Bracket → Text → Option (List Token)
  | 0, _, _ => none
  | fuel + 1, open', s =>
    match s with
    | [] => if open'.isEmpty then some [] else none
    | ' ' :: rest | '\t' :: rest | '\x0C' :: rest => tokensFrom fuel open' rest
    | '#' :: rest => tokensFrom fuel open' (withoutComment rest)
    | '\\' :: '\n' :: rest => if rest.isEmpty then none else tokensFrom fuel open' rest
    | '\n' :: rest =>
      if !open'.isEmpty then tokensFrom fuel open' rest
      else if blankLines (rest.length + 1) rest then some []
      else none
    | s => do
      let (t, after) ← token s
      let open' ← bracketsBehind open' t
      (tokensFrom fuel open' after).map (t :: ·)

/-- The tokens of a literal. -/
def tokens [Host] (s : Text) : Option (List Token) := do
  let s := Text.unixLines s
  let line ← behindLeadingLines (s.length + 1) false false s
  tokensFrom (line.length + 1) [] line

end FieldTemplate.Console.Literal
