import FieldTemplate.Text.Blank
import FieldTemplate.Template.Error

/-!
# Tokens of a template

A template text is a sequence of literals and placeholders.  `lexFrom` reads them from left
to right up to the first fault; `tokenize` gives the tokens or the fault, `Lexing` both, so
that a reader who stops early sees what stands before the fault.

* Between placeholders everything up to the next `{{` is one literal.
* A placeholder reaches to the next `}}`; a `{{` before that is a fault, as is a body of
  blanks only and a missing end.
-/

namespace FieldTemplate

set_option autoImplicit false

/-- Offsets count bytes from the start of the text; that of a placeholder is where it opens. -/
inductive Token where
  | literal (text : Text) (offset : Nat)
  | placeholder (path : Text) (offset : Nat)
deriving DecidableEq, Repr

/-- A place in a text, in characters and in bytes. -/
structure Cursor where
  position : Nat
  offset : Nat
deriving DecidableEq, Repr

namespace Cursor

def start : Cursor := ⟨0, 0⟩

def past (c : Cursor) (s : Text) : Cursor := ⟨c.position + s.length, c.offset + s.bytes⟩

end Cursor

structure Stop where
  fault : SyntaxFault
  cursor : Cursor
deriving DecidableEq, Repr

/-- The tokens before the first fault, and the fault. -/
structure Lexing where
  tokens : List Token
  stop : Option Stop
deriving DecidableEq, Repr

/-- What follows the opening of a placeholder. -/
inductive Opened where
  | closed (body rest : Text)
  | nested (before : Text)
  | unclosed
deriving DecidableEq, Repr

/-- Decides by which delimiter comes first. -/
def opened (s : Text) : Opened :=
  match Text.cutDouble '{' s, Text.cutDouble '}' s with
  | none, none => .unclosed
  | some (before, _), none => .nested before
  | none, some (body, rest) => .closed body rest
  | some (before, _), some (body, rest) =>
    if before.length < body.length then .nested before else .closed body rest

theorem length_of_opened {s body rest : Text} (h : opened s = .closed body rest) :
    rest.length < s.length := by
  unfold opened at h
  split at h
  · cases h
  · cases h
  · next hb => cases h; have := Text.length_of_cutDouble hb; omega
  · next hb =>
    split at h
    · cases h
    · cases h; have := Text.length_of_cutDouble hb; omega

def opening : Text := ['{', '{']
def closing : Text := ['}', '}']

/-- The literal of a text, if there is any text. -/
def literalToken (s : Text) (c : Cursor) : List Token :=
  if s = [] then [] else [.literal s c.offset]

/-- The tokens of a text that starts at the given place. -/
def lexFrom (c : Cursor) (s : Text) : Lexing :=
  match h : Text.cutDouble '{' s with
  | none => ⟨literalToken s c, none⟩
  | some (before, inner) =>
    let start := c.past before
    match ho : opened inner with
    | .nested skipped =>
      ⟨literalToken before c, some ⟨.nested, start.past (opening ++ skipped)⟩⟩
    | .unclosed => ⟨literalToken before c, some ⟨.unterminated, start⟩⟩
    | .closed body rest =>
      have : rest.length < s.length := by
        have := Text.length_of_cutDouble h
        have := length_of_opened ho
        omega
      if Text.trim body = [] then ⟨literalToken before c, some ⟨.empty, start⟩⟩
      else
        let next := lexFrom (start.past (opening ++ body ++ closing)) rest
        ⟨literalToken before c ++ .placeholder (Text.trim body) start.offset :: next.tokens,
          next.stop⟩
termination_by s.length

def Stop.toError (stop : Stop) (source : Text) : SyntaxError :=
  .make stop.fault stop.cursor.offset stop.cursor.position (some source)

/-- All tokens of a template text up to its end or its first fault. -/
def lex (source : Text) : Lexing := lexFrom .start source

/-- The tokens of a template text, or its first fault. -/
def tokenize (source : Text) : Except SyntaxError (List Token) :=
  match lex source with
  | ⟨tokens, none⟩ => .ok tokens
  | ⟨_, some stop⟩ => .error (stop.toError source)

end FieldTemplate
