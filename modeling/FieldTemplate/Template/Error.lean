import FieldTemplate.Text.Position
import FieldTemplate.Text.Quoted

/-!
# Faults of a template text

A syntax error knows its place three times over: by character, by byte, and by line and
column where the text is at hand.  The wording of every fault is in `message`.
-/

namespace FieldTemplate

set_option autoImplicit false

inductive SyntaxFault where
  | malformed
  | unterminated
  | empty
  | nested
deriving DecidableEq, Repr

def SyntaxFault.reason : SyntaxFault → Text
  | .malformed => "Template syntax error".toList
  | .unterminated => "Unterminated placeholder".toList
  | .empty => "Empty placeholder".toList
  | .nested => "Nested placeholder".toList

/-- `offset` counts bytes, `position` characters; `place` is unknown without the text. -/
structure SyntaxError where
  fault : SyntaxFault
  offset : Nat
  position : Nat
  place : Option Place
deriving DecidableEq, Repr

namespace SyntaxError

def make (fault : SyntaxFault) (offset position : Nat) (source : Option Text) : SyntaxError :=
  ⟨fault, offset, position, source.map fun s => s.placeOf position⟩

def message (e : SyntaxError) : Text :=
  e.fault.reason ++ " at ".toList ++
    match e.place with
    | none => "offset ".toList ++ Text.ofNat e.offset
    | some p => Text.ofNat p.line ++ ':' :: Text.ofNat p.column

end SyntaxError

/-- A field path with a segment that is no identifier. -/
structure PathError where
  path : Text
deriving DecidableEq, Repr

def PathError.message (e : PathError) : Text :=
  "Invalid field path: ".toList ++ Text.quoted e.path

/-- Why a template text cannot be used. -/
inductive TemplateError where
  | syntaxError (e : SyntaxError)
  | path (e : PathError)
deriving DecidableEq, Repr

def TemplateError.message : TemplateError → Text
  | .syntaxError e => e.message
  | .path e => e.message

end FieldTemplate
