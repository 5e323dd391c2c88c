import FieldTemplate.Number.Decimal
import FieldTemplate.Number.Fraction
import FieldTemplate.Text.Wide
import FieldTemplate.Value.Moment

/-!
# Values

The data a template is rendered against: trees of mappings and sequences over atoms.  A
mapping is the list of its entries in the order in which its keys were first written; the
operations in `FieldTemplate.Value.Entries` keep its keys distinct.
-/

namespace FieldTemplate

set_option autoImplicit false

/-- A value without parts.  These are also the keys of mappings. -/
inductive Atom where
  | null
  | bool (b : Bool)
  | int (n : Int)
  | double (x : Binary64)
  /-- The constant of data files that is no number.  It is one object, so it is equal to itself as
  a key; a double that is no number is equal to nothing. -/
  | notANumber
  | decimal (x : Decimal)
  | fraction (q : Fraction)
  | date (d : Date)
  | timestamp (t : Timestamp)
  | time (t : TimeOfDay)
  | text (s : WideText)
  | bytes (bs : List UInt8)
  | complex (re im : Binary64)
  | range (first stop : Int)
  /-- Some one object of a kind that is foreign to templates. -/
  | object
deriving DecidableEq, Repr

inductive SequenceKind where
  | list
  | tuple
  | set
  | frozenSet
deriving DecidableEq, Repr

/-- Two mappings render alike; only a dictionary is merged entry by entry. -/
inductive MappingKind where
  | dict
  | readOnly
deriving DecidableEq, Repr

inductive Value where
  | atom (a : Atom)
  | sequence (kind : SequenceKind) (items : List Value)
  | mapping (kind : MappingKind) (entries : List (Atom × Value))

abbrev Entries := List (Atom × Value)

namespace Value

instance : Inhabited Value := ⟨.atom .null⟩

def null : Value := .atom .null

def text (s : WideText) : Value := .atom (.text s)

def dict (entries : Entries) : Value := .mapping .dict entries

end Value

end FieldTemplate
