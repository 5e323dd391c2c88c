import FieldTemplate.Value.Key

/-!
# Entries of a mapping

An entry is found by what its key stands for.  Writing to a key that is there keeps its place and
its first spelling.
-/

namespace FieldTemplate

set_option autoImplicit false

namespace Entries

/-- The value of a key. -/
def get? : Entries → Atom → Option Value
  | [], _ => none
  | (k, v) :: rest, key => if k.sameKey key then some v else get? rest key

/-- Writes a value under a key: in place if the key is there, else at the end. -/
def insert : Entries → Atom → Value → Entries
  | [], key, value => [(key, value)]
  | (k, v) :: rest, key, value =>
    if k.sameKey key then (k, value) :: rest else (k, v) :: insert rest key value

def keys (entries : Entries) : List Atom := entries.map (·.1)

/-- The entries written one after the other. -/
def ofList (entries : List (Atom × Value)) : Entries :=
  entries.foldl (fun acc e => insert acc e.1 e.2) []

end Entries

end FieldTemplate
