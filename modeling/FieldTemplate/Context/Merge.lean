import FieldTemplate.Value.Entries

/-!
# Merging

`merge base over` writes the entries of `over` onto `base`, one after the other.  Where both
sides hold a dictionary under a key they are merged in turn; anywhere else the value of
`over` replaces that of `base`.  `mergeLevels` says how deep that goes.
-/

namespace FieldTemplate

set_option autoImplicit false

mutual

/-- A value written over an old one, if there is an old one. -/
def Value.over (old : Option Value) : Value → Value
  | .mapping .dict entries =>
    match old with
    | some (.mapping .dict base) => .mapping .dict (merge base entries)
    | _ => .mapping .dict entries
  | .mapping .readOnly entries => .mapping .readOnly entries
  | .sequence kind items => .sequence kind items
  | .atom a => .atom a

/-- The entries of the second mapping written onto the first. -/
def merge (base : Entries) : Entries → Entries
  | [] => base
  | (key, value) :: rest =>
    merge (base.insert key (Value.over (base.get? key) value)) rest

end

mutual

/-- The levels of dictionaries that are merged where a value is written over an old one. -/
def Value.overLevels (old : Option Value) : Value → Nat
  | .mapping .dict entries =>
    match old with
    | some (.mapping .dict base) => mergeLevels base entries
    | _ => 0
  | .mapping .readOnly _ => 0
  | .sequence .. => 0
  | .atom _ => 0

/-- The levels at which dictionaries are merged, the outermost included. -/
def mergeLevels (base : Entries) : Entries → Nat
  | [] => 1
  | (key, value) :: rest =>
    max (Value.overLevels (base.get? key) value + 1) (mergeLevels base rest)

end

end FieldTemplate
