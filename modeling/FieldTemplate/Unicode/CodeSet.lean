/-!
# Sets of code points

A set is given by the ascending code points at which membership changes, starting outside:
`⟨[0x30, 0x3A]⟩` is the set of the ten ASCII digits.
-/

namespace FieldTemplate.Unicode

set_option autoImplicit false

structure CodeSet where
  bounds : List Nat

namespace CodeSet

/-- Membership past the boundaries up to `n`, given the membership before them. -/
def covers (n : Nat) (inside : Bool) : List Nat → Bool
  | [] => inside
  | bound :: rest => if n < bound then inside else covers n (!inside) rest

def has (set : CodeSet) (c : Char) : Bool := covers c.toNat false set.bounds

end CodeSet

end FieldTemplate.Unicode
