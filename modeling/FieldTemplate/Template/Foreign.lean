import FieldTemplate.Template.Basic
import FieldTemplate.Value.Shown

/-!
# Foreign items

Token and node lists that come from outside may hold things that are neither.  Such an item
is a fault when it is reached, and not before.
-/

namespace FieldTemplate

set_option autoImplicit false

/-- An item of the expected kind, or a bare atom in its place. -/
inductive Item (α : Type) where
  | known (a : α)
  | foreign (a : Atom)

inductive ItemError where
  | token (a : Atom)
  | path (e : PathError)

def ItemError.message : ItemError → Text
  | .token a => "Unexpected token: ".toList ++ a.shown
  | .path e => e.message

/-- The nodes of a list of items, up to the first fault. -/
def nodesOfItems : List (Item Token) → Except ItemError (List Node)
  | [] => .ok []
  | .foreign a :: _ => .error (.token a)
  | .known token :: rest =>
    match token.toNode with
    | .error e => .error (.path e)
    | .ok node => (nodesOfItems rest).map (node :: ·)

def Template.ofItems (items : List (Item Token)) (source : Text) : Except ItemError Template :=
  (nodesOfItems items).map fun nodes => ⟨nodes, source⟩

end FieldTemplate
