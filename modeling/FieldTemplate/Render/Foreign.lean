import FieldTemplate.Render.Basic
import FieldTemplate.Template.Foreign

/-!
# Rendering node lists from outside
-/

namespace FieldTemplate

set_option autoImplicit false

inductive NodeItemError where
  | node (a : Atom)
  | render (e : RenderError)

def NodeItemError.message : NodeItemError → Text
  | .node a => "Unexpected node: ".toList ++ a.shown
  | .render e => e.message

/-- The text of a list of items, up to the first fault. -/
def renderItems (mode : RenderMode) (data : Value) :
    List (Item Node) → Except NodeItemError WideText
  | [] => .ok []
  | .foreign a :: _ => .error (.node a)
  | .known node :: rest =>
    match (renderNode mode data node).result with
    | .error e => .error (.render e)
    | .ok s => (renderItems mode data rest).map (s ++ ·)

end FieldTemplate
