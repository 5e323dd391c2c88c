import FieldTemplate.Console.Literal
import FieldTemplate.Text.Blank
import FieldTemplate.Unicode.Word

/-!
# Handlers in tags

The parameters of a tag that starts with an at sign are a handler's name, its arguments in
parentheses, or both.  Arguments are literals.  What is no name with arguments has to be a literal
as a whole.  Square brackets cannot stand in a tag.
-/

namespace FieldTemplate.Console

set_option autoImplicit false

/-- Whether the parameters of a handler can be read. -/
def isHandler [Host] (parameters : Text) : Bool :=
  let s := Text.trim parameters
  let arguments := s.dropWhile fun c => Unicode.isWord c || c == '.'
  if arguments.isEmpty then true
  else if arguments.head? = some '(' ∧ arguments.getLast? = some ')' ∧ '\n' ∉ arguments then
    isLiteral arguments
  else isLiteral s

end FieldTemplate.Console
