import FieldTemplate.Template.Error

/-!
# Field paths

A path is a lone dot for the whole of the data, or ASCII identifiers with a dot between
them; one more dot may stand in front.
-/

namespace FieldTemplate

set_option autoImplicit false

namespace FieldPath

def isWordStart (c : Char) : Bool :=
  ('A' ≤ c && c ≤ 'Z') || ('a' ≤ c && c ≤ 'z') || c == '_'

def isWordChar (c : Char) : Bool := isWordStart c || ('0' ≤ c && c ≤ '9')

def isIdentifier : Text → Bool
  | [] => false
  | c :: rest => isWordStart c && rest.all isWordChar

/-- The path without the mark of the root. -/
def unrooted : Text → Text
  | '.' :: rest => rest
  | path => path

/-- The segments of a path; the lone dot has none. -/
def parse (path : Text) : Except PathError (List Text) :=
  if path = ['.'] then .ok []
  else
    let segments := Text.splitOn '.' (unrooted path)
    if segments.all isIdentifier then .ok segments else .error ⟨path⟩

end FieldPath

end FieldTemplate
