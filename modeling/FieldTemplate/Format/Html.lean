import FieldTemplate.Text.Wide

/-!
# HTML text

The five characters that can end or start markup are written as entities, in text and in
attribute values alike.
-/

namespace FieldTemplate.Html

set_option autoImplicit false

def escapeChar : Char → Text
  | '&' => "&amp;".toList
  | '<' => "&lt;".toList
  | '>' => "&gt;".toList
  | '"' => "&quot;".toList
  | '\'' => "&#x27;".toList
  | c => [c]

/-- A surrogate cannot be markup. -/
def escapePoint : CodePoint → WideText
  | .char c => (escapeChar c).wide
  | p => [p]

def escape (s : WideText) : WideText := s.flatMap escapePoint

end FieldTemplate.Html
