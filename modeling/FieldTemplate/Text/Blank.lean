import FieldTemplate.Text.Basic

/-!
# Blanks

The characters that count as blank around a path, a key or a value: Unicode's white
space and the four information separators U+001C to U+001F.  `trim` drops the blanks at
both ends and leaves the ones inside.
-/

namespace FieldTemplate

set_option autoImplicit false

namespace Text

def isBlank (c : Char) : Bool :=
  let n := c.toNat
  (9 ≤ n && n ≤ 13) || (28 ≤ n && n ≤ 32) || n == 0x85 || n == 0xA0 || n == 0x1680 ||
    (0x2000 ≤ n && n ≤ 0x200A) || n == 0x2028 || n == 0x2029 || n == 0x202F || n == 0x205F ||
    n == 0x3000

def trimLeft (s : Text) : Text := s.dropWhile isBlank

def trimRight (s : Text) : Text := (s.reverse.dropWhile isBlank).reverse

def trim (s : Text) : Text := trimRight (trimLeft s)

/-- Only blanks, or nothing at all. -/
def allBlank (s : Text) : Bool := s.all isBlank

end Text

end FieldTemplate
