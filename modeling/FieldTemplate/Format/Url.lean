import FieldTemplate.Text.Blank
import FieldTemplate.Unicode.Category
import FieldTemplate.Unicode.Lowercase
import FieldTemplate.Unicode.Normalization

/-!
# URL path fragments

`Url.fragment` turns a text into a part of a URL path: blanks around it go, spaces become
hyphens, `sanitize` keeps only what a path may be made of, accents and upper case go if the
options say so, and `percentEncode` writes every other byte as an escape.
-/

namespace FieldTemplate.Url

set_option autoImplicit false

/-- Punctuation with a place in a path. -/
def isPathPunctuation (c : Char) : Bool :=
  c == '.' || c == '/' || c == '\\' || c == '_' || c == '-' || c == '#' || c == '+' || c == '~'

/-- Letters, marks, decimal digits and path punctuation stay. -/
def isKept (c : Char) : Bool :=
  Unicode.letters.has c || Unicode.marks.has c || Unicode.decimalDigits.has c ||
    isPathPunctuation c

/-- Keeps percent escapes and the characters with a place in a path. -/
def sanitize : Text → Text
  | '%' :: a :: b :: rest =>
    if Text.isHexDigit a && Text.isHexDigit b then '%' :: a :: b :: sanitize rest
    else sanitize (a :: b :: rest)
  | c :: rest => if isKept c then c :: sanitize rest else sanitize rest
  | [] => []

/-- Takes the nonspacing marks off their letters. -/
def removeAccents (s : Text) : Text :=
  Text.composed (s.decomposed.filter fun c => !Unicode.nonspacingMarks.has c)

def isUnreserved (c : Char) : Bool :=
  ('A' ≤ c && c ≤ 'Z') || ('a' ≤ c && c ≤ 'z') || ('0' ≤ c && c ≤ '9') ||
    c == '_' || c == '.' || c == '-' || c == '~'

/-- Characters that a fragment shows as they are. -/
def isSafe (c : Char) : Bool :=
  isUnreserved c || c == '/' || c == '#' || c == '%' || c == '+' || c == '\\'

def hexUpper (n : Nat) : Char :=
  if n < 10 then Char.ofNat ('0'.toNat + n) else Char.ofNat ('A'.toNat + (n - 10))

/-- The escape of one byte. -/
def escapeByte (b : Nat) : Text := ['%', hexUpper (b / 16), hexUpper (b % 16)]

/-- The bytes of the UTF-8 form of a character. -/
def utf8Bytes (c : Char) : List Nat :=
  let n := c.toNat
  if n < 0x80 then [n]
  else if n < 0x800 then [0xC0 + n / 64, 0x80 + n % 64]
  else if n < 0x10000 then [0xE0 + n / 4096, 0x80 + n / 64 % 64, 0x80 + n % 64]
  else [0xF0 + n / 262144, 0x80 + n / 4096 % 64, 0x80 + n / 64 % 64, 0x80 + n % 64]

def percentEncode (s : Text) : Text :=
  s.flatMap fun c => if isSafe c then [c] else (utf8Bytes c).flatMap escapeByte

structure Options where
  lower : Bool
  removeAccents : Bool
deriving DecidableEq, Repr

/-- Lower case, accents stay. -/
def Options.usual : Options := ⟨true, false⟩

def fragment (options : Options) (s : Text) : Text :=
  let path := sanitize ((Text.trim s).replaceChar ' ' ['-'])
  let path := if options.removeAccents then removeAccents path else path
  let path := if options.lower then path.lower else path
  percentEncode path

end FieldTemplate.Url
