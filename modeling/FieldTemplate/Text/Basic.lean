/-!
# Text as a list of characters

A text is the list of its characters, so that every rule about it is a recursion
on the list.  Offsets in a text count characters; `Text.bytes` gives the length of
its UTF-8 form.  `cutDouble` finds the leftmost doubled character, which is how
both delimiters of a placeholder are recognised.
-/

namespace FieldTemplate

set_option autoImplicit false

/-- A text, character by character. -/
abbrev Text := List Char

namespace Text

/-- The number of bytes of the UTF-8 form. -/
def bytes : Text → Nat
  | [] => 0
  | c :: s => c.utf8Size + bytes s

@[simp] theorem bytes_nil : bytes [] = 0 := rfl

@[simp] theorem bytes_cons (c : Char) (s : Text) : bytes (c :: s) = c.utf8Size + bytes s := rfl

@[simp] theorem bytes_append (s t : Text) : bytes (s ++ t) = bytes s + bytes t := by
  induction s with
  | nil => simp
  | cons c s ih => simp [ih, Nat.add_assoc]

/-- The text before and after the leftmost place where `d` stands twice. -/
def cutDouble (d : Char) : Text → Option (Text × Text)
  | a :: b :: rest =>
    if a = d ∧ b = d then some ([], rest)
    else (cutDouble d (b :: rest)).map fun p => (a :: p.1, p.2)
  | _ => none

/-- A cut loses the two delimiter characters and nothing else. -/
theorem eq_of_cutDouble {d : Char} :
    ∀ {s before after : Text}, cutDouble d s = some (before, after) →
      s = before ++ d :: d :: after
  | [], _, _, h => by simp [cutDouble] at h
  | [_], _, _, h => by simp [cutDouble] at h
  | a :: b :: rest, before, after, h => by
    rw [cutDouble] at h
    split at h
    · next hd => simp_all
    · obtain ⟨⟨p, q⟩, hp, hq⟩ := Option.map_eq_some_iff.1 h
      cases hq
      simp [eq_of_cutDouble hp]

theorem length_of_cutDouble {d : Char} {s before after : Text}
    (h : cutDouble d s = some (before, after)) :
    s.length = before.length + 2 + after.length := by
  simp [eq_of_cutDouble h]; omega

/-- The parts of a text between the occurrences of a separator; never empty. -/
def splitOn (d : Char) : Text → List Text
  | [] => [[]]
  | c :: rest =>
    if c = d then [] :: splitOn d rest
    else match splitOn d rest with
      | part :: parts => (c :: part) :: parts
      | [] => [[c]]

/-- Parts with a separator text between them. -/
def join (sep : Text) : List Text → Text
  | [] => []
  | [part] => part
  | part :: parts => part ++ sep ++ join sep parts

/-- The text with every occurrence of one character replaced by a text. -/
def replaceChar (s : Text) (d : Char) (filler : Text) : Text :=
  s.flatMap fun c => if c = d then filler else [c]

/-- The text before and after the first occurrence of a character. -/
def cutAt (d : Char) : Text → Option (Text × Text)
  | [] => none
  | c :: rest => if c = d then some ([], rest) else (cutAt d rest).map fun p => (c :: p.1, p.2)

/-- The text with a single newline at the end of every line. -/
def unixLines : Text → Text
  | '\r' :: '\n' :: rest => '\n' :: unixLines rest
  | '\r' :: rest => '\n' :: unixLines rest
  | c :: rest => c :: unixLines rest
  | [] => []

/-- What follows an initial part of the text, if the text starts with it. -/
def dropStart? : Text → Text → Option Text
  | [], s => some s
  | _ :: _, [] => none
  | a :: start, c :: s => if a = c then dropStart? start s else none

def startsWith (start s : Text) : Bool := (dropStart? start s).isSome

def endsWith (tail s : Text) : Bool := startsWith tail.reverse s.reverse

/-- The base-ten digits of a number, without leading zeros. -/
def ofNat (n : Nat) : Text := Nat.toDigits 10 n

/-- The base-ten digits of an integer after a minus sign if it is negative. -/
def ofInt : Int → Text
  | .ofNat n => ofNat n
  | .negSucc n => '-' :: ofNat (n + 1)

/-- Integers with more digits than this are neither written in base ten nor read from it. -/
def digitLimit : Nat := 4300

/-- The base-ten digits of an integer, unless there are too many of them. -/
def ofInt? (n : Int) : Option Text :=
  if (ofNat n.natAbs).length ≤ digitLimit then some (ofInt n) else none

/-- A text filled on the left to a least width. -/
def padLeft (width : Nat) (fill : Char) (s : Text) : Text :=
  List.replicate (width - s.length) fill ++ s

/-- A text filled on the right to a least width. -/
def padRight (width : Nat) (fill : Char) (s : Text) : Text :=
  s ++ List.replicate (width - s.length) fill

def isDigit (c : Char) : Bool := '0' ≤ c && c ≤ '9'

/-- Why so many digits are not converted. -/
def digitLimitMessage (found : Text) : Text :=
  "Exceeds the limit (4300 digits) for integer string conversion".toList ++ found ++
    "; use sys.set_int_max_str_digits() to increase the limit".toList

/-- The value of a text read as base-ten digits; other characters count as zero. -/
def toNat (s : Text) : Nat :=
  s.foldl (fun n c => 10 * n + (c.toNat - '0'.toNat)) 0

/-- The text with the capital letters of ASCII in lower case. -/
def lowerAscii (s : Text) : Text := s.map Char.toLower

def isHexDigit (c : Char) : Bool :=
  isDigit c || ('a' ≤ c && c ≤ 'f') || ('A' ≤ c && c ≤ 'F')

/-- The value of a hexadecimal digit of either case; other characters count as zero. -/
def hexValue (c : Char) : Nat :=
  if isDigit c then c.toNat - '0'.toNat
  else if 'a' ≤ c && c ≤ 'f' then c.toNat - 'a'.toNat + 10
  else if 'A' ≤ c && c ≤ 'F' then c.toNat - 'A'.toNat + 10
  else 0

end Text

end FieldTemplate
