import FieldTemplate.Text.Blank

/-!
# Pieces of marked text

Markdown is read by turning parts of a text into finished markup, one rule after the other.
Between two rules the text is a list of pieces: characters that are still to be read, and
parts that no later rule looks into.
-/

namespace FieldTemplate.Markdown

set_option autoImplicit false

inductive Piece where
  | char (c : Char)
  /-- A character that stands for itself whatever it is. -/
  | literal (c : Char)
  /-- Finished HTML. -/
  | raw (html : Text)
  /-- An element; the values of its attributes are as its author meant them, unless finished. -/
  | element (tag : Text) (attributes : List (Text × Text)) (content : List Piece)

/-- Text in which some parts are finished. -/
abbrev Marked := List Piece

namespace Piece

def char? : Piece → Option Char
  | .char c => some c
  | _ => none

def isChar (c : Char) : Piece → Bool
  | .char d => c == d
  | _ => false

def satisfies (p : Char → Bool) : Piece → Bool
  | .char c => p c
  | _ => false

def isBlank (p : Piece) : Bool := p.satisfies Text.isBlank

def isElement : Piece → Bool
  | .element .. => true
  | _ => false

mutual

/-- The characters of a piece without its markup. -/
def plain : Piece → Text
  | .char c => [c]
  | .literal c => [c]
  | .raw html => html
  | .element _ _ content => plainAll content

def plainAll : Marked → Text
  | [] => []
  | p :: rest => plain p ++ plainAll rest

end

end Piece

namespace Marked

def ofText (s : Text) : Marked := s.map .char

/-- The text that remains without markup. -/
def plain (m : Marked) : Text := Piece.plainAll m

/-- The text of pieces that are all still to be read. -/
def chars? (m : Marked) : Option Text := m.mapM Piece.char?

def allBlank (m : Marked) : Bool := m.all Piece.isBlank

def trimLeft (m : Marked) : Marked := m.dropWhile Piece.isBlank

def trimRight (m : Marked) : Marked := (m.reverse.dropWhile Piece.isBlank).reverse

def trim (m : Marked) : Marked := trimRight (trimLeft m)

/-- What follows a text at the start, if the pieces start with it. -/
def dropText? : Text → Marked → Option Marked
  | [], m => some m
  | _ :: _, [] => none
  | c :: s, p :: m => if p.isChar c then dropText? s m else none

/-- The run of one character at the start: its length and what follows. -/
def run (c : Char) (m : Marked) : Nat × Marked :=
  ((m.takeWhile (Piece.isChar c)).length, m.dropWhile (Piece.isChar c))

/-- The spaces at the start and what follows. -/
def spaces (m : Marked) : Nat × Marked := run ' ' m

/-- Drops at most so many spaces at the start. -/
def dropSpaces : Nat → Marked → Marked
  | 0, m => m
  | _, [] => []
  | n + 1, p :: m => if p.isChar ' ' then dropSpaces n m else p :: m

def dropWhileChar (c : Char) (m : Marked) : Marked := m.dropWhile (Piece.isChar c)

def dropRightChar (c : Char) (m : Marked) : Marked :=
  (m.reverse.dropWhile (Piece.isChar c)).reverse

/-- The pieces before and after the first occurrence of a character. -/
def cutAt (c : Char) (m : Marked) : Option (Marked × Marked) :=
  match m.dropWhile fun p => !p.isChar c with
  | [] => none
  | _ :: after => some (m.takeWhile fun p => !p.isChar c, after)

/-- The lines of a text; never empty. -/
def lines : Marked → List Marked
  | [] => [[]]
  | p :: m =>
    if p.isChar '\n' then [] :: lines m
    else match lines m with
      | line :: rest => (p :: line) :: rest
      | [] => [[p]]

def unlines : List Marked → Marked
  | [] => []
  | [line] => line
  | line :: rest => line ++ .char '\n' :: unlines rest

/-- The parts of a text between pairs of line ends, cut from the left; never empty. -/
def blocks : Marked → List Marked
  | p :: q :: m =>
    if p.isChar '\n' && q.isChar '\n' then [] :: blocks m
    else match blocks (q :: m) with
      | block :: rest => (p :: block) :: rest
      | [] => [[p]]
  | m => [m]

/-- The shortest first part of a text with a property, which is asked of its last piece and of
what follows it. -/
def findCut? {α : Type} (find : Piece → Marked → Option α) : Marked → Option (Marked × α)
  | [] => none
  | p :: m =>
    match find p m with
    | some found => some ([p], found)
    | none => (findCut? find m).map fun cut => (p :: cut.1, cut.2)

end Marked

end FieldTemplate.Markdown
