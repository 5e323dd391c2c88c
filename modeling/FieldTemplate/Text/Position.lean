import FieldTemplate.Text.Basic

/-!
# Positions in a text

A place in a text is known by its character index, by the length of the UTF-8 form of
what stands before it, and by line and column.  `ByteCounter` answers byte offsets one
query after the other and counts only what lies beyond the previous query.
-/

namespace FieldTemplate

set_option autoImplicit false

/-- A one-based line and column. -/
structure Place where
  line : Nat
  column : Nat
deriving DecidableEq, Repr

namespace Text

/-- Characters before the first newline, or all of them. -/
def untilNewline (s : Text) : Text := s.takeWhile (· ≠ '\n')

/-- The line and column of a character index.  Only a newline ends a line; an index past the
end counts on along the last line. -/
def placeOf (s : Text) (position : Nat) : Place :=
  let before := s.take position
  let lineStart := before.length - (untilNewline before.reverse).length
  ⟨before.count '\n' + 1, position - lineStart + 1⟩

/-- The byte offset of a character index; an index past the end counts as the end. -/
def byteOffset (s : Text) (position : Nat) : Nat := bytes (s.take position)

end Text

/-- The last answered index of a text and its byte offset. -/
structure ByteCounter where
  source : Text
  index : Nat
  offset : Nat

namespace ByteCounter

def start (source : Text) : ByteCounter := ⟨source, 0, 0⟩

/-- Counts on from the last answer; a query before it starts again from the beginning. -/
def query (counter : ByteCounter) (index : Nat) : Nat × ByteCounter :=
  let (fromIndex, fromOffset) :=
    if index < counter.index then (0, 0) else (counter.index, counter.offset)
  let offset := fromOffset + Text.bytes ((counter.source.drop fromIndex).take (index - fromIndex))
  (offset, { counter with index := index, offset := offset })

/-- The answers to a list of queries, in order. -/
def queries (counter : ByteCounter) : List Nat → List Nat
  | [] => []
  | index :: rest =>
    let (offset, next) := counter.query index
    offset :: next.queries rest

end ByteCounter

end FieldTemplate
