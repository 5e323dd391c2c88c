import FieldTemplate.Yaml.Token.Basic

/-!
# Hosts

Some of what a command comes to is settled neither by its arguments nor by the files, but by the
machine and the interpreter that it runs on.  These are the fields of a `Host`: how deep its stack
is, in which blocks it takes the bytes of a file, what it calls the characters.  A document that
lies in itself is another such case, since its value has no end: every run sees a finite part of it,
and a host says how large a part.
-/

namespace FieldTemplate

set_option autoImplicit false

/-- The recursions that can use up the stack. -/
inductive Recursion where
  /-- A YAML node inside of collections, with the tokens from its first one on. -/
  | node (ahead : List Yaml.Token)
  /-- A JSON array or object inside of others. -/
  | json
  /-- A mapping that is merged into one that is merged itself. -/
  | mergeKey
  /-- A mapping that stands for a scalar by an entry that is such a mapping itself. -/
  | standIn
  /-- A mapping that is written onto one inside of another one that is written onto. -/
  | merge

/-- So many levels, none of them with more values. -/
structure Extent where
  levels : Nat
  breadth : Nat

class Host where
  /-- Whether the stack has room for so many levels of a recursion. -/
  room : Recursion → Nat → Bool
  /-- How far a document that lies in itself is unfolded. -/
  unfolding : Extent
  /-- Where the block of a file starts that holds the first of its bytes that cannot be taken, be it
  that they are no text or that no document has such a character. -/
  blockStart : List UInt8 → Nat
  /-- Whether a fault in front of that block is met before the block is taken. -/
  faultFirst : List UInt8 → Bool
  /-- The character of a name. -/
  named? : Text → Option Char

end FieldTemplate
