import FieldTemplate.Text.Basic

/-!
# Paths

A path is a list of parts; empty parts and lone dots do not count, and the path of no parts
is written as a dot.  A path that starts with a slash starts at the root; exactly two slashes
are a root of their own kind, more are one.
-/

namespace FieldTemplate

set_option autoImplicit false

structure Path where
  /-- The slashes that the path starts with; none if it starts at the working directory. -/
  root : Text
  parts : List Text
deriving DecidableEq, Repr

namespace Path

def rootOf : Text → Text
  | '/' :: '/' :: '/' :: _ => ['/']
  | '/' :: '/' :: _ => ['/', '/']
  | '/' :: _ => ['/']
  | _ => []

def ofText (s : Text) : Path :=
  ⟨rootOf s,
    (Text.splitOn '/' s).filter fun part => !(part == [] || part == ['.'])⟩

def absolute (p : Path) : Bool := !p.root.isEmpty

def toText (p : Path) : Text :=
  if p.absolute then p.root ++ Text.join ['/'] p.parts
  else if p.parts.isEmpty then ['.'] else Text.join ['/'] p.parts

def name (p : Path) : Text := p.parts.getLastD []

/-- The path without its last part. -/
def parent (p : Path) : Path := { p with parts := p.parts.dropLast }

def child (p : Path) (part : Text) : Path := { p with parts := p.parts ++ [part] }

/-- The name from its last dot on, if something stands before and behind that dot. -/
def suffix (p : Path) : Text :=
  let after := (p.name.reverse.takeWhile (· ≠ '.')).reverse
  let dots := p.name.length - after.length
  if after.isEmpty || dots ≤ 1 then [] else '.' :: after

end Path

end FieldTemplate
