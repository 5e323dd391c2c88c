import FieldTemplate.Markdown.Piece
import FieldTemplate.Unicode.Lowercase

/-!
# Reference definitions

A line `[name]: target "title"` names a target for links elsewhere in the text.
-/

namespace FieldTemplate.Markdown

set_option autoImplicit false

structure Target where
  url : Text
  title : Option Text

/-- Names and targets, the latest definition first. -/
abbrev References := List (Text × Target)

/-- A definition, what stands before it, and what follows it. -/
structure Definition where
  name : Text
  target : Target
  before : Marked
  after : Marked

namespace Definition

def atLineEnd (m : Marked) : Bool := (m.head?.map (Piece.isChar '\n')).getD true

/-- A title up to its last closing mark on the line. -/
def closedBy (close : Char) (m : Marked) : Option (Text × Marked) :=
  let line := m.takeWhile fun p => !p.isChar '\n'
  match (Marked.dropRightChar ' ' line).getLast? with
  | some p =>
    if p.isChar close then
      some (Marked.plain (Marked.dropRightChar ' ' line).dropLast, m.drop line.length)
    else none
  | none => none

/-- A title in quotes or parentheses that ends its line. -/
def title? : Marked → Option (Text × Marked)
  | .char '"' :: m => closedBy '"' m
  | .char '\'' :: m => closedBy '\'' m
  | .char '(' :: m => closedBy ')' m
  | _ => none

/-- What may follow the target: a title on the same or on the next line, then the line end. -/
def ending? (m : Marked) : Option (Option Text × Marked) :=
  let sameLine := Marked.dropWhileChar ' ' m
  let nextLine : Option Marked :=
    match sameLine with
    | .char '\n' :: rest => some (Marked.dropWhileChar ' ' rest)
    | _ => none
  let withTitle (m : Marked) : Option (Option Text × Marked) :=
    match title? m with
    | some (title, rest) => some (some title, rest)
    | none => if atLineEnd m then some (none, m) else none
  (nextLine.bind withTitle).or (withTitle sameLine)

/-- The target and its ending, the longest target that allows one. -/
def target? : Nat → Marked → Option (Target × Marked)
  | 0, _ => none
  | length + 1, m =>
    match ending? (m.drop (length + 1)) with
    | some (title, rest) =>
      let url := Marked.plain (m.take (length + 1))
      let url := ((url.dropWhile (· == '<')).reverse.dropWhile (· == '>')).reverse
      some (⟨url, title.filter fun t => !t.isEmpty⟩, rest)
    | none => target? length m

/-- A definition at the start of a line. -/
def here? (m : Marked) : Option (Text × Target × Marked) :=
  match Marked.dropSpaces 3 m with
  | .char '[' :: m =>
    let isName (p : Piece) : Bool := !(p.isChar '[' || p.isChar ']')
    match m.dropWhile isName with
    | .char ']' :: .char ':' :: rest =>
      let rest := Marked.dropWhileChar ' ' rest
      let rest := match rest with
        | .char '\n' :: rest => Marked.dropWhileChar ' ' rest
        | rest => rest
      let length := (rest.takeWhile fun p => !p.isBlank).length
      (target? length rest).map fun t =>
        (Text.lower (Marked.plain (Marked.trim (m.takeWhile isName))), t)
    | _ => none
  | _ => none

/-- The first definition at the start of a line; `before` holds what was passed, last first. -/
def first? (before : Marked) (lineStart : Bool) : Marked → Option Definition
  | [] => none
  | p :: m =>
    let found := if lineStart then here? (p :: m) else none
    match found with
    | some (name, target, after) => some ⟨name, target, before.reverse, after⟩
    | none => first? (p :: before) (p.isChar '\n') m

/-- The definition in a block. -/
def of? (block : Marked) : Option Definition := first? [] true block

end Definition

end FieldTemplate.Markdown
