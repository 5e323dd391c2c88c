import FieldTemplate.Markdown.Piece
import FieldTemplate.Unicode.Category

/-!
# Shapes of lines

What the first characters of a line say about the block that it belongs to: headings, rules,
list items and quotes.
-/

namespace FieldTemplate.Markdown

set_option autoImplicit false

/-- The width of one step of indentation. -/
def indentWidth : Nat := 4

def isIndented (line : Marked) : Bool := indentWidth ≤ (Marked.spaces line).1

/-- Takes one step of indentation off every line up to the first line that has none. -/
def detab (lines : List Marked) : Marked × Marked :=
  let isInside (line : Marked) : Bool := isIndented line || line.allBlank
  let strip (line : Marked) : Marked := if isIndented line then line.drop indentWidth else []
  (Marked.unlines ((lines.takeWhile isInside).map strip),
    Marked.unlines (lines.dropWhile isInside))

/-- Takes so many steps of indentation off the lines that have them. -/
def looseDetab (steps : Nat) (block : Marked) : Marked :=
  let width := indentWidth * steps
  Marked.unlines ((Marked.lines block).map fun line =>
    if width ≤ (Marked.spaces line).1 then line.drop width else line)

/-! ## Headings and rules -/

/-- Splits a line into characters and backslash pairs; a backslash at the end has no pair. -/
def escapePairs : Marked → Option (List Marked)
  | [] => some []
  | [p] => if p.isChar '\\' then none else some [[p]]
  | p :: q :: m =>
    if p.isChar '\\' then (escapePairs m).map ([p, q] :: ·)
    else (escapePairs (q :: m)).map ([p] :: ·)

/-- Drops the number signs at the end that no backslash precedes. -/
def dropClosing (pairs : List Marked) : Marked :=
  let isSign : Marked → Bool
    | [p] => p.isChar '#'
    | _ => false
  ((pairs.reverse.dropWhile isSign).reverse).flatten

/-- The level and the text of a heading that is marked with number signs. -/
def hashHeading? (line : Marked) : Option (Nat × Marked) :=
  let level := min 6 (Marked.run '#' line).1
  if level = 0 then none
  else (escapePairs (line.drop level)).map fun pairs => (level, (dropClosing pairs).trim)

/-- The level that a line under a heading gives it. -/
def underline? (line : Marked) : Option Nat :=
  let body := Marked.dropRightChar ' ' line
  if !body.isEmpty && body.all (fun p => p.isChar '=' || p.isChar '-') then
    some (if (body.head?.map (Piece.isChar '=')).getD false then 1 else 2)
  else none

/-- The number of marks in a chain with at most two spaces between two of them, and what
follows the chain. -/
def markChain (mark : Char) : Nat → Marked → Nat × Marked
  | _, [] => (0, [])
  | gap, p :: m =>
    if p.isChar mark then
      let chain := markChain mark 0 m
      (chain.1 + 1, chain.2)
    else if p.isChar ' ' && gap < 2 then markChain mark (gap + 1) m
    else (0, p :: m)

/-- A line of at least three hyphens, underscores or asterisks. -/
def isRule (line : Marked) : Bool :=
  let body := Marked.dropSpaces 3 line
  ['-', '_', '*'].any fun mark =>
    (body.head?.map (Piece.isChar mark)).getD false &&
      let chain := markChain mark 0 body
      3 ≤ chain.1 && (Marked.dropWhileChar ' ' chain.2).isEmpty

/-! ## Lists and quotes -/

inductive ListKind where
  | bullets
  | numbers
deriving DecidableEq, Repr

/-- The kind of an item and its text, for a line that starts with the mark of an item. -/
def itemText? (line : Marked) : Option (ListKind × Marked) :=
  let afterSpaces (m : Marked) : Option Marked :=
    if (Marked.spaces m).1 = 0 then none else some (Marked.spaces m).2
  match line with
  | [] => none
  | p :: rest =>
    if p.isChar '*' || p.isChar '+' || p.isChar '-' then
      (afterSpaces rest).map (ListKind.bullets, ·)
    else
      let isDigit (p : Piece) : Bool := p.satisfies Unicode.decimalDigits.has
      match line.dropWhile isDigit with
      | dot :: rest =>
        if isDigit p && dot.isChar '.' then (afterSpaces rest).map (ListKind.numbers, ·) else none
      | [] => none

/-- An item of either kind, indented by less than one step. -/
def item? (line : Marked) : Option (ListKind × Marked) :=
  itemText? (Marked.dropSpaces 3 line)

/-- An item that is indented by one step but not by two. -/
def isInnerItem (line : Marked) : Bool :=
  let indent := (Marked.spaces line).1
  indentWidth ≤ indent && indent < 2 * indentWidth &&
    (itemText? (Marked.spaces line).2).isSome

/-- The items of a block that starts with one, last first: an inner item stays indented, and
inner items in a row are one. -/
def itemsOf : List Marked → List Marked → List Marked
  | items, [] => items
  | items, line :: rest =>
    let append (items : List Marked) : List Marked :=
      match items with
      | last :: others => (last ++ .char '\n' :: line) :: others
      | [] => [line]
    match item? line with
    | some (_, text) => itemsOf (text :: items) rest
    | none =>
      if isInnerItem line && !((items.head?.map isIndented).getD false) then
        itemsOf (line :: items) rest
      else itemsOf (append items) rest

/-- The text of a quoted line. -/
def quoted? (line : Marked) : Option Marked :=
  match Marked.dropSpaces 3 line with
  | p :: rest => if p.isChar '>' then some (Marked.dropSpaces 1 rest) else none
  | [] => none

/-- A line of a quote without its mark, if it has one. -/
def unquote (line : Marked) : Marked :=
  match line.trim, quoted? line with
  | [.char '>'], _ => []
  | _, some text => text
  | _, none => line

/-- The lines before and after the first line with a property, and what it gives. -/
def firstLine {α : Type} (find : Marked → Option α) :
    List Marked → Option (List Marked × α × List Marked)
  | [] => none
  | line :: rest =>
    match find line with
    | some found => some ([], found, rest)
    | none => (firstLine find rest).map fun r => (line :: r.1, r.2.1, r.2.2)

end FieldTemplate.Markdown
