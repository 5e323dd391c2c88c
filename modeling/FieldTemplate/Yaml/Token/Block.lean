import FieldTemplate.Yaml.Token.Basic

/-!
# Block scalars

A literal scalar keeps its line breaks, a folded one joins lines that are neither empty nor
indented further.  The header says which final line breaks stay and how far the lines are
indented; where it does not, the first line that is not empty shows it.
-/

namespace FieldTemplate.Yaml.Block

set_option autoImplicit false

/-- What becomes of the line breaks at the end. -/
inductive Chomping where
  | clip
  | strip
  | keep
deriving DecidableEq, Repr

def chompingOf? : Char → Option Chomping
  | '+' => some .keep
  | '-' => some .strip
  | _ => none

/-- A digit from one to nine; zero is a fault, anything else no digit. -/
def increment (p : Cursor) : Read (Option Nat) :=
  let c := p.head
  if Text.isDigit c then
    if c = '0' then .error .malformed else .ok (some (c.toNat - '0'.toNat), p.next)
  else .ok (none, p)

/-- The header's two marks, in either order. -/
def header (p : Cursor) : Read (Chomping × Option Nat) :=
  let finish (c : Chomping) (n : Option Nat) (p : Cursor) : Read (Chomping × Option Nat) :=
    if isSpaceOrEnd p.head then .ok ((c, n), p) else .error .malformed
  match chompingOf? p.head with
  | some c =>
    match increment p.next with
    | .error e => .error e
    | .ok (n, p) => finish c n p
  | none =>
    match increment p with
    | .error e => .error e
    | .ok (none, p) => finish .clip none p
    | .ok (some n, p) =>
      match chompingOf? p.head with
      | some c => finish c (some n) p.next
      | none => finish .clip (some n) p

/-- Spaces, a comment and the end of the header's line. -/
def headerEnd (p : Cursor) : Read Unit :=
  let p := p.skipWhile (· == ' ')
  let p := if p.head = '#' then p.skipWhile fun c => !isBreakOrEnd c else p
  if isBreakOrEnd p.head then .ok ((), p.lineBreak.2) else .error .malformed

/-- Empty lines before the first line with text: their line breaks and the widest indentation. -/
def leading : Nat → Nat → Cursor → Text × Nat × Cursor
  | 0, widest, p => ([], widest, p)
  | fuel + 1, widest, p =>
    if p.head = ' ' then
      let p := p.next
      leading fuel (max widest p.column) p
    else if isBreak p.head then
      let (s, p) := p.lineBreak
      let (more, widest, p) := leading fuel widest p
      (s ++ more, widest, p)
    else ([], widest, p)

/-- Spaces up to the indentation. -/
def toIndent (indent : Nat) : Nat → Cursor → Cursor
  | 0, p => p
  | fuel + 1, p =>
    if p.column < indent ∧ p.head = ' ' then toIndent indent fuel p.next else p

/-- Empty lines before the next line with text. -/
def breaks (indent : Nat) : Nat → Cursor → Text × Cursor
  | 0, p => ([], p)
  | fuel + 1, p =>
    let p := toIndent indent p.fuel p
    if isBreak p.head then
      let (s, p) := p.lineBreak
      let (more, p) := breaks indent fuel p
      (s ++ more, p)
    else ([], p)

/-- The lines of a scalar with the line breaks before the first of them; then the last line's
break and the empty lines behind it. -/
def lines (folded : Bool) (indent : Nat) :
    Nat → Text → Cursor → Text × Text × Text × Cursor
  | 0, before, p => ([], [], before, p)
  | fuel + 1, before, p =>
    if p.column ≠ indent ∨ p.head = endMark then ([], [], before, p)
    else
      let textLine := !(p.head == ' ' || p.head == '\t')
      let (s, p) := p.takeWhile fun c => !isBreakOrEnd c
      let (lineEnd, p) := p.lineBreak
      let (empty, p) := breaks indent p.fuel p
      if p.column = indent ∧ p.head ≠ endMark then
        let joined := folded && lineEnd == ['\n'] && textLine && !(p.head == ' ' || p.head == '\t')
        let gap := if joined then (if empty.isEmpty then [' '] else []) else lineEnd
        let (more, lineEnd, empty, p) := lines folded indent fuel empty p
        (before ++ s ++ gap ++ more, lineEnd, empty, p)
      else (before ++ s, lineEnd, empty, p)

/-- A block scalar at its indicator, in a block of the given indentation. -/
def scalar (indent : Int) (p : Cursor) : Read Token :=
  let folded := p.head == '>'
  match header p.next with
  | .error e => .error e
  | .ok ((chomping, n?), p) =>
    match headerEnd p with
    | .error e => .error e
    | .ok ((), p) =>
      let least := (max 1 (indent + 1)).toNat
      let (indent, before, p) := match n? with
        | none =>
          let (s, widest, p) := leading p.fuel 0 p
          (max least widest, s, p)
        | some n =>
          let indent := least + n - 1
          let (s, p) := breaks indent p.fuel p
          (indent, s, p)
      let (s, lineEnd, empty, p) := lines folded indent p.fuel before p
      let tail := match chomping with
        | .strip => []
        | .clip => lineEnd
        | .keep => lineEnd ++ empty
      .ok (.scalar (s ++ tail).wide false, p)

end FieldTemplate.Yaml.Block
