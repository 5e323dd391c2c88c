import FieldTemplate.Markdown.Piece

/-!
# Rules for text inside blocks

A rule looks at one place of a text and may replace what it finds there by finished pieces.
Rules are used up one after the other: `inline` replaces the leftmost find of a rule, starts
over, and goes to the next rule when there is no more.  Text inside a new element is left
to the later rules.  `Marked.reread` then reads the texts between and inside nested elements
by all rules once more.
-/

namespace FieldTemplate.Markdown

set_option autoImplicit false

/-- A find whose texts the later rules are still to read. -/
inductive Draft where
  | text (m : Marked)
  | finished (p : Piece)
  | element (tag : Text) (attributes : List (Text × Text)) (content : List Draft)

namespace Draft

mutual

/-- The pieces of a find, its texts read by `read`. -/
def settle (read : Marked → Marked) : Draft → Marked
  | .text m => read m
  | .finished p => [p]
  | .element tag attributes content => [.element tag attributes (settleAll read content)]

def settleAll (read : Marked → Marked) : List Draft → Marked
  | [] => []
  | d :: rest => settle read d ++ settleAll read rest

end

end Draft

/-- What a rule makes of a place. -/
inductive Find where
  | nothing
  /-- So many pieces belong together and stay as they are. -/
  | pass (length : Nat)
  | put (content : List Draft) (rest : Marked)

/-- A rule sees the pieces before a place, nearest first, and those from it on. -/
abbrev Rule := (before here : Marked) → Find

namespace Rule

/-- The leftmost find after `passing` more pieces: what stands before it, the find, the rest. -/
def first? (rule : Rule) (passing : Nat) (before : Marked) :
    Marked → Option (Marked × List Draft × Marked)
  | [] => none
  | p :: m =>
    match passing with
    | n + 1 => first? rule n (p :: before) m
    | 0 =>
      match rule before (p :: m) with
      | .nothing => first? rule 0 (p :: before) m
      | .pass length => first? rule (length - 1) (p :: before) m
      | .put content rest => some (before.reverse, content, rest)

/-- Replaces the finds of a rule until there is none. -/
def exhaust (rule : Rule) (read : Marked → Marked) : Nat → Marked → Marked
  | 0, m => m
  | fuel + 1, m =>
    match rule.first? 0 [] m with
    | none => m
    | some (before, content, rest) =>
      rule.exhaust read fuel (before ++ Draft.settleAll read content ++ rest)

end Rule

/-- Reads a text by each of the rules in turn. -/
def inline : List Rule → Marked → Marked
  | [], m => m
  | rule :: rules, m => inline rules (rule.exhaust (inline rules) (m.length + 1) m)

/-! ## Nested elements -/

/-- The text before the first element, and the elements, each with the text after it. -/
def Marked.groups : Marked → Marked × List (Piece × Marked)
  | [] => ([], [])
  | p :: m =>
    let (text, groups) := Marked.groups m
    if p.isElement then ([], (p, text) :: groups) else (p :: text, groups)

/-- Reads the texts inside an element once more; the text before its first child only if
`whole`. -/
def Piece.reread (read : Marked → Marked) : Nat → Bool → Piece → Piece
  | fuel + 1, whole, .element tag attributes content =>
    let (text, groups) := Marked.groups content
    let text := if whole then (read text).map (Piece.reread read fuel false) else text
    .element tag attributes (text ++ groups.flatMap fun (child, after) =>
      (child :: read after).map (Piece.reread read fuel true))
  | _, _, p => p

/-- Reads the texts inside the elements of a text once more, and those between them too if
`whole`. -/
def Marked.reread (read : Marked → Marked) (fuel : Nat) (whole : Bool) (m : Marked) : Marked :=
  if whole then
    let (text, groups) := Marked.groups m
    text ++ groups.flatMap fun (child, after) =>
      (child :: read after).map (Piece.reread read fuel true)
  else m.map (Piece.reread read fuel false)

end FieldTemplate.Markdown
