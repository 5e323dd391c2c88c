import FieldTemplate.Markdown.Line
import FieldTemplate.Markdown.Reference

/-!
# Blocks

A Markdown text is a tree of blocks.  `Block.read` builds it: a text falls into parts at
blank lines, each part is tried as one kind of block after the other (`Shape.of`), and what
is left of it goes back in front of the parts that follow.
-/

namespace FieldTemplate.Markdown

set_option autoImplicit false

inductive BlockKind where
  | document
  | paragraph
  | heading (level : Nat)
  | quote
  | list (kind : ListKind)
  | item
  | code
  | rule
deriving DecidableEq, Repr

/-- A block with the text before its children and the text after it. -/
inductive Block where
  | mk (kind : BlockKind) (text : Marked) (children : List Block) (tail : Marked)

namespace Block

def kind : Block → BlockKind | mk k _ _ _ => k
def text : Block → Marked | mk _ t _ _ => t
def children : Block → List Block | mk _ _ c _ => c
def tail : Block → Marked | mk _ _ _ t => t

def leaf (kind : BlockKind) (text : Marked) : Block := mk kind text [] []

def setText (b : Block) (text : Marked) : Block := mk b.kind text b.children b.tail
def setTail (b : Block) (tail : Marked) : Block := mk b.kind b.text b.children tail
def setChildren (b : Block) (children : List Block) : Block := mk b.kind b.text children b.tail

def add (b child : Block) : Block := b.setChildren (b.children ++ [child])

def last? (b : Block) : Option Block := b.children.getLast?

/-- Changes the last child, if there is one. -/
def mapLast (f : Block → Block) (b : Block) : Block :=
  match b.last? with
  | some child => b.setChildren (b.children.dropLast ++ [f child])
  | none => b

def isList (b : Block) : Bool :=
  match b.kind with
  | .list _ => true
  | _ => false

def isItem (b : Block) : Bool := b.kind == .item

/-- Moves the text of an item into a paragraph in front of its children. -/
def loosen (item : Block) : Block :=
  if item.text.isEmpty then item
  else mk item.kind [] (leaf .paragraph item.text :: item.children) item.tail

/-- Moves the text after the last child of an item into a paragraph of its own. -/
def settleTail (item : Block) : Block :=
  match item.last? with
  | some child =>
    if child.tail.isEmpty then item
    else (item.mapLast (·.setTail [])).add (leaf .paragraph child.tail.trimLeft)
  | none => item

end Block

/-! ## Reading -/

/-- Where a part of the text stands. -/
inductive Setting where
  | plain
  /-- An item of a list without blank lines between its items. -/
  | tight
  /-- The first item after a blank line. -/
  | loose
  | quoted
  /-- A part whose indentation was just taken off. -/
  | detabbed
deriving DecidableEq, Repr

/-- What a part of the text starts with; `before` and `after` are read as parts of their own. -/
inductive Shape where
  | blank (after : Option Marked)
  | indentedItem
  | code (text after : Marked)
  | heading (before : Marked) (level : Nat) (text after : Marked)
  | rule (before after : Marked)
  | list (kind : ListKind) (items : List Marked)
  | quote (before text : Marked)
  | definition (d : Definition)
  | paragraph

namespace Shape

def blank? (part : Marked) : Option Shape :=
  match part with
  | [] => some (.blank none)
  | .char '\n' :: rest => some (.blank (if rest.isEmpty then none else some rest))
  | _ => none

/-- An indented part goes to the last item of the list before it. -/
def indented? (setting : Setting) (parent : Block) (part : Marked) : Option Shape :=
  if isIndented part && setting != .detabbed &&
      (parent.isItem || (parent.last?.map Block.isList).getD false) then some .indentedItem
  else none

def code? (part : Marked) : Option Shape :=
  if isIndented part then
    let cut := detab (Marked.lines part)
    some (.code cut.1 cut.2)
  else none

def hashHeading? (part : Marked) : Option Shape :=
  (firstLine Markdown.hashHeading? (Marked.lines part)).map fun found =>
    .heading (Marked.unlines found.1) found.2.1.1 found.2.1.2 (Marked.unlines found.2.2)

def underlined? (part : Marked) : Option Shape :=
  match Marked.lines part with
  | title :: under :: rest =>
    (underline? under).map fun level => .heading [] level title.trim (Marked.unlines rest)
  | _ => none

def rule? (part : Marked) : Option Shape :=
  (firstLine (fun line => if isRule line then some () else none) (Marked.lines part)).map
    fun found => .rule (Marked.dropRightChar '\n' (Marked.unlines found.1))
      (Marked.dropWhileChar '\n' (Marked.unlines found.2.2))

def list? (part : Marked) : Option Shape :=
  let lines := Marked.lines part
  (lines.head?.bind item?).map fun first => .list first.1 (itemsOf [] lines).reverse

def quote? (part : Marked) : Option Shape :=
  (firstLine (fun line => (quoted? line).map fun _ => line) (Marked.lines part)).map
    fun found => .quote (Marked.unlines found.1)
      (Marked.unlines ((found.2.1 :: found.2.2).map unquote))

def definition? (part : Marked) : Option Shape := (Definition.of? part).map .definition

def of (setting : Setting) (parent : Block) (part : Marked) : Shape :=
  ((blank? part).or <| (indented? setting parent part).or <| (code? part).or <|
    (hashHeading? part).or <| (underlined? part).or <| (rule? part).or <| (list? part).or <|
    (quote? part).or (definition? part)).getD .paragraph

end Shape

namespace Block

/-- Adds code after other code, or as a block of its own. -/
def addCode (text : Marked) (parent : Block) : Block :=
  let line := text.trimRight ++ [.char '\n']
  if (parent.last?.map Block.kind) = some .code then
    parent.mapLast fun code => code.setText (code.text ++ .char '\n' :: line)
  else parent.add (leaf .code line)

/-- Blank lines count inside code only. -/
def addBlank (lines : Nat) (parent : Block) : Block :=
  if (parent.last?.map Block.kind) = some .code then
    parent.mapLast fun code =>
      code.setText (code.text ++ List.replicate lines (.char '\n'))
  else parent

/-- Adds plain text: as a paragraph, or as text of the item of a tight list. -/
def addText (setting : Setting) (part : Marked) (parent : Block) : Block :=
  if part.allBlank then parent
  else if setting = .tight then
    if parent.children.isEmpty then
      parent.setText (if parent.text.isEmpty then part.trimLeft
        else parent.text ++ .char '\n' :: part.trimLeft)
    else parent.mapLast fun child => child.setTail (child.tail ++ .char '\n' :: part)
  else parent.add (leaf .paragraph part.trimLeft)

/-- The steps of indentation that lead to a place in the lists at the end of a block, and the
number of last children on the way there. -/
def descend (steps : Nat) : Nat → Nat → Nat → Block → Nat × Nat
  | 0, level, depth, _ => (level, depth)
  | fuel + 1, level, depth, b =>
    if level < steps then
      match b.last? with
      | some child =>
        if child.isList then descend steps fuel (level + 1) (depth + 1) child
        else if child.isItem then descend steps fuel level (depth + 1) child
        else (level, depth)
      | none => (level, depth)
    else (level, depth)

/-- The block that many last children down. -/
def lastAt : Nat → Block → Block
  | 0, b => b
  | depth + 1, b => (b.last?.map (lastAt depth)).getD b

/-- Changes the block that many last children down. -/
def mapLastAt (f : Block → Block) : Nat → Block → Block
  | 0, b => f b
  | depth + 1, b => b.mapLast (mapLastAt f depth)

/-- A computation that collects the references on its way. -/
abbrev Collecting := StateM References

/-- Replaces the block that many last children down by what a reading makes of it. -/
def readLastAt (depth : Nat) (read : Block → Collecting Block) (b : Block) : Collecting Block := do
  let inner ← read (lastAt depth b)
  return mapLastAt (fun _ => inner) depth b

/-- Reads parts of a text as children of a block. -/
def read : Nat → Setting → List Marked → Block → Collecting Block
  | 0, _, _, parent => return parent
  | _, _, [], parent => return parent
  | fuel + 1, setting, part :: rest, parent => do
    let remaining (after : Marked) : List Marked := if after.isEmpty then rest else after :: rest
    match Shape.of setting parent part with
    | .blank after =>
      let lines := if part.isEmpty then 2 else 1
      read fuel setting (remaining (after.getD [])) (parent.addBlank lines)
    | .indentedItem =>
      let steps := (Marked.spaces part).1 / indentWidth
      let level := if setting = .tight then 1 else 0
      let (level, depth) := descend steps (2 * part.length + 2) level 0 parent
      let inner := looseDetab level part
      let target := lastAt depth parent
      let parent ←
        if parent.isItem then
          let depth := if (parent.last?.map isList).getD false then 1 else 0
          readLastAt depth (read fuel .detabbed [inner]) parent
        else if target.isItem then
          readLastAt depth (read fuel .detabbed [inner]) parent
        else if (target.last?.map isItem).getD false then
          readLastAt (depth + 1)
            (fun item => read fuel .detabbed (Marked.blocks inner) item.loosen) parent
        else do
          let item ← read fuel .detabbed [inner] (leaf .item [])
          return mapLastAt (·.add item) depth parent
      read fuel setting rest parent
    | .code text after =>
      read fuel setting (remaining after) (parent.addCode text)
    | .heading before level text after =>
      let parent ← if before.isEmpty then pure parent else read fuel setting [before] parent
      let after := if setting = .loose then looseDetab 1 after else after
      read fuel setting (remaining after) (parent.add (leaf (.heading level) text))
    | .rule before after =>
      let parent ← if before.isEmpty then pure parent else read fuel setting [before] parent
      read fuel setting (remaining after) (parent.add (leaf .rule []))
    | .list kind items =>
      let add (list : Block) (text : Marked) : Collecting Block :=
        if isIndented text && !list.children.isEmpty then
          readLastAt 1 (read fuel .tight [text]) list
        else do
          let item ← read fuel .tight [text] (leaf .item [])
          return list.add item
      if (parent.last?.map isList).getD false then
        let parent := parent.mapLast (mapLast fun item => item.loosen.settleTail)
        let first ← read fuel .loose (items.take 1) (leaf .item [])
        let parent ← readLastAt 1 (fun list => (items.drop 1).foldlM add (list.add first)) parent
        read fuel setting rest parent
      else if parent.isList then
        let parent ← items.foldlM add parent
        read fuel setting rest parent
      else
        let list ← items.foldlM add (leaf (.list kind) [])
        read fuel setting rest (parent.add list)
    | .quote before text =>
      let parent ← read fuel setting [before] parent
      let parent :=
        if (parent.last?.map Block.kind) = some .quote then parent
        else parent.add (leaf .quote [])
      let parent ← readLastAt 1 (read fuel .quoted (Marked.blocks text)) parent
      read fuel setting rest parent
    | .definition d =>
      modify ((d.name, d.target) :: ·)
      let after := Marked.dropWhileChar '\n' d.after
      let rest := if d.after.allBlank then rest else after :: rest
      let before := Marked.dropRightChar '\n' d.before
      read fuel setting (if d.before.allBlank then rest else before :: rest) parent
    | .paragraph => read fuel setting rest (parent.addText setting part)

/-- The blocks of a text and the references that it defines. -/
def ofText (text : Marked) : Block × References :=
  ((leaf .document []).read (5 * text.length + 8) .plain (Marked.blocks text)).run []

end Block

end FieldTemplate.Markdown
