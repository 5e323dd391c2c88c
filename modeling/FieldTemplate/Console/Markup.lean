import FieldTemplate.Console.Emoji
import FieldTemplate.Console.Handler
import FieldTemplate.Console.Style
import FieldTemplate.Console.Wrap

/-!
# Console markup

A bracket with a lower-case word in it is a tag and does not show; a closing tag has to
match an open one of the same style, an empty one the latest.  Backslashes in front of a
bracket can turn a tag into text.  The text between tags is shown with its emoji and without
characters that would move the cursor.
-/

namespace FieldTemplate.Markup

set_option autoImplicit false

inductive MarkupError where
  /-- A closing tag without a matching open one. -/
  | unmatched
  /-- A handler whose arguments are no literals. -/
  | handler
  /-- A colour with a part that is no number. -/
  | color
deriving DecidableEq, Repr

inductive Part where
  | text (s : Text)
  | tag (s : Text)
deriving DecidableEq, Repr

def startsTag (c : Char) : Bool :=
  ('a' ≤ c && c ≤ 'z') || c == '#' || c == '/' || c == '@'

/-- The inside of a tag after its opening bracket, and what follows the tag. -/
def tagAt? : Text → Option (Text × Text)
  | c :: rest =>
    if startsTag c then
      let inside := rest.takeWhile fun d => d != ']' && d != '['
      match rest.drop inside.length with
      | ']' :: after => some (c :: inside, after)
      | _ => none
    else none
  | [] => none

def textPart (s : Text) : List Part := if s.isEmpty then [] else [.text s]

/-- The parts of a text.  `before` is the text since the last tag, latest character first, and
`slashes` counts the backslashes behind it. -/
def parts : Nat → Text → Nat → Text → List Part
  | 0, _, _, _ => []
  | _ + 1, before, slashes, [] => textPart (before.reverse ++ List.replicate slashes '\\')
  | fuel + 1, before, slashes, '\\' :: rest => parts fuel before (slashes + 1) rest
  | fuel + 1, before, slashes, '[' :: rest =>
    match tagAt? rest with
    | some (inside, after) =>
      let shown := textPart before.reverse ++ textPart (List.replicate (slashes / 2) '\\')
      let tag := if slashes % 2 = 1 then .text ('[' :: inside ++ [']']) else .tag inside
      shown ++ tag :: parts fuel [] 0 after
    | none => parts fuel ('[' :: List.replicate (slashes - 1) '\\' ++ before) 0 rest
  | fuel + 1, before, slashes, c :: rest =>
    parts fuel (c :: List.replicate slashes '\\' ++ before) 0 rest

def partsOf (s : Text) : List Part := parts (s.length + 1) [] 0 s

/-- A tag with the one text of its style and with its parameters. -/
structure Tag where
  style : Text
  parameters : Option Text

/-- The name of a tag and its parameters behind an equals sign. -/
def cutTag (s : Text) : Text × Option Text :=
  match Text.cutAt '=' s with
  | some (name, parameters) => (name, some parameters)
  | none => (s, none)

def normalStyle (s : Text) : Except MarkupError Text :=
  (Console.normalStyle s).mapError fun _ => .color

/-- What a tag is for: it opens a style, or closes one, or the latest of them. -/
inductive Mark where
  | opening (t : Tag)
  | closing (style : Text)
  | closingLatest

def markOf (s : Text) : Except MarkupError Mark :=
  match cutTag s with
  | ('/' :: name, _) =>
    if Text.allBlank name then .ok .closingLatest
    else (normalStyle (Text.trim name)).map .closing
  | (name, parameters) => (normalStyle name).map fun style => .opening ⟨style, parameters⟩

/-- A tag can be closed unless it names a handler that cannot be read. -/
def Tag.closes [Host] (t : Tag) : Except MarkupError Unit :=
  match t.style, t.parameters with
  | '@' :: _, some parameters =>
    if parameters.isEmpty || Console.isHandler parameters then .ok () else .error .handler
  | _, _ => .ok ()

/-- The text of a tag's style, which goes on with its parameters. -/
def Tag.text (t : Tag) : Text :=
  match t.parameters with
  | some parameters => t.style ++ ' ' :: parameters
  | none => t.style

/-- Whether the style of a tag can be looked up, which happens when its text is shown.  A style
that is none is no fault. -/
def Tag.resolves (t : Tag) : Bool :=
  match normalStyle t.text with
  | .ok _ => true
  | .error _ => false

/-- An open tag, with the number of characters in front of it. -/
structure Opened where
  start : Nat
  tag : Tag

/-- The latest tag of a style, and the other open tags, latest first. -/
def close [Host] (style : Text) : List Opened → Except MarkupError (Opened × List Opened)
  | [] => .error .unmatched
  | t :: rest =>
    if t.tag.style = style then t.tag.closes.map fun _ => (t, rest)
    else (close style rest).map fun (closed, others) => (closed, t :: others)

/-- The latest tag, and the other open tags. -/
def closeLatest [Host] : List Opened → Except MarkupError (Opened × List Opened)
  | [] => .error .unmatched
  | t :: rest => t.tag.closes.map fun _ => (t, rest)

/-- Bell, backspace, vertical tab, form feed and carriage return are never shown. -/
def movesCursor (c : Char) : Bool := [7, 8, 11, 12, 13].contains c.toNat

def shown (s : Text) : Text := (Console.withEmoji s.length s).filter fun c => !movesCursor c

/-- A text as it is shown. -/
structure Shown where
  glyphs : Console.Line
  /-- The places where there is no text in a style that cannot be looked up. -/
  bare : List Nat

/-- A text in front of others, with the tags that are open. -/
def Shown.behind (s : Text) (stack : List Opened) (others : Shown) : Shown :=
  { others with
    glyphs := s.map (⟨·, stack.any fun t => !t.tag.resolves⟩) ++ others.glyphs }

/-- The place of a tag that is closed right behind it, if its style cannot be looked up. -/
def Opened.bare (t : Opened) (position : Nat) : List Nat :=
  if t.start = position && !t.tag.resolves then [position] else []

def Shown.closing (t : Opened) (position : Nat) (others : Shown) : Shown :=
  { others with bare := t.bare position ++ others.bare }

/-- What the parts show behind so many characters, with the tags that are open, latest first.  Tags
that stay open are closed at the end. -/
def readParts [Host] (stack : List Opened) (position : Nat) :
    List Part → Except MarkupError Shown
  | [] => .ok ⟨[], stack.flatMap (Opened.bare · position)⟩
  | .text s :: rest =>
    (readParts stack (position + (shown s).length) rest).map (Shown.behind (shown s) stack)
  | .tag s :: rest =>
    (markOf s).bind fun
      | .opening t => readParts (⟨position, t⟩ :: stack) position rest
      | .closing style =>
        (close style stack).bind fun (t, stack) =>
          (readParts stack position rest).map (Shown.closing t position)
      | .closingLatest =>
        (closeLatest stack).bind fun (t, stack) =>
          (readParts stack position rest).map (Shown.closing t position)

/-- What a console shows for a text with markup. -/
def read [Host] (s : Text) : Except MarkupError Shown := readParts [] 0 (partsOf s)

end FieldTemplate.Markup
