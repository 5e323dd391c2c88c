import FieldTemplate.Console.Color

/-!
# Styles of a console

A style is written as words: attributes and what they are not, a colour, a background behind
`on`, the target of a link.  `normalStyle` is one text for all spellings of a style, and for a
text that is no style the text itself in lower case.
-/

namespace FieldTemplate.Console

set_option autoImplicit false

/-- The attributes in the order in which they are written. -/
def attributes : List Text :=
  ["bold", "dim", "italic", "underline", "blink", "blink2", "reverse", "conceal", "strike",
    "underline2", "frame", "encircle", "overline"].map String.toList

/-- Short names of attributes. -/
def shortNames : List (String × String) :=
  [("b", "bold"), ("d", "dim"), ("i", "italic"), ("u", "underline"), ("uu", "underline2"),
    ("r", "reverse"), ("c", "conceal"), ("s", "strike"), ("o", "overline")]

def attribute? (word : Text) : Option Text :=
  let full := ((shortNames.find? fun e => e.1.toList == word).map (·.2.toList)).getD word
  if attributes.contains full then some full else none

/-- `settings` holds for each attribute that is named whether it is on, the latest word first. -/
structure Style where
  settings : List (Text × Bool)
  color : Option Text
  background : Option Text
  link : Option Text

namespace Style

def null : Style := ⟨[], none, none, none⟩

/-- The words of a text between blanks. -/
def wordsOf (s : Text) : List Text :=
  (Text.splitOn ' ' (s.map fun c => if Text.isBlank c then ' ' else c)).filter (· ≠ [])

/-- A style with the meaning of the words added; a later word overrides an earlier one. -/
def ofWords (style : Style) : List Text → Except ColorError Style
  | [] => .ok style
  | word :: rest =>
    let lower := word.lower
    if lower = "on".toList then
      match rest with
      | color :: rest =>
        (readColor color).bind fun c => ofWords { style with background := some c } rest
      | [] => .error .malformed
    else if lower = "not".toList then
      match rest with
      | name :: rest =>
        match attribute? name with
        | some a => ofWords { style with settings := (a, false) :: style.settings } rest
        | none => .error .malformed
      | [] => .error .malformed
    else if lower = "link".toList then
      match rest with
      | target :: rest => ofWords { style with link := some target } rest
      | [] => .error .malformed
    else match attribute? lower with
      | some a => ofWords { style with settings := (a, true) :: style.settings } rest
      | none => (readColor lower).bind fun c => ofWords { style with color := some c } rest

/-- The words of a style in their fixed order. -/
def toWords (style : Style) : List Text :=
  (attributes.flatMap fun a =>
    match style.settings.find? fun e => e.1 == a with
    | some (_, true) => [a]
    | some (_, false) => ["not".toList, a]
    | none => []) ++
    style.color.toList ++
    (style.background.map fun c => ["on".toList, c]).getD [] ++
    (style.link.map fun target => ["link".toList, target]).getD []

end Style

/-- The one text of a style.  A style without any word is none. -/
def normalStyle (s : Text) : Except ColorError Text :=
  if Text.trim s = "none".toList then .ok "none".toList
  else match Style.null.ofWords (Style.wordsOf s) with
    | .ok style =>
      .ok (if style.toWords.isEmpty then "none".toList else Text.join [' '] style.toWords)
    | .error .malformed => .ok (Text.trim s).lower
    | .error .part => .error .part

end FieldTemplate.Console
