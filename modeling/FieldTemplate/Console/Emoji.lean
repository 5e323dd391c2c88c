import FieldTemplate.Console.EmojiName
import FieldTemplate.Unicode.Lowercase
import FieldTemplate.Text.Blank

/-!
# Emoji by name

A name between two colons stands for an emoji.  The name may end in the variant that is
wanted, text or emoji; a name that is not known stays as it is written.
-/

namespace FieldTemplate.Console

set_option autoImplicit false

/-- The characters of code points in hexadecimal digits with plus signs between them. -/
def ofCodes (s : Text) : Text :=
  (Text.splitOn '+' s).map fun ds => Char.ofNat (ds.foldl (fun n d => 16 * n + Text.hexValue d) 0)

/-- The emoji of a name. -/
def emoji? (name : Text) : Option Text :=
  emojiNames.findSome? fun line =>
    (Text.splitOn ' ' line.toList).findSome? fun entry =>
      (Text.dropStart? (name ++ ['=']) entry).map ofCodes

/-- The selectors of the variants. -/
def variants : List (Text × Text) :=
  [("-text".toList, ['\uFE0E']), ("-emoji".toList, ['\uFE0F'])]

/-- What a name between two colons stands for, with the selector of its variant. -/
def named? (inside : Text) : Option Text :=
  let (name, selector) : Text × Text :=
    match variants.find? fun v => Text.endsWith v.1 inside with
    | some (ending, selector) => (inside.take (inside.length - ending.length), selector)
    | none => (inside, [])
  (emoji? name.lower).map (· ++ selector)

/-- A text with names replaced by emoji.  A name reaches to the next colon and has no blank. -/
def withEmoji : Nat → Text → Text
  | 0, s => s
  | _ + 1, [] => []
  | fuel + 1, ':' :: rest =>
    let inside := rest.takeWhile fun c => c != ':' && !Text.isBlank c
    match rest.drop inside.length with
    | ':' :: after =>
      ((named? inside).getD (':' :: inside ++ [':'])) ++ withEmoji fuel after
    | _ => ':' :: withEmoji fuel rest
  | fuel + 1, c :: rest => c :: withEmoji fuel rest

end FieldTemplate.Console
