import FieldTemplate.Markdown.Piece

/-!
# HTML of marked text

Characters that could be read as markup become entities; an ampersand that already starts a
character reference stays.  `render` writes finished and unfinished pieces alike.
-/

namespace FieldTemplate.Markdown

set_option autoImplicit false

/-- Whether a character reference follows an ampersand. -/
def startsReference (s : Text) : Bool :=
  let closes (isPart : Char → Bool) (s : Text) : Bool :=
    !(s.takeWhile isPart).isEmpty && (s.dropWhile isPart).head? == some ';'
  match s with
  | '#' :: 'x' :: rest => closes Text.isHexDigit rest
  | '#' :: 'X' :: rest => closes Text.isHexDigit rest
  | '#' :: rest => closes Text.isDigit rest
  | _ => closes Char.isAlphanum s

/-- Writes text between tags. -/
def escapeText : Text → Text
  | [] => []
  | '&' :: rest =>
    (if startsReference rest then ['&'] else "&amp;".toList) ++ escapeText rest
  | '<' :: rest => "&lt;".toList ++ escapeText rest
  | '>' :: rest => "&gt;".toList ++ escapeText rest
  | c :: rest => c :: escapeText rest

/-- Writes the value of an attribute. -/
def escapeAttribute (s : Text) : Text :=
  Text.replaceChar (escapeText s) '"' "&quot;".toList

/-- Writes code, in which an ampersand never starts a reference. -/
def escapeCode (s : Text) : Text :=
  s.flatMap fun
    | '&' => "&amp;".toList
    | '<' => "&lt;".toList
    | '>' => "&gt;".toList
    | c => [c]

/-- Elements without content and end tag. -/
def isVoid (tag : Text) : Bool :=
  tag == "br".toList || tag == "hr".toList || tag == "img".toList

def startTag (tag : Text) (attributes : List (Text × Text)) : Text :=
  '<' :: tag ++ attributes.flatMap fun a => ' ' :: a.1 ++ '=' :: '"' :: a.2 ++ ['"']

def endTag (tag : Text) : Text := '<' :: '/' :: tag ++ ['>']

mutual

/-- The HTML of a piece that is not a character. -/
def Piece.render : Piece → Text
  | .char c => [c]
  | .literal c => [c]
  | .raw html => html
  | .element tag attributes content =>
    if isVoid tag then startTag tag attributes ++ [' ', '/', '>']
    else startTag tag attributes ++ '>' :: renderAfter [] content ++ endTag tag

/-- The HTML of pieces that follow a text, which is written as one with their characters. -/
def renderAfter (before : Text) : Marked → Text
  | [] => escapeText before
  | .char c :: rest => renderAfter (before ++ [c]) rest
  | .literal c :: rest => renderAfter (before ++ [c]) rest
  | p :: rest => escapeText before ++ p.render ++ renderAfter [] rest

end

def Marked.render (m : Marked) : Text := renderAfter [] m

/-- Drops blank text at the start that only elements or nothing follow. -/
def Marked.dropBlankRun (m : Marked) : Marked :=
  match m.dropWhile Piece.isBlank with
  | [] => []
  | p :: rest => if p.isElement then p :: rest else m

def Piece.isLineBreak : Piece → Bool
  | .element tag _ _ => tag == "br".toList
  | _ => false

mutual

/-- Puts a line end after each line break, in place of blank text there. -/
def Piece.settleBreaks : Piece → Piece
  | .element tag attributes content => .element tag attributes (settleBreaksAll content)
  | p => p

def settleBreaksAll : Marked → Marked
  | [] => []
  | p :: rest =>
    let rest := settleBreaksAll rest
    if p.isLineBreak then p :: .char '\n' :: Marked.dropBlankRun rest
    else p.settleBreaks :: rest

end

end FieldTemplate.Markdown
