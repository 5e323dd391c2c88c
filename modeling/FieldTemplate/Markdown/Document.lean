import FieldTemplate.Markdown.Block
import FieldTemplate.Markdown.Inline
import FieldTemplate.Markdown.RawHtml

/-!
# Markdown to HTML

`Markdown.toHtml` writes a Markdown text as HTML: line ends and tabs are made uniform, raw
HTML is set apart, the rest is read as blocks and the text in each block by the rules for
text.  Every block stands on lines of its own.  Lists and quotations in each other are read to any
depth.
-/

namespace FieldTemplate.Markdown

set_option autoImplicit false

/-! ## The source text -/

/-- Writes tabs as spaces up to the next column that is a multiple of the indentation. -/
def expandTabs (column : Nat) : Text → Text
  | [] => []
  | c :: rest =>
    if c = '\t' then
      let width := indentWidth - column % indentWidth
      List.replicate width ' ' ++ expandTabs (column + width) rest
    else c :: expandTabs (if c = '\n' then 0 else column + 1) rest

/-- Empties the lines of spaces after the first line. -/
def emptyLines (s : Text) : Text :=
  match Text.splitOn '\n' s with
  | [] => []
  | first :: rest =>
    Text.join ['\n'] (first :: rest.map fun line => if line.all (· == ' ') then [] else line)

/-- The text without the two controls that have no place in it, in uniform lines. -/
def normalize (s : Text) : Text :=
  let s := s.filter fun c => c != '\x02' && c != '\x03'
  emptyLines (expandTabs 0 (Text.unixLines s ++ ['\n', '\n']))

/-! ## The HTML text -/

namespace BlockKind

def tag : BlockKind → Text
  | .document => "div".toList
  | .paragraph => "p".toList
  | .heading level => 'h' :: Text.ofNat level
  | .quote => "blockquote".toList
  | .list .bullets => "ul".toList
  | .list .numbers => "ol".toList
  | .item => "li".toList
  | .code => "code".toList
  | .rule => "hr".toList

end BlockKind

/-- A line end in place of blank text at the start. -/
def lineEndIfBlank (m : Marked) : Marked :=
  let run := m.takeWhile fun p => !p.isElement
  if Marked.allBlank run then .char '\n' :: m.drop run.length else m

/-- The HTML of a raw block that a paragraph holds alone. -/
def soleRawBlock? : Marked → Option Text
  | [.raw html] => if isBlockHtml html then some html else none
  | _ => none

/-- Code without blank lines at its end. -/
def codeHtml (text : Marked) : Text :=
  let shown : Piece → Text
    | .char c => escapeCode [c]
    | p => p.render
  text.trimRight.flatMap shown ++ ['\n']

/-- A block between its tags. -/
def Block.enclose (kind : BlockKind) (text : Marked) (children : Text) : Text :=
  match kind with
  | .rule => startTag kind.tag [] ++ [' ', '/', '>']
  | .code => "<pre><code>".toList ++ codeHtml text ++ "</code></pre>".toList
  | .document => text.render ++ children
  | .paragraph =>
    match soleRawBlock? text with
    | some html => html
    | none => startTag kind.tag [] ++ '>' :: text.render ++ children ++ endTag kind.tag
  | _ => startTag kind.tag [] ++ '>' :: text.render ++ children ++ endTag kind.tag

mutual

/-- The HTML of a block and of the text after it. -/
def Block.render (references : References) : Block → Text
  | .mk kind text children tail =>
    let text := if kind = .code then text else text.finish references !children.isEmpty
    let text := if children.isEmpty then text
      else if Marked.allBlank text then [.char '\n'] else text
    Block.enclose kind text (renderBlocks references children) ++
      (lineEndIfBlank (tail.finish references true)).render

def renderBlocks (references : References) : List Block → Text
  | [] => []
  | b :: rest => b.render references ++ renderBlocks references rest

end

/-- The HTML of a Markdown text. -/
def toHtml (s : Text) : Text :=
  if Text.allBlank s then []
  else
    let (document, references) := Block.ofText (RawHtml.separate (normalize s))
    Text.trim (document.render references)

end FieldTemplate.Markdown
