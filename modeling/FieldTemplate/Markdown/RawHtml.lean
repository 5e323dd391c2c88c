import FieldTemplate.Markdown.Piece

/-!
# Raw HTML in a Markdown text

HTML that starts a line with a block-level tag passes through unread up to the end tag that
matches, and stands in a block of its own.  `separate` finds these parts; everything else
stays as characters.
-/

namespace FieldTemplate.Markdown

set_option autoImplicit false

/-- Tags of elements that are no part of a paragraph. -/
def blockTags : List String := [
  "address", "article", "aside", "blockquote", "details", "div", "dl", "fieldset",
  "figcaption", "figure", "footer", "form", "h1", "h2", "h3", "h4", "h5", "h6", "header",
  "hgroup", "hr", "main", "menu", "nav", "ol", "p", "pre", "section", "table", "ul",
  "canvas", "colgroup", "dd", "body", "dt", "group", "html", "iframe", "li", "legend",
  "math", "map", "noscript", "output", "object", "option", "progress", "script", "style",
  "summary", "tbody", "td", "textarea", "tfoot", "th", "thead", "tr", "video", "center"]

def isBlockTag (tag : Text) : Bool :=
  let name := (tag.reverse.dropWhile (· == '/')).reverse
  blockTags.any fun t => t.toList == Text.lowerAscii name

/-- Whether finished HTML is a block: it opens with a block-level tag or a declaration. -/
def isBlockHtml (html : Text) : Bool :=
  match Text.dropStart? ['<'] html with
  | none => false
  | some rest =>
    let rest := (Text.dropStart? ['/'] rest).getD rest
    match rest.takeWhile fun c => c != ' ' && c != '>' with
    | [] => false
    | c :: name => c == '!' || c == '?' || c == '@' || c == '%' || isBlockTag (c :: name)

namespace RawHtml

/-! ## Tags -/

/-- A start tag as written, and what follows it. -/
structure StartTag where
  name : Text
  written : Text
  selfClosing : Bool
  rest : Text

/-- What stands after `<` and a letter. -/
inductive Opening where
  | tag (t : StartTag)
  /-- No tag: the text up to the place where that shows. -/
  | text (written rest : Text)
  /-- The tag does not end. -/
  | unfinished

def isTagNameChar (c : Char) : Bool :=
  !(c == '\u0060' || c == '\t' || c == '\n' || c == '\r' || c == '\x0c' || c == ' ' || c == '/' ||
    c == '>' || c == '\x00')

/-- The name of an end tag may hold a backtick. -/
def isEndNameChar (c : Char) : Bool := c == '\u0060' || isTagNameChar c

/-- Drops blanks, and slashes that are not the end of the tag. -/
def dropFiller : Text → Text
  | '/' :: '>' :: rest => '/' :: '>' :: rest
  | '/' :: rest => dropFiller rest
  | c :: rest => if Text.isBlank c then dropFiller rest else c :: rest
  | [] => []

/-- A quoted text and what follows it. -/
def dropQuoted (quote : Char) (s : Text) : Option Text :=
  (Text.cutAt quote s).map (·.2)

/-- What follows the value of an attribute, if there is a value. -/
def dropValue (s : Text) : Option Text :=
  let afterBlanks := Text.trimLeft s
  match afterBlanks with
  | '=' :: _ =>
    let afterSign := afterBlanks.dropWhile (· == '=')
    match Text.trimLeft afterSign with
    | '\'' :: rest =>
      (dropQuoted '\'' rest).or
        (if (afterSign.head?.map Text.isBlank).getD false then some afterSign else none)
    | '"' :: rest =>
      (dropQuoted '"' rest).or
        (if (afterSign.head?.map Text.isBlank).getD false then some afterSign else none)
    | bare => some (bare.dropWhile fun c => !(c == '\u0060' || c == '>' || Text.isBlank c))
  | _ => none

/-- Whether an attribute name may follow this character. -/
def opensAttribute (c : Char) : Bool := c == '\'' || c == '"' || c == '/' || Text.isBlank c

/-- What follows the last attribute of a tag that is written from `whole` on. -/
def dropAttributes : Nat → Text → Text → Text
  | 0, _, s => s
  | fuel + 1, whole, s =>
    let s := dropFiller s
    let before := (whole.take (whole.length - s.length)).getLast?
    match s with
    | c :: rest =>
      if c == '\u0060' || c == '/' || c == '>' || !(before.map opensAttribute).getD false then s
      else
        let rest := rest.dropWhile fun c =>
          !(c == '/' || c == '=' || c == '>' || Text.isBlank c)
        dropAttributes fuel whole ((dropValue rest).getD rest)
    | [] => s

def opening (s : Text) : Opening :=
  let name := (s.drop 1).takeWhile isTagNameChar
  let rest := dropAttributes s.length s (s.drop (1 + name.length))
  let upTo (rest : Text) : Text := s.take (s.length - rest.length)
  match rest with
  | '>' :: after => .tag ⟨Text.lowerAscii name, upTo after, false, after⟩
  | '/' :: '>' :: after => .tag ⟨Text.lowerAscii name, upTo after, true, after⟩
  | [] => .unfinished
  | c :: _ =>
    if c.isAlpha || c == '=' || c == '/' then .unfinished
    else .text (upTo rest) rest

/-! ## Scanning -/

structure Scan where
  /-- Inside a raw block. -/
  inside : Bool
  /-- On the line on which a raw block ended. -/
  trailing : Bool
  /-- The tags that are open in the raw block. -/
  openTags : List Text
  /-- The raw block so far. -/
  block : Text
  /-- The text so far, last piece first. -/
  done : List Piece
  /-- The characters before this place on its line, last first. -/
  line : Text

namespace Scan

def start : Scan := ⟨false, false, [], [], [], []⟩

def atLineStart (s : Scan) : Bool := s.line.length ≤ 3 && s.line.all Text.isBlank

/-- Moves past some characters. -/
def past (written : Text) (s : Scan) : Scan :=
  { s with line := written.foldl (fun line c => if c == '\n' then [] else c :: line) s.line }

def put (text : Text) (s : Scan) : Scan :=
  { s with done := (text.map Piece.char).reverse ++ s.done }

def putRaw (html : Text) (s : Scan) : Scan := { s with done := .raw html :: s.done }

def hold (html : Text) (s : Scan) : Scan := { s with block := s.block ++ html }

/-- Characters without a meaning of their own. -/
def data (text : Text) (s : Scan) : Scan :=
  let s := if text.contains '\n' then { s with trailing := false } else s
  if s.inside then s.hold text else s.put text

/-- Whether two blank line ends follow. -/
def blankLineFollows (rest : Text) : Bool :=
  match rest.dropWhile (· == ' ') with
  | '\n' :: rest =>
    match rest.dropWhile (· == ' ') with
    | '\n' :: _ => true
    | _ => false
  | _ => false

/-- Markup that is complete in itself. -/
def single (html : Text) (isBlock : Bool) (rest : Text) (s : Scan) : Scan :=
  if s.inside || s.trailing then s.hold html
  else if isBlock && s.atLineStart then
    let follows := blankLineFollows rest
    let html := if follows then html ++ ['\n'] else html
    let s := if follows then s else { s with trailing := true }
    let s := match s.done with
      | .char '\n' :: .char '\n' :: _ => s
      | .char '\n' :: _ => s.put ['\n']
      | _ => s
    (s.putRaw html).put ['\n', '\n']
  else s.put html

def openTag (name written : Text) (s : Scan) : Scan :=
  let s :=
    if isBlockTag name && (s.trailing || s.atLineStart) then { s with inside := true }.put ['\n']
    else s
  if s.inside then { s with openTags := name :: s.openTags }.hold written else s.put written

def closeTag (name written rest : Text) (s : Scan) : Scan :=
  if s.inside then
    let s := s.hold written
    let s :=
      if s.openTags.contains name then
        { s with openTags := (s.openTags.dropWhile (· != name)).drop 1 }
      else s
    if s.openTags.isEmpty then
      let s := if blankLineFollows rest then s.hold ['\n'] else { s with trailing := true }
      ({ s with inside := false, block := [] }.putRaw s.block).put ['\n', '\n']
    else s
  else s.put written

end Scan

/-- The text up to and with the end tag of an element whose content is not markup. -/
def verbatimUntil (name : Text) : Text → Option (Text × Text)
  | [] => none
  | c :: rest =>
    let closes :=
      match c, rest with
      | '<', '/' :: after =>
        match Text.dropStart? name (Text.lowerAscii (Text.trimLeft after)) with
        | some tail => (Text.trimLeft tail).head? == some '>'
        | none => false
      | _, _ => false
    if closes then some ([], c :: rest)
    else (verbatimUntil name rest).map fun cut => (c :: cut.1, cut.2)

/-- The text before and from the first occurrence of a text. -/
def cutText (mark : Text) : Text → Option (Text × Text)
  | [] => none
  | c :: rest =>
    match Text.dropStart? mark (c :: rest) with
    | some after => some ([], after)
    | none => (cutText mark rest).map fun cut => (c :: cut.1, cut.2)

/-- The text of a comment, which ends with two hyphens, any blanks and a bracket. -/
def cutComment : Text → Option (Text × Text)
  | [] => none
  | c :: rest =>
    match (Text.dropStart? ['-', '-'] (c :: rest)).map Text.trimLeft with
    | some ('>' :: after) => some ([], after)
    | _ => (cutComment rest).map fun cut => (c :: cut.1, cut.2)

/-- A numeric character reference: its name, and what follows the semicolon if there is one. -/
def numeric? (s : Text) : Option (Text × Text) :=
  let isDecimal := s.takeWhile Text.isDigit
  let found : Option (Text × Text) :=
    match s with
    | 'x' :: rest =>
      let digits := rest.takeWhile Text.isHexDigit
      if digits.isEmpty then none else some ('x' :: digits, rest.dropWhile Text.isHexDigit)
    | 'X' :: rest =>
      let digits := rest.takeWhile Text.isHexDigit
      if digits.isEmpty then none else some ('X' :: digits, rest.dropWhile Text.isHexDigit)
    | _ => if isDecimal.isEmpty then none else some (isDecimal, s.dropWhile Text.isDigit)
  match found with
  | some (name, c :: rest) =>
    if c == ';' then some (name, rest)
    else if Text.isHexDigit c then none
    else some (name, c :: rest)
  | _ => none

/-- A named character reference and what follows it. -/
def named? (s : Text) : Option (Text × Text) :=
  match s with
  | c :: _ =>
    if c.isAlpha then
      let isPart (c : Char) : Bool := c.isAlphanum || c == '-' || c == '.'
      match s.dropWhile isPart with
      | ';' :: rest => some (s.takeWhile isPart, rest)
      | _ => none
    else none
  | [] => none

/-- The name in an end tag, read from what stands between its slash and its bracket.  Blanks may
stand before a plain name; anything may follow a name that stands first. -/
def endName (s : Text) : Option Text :=
  let bare := Text.trim s
  match bare, s with
  | c :: rest, first :: _ =>
    let isPlain (c : Char) : Bool := c.isAlphanum || c == '-' || c == '.' || c == ':' || c == '_'
    if c.isAlpha && rest.all isPlain then some (Text.lowerAscii bare)
    else if first.isAlpha then some (Text.lowerAscii (s.takeWhile isEndNameChar))
    else none
  | _, _ => none

/-- Markup that never ends is text: up to the next closing bracket, or else up to the next
opening one, or else its own bracket alone. -/
def malformed (s : Scan) (rest : Text) : Scan × Text :=
  let inner :=
    match Text.cutAt '>' rest with
    | some (inner, _) => inner ++ ['>']
    | none => if rest.contains '<' then rest.takeWhile (· != '<') else []
  ((s.data ('<' :: inner)).past ('<' :: inner), rest.drop inner.length)

/-- One step: what the place is, and the text that is left. -/
def step (s : Scan) : Text → Scan × Text
  | [] => (s, [])
  | '<' :: '/' :: rest =>
    match Text.cutAt '>' rest with
    | none => malformed s ('/' :: rest)
    | some (inner, after) =>
      let written := '<' :: '/' :: inner ++ ['>']
      match endName inner with
      | some name => ((s.closeTag name written after).past written, after)
      | none =>
        if inner.isEmpty then ((s.data written).past written, after)
        else ((s.single written false after).past written, after)
  | '<' :: '!' :: '-' :: '-' :: rest =>
    match cutComment rest with
    | some (inner, after) =>
      let written := "<!--".toList ++ inner ++ "-->".toList
      ((s.single written true after).past (rest.take (rest.length - after.length)), after)
    | none => malformed s ('!' :: '-' :: '-' :: rest)
  | '<' :: '?' :: rest =>
    if s.trailing || s.atLineStart then
      match cutText ['?', '>'] rest with
      | some (inner, after) =>
        let written := '<' :: '?' :: inner ++ ['?', '>']
        ((s.single written true after).past written, after)
      | none => malformed s ('?' :: rest)
    else ((s.data ['<', '?']).past ['<', '?'], rest)
  | '<' :: '!' :: rest =>
    if s.trailing || s.atLineStart then
      match Text.dropStart? "[CDATA[".toList rest with
      | some body =>
        match cutText "]]>".toList body with
        | some (inner, after) =>
          let written := "<![CDATA[".toList ++ inner ++ "]]>".toList
          ((s.single written true after).past written, after)
        | none => malformed s ('!' :: rest)
      | none =>
        match Text.cutAt '>' rest with
        | some (inner, after) =>
          let written := '<' :: '!' :: inner ++ ['>']
          let isType := Text.startsWith "doctype".toList (Text.lowerAscii inner)
          ((s.single written isType after).past written, after)
        | none => malformed s ('!' :: rest)
    else ((s.data ['<', '!']).past ['<', '!'], rest)
  | '<' :: c :: rest =>
    if c.isAlpha then
      match opening ('<' :: c :: rest) with
      | .unfinished => ((s.data ['<']).past ['<'], c :: rest)
      | .text written after => ((s.data written).past written, after)
      | .tag t =>
        if t.selfClosing || t.name == "hr".toList then
          ((s.single t.written (isBlockTag t.name) t.rest).past t.written, t.rest)
        else
          let opened := (s.openTag t.name t.written).past t.written
          if opened.inside && (t.name == "script".toList || t.name == "style".toList) then
            match verbatimUntil t.name t.rest with
            | some (inner, after) => ((opened.data inner).past inner, after)
            | none => ((opened.data t.rest).past t.rest, [])
          else (opened, t.rest)
    else ((s.data ['<']).past ['<'], c :: rest)
  | '&' :: '#' :: rest =>
    match numeric? rest with
    | some (name, after) =>
      let written := '&' :: '#' :: name ++ [';']
      ((s.single written false after).past (rest.take (rest.length - after.length)), after)
    | none =>
      if rest.contains ';' then ((s.data ['&', '#']).past ['&', '#'], rest)
      else ((s.data ('&' :: '#' :: rest)).past rest, [])
  | '&' :: rest =>
    match named? rest with
    | some (name, after) =>
      let written := '&' :: name ++ [';']
      ((s.single written false after).past written, after)
    | none => ((s.data ['&']).past ['&'], rest)
  | c :: rest => ((s.data [c]).past [c], rest)

def scan : Nat → Scan → Text → Scan
  | 0, s, _ => s
  | _, s, [] => s
  | fuel + 1, s, text =>
    let next := step s text
    scan fuel next.1 next.2

/-- The text with its raw HTML set apart. -/
def separate (text : Text) : Marked :=
  let s := scan text.length Scan.start text
  (if s.block.isEmpty then s else s.putRaw s.block).done.reverse

end RawHtml

end FieldTemplate.Markdown
