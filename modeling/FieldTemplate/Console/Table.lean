import FieldTemplate.Console.Markup
import FieldTemplate.Console.Wrap

/-!
# Tables in a box

A centred title over a box with a heavy head.  Every column is as wide as its widest cell,
with a blank on both sides, unless the box is wider than a line of the console.  A title that is
wider than the box is folded.
-/

namespace FieldTemplate.Table

set_option autoImplicit false

open Console

inductive Align where
  | left
  | right
deriving DecidableEq, Repr

structure Column where
  header : Text
  align : Align

/-- The characters of a horizontal line: both ends, the line itself, and where columns meet. -/
structure Rule where
  first : Char
  line : Char
  cross : Char
  last : Char

def topRule : Rule := ⟨'┏', '━', '┳', '┓'⟩
def headRule : Rule := ⟨'┡', '━', '╇', '┩'⟩
def bottomRule : Rule := ⟨'└', '─', '┴', '┘'⟩
def headBar : Char := '┃'
def bodyBar : Char := '│'

def blanks (n : Nat) : Text := List.replicate n ' '

/-- A cell filled to its column's width. -/
def fill (align : Align) (width : Nat) (s : Text) : Text :=
  let gap := blanks (width - s.cells)
  match align with
  | .left => s ++ gap
  | .right => gap ++ s

def ruleLine (r : Rule) (widths : List Nat) : Text :=
  let spans := widths.map fun w => List.replicate (w + 2) r.line
  r.first :: Text.join [r.cross] spans ++ [r.last]

def rowLine (bar : Char) (cells : List Text) : Text :=
  bar :: cells.flatMap fun c => ' ' :: c ++ [' ', bar]

/-- The lines of a cell. -/
def cellLines (width : Nat) (cell : Line) : List Line := Console.wrap width false cell

/-- The lines of a row; a cell may have several. -/
def rowLines (bar : Char) (columns : List (Column × Nat)) (cells : List Line) : List Text :=
  let split := (columns.zip cells).map fun ((_, width), cell) =>
    (cellLines width cell).map Line.text
  let height := (split.map List.length).foldl max 1
  (List.range height).map fun i =>
    rowLine bar ((columns.zip split).map fun ((column, width), lines) =>
      fill column.align width (lines.getD i []))

/-- Characters that end a line of a cell when its width is taken. -/
def isLineEnd (c : Char) : Bool :=
  c == '\n' || ('\x1C' ≤ c && c ≤ '\x1E') || c == '\u0085' || c == '\u2028' || c == '\u2029'

/-- The width of the widest line. -/
def cellWidth (s : Text) : Nat :=
  let lines := Text.splitOn '\n' (s.map fun c => if isLineEnd c then '\n' else c)
  (lines.map Text.cells).foldl max 0

/-- The cells a line of the console has. -/
def lineWidth : Nat := 80

/-- The width of each column where nothing is broken. -/
def fullWidths (columns : List Column) (rows : List (List Text)) : List Nat :=
  (List.range columns.length).map fun i =>
    (rows.map fun row => cellWidth (row.getD i [])).foldl max
      (((columns.map fun c => cellWidth c.header)).getD i 0)

/-- The width of a box with such columns. -/
def boxWidth (widths : List Nat) : Nat := widths.foldl (fun total width => total + width + 3) 1

/-- The width of each column: what the box has too much is taken from its widest column. -/
def widthsOf (columns : List Column) (rows : List (List Text)) : List Nat :=
  let widths := fullWidths columns rows
  let widest := widths.foldl max 0
  widths.map fun width =>
    if width == widest then width - (boxWidth widths - lineWidth) else width

/-- The lines of a title. -/
def titleLines (width : Nat) (title : Line) : List Line :=
  (Console.wrap width true title).map Line.trimRight

/-- A line in the middle of a width. -/
def center (width : Nat) (line : Text) : Text :=
  let gap := width - line.cells
  blanks (gap / 2) ++ line ++ blanks (gap - gap / 2)

/-- The lines of a table. -/
def lines (title : Line) (columns : List Column) (rows : List (List Line)) (widths : List Nat) :
    List Text :=
  let laid := columns.zip widths
  let width := boxWidth widths
  (titleLines width title).map (fun line => center width line.text) ++
    [ruleLine topRule widths] ++
    rowLines headBar laid (columns.map fun column => Line.ofText column.header) ++
    [ruleLine headRule widths] ++ rows.flatMap (rowLines bodyBar laid) ++
    [ruleLine bottomRule widths]

/-- Whether a style has to be looked up that cannot be.  A style without text stays in a text that
is not divided, unless the text is cut in front of it. -/
def needsFault (s : Markup.Shown) (lines : List Line) : Bool :=
  lines.any (·.any Glyph.faulty) ||
    match lines with
    | [line] =>
      s.glyphs.all (fun g => g.char != '\n' && g.char != '\t') &&
        s.bare.any fun place => place < line.length || line.length == s.glyphs.length
    | _ => false

/-- A table of what is shown. -/
def ofShown (title : Markup.Shown) (columns : List Column) (rows : List (List Markup.Shown)) :
    Except Markup.MarkupError Text :=
  let lineRows := rows.map (·.map Markup.Shown.glyphs)
  let widths := widthsOf columns (lineRows.map (·.map Line.text))
  let titleFaulty := needsFault title (titleLines (boxWidth widths) title.glyphs)
  let cellFaulty (width : Nat) (cell : Markup.Shown) : Bool :=
    needsFault cell (cellLines width cell.glyphs)
  if titleFaulty || rows.any fun row => (widths.zip row).any fun (width, cell) =>
      cellFaulty width cell then .error .color
  else .ok ((lines title.glyphs columns lineRows widths).flatMap (· ++ ['\n']))

/-- A table whose title and cells are read as markup. -/
def ofMarkup [Host] (title : Text) (columns : List Column) (rows : List (List Text)) :
    Except Markup.MarkupError Text :=
  match rows.mapM fun row => row.mapM Markup.read with
  | .error e => .error e
  | .ok rows => (Markup.read title).bind fun title => ofShown title columns rows

end FieldTemplate.Table
