import FieldTemplate.Text.Blank
import FieldTemplate.Unicode.CellWidth

/-!
# Lines of a given width

A line that is too wide is broken in front of words; a word that is too wide for any line may
be folded, each part as wide as possible, and is cut otherwise.
-/

namespace FieldTemplate.Console

set_option autoImplicit false

/-- A character with whether it stands in a style that cannot be looked up. -/
structure Glyph where
  char : Char
  faulty : Bool

def Glyph.isBlank (g : Glyph) : Bool := Text.isBlank g.char

abbrev Line := List Glyph

namespace Line

/-- A line without styles. -/
def ofText (s : Text) : Line := s.map fun c => ⟨c, false⟩

def text (line : Line) : Text := line.map Glyph.char

def cells (line : Line) : Nat := line.text.cells

def trimRight (line : Line) : Line := (line.reverse.dropWhile Glyph.isBlank).reverse

/-- The parts of a line between the occurrences of a character; with each but the last one the
occurrence behind it. -/
def cutAll (d : Char) : Line → List (Line × Glyph) × Line
  | [] => ([], [])
  | g :: rest =>
    let (parts, last) := cutAll d rest
    if g.char = d then (([], g) :: parts, last)
    else match parts with
      | (part, mark) :: parts => ((g :: part, mark) :: parts, last)
      | [] => ([], g :: last)

end Line

/-- The words of a line with the blanks behind them; blanks in front of the first word are its
own. -/
def wordsOf : Nat → Line → List Line
  | 0, _ => []
  | fuel + 1, s =>
    let lead := s.takeWhile Glyph.isBlank
    let word := (s.drop lead.length).takeWhile fun g => !g.isBlank
    if word.isEmpty then []
    else
      let gap := (s.drop (lead.length + word.length)).takeWhile Glyph.isBlank
      (lead ++ word ++ gap) :: wordsOf fuel (s.drop (lead.length + word.length + gap.length))

/-- A word in parts of at most the given width; `part` is the part so far, latest character
first.  A part is never empty. -/
def foldWord (width : Nat) (part : Line) : Line → List Line
  | [] => if part.isEmpty then [] else [part.reverse]
  | g :: s =>
    if !part.isEmpty && width < Line.cells (g :: part).reverse then
      part.reverse :: foldWord width [g] s
    else foldWord width (g :: part) s

/-- The lines of words, the last one being filled; `line` is what stands on it. -/
def fillLines (width : Nat) (folds : Bool) (line : Line) : List Line → List Line
  | [] => [line]
  | word :: rest =>
    let needed := (Line.trimRight word).cells
    if line.cells + needed ≤ width then fillLines width folds (line ++ word) rest
    else if needed ≤ width then
      (if line.isEmpty then [] else [line]) ++ fillLines width folds word rest
    else
      let parts := if folds then foldWord width [] word else [word]
      (if line.isEmpty then [] else [line]) ++ parts.dropLast ++
        fillLines width folds (parts.getLastD []) rest

/-- The parts of a line with their tabs, each filled up to the next stop, eight cells apart;
`column` is where the first part starts.  A tab is at least one cell wide. -/
def expandTabs (column : Nat) : List (Line × Glyph) → Line
  | [] => []
  | (part, tab) :: rest =>
    let blank : Glyph := ⟨' ', tab.faulty⟩
    let before := part ++ [blank]
    let stop := (column + before.cells + 7) / 8 * 8
    before ++ List.replicate (stop - (column + before.cells)) blank ++ expandTabs stop rest

/-- A line without its tabs. -/
def withoutTabs (line : Line) : Line :=
  let (parts, last) := line.cutAll '\t'
  expandTabs 0 parts ++ last

/-- A line without the blanks at its end that stand beyond the given number of characters. -/
def trimBeyond (width : Nat) (line : Line) : Line :=
  let blanks := line.length - (Line.trimRight line).length
  line.take (line.length - min blanks (line.length - width))

/-- The longest part of a text in front that is no wider than allowed; `part` is the part so
far, latest character first. -/
def fitting (width : Nat) (part : Text) : Text → Text
  | [] => part.reverse
  | c :: s =>
    if width < Text.cells (c :: part).reverse then part.reverse else fitting width (c :: part) s

/-- A line cut to a width, filled if half of a wide character would have fitted. -/
def cut (width : Nat) (line : Text) : Text :=
  let part := fitting width [] line
  part ++ List.replicate (width - part.cells) ' '

/-- A line that is still too wide, cut; where words are not folded, an ellipsis takes the last
cell.  What is put in has the style of what was there. -/
def clip (width : Nat) (folds : Bool) (wide : Line) : Line :=
  if wide.cells ≤ width then wide
  else
    let shown := if folds then cut width wide.text else cut (width - 1) wide.text ++ ['…']
    shown.zipIdx.map fun (c, i) => ⟨c, (wide[i]?.map Glyph.faulty).getD false⟩

/-- The lines of a line that is as wide as is allowed at most. -/
def breakLine (width : Nat) (folds : Bool) (line : Line) : List Line :=
  let line := withoutTabs line
  let broken :=
    if line.cells ≤ width || line.all Glyph.isBlank then [line]
    else fillLines width folds [] (wordsOf (line.length + 1) line)
  broken.map fun line => clip width folds (trimBeyond width line)

/-- The lines of a text, each as wide as is allowed at most. -/
def wrap (width : Nat) (folds : Bool) (s : Line) : List Line :=
  let (lines, last) := s.cutAll '\n'
  (lines.map Prod.fst ++ [last]).flatMap (breakLine width folds)

end FieldTemplate.Console
