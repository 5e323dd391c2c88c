import FieldTemplate.Files.Path

/-!
# File trees

A tree of files below one root.  A directory exists if it is named or if a file lies in it.
Paths start at a working directory and may climb; what lies above the root is a directory of
which nothing is known.  Names and paths are limited in length, and a name that is too long is
an error of its own as soon as it is looked up in a directory.
-/

namespace FieldTemplate

set_option autoImplicit false

/-- The parts of a path from the root down. -/
abbrev Location := List Text

/-- A tree is whole if absolute paths start at its root; else they lead out of it. -/
structure FileTree where
  files : List (Location × List UInt8)
  dirs : List Location
  whole : Bool

/-- What a path leads to. -/
inductive Spot where
  | inside (place : Location)
  | above (levels : Nat)
  | outside
deriving DecidableEq, Repr

inductive FileError where
  | notFound
  | isDirectory
  | exists
  | notADirectory
  | nameTooLong
deriving DecidableEq, Repr

/-- The most bytes of a name in a directory. -/
def nameLimit : Nat := 255

/-- The most bytes of a path. -/
def pathLimit : Nat := 4095

namespace FileTree

def empty : FileTree := ⟨[], [], false⟩

def file? (t : FileTree) (place : Location) : Option (List UInt8) :=
  (t.files.find? fun e => e.1 == place).map (·.2)

def isDir (t : FileTree) (place : Location) : Bool :=
  place.isEmpty || t.dirs.any (fun d => place.isPrefixOf d) ||
    t.files.any fun e => place.isPrefixOf e.1 && place != e.1

/-- One part further; only a directory has anything in it. -/
def step (t : FileTree) (spot : Spot) (part : Text) : Except FileError Spot :=
  let up := part == ['.', '.']
  let known (place : Location) : Except FileError Unit :=
    if t.isDir place then .ok ()
    else .error (if (t.file? place).isSome then .notADirectory else .notFound)
  match spot with
  | .outside => .error .notFound
  | .above n =>
    if up then .ok (.above (n + 1))
    else if nameLimit < part.bytes then .error .nameTooLong
    else .ok .outside
  | .inside place =>
    (known place).bind fun _ =>
      if up then
        .ok (if !place.isEmpty then .inside place.dropLast
          else if t.whole then .inside [] else .above 0)
      else if nameLimit < part.bytes then .error .nameTooLong
      else .ok (.inside (place ++ [part]))

/-- Where a path leads from the working directory; the last part need not exist. -/
def locate (t : FileTree) (cwd : Location) (p : Path) : Except FileError Spot :=
  if pathLimit < p.toText.bytes then .error .nameTooLong
  else
    p.parts.foldlM t.step
      (if !p.absolute then .inside cwd else if t.whole then .inside [] else .above 0)

def dirExists (t : FileTree) (cwd : Location) (p : Path) : Bool :=
  match t.locate cwd p with
  | .ok (.inside place) => t.isDir place
  | .ok (.above _) => true
  | _ => false

def fileExists (t : FileTree) (cwd : Location) (p : Path) : Bool :=
  match t.locate cwd p with
  | .ok (.inside place) => (t.file? place).isSome
  | _ => false

/-- Whether a path leads to a file or a directory.  A name that is too long leads nowhere and is
an error. -/
def pathExists (t : FileTree) (cwd : Location) (p : Path) : Except FileError Bool :=
  match t.locate cwd p with
  | .error .nameTooLong => .error .nameTooLong
  | _ => .ok (t.dirExists cwd p || t.fileExists cwd p)

/-- The bytes of a file. -/
def read (t : FileTree) (cwd : Location) (p : Path) : Except FileError (List UInt8) :=
  match t.locate cwd p with
  | .error e => .error e
  | .ok (.inside place) =>
    match t.file? place with
    | some bytes => .ok bytes
    | none => .error (if t.isDir place then .isDirectory else .notFound)
  | .ok (.above _) => .error .isDirectory
  | .ok .outside => .error .notFound

/-! ## Writing -/

/-- Makes one directory, whose parent has to be there. -/
def makeDir (t : FileTree) (cwd : Location) (p : Path) : Except FileError FileTree :=
  if t.dirExists cwd p then .ok t
  else if t.fileExists cwd p then .error .exists
  else match t.locate cwd p with
    | .ok (.inside place) => .ok { t with dirs := place :: t.dirs }
    | .ok _ => .ok t
    | .error e => .error e

/-- Whether a path runs through a file. -/
def runsThroughFile (t : FileTree) (cwd : Location) (p : Path) : Bool :=
  (List.range p.parts.length).any fun n => t.fileExists cwd { p with parts := p.parts.take n }

/-- A tree after it was written to, also up to the error that ended the writing. -/
structure Written where
  tree : FileTree
  error : Option FileError

/-- Makes one directory after the other.  Those in front of one that cannot be made stay. -/
def makeEach (cwd : Location) (t : FileTree) : List Path → Written
  | [] => ⟨t, none⟩
  | p :: rest =>
    match t.makeDir cwd p with
    | .error e => ⟨t, some e⟩
    | .ok t => t.makeEach cwd rest

/-- Makes a directory and all that are missing above it, the outermost first. -/
def makeDirs (t : FileTree) (cwd : Location) (p : Path) : Written :=
  if pathLimit < p.toText.bytes then ⟨t, some .nameTooLong⟩
  else if t.runsThroughFile cwd p then ⟨t, some .notADirectory⟩
  else t.makeEach cwd
    ((List.range (p.parts.length + 1)).map fun n => { p with parts := p.parts.take n })

def setFile (place : Location) (bytes : List UInt8) :
    List (Location × List UInt8) → List (Location × List UInt8)
  | [] => [(place, bytes)]
  | (l, b) :: rest => if l = place then (l, bytes) :: rest else (l, b) :: setFile place bytes rest

/-- Writes a file, new or in place of an old one. -/
def write (t : FileTree) (cwd : Location) (p : Path) (bytes : List UInt8) :
    Except FileError FileTree :=
  if t.dirExists cwd p then .error .isDirectory
  else match t.locate cwd p with
    | .ok (.inside place) => .ok { t with files := setFile place bytes t.files }
    | .ok _ => .ok t
    | .error e => .error e

/-- Writes a file, in a directory that is made if it is missing. -/
def save (t : FileTree) (cwd : Location) (p : Path) (bytes : List UInt8) : Written :=
  match t.makeDirs cwd p.parent with
  | ⟨t, some e⟩ => ⟨t, some e⟩
  | ⟨t, none⟩ =>
    match t.write cwd p bytes with
    | .error e => ⟨t, some e⟩
    | .ok t => ⟨t, none⟩

/-- The files of a tree that another one lacks or has with other bytes. -/
def changes (old new : FileTree) : List (Location × List UInt8) :=
  new.files.filter fun e => old.file? e.1 != some e.2

end FileTree

end FieldTemplate
