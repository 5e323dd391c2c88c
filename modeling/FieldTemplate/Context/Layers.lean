import FieldTemplate.Context.Assignment
import FieldTemplate.Context.DataFile

/-!
# Contexts from layers

The data of a rendering are layers merged one onto the other: the defaults, then the data files,
then the assignments, each in the order given.  `Context.build` merges them however deep they are.
A command assembles the same data on a stack that may have no room for it (`Context.assemble`).
-/

namespace FieldTemplate

set_option autoImplicit false

inductive ContextError where
  | data (e : DataError)
  | assignment (e : AssignmentError)
  /-- Dictionaries to be merged for which the stack has no room. -/
  | tooDeep
deriving DecidableEq, Repr

def ContextError.message : ContextError → Text
  | .data e => e.message
  | .assignment e => e.message
  | .tooDeep => "maximum recursion depth exceeded".toList

namespace Context

/-- Layers merged onto a base, the later ones on top. -/
def ofLayers (base : Entries) (layers : List Entries) : Entries := layers.foldl merge base

/-- The layers of data files. -/
def fileLayers [Host] (tree : FileTree) (cwd : Location) :
    List Path → Traced DataError (List Entries)
  | [] => .ofExcept (.ok [])
  | path :: rest =>
    (DataFile.load tree cwd path).bind fun layer =>
      (fileLayers tree cwd rest).bind fun layers => .ofExcept (.ok (layer :: layers))

/-- The layers of assignments. -/
def assignmentLayers [Host] : List Text → Except AssignmentError (List Entries)
  | [] => .ok []
  | assignment :: rest =>
    match Assignment.parse assignment with
    | .error e => .error e
    | .ok layer => (assignmentLayers rest).map (layer :: ·)

/-- The data of a rendering: files are read before any assignment. -/
def build [Host] (tree : FileTree) (cwd : Location) (defaults : Entries) (paths : List Path)
    (assignments : List Text) : Traced ContextError Entries :=
  match fileLayers tree cwd paths with
  | ⟨notes, .error e⟩ => ⟨notes, .error (.data e)⟩
  | ⟨notes, .ok files⟩ =>
    match assignmentLayers assignments with
    | .error e => ⟨notes, .error (.assignment e)⟩
    | .ok sets => ⟨notes, .ok (ofLayers defaults (files ++ sets))⟩

/-! ## Layers one at a time -/

/-- Where a layer comes from. -/
inductive Source where
  | file (path : Path)
  | assignment (s : Text)
deriving DecidableEq, Repr

def Source.read [Host] (tree : FileTree) (cwd : Location) : Source → Except ContextError Entries
  | .file path => (DataFile.load tree cwd path).result.mapError .data
  | .assignment s => (Assignment.parse s).mapError .assignment

/-- Each layer is merged before the next one is read, as far as the stack has room for that. -/
def stack [Host] (tree : FileTree) (cwd : Location) (base : Entries) :
    List Source → Except ContextError Entries
  | [] => .ok base
  | source :: rest =>
    match source.read tree cwd with
    | .error e => .error e
    | .ok layer =>
      if Host.room .merge (mergeLevels base layer) then stack tree cwd (merge base layer) rest
      else .error .tooDeep

/-- The data of a rendering, merged on a stack that may have no room for it. -/
def assemble [Host] (tree : FileTree) (cwd : Location) (defaults : Entries) (paths : List Path)
    (assignments : List Text) : Except ContextError Entries :=
  stack tree cwd defaults (paths.map .file ++ assignments.map .assignment)

end Context

end FieldTemplate
