import FieldTemplate.Context.Layers
import FieldTemplate.Proofs.Result

/-!
# What layers give

* `DataFile.gives_load`, `Assignment.gives_parse`: every way in which a layer is read or fails;
* `DataFile.load_ne_yaml_malformed`, `Assignment.parse_ne_value_malformed`: that a text is no YAML
  is never among the faults of its scalars, for a data file is malformed as a whole and an assigned
  value is taken as it stands;
* `Context.build_result`: the data files are loaded one after the other, and the assignments are
  read one after the other behind them.
-/

namespace FieldTemplate

set_option autoImplicit false

namespace DataFile

/-- What a data file gives. -/
inductive Gives [Host] (path : Path) : Except DataError Entries → Prop
  | unreadable (e : FileError) : Gives path (.error (.unreadable e))
  | notFound : Gives path (.error (.notFound path))
  | unknownFormat (suffix : Text) : Gives path (.error (.unknownFormat suffix))
  | undecoded (format : DataFormat) (bytes : List UInt8) (e : DataError)
    (failed : decode path format bytes = .error e) : Gives path (.error e)
  | nothing : Gives path (.ok [])
  | entries (format : DataFormat) (bytes : List UInt8) (entries : Entries)
    (decoded : decode path format bytes = .ok (.dict entries)) : Gives path (.ok entries)
  | notMapping : Gives path (.error (.notMapping path))

theorem gives_load [Host] (tree : FileTree) (cwd : Location) (path : Path) :
    Gives path (load tree cwd path).result := by
  rw [load]
  split
  · exact .unreadable _
  · exact .notFound
  split
  · exact .unreadable _
  dsimp only
  split
  · exact .unknownFormat _
  split
  · next failed => exact .undecoded _ _ _ failed
  · exact .nothing
  · next decoded => exact .entries _ _ _ decoded
  · exact .notMapping

theorem decode_ne_yaml_malformed [Host] (path : Path) (format : DataFormat) (bytes : List UInt8) :
    decode path format bytes ≠ .error (.yaml .malformed) := by
  intro failed
  cases format with
  | json =>
      obtain ⟨e, -, same⟩ := except_mapError_eq_error_iff.1 failed
      cases e <;> cases same
  | yaml =>
      obtain ⟨e, -, same⟩ := except_mapError_eq_error_iff.1 failed
      cases e <;> cases same

theorem load_ne_yaml_malformed [Host] (tree : FileTree) (cwd : Location) (path : Path) :
    (load tree cwd path).result ≠ .error (.yaml .malformed) := by
  intro failed
  have gives := gives_load tree cwd path
  rw [failed] at gives
  cases gives with
  | undecoded format bytes e failed => exact decode_ne_yaml_malformed path format bytes failed

end DataFile

namespace Assignment

/-- What an assignment gives. -/
inductive Gives [Host] (assignment : Text) : Except AssignmentError Entries → Prop
  | shape : Gives assignment (.error (.shape assignment))
  | key (key : Text) : Gives assignment (.error (.key key))
  | unread (raw : Text) (e : Yaml.YamlError) (failed : readValue raw = .error e) :
    Gives assignment (.error (.value e))
  | nested (part : Text) (parts : List Text) (raw : Text) (v : Value)
    (read : readValue raw = .ok v) : Gives assignment (.ok [(.text part, nest v parts)])

theorem gives_parse [Host] (assignment : Text) : Gives assignment (parse assignment) := by
  rw [parse]
  split
  · exact .shape
  dsimp only
  split
  · exact .shape
  split
  · exact .key _
  split
  · exact .key _
  split
  · next failed => exact .unread _ _ failed
  · next read => exact .nested _ _ _ _ read

theorem readValue_ne_malformed [Host] (raw : Text) : readValue raw ≠ .error .malformed := by
  intro failed
  rw [readValue] at failed
  split at failed
  · cases failed
  split at failed
  · cases failed
  · next other => exact other failed

theorem parse_ne_value_malformed [Host] (assignment : Text) :
    parse assignment ≠ .error (.value .malformed) := by
  intro failed
  have gives := gives_parse assignment
  rw [failed] at gives
  cases gives with
  | unread raw e failed => exact readValue_ne_malformed raw failed

end Assignment

namespace Context

variable {tree : FileTree} {cwd : Location} {defaults : Entries} {paths : List Path}
  {assignments : List Text}

theorem fileLayers_result [Host] (tree : FileTree) (cwd : Location) (paths : List Path) :
    (fileLayers tree cwd paths).result =
      paths.mapM fun path => (DataFile.load tree cwd path).result := by
  induction paths with
  | nil => rfl
  | cons path rest ih =>
      rw [fileLayers, List.mapM_cons, ← ih]
      rcases DataFile.load tree cwd path with ⟨notes, _ | layer⟩
      · rfl
      · rcases fileLayers tree cwd rest with ⟨notes', _ | layers⟩ <;> rfl

theorem assignmentLayers_eq [Host] (assignments : List Text) :
    assignmentLayers assignments = assignments.mapM Assignment.parse := by
  induction assignments with
  | nil => rfl
  | cons assignment rest ih =>
      rw [assignmentLayers, List.mapM_cons, ← ih]
      cases Assignment.parse assignment with
      | error e => rfl
      | ok layer => cases assignmentLayers rest <;> rfl

/-- A context is made of all files and then of all assignments. -/
theorem build_result [Host] (tree : FileTree) (cwd : Location) (defaults : Entries)
    (paths : List Path) (assignments : List Text) :
    (build tree cwd defaults paths assignments).result =
      ((paths.mapM fun path => (DataFile.load tree cwd path).result).mapError .data).bind
        fun files => ((assignments.mapM Assignment.parse).mapError .assignment).bind
          fun sets => .ok (ofLayers defaults (files ++ sets)) := by
  rw [build, ← fileLayers_result, ← assignmentLayers_eq]
  rcases fileLayers tree cwd paths with ⟨notes, _ | files⟩
  · rfl
  · cases assignmentLayers assignments <;> rfl

end Context

end FieldTemplate
