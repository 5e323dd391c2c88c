import FieldTemplate.Proofs.Context.Faults
import FieldTemplate.Proofs.Json.Nested
import FieldTemplate.Proofs.Yaml.Nested
import Mathlib.Data.List.Forall2

/-!
# The layers of a context

Data files and assignments give nested dictionaries (`DataFile.nested_of_load`,
`Assignment.nested_of_parse`).  A context is made when each of them can be read, and consists of
their layers in the order given (`Context.build_eq_ok_iff`).
-/

namespace FieldTemplate

set_option autoImplicit false

/-! ## What is read is nested -/

namespace DataFile

theorem nested_of_decode [Host] {path : Path} {format : DataFormat} {bytes : List UInt8} {v : Value}
    (done : decode path format bytes = .ok v) : v.Nested := by
  cases format with
  | json => exact Json.nested_of_read (except_mapError_eq_ok_iff.1 done)
  | yaml => exact Yaml.nested_of_readBytes (except_mapError_eq_ok_iff.1 done)

theorem nested_of_load [Host] {tree : FileTree} {cwd : Location} {path : Path} {layer : Entries}
    (done : (load tree cwd path).result = .ok layer) : (Value.dict layer).Nested := by
  have gives := gives_load tree cwd path
  rw [done] at gives
  cases gives with
  | nothing => exact .empty
  | entries format bytes entries decoded => exact nested_of_decode decoded

end DataFile

namespace Assignment

theorem nested_of_readValue [Host] {raw : Text} {v : Value} (done : readValue raw = .ok v) :
    v.Nested := by
  rw [readValue] at done
  split at done
  · cases done
    exact .atom (.text [])
  · split at done
    · cases done
      exact .atom (.text raw)
    · exact Yaml.nested_of_readText done

theorem nested_nest {v : Value} (nested : v.Nested) (parts : List Text) :
    (nest v parts).Nested := by
  induction parts with
  | nil => exact nested
  | cons part rest ih => exact .singleton (.text part) ih

theorem nested_of_parse [Host] {assignment : Text} {layer : Entries}
    (done : parse assignment = .ok layer) : (Value.dict layer).Nested := by
  have gives := gives_parse assignment
  rw [done] at gives
  cases gives with
  | nested part parts raw v read =>
      exact .singleton (.text part) (nested_nest (nested_of_readValue read) parts)

end Assignment

/-! ## The layers in order -/

namespace Context

/-- **A context is made when every layer can be read**, and of the layers in the order given. -/
theorem build_eq_ok_iff [Host] {tree : FileTree} {cwd : Location} {defaults : Entries}
    {paths : List Path} {assignments : List Text} {context : Entries} :
    (build tree cwd defaults paths assignments).result = .ok context ↔
      ∃ files sets,
        List.Forall₂ (fun path layer => (DataFile.load tree cwd path).result = .ok layer)
          paths files ∧
        List.Forall₂ (fun assignment layer => Assignment.parse assignment = .ok layer)
          assignments sets ∧
        context = ofLayers defaults (files ++ sets) := by
  simp only [build_result, except_bind_eq_ok_iff, except_mapError_eq_ok_iff, mapM_eq_ok_iff,
    Except.ok.injEq, eq_comm (b := context), exists_and_left]

end Context

end FieldTemplate
