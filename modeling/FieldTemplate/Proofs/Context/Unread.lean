import FieldTemplate.Host.Usual
import FieldTemplate.Proofs.Context.Assigned
import FieldTemplate.Proofs.Json.Faults
import FieldTemplate.Proofs.Yaml.Scalars

/-!
# Texts that cannot be read

What is no YAML or JSON is expected: the value of an assignment is taken as it stands then, and a
data file is reported as malformed.  What nobody expects is a text that the grammar lets through and
that has no value: a date that does not exist, an integer with too many digits, an escape beyond the
code points, a JSON string that is no UTF-8, or a text that is too deep for the stack.  Such a fault
goes on as it is, and there are no others (`unread_only_without_value`).
-/

namespace FieldTemplate

set_option autoImplicit false

/-- A file can be read. -/
theorem FileTree.exists_read_of_fileExists {tree : FileTree} {cwd : Location} {path : Path}
    (file : tree.fileExists cwd path = true) :
    tree.pathExists cwd path = .ok true ∧ ∃ bytes, tree.read cwd path = .ok bytes := by
  unfold fileExists at file
  split at file
  · next place located =>
    obtain ⟨bytes, found⟩ := Option.isSome_iff_exists.1 file
    refine ⟨?_, bytes, ?_⟩
    · simp [pathExists, fileExists, located, found]
    · simp [read, located, found]
  · cases file

namespace Assignment

/-- **An assignment to a key of nonempty parts** is read, or its value cannot be read for lack of
one. -/
theorem parse_keyed_cases [Host] {key : Text} (noSign : '=' ∉ key)
    (solid : ∀ part ∈ Text.splitOn '.' (Text.trim key), part ≠ []) (raw : Text) :
    ((∃ v, Denotes raw v) ∧ ∃ layer, parse (key ++ '=' :: raw) = .ok layer) ∨
      ∃ e, Yaml.readText raw = .error e ∧ Yaml.Valueless raw e ∧
        parse (key ++ '=' :: raw) = .error (.value e) := by
  obtain ⟨part, parts, -, keyed⟩ := parse_keyed noSign solid raw
  rw [keyed]
  cases read : readValue raw with
  | ok v => exact .inl ⟨⟨v, denotes_iff.2 read⟩, _, rfl⟩
  | error e =>
      have other : e ≠ .malformed := fun same => readValue_ne_malformed raw (same ▸ read)
      rw [readValue] at read
      split at read
      · cases read
      split at read
      · cases read
      · exact .inr ⟨e, read, Yaml.valueless_of_readText read other, rfl⟩

end Assignment

namespace DataFile

variable {path : Path} {bytes : List UInt8} {e : DataError}

/-- A file cannot be decoded because it is malformed, or because a text in it has no value. -/
theorem decode_error_cases [Host] {format : DataFormat}
    (failed : decode path format bytes = .error e) :
    e = .malformed path ∨
      (∃ source e', format = .yaml ∧ Yaml.decode bytes = some source ∧
        Yaml.readText source = .error e' ∧ Yaml.Valueless source e' ∧ e = .yaml e') ∨
      (∃ e', format = .json ∧ Json.read bytes = .error (.encoding e') ∧ Json.Garbled bytes e' ∧
        e = .encoding e') ∨
      (format = .json ∧ Json.read bytes = .error .tooDeep ∧ Json.TooDeep bytes ∧
        e = .tooDeep) := by
  cases format with
  | json =>
      obtain ⟨e', read, same⟩ := except_mapError_eq_error_iff.1 failed
      cases e' with
      | malformed => exact .inl same
      | encoding e' => exact .inr (.inr (.inl ⟨e', rfl, read, Json.garbled_of_read read, same⟩))
      | tooDeep => exact .inr (.inr (.inr ⟨rfl, read, Json.tooDeep_of_read read, same⟩))
  | yaml =>
      obtain ⟨e', read, same⟩ := except_mapError_eq_error_iff.1 failed
      split at same
      · exact .inl same
      · next other =>
        rw [Yaml.readBytes] at read
        split at read
        · next source decoded =>
          have valueless := Yaml.valueless_of_readText read other
          exact .inr (.inl ⟨source, e', rfl, decoded, read, valueless, same⟩)
        · cases read
          exact absurd rfl other

/-- A file with a known suffix is decoded. -/
theorem load_cases [Host] {tree : FileTree} {cwd : Location} {format : DataFormat}
    (file : tree.fileExists cwd path = true)
    (known : DataFormat.ofSuffix? path.suffix.lower = some format) :
    ∃ bytes, tree.read cwd path = .ok bytes ∧
      ((∃ entries, (load tree cwd path).result = .ok entries) ∨
        (load tree cwd path).result = .error (.notMapping path) ∨
        ∃ e, decode path format bytes = .error e ∧ (load tree cwd path).result = .error e) := by
  obtain ⟨there, bytes, read⟩ := FileTree.exists_read_of_fileExists file
  refine ⟨bytes, read, ?_⟩
  simp only [load, there, read, known]
  split
  · next e failed => exact .inr (.inr ⟨e, failed, rfl⟩)
  · exact .inl ⟨[], rfl⟩
  · next entries _ => exact .inl ⟨entries, rfl⟩
  · exact .inr (.inl rfl)

end DataFile

/-- **What cannot be read is expected, unless it has no value.**  An assignment to a key of nonempty
parts gives a mapping, with a value that is no YAML as it stands, and a data file gives a mapping or
is reported, as malformed or as no mapping.  The only other faults are those of a value or a file
whose text the grammar lets through: one of its scalars has no value, a JSON string in it is no
UTF-8, or it is too deep for the stack.  These go on as they are. -/
theorem unread_only_without_value [Host] (raw : Text) (tree : FileTree) (cwd : Location)
    (path : Path) :
    (∀ key, '=' ∉ key → (∀ part ∈ Text.splitOn '.' (Text.trim key), part ≠ []) →
      ((∃ v, Assignment.Denotes raw v) ∧
        ∃ layer, Assignment.parse (key ++ '=' :: raw) = .ok layer) ∨
      ∃ e, Yaml.readText raw = .error e ∧ Yaml.Valueless raw e ∧
        Assignment.parse (key ++ '=' :: raw) = .error (.value e)) ∧
    ∀ format, tree.fileExists cwd path = true →
      DataFormat.ofSuffix? path.suffix.lower = some format →
      ∃ bytes, tree.read cwd path = .ok bytes ∧
        ((∃ entries, (DataFile.load tree cwd path).result = .ok entries) ∨
        (DataFile.load tree cwd path).result = .error (.malformed path) ∨
        (DataFile.load tree cwd path).result = .error (.notMapping path) ∨
        (∃ source e, format = .yaml ∧ Yaml.decode bytes = some source ∧
          Yaml.readText source = .error e ∧ Yaml.Valueless source e ∧
          (DataFile.load tree cwd path).result = .error (.yaml e)) ∨
        (∃ e, format = .json ∧ Json.read bytes = .error (.encoding e) ∧ Json.Garbled bytes e ∧
          (DataFile.load tree cwd path).result = .error (.encoding e)) ∨
        (format = .json ∧ Json.read bytes = .error .tooDeep ∧ Json.TooDeep bytes ∧
          (DataFile.load tree cwd path).result = .error .tooDeep)) := by
  constructor
  · intro key noSign solid
    exact Assignment.parse_keyed_cases noSign solid raw
  · intro format file known
    obtain ⟨bytes, read, loaded | notMapping | ⟨e, failed, result⟩⟩ :=
      DataFile.load_cases file known
    · exact ⟨bytes, read, .inl loaded⟩
    · exact ⟨bytes, read, .inr (.inr (.inl notMapping))⟩
    · refine ⟨bytes, read, .inr ?_⟩
      rcases DataFile.decode_error_cases failed with
        rfl | ⟨source, e', yaml, decoded, unread, valueless, rfl⟩ |
          ⟨e', json, unread, garbled, rfl⟩ | ⟨json, unread, deep, rfl⟩
      · exact .inl result
      · exact .inr (.inr (.inl ⟨source, e', yaml, decoded, unread, valueless, result⟩))
      · exact .inr (.inr (.inr (.inl ⟨e', json, unread, garbled, result⟩)))
      · exact .inr (.inr (.inr (.inr ⟨json, unread, deep, result⟩)))

open scoped Host

/-- A date in a month that does not exist, and a string of a byte that starts no character. -/
def valuelessTree : FileTree :=
  ⟨[(["d.yaml".toList], Json.bytesOf "d: 2024-13-45\n"),
    (["d.json".toList], [0x7B, 0x22, 0x64, 0x22, 0x3A, 0x22, 0xFF, 0x22, 0x7D])], [], false⟩

theorem unread_only_without_value_of_date :
    Yaml.Valueless "2024-13-45".toList (.moment .month) ∧
      Json.Garbled [0x7B, 0x22, 0x64, 0x22, 0x3A, 0x22, 0xFF, 0x22, 0x7D] ⟨.start, 0, 1, 0xFF⟩ := by
  have date : (Assignment.parse "d=2024-13-45".toList).map List.length =
      .error (.value (.moment .month)) := by decide +kernel
  have string : (DataFile.load valuelessTree [] (Path.ofText "d.json".toList)).result.map
      List.length = .error (.encoding ⟨.start, 0, 1, 0xFF⟩) := by decide +kernel
  have date := except_map_eq_error_iff.1 date
  have string := except_map_eq_error_iff.1 string
  obtain ⟨assigned, loaded⟩ := unread_only_without_value "2024-13-45".toList valuelessTree []
    (Path.ofText "d.json".toList)
  constructor
  · rcases assigned ['d'] (by decide) (by decide) with
      ⟨-, layer, parsed⟩ | ⟨e, -, valueless, parsed⟩
    · cases parsed.symm.trans date
    · cases parsed.symm.trans date
      exact valueless
  · obtain ⟨bytes, read, ⟨entries, loaded⟩ | failed | failed | ⟨_, e, -, -, -, -, failed⟩ |
        ⟨e, -, -, garbled, failed⟩ | ⟨-, -, -, failed⟩⟩ :=
      loaded .json (by decide +kernel) (by decide +kernel)
    · cases loaded.symm.trans string
    · cases failed.symm.trans string
    · cases failed.symm.trans string
    · cases failed.symm.trans string
    · cases failed.symm.trans string
      have same : valuelessTree.read [] (Path.ofText "d.json".toList) =
          .ok [0x7B, 0x22, 0x64, 0x22, 0x3A, 0x22, 0xFF, 0x22, 0x7D] := by decide +kernel
      cases read.symm.trans same
      exact garbled
    · cases failed.symm.trans string

/-- Neither is a date that does not exist kept as a text, nor is a file with it reported. -/
theorem impossible_date_is_no_text :
    ¬ ((∀ key raw, '=' ∉ key → (∀ part ∈ Text.splitOn '.' (Text.trim key), part ≠ []) →
        ∃ layer, Assignment.parse (key ++ '=' :: raw) = .ok layer) ∨
      ∀ (tree : FileTree) (cwd : Location) (path : Path) (format : DataFormat),
        tree.fileExists cwd path = true → DataFormat.ofSuffix? path.suffix.lower = some format →
        (∃ entries, (DataFile.load tree cwd path).result = .ok entries) ∨
          ∃ e, (DataFile.load tree cwd path).result = .error e ∧
            (e = .malformed path ∨ e = .notMapping path)) := by
  rintro (always | always)
  · have date : (Assignment.parse "d=2024-13-45".toList).map List.length =
        .error (.value (.moment .month)) := by decide +kernel
    obtain ⟨layer, parsed⟩ := always ['d'] "2024-13-45".toList (by decide) (by decide)
    cases parsed.symm.trans (except_map_eq_error_iff.1 date)
  · have date : (DataFile.load valuelessTree [] (Path.ofText "d.yaml".toList)).result.map
        List.length = .error (.yaml (.moment .month)) := by decide +kernel
    have date := except_map_eq_error_iff.1 date
    rcases always valuelessTree [] (Path.ofText "d.yaml".toList) .yaml (by decide +kernel)
      (by decide +kernel) with ⟨entries, loaded⟩ | ⟨e, failed, rfl | rfl⟩
    · cases loaded.symm.trans date
    · cases failed.symm.trans date
    · cases failed.symm.trans date

end FieldTemplate
