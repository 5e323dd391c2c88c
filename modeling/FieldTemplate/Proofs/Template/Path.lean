import FieldTemplate.Proofs.Text.Parts
import FieldTemplate.Proofs.Text.Quoted
import FieldTemplate.Proofs.Text.Trim
import FieldTemplate.Template.Path

/-!
# The characters of a path

A path consists of dots and of the characters of identifiers (`FieldPath.eq_dot_or_isWordChar`), so
it holds nothing that a console or a terminal takes for more than text, and no blanks
(`FieldPath.trimmed_of_parse`).  Identifiers with dots between them are a path
(`FieldPath.parse_join`).
-/

namespace FieldTemplate.FieldPath

set_option autoImplicit false

variable {path : Text} {segments : List Text}

theorem isWordChar_of_isIdentifier {s : Text} (identifier : isIdentifier s = true) :
    ∀ c ∈ s, isWordChar c = true := by
  cases s with
  | nil => cases identifier
  | cons first rest =>
      obtain ⟨start, others⟩ := (Bool.and_eq_true _ _).mp identifier
      refine List.forall_mem_cons.2 ⟨?_, List.all_eq_true.1 others⟩
      rw [isWordChar, start, Bool.true_or]

theorem mem_unrooted {c : Char} (member : c ∈ path) : c = '.' ∨ c ∈ unrooted path := by
  unfold unrooted
  split
  · exact List.mem_cons.1 member
  · exact .inr member

/-- **A path consists of dots and characters of identifiers.** -/
theorem eq_dot_or_isWordChar (parsed : parse path = .ok segments) {c : Char} (member : c ∈ path) :
    c = '.' ∨ isWordChar c = true := by
  rw [parse] at parsed
  split at parsed
  · next lone => exact .inl (List.mem_singleton.1 (lone ▸ member))
  dsimp only at parsed
  split at parsed
  · next identifiers =>
    rcases mem_unrooted member with dot | rest
    · exact .inl dot
    · refine (Text.mem_splitOn rest).imp_right fun ⟨part, parts, inside⟩ => ?_
      exact isWordChar_of_isIdentifier (List.all_eq_true.1 identifiers part parts) c inside
  · cases parsed

theorem not_mem_of_parse (parsed : parse path = .ok segments) {c : Char} (dot : c ≠ '.')
    (other : isWordChar c = false) : c ∉ path := by
  intro member
  rcases eq_dot_or_isWordChar parsed member with same | word
  · exact dot same
  · rw [other] at word
    cases word

theorem isBlank_of_isWordChar {c : Char} (word : isWordChar c = true) : Text.isBlank c = false := by
  simp only [isWordChar, isWordStart, Bool.or_eq_true, Bool.and_eq_true, decide_eq_true_eq,
    beq_iff_eq, Char.le_def, UInt32.le_iff_toNat_le] at word
  rw [Bool.eq_false_iff]
  intro blank
  simp only [Text.isBlank, Bool.or_eq_true, Bool.and_eq_true, decide_eq_true_eq,
    beq_iff_eq] at blank
  have code : c.val.toNat = c.toNat := rfl
  rcases word with ((⟨low, high⟩ | ⟨low, high⟩) | rfl) | ⟨low, high⟩
  · simp at low high; omega
  · simp at low high; omega
  · simp at blank
  · simp at low high; omega

theorem trimmed_of_parse (parsed : parse path = .ok segments) : Text.Trimmed path := by
  have solid (c : Char) (member : c ∈ path) : Text.isBlank c = false := by
    rcases eq_dot_or_isWordChar parsed member with rfl | word
    · rfl
    · exact isBlank_of_isWordChar word
  exact ⟨fun c head => solid c (List.mem_of_mem_head? head),
    fun c last => solid c (List.mem_of_getLast? last)⟩

theorem ne_nil_of_parse (parsed : parse path = .ok segments) : path ≠ [] := by
  rintro rfl
  cases parsed

/-! ## Joined identifiers -/

theorem exists_cons_of_isIdentifier {s : Text} (identifier : isIdentifier s = true) :
    ∃ c rest, s = c :: rest ∧ c ≠ '.' := by
  cases s with
  | nil => cases identifier
  | cons c rest =>
      refine ⟨c, rest, rfl, ?_⟩
      rintro rfl
      cases identifier

theorem not_dot_mem_of_isIdentifier {s : Text} (identifier : isIdentifier s = true) : '.' ∉ s := by
  intro member
  cases isWordChar_of_isIdentifier identifier '.' member

theorem unrooted_of_head {c : Char} (head : path.head? = some c) (other : c ≠ '.') :
    unrooted path = path := by
  cases path with
  | nil => rfl
  | cons first rest =>
      cases head
      unfold unrooted
      split
      · next same => exact absurd (List.cons.inj same).1 other
      · rfl

/-- **Identifiers with dots between them are a path**, and its segments are the identifiers. -/
theorem parse_join {names : List Text} (nonempty : names ≠ [])
    (identifiers : ∀ name ∈ names, isIdentifier name = true) :
    parse (Text.join ['.'] names) = .ok names := by
  have parts : Text.splitOn '.' (Text.join ['.'] names) = names :=
    Text.splitOn_join (fun name member => not_dot_mem_of_isIdentifier (identifiers name member))
      nonempty
  obtain ⟨first, rest, rfl⟩ := List.exists_cons_of_ne_nil nonempty
  obtain ⟨c, first, rfl, other⟩ :=
    exists_cons_of_isIdentifier (identifiers first List.mem_cons_self)
  have head := Text.head?_join ['.'] c first rest
  have notLone : Text.join ['.'] ((c :: first) :: rest) ≠ ['.'] := by
    intro lone
    rw [lone] at head
    exact other (Option.some.inj head).symm
  rw [parse, if_neg notLone, unrooted_of_head head other, parts]
  exact if_pos (List.all_eq_true.2 identifiers)

end FieldTemplate.FieldPath
