import FieldTemplate.Proofs.Template.Nodes
import FieldTemplate.Proofs.Template.Path
import FieldTemplate.Proofs.Text.Doubled

/-!
# The grammar of paths

`FieldPath.Spells` says without the reader how a path is written: a lone dot for the whole of the
data, or identifiers with dots between them and at most one dot in front.  The main statement is
`path_is_read_exactly_as_spelled`: the reader accepts these texts and no others, gives the
identifiers that a text spells, and names the text in its refusal as it is.
-/

namespace FieldTemplate.FieldPath

set_option autoImplicit false

variable {path other : Text} {segments names : List Text}

/-- A letter of ASCII or an underscore, and behind it letters, digits and underscores. -/
inductive Identifier : Text → Prop
  | mk {first : Char} {rest : Text} (start : first.isAlpha = true ∨ first = '_')
      (word : ∀ c ∈ rest, c.isAlphanum = true ∨ c = '_') : Identifier (first :: rest)

/-- The written forms of a path with these segments. -/
inductive Spells : Text → List Text → Prop
  | root : Spells ['.'] []
  | plain {names : List Text} (nonempty : names ≠ []) (each : ∀ name ∈ names, Identifier name) :
      Spells (['.'].intercalate names) names
  | rooted {names : List Text} (nonempty : names ≠ []) (each : ∀ name ∈ names, Identifier name) :
      Spells ('.' :: ['.'].intercalate names) names

/-! ## Identifiers -/

theorem isWordStart_iff (c : Char) : isWordStart c = true ↔ c.isAlpha = true ∨ c = '_' := by
  have capital : c.isUpper = ('A' ≤ c && c ≤ 'Z') := Bool.decide_and _ _
  have letter : c.isAlpha = (c.isUpper || 'a' ≤ c && c ≤ 'z') := rfl
  rw [isWordStart, letter, capital, Bool.or_eq_true, beq_iff_eq]

theorem isWordChar_iff (c : Char) : isWordChar c = true ↔ c.isAlphanum = true ∨ c = '_' := by
  have digits : isWordChar c = (isWordStart c || c.isDigit) := rfl
  have both : c.isAlphanum = (c.isAlpha || c.isDigit) := rfl
  rw [digits, both, Bool.or_eq_true, Bool.or_eq_true, isWordStart_iff, or_right_comm]

theorem isIdentifier_iff (s : Text) : isIdentifier s = true ↔ Identifier s := by
  cases s with
  | nil => exact ⟨fun same => (by cases same), fun identifier => (by cases identifier)⟩
  | cons first rest =>
      rw [isIdentifier, Bool.and_eq_true, isWordStart_iff, List.all_eq_true]
      simp only [isWordChar_iff]
      constructor
      · rintro ⟨start, word⟩
        exact .mk start word
      · rintro ⟨start, word⟩
        exact ⟨start, word⟩

/-! ## What is read is what is spelled -/

theorem eq_unrooted (path : Text) : path = unrooted path ∨ path = '.' :: unrooted path := by
  unfold unrooted
  split
  · exact .inr rfl
  · exact .inl rfl

/-- The parts of a path without the mark of the root, put together again. -/
theorem unrooted_eq_intercalate (path : Text) :
    unrooted path = ['.'].intercalate (Text.splitOn '.' (unrooted path)) := by
  rw [Text.splitOn_eq_splitOn]
  exact (List.intercalate_splitOn '.').symm

theorem spells_of_parse (parsed : parse path = .ok segments) : Spells path segments := by
  rw [parse] at parsed
  split at parsed
  · next lone =>
    cases parsed
    exact lone ▸ .root
  dsimp only at parsed
  split at parsed
  · next identifiers =>
    cases parsed
    have each : ∀ name ∈ Text.splitOn '.' (unrooted path), Identifier name := fun name member =>
      (isIdentifier_iff name).1 (List.all_eq_true.1 identifiers name member)
    have nonempty := Text.splitOn_ne_nil '.' (unrooted path)
    have body := unrooted_eq_intercalate path
    generalize Text.splitOn '.' (unrooted path) = names at each nonempty body
    rcases eq_unrooted path with plain | rooted
    · rw [plain, body]
      exact .plain nonempty each
    · rw [rooted, body]
      exact .rooted nonempty each
  · cases parsed

theorem parse_intercalate (nonempty : names ≠ []) (each : ∀ name ∈ names, Identifier name) :
    parse (['.'].intercalate names) = .ok names := by
  rw [← Text.join_eq_intercalate]
  exact parse_join nonempty fun name member => (isIdentifier_iff name).2 (each name member)

/-- **The mark of the root makes no difference** where it is not there yet. -/
theorem parse_dot_cons (parsed : parse path = .ok segments) (unmarked : path.head? ≠ some '.') :
    parse ('.' :: path) = .ok segments := by
  have notLone : path ≠ ['.'] := by
    rintro rfl
    exact unmarked rfl
  have marked : '.' :: path ≠ ['.'] := by
    intro same
    exact ne_nil_of_parse parsed (List.cons.inj same).2
  have bare : unrooted path = path := by
    unfold unrooted
    split
    · exact absurd rfl unmarked
    · rfl
  rw [parse, if_neg notLone, bare] at parsed
  rw [parse, if_neg marked, show unrooted ('.' :: path) = path from rfl]
  dsimp only at parsed ⊢
  split at parsed
  · next identifiers => rw [if_pos identifiers, parsed]
  · cases parsed

theorem parse_of_spells (spelled : Spells path segments) : parse path = .ok segments := by
  cases spelled with
  | root => rfl
  | plain nonempty each => exact parse_intercalate nonempty each
  | rooted nonempty each =>
      have bare := parse_intercalate nonempty each
      obtain ⟨name, rest, rfl⟩ := List.exists_cons_of_ne_nil nonempty
      cases each name List.mem_cons_self with
      | @mk first letters start _ =>
          have head := Text.head?_join ['.'] first letters rest
          rw [Text.join_eq_intercalate] at head
          refine parse_dot_cons bare ?_
          rw [head]
          rintro ⟨⟩
          rcases start with letter | same
          · cases letter
          · cases same

theorem parse_eq_ok_iff : parse path = .ok segments ↔ Spells path segments :=
  ⟨spells_of_parse, parse_of_spells⟩

theorem parse_eq_error_iff {e : PathError} :
    parse path = .error e ↔ e = ⟨path⟩ ∧ ∀ segments, ¬ Spells path segments := by
  simp only [← parse_eq_ok_iff]
  cases parsed : parse path with
  | ok segments => simp
  | error fault =>
      obtain rfl := eq_of_parse_error parsed
      simp [eq_comm]

/-- Two spellings of the same segments differ in the mark of the root at most. -/
theorem Spells.eq_or_marked (spelled : Spells path segments) (again : Spells other segments) :
    path = other ∨ path = '.' :: other ∨ other = '.' :: path := by
  cases spelled with
  | root =>
      cases again with
      | root => exact .inl rfl
      | plain nonempty => exact absurd rfl nonempty
      | rooted nonempty => exact absurd rfl nonempty
  | plain nonempty =>
      cases again with
      | root => exact absurd rfl nonempty
      | plain => exact .inl rfl
      | rooted => exact .inr (.inr rfl)
  | rooted nonempty =>
      cases again with
      | root => exact absurd rfl nonempty
      | plain => exact .inr (.inl rfl)
      | rooted => exact .inl rfl

/-! ## Dots -/

/-- Not empty, without a dot at either end, and without two dots in a row. -/
structure Tight (s : Text) : Prop where
  nonempty : s ≠ []
  head : s.head? ≠ some '.'
  last : s.getLast? ≠ some '.'
  single : ¬ Text.Doubled '.' s

theorem tight_of_identifier {s : Text} (identifier : Identifier s) : Tight s := by
  have absent : '.' ∉ s := not_dot_mem_of_isIdentifier ((isIdentifier_iff s).2 identifier)
  cases identifier with
  | mk start word =>
      exact ⟨List.cons_ne_nil _ _, fun same => absent (List.mem_of_head? same),
        fun same => absent (List.mem_of_getLast? same), (Text.upTo_of_not_mem absent).not_doubled⟩

/-- A dot in front of a tight text makes no pair with it. -/
theorem Tight.not_doubled_cons {s : Text} (tight : Tight s) : ¬ Text.Doubled '.' ('.' :: s) := by
  intro doubled
  rw [← List.singleton_append, Text.doubled_append_iff] at doubled
  rcases doubled with alone | behind | ⟨-, seam⟩
  · exact Text.not_doubled_singleton '.' alone
  · exact tight.single behind
  · exact tight.head seam

theorem Tight.dot_append {s t : Text} (left : Tight s) (right : Tight t) :
    Tight (s ++ '.' :: t) where
  nonempty := List.append_ne_nil_of_left_ne_nil left.nonempty _
  head := by
    rw [List.head?_append_of_ne_nil s left.nonempty]
    exact left.head
  last := by
    obtain ⟨c, t, rfl⟩ := List.exists_cons_of_ne_nil right.nonempty
    rw [List.getLast?_append_of_ne_nil s (List.cons_ne_nil _ _), List.getLast?_cons_cons]
    exact right.last
  single := by
    intro doubled
    rw [Text.doubled_append_iff] at doubled
    rcases doubled with before | behind | ⟨seam, -⟩
    · exact left.single before
    · exact right.not_doubled_cons behind
    · exact left.last seam

theorem tight_intercalate (nonempty : names ≠ []) (each : ∀ name ∈ names, Identifier name) :
    Tight (['.'].intercalate names) := by
  induction names with
  | nil => exact absurd rfl nonempty
  | cons name rest ih =>
      obtain ⟨here, behind⟩ := List.forall_mem_cons.1 each
      cases rest with
      | nil =>
          rw [List.intercalate_singleton]
          exact tight_of_identifier here
      | cons next rest =>
          rw [List.intercalate_cons_cons, List.append_assoc]
          exact (tight_of_identifier here).dot_append (ih (List.cons_ne_nil _ _) behind)

/-- A path of more than the lone dot is a tight text, but for the mark of the root. -/
theorem Spells.tight (spelled : Spells path segments) :
    path = ['.'] ∨ Tight path ∨ ∃ bare, path = '.' :: bare ∧ Tight bare := by
  cases spelled with
  | root => exact .inl rfl
  | plain nonempty each => exact .inr (.inl (tight_intercalate nonempty each))
  | rooted nonempty each => exact .inr (.inr ⟨_, rfl, tight_intercalate nonempty each⟩)

theorem Spells.not_doubled (spelled : Spells path segments) : ¬ Text.Doubled '.' path := by
  rcases spelled.tight with rfl | tight | ⟨bare, rfl, tight⟩
  · exact Text.not_doubled_singleton '.'
  · exact tight.single
  · exact tight.not_doubled_cons

theorem Spells.eq_root_of_last (spelled : Spells path segments) (last : path.getLast? = some '.') :
    path = ['.'] := by
  rcases spelled.tight with lone | tight | ⟨bare, rfl, tight⟩
  · exact lone
  · exact absurd last tight.last
  · obtain ⟨c, rest, rfl⟩ := List.exists_cons_of_ne_nil tight.nonempty
    exact absurd last tight.last

/-! ## Acceptance and refusal -/

/-- **A path is read exactly as it is spelled.**  What is no spelling of any segments is refused
under its own name: so is the empty text, one with two dots in a row or a dot at its end, and one
with a character that is neither a dot nor an underscore nor a letter or digit of ASCII.  The
segments determine the text up to the mark of the root, which may be added to any path without
it. -/
theorem path_is_read_exactly_as_spelled (path : Text) :
    (∀ segments, parse path = .ok segments ↔ Spells path segments) ∧
    (∀ e, parse path = .error e ↔ e = ⟨path⟩ ∧ ∀ segments, ¬ Spells path segments) ∧
    (path = [] ∨ Text.Doubled '.' path ∨ (path.getLast? = some '.' ∧ path ≠ ['.']) ∨
        (∃ c ∈ path, c ≠ '.' ∧ c ≠ '_' ∧ c.isAlphanum = false) → parse path = .error ⟨path⟩) ∧
    (∀ segments other, parse path = .ok segments → parse other = .ok segments →
      path = other ∨ path = '.' :: other ∨ other = '.' :: path) ∧
    (∀ segments, parse path = .ok segments → path.head? ≠ some '.' →
      parse ('.' :: path) = parse path) := by
  refine ⟨fun _ => parse_eq_ok_iff, fun _ => parse_eq_error_iff, fun flaw => ?_, ?_, ?_⟩
  · refine parse_eq_error_iff.2 ⟨rfl, fun segments spelled => ?_⟩
    rcases flaw with empty | doubled | ⟨last, other⟩ | ⟨c, member, notDot, notUnderscore, foreign⟩
    · exact ne_nil_of_parse (parse_of_spells spelled) empty
    · exact spelled.not_doubled doubled
    · exact other (spelled.eq_root_of_last last)
    · rcases eq_dot_or_isWordChar (parse_of_spells spelled) member with dot | word
      · exact notDot dot
      · rcases (isWordChar_iff c).1 word with letter | underscore
        · rw [foreign] at letter
          cases letter
        · exact notUnderscore underscore
  · intro segments other parsed again
    exact (spells_of_parse parsed).eq_or_marked (spells_of_parse again)
  · intro segments parsed unmarked
    rw [parsed]
    exact parse_dot_cons parsed unmarked

example : parse ".user.name\n".toList = .error ⟨".user.name\n".toList⟩ := by decide

end FieldTemplate.FieldPath
