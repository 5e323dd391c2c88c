import FieldTemplate.Proofs.Format.Escaped

/-!
# What sanitizing keeps

A character stays if it has a place in a path, and a percent sign if it starts an escape
(`Url.Stays`); whether it stays depends on what stands behind it in the text as it was, so a
character that goes never makes, splits or moves an escape.  `Url.Remains` is a text without what
does not stay.  The main statement is `Url.sanitizing_drops_what_does_not_stay`: sanitizing leaves
exactly that, and it leaves a text alone exactly if the text is made of path characters and escapes.
-/

namespace FieldTemplate.Url

set_option autoImplicit false

/-- A letter, a mark, a decimal digit, or punctuation with a place in a path. -/
def IsPathChar (c : Char) : Prop :=
  Unicode.letters.has c = true ∨ Unicode.marks.has c = true ∨ Unicode.decimalDigits.has c = true ∨
    c ∈ ['.', '/', '\\', '_', '-', '#', '+', '~']

/-- Whether a character stays, given what stands behind it. -/
inductive Stays : Char → Text → Prop
  | char {c : Char} {behind : Text} (other : c ≠ '%') (place : IsPathChar c) : Stays c behind
  | escape {a b : Char} {rest : Text} (first : Text.isHexDigit a = true)
      (second : Text.isHexDigit b = true) : Stays '%' (a :: b :: rest)

/-- `Remains s t` says that `t` is `s` without the characters that do not stay. -/
inductive Remains : Text → Text → Prop
  | nil : Remains [] []
  | stays {c : Char} {behind left : Text} (here : Stays c behind) (rest : Remains behind left) :
      Remains (c :: behind) (c :: left)
  | goes {c : Char} {behind left : Text} (here : ¬ Stays c behind) (rest : Remains behind left) :
      Remains (c :: behind) left

variable {c : Char} {s t u : Text}

/-! ## Characters -/

theorem isKept_iff : isKept c = true ↔ IsPathChar c := by
  simp only [isKept, isPathPunctuation, IsPathChar, Bool.or_eq_true, beq_iff_eq, List.mem_cons,
    List.not_mem_nil, or_false, or_assoc]

theorem isKept_of_isHexDigit (digit : Text.isHexDigit c = true) : isKept c = true :=
  of_ascii (P := fun c => Text.isHexDigit c = true → isKept c = true) (by decide +kernel)
    (ascii_of_isHexDigit digit) digit

theorem stays_iff_of_ne (other : c ≠ '%') : Stays c s ↔ IsPathChar c := by
  constructor
  · intro here
    cases here with
    | char _ place => exact place
    | escape => exact absurd rfl other
  · exact .char other

/-- The digits of an escape have a place of their own. -/
theorem stays_of_isHexDigit (digit : Text.isHexDigit c = true) (behind : Text) :
    Stays c behind := by
  refine .char ?_ (isKept_iff.1 (isKept_of_isHexDigit digit))
  rintro rfl
  exact absurd digit (by decide)

/-- A percent sign stays for its escape only. -/
theorem exists_escape_of_stays (here : Stays '%' s) :
    ∃ a b rest, s = a :: b :: rest ∧ Text.isHexDigit a = true ∧ Text.isHexDigit b = true := by
  cases here with
  | char other => exact absurd rfl other
  | escape first second => exact ⟨_, _, _, rfl, first, second⟩

/-! ## Texts -/

theorem Remains.sublist (remains : Remains s t) : t.Sublist s := by
  induction remains with
  | nil => exact .slnil
  | stays _ _ ih => exact ih.cons_cons _
  | goes _ _ ih => exact ih.cons _

theorem Remains.unique (left : Remains s t) (right : Remains s u) : t = u := by
  induction left generalizing u with
  | nil =>
      cases right
      rfl
  | stays here _ ih =>
      cases right with
      | stays _ rest => rw [ih rest]
      | goes gone _ => exact absurd here gone
  | goes gone _ ih =>
      cases right with
      | stays here _ => exact absurd here gone
      | goes _ rest => exact ih rest

/-- **Sanitizing drops what does not stay**, step by step. -/
theorem remains_sanitize (s : Text) : Remains s (sanitize s) := by
  fun_induction sanitize s with
  | case1 a b rest digits ih =>
      obtain ⟨first, second⟩ := Bool.and_eq_true_iff.1 digits
      have behind : Remains (a :: b :: rest) (a :: b :: sanitize rest) :=
        .stays (stays_of_isHexDigit first _) (.stays (stays_of_isHexDigit second _) ih)
      exact .stays (.escape first second) behind
  | case2 a b rest digits ih =>
      refine .goes (fun here => digits ?_) ih
      obtain ⟨_, _, _, same, first, second⟩ := exists_escape_of_stays here
      cases same
      exact Bool.and_eq_true_iff.2 ⟨first, second⟩
  | case3 c rest _ kept ih =>
      refine .stays (.char ?_ (isKept_iff.1 kept)) ih
      rintro rfl
      exact absurd kept (by decide)
  | case4 c rest short dropped ih =>
      refine .goes (fun here => ?_) ih
      by_cases percent : c = '%'
      · subst percent
        obtain ⟨a, b, tail, rfl, -, -⟩ := exists_escape_of_stays here
        exact short a b tail rfl rfl
      · exact dropped (isKept_iff.2 ((stays_iff_of_ne percent).1 here))
  | case5 => exact .nil

/-- What is left is made of path characters and whole escapes. -/
theorem escaped_isPathChar_sanitize (s : Text) : Escaped IsPathChar (sanitize s) :=
  (escaped_sanitize s).mono fun _ => isKept_iff.1

theorem sanitize_eq_self_iff : sanitize s = s ↔ Escaped IsPathChar s := by
  constructor
  · intro same
    rw [← same]
    exact escaped_isPathChar_sanitize s
  · intro escaped
    exact sanitize_of_escaped (escaped.mono fun _ => isKept_iff.2)

/-- **Sanitizing drops exactly what does not stay**: percent signs that start no escape and other
characters that have no place in a path.  What is left is a part of the text made of path characters
and whole escapes; texts of that form, and no others, are left alone, and so is what was
sanitized. -/
theorem sanitizing_drops_what_does_not_stay (s : Text) :
    (∀ t, Remains s t ↔ t = sanitize s) ∧
      (sanitize s).Sublist s ∧
      Escaped IsPathChar (sanitize s) ∧
      (sanitize s = s ↔ Escaped IsPathChar s) ∧
      sanitize (sanitize s) = sanitize s := by
  have remains := remains_sanitize s
  have clean := escaped_isPathChar_sanitize s
  refine ⟨fun t => ⟨fun other => other.unique remains, ?_⟩, remains.sublist, clean,
    sanitize_eq_self_iff, sanitize_eq_self_iff.2 clean⟩
  rintro rfl
  exact remains

/-- A percent sign in front of an escape goes, and so does one too close to the next or to the
end. -/
example : sanitize "%%41".toList = "%41".toList ∧ sanitize "%4%41".toList = "4%41".toList ∧
    sanitize "a b%4".toList = "ab4".toList := by decide +kernel

end FieldTemplate.Url
