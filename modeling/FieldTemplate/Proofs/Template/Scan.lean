import FieldTemplate.Template.Token
import FieldTemplate.Proofs.Text.Doubled
import FieldTemplate.Proofs.Text.Trim

/-!
# How a template text is read

The reader looks for an opening, then for what follows it.  Here this is said without the
reader: `UpTo '{' before` is a literal with an opening behind it, `IsBody body` what a
placeholder holds, and `Spoiled inner fault n` a text that no placeholder starts with.  Behind
an opening there is always one of the two (`spoiled_or_body`), and the reader acts on each as
its equation says (`lexFrom_plain`, `lexFrom_literal`, `lexFrom_placeholder`,
`lexFrom_spoiled`).  Proofs about the reader go by `scan_induction` and rewrite with these
equations; nothing below them unfolds the reader.

* `lexFrom_readable_append`: what stands before an opening is read as if it stood alone.
* `readable_or_spoiled`: a text that cannot be read is readable up to the opening at fault.
-/

namespace FieldTemplate

set_option autoImplicit false

open Text

/-- What a placeholder holds between its delimiters: something that is not blank, with no
opening in it, up to the first closing. -/
structure IsBody (body : Text) : Prop where
  upTo : UpTo '}' body
  noOpening : ¬ Doubled '{' body
  solid : trim body ≠ []

/-- A text behind an opening that no placeholder starts with, the fault of it, and the number
of characters between the opening and the place that the fault is reported at. -/
inductive Spoiled : Text → SyntaxFault → Nat → Prop
  | nested {before : Text} (after : Text) (upTo : UpTo '{' before)
      (noClosing : ¬ Doubled '}' before) :
      Spoiled (before ++ (opening ++ after)) .nested (2 + before.length)
  | empty {blanks : Text} (rest : Text) (blank : allBlank blanks = true) :
      Spoiled (blanks ++ (closing ++ rest)) .empty 0
  | unterminated {inner : Text} (noOpening : ¬ Doubled '{' inner)
      (noClosing : ¬ Doubled '}' inner) : Spoiled inner .unterminated 0

/-! ## What follows an opening -/

theorem opened_nested {before : Text} (upTo : UpTo '{' before) (noClosing : ¬ Doubled '}' before)
    (after : Text) : opened (before ++ (opening ++ after)) = .nested before := by
  have cut : cutDouble '{' (before ++ (opening ++ after)) = some (before, after) :=
    cutDouble_of_upTo upTo after
  rw [opened, cut]
  cases close : cutDouble '}' (before ++ (opening ++ after)) with
  | none => rfl
  | some parts =>
      have first := length_lt_of_pairs (by decide) (eq_of_cutDouble close) noClosing
      exact if_pos first

theorem opened_closed {body : Text} (upTo : UpTo '}' body) (noOpening : ¬ Doubled '{' body)
    (rest : Text) : opened (body ++ (closing ++ rest)) = .closed body rest := by
  have cut : cutDouble '}' (body ++ (closing ++ rest)) = some (body, rest) :=
    cutDouble_of_upTo upTo rest
  rw [opened, cut]
  cases again : cutDouble '{' (body ++ (closing ++ rest)) with
  | none => rfl
  | some parts =>
      have first := length_lt_of_pairs (by decide) (eq_of_cutDouble again) noOpening
      exact if_neg (by omega)

theorem opened_unclosed {inner : Text} (noOpening : ¬ Doubled '{' inner)
    (noClosing : ¬ Doubled '}' inner) : opened inner = .unclosed := by
  rw [opened, cutDouble_eq_none_iff.2 noOpening, cutDouble_eq_none_iff.2 noClosing]

/-- Behind an opening there is a placeholder or a fault. -/
theorem spoiled_or_body (inner : Text) :
    (∃ fault n, Spoiled inner fault n) ∨
      ∃ body rest, IsBody body ∧ inner = body ++ (closing ++ rest) := by
  by_cases close : Doubled '}' inner
  · obtain ⟨body, rest, rfl, upTo⟩ := exists_upTo_of_doubled close
    by_cases again : Doubled '{' body
    · obtain ⟨before, after, rfl, upTo'⟩ := exists_upTo_of_doubled again
      have noClosing : ¬ Doubled '}' before := fun double =>
        upTo.not_doubled (double.append_right _)
      have nested := Spoiled.nested (after ++ closing ++ rest) upTo' noClosing
      exact .inl ⟨.nested, _, by simpa [opening, closing] using nested⟩
    · by_cases blank : trim body = []
      · exact .inl ⟨.empty, 0, .empty rest (trim_eq_nil_iff.1 blank)⟩
      · exact .inr ⟨body, rest, ⟨upTo, again, blank⟩, rfl⟩
  · left
    by_cases again : Doubled '{' inner
    · obtain ⟨before, after, rfl, upTo⟩ := exists_upTo_of_doubled again
      exact ⟨.nested, _, .nested after upTo fun double => close (double.append_right _)⟩
    · exact ⟨.unterminated, 0, .unterminated again close⟩

/-! ## One step of the reader -/

namespace Cursor

@[simp] theorem past_nil (c : Cursor) : c.past [] = c := rfl

theorem past_past (c : Cursor) (s t : Text) : (c.past s).past t = c.past (s ++ t) := by
  simp [past, Nat.add_assoc]

end Cursor

/-- A reading with more tokens in front. -/
def Lexing.prepend (tokens : List Token) (l : Lexing) : Lexing := ⟨tokens ++ l.tokens, l.stop⟩

namespace Lexing

@[simp] theorem prepend_tokens (tokens : List Token) (l : Lexing) :
    (l.prepend tokens).tokens = tokens ++ l.tokens := rfl

@[simp] theorem prepend_stop (tokens : List Token) (l : Lexing) :
    (l.prepend tokens).stop = l.stop := rfl

end Lexing

theorem lexFrom_plain {s : Text} (plain : ¬ Doubled '{' s) (c : Cursor) :
    lexFrom c s = ⟨literalToken s c, none⟩ := by
  rw [lexFrom]
  split
  · rfl
  · next cut => rw [cutDouble_eq_none_iff.2 plain] at cut; cases cut

/-- The reading of a text with an opening in it, by what follows the opening. -/
theorem lexFrom_cut {before : Text} (upTo : UpTo '{' before) (inner : Text) (c : Cursor) :
    lexFrom c (before ++ (opening ++ inner)) =
      match opened inner with
      | .nested skipped =>
        ⟨literalToken before c, some ⟨.nested, (c.past before).past (opening ++ skipped)⟩⟩
      | .unclosed => ⟨literalToken before c, some ⟨.unterminated, c.past before⟩⟩
      | .closed body rest =>
        if trim body = [] then ⟨literalToken before c, some ⟨.empty, c.past before⟩⟩
        else
          (lexFrom ((c.past before).past (opening ++ body ++ closing)) rest).prepend
            (literalToken before c ++ [.placeholder (trim body) (c.past before).offset]) := by
  have cut : cutDouble '{' (before ++ (opening ++ inner)) = some (before, inner) :=
    cutDouble_of_upTo upTo inner
  rw [lexFrom]
  split
  · next none_ => rw [cut] at none_; cases none_
  · next some_ =>
    rw [cut] at some_
    cases some_
    split <;> next found => simp [found, Lexing.prepend]

/-- A literal in front of an opening is read on its own. -/
theorem lexFrom_literal {before : Text} (upTo : UpTo '{' before) (inner : Text) (c : Cursor) :
    lexFrom c (before ++ (opening ++ inner)) =
      (lexFrom (c.past before) (opening ++ inner)).prepend (literalToken before c) := by
  have alone := lexFrom_cut upTo_nil inner (c.past before)
  rw [List.nil_append] at alone
  rw [lexFrom_cut upTo, alone]
  cases opened inner with
  | nested skipped => simp [Lexing.prepend, literalToken]
  | unclosed => simp [Lexing.prepend, literalToken]
  | closed body rest =>
      by_cases blank : trim body = []
      · simp [Lexing.prepend, literalToken, blank]
      · simp [Lexing.prepend, literalToken, blank]

/-- A fault ends the reading at its place. -/
theorem lexFrom_spoiled {inner : Text} {fault : SyntaxFault} {n : Nat}
    (spoiled : Spoiled inner fault n) (c : Cursor) :
    lexFrom c (opening ++ inner) = ⟨[], some ⟨fault, c.past ((opening ++ inner).take n)⟩⟩ := by
  have step := lexFrom_cut upTo_nil inner c
  rw [List.nil_append] at step
  rw [step]
  cases spoiled with
  | nested after upTo noClosing =>
      rw [opened_nested upTo noClosing]
      simp [literalToken, opening, Nat.add_comm 2]
  | empty rest blank =>
      have upTo : UpTo '}' _ := upTo_of_not_mem (not_mem_of_allBlank blank (by decide))
      have upTo' : UpTo '{' _ := upTo_of_not_mem (not_mem_of_allBlank blank (by decide))
      rw [opened_closed upTo upTo'.not_doubled]
      simp [literalToken, trim_eq_nil_iff.2 blank]
  | unterminated noOpening noClosing =>
      rw [opened_unclosed noOpening noClosing]
      simp [literalToken]

/-- A placeholder is one token, and the reading goes on behind it. -/
theorem lexFrom_placeholder {body : Text} (isBody : IsBody body) (rest : Text) (c : Cursor) :
    lexFrom c (opening ++ (body ++ (closing ++ rest))) =
      (lexFrom (c.past (opening ++ body ++ closing)) rest).prepend
        [.placeholder (trim body) c.offset] := by
  have step := lexFrom_cut upTo_nil (body ++ (closing ++ rest)) c
  rw [List.nil_append, opened_closed isBody.upTo isBody.noOpening] at step
  simpa [isBody.solid, literalToken] using step

/-- **Induction along a text as it is read**: a last literal; a literal and an opening that
cannot be read; or a literal, a placeholder and the text behind it. -/
theorem scan_induction {motive : Text → Prop}
    (plain : ∀ s, ¬ Doubled '{' s → motive s)
    (spoiled : ∀ before inner fault n, UpTo '{' before → Spoiled inner fault n →
      motive (before ++ (opening ++ inner)))
    (placeholder : ∀ before body rest, UpTo '{' before → IsBody body → motive rest →
      motive (before ++ (opening ++ (body ++ (closing ++ rest))))) (s : Text) : motive s := by
  by_cases open_ : Doubled '{' s
  · obtain ⟨before, inner, shape, upTo⟩ := exists_upTo_of_doubled open_
    rcases spoiled_or_body inner with ⟨fault, n, bad⟩ | ⟨body, rest, isBody, tail⟩
    · exact shape ▸ spoiled before inner fault n upTo bad
    · have shorter : rest.length < s.length := by simp [shape, tail]; omega
      have behind := scan_induction plain spoiled placeholder rest
      rw [shape, tail]
      exact placeholder before body rest upTo isBody behind
  · exact plain s open_
termination_by s.length

/-! ## Texts without a fault -/

/-- The text is read to its end. -/
def Readable (s : Text) : Prop := (lex s).stop = none

/-- Where a text stands does not matter for whether it can be read. -/
theorem stop_eq_none_of (s : Text) (c c' : Cursor) (stop : (lexFrom c s).stop = none) :
    (lexFrom c' s).stop = none := by
  induction s using scan_induction generalizing c c' with
  | plain s plain => rw [lexFrom_plain plain]
  | spoiled before inner fault n upTo spoiled =>
      rw [lexFrom_literal upTo, lexFrom_spoiled spoiled] at stop
      cases stop
  | placeholder before body rest upTo isBody ih =>
      rw [lexFrom_literal upTo, lexFrom_placeholder isBody] at stop ⊢
      exact ih _ _ stop

theorem readable_iff_stop {s : Text} (c : Cursor) : Readable s ↔ (lexFrom c s).stop = none :=
  ⟨stop_eq_none_of s .start c, stop_eq_none_of s c .start⟩

theorem readable_plain {s : Text} (plain : ¬ Doubled '{' s) : Readable s := by
  rw [Readable, lex, lexFrom_plain plain]

theorem readable_literal_iff {before : Text} (upTo : UpTo '{' before) (inner : Text) :
    Readable (before ++ (opening ++ inner)) ↔ Readable (opening ++ inner) := by
  rw [readable_iff_stop .start, lexFrom_literal upTo, Lexing.prepend_stop, ← readable_iff_stop]

theorem readable_placeholder_iff {body : Text} (isBody : IsBody body) (rest : Text) :
    Readable (opening ++ (body ++ (closing ++ rest))) ↔ Readable rest := by
  rw [readable_iff_stop .start, lexFrom_placeholder isBody, Lexing.prepend_stop,
    ← readable_iff_stop]

theorem not_readable_spoiled {inner : Text} {fault : SyntaxFault} {n : Nat}
    (spoiled : Spoiled inner fault n) : ¬ Readable (opening ++ inner) := by
  rw [Readable, lex, lexFrom_spoiled spoiled]
  simp

/-- **A readable text in front of an opening is read as if it stood alone**, and the opening
as if it stood at its end, unless a brace at the seam makes another opening. -/
theorem lexFrom_readable_append {p : Text} (readable : Readable p)
    (boundary : p.getLast? ≠ some '{') (inner : Text) (c : Cursor) :
    lexFrom c (p ++ (opening ++ inner)) =
      (lexFrom (c.past p) (opening ++ inner)).prepend (lexFrom c p).tokens := by
  induction p using scan_induction generalizing c with
  | plain p plain =>
      rw [lexFrom_literal (upTo_iff.2 ⟨plain, boundary⟩), lexFrom_plain plain]
  | spoiled before inner' fault n upTo spoiled =>
      rw [readable_literal_iff upTo] at readable
      exact absurd readable (not_readable_spoiled spoiled)
  | placeholder before body rest upTo isBody ih =>
      rw [readable_literal_iff upTo, readable_placeholder_iff isBody] at readable
      have boundary' : rest.getLast? ≠ some '{' := by
        intro last
        exact boundary (by simp [last])
      have step := ih readable boundary' (c.past (before ++ (opening ++ body ++ closing)))
      simp only [List.append_assoc] at step ⊢
      rw [lexFrom_literal upTo, lexFrom_literal upTo, lexFrom_placeholder isBody,
        lexFrom_placeholder isBody]
      simp only [Cursor.past_past, List.append_assoc, step]
      simp [Lexing.prepend]

/-- A text is readable, or it is so up to an opening that cannot be read. -/
theorem readable_or_spoiled (s : Text) :
    Readable s ∨ ∃ p inner fault n, s = p ++ (opening ++ inner) ∧ Readable p ∧
      p.getLast? ≠ some '{' ∧ Spoiled inner fault n := by
  induction s using scan_induction with
  | plain s plain => exact .inl (readable_plain plain)
  | spoiled before inner fault n upTo spoiled =>
      obtain ⟨plain, boundary⟩ := upTo_iff.1 upTo
      exact .inr ⟨before, inner, fault, n, rfl, readable_plain plain, boundary, spoiled⟩
  | placeholder before body rest upTo isBody ih =>
      rcases ih with readable | ⟨p, inner, fault, n, rfl, readable, boundary, spoiled⟩
      · left
        rwa [readable_literal_iff upTo, readable_placeholder_iff isBody]
      · refine .inr ⟨before ++ (opening ++ (body ++ (closing ++ p))), inner, fault, n, ?_, ?_, ?_,
          spoiled⟩
        · simp only [List.append_assoc]
        · rwa [readable_literal_iff upTo, readable_placeholder_iff isBody]
        · cases last : p.getLast? with
          | none => simp [closing, List.getLast?_cons, last]
          | some d => simpa [last] using boundary

end FieldTemplate
