import FieldTemplate.Proofs.Template.Scan

/-!
# The fault of a template text

Reading ends at the first opening that no placeholder starts with.  `BreaksAt` says where that
is: in front of it stands a text that can be read and does not reach into the opening.

The main statement is `tokenize_fails_exactly`: the reader reports a fault for these texts and
no others, of the kind and at the place that the text behind the opening determines, and has
read the text in front of it as if it stood alone.
-/

namespace FieldTemplate

set_option autoImplicit false

open Text

theorem tokenize_eq_ok_iff {s : Text} {tokens : List Token} :
    tokenize s = .ok tokens ↔ lex s = ⟨tokens, none⟩ := by
  rw [tokenize]
  split <;> next read => simp [read]

theorem tokenize_eq_error_iff {s : Text} {e : SyntaxError} :
    tokenize s = .error e ↔ ∃ stop, (lex s).stop = some stop ∧ e = stop.toError s := by
  rw [tokenize]
  split <;> next read => simp [read, eq_comm]

theorem readable_iff_tokenize {s : Text} : Readable s ↔ ∃ tokens, tokenize s = .ok tokens := by
  constructor
  · intro readable
    refine ⟨(lex s).tokens, tokenize_eq_ok_iff.2 ?_⟩
    rw [← show (lex s).stop = none from readable]
  · rintro ⟨tokens, read⟩
    rw [Readable, tokenize_eq_ok_iff.1 read]

/-! ## What is spoiled stays spoiled in one way -/

theorem Spoiled.le_length {inner : Text} {fault : SyntaxFault} {n : Nat}
    (spoiled : Spoiled inner fault n) : n ≤ (opening ++ inner).length := by
  cases spoiled with
  | nested after upTo noClosing => simp [opening]; omega
  | empty rest blank => exact Nat.zero_le _
  | unterminated noOpening noClosing => exact Nat.zero_le _

theorem Spoiled.unique {inner : Text} {fault fault' : SyntaxFault} {n n' : Nat}
    (spoiled : Spoiled inner fault n) (spoiled' : Spoiled inner fault' n') :
    fault = fault' ∧ n = n' := by
  have read := lexFrom_spoiled spoiled .start
  rw [lexFrom_spoiled spoiled' .start] at read
  simp only [Lexing.mk.injEq, Option.some.injEq, Stop.mk.injEq, Cursor.past, Cursor.mk.injEq,
    List.length_take, Nat.min_eq_left spoiled.le_length, Nat.min_eq_left spoiled'.le_length,
    true_and] at read
  obtain ⟨sameFault, samePlace, -⟩ := read
  exact ⟨sameFault.symm, by omega⟩

/-- A placeholder is no fault. -/
theorem Spoiled.not_isBody {body rest : Text} {fault : SyntaxFault} {n : Nat}
    (spoiled : Spoiled (body ++ (closing ++ rest)) fault n) : ¬ IsBody body := by
  intro isBody
  have read := lexFrom_spoiled spoiled .start
  rw [lexFrom_placeholder isBody] at read
  have tokens := congrArg Lexing.tokens read
  simp at tokens

/-! ## The place of the fault -/

/-- `source` starts with `p`, which can be read and does not end in half an opening, and goes
on with an opening that cannot: it has this fault, `n` characters behind `p`. -/
structure BreaksAt (source p : Text) (fault : SyntaxFault) (n : Nat) : Prop where
  readable : ∃ tokens, tokenize p = .ok tokens
  boundary : p.getLast? ≠ some '{'
  spoiled : ∃ inner, source = p ++ (opening ++ inner) ∧ Spoiled inner fault n

theorem not_readable_iff_breaksAt {source : Text} :
    ¬ Readable source ↔ ∃ p fault n, BreaksAt source p fault n := by
  constructor
  · intro stuck
    rcases readable_or_spoiled source with readable |
      ⟨p, inner, fault, n, shape, readable, boundary, spoiled⟩
    · exact absurd readable stuck
    · exact ⟨p, fault, n, readable_iff_tokenize.1 readable, boundary, inner, shape, spoiled⟩
  · rintro ⟨p, fault, n, readable, boundary, inner, rfl, spoiled⟩ whole
    have split := lexFrom_readable_append (readable_iff_tokenize.2 readable) boundary inner .start
    rw [Readable, lex, split, Lexing.prepend_stop, ← readable_iff_stop] at whole
    exact not_readable_spoiled spoiled whole

/-- The reading of a text that breaks: the tokens in front of the fault, and the fault. -/
theorem BreaksAt.lex_eq {source p : Text} {fault : SyntaxFault} {n : Nat}
    (breaks : BreaksAt source p fault n) :
    ∃ tokens cursor, tokenize p = .ok tokens ∧ lex source = ⟨tokens, some ⟨fault, cursor⟩⟩ ∧
      cursor.position = p.length + n := by
  obtain ⟨⟨tokens, read⟩, boundary, inner, rfl, spoiled⟩ := breaks
  have readable : Readable p := readable_iff_tokenize.2 ⟨tokens, read⟩
  have split := lexFrom_readable_append readable boundary inner .start
  refine ⟨tokens, (Cursor.start.past p).past ((opening ++ inner).take n), read, ?_, ?_⟩
  · rw [tokenize_eq_ok_iff, lex] at read
    rw [lex, split, read, lexFrom_spoiled spoiled]
    simp [Lexing.prepend]
  · rw [Cursor.past, List.length_take_of_le spoiled.le_length]
    simp [Cursor.past, Cursor.start]

/-- Behind a fault there is no other: the reader does not get there. -/
theorem BreaksAt.length_le {source p q : Text} {fault fault' : SyntaxFault} {n n' : Nat}
    (breaks : BreaksAt source p fault n) (breaks' : BreaksAt source q fault' n') :
    q.length ≤ p.length := by
  obtain ⟨readable, boundary, inner, shape, spoiled⟩ := breaks
  obtain ⟨readable', boundary', inner', shape', spoiled'⟩ := breaks'
  rw [shape] at shape'
  rcases List.append_eq_append_iff.1 shape' with ⟨t, rfl, tail⟩ | ⟨t, rfl, -⟩
  · -- `q` is `p` with a part of the opening and of what follows it
    simp only [opening, List.cons_append, List.nil_append] at tail
    rcases t with _ | ⟨a, _ | ⟨b, y⟩⟩
    · simp
    · obtain ⟨rfl, -⟩ := List.cons.inj tail
      simp at boundary'
    · simp only [List.cons_append, List.cons.injEq] at tail
      obtain ⟨rfl, rfl, rfl⟩ := tail
      have whole := readable_iff_tokenize.2 readable'
      rw [show p ++ '{' :: '{' :: y = p ++ (opening ++ y) from rfl, readable_iff_stop .start,
        lexFrom_readable_append (readable_iff_tokenize.2 readable) boundary, Lexing.prepend_stop,
        ← readable_iff_stop] at whole
      rcases spoiled_or_body y with ⟨fault, n, bad⟩ | ⟨body, rest, isBody, rfl⟩
      · exact absurd whole (not_readable_spoiled bad)
      · simp only [List.append_assoc] at spoiled
        exact absurd isBody spoiled.not_isBody
  · simp

theorem BreaksAt.unique {source p q : Text} {fault fault' : SyntaxFault} {n n' : Nat}
    (breaks : BreaksAt source p fault n) (breaks' : BreaksAt source q fault' n') :
    p = q ∧ fault = fault' ∧ n = n' := by
  have length : p.length = q.length :=
    Nat.le_antisymm (breaks'.length_le breaks) (breaks.length_le breaks')
  obtain ⟨-, -, inner, shape, spoiled⟩ := breaks
  obtain ⟨-, -, inner', shape', spoiled'⟩ := breaks'
  rw [shape] at shape'
  obtain ⟨rfl, tail⟩ := List.append_inj shape' length
  obtain rfl : inner = inner' := List.append_cancel_left tail
  exact ⟨rfl, spoiled.unique spoiled'⟩

/-- **Exactly when, where and how reading fails.**  The faults of a text are those of the
openings in it that cannot be read behind a text that can; there is at most one such opening,
and the tokens read before the fault are those of the text in front of it. -/
theorem tokenize_fails_exactly (source : Text) :
    (∀ fault position,
      (∃ e, tokenize source = .error e ∧ e.fault = fault ∧ e.position = position) ↔
        ∃ p n, BreaksAt source p fault n ∧ position = p.length + n) ∧
    (∀ p fault n, BreaksAt source p fault n →
      ∃ tokens stop, tokenize p = .ok tokens ∧ lex source = ⟨tokens, some stop⟩ ∧
        tokenize source = .error (stop.toError source)) ∧
    (∀ p q fault fault' n n', BreaksAt source p fault n → BreaksAt source q fault' n' →
      p = q ∧ fault = fault' ∧ n = n') := by
  refine ⟨fun fault position => ⟨?_, ?_⟩, ?_, fun _ _ _ _ _ _ => BreaksAt.unique⟩
  · rintro ⟨e, raised, rfl, rfl⟩
    obtain ⟨stop, stopped, rfl⟩ := tokenize_eq_error_iff.1 raised
    have stuck : ¬ Readable source := by
      rw [Readable, stopped]
      exact Option.some_ne_none _
    obtain ⟨p, fault, n, breaks⟩ := not_readable_iff_breaksAt.1 stuck
    obtain ⟨tokens, cursor, -, read, place⟩ := breaks.lex_eq
    rw [read] at stopped
    cases stopped
    exact ⟨p, n, breaks, place⟩
  · rintro ⟨p, n, breaks, rfl⟩
    obtain ⟨tokens, cursor, -, read, place⟩ := breaks.lex_eq
    exact ⟨_, tokenize_eq_error_iff.2 ⟨⟨fault, cursor⟩, by rw [read], rfl⟩, rfl, place⟩
  · intro p fault n breaks
    obtain ⟨tokens, cursor, own, read, -⟩ := breaks.lex_eq
    exact ⟨tokens, ⟨fault, cursor⟩, own, read,
      tokenize_eq_error_iff.2 ⟨⟨fault, cursor⟩, by rw [read], rfl⟩⟩

end FieldTemplate
