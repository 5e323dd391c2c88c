import FieldTemplate.Proofs.Template.Nodes

/-!
# Reading across a seam

One text stands directly behind another that can be read.  If the two braces of an opening do
not meet at the seam (`Seamless`), the reader is between placeholders when it gets there.

* `lexFrom_append`: the last literal of the front text and the first of the back text become one
  token, and everything else is read as if it stood alone.
* `lexFrom_stop`: what the reader stops at, and how far behind the start of its text, is the same
  wherever that text stands.
* `compile_append`: the template of the whole has the nodes of both parts, with the same one seam.
-/

namespace FieldTemplate

set_option autoImplicit false

open Text

/-- No opening lies across the seam of two texts. -/
def Seamless (front back : Text) : Prop := ¬ (front.getLast? = some '{' ∧ back.head? = some '{')

instance (front back : Text) : Decidable (Seamless front back) :=
  inferInstanceAs (Decidable (¬ (front.getLast? = some '{' ∧ back.head? = some '{')))

/-- A text without an opening runs on into the first literal of the text behind it. -/
theorem lexFrom_plain_append {p : Text} (plain : ¬ Doubled '{' p) {s : Text}
    (seamless : Seamless p s) (c : Cursor) :
    ∃ first rest, lexFrom (c.past p) s = Lexing.prepend (literalToken first (c.past p)) rest ∧
      lexFrom c (p ++ s) = Lexing.prepend (literalToken (p ++ first) c) rest := by
  by_cases opens : Doubled '{' s
  · obtain ⟨before, inner, rfl, upTo⟩ := exists_upTo_of_doubled opens
    have upTo' : UpTo '{' (p ++ before) := by
      obtain ⟨noPair, noLast⟩ := upTo_iff.1 upTo
      refine upTo_iff.2 ⟨?_, ?_⟩
      · rw [doubled_append_iff]
        rintro (pair | pair | ⟨last, head⟩)
        · exact plain pair
        · exact noPair pair
        · exact seamless ⟨last, by simp [head]⟩
      · intro last
        cases before with
        | nil => exact seamless ⟨by simpa using last, rfl⟩
        | cons b before => exact noLast (by simpa using last)
    refine ⟨before, lexFrom (c.past (p ++ before)) (opening ++ inner), ?_, ?_⟩
    · rw [← Cursor.past_past]
      exact lexFrom_literal upTo inner (c.past p)
    · rw [← List.append_assoc]
      exact lexFrom_literal upTo' inner c
  · have plain' : ¬ Doubled '{' (p ++ s) := by
      rw [doubled_append_iff]
      rintro (pair | pair | across)
      · exact plain pair
      · exact opens pair
      · exact seamless across
    refine ⟨s, ⟨[], none⟩, ?_, ?_⟩
    · rw [lexFrom_plain opens]
      simp [Lexing.prepend]
    · rw [lexFrom_plain plain']
      simp [Lexing.prepend]

/-- **Reading goes on across a seam as if started afresh**, but for one literal: the last of the
front text and the first of the back text are one token. -/
theorem lexFrom_append {p : Text} (readable : Readable p) {s : Text} (seamless : Seamless p s)
    (c : Cursor) :
    ∃ front last place first rest, lexFrom c p = ⟨front ++ literalToken last place, none⟩ ∧
      lexFrom (c.past p) s = Lexing.prepend (literalToken first (c.past p)) rest ∧
      lexFrom c (p ++ s) = Lexing.prepend (front ++ literalToken (last ++ first) place) rest := by
  induction p using scan_induction generalizing c with
  | plain p plain =>
      obtain ⟨first, rest, back, whole⟩ := lexFrom_plain_append plain seamless c
      exact ⟨[], p, c, first, rest, lexFrom_plain plain c, back, whole⟩
  | spoiled before inner fault n upTo spoiled =>
      rw [readable_literal_iff upTo] at readable
      exact absurd readable (not_readable_spoiled spoiled)
  | placeholder before body rest upTo isBody ih =>
      rw [readable_literal_iff upTo, readable_placeholder_iff isBody] at readable
      have seamless' : Seamless rest s := by
        rintro ⟨last, head⟩
        exact seamless ⟨by simp [last], head⟩
      obtain ⟨front, last, place, first, behind, own, back, whole⟩ :=
        ih readable seamless' (c.past (before ++ (opening ++ body ++ closing)))
      refine ⟨literalToken before c ++ .placeholder (trim body) (c.past before).offset :: front,
        last, place, first, behind, ?_, ?_, ?_⟩
      · rw [lexFrom_literal upTo, lexFrom_placeholder isBody, Cursor.past_past, own]
        simp [Lexing.prepend]
      · rw [Cursor.past_past] at back
        simpa using back
      · simp only [List.append_assoc] at whole ⊢
        rw [lexFrom_literal upTo, lexFrom_placeholder isBody]
        simp only [Cursor.past_past, List.append_assoc, whole]
        simp [Lexing.prepend]

/-- The fault of a text, and the part of the text in front of its place, do not depend on where
the text stands. -/
theorem lexFrom_stop (s : Text) :
    (∀ c, (lexFrom c s).stop = none) ∨
      ∃ fault n, ∀ c, (lexFrom c s).stop = some ⟨fault, c.past (s.take n)⟩ := by
  induction s using scan_induction with
  | plain s plain => exact .inl fun c => by rw [lexFrom_plain plain]
  | spoiled before inner fault n upTo spoiled =>
      refine .inr ⟨fault, before.length + n, fun c => ?_⟩
      rw [lexFrom_literal upTo, lexFrom_spoiled spoiled, Lexing.prepend_stop, Cursor.past_past,
        List.take_length_add_append]
  | placeholder before body rest upTo isBody ih =>
      have step (c : Cursor) :
          (lexFrom c (before ++ (opening ++ (body ++ (closing ++ rest))))).stop =
            (lexFrom (c.past (before ++ (opening ++ (body ++ closing)))) rest).stop := by
        rw [lexFrom_literal upTo, lexFrom_placeholder isBody, Cursor.past_past]
        simp
      have regroup : before ++ (opening ++ (body ++ (closing ++ rest))) =
          (before ++ (opening ++ (body ++ closing))) ++ rest := by
        simp
      rcases ih with none_ | ⟨fault, n, some_⟩
      · exact .inl fun c => by rw [step, none_]
      · refine .inr ⟨fault, (before ++ (opening ++ (body ++ closing))).length + n, fun c => ?_⟩
        rw [step, some_, Cursor.past_past, regroup, List.take_length_add_append]

/-! ## Nodes across a seam -/

theorem nodesOf_append_eq_ok_iff {xs ys : List Token} {nodes : List Node} :
    nodesOf (xs ++ ys) = .ok nodes ↔
      ∃ front back, nodesOf xs = .ok front ∧ nodesOf ys = .ok back ∧ nodes = front ++ back := by
  rw [nodesOf_eq_mapM, List.mapM_append, ← nodesOf_eq_mapM, ← nodesOf_eq_mapM]
  change ((nodesOf xs).bind fun front => (nodesOf ys).bind fun back => .ok (front ++ back)) = _ ↔ _
  simp only [except_bind_eq_ok_iff, Except.ok.injEq, exists_and_left, eq_comm (b := nodes)]

theorem nodesOf_literalToken (s : Text) (c : Cursor) :
    nodesOf (literalToken s c) = .ok (textNodes s) := by
  have := nodesOf_literalToken_append s c []
  simpa [nodesOf, Except.map] using this

/-- Nodes hold no offsets, so they are the same wherever the text stands. -/
theorem nodesOf_lexFrom (s : Text) (c c' : Cursor) :
    nodesOf (lexFrom c s).tokens = nodesOf (lexFrom c' s).tokens := by
  induction s using scan_induction generalizing c c' with
  | plain s plain =>
      rw [lexFrom_plain plain, lexFrom_plain plain, nodesOf_literalToken, nodesOf_literalToken]
  | spoiled before inner fault n upTo spoiled =>
      rw [lexFrom_literal upTo, lexFrom_literal upTo, lexFrom_spoiled spoiled,
        lexFrom_spoiled spoiled, Lexing.prepend_tokens, Lexing.prepend_tokens,
        nodesOf_literalToken_append, nodesOf_literalToken_append]
  | placeholder before body rest upTo isBody ih =>
      have behind := ih ((c.past before).past (opening ++ body ++ closing))
        ((c'.past before).past (opening ++ body ++ closing))
      rw [lexFrom_literal upTo, lexFrom_literal upTo, lexFrom_placeholder isBody,
        lexFrom_placeholder isBody]
      simp only [Lexing.prepend_tokens, nodesOf_literalToken_append, List.singleton_append,
        nodesOf, Token.toNode, behind]

namespace Template

/-- **A template of two parts has the nodes of both**, with the texts at the seam in one node. -/
theorem compile_append {s₁ s₂ : Text} {t₁ t₂ : Template} (seamless : Seamless s₁ s₂)
    (compiled₁ : compile s₁ = .ok t₁) (compiled₂ : compile s₂ = .ok t₂) :
    ∃ xs last first ys, t₁.nodes = xs ++ textNodes last ∧ t₂.nodes = textNodes first ++ ys ∧
      compile (s₁ ++ s₂) = .ok ⟨xs ++ (textNodes (last ++ first) ++ ys), s₁ ++ s₂⟩ := by
  obtain ⟨tokens₁, nodes₁, read₁, built₁, rfl⟩ := compile_eq_ok_iff.1 compiled₁
  obtain ⟨tokens₂, nodes₂, read₂, built₂, rfl⟩ := compile_eq_ok_iff.1 compiled₂
  obtain ⟨tokens, last, place, first, rest, own, behind, whole⟩ :=
    lexFrom_append (readable_iff_tokenize.2 ⟨_, read₁⟩) seamless .start
  have readable₂ := readable_iff_tokenize.2 ⟨_, read₂⟩
  rw [tokenize_eq_ok_iff, lex] at read₁ read₂
  -- the back text gives the same nodes behind the front text as at the start
  have moved := nodesOf_lexFrom s₂ .start (Cursor.start.past s₁)
  rw [read₁] at own
  cases own
  rw [read₂, built₂, behind, Lexing.prepend_tokens] at moved
  obtain ⟨xs, _, builtFront, builtLast, rfl⟩ := nodesOf_append_eq_ok_iff.1 built₁
  obtain ⟨_, ys, builtFirst, builtRest, rfl⟩ := nodesOf_append_eq_ok_iff.1 moved.symm
  rw [nodesOf_literalToken] at builtLast builtFirst
  cases builtLast
  cases builtFirst
  have stop : rest.stop = none := by
    rw [readable_iff_stop (Cursor.start.past s₁), behind] at readable₂
    exact readable₂
  have read : tokenize (s₁ ++ s₂) = .ok (tokens ++ literalToken (last ++ first) place ++
      rest.tokens) := by
    rw [tokenize_eq_ok_iff, lex, whole, Lexing.prepend, stop]
  have built : nodesOf (tokens ++ literalToken (last ++ first) place ++ rest.tokens) =
      .ok (xs ++ (textNodes (last ++ first) ++ ys)) := by
    rw [List.append_assoc, nodesOf_append_eq_ok_iff]
    refine ⟨xs, textNodes (last ++ first) ++ ys, builtFront, ?_, rfl⟩
    exact nodesOf_append_eq_ok_iff.2 ⟨_, _, nodesOf_literalToken _ _, builtRest, rfl⟩
  exact ⟨xs, last, first, ys, rfl, rfl, compile_eq_ok_iff.2 ⟨_, _, read, built, rfl⟩⟩

end Template

end FieldTemplate
