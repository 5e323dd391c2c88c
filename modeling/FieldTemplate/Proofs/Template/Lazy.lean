import FieldTemplate.Template.Stream
import FieldTemplate.Proofs.Template.Nodes

/-!
# Reading ahead and reading on demand

The tokens that a reader hands out one by one are those of the whole text, up to the same fault
(`Reader.drain_start`), and whoever makes nodes of them on the way meets the first of all faults
(`Reader.template_eq`).  So the two ways to compile a text agree where one of them succeeds; they
differ only if a bad path stands in front of a syntax error.  The main statement is
`eager_and_lazy_compilation_agree`.
-/

namespace FieldTemplate

set_option autoImplicit false

open Text

namespace Reader

/-! ## The tokens of a reader -/

theorem drain_eq (r : Reader) :
    r.drain =
      match r.pull with
      | .done => ⟨[], none⟩
      | .stop s => ⟨[], some s⟩
      | .token t next => next.drain.prepend [t] := by
  rw [drain]
  split <;> next answer => simp only [answer, Lexing.prepend, List.singleton_append]

theorem pull_plain {s : Text} (plain : ¬ Doubled '{' s) (c : Cursor) :
    (outside c s).pull =
      if s = [] then .done else .token (.literal s c.offset) (.outside (c.past s) []) := by
  rw [pull, cutDouble_eq_none_iff.2 plain]

theorem pull_literal {before : Text} (upTo : UpTo '{' before) (inner : Text) (c : Cursor) :
    (outside c (before ++ (opening ++ inner))).pull =
      if before = [] then (inside c inner).pull
      else .token (.literal before c.offset) (.inside (c.past before) inner) := by
  have cut : cutDouble '{' (before ++ (opening ++ inner)) = some (before, inner) :=
    cutDouble_of_upTo upTo inner
  rw [show (inside c inner).pull = pullPlaceholder c inner from rfl, pull, cut]

theorem pull_spoiled {inner : Text} {fault : SyntaxFault} {n : Nat}
    (spoiled : Spoiled inner fault n) (c : Cursor) :
    (inside c inner).pull = .stop ⟨fault, c.past ((opening ++ inner).take n)⟩ := by
  rw [pull, pullPlaceholder]
  cases spoiled with
  | nested after upTo noClosing =>
      rw [opened_nested upTo noClosing]
      simp [opening, Nat.add_comm 2]
  | empty rest blank =>
      have upTo : UpTo '}' _ := upTo_of_not_mem (not_mem_of_allBlank blank (by decide))
      have upTo' : UpTo '{' _ := upTo_of_not_mem (not_mem_of_allBlank blank (by decide))
      rw [opened_closed upTo upTo'.not_doubled]
      simp [trim_eq_nil_iff.2 blank]
  | unterminated noOpening noClosing =>
      rw [opened_unclosed noOpening noClosing]
      simp

theorem pull_placeholder {body : Text} (isBody : IsBody body) (rest : Text) (c : Cursor) :
    (inside c (body ++ (closing ++ rest))).pull =
      .token (.placeholder (trim body) c.offset)
        (.outside (c.past (opening ++ body ++ closing)) rest) := by
  rw [pull, pullPlaceholder, opened_closed isBody.upTo isBody.noOpening]
  exact if_neg isBody.solid

theorem drain_plain {s : Text} (plain : ¬ Doubled '{' s) (c : Cursor) :
    (outside c s).drain = ⟨literalToken s c, none⟩ := by
  have atEnd (c : Cursor) : (outside c []).drain = ⟨[], none⟩ := by
    rw [drain_eq, pull_plain not_doubled_nil, if_pos rfl]
  by_cases empty : s = []
  · rw [empty, atEnd, literalToken, if_pos rfl]
  · rw [drain_eq, pull_plain plain, if_neg empty, literalToken, if_neg empty]
    simp only [atEnd]
    rfl

/-- A literal is one token, or none if it is empty; then comes what its opening brings. -/
theorem drain_literal {before : Text} (upTo : UpTo '{' before) (inner : Text) (c : Cursor) :
    (outside c (before ++ (opening ++ inner))).drain =
      (inside (c.past before) inner).drain.prepend (literalToken before c) := by
  rw [drain_eq, pull_literal upTo, literalToken]
  by_cases empty : before = []
  · rw [if_pos empty, if_pos empty, empty, Cursor.past_nil, drain_eq (inside c inner)]
    rfl
  · rw [if_neg empty, if_neg empty]

/-- **A reader hands out the tokens of its text**, and stops where the reading of the whole text
stops. -/
theorem drain_outside (s : Text) (c : Cursor) : (outside c s).drain = lexFrom c s := by
  induction s using scan_induction generalizing c with
  | plain s plain => rw [drain_plain plain, lexFrom_plain plain]
  | spoiled before inner fault n upTo spoiled =>
      rw [drain_literal upTo, lexFrom_literal upTo, lexFrom_spoiled spoiled, drain_eq,
        pull_spoiled spoiled]
  | placeholder before body rest upTo isBody ih =>
      rw [drain_literal upTo, lexFrom_literal upTo, lexFrom_placeholder isBody, drain_eq,
        pull_placeholder isBody]
      simp only [ih]

theorem drain_start (source : Text) : (start source).drain = lex source :=
  drain_outside source .start

/-! ## The nodes of a reader -/

theorem nodes_eq (source : Text) (r : Reader) :
    r.nodes source =
      match r.pull with
      | .done => .ok []
      | .stop s => .error (.syntaxError (s.toError source))
      | .token t next =>
        match t.toNode with
        | .error e => .error (.path e)
        | .ok node => (next.nodes source).map (node :: ·) := by
  rw [nodes]
  split
  · next answer => simp only [answer]
  · next answer => simp only [answer]
  · next t next answer =>
    cases made : t.toNode with
    | error e => simp only [answer, made]
    | ok node => simp only [answer, made]

end Reader

/-- A token in front of a reading gives one more node, unless it is at fault itself. -/
theorem Template.ofLexing_prepend (t : Token) (l : Lexing) (source : Text) :
    ofLexing (l.prepend [t]) source =
      match t.toNode with
      | .error e => .error (.path e)
      | .ok node => (ofLexing l source).map fun u => ⟨node :: u.nodes, u.source⟩ := by
  rw [ofLexing, Lexing.prepend_tokens, List.singleton_append, nodesOf, ofLexing]
  cases t.toNode with
  | error e => rfl
  | ok node =>
      cases nodesOf l.tokens with
      | error e => rfl
      | ok nodes => cases stopped : l.stop <;> simp [Except.map, stopped]

/-- **Nodes made on the way are those of all tokens**, and the fault is that of the first bad path
or else the one that the reader stops at. -/
theorem Reader.template_eq (source : Text) (r : Reader) :
    ((r.nodes source).map fun nodes => (⟨nodes, source⟩ : Template)) =
      Template.ofLexing r.drain source := by
  induction r using Reader.drain.induct with
  | case1 r pulled =>
      rw [nodes_eq, drain_eq, pulled]
      rfl
  | case2 r s pulled =>
      rw [nodes_eq, drain_eq, pulled]
      rfl
  | case3 r t next pulled shorter ih =>
      rw [nodes_eq, drain_eq, pulled]
      dsimp only
      rw [Template.ofLexing_prepend, ← ih]
      cases t.toNode with
      | error e => rfl
      | ok node => cases next.nodes source <;> rfl

namespace Template

theorem compileLazily_eq (source : Text) :
    compileLazily source = ofLexing (Reader.start source).drain source := by
  rw [compileLazily, Reader.template_eq]

/-- In a text without a syntax error it makes no difference how far the reader is ahead. -/
theorem compileLazily_eq_compile {source : Text} {tokens : List Token}
    (read : tokenize source = .ok tokens) : compileLazily source = compile source := by
  have whole : (Reader.start source).drain = ⟨tokens, none⟩ := by
    rw [Reader.drain_start, tokenize_eq_ok_iff.1 read]
  simp only [compileLazily_eq, whole, ofLexing, compile, read, ofTokens]
  cases nodesOf tokens <;> rfl

/-- Without a syntax error the first bad path is the fault of a text. -/
theorem compile_eq_error_iff {source : Text} {tokens : List Token}
    (read : tokenize source = .ok tokens) {e : TemplateError} :
    compile source = .error e ↔ ∃ path, FirstBadPath tokens path ∧ e = .path ⟨path⟩ := by
  simp only [compile, read, ofTokens, except_mapError_eq_error_iff, except_map_eq_error_iff,
    nodesOf_eq_error_iff]
  constructor
  · rintro ⟨_, ⟨path, first, rfl⟩, rfl⟩
    exact ⟨path, first, rfl⟩
  · rintro ⟨path, first, rfl⟩
    exact ⟨_, ⟨path, first, rfl⟩, rfl⟩

/-- Behind tokens that end in a syntax error a bad path among them comes first. -/
theorem compileLazily_of_stop {source : Text} {stop : Stop}
    (stopped : (lex source).stop = some stop) :
    compileLazily source =
      match nodesOf (Reader.start source).drain.tokens with
      | .error e => .error (.path e)
      | .ok _ => .error (.syntaxError (stop.toError source)) := by
  rw [compileLazily_eq, ofLexing, Reader.drain_start]
  cases nodesOf (lex source).tokens with
  | error e => rfl
  | ok nodes => simp only [stopped]

end Template

/-- **Eager and lazy compilation agree.**  A template that one of them makes the other makes too;
it has one node for each token, in order, with the path that its expression stands for.  A text with
a syntax error gives that error when it is read ahead; read on demand it gives the first bad path
among the tokens in front of the error, if there is one.  In a text without a syntax error both find
the first bad path. -/
theorem eager_and_lazy_compilation_agree (source : Text) :
    (∀ t, Template.compile source = .ok t ↔ Template.compileLazily source = .ok t) ∧
    (∀ t, Template.compile source = .ok t →
      ∃ tokens, tokenize source = .ok tokens ∧ t.source = source ∧
        List.Forall₂ (fun token node => token.toNode = .ok node) tokens t.nodes ∧
        ∀ path expr, .field path expr ∈ t.nodes → FieldPath.parse expr = .ok path) ∧
    (∀ e, tokenize source = .error e →
      Template.compile source = .error (.syntaxError e) ∧
      (∀ path, FirstBadPath (Reader.start source).drain.tokens path →
        Template.compileLazily source = .error (.path ⟨path⟩)) ∧
      ((∀ path, ¬ FirstBadPath (Reader.start source).drain.tokens path) →
        Template.compileLazily source = .error (.syntaxError e))) ∧
    (∀ tokens, tokenize source = .ok tokens → ∀ e,
      (Template.compile source = .error e ↔ ∃ path, FirstBadPath tokens path ∧ e = .path ⟨path⟩) ∧
      (Template.compileLazily source = .error e ↔
        ∃ path, FirstBadPath tokens path ∧ e = .path ⟨path⟩)) := by
  refine ⟨fun t => ?_, fun t compiled => ?_, fun e raised => ?_, fun tokens read e => ?_⟩
  · cases read : tokenize source with
    | ok tokens => rw [Template.compileLazily_eq_compile read]
    | error e =>
        obtain ⟨stop, stopped, -⟩ := tokenize_eq_error_iff.1 read
        rw [Template.compile, read, Template.compileLazily_of_stop stopped]
        cases nodesOf (Reader.start source).drain.tokens <;> simp
  · obtain ⟨tokens, nodes, read, made, rfl⟩ := Template.compile_eq_ok_iff.1 compiled
    exact ⟨tokens, read, rfl, nodesOf_eq_ok_iff.1 made,
      fun path expr member => Template.parse_of_mem_nodes compiled member⟩
  · obtain ⟨stop, stopped, rfl⟩ := tokenize_eq_error_iff.1 raised
    rw [Template.compile, raised, Template.compileLazily_of_stop stopped]
    refine ⟨rfl, fun path first => ?_, fun none_ => ?_⟩
    · rw [nodesOf_eq_error_iff.2 ⟨path, first, rfl⟩]
    · cases made : nodesOf (Reader.start source).drain.tokens with
      | ok nodes => rfl
      | error bad =>
          obtain ⟨path, first, -⟩ := nodesOf_eq_error_iff.1 made
          exact absurd first (none_ path)
  · rw [Template.compileLazily_eq_compile read]
    exact ⟨Template.compile_eq_error_iff read, Template.compile_eq_error_iff read⟩

example : Template.compile "\x7b\x7b 1 \x7d\x7d\x7b\x7b".toList =
      .error (.syntaxError ⟨.unterminated, 7, 7, some ⟨1, 8⟩⟩) ∧
    Template.compileLazily "\x7b\x7b 1 \x7d\x7d\x7b\x7b".toList = .error (.path ⟨['1']⟩) := by
  constructor <;> decide +kernel

end FieldTemplate
