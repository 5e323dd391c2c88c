import FieldTemplate.Proofs.Render.Rendering
import Mathlib.Data.List.Forall2

/-!
# Rendering is substitution

A template text has a description that needs no tokens, nodes or paths: it is cut at its
leftmost opening and the first closing behind that, over and over (`CutsInto`).  Each body
between the delimiters is then filled with a text that depends on that body and the data alone
(`Fills`), and what stands between the bodies stays where it is (`weave`).

The main statement is `compile_substitutes`: compiling and rendering a text does just that.
The proof follows the cut: `exists_cut` finds it along the reading of the text, with the nodes
that the reading makes of it (`NodesFor`), and rendering is an induction over these nodes.
-/

namespace FieldTemplate

set_option autoImplicit false

open Text

/-- The text in front of a placeholder, and what stands between the delimiters. -/
structure Hole where
  before : Text
  body : Text
deriving DecidableEq, Repr

/-- **The cut of a text**: it goes up to the leftmost opening, from there up to the first
closing, and so on; behind the last placeholder there is no opening. -/
inductive CutsInto : Text → List Hole → Text → Prop
  | last {s : Text} (plain : ¬ Doubled '{' s) : CutsInto s [] s
  | hole {before body rest last : Text} {holes : List Hole} (upTo : UpTo '{' before)
      (upTo' : UpTo '}' body) (cuts : CutsInto rest holes last) :
      CutsInto (before ++ (opening ++ (body ++ (closing ++ rest)))) (⟨before, body⟩ :: holes) last

/-- The texts in front of the holes, each with the filling of its hole, and the last text. -/
def weave : List Hole → List WideText → Text → WideText
  | hole :: holes, filling :: fillings, last =>
    hole.before.wide ++ filling ++ weave holes fillings last
  | _, _, last => last.wide

/-- The body is a path to a value of the data whose text as a scalar is `s`. -/
def ScalarAt (data : Value) (body : Text) (s : WideText) : Prop :=
  ∃ path v, FieldPath.parse (trim body) = .ok path ∧ data.lookup path = some v ∧
    v.scalarText = .ok s

/-- What a hole is filled with. -/
inductive Fills (formatter : Formatter) (data : Value) (body : Text) : WideText → Prop
  | missing {path : List Text} (parsed : FieldPath.parse (trim body) = .ok path)
      (missing : data.lookup path = none) : Fills formatter data body []
  | null {path : List Text} {v : Value} (parsed : FieldPath.parse (trim body) = .ok path)
      (found : data.lookup path = some v) (null : v.kind = .null) : Fills formatter data body []
  | scalar {s : WideText} (scalar : ScalarAt data body s) : Fills formatter data body (formatter s)

/-- The value decides the filling: a scalar has one text, and null is not a scalar. -/
theorem Fills.unique {formatter : Formatter} {data : Value} {body : Text}
    {filling filling' : WideText}
    (fills : Fills formatter data body filling) (fills' : Fills formatter data body filling') :
    filling = filling' := by
  have notNull {v : Value} {s : WideText} (text : v.scalarText = .ok s) : v.kind ≠ .null := by
    intro null
    have isScalar := isScalar_of_scalarText text
    rw [null] at isScalar
    cases isScalar
  cases fills with
  | missing parsed missing => cases fills' <;> grind [ScalarAt]
  | null parsed found null => cases fills' <;> grind [ScalarAt]
  | scalar scalar => cases fills' <;> grind [ScalarAt]

/-! ## The cut of a text -/

theorem CutsInto.unique {s last last' : Text} {holes holes' : List Hole}
    (cuts : CutsInto s holes last) (cuts' : CutsInto s holes' last') :
    holes' = holes ∧ last' = last := by
  induction cuts generalizing holes' last' with
  | last plain =>
      cases cuts' with
      | last => exact ⟨rfl, rfl⟩
      | hole upTo upTo' cuts => exact absurd (doubled_pair _ _) plain
  | @hole before body rest last holes upTo upTo' cuts ih =>
      generalize shape : before ++ (opening ++ (body ++ (closing ++ rest))) = s at cuts'
      cases cuts' with
      | last plain => exact absurd (shape ▸ doubled_pair _ _) plain
      | hole upTo₂ upTo₂' cuts₂ =>
          obtain ⟨rfl, inner⟩ := upTo_unique upTo upTo₂ shape
          obtain ⟨rfl, rfl⟩ := upTo_unique upTo' upTo₂' inner
          obtain ⟨rfl, rfl⟩ := ih cuts₂
          exact ⟨rfl, rfl⟩

/-- The nodes of a cut text: one text for each literal that is not empty, one field for each
hole. -/
inductive NodesFor : List Hole → Text → List Node → Prop
  | last (s : Text) : NodesFor [] s (textNodes s)
  | hole {before body last : Text} {holes : List Hole} {path : List Text} {nodes : List Node}
      (parsed : FieldPath.parse (trim body) = .ok path) (behind : NodesFor holes last nodes) :
      NodesFor (⟨before, body⟩ :: holes) last (textNodes before ++ .field path (trim body) :: nodes)

/-- A text with nodes has a cut, and the nodes are those of the cut. -/
theorem exists_cut {s : Text} (readable : Readable s) {c : Cursor} {nodes : List Node}
    (built : nodesOf (lexFrom c s).tokens = .ok nodes) :
    ∃ holes last, CutsInto s holes last ∧ NodesFor holes last nodes := by
  induction s using scan_induction generalizing c nodes with
  | plain s plain =>
      rw [lexFrom_plain plain, ← List.append_nil (literalToken s c),
        nodesOf_literalToken_append] at built
      obtain ⟨_, ⟨⟩, rfl⟩ := except_map_eq_ok_iff.1 built
      exact ⟨[], s, .last plain, by simpa using NodesFor.last s⟩
  | spoiled before inner fault n upTo spoiled =>
      rw [readable_literal_iff upTo] at readable
      exact absurd readable (not_readable_spoiled spoiled)
  | placeholder before body rest upTo isBody ih =>
      rw [readable_literal_iff upTo, readable_placeholder_iff isBody] at readable
      rw [lexFrom_literal upTo, lexFrom_placeholder isBody, Lexing.prepend_tokens,
        nodesOf_literalToken_append, Lexing.prepend_tokens, List.singleton_append] at built
      obtain ⟨own, fields, rfl⟩ := except_map_eq_ok_iff.1 built
      obtain ⟨path, behind, parsed, others, rfl⟩ := nodesOf_placeholder_cons_eq_ok_iff.1 fields
      obtain ⟨holes, last, cuts, nodesFor⟩ := ih readable others
      exact ⟨_, last, .hole upTo isBody.upTo cuts, .hole parsed nodesFor⟩

/-! ## Rendering a cut -/

/-- The text of a field fills its hole. -/
theorem fills_of_renderNode {mode : RenderMode} {data : Value} {path : List Text}
    {body : Text} {filling : WideText} (parsed : FieldPath.parse (trim body) = .ok path)
    (rendered : (renderNode mode data (.field path (trim body))).result = .ok filling) :
    Fills mode.formatter data body filling := by
  unfold renderNode at rendered
  cases found : data.lookup path with
  | none =>
      simp only [found] at rendered
      split at rendered
      · cases rendered
      · cases rendered
        exact .missing parsed found
  | some v =>
      simp only [found] at rendered
      rcases renderValue_eq_ok rendered with ⟨null, rfl⟩ | ⟨s, text, rfl⟩
      · exact .null parsed found null
      · exact .scalar ⟨path, v, parsed, found, text⟩

theorem NodesFor.text {holes : List Hole} {last : Text} {nodes : List Node}
    (nodesFor : NodesFor holes last nodes) {mode : RenderMode} {data : Value} {text : WideText}
    (rendered : (renderNodes mode data nodes).result = .ok text) :
    ∃ fillings, List.Forall₂ (fun hole => Fills mode.formatter data hole.body) holes fillings ∧
      text = weave holes fillings last := by
  induction nodesFor generalizing text with
  | last s =>
      rw [renderNodes_textNodes] at rendered
      cases rendered
      exact ⟨[], .nil, rfl⟩
  | hole parsed behind ih =>
      rw [renderNodes_append, renderNodes_textNodes, renderNodes] at rendered
      obtain ⟨_, _, ⟨⟩, own, rfl⟩ := Rendering.append_result_eq_ok_iff.1 rendered
      obtain ⟨filling, _, field, others, rfl⟩ := Rendering.append_result_eq_ok_iff.1 own
      obtain ⟨fillings, filled, rfl⟩ := ih others
      exact ⟨filling :: fillings, .cons (fills_of_renderNode parsed field) filled,
        by simp [weave]⟩

/-- Formatters that agree on the scalars in the holes render alike. -/
theorem NodesFor.renderNodes_congr {holes : List Hole} {last : Text} {nodes : List Node}
    (nodesFor : NodesFor holes last nodes) {data : Value} {f g : Formatter}
    (agree : ∀ hole ∈ holes, ∀ s, ScalarAt data hole.body s → f s = g s) (strict : Bool) :
    renderNodes ⟨f, strict⟩ data nodes = renderNodes ⟨g, strict⟩ data nodes := by
  induction nodesFor with
  | last s => rw [renderNodes_textNodes, renderNodes_textNodes]
  | @hole before body last holes path nodes parsed behind ih =>
      obtain ⟨here, there⟩ := List.forall_mem_cons.1 agree
      have field : renderNode ⟨f, strict⟩ data (.field path (trim body)) =
          renderNode ⟨g, strict⟩ data (.field path (trim body)) := by
        simp only [renderNode]
        cases found : data.lookup path with
        | none => rfl
        | some v =>
            have same := renderValue_congr (f := f) (g := g) (v := v)
              (fun s text => here s ⟨path, v, parsed, found, text⟩) (trim body)
            simp only [same]
      rw [renderNodes_append, renderNodes_append, renderNodes_textNodes, renderNodes_textNodes,
        renderNodes, renderNodes, field, ih there]

/-- **Compiling and rendering is substitution.**  A text that compiles has one cut, and whatever
text is rendered is its literals with each hole filled from the data, in the only way there is;
the formatter is applied to the scalars in the holes and to nothing else.  A text without an
opening stays as it is. -/
theorem compile_substitutes (source : Text) :
    (∀ t, Template.compile source = .ok t →
      ∃ holes last, CutsInto source holes last ∧
        (∀ holes' last', CutsInto source holes' last' → holes' = holes ∧ last' = last) ∧
        (∀ data mode text, (compile data source mode).result = .ok text →
          ∃ fillings, text = weave holes fillings last ∧ ∀ fillings',
            List.Forall₂ (fun hole => Fills mode.formatter data hole.body) holes fillings' ↔
              fillings' = fillings) ∧
        (∀ data strict f g, (∀ hole ∈ holes, ∀ s, ScalarAt data hole.body s → f s = g s) →
          compile data source ⟨f, strict⟩ = compile data source ⟨g, strict⟩)) ∧
    (¬ Doubled '{' source → ∀ data mode, (compile data source mode).result = .ok source.wide) := by
  constructor
  · intro t compiled
    obtain ⟨tokens, nodes, read, built, rfl⟩ := Template.compile_eq_ok_iff.1 compiled
    have readable : Readable source := readable_iff_tokenize.2 ⟨tokens, read⟩
    have tokens_eq : (lexFrom .start source).tokens = tokens := by
      rw [← lex, tokenize_eq_ok_iff.1 read]
    obtain ⟨holes, last, cuts, nodesFor⟩ := exists_cut readable (tokens_eq ▸ built)
    refine ⟨holes, last, cuts, fun _ _ => cuts.unique, ?_, ?_⟩
    · intro data mode text rendered
      rw [compile_of_template compiled, except_mapError_eq_ok_iff] at rendered
      obtain ⟨fillings, filled, woven⟩ := nodesFor.text rendered
      have single : Relator.RightUnique fun hole : Hole => Fills mode.formatter data hole.body :=
        fun _ _ _ => Fills.unique
      refine ⟨fillings, woven, fun fillings' => ⟨fun filled' => single.forall₂ filled' filled, ?_⟩⟩
      rintro rfl
      exact filled
    · intro data strict f g agree
      rw [compile_of_template compiled, compile_of_template compiled, Template.render,
        Template.render, nodesFor.renderNodes_congr agree]
  · intro plain data mode
    have read : tokenize source = .ok (literalToken source .start) := by
      rw [tokenize_eq_ok_iff, lex, lexFrom_plain plain]
    have built : nodesOf (literalToken source .start) = .ok (textNodes source) := by
      have := nodesOf_literalToken_append source .start []
      simpa [nodesOf, Except.map] using this
    have compiled : Template.compile source = .ok ⟨textNodes source, source⟩ :=
      Template.compile_eq_ok_iff.2 ⟨_, _, read, built, rfl⟩
    rw [compile_of_template compiled, Template.render, renderNodes_textNodes]
    rfl

def greeting : Text := "Hi {{ name }}!".toList

def greetingData : Value := .dict [(.text "name".toList, .text "Ada".toList)]

/-- One hole, and a formatter that changes what it sees. -/
theorem compile_substitutes_greeting :
    (∃ t, Template.compile greeting = .ok t) ∧
      (compile greetingData greeting ⟨List.reverse, true⟩).result = .ok "Hi adA!".toList ∧
      ∃ holes last, CutsInto greeting holes last ∧ ∃ fillings,
        List.Forall₂ (fun hole => Fills List.reverse greetingData hole.body) holes fillings ∧
          "Hi adA!".toList = weave holes fillings last := by
  have compiled : Template.compile greeting = .ok
      ⟨[.text "Hi ".toList, .field ["name".toList] "name".toList, .text ['!']], greeting⟩ := by
    decide +kernel
  have rendered : (compile greetingData greeting ⟨List.reverse, true⟩).result =
      .ok "Hi adA!".toList := by
    decide +kernel
  obtain ⟨holes, last, cuts, -, text, -⟩ := (compile_substitutes greeting).1 _ compiled
  obtain ⟨fillings, woven, filled⟩ := text greetingData ⟨List.reverse, true⟩ _ rendered
  exact ⟨⟨_, compiled⟩, rendered, holes, last, cuts, fillings, (filled fillings).2 rfl, woven⟩

end FieldTemplate
