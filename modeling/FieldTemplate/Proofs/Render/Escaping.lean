import FieldTemplate.Format.Html
import FieldTemplate.Proofs.Render.Failure
import FieldTemplate.Proofs.Render.Substitution

/-!
# Fields in HTML

With the HTML formatter a field contributes no markup, whatever its value is: the characters that
could start or end some are gone, and an ampersand stands in an entity only (`Html.Inert`).  Nothing
of the value is lost, for reading the entities back once gives its text again (`Html.restore`).

A formatter changes what fields contribute and nothing else: the literal text, and the node that a
rendering fails of, are the same for all of them.  The main statement is
`html_fields_are_inert_and_restorable`.
-/

namespace FieldTemplate

set_option autoImplicit false

namespace Html

/-- The entities, and the character that each stands for. -/
def entities : List (Text × Char) :=
  [("&amp;".toList, '&'), ("&lt;".toList, '<'), ("&gt;".toList, '>'), ("&quot;".toList, '"'),
    ("&#x27;".toList, '\'')]

/-- Without the characters that delimit tags and attribute values, and with ampersands only where an
entity starts. -/
structure Inert (s : WideText) : Prop where
  delimiters : ∀ c ∈ ['<', '>', '"', '\''], .char c ∉ s
  ampersands : ∀ before after, s = before ++ .char '&' :: after →
    ∃ entity ∈ entities, entity.1.wide <+: .char '&' :: after

/-- The entities read back from left to right; what an entity stands for is not read again. -/
def restore : WideText → WideText
  | .char '&' :: .char 'a' :: .char 'm' :: .char 'p' :: .char ';' :: rest =>
    .char '&' :: restore rest
  | .char '&' :: .char 'l' :: .char 't' :: .char ';' :: rest => .char '<' :: restore rest
  | .char '&' :: .char 'g' :: .char 't' :: .char ';' :: rest => .char '>' :: restore rest
  | .char '&' :: .char 'q' :: .char 'u' :: .char 'o' :: .char 't' :: .char ';' :: rest =>
    .char '"' :: restore rest
  | .char '&' :: .char '#' :: .char 'x' :: .char '2' :: .char '7' :: .char ';' :: rest =>
    .char '\'' :: restore rest
  | p :: rest => p :: restore rest
  | [] => []

/-- An escaped character is an entity for it, or it is none of the five and stands as it is. -/
theorem escapeChar_cases (c : Char) :
    (escapeChar c, c) ∈ entities ∨
      (escapeChar c = [c] ∧ c ≠ '&' ∧ c ∉ ['<', '>', '"', '\'']) := by
  unfold escapeChar
  split
  case h_6 => simp_all
  all_goals exact .inl (by simp [entities])

theorem escapePoint_cases (p : CodePoint) :
    (∃ entity ∈ entities, escapePoint p = entity.1.wide ∧ p = .char entity.2) ∨
      (escapePoint p = [p] ∧ p ≠ .char '&' ∧ ∀ c ∈ ['<', '>', '"', '\''], p ≠ .char c) := by
  cases p with
  | surrogate => exact .inr ⟨rfl, nofun, nofun⟩
  | char c =>
      rcases escapeChar_cases c with entity | ⟨plain, other, delimiters⟩
      · exact .inl ⟨_, entity, rfl, rfl⟩
      · refine .inr ⟨congrArg Text.wide plain, fun same => other (CodePoint.char.inj same), ?_⟩
        rintro d delimiter ⟨⟩
        exact delimiters delimiter

theorem restore_entity_append {entity : Text × Char} (known : entity ∈ entities)
    (rest : WideText) : restore (entity.1.wide ++ rest) = .char entity.2 :: restore rest := by
  simp only [entities, List.mem_cons, List.not_mem_nil, or_false] at known
  rcases known with rfl | rfl | rfl | rfl | rfl <;> rfl

theorem restore_cons {p : CodePoint} (other : p ≠ .char '&') (rest : WideText) :
    restore (p :: rest) = p :: restore rest := by
  rw [restore.eq_def]
  split <;> simp_all

/-- **Nothing is lost**: reading the entities back undoes the escaping. -/
theorem restore_escape (s : WideText) : restore (escape s) = s := by
  induction s with
  | nil => rfl
  | cons p rest ih =>
      rw [escape, List.flatMap_cons]
      rcases escapePoint_cases p with ⟨entity, known, written, rfl⟩ | ⟨plain, other, -⟩
      · rw [written, restore_entity_append known]
        exact congrArg (_ :: ·) ih
      · rw [plain, List.singleton_append, restore_cons other]
        exact congrArg (p :: ·) ih

theorem delimiter_not_mem_entity {entity : Text × Char} (known : entity ∈ entities) :
    ∀ c ∈ ['<', '>', '"', '\''], .char c ∉ entity.1.wide := by
  simp only [entities, List.mem_cons, List.not_mem_nil, or_false] at known
  rcases known with rfl | rfl | rfl | rfl | rfl <;> simp

/-- In an entity the ampersand comes first and not again. -/
theorem suffix_entity_append {entity : Text × Char} (known : entity ∈ entities) 
    {rest after : WideText} (suffix : .char '&' :: after <:+ entity.1.wide ++ rest) :
    .char '&' :: after = entity.1.wide ++ rest ∨ .char '&' :: after <:+ rest := by
  simp only [entities, List.mem_cons, List.not_mem_nil, or_false] at known
  rcases known with rfl | rfl | rfl | rfl | rfl <;> simpa [List.suffix_cons_iff] using suffix

theorem inert_nil : Inert [] := ⟨by simp, by simp⟩

/-- What is put in front of a text and escaped keeps it inert. -/
theorem Inert.escapePoint_append (p : CodePoint) {rest : WideText} (inert : Inert rest) :
    Inert (escapePoint p ++ rest) := by
  constructor
  · intro d delimiter
    rw [List.mem_append, not_or]
    refine ⟨?_, inert.delimiters d delimiter⟩
    rcases escapePoint_cases p with ⟨entity, known, written, -⟩ | ⟨plain, -, other⟩
    · rw [written]
      exact delimiter_not_mem_entity known d delimiter
    · rw [plain, List.mem_singleton]
      exact (other d delimiter).symm
  · intro before after split
    have later : .char '&' :: after <:+ rest →
        ∃ entity ∈ entities, entity.1.wide <+: .char '&' :: after := by
      rintro ⟨between, rfl⟩
      exact inert.ampersands between after rfl
    have suffix : .char '&' :: after <:+ escapePoint p ++ rest := ⟨before, split.symm⟩
    rcases escapePoint_cases p with ⟨entity, known, written, -⟩ | ⟨plain, other, -⟩
    · rw [written] at suffix
      rcases suffix_entity_append known suffix with here | there
      · exact ⟨_, known, rest, here.symm⟩
      · exact later there
    · rw [plain, List.singleton_append, List.suffix_cons_iff] at suffix
      rcases suffix with here | there
      · exact absurd (List.cons.inj here).1 (Ne.symm other)
      · exact later there

/-- **No markup is left** in an escaped text. -/
theorem inert_escape (s : WideText) : Inert (escape s) := by
  induction s with
  | nil => exact inert_nil
  | cons p rest ih =>
      rw [escape, List.flatMap_cons]
      exact ih.escapePoint_append p

end Html

/-! ## Two formatters side by side -/

/-- A formatter does not decide whether a rendering fails, nor of what. -/
theorem renderNodes_error_congr (f g : Formatter) (strict : Bool) (data : Value)
    (nodes : List Node) (e : RenderError) :
    (renderNodes ⟨f, strict⟩ data nodes).result = .error e ↔
      (renderNodes ⟨g, strict⟩ data nodes).result = .error e := by
  rw [renderNodes_eq_error_iff, renderNodes_eq_error_iff]

/-- Where one formatter gives a text, every other one gives a text. -/
theorem exists_renderNodes_ok (f g : Formatter) {strict : Bool} {data : Value} {nodes : List Node}
    {text : WideText} (rendered : (renderNodes ⟨f, strict⟩ data nodes).result = .ok text) :
    ∃ text', (renderNodes ⟨g, strict⟩ data nodes).result = .ok text' := by
  cases other : (renderNodes ⟨g, strict⟩ data nodes).result with
  | ok text' => exact ⟨text', rfl⟩
  | error e =>
      rw [renderNodes_error_congr g f, rendered] at other
      cases other

/-- What a hole is filled with as it is, it is filled with escaped by the HTML formatter. -/
theorem Fills.escape_eq {data : Value} {body : Text} {plain escaped : WideText}
    (fills : Fills id data body plain) (fills' : Fills Html.escape data body escaped) :
    escaped = Html.escape plain := by
  have expected : Fills Html.escape data body (Html.escape plain) := by
    cases fills with
    | missing parsed missing => exact .missing parsed missing
    | null parsed found null => exact .null parsed found null
    | scalar scalar => exact .scalar scalar
  exact fills'.unique expected

/-- **No field injects markup, and none is corrupted.**  Rendering a template with the HTML
formatter fails exactly where rendering it without a formatter does, and with the same error.  Where
it does not fail both texts have the literals of the template between what the fields contribute,
and what a field contributes is inert and restores to what it contributes without a formatter,
whatever kind of value it leads to. -/
theorem html_fields_are_inert_and_restorable {source : Text} {t : Template}
    (compiled : Template.compile source = .ok t) :
    ∃ holes last, CutsInto source holes last ∧ ∀ data strict,
      (∀ e, (t.render ⟨Html.escape, strict⟩ data).result = .error e ↔
        (t.render ⟨id, strict⟩ data).result = .error e) ∧
      ∀ text, (t.render ⟨id, strict⟩ data).result = .ok text →
        ∃ fillings fillings', text = weave holes fillings last ∧
          (t.render ⟨Html.escape, strict⟩ data).result = .ok (weave holes fillings' last) ∧
          List.Forall₂ (fun hole => Fills id data hole.body) holes fillings ∧
          List.Forall₂ (fun hole => Fills Html.escape data hole.body) holes fillings' ∧
          List.Forall₂ (fun plain escaped => Html.Inert escaped ∧ Html.restore escaped = plain)
            fillings fillings' := by
  obtain ⟨tokens, nodes, read, built, rfl⟩ := Template.compile_eq_ok_iff.1 compiled
  have tokens_eq : (lexFrom .start source).tokens = tokens := by
    rw [← lex, tokenize_eq_ok_iff.1 read]
  obtain ⟨holes, last, cuts, nodesFor⟩ :=
    exists_cut (readable_iff_tokenize.2 ⟨tokens, read⟩) (tokens_eq ▸ built)
  refine ⟨holes, last, cuts, fun data strict => ⟨fun e => renderNodes_error_congr .., ?_⟩⟩
  intro text rendered
  obtain ⟨text', rendered'⟩ := exists_renderNodes_ok id Html.escape rendered
  obtain ⟨fillings, filled, woven⟩ := nodesFor.text rendered
  obtain ⟨fillings', filled', woven'⟩ := nodesFor.text rendered'
  have escaped := forall₂_of_common filled filled' fun hole plain escaped => Fills.escape_eq
  refine ⟨fillings, fillings', woven, woven' ▸ rendered', filled, filled', escaped.imp ?_⟩
  rintro plain _ rfl
  exact ⟨Html.inert_escape plain, Html.restore_escape plain⟩

def boldField : Text := "<b>{{ .a }}</b>".toList

/-- A tag, and what looks like an entity already. -/
def markupData : Value := .dict [(.text "a".toList, .text "<i>&amp;".toList)]

/-- The tag of the template stays, and that of the data does not. -/
theorem html_fields_are_inert_and_restorable_markup :
    ∃ t, Template.compile boldField = .ok t ∧
      (t.render ⟨Html.escape, true⟩ markupData).result =
        .ok "<b>&lt;i&gt;&amp;amp;</b>".toList ∧
      ∃ holes last, CutsInto boldField holes last ∧ ∃ fillings fillings',
        "<b><i>&amp;</b>".toList = weave holes fillings last ∧
          "<b>&lt;i&gt;&amp;amp;</b>".toList = weave holes fillings' last ∧
          List.Forall₂ (fun plain escaped => Html.Inert escaped ∧ Html.restore escaped = plain)
            fillings fillings' := by
  have compiled : Template.compile boldField = .ok
      ⟨[.text "<b>".toList, .field [['a']] ".a".toList, .text "</b>".toList], boldField⟩ := by
    decide +kernel
  obtain ⟨holes, last, cuts, rendered⟩ := html_fields_are_inert_and_restorable compiled
  obtain ⟨fillings, fillings', woven, escaped, -, -, pairs⟩ :=
    (rendered markupData true).2 "<b><i>&amp;</b>".toList (by decide +kernel)
  have shown : (.ok (weave holes fillings' last) : Except RenderError WideText) =
      .ok "<b>&lt;i&gt;&amp;amp;</b>".toList :=
    escaped.symm.trans (by decide +kernel)
  exact ⟨_, compiled, escaped.trans shown, holes, last, cuts, fillings, fillings', woven,
    (Except.ok.inj shown).symm, pairs⟩

end FieldTemplate
