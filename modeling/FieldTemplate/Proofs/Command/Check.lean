import FieldTemplate.Proofs.Command.Stages
import FieldTemplate.Proofs.Command.Stream
import FieldTemplate.Proofs.Console.Table
import FieldTemplate.Proofs.Render.Encodable
import FieldTemplate.Proofs.Render.Failure
import FieldTemplate.Proofs.Template.Path

/-!
# What a check says of the other commands

A check reads and compiles its template as a rendering does, so it fails as every rendering of the
template does.  If it passes, it has listed all that a rendering looks up, and only missing fields
and values without a text can still make one fail.  A template that passes can still be one whose
tokens no table shows, for a table takes file names and literals for markup.

The main statement is `check_foretells_other_commands`.
-/

namespace FieldTemplate

set_option autoImplicit false

/-! ## Templates that are supplied -/

/-- Nothing, a text, a truth value, a number as data files hold it and of a length that can be
shown, or a date. -/
inductive Value.Plain : Value → Prop
  | null : Plain (.atom .null)
  | text (s : WideText) : Plain (.atom (.text s))
  | bool (b : Bool) : Plain (.atom (.bool b))
  | int (n : Int) (short : |n| < 10 ^ Text.digitLimit) : Plain (.atom (.int n))
  | double (x : Binary64) : Plain (.atom (.double x))
  | notANumber : Plain (.atom .notANumber)
  | date (d : Date) : Plain (.atom (.date d))
  | timestamp (t : Timestamp) : Plain (.atom (.timestamp t))
  | time (t : TimeOfDay) : Plain (.atom (.time t))

theorem Value.Plain.not_fault {v : Value} (plain : v.Plain) {expr : Text} {e : RenderError} :
    ¬ v.Fault expr e := by
  intro fault
  cases fault with
  | integer long =>
      cases plain with
      | int _ short => exact absurd short long.not_gt
  | _ => cases plain

namespace Template

/-- Every field leads to a plain value. -/
def Supplied (t : Template) (data : Value) : Prop :=
  ∀ expr ∈ t.fields, ∃ path v, FieldPath.parse expr = .ok path ∧ data.lookup path = some v ∧ v.Plain

variable {source : Text} {t : Template}

/-- **A template that is supplied is rendered**, whatever the mode. -/
theorem Supplied.exists_render {data : Value} (supplied : t.Supplied data)
    (compiled : compile source = .ok t) (mode : RenderMode) :
    ∃ text, (t.render mode data).result = .ok text := by
  cases rendered : (t.render mode data).result with
  | ok text => exact ⟨text, rfl⟩
  | error e =>
      -- some node would be faulty, which no text is and no field with a plain value
      obtain ⟨node, member, e, fault⟩ :=
        exists_firstFault_iff.1 ⟨e, renderNodes_eq_error_iff.1 rendered⟩
      cases node with
      | text s => cases fault
      | field path expr =>
          obtain ⟨path', v, parsed, found, plain⟩ :=
            supplied expr (mem_fields_iff.2 ⟨path, member⟩)
          cases parsed.symm.trans (parse_of_mem_nodes compiled member)
          cases fault with
          | missing _ absent => exact absurd (Value.lookup_eq_some_iff.1 found) (absent v)
          | value there fault =>
              obtain rfl := (Value.lookup_eq_some_iff.1 found).unique there
              exact absurd fault plain.not_fault

/-- No text that a field leads to has surrogates. -/
def EncodableIn (t : Template) (data : Value) : Prop :=
  ∀ expr ∈ t.fields, ∀ path s, FieldPath.parse expr = .ok path →
    data.lookup path = some (.text s) → s.Encodable

theorem EncodableIn.of_render {data : Value} (encodable : t.EncodableIn data)
    (compiled : compile source = .ok t) {mode : RenderMode} (keeps : mode.formatter.KeepsEncodable)
    {s : WideText} (rendered : (t.render mode data).result = .ok s) : s.Encodable :=
  encodable_of_renderNodes keeps
    (fun path expr member s found => encodable expr (mem_fields_iff.2 ⟨path, member⟩) path s
      (parse_of_mem_nodes compiled member) found) rendered

/-- The fields of a template are paths. -/
theorem exists_parse_of_mem_fields (compiled : compile source = .ok t) {expr : Text}
    (listed : expr ∈ t.fields) : ∃ path, FieldPath.parse expr = .ok path := by
  obtain ⟨path, member⟩ := mem_fields_iff.1 listed
  exact ⟨path, parse_of_mem_nodes compiled member⟩

end Template

namespace Command

variable {env : Environment} {template name : Text} {t : Template} {f : Failure}

/-! ## A check that fails -/

/-- **What a check fails with, every rendering of the template fails with** if its configuration can
be loaded. -/
theorem renderText_of_check [Host] {r : RenderRequest} {config : Config}
    (loaded : Config.load env.tree env.cwd r.config = .ok config)
    (failed : env.compileSource r.template = .error f) :
    env.render r = env.check r.template r.verbose := by
  rw [Environment.render, Environment.renderText_of_compileSource loaded failed,
    Environment.check, failed]

/-! ## The list of a check -/

/-- What a check writes behind the name of the template. -/
def checkedLines (fields : List Text) : Text :=
  ':' :: (" OK (".toList ++ Text.ofNat fields.length ++ " fields)\n".toList ++
    fields.flatMap fun expr => ' ' :: ' ' :: expr ++ ['\n'])

/-- **A check lists the fields as they are.** -/
theorem check_of_compileSource (compiled : env.compileSource template = .ok (name, t))
    (verbose : Bool) :
    env.check template verbose =
      env.finish verbose 0 (onStream name ++ checkedLines t.fields) [] := by
  obtain ⟨source, -, compiled'⟩ := Environment.compileSource_eq_ok_iff.1 compiled
  have number := Text.not_mem_ofNat (c := '\x1B') rfl t.fields.length
  have field : ∀ expr ∈ t.fields, '\x1B' ∉ expr := by
    intro expr listed
    obtain ⟨path, parsed⟩ := Template.exists_parse_of_mem_fields compiled' listed
    exact FieldPath.not_mem_of_parse parsed (by decide) (by decide)
  have plain : '\x1B' ∉ " OK (".toList ++ Text.ofNat t.fields.length ++ " fields)\n".toList ++
      t.fields.flatMap fun expr => ' ' :: ' ' :: expr ++ ['\n'] := by
    simpa [number] using field
  have colon : ": OK (".toList = ':' :: " OK (".toList := rfl
  rw [Environment.check, compiled, checkedLines, ← onStream_append_colon plain]
  simp only [colon, List.append_assoc, List.cons_append]

/-! ## The tokens of a template that passes -/

section

variable {p : Text → Prop} (plain : ∀ s, '[' ∉ s → p s)

include plain

theorem forall_tokenRow_iff {token : Token} {node : Node} (made : token.toNode = .ok node) :
    (∀ cell ∈ Environment.tokenRow token, p cell) ↔ ∀ s, node = .text s → p (Text.quoted s) := by
  have number (n : Nat) : p (Text.ofNat n) := plain _ (Text.not_mem_ofNat rfl n)
  cases token with
  | literal s offset =>
      cases made
      have kind : p "literal".toList := plain _ (by decide)
      simp only [Environment.tokenRow, List.forall_mem_cons, number, kind, List.not_mem_nil,
        false_imp_iff, implies_true, true_and, and_true, Node.text.injEq, forall_eq']
  | placeholder path offset =>
      obtain ⟨segments, parsed, rfl⟩ := except_map_eq_ok_iff.1 made
      have kind : p "placeholder".toList := plain _ (by decide)
      have shown : p path :=
        plain _ (FieldPath.not_mem_of_parse parsed (by decide) (by decide))
      simp only [Environment.tokenRow, List.forall_mem_cons, number, kind, shown, List.not_mem_nil,
        false_imp_iff, implies_true, true_and, reduceCtorEq]

/-- Of what holds of all texts without brackets, only the literals have to be asked. -/
theorem forall_tokenRows_iff {tokens : List Token} {nodes : List Node}
    (made : nodesOf tokens = .ok nodes) :
    (∀ row ∈ tokens.map Environment.tokenRow, ∀ cell ∈ row, p cell) ↔
      ∀ s, .text s ∈ nodes → p (Text.quoted s) := by
  have pairs := nodesOf_eq_ok_iff.1 made
  clear made
  induction pairs with
  | nil => simp
  | cons first _ ih =>
      simp only [List.map_cons, List.forall_mem_cons, forall_tokenRow_iff plain first, ih]
      simp only [List.mem_cons, or_imp, forall_and, eq_comm]

end

/-- A template that passes has tokens, and its table is the one that is asked for. -/
theorem exists_tokens_eq [Host] (compiled : env.compileSource template = .ok (name, t)) :
    ∃ tokens, nodesOf tokens = .ok t.nodes ∧
      let table := Table.ofMarkup name Environment.tokenColumns (tokens.map Environment.tokenRow)
      (∀ e, table = .error e → env.tokens template = env.escape false (.markup e)) ∧
      ∀ shown, table = .ok shown → env.tokens template = env.finish false 0 shown [] := by
  obtain ⟨source, read, compiled⟩ := Environment.compileSource_eq_ok_iff.1 compiled
  obtain ⟨tokens, nodes, tokenized, made, rfl⟩ := Template.compile_eq_ok_iff.1 compiled
  refine ⟨tokens, made, fun e faulty => ?_, fun shown legible => ?_⟩
  · simp only [Environment.tokens, read, tokenized, faulty]
  · simp only [Environment.tokens, read, tokenized, legible]

/-- **The tokens of a template that passes are shown if its name and its literals are legible**,
only if their tags are paired, and nothing but faulty markup can be in the way. -/
theorem tokens_of_compileSource [Host] (compiled : env.compileSource template = .ok (name, t)) :
    (Markup.Legible name → (∀ s, .text s ∈ t.nodes → Markup.Legible (Text.quoted s)) →
      (env.tokens template).exitCode = 0) ∧
    ((env.tokens template).exitCode = 0 →
      Markup.Paired name ∧ ∀ s, .text s ∈ t.nodes → Markup.Paired (Text.quoted s)) ∧
    ((env.tokens template).exitCode ≠ 0 →
      ∃ e, env.tokens template = env.escape false (.markup e)) := by
  obtain ⟨tokens, made, escapes, shows⟩ := exists_tokens_eq compiled
  have legible := forall_tokenRows_iff (fun _ => Markup.legible_of_not_mem) made
  have paired :=
    forall_tokenRows_iff (fun _ absent => (Markup.legible_of_not_mem absent).paired) made
  rw [← legible, ← paired]
  cases table : Table.ofMarkup name Environment.tokenColumns
      (tokens.map Environment.tokenRow) with
  | error e =>
      have ended := escapes e table
      refine ⟨fun title cells => ?_, fun done => ?_, fun _ => ⟨e, ended⟩⟩
      · obtain ⟨shown, done⟩ := Table.exists_ofMarkup_of_legible title cells
        exact nomatch table.symm.trans done
      · rw [ended] at done
        cases done
  | ok shown =>
      have ended := shows shown table
      exact ⟨fun _ _ => ended ▸ rfl, fun _ => Table.paired_of_ofMarkup table,
        fun failed => absurd (ended ▸ rfl) failed⟩

/-! ## A rendering of a template that passes -/

/-- A command line that renders a template, without log lines and with a configuration that can be
loaded. -/
structure Renders [Host] (env : Environment) (template : Text) (args : List Text)
    (r : RenderRequest) (config : Config) : Prop where
  parsed : Request.parse args = .ok (.render r)
  template : r.template = template
  quiet : r.verbose = false
  loaded : Config.load env.tree env.cwd r.config = .ok config

namespace Renders

variable {args : List Text} {r : RenderRequest} {config : Config}

theorem runArgs [Host] (renders : Renders env template args r config) :
    env.runArgs args = env.render r :=
  Environment.runArgs_of_parse renders.parsed

/-- **A template that passes is rendered** once its data can be made, its formatter is known and its
fields have plain values. -/
theorem exists_renderText [Host] (renders : Renders env template args r config)
    (compiled : env.compileSource template = .ok (name, t)) {context : Entries}
    (built : Context.assemble env.tree env.cwd config.defaults r.data r.assignments = .ok context)
    {formatter : Formatter} (chosen : config.formatterFor r.formatter = .ok formatter)
    (supplied : t.Supplied (.dict context)) :
    ∃ s, env.renderText r = .ok s ∧ (t.EncodableIn (.dict context) → s.Encodable) := by
  obtain ⟨source, -, compiled'⟩ := Environment.compileSource_eq_ok_iff.1 compiled
  obtain ⟨s, rendered⟩ := supplied.exists_render compiled'
    ⟨formatter, r.strict.getD config.strict⟩
  have written := Environment.renderText_eq_ok_iff.2 ⟨config, renders.loaded, (name, t),
    renders.template ▸ compiled, context, built, formatter, chosen, rendered⟩
  exact ⟨s, written, fun encodable =>
    encodable.of_render compiled' (keepsEncodable_of_formatterFor chosen) rendered⟩

end Renders

theorem deliver_exitCode_of_formless {r : RenderRequest} {s : WideText}
    (formless : s.text? = none) : (env.deliver r s).exitCode = 1 := by
  rw [Environment.deliver, formless]
  cases r.output with
  | none => rfl
  | some path =>
      rcases saved : env.tree.save env.cwd path [] with ⟨tree, _ | e⟩ <;>
        simp [saved, Environment.finish, Environment.escape]

/-- A rendering with a text ends with 0, unless the text has no UTF-8 form, or is to be saved and
cannot be. -/
theorem render_exitCode_eq_zero_iff [Host] {r : RenderRequest} {s : WideText}
    (rendered : env.renderText r = .ok s) :
    (env.render r).exitCode = 0 ↔ ∃ text : Text, s = text.wide ∧
      ∀ path ∈ r.output, (env.tree.save env.cwd path (Utf8.encode text)).2 = none := by
  rw [Environment.render, rendered]
  change (env.deliver r s).exitCode = 0 ↔ _
  cases form : s.text? with
  | none =>
      have failed : (env.deliver r s).exitCode = 1 := deliver_exitCode_of_formless form
      refine iff_of_false (by simp [failed]) ?_
      rintro ⟨text, rfl, -⟩
      simp at form
  | some text =>
      obtain rfl := WideText.text?_eq_some_iff.1 form
      simp only [Environment.deliver, form, Text.wide_inj, exists_eq_left']
      cases r.output with
      | none => simp [Environment.finish]
      | some path =>
          rcases saved : env.tree.save env.cwd path (Utf8.encode text) with ⟨tree, _ | e⟩ <;>
            simp [saved, Environment.finish, Environment.escape]

/-- **A check foretells the other commands** for its template.  It ends with 0 or 1.

If it ends with 1, every rendering of the template whose configuration can be loaded ends in the
same way, whatever its data, its assignments and its other options are.

If it ends with 0, it has listed the fields of the template, and every rendering without a formatter
for which each of them has a plain value has a text, in strict mode too, and ends with 0 as long as
this text has a UTF-8 form and can be saved; it has one if the fields lead to no text with
surrogates.  The tokens are shown if the name of the template and its literals are legible markup,
so always if there are no brackets in them, and only if their tags are paired. -/
theorem check_foretells_other_commands [Host] {args : List Text}
    (parsed : Request.parse args = .ok (.check template false)) :
    let out := env.runArgs args
    (out.exitCode = 0 ∨ out.exitCode = 1) ∧
    (out.exitCode = 1 → ∀ args' r config, Renders env template args' r config →
      env.runArgs args' = out) ∧
    (out.exitCode = 0 → ∃ name t, env.compileSource template = .ok (name, t) ∧
      out.stdout = onStream name ++ checkedLines t.fields ∧
      (∀ args' r config context, Renders env template args' r config →
        Context.assemble env.tree env.cwd config.defaults r.data r.assignments = .ok context →
        config.formatterFor r.formatter = .ok id → t.Supplied (.dict context) →
        ∃ s, env.renderText r = .ok s ∧ (t.EncodableIn (.dict context) → s.Encodable) ∧
          ((env.runArgs args').exitCode = 0 ↔ ∃ text : Text, s = text.wide ∧
            ∀ path ∈ r.output, (env.tree.save env.cwd path (Utf8.encode text)).2 = none)) ∧
      ∀ args', Request.parse args' = .ok (.tokens template) →
        let shown := env.runArgs args'
        (Markup.Legible name → (∀ s, .text s ∈ t.nodes → Markup.Legible (Text.quoted s)) →
          shown.exitCode = 0) ∧
        (shown.exitCode = 0 →
          Markup.Paired name ∧ ∀ s, .text s ∈ t.nodes → Markup.Paired (Text.quoted s)) ∧
        ('[' ∉ name → (∀ s, .text s ∈ t.nodes → '[' ∉ s) → shown.exitCode = 0) ∧
        (shown.exitCode ≠ 0 → shown.exitCode = 1 ∧ ∃ e, shown.escaped = some (.markup e))) := by
  have ran : env.runArgs args = env.check template false := Environment.runArgs_of_parse parsed
  dsimp only
  rw [ran]
  cases compiled : env.compileSource template with
  | error f =>
      have failed : (env.check template false).exitCode = 1 := by
        rw [Environment.check, compiled]
        rfl
      refine ⟨.inr failed, fun _ args' r config renders => ?_, fun passed => ?_⟩
      · rw [renders.runArgs,
          renderText_of_check renders.loaded (renders.template ▸ compiled), renders.template,
          renders.quiet]
      · rw [failed] at passed
        cases passed
  | ok named =>
      obtain ⟨name, t⟩ := named
      have listed := check_of_compileSource compiled false
      refine ⟨.inl (by rw [listed]; rfl), fun failed => ?_, fun _ =>
        ⟨name, t, rfl, by rw [listed]; rfl, ?_, ?_⟩⟩
      · rw [listed] at failed
        cases failed
      · intro args' r config context renders built chosen supplied
        obtain ⟨s, rendered, encodable⟩ :=
          renders.exists_renderText compiled built chosen supplied
        exact ⟨s, rendered, encodable, renders.runArgs ▸ render_exitCode_eq_zero_iff rendered⟩
      · intro args' parsed'
        have ran' : env.runArgs args' = env.tokens template :=
          Environment.runArgs_of_parse parsed'
        obtain ⟨shows, pairs, fails⟩ := tokens_of_compileSource compiled
        rw [ran']
        refine ⟨shows, pairs, fun title literals => shows (Markup.legible_of_not_mem title) ?_, ?_⟩
        · exact fun s member => Markup.legible_of_not_mem (Text.not_mem_quoted (literals s member))
        · intro failed
          obtain ⟨e, escaped⟩ := fails failed
          rw [escaped]
          exact ⟨rfl, e, rfl⟩

open scoped Host

/-- A file of one template. -/
def templateEnvironment (source : Text) : Environment :=
  ⟨⟨[(["t".toList], Utf8.encode source)], [], false⟩, [], [], false⟩

theorem check_foretells_strict_rendering :
    let env := templateEnvironment "\x7b\x7ba\x7d\x7d".toList
    (env.runArgs (["check", "t"].map String.toList)).stdout = "t: OK (1 fields)\n  a\n".toList ∧
      (env.runArgs (["render", "t", "-s", "a=", "--strict"].map String.toList)).exitCode = 0 ∧
      (env.runArgs (["tokens", "t"].map String.toList)).exitCode = 0 := by
  dsimp only
  have source : (templateEnvironment "\x7b\x7ba\x7d\x7d".toList).compileSource "t".toList =
      .ok ("t".toList, ⟨[.field ["a".toList] "a".toList], "\x7b\x7ba\x7d\x7d".toList⟩) := by
    decide +kernel
  have parsed : Request.parse (["check", "t"].map String.toList) = .ok (.check "t".toList false) :=
    rfl
  have code : ((templateEnvironment "\x7b\x7ba\x7d\x7d".toList).runArgs
      (["check", "t"].map String.toList)).exitCode = 0 := by decide +kernel
  obtain ⟨-, -, passes⟩ := @check_foretells_other_commands
    (templateEnvironment "\x7b\x7ba\x7d\x7d".toList) _ _ _ parsed
  obtain ⟨name, t, compiled, stdout, renderings, tokens⟩ := passes code
  cases source.symm.trans compiled
  have supplied : (⟨[.field ["a".toList] "a".toList], "\x7b\x7ba\x7d\x7d".toList⟩ :
      Template).Supplied (.dict [(.text "a".toList, .text [])]) := by
    intro expr listed
    obtain rfl := List.mem_singleton.1 listed
    exact ⟨["a".toList], .text [], rfl, rfl, .text []⟩
  have encodable : (⟨[.field ["a".toList] "a".toList], "\x7b\x7ba\x7d\x7d".toList⟩ :
      Template).EncodableIn (.dict [(.text "a".toList, .text [])]) := by
    intro expr listed path s parsed found
    obtain rfl := List.mem_singleton.1 listed
    cases parsed
    cases found
    exact .nil
  refine ⟨stdout.trans (by decide +kernel), ?_, (tokens _ rfl).2.2.1 (by decide) (by simp)⟩
  obtain ⟨s, -, formed, ended⟩ := renderings
    (["render", "t", "-s", "a=", "--strict"].map String.toList)
    ⟨"t".toList, [], ["a=".toList], none, some true, none, none, false⟩ .usual _
    ⟨rfl, rfl, rfl, rfl⟩ rfl rfl supplied
  obtain ⟨text, rfl⟩ := formed encodable
  exact ended.2 ⟨text, rfl, by simp⟩

/-- A literal that is a closing tag passes a check and is in the way of the tokens. -/
theorem check_accepts_what_tokens_cannot_show :
    let env := templateEnvironment "[/b]".toList
    (env.runArgs (["check", "t"].map String.toList)).exitCode = 0 ∧
      (env.runArgs (["tokens", "t"].map String.toList)).exitCode = 1 ∧
      (env.runArgs (["tokens", "t"].map String.toList)).escaped =
        some (.markup .unmatched) := by
  decide +kernel

end Command

end FieldTemplate
