import FieldTemplate.Command.Run
import FieldTemplate.Host.Usual
import FieldTemplate.Proofs.Command.Stream
import FieldTemplate.Proofs.Context.Assemble

/-!
# Reports of faults in configuration and data

* `Report.isPrefix_text_iff`: a report starts with `Error: ` unless nobody expected the fault;
* `Loading.report_eq_unexpected_iff`: which faults of the configuration or the data nobody expects;
* `loading_faults_are_told_unless_unforeseen`: how a rendering ends that cannot load them;
* `malformed_configuration_is_not_told`: a configuration file that is no YAML is one of the
  unforeseen faults, while a data file that is no YAML is told of.
-/

namespace FieldTemplate.Command

set_option autoImplicit false

/-! ## What a report starts with -/

theorem onStream_error (message : Text) :
    onStream ("Error: ".toList ++ message) = "Error: ".toList ++ onStream message :=
  onStream_append_of_plain (by decide) message

theorem Report.text_told (message : Text) :
    (Report.told message).text = "Error: ".toList ++ (onStream message ++ ['\n']) := by
  change onStream ("Error: ".toList ++ message) ++ ['\n'] = _
  rw [onStream_error, List.append_assoc]

theorem Report.text_toldInPart (message : Text) :
    (Report.toldInPart message).text = "Error: ".toList ++ onStream message :=
  onStream_error message

theorem Report.isPrefix_text_iff (report : Report) :
    "Error: ".toList <+: report.text ↔ report ≠ .unexpected := by
  cases report with
  | told message => exact iff_of_true ⟨_, (text_told message).symm⟩ nofun
  | toldInPart message => exact iff_of_true ⟨_, (text_toldInPart message).symm⟩ nofun
  | unexpected => exact iff_of_false (by decide) fun other => other rfl

/-! ## Faults that are not foreseen -/

/-- Faults of a scalar that are no wrong values to whoever reads it, and of a text that is too deep
for the stack. -/
inductive Untold : Yaml.YamlError → Prop
  | codeOverflow : Untold .codeOverflow
  | weightOverflow : Untold .weightOverflow
  | emptyNumber : Untold .emptyNumber
  | boolean (word : WideText) : Untold (.boolean word)
  | timestamp : Untold .timestamp
  | timestampMapping : Untold .timestampMapping
  | endless : Untold .endless
  | tooDeep : Untold .tooDeep

theorem yamlReport_eq_unexpected_iff (e : Yaml.YamlError) :
    yamlReport e = .unexpected ↔ e = .malformed ∨ Untold e := by
  constructor
  · intro unexpected
    cases e with
    | malformed => exact .inl rfl
    | codeOverflow => exact .inr .codeOverflow
    | weightOverflow => exact .inr .weightOverflow
    | emptyNumber => exact .inr .emptyNumber
    | boolean word => exact .inr (.boolean word)
    | timestamp => exact .inr .timestamp
    | timestampMapping => exact .inr .timestampMapping
    | endless => exact .inr .endless
    | tooDeep => exact .inr .tooDeep
    | codePoint => cases unexpected
    | moment e => cases unexpected
    | integer base digits => cases unexpected
    | integerLength digits => cases unexpected
    | float digits => cases unexpected
  · rintro (rfl | untold)
    · rfl
    · cases untold <;> rfl

/-- A configuration or data that cannot be loaded.  Data are loaded once the configuration is. -/
inductive Loading [Host] (env : Environment) (r : RenderRequest) : Failure → Prop
  | config (e : ConfigError) (failed : Config.load env.tree env.cwd r.config = .error e) :
    Loading env r (.config e)
  | context (config : Config) (loaded : Config.load env.tree env.cwd r.config = .ok config)
    (e : ContextError)
    (failed : Context.assemble env.tree env.cwd config.defaults r.data r.assignments = .error e) :
    Loading env r (.context e)

/-- The faults of configuration and data that are not foreseen: what cannot be read as bytes, a
configuration file that is no YAML, the scalars that are no wrong values, and texts and dictionaries
that are too deep for the stack. -/
inductive Unforeseen : Failure → Prop
  | unreadableConfig (e : FileError) : Unforeseen (.config (.unreadable e))
  | malformedConfig : Unforeseen (.config (.yaml .malformed))
  | scalarInConfig (e : Yaml.YamlError) (untold : Untold e) : Unforeseen (.config (.yaml e))
  | unreadableData (e : FileError) : Unforeseen (.context (.data (.unreadable e)))
  | scalarInData (e : Yaml.YamlError) (untold : Untold e) : Unforeseen (.context (.data (.yaml e)))
  | tooDeepData : Unforeseen (.context (.data .tooDeep))
  | assignedScalar (e : Yaml.YamlError) (untold : Untold e) :
    Unforeseen (.context (.assignment (.value e)))
  | tooDeepContext : Unforeseen (.context .tooDeep)

theorem Unforeseen.report {f : Failure} (unforeseen : Unforeseen f) : f.report = .unexpected := by
  cases unforeseen with
  | unreadableConfig e => rfl
  | malformedConfig => rfl
  | scalarInConfig e untold => exact (yamlReport_eq_unexpected_iff e).2 (.inr untold)
  | unreadableData e => rfl
  | scalarInData e untold => exact (yamlReport_eq_unexpected_iff e).2 (.inr untold)
  | tooDeepData => rfl
  | assignedScalar e untold => exact (yamlReport_eq_unexpected_iff e).2 (.inr untold)
  | tooDeepContext => rfl

theorem unforeseen_of_configReport {e : ConfigError} (unexpected : configReport e = .unexpected) :
    Unforeseen (.config e) := by
  cases e with
  | notFound path => cases unexpected
  | unreadable e => exact .unreadableConfig e
  | encoding e => cases unexpected
  | yaml e =>
      rcases (yamlReport_eq_unexpected_iff e).1 unexpected with rfl | untold
      · exact .malformedConfig
      · exact .scalarInConfig e untold
  | invalid issues => cases unexpected

theorem unforeseen_of_dataReport {e : DataError} (unexpected : dataReport e = .unexpected)
    (wellFormed : e ≠ .yaml .malformed) : Unforeseen (.context (.data e)) := by
  cases e with
  | notFound path => cases unexpected
  | unreadable e => exact .unreadableData e
  | unknownFormat suffix => cases unexpected
  | malformed path => cases unexpected
  | notMapping path => cases unexpected
  | encoding e => cases unexpected
  | yaml e =>
      rcases (yamlReport_eq_unexpected_iff e).1 unexpected with rfl | untold
      · exact absurd rfl wellFormed
      · exact .scalarInData e untold
  | tooDeep => exact .tooDeepData

theorem unforeseen_of_assignmentReport {e : AssignmentError}
    (unexpected : contextReport (.assignment e) = .unexpected)
    (wellFormed : e ≠ .value .malformed) : Unforeseen (.context (.assignment e)) := by
  cases e with
  | shape assignment => cases unexpected
  | key key => cases unexpected
  | value e =>
      rcases (yamlReport_eq_unexpected_iff e).1 unexpected with rfl | untold
      · exact absurd rfl wellFormed
      · exact .assignedScalar e untold

/-- **A fault of the configuration or the data is told of unless it is unforeseen.** -/
theorem Loading.report_eq_unexpected_iff [Host] {env : Environment} {r : RenderRequest}
    {f : Failure} (fault : Loading env r f) : f.report = .unexpected ↔ Unforeseen f := by
  refine ⟨fun unexpected => ?_, Unforeseen.report⟩
  cases fault with
  | config e failed => exact unforeseen_of_configReport unexpected
  | context config loaded e failed =>
      obtain ⟨_, source, _, _, _, _, _, fails⟩ := Context.stack_eq_error_iff.1 failed
      cases source with
      | file path =>
          rcases Context.Source.fails_file_iff.1 fails with ⟨e', unread, rfl⟩ | ⟨_, _, _, rfl⟩
          · refine unforeseen_of_dataReport unexpected fun malformed => ?_
            exact DataFile.load_ne_yaml_malformed env.tree env.cwd path (malformed ▸ unread)
          · exact .tooDeepContext
      | assignment s =>
          rcases Context.Source.fails_assignment_iff.1 fails with ⟨e', unread, rfl⟩ | ⟨_, _, _, rfl⟩
          · refine unforeseen_of_assignmentReport unexpected fun malformed => ?_
            exact Assignment.parse_ne_value_malformed s (malformed ▸ unread)
          · exact .tooDeepContext

/-! ## How the rendering ends -/

theorem Loading.renderText [Host] {env : Environment} {r : RenderRequest} {f : Failure}
    (fault : Loading env r f) {source : Text × Template}
    (compiled : env.compileSource r.template = .ok source) : env.renderText r = .error f := by
  rw [Environment.renderText]
  cases fault with
  | config e failed => rw [failed]; rfl
  | context config loaded e failed =>
      rw [loaded, compiled]
      change (Context.assemble env.tree env.cwd config.defaults r.data r.assignments).mapError
        Failure.context >>= _ = _
      rw [failed]
      rfl

/-- **A rendering that cannot load its configuration or its data exits with 1**, changes nothing
and says why on the error stream, in a line that starts with `Error: ` exactly if the fault is
foreseen.  The configuration, the data files and the assignments may hold anything at all. -/
theorem loading_faults_are_told_unless_unforeseen [Host] (env : Environment) {args : List Text}
    {r : RenderRequest} (parsed : Request.parse args = .ok (.render r))
    (plain : r.verbose = false ∧ env.debug = false) {source : Text × Template}
    (compiled : env.compileSource r.template = .ok source) {f : Failure}
    (fault : Loading env r f) :
    let out := env.runArgs args
    out.exitCode = 1 ∧ out.escaped = none ∧ out.tree = env.tree ∧ out.stdout = [] ∧
      out.unsaid = .nothing ∧ ("Error: ".toList <+: out.stderr ↔ ¬ Unforeseen f) ∧
      (out.stderr = "Unexpected error".toList ↔ Unforeseen f) := by
  have ended : env.runArgs args = env.fail r.verbose f := by
    rw [Environment.runArgs, parsed]
    change env.render r = _
    rw [Environment.render, fault.renderText compiled]
  have unsaid : (env.fail r.verbose f).unsaid = .nothing := by
    change (if r.verbose || env.debug then Unsaid.log else .nothing) = .nothing
    rw [plain.1, plain.2]
    rfl
  have starts : "Error: ".toList <+: f.report.text ↔ ¬ Unforeseen f := by
    rw [Report.isPrefix_text_iff, ne_eq, fault.report_eq_unexpected_iff]
  rw [ended]
  refine ⟨rfl, rfl, rfl, rfl, unsaid, starts, fun same => ?_, fun unforeseen => ?_⟩
  · by_contra foreseen
    have error := starts.2 foreseen
    rw [show f.report.text = "Unexpected error".toList from same] at error
    exact absurd error (by decide)
  · change f.report.text = _
    rw [unforeseen.report]
    rfl

open scoped Host

/-- A template, and a file that is no YAML. -/
def malformedTree (name : String) : FileTree :=
  ⟨[(["t".toList], Utf8.encode "x".toList), ([name.toList], Utf8.encode "a: [\n".toList)], [],
    false⟩

theorem malformed_data_file_is_told :
    let out := (⟨malformedTree "d.yaml", [], [], false⟩ : Environment).runArgs
      (["render", "t", "-d", "d.yaml"].map String.toList)
    out.exitCode = 1 ∧ out.escaped = none ∧ "Error: ".toList <+: out.stderr := by
  have parsed : Request.parse (["render", "t", "-d", "d.yaml"].map String.toList) =
      .ok (.render
        ⟨"t".toList, [Path.ofText "d.yaml".toList], [], none, none, none, none, false⟩) := rfl
  have compiled : (⟨malformedTree "d.yaml", [], [], false⟩ : Environment).compileSource "t".toList =
      .ok ("t".toList, ⟨[.text "x".toList], "x".toList⟩) := by decide +kernel
  have loaded : Config.load (malformedTree "d.yaml") [] none = .ok .usual := rfl
  have failed : ((Context.assemble (malformedTree "d.yaml") [] [] [Path.ofText "d.yaml".toList]
      []).map fun _ => ()) = .error (.data (.malformed (Path.ofText "d.yaml".toList))) := by
    decide +kernel
  have ended := loading_faults_are_told_unless_unforeseen _ parsed ⟨rfl, rfl⟩ compiled
    (.context _ loaded _ (except_map_eq_error_iff.1 failed))
  exact ⟨ended.1, ended.2.1, ended.2.2.2.2.2.1.2 nofun⟩

theorem malformed_configuration_is_not_told :
    let env : Environment := ⟨malformedTree "stache.yaml", [], [], false⟩
    let out := env.runArgs (["render", "t"].map String.toList)
    env.compileSource "t".toList = .ok ("t".toList, ⟨[.text "x".toList], "x".toList⟩) ∧
      Config.load env.tree env.cwd none = .error (.yaml .malformed) ∧
      out.exitCode = 1 ∧ ¬ "Error: ".toList <+: out.stderr ∧
      out.stderr = "Unexpected error".toList := by
  have failed : ((Config.load (malformedTree "stache.yaml") [] none).map fun _ => ()) =
      .error (.yaml .malformed) := by decide +kernel
  exact ⟨by decide +kernel, except_map_eq_error_iff.1 failed, by decide +kernel, by decide +kernel,
    by decide +kernel⟩

end FieldTemplate.Command
