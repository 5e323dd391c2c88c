import FieldTemplate.Host.Usual
import FieldTemplate.Proofs.Command.Options
import FieldTemplate.Proofs.Context.Assemble
import Mathlib.Data.Prod.Lex

/-!
# The stages of a rendering

A rendering loads its configuration, reads and compiles its template, loads the data files and reads
the assignments one after the other, resolves the formatter and renders the fields.  Each stage may
be faulty, and any number of them at once (`Fault`); the first of these settles the outcome.

* `renderText_eq_error_iff`: a rendering fails with the fault of its first faulty stage;
* `FailsAt.congr`: where a rendering fails, every other one fails that has the same input up to
  there;
* `earliest_faulty_stage_decides`: nothing behind the first faulty stage has any influence.
-/

namespace FieldTemplate.Command

set_option autoImplicit false

variable {env env' : Environment} {r r' : RenderRequest} {f : Failure}

/-! ## A rendering as a whole -/

namespace Environment

theorem compileSource_eq_ok_iff {template name : Text} {t : Template} :
    env.compileSource template = .ok (name, t) ↔
      ∃ s, env.readSource template = .ok (name, s) ∧ Template.compile s = .ok t := by
  rw [compileSource]
  rcases env.readSource template with e | ⟨name', s⟩
  · simp
  · cases compiled : Template.compile s <;> simp [compiled]

/-- The stages in their order, each with what those before it have given. -/
theorem renderText_eq [Host] (env : Environment) (r : RenderRequest) :
    env.renderText r =
      ((Config.load env.tree env.cwd r.config).mapError .config).bind fun config =>
        (env.compileSource r.template).bind fun named =>
          ((Context.assemble env.tree env.cwd config.defaults r.data r.assignments).mapError
            .context).bind fun context =>
            ((config.formatterFor r.formatter).mapError .formatter).bind fun formatter =>
              (named.2.render ⟨formatter, r.strict.getD config.strict⟩
                (.dict context)).result.mapError .render :=
  rfl

/-- **A text is rendered when every stage has a result.** -/
theorem renderText_eq_ok_iff [Host] {text : WideText} :
    env.renderText r = .ok text ↔
      ∃ config, Config.load env.tree env.cwd r.config = .ok config ∧
        ∃ named, env.compileSource r.template = .ok named ∧
        ∃ context, Context.assemble env.tree env.cwd config.defaults r.data r.assignments =
          .ok context ∧
        ∃ formatter, config.formatterFor r.formatter = .ok formatter ∧
          (named.2.render ⟨formatter, r.strict.getD config.strict⟩ (.dict context)).result =
            .ok text := by
  simp only [renderText_eq, except_bind_eq_ok_iff, except_mapError_eq_ok_iff]

theorem renderText_of_config [Host] {e : ConfigError}
    (failed : Config.load env.tree env.cwd r.config = .error e) :
    env.renderText r = .error (.config e) := by
  rw [renderText_eq, failed]
  rfl

section

variable [Host] {config : Config} (loaded : Config.load env.tree env.cwd r.config = .ok config)
include loaded

theorem renderText_of_compileSource (failed : env.compileSource r.template = .error f) :
    env.renderText r = .error f := by
  rw [renderText_eq, loaded, failed]
  rfl

variable {named : Text × Template} (compiled : env.compileSource r.template = .ok named)
include compiled

theorem renderText_of_assemble {e : ContextError}
    (failed : Context.assemble env.tree env.cwd config.defaults r.data r.assignments = .error e) :
    env.renderText r = .error (.context e) := by
  simp only [renderText_eq, loaded, compiled, failed, Except.mapError, Except.bind]

variable {context : Entries}
  (built : Context.assemble env.tree env.cwd config.defaults r.data r.assignments = .ok context)
include built

theorem renderText_of_formatter {e : UnknownFormatter}
    (failed : config.formatterFor r.formatter = .error e) :
    env.renderText r = .error (.formatter e) := by
  simp only [renderText_eq, loaded, compiled, built, failed, Except.mapError, Except.bind]

theorem renderText_of_render {formatter : Formatter}
    (chosen : config.formatterFor r.formatter = .ok formatter) {e : RenderError}
    (failed : (named.2.render ⟨formatter, r.strict.getD config.strict⟩ (.dict context)).result =
      .error e) : env.renderText r = .error (.render e) := by
  simp only [renderText_eq, loaded, compiled, built, chosen, failed, Except.mapError, Except.bind]

end

end Environment

/-! ## Stages and their faults -/

/-- The stages; each data file is one and so is each assignment. -/
inductive Stage where
  | config
  | source
  | template
  | data (index : Nat)
  | assignment (index : Nat)
  | formatter
  | fields
deriving DecidableEq, Repr

namespace Stage

/-- The kinds of stages in their order. -/
@[simp] def kind : Stage → Nat
  | .config => 0
  | .source => 1
  | .template => 2
  | .data _ => 3
  | .assignment _ => 4
  | .formatter => 5
  | .fields => 6

/-- The place of a stage among those of its kind. -/
@[simp] def index : Stage → Nat
  | .data i => i
  | .assignment i => i
  | _ => 0

instance : LT Stage := ⟨fun a b => toLex (a.kind, a.index) < toLex (b.kind, b.index)⟩

theorem lt_iff {a b : Stage} : a < b ↔ a.kind < b.kind ∨ a.kind = b.kind ∧ a.index < b.index :=
  Prod.Lex.toLex_lt_toLex

instance : LE Stage := ⟨fun a b => a < b ∨ a = b⟩

theorem lt_of_kind_lt {a b : Stage} (before : a.kind < b.kind) : a < b := lt_iff.2 (.inl before)

theorem le_of_kind_lt {a b : Stage} (before : a.kind < b.kind) : a ≤ b :=
  .inl (lt_of_kind_lt before)

theorem data_lt {i j : Nat} (before : i < j) : data i < data j := lt_iff.2 (.inr ⟨rfl, before⟩)

theorem assignment_lt {i j : Nat} (before : i < j) : assignment i < assignment j :=
  lt_iff.2 (.inr ⟨rfl, before⟩)

theorem place_of_le {a b : Stage} (upTo : a ≤ b) :
    a.kind < b.kind ∨ a.kind = b.kind ∧ a.index ≤ b.index := by
  rcases upTo with before | rfl
  · exact (lt_iff.1 before).imp_right fun same => ⟨same.1, same.2.le⟩
  · exact .inr ⟨rfl, Nat.le_refl _⟩

theorem le_refl (a : Stage) : a ≤ a := .inr rfl

theorem le_of_le_of_lt {a b c : Stage} (first : a ≤ b) (second : b < c) : a ≤ c := by
  rcases first with before | rfl
  · exact .inl (lt_trans (α := Nat ×ₗ Nat) before second)
  · exact .inl second

instance : WellFoundedLT Stage :=
  ⟨InvImage.wf (fun s : Stage => toLex (s.kind, s.index)) wellFounded_lt⟩

end Stage

/-- The fault of a stage.  A stage that needs the results of others is at fault on its own only if
they have results. -/
inductive Fault [Host] (env : Environment) (r : RenderRequest) : Stage → Failure → Prop
  | config (e : ConfigError) (failed : Config.load env.tree env.cwd r.config = .error e) :
    Fault env r .config (.config e)
  | source (e : SourceError) (failed : env.readSource r.template = .error e) :
    Fault env r .source (.source e)
  | template (name s : Text) (read : env.readSource r.template = .ok (name, s)) (e : TemplateError)
    (failed : Template.compile s = .error e) : Fault env r .template (.template name e)
  | data (i : Nat) (path : Path) (given : r.data[i]? = some path) (e : DataError)
    (failed : (DataFile.load env.tree env.cwd path).result = .error e) :
    Fault env r (.data i) (.context (.data e))
  | dataTooDeep (config : Config) (loaded : Config.load env.tree env.cwd r.config = .ok config)
    (i : Nat) (path : Path) (given : r.data[i]? = some path) (files : List Entries)
    (below : (r.data.take i).mapM (fun path => (DataFile.load env.tree env.cwd path).result) =
      .ok files)
    (layer : Entries) (read : (DataFile.load env.tree env.cwd path).result = .ok layer)
    (full : Host.room .merge (mergeLevels (Context.ofLayers config.defaults files) layer) = false) :
    Fault env r (.data i) (.context .tooDeep)
  | assignment (i : Nat) (assignment : Text) (given : r.assignments[i]? = some assignment)
    (e : AssignmentError) (failed : Assignment.parse assignment = .error e) :
    Fault env r (.assignment i) (.context (.assignment e))
  | assignmentTooDeep (config : Config)
    (loaded : Config.load env.tree env.cwd r.config = .ok config) (files : List Entries)
    (below : r.data.mapM (fun path => (DataFile.load env.tree env.cwd path).result) = .ok files)
    (i : Nat) (assignment : Text) (given : r.assignments[i]? = some assignment)
    (sets : List Entries) (earlier : (r.assignments.take i).mapM Assignment.parse = .ok sets)
    (layer : Entries) (read : Assignment.parse assignment = .ok layer)
    (full : Host.room .merge
      (mergeLevels (Context.ofLayers config.defaults (files ++ sets)) layer) = false) :
    Fault env r (.assignment i) (.context .tooDeep)
  | formatter (config : Config) (loaded : Config.load env.tree env.cwd r.config = .ok config)
    (e : UnknownFormatter) (failed : config.formatterFor r.formatter = .error e) :
    Fault env r .formatter (.formatter e)
  | fields (config : Config) (loaded : Config.load env.tree env.cwd r.config = .ok config)
    (named : Text × Template) (compiled : env.compileSource r.template = .ok named)
    (context : Entries)
    (built : Context.assemble env.tree env.cwd config.defaults r.data r.assignments = .ok context)
    (formatter : Formatter) (chosen : config.formatterFor r.formatter = .ok formatter)
    (e : RenderError)
    (failed : (named.2.render ⟨formatter, r.strict.getD config.strict⟩ (.dict context)).result =
      .error e) :
    Fault env r .fields (.render e)

/-- A stage without a fault. -/
def Sound [Host] (env : Environment) (r : RenderRequest) (stage : Stage) : Prop :=
  ∀ f, ¬ Fault env r stage f

/-- A rendering fails at its first faulty stage. -/
structure FailsAt [Host] (env : Environment) (r : RenderRequest) (stage : Stage) (f : Failure) :
    Prop where
  fault : Fault env r stage f
  earlier : ∀ s, s < stage → Sound env r s

theorem Fault.exists_failsAt [Host] {stage : Stage} (fault : Fault env r stage f) :
    ∃ first f', FailsAt env r first f' := by
  induction stage using WellFoundedLT.induction generalizing f with
  | ind stage ih =>
      by_cases sound : ∀ s, s < stage → Sound env r s
      · exact ⟨stage, f, fault, sound⟩
      · simp only [Sound, not_forall, not_not] at sound
        obtain ⟨s, before, f', fault'⟩ := sound
        exact ih s before fault'

/-! ## The results of sound stages -/

namespace Sound

theorem config [Host] (sound : Sound env r .config) :
    ∃ config, Config.load env.tree env.cwd r.config = .ok config := by
  cases loaded : Config.load env.tree env.cwd r.config with
  | ok config => exact ⟨config, rfl⟩
  | error e => exact absurd (.config e loaded) (sound _)

theorem compileSource [Host] (source : Sound env r .source) (template : Sound env r .template) :
    ∃ named, env.compileSource r.template = .ok named := by
  cases read : env.readSource r.template with
  | error e => exact absurd (.source e read) (source _)
  | ok named =>
      cases compiled : Template.compile named.2 with
      | error e => exact absurd (.template named.1 named.2 read e compiled) (template _)
      | ok t => exact ⟨_, Environment.compileSource_eq_ok_iff.2 ⟨named.2, read, compiled⟩⟩

section

variable [Host] {config : Config} (loaded : Config.load env.tree env.cwd r.config = .ok config)
include loaded

/-- The data files up to an index can be loaded and merged. -/
theorem data {n : Nat} (sound : ∀ i < n, Sound env r (.data i)) :
    ∃ files, (r.data.take n).mapM (fun path => (DataFile.load env.tree env.cwd path).result) =
      .ok files ∧ Context.Fits config.defaults files := by
  refine Context.exists_fitting_prefix (fun i before path given => ?_)
    fun i before path layer files given read below => ?_
  · cases read : (DataFile.load env.tree env.cwd path).result with
    | ok layer => exact ⟨layer, rfl⟩
    | error e => exact absurd (.data i path given e read) (sound i before _)
  · by_contra full
    exact sound i before _ (.dataTooDeep config loaded i path given files below layer read
      (Bool.eq_false_iff.2 full))

theorem allData (sound : ∀ i, Sound env r (.data i)) :
    ∃ files, r.data.mapM (fun path => (DataFile.load env.tree env.cwd path).result) =
      .ok files ∧ Context.Fits config.defaults files := by
  have whole := Sound.data loaded (n := r.data.length) fun i _ => sound i
  rwa [List.take_length] at whole

/-- The assignments up to an index can be read and merged behind the data files. -/
theorem assignments {files : List Entries}
    (below : r.data.mapM (fun path => (DataFile.load env.tree env.cwd path).result) = .ok files)
    (fits : Context.Fits config.defaults files) {n : Nat}
    (sound : ∀ i < n, Sound env r (.assignment i)) :
    ∃ sets, (r.assignments.take n).mapM Assignment.parse = .ok sets ∧
      Context.Fits config.defaults (files ++ sets) := by
  have behind : ∃ sets, (r.assignments.take n).mapM Assignment.parse = .ok sets ∧
      Context.Fits (Context.ofLayers config.defaults files) sets := by
    refine Context.exists_fitting_prefix (fun i before assignment given => ?_)
      fun i before assignment layer sets given read earlier => ?_
    · cases read : Assignment.parse assignment with
      | ok layer => exact ⟨layer, rfl⟩
      | error e => exact absurd (.assignment i assignment given e read) (sound i before _)
    · rw [← Context.ofLayers_append]
      by_contra full
      exact sound i before _ (.assignmentTooDeep config loaded files below i assignment given sets
        earlier layer read (Bool.eq_false_iff.2 full))
  obtain ⟨sets, parsed, own⟩ := behind
  exact ⟨sets, parsed, Context.fits_append_iff.2 ⟨fits, own⟩⟩

theorem assemble (data : ∀ i, Sound env r (.data i))
    (assignments : ∀ i, Sound env r (.assignment i)) :
    ∃ context, Context.assemble env.tree env.cwd config.defaults r.data r.assignments =
      .ok context := by
  obtain ⟨files, below, fits⟩ := Sound.allData loaded data
  obtain ⟨sets, parsed, fits⟩ := Sound.assignments loaded below fits (n := r.assignments.length)
    fun i _ => assignments i
  rw [List.take_length] at parsed
  exact ⟨_, Context.assemble_eq_ok_iff.2 ⟨files, sets, below, parsed, fits, rfl⟩⟩

end

end Sound

/-! ## The first faulty stage -/

/-- No context is assembled where a data file or an assignment is the first to be at fault. -/
theorem FailsAt.assemble [Host] {stage : Stage} {e : ContextError}
    (fails : FailsAt env r stage (.context e)) {config : Config}
    (loaded : Config.load env.tree env.cwd r.config = .ok config) :
    Context.assemble env.tree env.cwd config.defaults r.data r.assignments = .error e := by
  obtain ⟨fault, earlier⟩ := fails
  cases fault with
  | data i path given e failed =>
      obtain ⟨files, below, fits⟩ := Sound.data loaded fun j before =>
        earlier (.data j) (Stage.data_lt before)
      exact Context.assemble_of_file given below fits
        (Context.Source.fails_file_iff.2 (.inl ⟨e, failed, rfl⟩))
  | dataTooDeep config' loaded' i path given files' below' layer read full =>
      obtain ⟨files, below, fits⟩ := Sound.data loaded fun j before =>
        earlier (.data j) (Stage.data_lt before)
      cases loaded.symm.trans loaded'
      cases below.symm.trans below'
      exact Context.assemble_of_file given below fits
        (Context.Source.fails_file_iff.2 (.inr ⟨layer, read, full, rfl⟩))
  | assignment i assignment given e failed =>
      obtain ⟨files, below, fits⟩ := Sound.allData loaded fun j =>
        earlier (.data j) (Stage.lt_of_kind_lt (by simp))
      obtain ⟨sets, parsed, fits⟩ := Sound.assignments loaded below fits fun j before =>
        earlier (.assignment j) (Stage.assignment_lt before)
      exact Context.assemble_of_assignment below given parsed fits
        (Context.Source.fails_assignment_iff.2 (.inl ⟨e, failed, rfl⟩))
  | assignmentTooDeep config' loaded' files' below' i assignment given sets' parsed' layer read
      full =>
      obtain ⟨files, below, fits⟩ := Sound.allData loaded fun j =>
        earlier (.data j) (Stage.lt_of_kind_lt (by simp))
      obtain ⟨sets, parsed, fits⟩ := Sound.assignments loaded below fits fun j before =>
        earlier (.assignment j) (Stage.assignment_lt before)
      cases loaded.symm.trans loaded'
      cases below.symm.trans below'
      cases parsed.symm.trans parsed'
      exact Context.assemble_of_assignment below given parsed fits
        (Context.Source.fails_assignment_iff.2 (.inr ⟨layer, read, full, rfl⟩))

/-- **A rendering fails with the fault of the stage it fails at.** -/
theorem FailsAt.renderText [Host] {stage : Stage} (fails : FailsAt env r stage f) :
    env.renderText r = .error f := by
  have whole := fails
  obtain ⟨fault, earlier⟩ := fails
  have sound (s : Stage) (before : s.kind < stage.kind) : Sound env r s :=
    earlier s (Stage.lt_of_kind_lt before)
  cases fault with
  | config e failed => exact Environment.renderText_of_config failed
  | source e failed =>
      obtain ⟨config, loaded⟩ := (sound .config (by simp)).config
      refine Environment.renderText_of_compileSource loaded ?_
      rw [Environment.compileSource, failed]
  | template name s read e failed =>
      obtain ⟨config, loaded⟩ := (sound .config (by simp)).config
      refine Environment.renderText_of_compileSource loaded ?_
      simp only [Environment.compileSource, read, failed]
  | data | dataTooDeep | assignment | assignmentTooDeep =>
      obtain ⟨config, loaded⟩ := (sound .config (by simp)).config
      obtain ⟨named, compiled⟩ := Sound.compileSource (sound .source (by simp))
        (sound .template (by simp))
      exact Environment.renderText_of_assemble loaded compiled (whole.assemble loaded)
  | formatter config loaded e failed =>
      obtain ⟨named, compiled⟩ := Sound.compileSource (sound .source (by simp))
        (sound .template (by simp))
      obtain ⟨context, built⟩ := Sound.assemble loaded (fun j => sound (.data j) (by simp))
        fun j => sound (.assignment j) (by simp)
      exact Environment.renderText_of_formatter loaded compiled built failed
  | fields config loaded named compiled context built formatter chosen e failed =>
      exact Environment.renderText_of_render loaded compiled built chosen failed

/-- A rendering without a faulty stage has a text. -/
theorem exists_renderText_of_sound [Host] (sound : ∀ stage, Sound env r stage) :
    ∃ s, env.renderText r = .ok s := by
  obtain ⟨config, loaded⟩ := (sound .config).config
  obtain ⟨named, compiled⟩ := Sound.compileSource (sound .source) (sound .template)
  obtain ⟨context, built⟩ := Sound.assemble loaded (fun i => sound (.data i))
    fun i => sound (.assignment i)
  cases chosen : config.formatterFor r.formatter with
  | error e => exact absurd (.formatter config loaded e chosen) (sound .formatter _)
  | ok formatter =>
      cases rendered : (named.2.render ⟨formatter, r.strict.getD config.strict⟩
          (.dict context)).result with
      | error e =>
          exact absurd
            (.fields config loaded named compiled context built formatter chosen e rendered)
            (sound .fields _)
      | ok text =>
          exact ⟨text, Environment.renderText_eq_ok_iff.2
            ⟨config, loaded, named, compiled, context, built, formatter, chosen, rendered⟩⟩

/-- **A rendering fails exactly at its first faulty stage.** -/
theorem renderText_eq_error_iff [Host] :
    env.renderText r = .error f ↔ ∃ stage, FailsAt env r stage f := by
  constructor
  · intro failed
    by_cases sound : ∀ stage, Sound env r stage
    · obtain ⟨text, rendered⟩ := exists_renderText_of_sound sound
      rw [rendered] at failed
      cases failed
    · simp only [Sound, not_forall, not_not] at sound
      obtain ⟨stage, f', fault⟩ := sound
      obtain ⟨first, f', fails⟩ := fault.exists_failsAt
      have same := fails.renderText
      rw [failed] at same
      cases same
      exact ⟨first, fails⟩
  · rintro ⟨stage, fails⟩
    exact fails.renderText

/-! ## The same input up to a stage -/

/-- Under a path both environments have the same file, or none. -/
structure SameFile (env env' : Environment) (path : Path) : Prop where
  found : env.tree.pathExists env.cwd path = env'.tree.pathExists env'.cwd path
  content : env.tree.read env.cwd path = env'.tree.read env'.cwd path

/-- The configuration file that is asked for is the same, or else the nearest one.  The nearest one
may lie elsewhere: its location is told in a reader's own words only, in front of which every report
is cut. -/
def SameConfig (env env' : Environment) : Option Path → Prop
  | some path => SameFile env env' path
  | none =>
    (Config.find env.tree env.cwd).map (fun location => env.tree.read [] ⟨[], location⟩) =
      (Config.find env'.tree env'.cwd).map fun location => env'.tree.read [] ⟨[], location⟩

/-- The template file is the same, or the standard input where it is the template. -/
def SameSource (env env' : Environment) (template : Text) : Prop :=
  if template = ['-'] then env.stdin = env'.stdin else SameFile env env' (Path.ofText template)

/-- What a stage takes from the command line and the files.  Compiling takes nothing but what was
read before it. -/
def SameInput (env env' : Environment) (r r' : RenderRequest) : Stage → Prop
  | .config => r.config = r'.config ∧ SameConfig env env' r.config
  | .source => r.template = r'.template ∧ SameSource env env' r.template
  | .template => True
  | .data i => r.data[i]? = r'.data[i]? ∧ ∀ path ∈ r.data[i]?, SameFile env env' path
  | .assignment i => r.assignments[i]? = r'.assignments[i]?
  | .formatter => r.formatter = r'.formatter
  | .fields => r.strict = r'.strict

def SameUpTo (env env' : Environment) (r r' : RenderRequest) (stage : Stage) : Prop :=
  ∀ s ≤ stage, SameInput env env' r r' s

theorem SameFile.symm {path : Path} (same : SameFile env env' path) : SameFile env' env path :=
  ⟨same.found.symm, same.content.symm⟩

theorem SameInput.symm {stage : Stage} (same : SameInput env env' r r' stage) :
    SameInput env' env r' r stage := by
  cases stage with
  | config =>
      obtain ⟨config, file⟩ := same
      refine ⟨config.symm, ?_⟩
      rw [← config]
      cases asked : r.config with
      | none => rw [asked] at file; exact Eq.symm file
      | some path => rw [asked] at file; exact SameFile.symm file
  | source =>
      obtain ⟨template, source⟩ := same
      refine ⟨template.symm, ?_⟩
      rw [← template]
      unfold SameSource at source ⊢
      split
      · next hyphen => rw [if_pos hyphen] at source; exact source.symm
      · next named => rw [if_neg named] at source; exact source.symm
  | template => trivial
  | data i => exact ⟨same.1.symm, fun path given => (same.2 path (same.1 ▸ given)).symm⟩
  | assignment i => exact Eq.symm same
  | formatter => exact Eq.symm same
  | fields => exact Eq.symm same

/-! ### Each stage reads its input and nothing else -/

theorem load_congr [Host] {path : Path} (same : SameFile env env' path) :
    DataFile.load env.tree env.cwd path = DataFile.load env'.tree env'.cwd path := by
  rw [DataFile.load, same.found, same.content, ← DataFile.load]

theorem loadConfig_congr [Host] {path : Option Path} (same : SameConfig env env' path) :
    Config.load env.tree env.cwd path = Config.load env'.tree env'.cwd path := by
  cases path with
  | some p => simp only [Config.load, Config.loadAt, SameFile.found same, SameFile.content same]
  | none =>
      simp only [Config.load, Config.loadAt]
      rw [SameConfig] at same
      cases found : Config.find env.tree env.cwd <;>
        cases found' : Config.find env'.tree env'.cwd <;> rw [found, found'] at same <;>
        simp_all

theorem readSource_congr {template : Text} (same : SameSource env env' template) :
    env.readSource template = env'.readSource template := by
  unfold SameSource at same
  unfold Environment.readSource
  split at same
  · next hyphen => rw [if_pos hyphen, if_pos hyphen, same]
  · next named => simp only [if_neg named, same.found, same.content]

namespace SameUpTo

variable {stage : Stage}

theorem symm (same : SameUpTo env env' r r' stage) : SameUpTo env' env r' r stage :=
  fun s before => (same s before).symm

theorem loadConfig [Host] (same : SameUpTo env env' r r' stage) (behind : .config ≤ stage) :
    Config.load env.tree env.cwd r.config = Config.load env'.tree env'.cwd r'.config := by
  obtain ⟨config, file⟩ := same .config behind
  rw [loadConfig_congr file, config]

theorem readSource (same : SameUpTo env env' r r' stage) (behind : .source ≤ stage) :
    env.readSource r.template = env'.readSource r'.template := by
  obtain ⟨template, source⟩ := same .source behind
  rw [readSource_congr source, template]

theorem compileSource (same : SameUpTo env env' r r' stage) (behind : .source ≤ stage) :
    env.compileSource r.template = env'.compileSource r'.template := by
  rw [Environment.compileSource, same.readSource behind, ← Environment.compileSource]

/-- The data files up to an index are the same. -/
theorem data [Host] (same : SameUpTo env env' r r' stage) {n : Nat}
    (behind : ∀ i < n, .data i ≤ stage) :
    (r.data.take n).mapM (fun path => (DataFile.load env.tree env.cwd path).result) =
      (r'.data.take n).mapM fun path => (DataFile.load env'.tree env'.cwd path).result := by
  have input {i : Nat} (before : i < n) : SameInput env env' r r' (.data i) :=
    same _ (behind i before)
  rw [← take_congr fun i before => (input before).1]
  refine mapM_congr fun path member => ?_
  obtain ⟨i, given⟩ := List.mem_iff_getElem?.1 member
  rw [List.getElem?_take, Option.ite_none_right_eq_some] at given
  obtain ⟨before, given⟩ := given
  rw [load_congr ((input before).2 path given)]

theorem allData [Host] (same : SameUpTo env env' r r' stage) (behind : ∀ i, .data i ≤ stage) :
    r.data.mapM (fun path => (DataFile.load env.tree env.cwd path).result) =
      r'.data.mapM fun path => (DataFile.load env'.tree env'.cwd path).result := by
  have whole := same.data (n := max r.data.length r'.data.length) fun i _ => behind i
  rwa [List.take_of_length_le (Nat.le_max_left ..), List.take_of_length_le (Nat.le_max_right ..)]
    at whole

/-- Behind all data files and assignments the contexts are the same. -/
theorem assemble [Host] (same : SameUpTo env env' r r' .fields) (defaults : Entries) :
    Context.assemble env.tree env.cwd defaults r.data r.assignments =
      Context.assemble env'.tree env'.cwd defaults r'.data r'.assignments := by
  have input (i : Nat) : SameInput env env' r r' (.data i) :=
    same (.data i) (Stage.le_of_kind_lt (by simp))
  have data : r.data = r'.data := List.ext_getElem? fun i => (input i).1
  have assignments : r.assignments = r'.assignments :=
    List.ext_getElem? fun i => same (.assignment i) (Stage.le_of_kind_lt (by simp))
  rw [Context.assemble, Context.assemble, ← data, ← assignments]
  refine Context.stack_congr fun source member => ?_
  cases source with
  | assignment s => rfl
  | file path =>
      obtain ⟨i, given⟩ : ∃ i : Nat, r.data[i]? = some path :=
        List.mem_iff_getElem?.1 (by simpa using member)
      rw [Context.Source.read, Context.Source.read, load_congr ((input i).2 path given)]

end SameUpTo

theorem Fault.congr [Host] {stage : Stage} (fault : Fault env r stage f)
    (same : SameUpTo env env' r r' stage) : Fault env' r' stage f := by
  cases fault with
  | config e failed => exact .config e (same.loadConfig (Stage.le_refl _) ▸ failed)
  | source e failed => exact .source e (same.readSource (Stage.le_refl _) ▸ failed)
  | template name s read e failed =>
      exact .template name s (same.readSource (Stage.le_of_kind_lt (by simp)) ▸ read) e failed
  | data i path given e failed =>
      obtain ⟨paths, file⟩ := same (.data i) (Stage.le_refl _)
      exact .data i path (paths ▸ given) e (load_congr (file path given) ▸ failed)
  | dataTooDeep config loaded i path given files below layer read full =>
      obtain ⟨paths, file⟩ := same (.data i) (Stage.le_refl _)
      have prior := same.data fun j before => .inl (Stage.data_lt before)
      exact .dataTooDeep config (same.loadConfig (Stage.le_of_kind_lt (by simp)) ▸ loaded) i path
        (paths ▸ given) files (prior ▸ below) layer (load_congr (file path given) ▸ read) full
  | assignment i assignment given e failed =>
      have texts : r.assignments[i]? = r'.assignments[i]? := same (.assignment i) (Stage.le_refl _)
      exact .assignment i assignment (texts ▸ given) e failed
  | assignmentTooDeep config loaded files below i assignment given sets earlier layer read full =>
      have texts : r.assignments[i]? = r'.assignments[i]? := same (.assignment i) (Stage.le_refl _)
      have prior : r.assignments.take i = r'.assignments.take i :=
        take_congr fun j before => same (.assignment j) (.inl (Stage.assignment_lt before))
      have all := same.allData fun j => Stage.le_of_kind_lt (by simp)
      exact .assignmentTooDeep config (same.loadConfig (Stage.le_of_kind_lt (by simp)) ▸ loaded)
        files (all ▸ below) i assignment (texts ▸ given) sets (prior ▸ earlier) layer read full
  | formatter config loaded e failed =>
      have names : r.formatter = r'.formatter := same .formatter (Stage.le_refl _)
      exact .formatter config (same.loadConfig (Stage.le_of_kind_lt (by simp)) ▸ loaded) e
        (names ▸ failed)
  | fields config loaded named compiled context built formatter chosen e failed =>
      have names : r.formatter = r'.formatter := same .formatter (Stage.le_of_kind_lt (by simp))
      have modes : r.strict = r'.strict := same .fields (Stage.le_refl _)
      exact .fields config (same.loadConfig (Stage.le_of_kind_lt (by simp)) ▸ loaded) named
        (same.compileSource (Stage.le_of_kind_lt (by simp)) ▸ compiled) context
        (same.assemble config.defaults ▸ built) formatter (names ▸ chosen) e (modes ▸ failed)

/-- **Where a rendering fails, every other one fails** that has the same input up to there. -/
theorem FailsAt.congr [Host] {stage : Stage} (fails : FailsAt env r stage f)
    (same : SameUpTo env env' r r' stage) : FailsAt env' r' stage f := by
  refine ⟨fails.fault.congr same, fun s before f' fault' => fails.earlier s before f' ?_⟩
  exact fault'.congr fun s' upTo => (same s' (Stage.le_of_le_of_lt upTo before)).symm

/-- **The earliest faulty stage decides** how a failing rendering ends.  A rendering fails exactly
where some stage is faulty and those before it are not.  Two renderings that have the same input up
to such a stage end in the same way, with 1 and nothing on the standard output, and change no file,
whatever comes behind: further data files and assignments, the formatter, the strictness, the
output. -/
theorem earliest_faulty_stage_decides [Host] {args args' : List Text}
    (parsed : Request.parse args = .ok (.render r))
    (parsed' : Request.parse args' = .ok (.render r'))
    (plain : r.verbose = false ∧ env.debug = false)
    (plain' : r'.verbose = false ∧ env'.debug = false) :
    (∀ f, env.renderText r = .error f ↔ ∃ stage, FailsAt env r stage f) ∧
    ∀ stage f, FailsAt env r stage f → SameUpTo env env' r r' stage →
      let out := env.runArgs args
      let out' := env'.runArgs args'
      out.exitCode = 1 ∧ out.stdout = [] ∧ out.stderr = f.report.text ∧ out.unsaid = .nothing ∧
        out.escaped = none ∧ out.tree = env.tree ∧ out' = { out with tree := env'.tree } := by
  refine ⟨fun f => renderText_eq_error_iff, fun stage f fails same => ?_⟩
  have ended {env : Environment} {args : List Text} {r : RenderRequest}
      (parsed : Request.parse args = .ok (.render r))
      (plain : r.verbose = false ∧ env.debug = false) (fails : FailsAt env r stage f) :
      env.runArgs args = ⟨1, [], f.report.text, .nothing, env.tree, none⟩ := by
    rw [Environment.runArgs_of_parse parsed, Environment.run, Environment.render, fails.renderText]
    simp [Environment.fail, Environment.finish, plain.1, plain.2]
  rw [ended parsed plain fails, ended parsed' plain' (fails.congr same)]
  exact ⟨rfl, rfl, rfl, rfl, rfl, rfl, rfl⟩

open scoped Host

/-- A template and a data file. -/
def stagedEnvironment (others : List (Location × List UInt8)) : Environment :=
  ⟨⟨(["t".toList], Utf8.encode "x".toList) ::
    (["a.json".toList], Utf8.encode "\x7b\x7d".toList) :: others, [], false⟩, [], [], false⟩

/-- The file `b.json` is missing, the assignment has no key, and there is no such formatter. -/
def faultyRequest : RenderRequest :=
  ⟨"t".toList, ["a.json", "b.json"].map fun s => Path.ofText s.toList, ["=".toList],
    some "none".toList, some true, none, none, false⟩

/-- Only `b.json` is missing. -/
def soundBehindRequest : RenderRequest :=
  ⟨"t".toList, ["a.json", "b.json", "c.json"].map fun s => Path.ofText s.toList, [], none, none,
    some (Path.ofText "out".toList), none, false⟩

theorem faultyRequest_failsAt :
    FailsAt (stagedEnvironment []) faultyRequest (.data 1)
      (.context (.data (.notFound (Path.ofText "b.json".toList)))) := by
  refine ⟨.data 1 (Path.ofText "b.json".toList) rfl _ rfl, fun s before f fault => ?_⟩
  have place := Stage.lt_iff.1 before
  have source : (stagedEnvironment []).readSource "t".toList = .ok ("t".toList, "x".toList) := by
    decide +kernel
  have compiled : Template.compile "x".toList = .ok ⟨[.text "x".toList], "x".toList⟩ := by
    decide +kernel
  have first : (DataFile.load (stagedEnvironment []).tree [] (Path.ofText "a.json".toList)).result =
      .ok [] := rfl
  cases fault with
  | config e failed => cases failed
  | source e failed => exact nomatch source.symm.trans failed
  | template name s read e failed =>
      cases source.symm.trans read
      exact nomatch compiled.symm.trans failed
  | data i path given e failed =>
      obtain rfl : i = 0 := by simpa using place
      cases given
      exact nomatch first.symm.trans failed
  | dataTooDeep config loaded i path given files below layer read full =>
      obtain rfl : i = 0 := by simpa using place
      cases below
      cases given
      cases first.symm.trans read
      cases full
  | assignment i assignment given e failed => simp at place
  | assignmentTooDeep config loaded files below i assignment given => simp at place
  | formatter config loaded e failed => simp at place
  | fields config loaded named compiled context built formatter chosen e failed => simp at place

theorem earliest_faulty_stage_decides_missing_file :
    let out := (stagedEnvironment []).runArgs
      (["render", "t", "-d", "a.json", "-d", "b.json", "-s", "=", "-e", "none", "--strict"].map
        String.toList)
    let out' := (stagedEnvironment [(["c.json".toList], [])]).runArgs
      (["render", "-o", "out", "-d", "a.json", "t", "-d", "b.json", "-d", "c.json"].map
        String.toList)
    out.exitCode = 1 ∧ out.stderr = "Error: Data file not found: b.json\n".toList ∧
      out'.exitCode = out.exitCode ∧ out'.stdout = out.stdout ∧ out'.stderr = out.stderr ∧
      out'.tree = (stagedEnvironment [(["c.json".toList], [])]).tree := by
  have same : SameUpTo (stagedEnvironment []) (stagedEnvironment [(["c.json".toList], [])])
      faultyRequest soundBehindRequest (.data 1) := by
    intro s upTo
    have place := Stage.place_of_le upTo
    cases s with
    | config => exact ⟨rfl, rfl⟩
    | source => exact ⟨rfl, ⟨rfl, rfl⟩⟩
    | template => trivial
    | data i =>
        have : i = 0 ∨ i = 1 := by simp at place; omega
        rcases this with rfl | rfl
        · exact ⟨rfl, fun path given => by cases given; exact ⟨rfl, rfl⟩⟩
        · exact ⟨rfl, fun path given => by cases given; exact ⟨rfl, rfl⟩⟩
    | assignment i => simp at place
    | formatter => simp at place
    | fields => simp at place
  have parsed : Request.parse (["render", "t", "-d", "a.json", "-d", "b.json", "-s", "=", "-e",
      "none", "--strict"].map String.toList) = .ok (.render faultyRequest) := rfl
  have parsed' : Request.parse (["render", "-o", "out", "-d", "a.json", "t", "-d", "b.json", "-d",
      "c.json"].map String.toList) = .ok (.render soundBehindRequest) := rfl
  obtain ⟨code, stdout, stderr, unsaid, escaped, tree, ended⟩ :=
    (earliest_faulty_stage_decides parsed parsed' ⟨rfl, rfl⟩ ⟨rfl, rfl⟩).2 _ _ faultyRequest_failsAt
      same
  refine ⟨code, stderr.trans (by decide +kernel), ?_⟩
  rw [ended]
  exact ⟨rfl, rfl, rfl, rfl⟩

end FieldTemplate.Command
