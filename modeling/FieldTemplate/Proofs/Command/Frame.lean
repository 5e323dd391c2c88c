import FieldTemplate.Command.Run
import FieldTemplate.Host.Usual
import FieldTemplate.Proofs.Command.Stream
import FieldTemplate.Proofs.Files.Tree
import FieldTemplate.Proofs.Text.Utf8
import FieldTemplate.Proofs.Text.Wide

/-!
# What a command changes

* `Environment.ends_render`: the ways in which a rendering ends;
* `Environment.gaveUp_or_emptied`: a command that does not come to its end leaves every file as it
  was, unless it has no UTF-8 form for its text and the file to hold that is open by then;
* `Environment.delivered_of_exitCode_zero`: a rendering that comes to its end hands its text over,
  to the standard output or to the file that was asked for;
* `Environment.rendering_changes_only_its_output`: both, for all command lines.

A text without surrogates can be written to a file and read back from it.
-/

namespace FieldTemplate.Command

set_option autoImplicit false

variable {env : Environment} {r : RenderRequest} {out : Outcome}

/-! ## Commands that give up -/

/-- What a command leaves behind that does not come to its end: the files as they were and, unless
it shows the usage, nothing on the standard output. -/
structure GaveUp (env : Environment) (out : Outcome) : Prop where
  files : out.tree.files = env.tree.files
  silent : out.exitCode = 1 → out.stdout = [] ∧ out.unsaid ≠ .help

theorem GaveUp.of_finish (env : Environment) (verbose : Bool) (exitCode : Nat) (stderr : Text) :
    GaveUp env (env.finish verbose exitCode [] stderr) := by
  refine ⟨rfl, fun _ => ⟨rfl, ?_⟩⟩
  change (if verbose || env.debug then Unsaid.log else .nothing) ≠ .help
  split <;> exact fun same => by cases same

theorem GaveUp.of_help (env : Environment) : GaveUp env (env.help 2) :=
  ⟨rfl, fun code => by cases code⟩

namespace Environment

/-- The ways in which a rendering ends. -/
inductive Ends [Host] (env : Environment) (r : RenderRequest) : Outcome → Prop
  | failed (f : Failure) (rendered : env.renderText r = .error f) :
    Ends env r (env.fail r.verbose f)
  | shown (text : Text) (rendered : env.renderText r = .ok text.wide) (asked : r.output = none) :
    Ends env r (env.finish r.verbose 0 (onStream text) [])
  | unshown (s : WideText) (rendered : env.renderText r = .ok s) (formless : s.text? = none)
    (asked : r.output = none) : Ends env r (env.escape r.verbose .encoding)
  | unsaved (s : WideText) (bytes : List UInt8) (path : Path) (tree : FileTree) (e : FileError)
    (rendered : env.renderText r = .ok s) (asked : r.output = some path)
    (saved : env.tree.save env.cwd path bytes = ⟨tree, some e⟩) :
    Ends env r { env.escape r.verbose (.file e) with tree := tree }
  | emptied (s : WideText) (path : Path) (tree : FileTree) (rendered : env.renderText r = .ok s)
    (formless : s.text? = none) (asked : r.output = some path)
    (saved : env.tree.save env.cwd path [] = ⟨tree, none⟩) :
    Ends env r { env.escape r.verbose .encoding with tree := tree }
  | saved (text : Text) (path : Path) (tree : FileTree)
    (rendered : env.renderText r = .ok text.wide) (asked : r.output = some path)
    (saved : env.tree.save env.cwd path (Utf8.encode text) = ⟨tree, none⟩) :
    Ends env r { env.finish r.verbose 0 [] [] with tree := tree }

theorem ends_deliver [Host] {s : WideText} (rendered : env.renderText r = .ok s) :
    Ends env r (env.deliver r s) := by
  rw [deliver]
  cases asked : r.output with
  | none =>
      cases form : s.text? with
      | none => exact .unshown s rendered form asked
      | some text =>
          obtain rfl := WideText.text?_eq_some_iff.1 form
          exact .shown text rendered asked
  | some path =>
      cases form : s.text? with
      | none =>
          rcases saved : env.tree.save env.cwd path [] with ⟨tree, _ | e⟩
          · simpa [saved] using .emptied s path tree rendered form asked saved
          · simpa [saved] using .unsaved s [] path tree e rendered asked saved
      | some text =>
          obtain rfl := WideText.text?_eq_some_iff.1 form
          rcases saved : env.tree.save env.cwd path (Utf8.encode text) with ⟨tree, _ | e⟩
          · simpa [saved] using .saved text path tree rendered asked saved
          · simpa [saved] using .unsaved text.wide _ path tree e rendered asked saved

theorem ends_render [Host] (env : Environment) (r : RenderRequest) : Ends env r (env.render r) := by
  rw [render]
  cases rendered : env.renderText r with
  | error f => exact .failed f rendered
  | ok s => exact ends_deliver rendered

/-- A file that was opened for a text without a UTF-8 form, and is empty.  Every other file is as it
was. -/
structure Emptied [Host] (env : Environment) (r : RenderRequest) (out : Outcome) : Prop where
  formless : ∃ s, env.renderText r = .ok s ∧ s.text? = none
  opened : ∃ path, r.output = some path ∧ FileTree.Stores env.tree out.tree env.cwd path []
  grows : FileTree.Grows env.tree out.tree
  exitCode : out.exitCode = 1
  stdout : out.stdout = []
  escaped : out.escaped = some .encoding

theorem Ends.gaveUp_or_emptied [Host] (ends : Ends env r out) (failed : out.exitCode ≠ 0) :
    GaveUp env out ∨ Emptied env r out := by
  have silent := (GaveUp.of_finish env r.verbose 1 []).silent
  cases ends with
  | failed f rendered => exact .inl (.of_finish ..)
  | shown text rendered asked => exact absurd rfl failed
  | unshown s rendered formless asked => exact .inl ⟨rfl, silent⟩
  | unsaved s bytes path tree e rendered asked saved =>
      have files := FileTree.save_files_of_error (congrArg FileTree.Written.error saved)
      rw [saved] at files
      exact .inl ⟨files, silent⟩
  | emptied s path tree rendered formless asked saved =>
      have stores := FileTree.save_stores (congrArg FileTree.Written.error saved)
      have grows := FileTree.save_grows env.tree env.cwd path []
      rw [saved] at stores grows
      exact .inr ⟨⟨s, rendered, formless⟩, ⟨path, asked, stores⟩, grows, rfl, rfl, rfl⟩
  | saved text path tree rendered asked saved => exact absurd rfl failed

theorem check_gaveUp {template : Text} {verbose : Bool}
    (failed : (env.check template verbose).exitCode ≠ 0) :
    GaveUp env (env.check template verbose) := by
  rw [check] at failed ⊢
  cases compiled : env.compileSource template with
  | error f => exact .of_finish ..
  | ok named => rw [compiled] at failed; exact absurd rfl failed

theorem tokens_gaveUp [Host] {template : Text} (failed : (env.tokens template).exitCode ≠ 0) :
    GaveUp env (env.tokens template) := by
  rw [tokens] at failed ⊢
  cases read : env.readSource template with
  | error e => exact .of_finish ..
  | ok source =>
      cases tokenized : tokenize source.2 with
      | error e => simp only [tokenized]; exact .of_finish ..
      | ok ts =>
          cases shown : Table.ofMarkup source.1 tokenColumns (ts.map tokenRow) with
          | error e =>
              have silent := (GaveUp.of_finish env false 1 []).silent
              simp only [tokenized, shown]
              exact ⟨rfl, silent⟩
          | ok table => simp only [read, tokenized, shown] at failed; exact absurd rfl failed

/-- **A command that does not come to its end changes no file**, whichever it is and wherever it
stops, but for one that was opened for a text without a UTF-8 form. -/
theorem gaveUp_or_emptied [Host] (env : Environment) (args : List Text)
    (failed : (env.runArgs args).exitCode ≠ 0) :
    GaveUp env (env.runArgs args) ∨
      ∃ r, Request.parse args = .ok (.render r) ∧ Emptied env r (env.runArgs args) := by
  rw [runArgs] at failed ⊢
  cases parsed : Request.parse args with
  | error e => exact .inl (.of_help env)
  | ok request =>
      simp only [parsed] at failed
      cases request with
      | version => exact absurd rfl failed
      | help => exact absurd rfl failed
      | render r =>
          exact ((ends_render env r).gaveUp_or_emptied failed).imp_right fun emptied =>
            ⟨r, rfl, emptied⟩
      | check template verbose => exact .inl (check_gaveUp failed)
      | tokens template => exact .inl (tokens_gaveUp failed)

/-! ## Renderings that come to their end -/

/-- A rendered text where it was asked for, and everything else as it was. -/
inductive Delivered (env : Environment) (output : Option Path) (text : Text) (out : Outcome) : Prop
  | shown (asked : output = none) (tree : out.tree = env.tree) (stdout : out.stdout = onStream text)
  | stored (path : Path) (asked : output = some path) (stdout : out.stdout = [])
    (grows : FileTree.Grows env.tree out.tree)
    (stores : FileTree.Stores env.tree out.tree env.cwd path (Utf8.encode text))

theorem Ends.delivered [Host] (ends : Ends env r out) (done : out.exitCode = 0) :
    ∃ text : Text, env.renderText r = .ok text.wide ∧ Delivered env r.output text out := by
  cases ends with
  | failed f rendered => cases done
  | shown text rendered asked => exact ⟨text, rendered, .shown asked rfl rfl⟩
  | unshown s rendered formless asked => cases done
  | unsaved s bytes path tree e rendered asked saved => cases done
  | emptied s path tree rendered formless asked saved => cases done
  | saved text path tree rendered asked saved =>
      have stores := FileTree.save_stores (congrArg FileTree.Written.error saved)
      have grows := FileTree.save_grows env.tree env.cwd path (Utf8.encode text)
      rw [saved] at stores grows
      exact ⟨text, rendered, .stored path asked rfl grows stores⟩

/-- A file that is read as the text. -/
def Holds (tree : FileTree) (cwd : Location) (p : Path) (text : Text) : Prop :=
  ∃ bytes, tree.read cwd p = .ok bytes ∧ Utf8.decode bytes = .ok text

/-- The file that was asked for holds the text.  Only where a tree is a part of a larger one may a
path lead out of it. -/
theorem Delivered.holds {path : Path} {text : Text} (delivered : Delivered env (some path) text out)
    (known : env.tree.whole = true ∨ out.tree.locate env.cwd path ≠ .ok .outside) :
    Holds out.tree env.cwd path text := by
  cases delivered with
  | shown asked tree stdout => cases asked
  | stored path asked stdout grows stores =>
      cases asked
      refine ⟨Utf8.encode text, stores.read ?_, Utf8.decode_encode text⟩
      rcases known with whole | inside
      · intro leads
        obtain ⟨place, same⟩ := FileTree.locate_of_whole (grows.whole.trans whole) leads
        cases same
      · exact inside

/-- **A rendering changes nothing but its output.**  A command that gives up, whatever the reason,
leaves every file as it was, and the standard output is empty when it exits with 1.  There is one
exception: a text with surrogates is rendered, and the file that was asked for can be opened; then
that file is empty and every other one as it was.  A rendering that exits with 0 hands over exactly
the text it rendered: the file that was asked for holds that text, every other file is as it was and
the standard output is empty; or, if no file was asked for, every file is as it was and the standard
output is that text without its control sequences. -/
theorem rendering_changes_only_its_output [Host] (env : Environment) (args : List Text) :
    ((env.runArgs args).exitCode ≠ 0 →
      GaveUp env (env.runArgs args) ∨
        ∃ r, Request.parse args = .ok (.render r) ∧ Emptied env r (env.runArgs args)) ∧
      ∀ r, Request.parse args = .ok (.render r) → (env.runArgs args).exitCode = 0 →
        ∃ text : Text, env.renderText r = .ok text.wide ∧
          Delivered env r.output text (env.runArgs args) ∧
          ('\x1B' ∉ text → onStream text = text) ∧
          ∀ path, r.output = some path →
            env.tree.whole = true ∨ (env.runArgs args).tree.locate env.cwd path ≠ .ok .outside →
            Holds (env.runArgs args).tree env.cwd path text := by
  refine ⟨gaveUp_or_emptied env args, fun r parsed done => ?_⟩
  have same : env.runArgs args = env.render r := by rw [runArgs, parsed]; rfl
  rw [same] at done ⊢
  obtain ⟨text, rendered, delivered⟩ := (ends_render env r).delivered done
  refine ⟨text, rendered, delivered, onStream_of_plain, fun path asked known => ?_⟩
  rw [asked] at delivered
  exact delivered.holds known

open scoped Host

/-- An assigned text with a surrogate, rendered into a file that holds another text. -/
theorem file_is_emptied_for_surrogate :
    let env : Environment :=
      ⟨⟨[(["t".toList], Utf8.encode "\x7b\x7bx\x7d\x7d".toList),
        (["F".toList], Utf8.encode "old".toList)], [], false⟩, [], [], false⟩
    let out := env.runArgs (["render", "t", "-s", "x=\"\\ud800\"", "-o", "F"].map String.toList)
    out.exitCode = 1 ∧ out.escaped = some .encoding ∧ out.stdout = [] ∧
      env.tree.read [] (Path.ofText ['F']) = .ok (Utf8.encode "old".toList) ∧
      out.tree.read [] (Path.ofText ['F']) = .ok [] := by
  decide +kernel

/-- A template that is written over itself. -/
example :
    let env : Environment :=
      ⟨⟨[(["t".toList], Utf8.encode "\x7b\x7b a \x7d\x7dx".toList)], [], false⟩, [], [], false⟩
    let out := env.runArgs (["render", "t", "-o", "t"].map String.toList)
    out.exitCode = 0 ∧ out.stdout = [] ∧
      out.tree.files = [(["t".toList], Utf8.encode "x".toList)] := by
  decide +kernel

/-- A target whose name is too long: its directory is made, and no file. -/
example :
    let env : Environment := ⟨⟨[(["t".toList], Utf8.encode "x".toList)], [], false⟩, [], [], false⟩
    let target := "d/".toList ++ List.replicate 256 'n'
    let out := env.runArgs ["render".toList, "t".toList, "-o".toList, target]
    out.exitCode = 1 ∧ out.tree.files = env.tree.files ∧ out.tree.dirs = [["d".toList]] := by
  decide +kernel

end Environment

end FieldTemplate.Command
