import FieldTemplate.Proofs.Context.Layers

/-!
# Contexts on a stack

A command merges each layer before it reads the next one, and gives up where the stack has no room
for that.  It fails with the first source that fails behind the layers in front of it
(`Context.stack_eq_error_iff`); where it does not fail, the context is the one that is built from
all layers at once (`Context.build_of_assemble`).
-/

namespace FieldTemplate.Context

set_option autoImplicit false

theorem ofLayers_append {base : Entries} {lower upper : List Entries} :
    ofLayers base (lower ++ upper) = ofLayers (ofLayers base lower) upper :=
  List.foldl_append

variable [Host]

/-- The stack has room for merging each layer onto those in front of it. -/
def Fits (base : Entries) : List Entries → Prop
  | [] => True
  | layer :: rest => Host.room .merge (mergeLevels base layer) = true ∧ Fits (merge base layer) rest

/-- What a source fails with behind the layers in front of it. -/
inductive Source.Fails (tree : FileTree) (cwd : Location) (below : Entries) (source : Source) :
    ContextError → Prop
  | unread {e : ContextError} (failed : source.read tree cwd = .error e) :
    Fails tree cwd below source e
  | tooDeep {layer : Entries} (read : source.read tree cwd = .ok layer)
    (full : Host.room .merge (mergeLevels below layer) = false) :
    Fails tree cwd below source .tooDeep

variable {tree : FileTree} {cwd : Location} {base defaults : Entries} {source : Source}
  {before after sources : List Source} {layers files sets : List Entries} {e : ContextError}

theorem fits_append_iff {more : List Entries} :
    Fits base (layers ++ more) ↔ Fits base layers ∧ Fits (ofLayers base layers) more := by
  induction layers generalizing base with
  | nil => simp [Fits, ofLayers]
  | cons layer rest ih => simp [Fits, ih, and_assoc, ofLayers]

theorem stack_append (read : before.mapM (Source.read tree cwd) = .ok layers)
    (fits : Fits base layers) :
    stack tree cwd base (before ++ after) = stack tree cwd (ofLayers base layers) after := by
  rw [mapM_eq_ok_iff] at read
  induction read generalizing base with
  | nil => rfl
  | cons first _ ih =>
      rw [List.cons_append, stack, first]
      dsimp only
      rw [if_pos fits.1, ih fits.2]
      rfl

theorem stack_of_fails (fails : source.Fails tree cwd base e) :
    stack tree cwd base (source :: after) = .error e := by
  rw [stack]
  cases fails with
  | unread failed => rw [failed]
  | tooDeep read full => rw [read]; simp [full]

/-- **All layers are merged** if each can be read and the stack has room for it. -/
theorem stack_eq_ok_iff {context : Entries} :
    stack tree cwd base sources = .ok context ↔
      ∃ layers, sources.mapM (Source.read tree cwd) = .ok layers ∧ Fits base layers ∧
        context = ofLayers base layers := by
  constructor
  · intro done
    induction sources generalizing base with
    | nil => cases done; exact ⟨[], rfl, trivial, rfl⟩
    | cons source rest ih =>
        rw [stack] at done
        cases read : source.read tree cwd with
        | error e => rw [read] at done; cases done
        | ok layer =>
            rw [read] at done
            dsimp only at done
            split at done
            · next room =>
              obtain ⟨layers, others, fits, rfl⟩ := ih done
              have all := mapM_eq_ok_iff.2 (.cons read (mapM_eq_ok_iff.1 others))
              exact ⟨layer :: layers, all, ⟨room, fits⟩, rfl⟩
            · cases done
  · rintro ⟨layers, read, fits, rfl⟩
    have whole : stack tree cwd base (sources ++ []) = _ := stack_append read fits
    rwa [List.append_nil] at whole

/-- **The first source that fails decides.** -/
theorem stack_eq_error_iff :
    stack tree cwd base sources = .error e ↔
      ∃ before source after layers, sources = before ++ source :: after ∧
        before.mapM (Source.read tree cwd) = .ok layers ∧ Fits base layers ∧
        source.Fails tree cwd (ofLayers base layers) e := by
  constructor
  · intro failed
    induction sources generalizing base with
    | nil => cases failed
    | cons source rest ih =>
        rw [stack] at failed
        cases read : source.read tree cwd with
        | error e' =>
            rw [read] at failed
            cases failed
            exact ⟨[], source, rest, [], rfl, rfl, trivial, .unread read⟩
        | ok layer =>
            rw [read] at failed
            dsimp only at failed
            split at failed
            · next room =>
              obtain ⟨before, first, after, layers, rfl, others, fits, fails⟩ := ih failed
              have all := mapM_eq_ok_iff.2 (.cons read (mapM_eq_ok_iff.1 others))
              exact ⟨source :: before, first, after, layer :: layers, rfl, all, ⟨room, fits⟩, fails⟩
            · next full =>
              cases failed
              exact ⟨[], source, rest, [], rfl, rfl, trivial,
                .tooDeep read (Bool.eq_false_iff.2 full)⟩
  · rintro ⟨before, source, after, layers, rfl, read, fits, fails⟩
    rw [stack_append read fits]
    exact stack_of_fails fails

/-- What is assembled depends on nothing but what is read. -/
theorem stack_congr {tree' : FileTree} {cwd' : Location}
    (same : ∀ source ∈ sources, source.read tree cwd = source.read tree' cwd') :
    stack tree cwd base sources = stack tree' cwd' base sources := by
  induction sources generalizing base with
  | nil => rfl
  | cons source rest ih =>
      obtain ⟨first, others⟩ := List.forall_mem_cons.1 same
      have behind (base : Entries) : stack tree cwd base rest = stack tree' cwd' base rest :=
        ih others
      simp only [stack, first, behind]

/-! ## Files and assignments -/

variable {paths : List Path} {assignments : List Text}

theorem Source.fails_iff_of_read {ε : Type} {read : Except ε Entries} {told : ε → ContextError}
    (reads : source.read tree cwd = read.mapError told) :
    source.Fails tree cwd base e ↔ (∃ e', read = .error e' ∧ e = told e') ∨
      ∃ layer, read = .ok layer ∧ Host.room .merge (mergeLevels base layer) = false ∧
        e = .tooDeep := by
  constructor
  · intro fails
    cases fails with
    | unread failed => exact .inl (except_mapError_eq_error_iff.1 (reads ▸ failed))
    | tooDeep layer full => exact .inr ⟨_, except_mapError_eq_ok_iff.1 (reads ▸ layer), full, rfl⟩
  · rintro (failed | ⟨layer, loaded, full, rfl⟩)
    · exact .unread (reads ▸ except_mapError_eq_error_iff.2 failed)
    · exact .tooDeep (reads ▸ except_mapError_eq_ok_iff.2 loaded) full

theorem Source.fails_file_iff {path : Path} :
    (Source.file path).Fails tree cwd base e ↔
      (∃ e', (DataFile.load tree cwd path).result = .error e' ∧ e = .data e') ∨
        ∃ layer, (DataFile.load tree cwd path).result = .ok layer ∧
          Host.room .merge (mergeLevels base layer) = false ∧ e = .tooDeep :=
  fails_iff_of_read rfl

theorem Source.fails_assignment_iff {s : Text} :
    (Source.assignment s).Fails tree cwd base e ↔
      (∃ e', Assignment.parse s = .error e' ∧ e = .assignment e') ∨
        ∃ layer, Assignment.parse s = .ok layer ∧
          Host.room .merge (mergeLevels base layer) = false ∧ e = .tooDeep :=
  fails_iff_of_read rfl

theorem mapM_read_file_iff : (paths.map Source.file).mapM (Source.read tree cwd) = .ok files ↔
    paths.mapM (fun path => (DataFile.load tree cwd path).result) = .ok files := by
  simp only [mapM_eq_ok_iff, List.forall₂_map_left_iff, Source.read, except_mapError_eq_ok_iff]

theorem mapM_read_assignment_iff :
    (assignments.map Source.assignment).mapM (Source.read tree cwd) = .ok sets ↔
      assignments.mapM Assignment.parse = .ok sets := by
  simp only [mapM_eq_ok_iff, List.forall₂_map_left_iff, Source.read, except_mapError_eq_ok_iff]

/-- **A context is assembled from the layers that it is built of**, if the stack has room. -/
theorem assemble_eq_ok_iff {context : Entries} :
    assemble tree cwd defaults paths assignments = .ok context ↔
      ∃ files sets, paths.mapM (fun path => (DataFile.load tree cwd path).result) = .ok files ∧
        assignments.mapM Assignment.parse = .ok sets ∧ Fits defaults (files ++ sets) ∧
        context = ofLayers defaults (files ++ sets) := by
  simp only [assemble, stack_eq_ok_iff, mapM_append_eq_ok_iff, mapM_read_file_iff,
    mapM_read_assignment_iff]
  constructor
  · rintro ⟨_, ⟨files, sets, loaded, parsed, rfl⟩, fits, rfl⟩
    exact ⟨files, sets, loaded, parsed, fits, rfl⟩
  · rintro ⟨files, sets, loaded, parsed, fits, rfl⟩
    exact ⟨_, ⟨files, sets, loaded, parsed, rfl⟩, fits, rfl⟩

/-- With room for all of them, it makes no difference when the layers are merged. -/
theorem build_of_assemble {context : Entries}
    (done : assemble tree cwd defaults paths assignments = .ok context) :
    (build tree cwd defaults paths assignments).result = .ok context := by
  obtain ⟨files, sets, loaded, parsed, -, rfl⟩ := assemble_eq_ok_iff.1 done
  rw [build_result, loaded, parsed]
  rfl

theorem assemble_of_file {i : Nat} {path : Path} (given : paths[i]? = some path)
    (loaded : (paths.take i).mapM (fun path => (DataFile.load tree cwd path).result) = .ok files)
    (fits : Fits defaults files)
    (fails : (Source.file path).Fails tree cwd (ofLayers defaults files) e) :
    assemble tree cwd defaults paths assignments = .error e := by
  refine stack_eq_error_iff.2 ⟨(paths.take i).map .file, .file path,
    (paths.drop (i + 1)).map .file ++ assignments.map .assignment, files, ?_,
    mapM_read_file_iff.2 loaded, fits, fails⟩
  rw [← List.cons_append, ← List.append_assoc, ← List.map_cons, ← List.map_append,
    ← split_of_getElem? given]

theorem assemble_of_assignment {i : Nat} {assignment : Text}
    (loaded : paths.mapM (fun path => (DataFile.load tree cwd path).result) = .ok files)
    (given : assignments[i]? = some assignment)
    (parsed : (assignments.take i).mapM Assignment.parse = .ok sets)
    (fits : Fits defaults (files ++ sets))
    (fails : (Source.assignment assignment).Fails tree cwd (ofLayers defaults (files ++ sets)) e) :
    assemble tree cwd defaults paths assignments = .error e := by
  refine stack_eq_error_iff.2 ⟨paths.map .file ++ (assignments.take i).map .assignment,
    .assignment assignment, (assignments.drop (i + 1)).map .assignment, files ++ sets, ?_,
    mapM_append_eq_ok_iff.2 ⟨files, sets, mapM_read_file_iff.2 loaded,
      mapM_read_assignment_iff.2 parsed, rfl⟩, fits, fails⟩
  rw [List.append_assoc, ← List.map_cons, ← List.map_append, ← split_of_getElem? given]

/-- Layers that can be read and merged one behind the other, up to an index. -/
theorem exists_fitting_prefix {ε α : Type} {f : α → Except ε Entries} {xs : List α} {n : Nat}
    (reads : ∀ i < n, ∀ x, xs[i]? = some x → ∃ layer, f x = .ok layer)
    (room : ∀ i < n, ∀ x layer below, xs[i]? = some x → f x = .ok layer →
      (xs.take i).mapM f = .ok below →
        Host.room .merge (mergeLevels (ofLayers base below) layer) = true) :
    ∃ layers, (xs.take n).mapM f = .ok layers ∧ Fits base layers := by
  induction n with
  | zero => exact ⟨[], rfl, trivial⟩
  | succ n ih =>
      obtain ⟨below, read, fits⟩ := ih (fun i before => reads i (Nat.lt_succ_of_lt before))
        fun i before => room i (Nat.lt_succ_of_lt before)
      rw [List.take_add_one]
      cases given : xs[n]? with
      | none => exact ⟨below, by simpa using read, fits⟩
      | some x =>
          obtain ⟨layer, own⟩ := reads n (Nat.lt_succ_self n) x given
          have single : [x].mapM f = .ok [layer] := mapM_eq_ok_iff.2 (.cons own .nil)
          refine ⟨below ++ [layer], mapM_append_eq_ok_iff.2 ⟨_, _, read, single, rfl⟩, ?_⟩
          exact fits_append_iff.2 ⟨fits, room n (Nat.lt_succ_self n) x layer below given own read,
            trivial⟩

end FieldTemplate.Context
