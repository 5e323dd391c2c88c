import FieldTemplate.Files.Tree

/-!
# Writing into a file tree

* `FileTree.Grows.locate`: a path that leads somewhere leads there still, once there are more
  directories and files;
* `FileTree.save_files_of_error`: a save that fails, wherever it stops, leaves every file as it was;
* `FileTree.save_stores`: a save that succeeds changes the file that its path leads to, and no
  other;
* `FileTree.Stores.read`: that file is read back where the tree is known.

Directories may stay behind when a save fails: the outer ones are made before the inner ones.
-/

namespace FieldTemplate.FileTree

set_option autoImplicit false

variable {t old middle new : FileTree} {cwd : Location} {p : Path} {bytes : List UInt8}

/-! ## Trees that grow -/

/-- The new tree has every directory of the old one. -/
structure Grows (old new : FileTree) : Prop where
  whole : new.whole = old.whole
  isDir : ∀ place, old.isDir place = true → new.isDir place = true

theorem Grows.refl (t : FileTree) : Grows t t := ⟨rfl, fun _ dir => dir⟩

theorem Grows.trans (first : Grows old middle) (second : Grows middle new) : Grows old new :=
  ⟨second.whole.trans first.whole, fun place dir => second.isDir place (first.isDir place dir)⟩

theorem step_inside_eq_ok_iff (t : FileTree) (place : Location) (part : Text) (next : Spot) :
    t.step (.inside place) part = .ok next ↔
      t.isDir place = true ∧
        if part == ['.', '.'] then
          (if !place.isEmpty then .inside place.dropLast
            else if t.whole then .inside [] else .above 0) = next
        else ¬ nameLimit < part.bytes ∧ .inside (place ++ [part]) = next := by
  rw [step]
  by_cases dir : t.isDir place = true
  · by_cases up : (part == ['.', '.']) = true
    · simp only [dir, up, if_true, Except.bind, true_and, Except.ok.injEq]
    · by_cases long : nameLimit < part.bytes
      · simp [dir, up, long, Except.bind]
      · simp [dir, up, long, Except.bind]
  · simp [dir, Except.bind]

theorem Grows.step (grows : Grows old new) {spot next : Spot} {part : Text}
    (leads : old.step spot part = .ok next) : new.step spot part = .ok next := by
  cases spot with
  | inside place =>
      rw [step_inside_eq_ok_iff] at leads ⊢
      rw [grows.whole]
      exact ⟨grows.isDir place leads.1, leads.2⟩
  | above levels => exact leads
  | outside => exact leads

theorem Grows.steps (grows : Grows old new) {spot next : Spot} {parts : List Text}
    (leads : parts.foldlM old.step spot = .ok next) : parts.foldlM new.step spot = .ok next := by
  induction parts generalizing spot with
  | nil => exact leads
  | cons part rest ih =>
      rw [List.foldlM_cons] at leads ⊢
      cases first : old.step spot part with
      | error e => rw [first] at leads; cases leads
      | ok reached =>
          rw [first] at leads
          rw [grows.step first]
          exact ih leads

theorem locate_eq_ok_iff (t : FileTree) (cwd : Location) (p : Path) (spot : Spot) :
    t.locate cwd p = .ok spot ↔
      ¬ pathLimit < p.toText.bytes ∧
        p.parts.foldlM t.step
          (if !p.absolute then .inside cwd else if t.whole then .inside [] else .above 0) =
            .ok spot := by
  rw [locate]
  split
  · next long => simp [long]
  · next short => simp [short]

/-- **A path leads where it led**, once the tree has grown. -/
theorem Grows.locate (grows : Grows old new) {spot : Spot} (leads : old.locate cwd p = .ok spot) :
    new.locate cwd p = .ok spot := by
  rw [locate_eq_ok_iff] at leads ⊢
  rw [grows.whole]
  exact ⟨leads.1, grows.steps leads.2⟩

/-! ## Whole trees -/

theorem steps_of_whole (whole : t.whole = true) {place : Location} {parts : List Text} {spot : Spot}
    (leads : parts.foldlM t.step (.inside place) = .ok spot) :
    ∃ reached, spot = .inside reached := by
  induction parts generalizing place with
  | nil => cases leads; exact ⟨place, rfl⟩
  | cons part rest ih =>
      rw [List.foldlM_cons] at leads
      cases first : t.step (.inside place) part with
      | error e => rw [first] at leads; cases leads
      | ok reached =>
          rw [first] at leads
          obtain ⟨-, next⟩ := (step_inside_eq_ok_iff ..).1 first
          -- one part leads into the tree again: down, up, or round at the root
          obtain ⟨inner, rfl⟩ : ∃ inner, reached = .inside inner := by
            rw [whole] at next
            split at next
            · split at next <;> exact ⟨_, next.symm⟩
            · exact ⟨_, next.2.symm⟩
          exact ih leads

/-- No path leads out of a whole tree. -/
theorem locate_of_whole (whole : t.whole = true) {spot : Spot} (leads : t.locate cwd p = .ok spot) :
    ∃ place, spot = .inside place := by
  have steps := ((locate_eq_ok_iff ..).1 leads).2
  rw [whole] at steps
  split at steps <;> exact steps_of_whole whole steps

/-! ## Making directories -/

theorem grows_cons_dirs (t : FileTree) (place : Location) :
    Grows t { t with dirs := place :: t.dirs } := by
  refine ⟨rfl, fun other dir => ?_⟩
  simp only [isDir, List.any_cons, Bool.or_eq_true] at dir ⊢
  exact dir.imp_left fun known => known.imp_right Or.inr

theorem makeDir_keeps (made : old.makeDir cwd p = .ok new) :
    Grows old new ∧ new.files = old.files := by
  rw [makeDir] at made
  split at made
  · cases made; exact ⟨.refl _, rfl⟩
  split at made
  · cases made
  split at made
  · cases made; exact ⟨grows_cons_dirs _ _, rfl⟩
  · cases made; exact ⟨.refl _, rfl⟩
  · cases made

/-- The directories that were made before one could not be stay, and nothing else changes. -/
theorem makeEach_keeps (t : FileTree) (cwd : Location) (paths : List Path) :
    Grows t (t.makeEach cwd paths).tree ∧ (t.makeEach cwd paths).tree.files = t.files := by
  induction paths generalizing t with
  | nil => exact ⟨.refl t, rfl⟩
  | cons path rest ih =>
      rw [makeEach]
      cases made : t.makeDir cwd path with
      | error e => exact ⟨.refl t, rfl⟩
      | ok next =>
          obtain ⟨grows, files⟩ := makeDir_keeps made
          obtain ⟨restGrows, restFiles⟩ := ih next
          exact ⟨grows.trans restGrows, restFiles.trans files⟩

theorem makeDirs_keeps (t : FileTree) (cwd : Location) (p : Path) :
    Grows t (t.makeDirs cwd p).tree ∧ (t.makeDirs cwd p).tree.files = t.files := by
  rw [makeDirs]
  split
  · exact ⟨.refl t, rfl⟩
  split
  · exact ⟨.refl t, rfl⟩
  · exact makeEach_keeps t cwd _

/-! ## Writing one file -/

theorem file?_setFile (t : FileTree) (place other : Location) (bytes : List UInt8) :
    FileTree.file? { t with files := setFile place bytes t.files } other =
      if other = place then some bytes else t.file? other := by
  obtain ⟨files, dirs, whole⟩ := t
  simp only [file?]
  induction files with
  | nil => by_cases same : other = place <;> simp [setFile, same, Ne.symm]
  | cons entry rest ih =>
      obtain ⟨location, content⟩ := entry
      rw [setFile]
      by_cases here : location = place
      · subst here
        by_cases same : other = location
        · simp [same]
        · simp [same, Ne.symm same]
      · by_cases found : location = other
        · subst found
          simp [here]
        · simpa [here, found] using ih

theorem mem_setFile_of_mem {files : List (Location × List UInt8)} {entry : Location × List UInt8}
    (mem : entry ∈ files) (place : Location) (bytes : List UInt8) :
    ∃ content, (entry.1, content) ∈ setFile place bytes files := by
  induction files with
  | nil => cases mem
  | cons head rest ih =>
      rw [setFile]
      split
      · next same =>
          rcases List.mem_cons.1 mem with rfl | mem
          · exact ⟨bytes, List.mem_cons_self⟩
          · exact ⟨entry.2, List.mem_cons_of_mem _ mem⟩
      · rcases List.mem_cons.1 mem with rfl | mem
        · exact ⟨_, List.mem_cons_self⟩
        · obtain ⟨content, found⟩ := ih mem
          exact ⟨content, List.mem_cons_of_mem _ found⟩

theorem grows_setFile (t : FileTree) (place : Location) (bytes : List UInt8) :
    Grows t { t with files := setFile place bytes t.files } := by
  refine ⟨rfl, fun other dir => ?_⟩
  simp only [isDir, Bool.or_eq_true, List.any_eq_true] at dir ⊢
  refine dir.imp_right ?_
  rintro ⟨entry, mem, below⟩
  obtain ⟨content, found⟩ := mem_setFile_of_mem mem place bytes
  exact ⟨_, found, below⟩

/-- What a path leads to in the new tree holds the bytes, and every other file is as it was in the
old one.  Of what lies outside a tree nothing is known. -/
inductive Stores (old new : FileTree) (cwd : Location) (p : Path) (bytes : List UInt8) : Prop
  | inside (place : Location) (leads : new.locate cwd p = .ok (.inside place))
      (holds : new.file? place = some bytes)
      (others : ∀ other, other ≠ place → new.file? other = old.file? other)
  | outside (leads : new.locate cwd p = .ok .outside) (files : new.files = old.files)

theorem write_stores (written : old.write cwd p bytes = .ok new) :
    Grows old new ∧ Stores old new cwd p bytes := by
  rw [write] at written
  split at written
  · cases written
  next noDir =>
  cases leads : old.locate cwd p with
  | error e => rw [leads] at written; cases written
  | ok spot =>
      rw [leads] at written
      cases spot with
      | inside place =>
          cases written
          have grows := grows_setFile old place bytes
          refine ⟨grows, .inside place (grows.locate leads) ?_ fun other apart => ?_⟩
          · rw [file?_setFile, if_pos rfl]
          · rw [file?_setFile, if_neg apart]
      | above levels => simp [dirExists, leads] at noDir
      | outside => cases written; exact ⟨.refl _, .outside leads rfl⟩

theorem Stores.of_files {before : FileTree} (stores : Stores old new cwd p bytes)
    (same : old.files = before.files) : Stores before new cwd p bytes := by
  have file (place : Location) : old.file? place = before.file? place := by rw [file?, same, file?]
  cases stores with
  | inside place leads holds others =>
      exact .inside place leads holds fun other apart => (others other apart).trans (file other)
  | outside leads files => exact .outside leads (files.trans same)

/-! ## Saving -/

theorem save_cases (t : FileTree) (cwd : Location) (p : Path) (bytes : List UInt8) :
    (∃ e, t.save cwd p bytes = ⟨(t.makeDirs cwd p.parent).tree, some e⟩) ∨
      ∃ new, (t.makeDirs cwd p.parent).tree.write cwd p bytes = .ok new ∧
        t.save cwd p bytes = ⟨new, none⟩ := by
  rw [save]
  rcases t.makeDirs cwd p.parent with ⟨made, failed | e⟩
  · cases written : made.write cwd p bytes with
    | error e => exact .inl ⟨e, by simp only [written]⟩
    | ok new => exact .inr ⟨new, rfl, by simp only [written]⟩
  · exact .inl ⟨e, rfl⟩

theorem save_grows (t : FileTree) (cwd : Location) (p : Path) (bytes : List UInt8) :
    Grows t (t.save cwd p bytes).tree := by
  have made := (makeDirs_keeps t cwd p.parent).1
  rcases save_cases t cwd p bytes with ⟨e, saved⟩ | ⟨new, written, saved⟩
  · rw [saved]
    exact made
  · rw [saved]
    exact made.trans (write_stores written).1

/-- **A save that fails leaves every file as it was**, however far it came. -/
theorem save_files_of_error {e : FileError} (failed : (t.save cwd p bytes).error = some e) :
    (t.save cwd p bytes).tree.files = t.files := by
  rcases save_cases t cwd p bytes with ⟨e, saved⟩ | ⟨new, written, saved⟩
  · rw [saved]
    exact (makeDirs_keeps t cwd p.parent).2
  · rw [saved] at failed
    cases failed

/-- **A save that succeeds changes the file its path leads to**, and no other. -/
theorem save_stores (saved : (t.save cwd p bytes).error = none) :
    Stores t (t.save cwd p bytes).tree cwd p bytes := by
  rcases save_cases t cwd p bytes with ⟨e, failed⟩ | ⟨new, written, done⟩
  · rw [failed] at saved
    cases saved
  · rw [done]
    exact (write_stores written).2.of_files (makeDirs_keeps t cwd p.parent).2

/-- What was stored inside a tree is read back. -/
theorem Stores.read (stores : Stores old new cwd p bytes)
    (known : new.locate cwd p ≠ .ok .outside) : new.read cwd p = .ok bytes := by
  cases stores with
  | inside place leads holds others => rw [FileTree.read, leads]; simp only [holds]
  | outside leads files => exact absurd leads known

end FieldTemplate.FileTree
