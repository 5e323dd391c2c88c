import FieldTemplate.Console.Wrap
import Mathlib.Data.List.Basic

/-!
# Styles of broken lines

Breaking a line puts nothing into a style that cannot be looked up, so a line that needs no such
style is broken into lines that need none (`Line.Clean.wrap`).
-/

namespace FieldTemplate.Console

set_option autoImplicit false

/-- No style that cannot be looked up. -/
def Line.Clean (line : Line) : Prop := ∀ g ∈ line, g.faulty = false

namespace Line.Clean

variable {line word : Line}

theorem mono (clean : line.Clean) (part : word ⊆ line) : word.Clean :=
  fun g member => clean g (part member)

theorem nil : Line.Clean [] := nofun

theorem cons {g : Glyph} (first : g.faulty = false) (clean : line.Clean) :
    Line.Clean (g :: line) := List.forall_mem_cons.2 ⟨first, clean⟩

theorem append (clean : line.Clean) (clean' : word.Clean) : Line.Clean (line ++ word) :=
  List.forall_mem_append.2 ⟨clean, clean'⟩

theorem reverse (clean : line.Clean) : Line.Clean line.reverse :=
  clean.mono (List.reverse_subset.2 (List.Subset.refl _))

theorem ofText (s : Text) : (Line.ofText s).Clean := by
  intro g member
  obtain ⟨c, -, rfl⟩ := List.mem_map.1 member
  rfl

theorem trimRight (clean : line.Clean) : (Line.trimRight line).Clean :=
  (clean.reverse.mono (List.dropWhile_subset _)).reverse

/-- The parts of a line, and what stands between them. -/
theorem cutAll {d : Char} (clean : line.Clean) :
    (∀ part ∈ (line.cutAll d).1, Line.Clean part.1 ∧ part.2.faulty = false) ∧
      (line.cutAll d).2.Clean := by
  induction line with
  | nil => exact ⟨nofun, nil⟩
  | cons g rest ih =>
      obtain ⟨first, clean⟩ := List.forall_mem_cons.1 clean
      obtain ⟨parts, last⟩ := ih clean
      rw [Line.cutAll]
      dsimp only
      split
      · exact ⟨List.forall_mem_cons.2 ⟨⟨nil, first⟩, parts⟩, last⟩
      · split
        · next found =>
          rw [found] at parts
          obtain ⟨⟨part, mark⟩, others⟩ := List.forall_mem_cons.1 parts
          exact ⟨List.forall_mem_cons.2 ⟨⟨part.cons first, mark⟩, others⟩, last⟩
        · exact ⟨nofun, last.cons first⟩

theorem expandTabs {parts : List (Line × Glyph)} {column : Nat}
    (clean : ∀ part ∈ parts, Line.Clean part.1 ∧ part.2.faulty = false) :
    Line.Clean (Console.expandTabs column parts) := by
  induction parts generalizing column with
  | nil => exact nil
  | cons part rest ih =>
      obtain ⟨⟨before, tab⟩, others⟩ := List.forall_mem_cons.1 clean
      have blank : (⟨' ', part.2.faulty⟩ : Glyph).faulty = false := tab
      refine ((before.append (nil.cons blank)).append fun g member => ?_).append (ih others)
      rw [List.eq_of_mem_replicate member]
      exact blank

theorem withoutTabs (clean : line.Clean) : (Console.withoutTabs line).Clean :=
  (expandTabs clean.cutAll.1).append clean.cutAll.2

theorem wordsOf {fuel : Nat} (clean : line.Clean) :
    ∀ word ∈ Console.wordsOf fuel line, Line.Clean word := by
  induction fuel generalizing line with
  | zero => exact nofun
  | succ fuel ih =>
      rw [Console.wordsOf]
      dsimp only
      split
      · exact nofun
      · have rest (n : Nat) : Line.Clean (line.drop n) := clean.mono (List.drop_subset _ _)
        refine List.forall_mem_cons.2 ⟨?_, ih (rest _)⟩
        exact ((clean.mono (List.takeWhile_subset _)).append
          ((rest _).mono (List.takeWhile_subset _))).append
            ((rest _).mono (List.takeWhile_subset _))

theorem foldWord {width : Nat} {part : Line} (front : part.Clean) (clean : word.Clean) :
    ∀ piece ∈ Console.foldWord width part word, Line.Clean piece := by
  induction word generalizing part with
  | nil =>
      rw [Console.foldWord]
      split
      · exact nofun
      · exact List.forall_mem_singleton.2 front.reverse
  | cons g rest ih =>
      obtain ⟨first, clean⟩ := List.forall_mem_cons.1 clean
      rw [Console.foldWord]
      split
      · exact List.forall_mem_cons.2 ⟨front.reverse, ih (nil.cons first) clean⟩
      · exact ih (front.cons first) clean

theorem fillLines {width : Nat} {folds : Bool} {words : List Line} (front : line.Clean)
    (clean : ∀ word ∈ words, Line.Clean word) :
    ∀ line' ∈ Console.fillLines width folds line words, Line.Clean line' := by
  induction words generalizing line with
  | nil => exact List.forall_mem_singleton.2 front
  | cons word rest ih =>
      obtain ⟨first, clean⟩ := List.forall_mem_cons.1 clean
      have before : ∀ line' ∈ (if line.isEmpty then [] else [line]), Line.Clean line' := by
        split
        · exact nofun
        · exact List.forall_mem_singleton.2 front
      rw [Console.fillLines]
      dsimp only
      split
      · exact ih (front.append first) clean
      · split
        · exact List.forall_mem_append.2 ⟨before, ih first clean⟩
        · have parts : ∀ part ∈ (if folds then Console.foldWord width [] word else [word]),
              Line.Clean part := by
            split
            · exact foldWord nil first
            · exact List.forall_mem_singleton.2 first
          refine List.forall_mem_append.2 ⟨List.forall_mem_append.2 ⟨before, ?_⟩, ih ?_ clean⟩
          · exact fun part member => parts part (List.dropLast_subset _ member)
          · rw [List.getLastD_eq_getLast?]
            cases last : (if folds then Console.foldWord width [] word else [word]).getLast? with
            | none => exact nil
            | some part => exact parts part (List.mem_of_getLast? last)

theorem clip {width : Nat} {folds : Bool} {wide : Line} (clean : wide.Clean) :
    (Console.clip width folds wide).Clean := by
  rw [Console.clip]
  split
  · exact clean
  · intro g member
    obtain ⟨⟨c, i⟩, -, rfl⟩ := List.mem_map.1 member
    change (wide[i]?.map Glyph.faulty).getD false = false
    cases found : wide[i]? with
    | none => rfl
    | some g => exact clean g (List.mem_of_getElem? found)

theorem breakLine {width : Nat} {folds : Bool} (clean : line.Clean) :
    ∀ line' ∈ Console.breakLine width folds line, Line.Clean line' := by
  have whole := clean.withoutTabs
  rw [Console.breakLine]
  refine List.forall_mem_map.2 fun part member => ?_
  have part : part.Clean := by
    split at member
    · rwa [List.mem_singleton.1 member]
    · exact fillLines nil whole.wordsOf part member
  exact (part.mono (List.take_subset _ _)).clip

/-- **Lines are broken into lines without new styles.** -/
theorem wrap {width : Nat} {folds : Bool} (clean : line.Clean) :
    ∀ line' ∈ Console.wrap width folds line, Line.Clean line' := by
  rw [Console.wrap]
  intro line' member
  obtain ⟨part, listed, member⟩ := List.mem_flatMap.1 member
  have partClean : part.Clean := by
    rcases List.mem_append.1 listed with inner | last
    · obtain ⟨marked, before, rfl⟩ := List.mem_map.1 inner
      exact (clean.cutAll.1 marked before).1
    · rw [List.mem_singleton.1 last]
      exact clean.cutAll.2
  exact partClean.breakLine line' member

end Line.Clean

end FieldTemplate.Console
