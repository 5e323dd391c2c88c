import FieldTemplate.Console.Markup
import FieldTemplate.Proofs.Console.Wrap
import FieldTemplate.Proofs.Result

/-!
# Texts that are legible as markup

A text with markup can be read exactly when its tags are paired: a closing tag closes an open one of
its style, or the latest one if it names none, and the handler of what it closes can be read
(`exists_read_iff`).  Tags may stay open, and those that are closed need not be nested.  If every
style can also be looked up, the text is legible.  A text without brackets always is
(`legible_of_not_mem`).
-/

namespace FieldTemplate.Markup

set_option autoImplicit false

/-! ## Tags in pairs -/

/-- A tag that names no handler, or one that can be read. -/
def Tag.Readable [Host] (t : Tag) : Prop :=
  ∀ name parameters, t = ⟨'@' :: name, some parameters⟩ → parameters ≠ [] →
    Console.isHandler parameters = true

/-- Every closing tag has an open one to close, and its handler can be read.  The open tags are
given latest first. -/
inductive Balanced [Host] : List Tag → List Part → Prop
  | done (others : List Tag) : Balanced others []
  | text {others : List Tag} {rest : List Part} (s : Text) :
      Balanced others rest → Balanced others (.text s :: rest)
  | opening {others : List Tag} {t : Tag} {s : Text} {rest : List Part} :
      markOf s = .ok (.opening t) → Balanced (t :: others) rest → Balanced others (.tag s :: rest)
  | closing {later earlier : List Tag} {t : Tag} {s : Text} {rest : List Part} :
      markOf s = .ok (.closing t.style) → (∀ u ∈ later, u.style ≠ t.style) → t.Readable →
      Balanced (later ++ earlier) rest → Balanced (later ++ t :: earlier) (.tag s :: rest)
  | closingLatest {others : List Tag} {t : Tag} {s : Text} {rest : List Part} :
      markOf s = .ok .closingLatest → t.Readable →
      Balanced others rest → Balanced (t :: others) (.tag s :: rest)

def Paired [Host] (s : Text) : Prop := Balanced [] (partsOf s)

/-- The tags are paired, and the styles can be looked up. -/
structure Legible [Host] (s : Text) : Prop where
  paired : Paired s
  resolved : ∀ s' t, .tag s' ∈ partsOf s → markOf s' = .ok (.opening t) → t.resolves = true

section

variable [Host]

theorem Tag.closes_eq_ok_iff {t : Tag} : t.closes = .ok () ↔ t.Readable := by
  rw [Tag.closes]
  split
  · next name parameters style given =>
    obtain rfl : t = ⟨'@' :: name, some parameters⟩ := by cases t; simp_all
    cases parameters with
    | nil => simp [Readable]
    | cons c rest => by_cases handler : Console.isHandler (c :: rest) <;> simp [Readable, handler]
  · next other =>
    simp only [Readable, true_iff]
    rintro name parameters rfl
    exact absurd rfl (other name parameters rfl)

theorem close_eq_ok_iff {style : Text} {stack others : List Opened} {t : Opened} :
    close style stack = .ok (t, others) ↔ ∃ later earlier, stack = later ++ t :: earlier ∧
      t.tag.style = style ∧ (∀ u ∈ later, u.tag.style ≠ style) ∧ t.tag.Readable ∧
      others = later ++ earlier := by
  induction stack generalizing others with
  | nil => simp [close]
  | cons u rest ih =>
      rw [close]
      by_cases same : u.tag.style = style
      · rw [if_pos same, except_map_eq_ok_iff]
        constructor
        · rintro ⟨⟨⟩, closed, found⟩
          cases found
          exact ⟨[], rest, rfl, same, nofun, Tag.closes_eq_ok_iff.1 closed, rfl⟩
        · rintro ⟨later, earlier, split, -, apart, readable, rfl⟩
          cases later with
          | nil =>
              cases split
              exact ⟨(), Tag.closes_eq_ok_iff.2 readable, rfl⟩
          | cons v later =>
              cases split
              exact absurd same (apart _ List.mem_cons_self)
      · rw [if_neg same, except_map_eq_ok_iff]
        constructor
        · rintro ⟨⟨t', others'⟩, closed, found⟩
          cases found
          obtain ⟨later, earlier, rfl, style', apart, readable, rfl⟩ := ih.1 closed
          exact ⟨u :: later, earlier, rfl, style', List.forall_mem_cons.2 ⟨same, apart⟩, readable,
            rfl⟩
        · rintro ⟨later, earlier, split, style', apart, readable, rfl⟩
          cases later with
          | nil =>
              cases split
              exact absurd style' same
          | cons v later =>
              cases split
              exact ⟨(t, later ++ earlier), ih.2 ⟨later, earlier, rfl, style',
                (List.forall_mem_cons.1 apart).2, readable, rfl⟩, rfl⟩

theorem closeLatest_eq_ok_iff {stack others : List Opened} {t : Opened} :
    closeLatest stack = .ok (t, others) ↔ stack = t :: others ∧ t.tag.Readable := by
  cases stack with
  | nil => simp [closeLatest]
  | cons u rest =>
      rw [closeLatest, except_map_eq_ok_iff]
      constructor
      · rintro ⟨⟨⟩, closed, found⟩
        cases found
        exact ⟨rfl, Tag.closes_eq_ok_iff.1 closed⟩
      · rintro ⟨same, readable⟩
        cases same
        exact ⟨(), Tag.closes_eq_ok_iff.2 readable, rfl⟩

/-! ## What can be read -/

/-- A closing tag can be read with what is behind it. -/
theorem exists_closing_iff {x : Except MarkupError (Opened × List Opened)} {position : Nat}
    {rest : List Part} :
    (∃ shown, (x.bind fun (t, stack) =>
      (readParts stack position rest).map (Shown.closing t position)) = .ok shown) ↔
      ∃ t stack, x = .ok (t, stack) ∧ ∃ shown, readParts stack position rest = .ok shown := by
  simp only [except_bind_eq_ok_iff, except_map_eq_ok_iff]
  constructor
  · rintro ⟨_, ⟨t, stack⟩, closed, shown, done, -⟩
    exact ⟨t, stack, closed, shown, done⟩
  · rintro ⟨t, stack, closed, shown, done⟩
    exact ⟨_, (t, stack), closed, shown, done, rfl⟩

theorem Balanced.of_text {others : List Tag} {s : Text} {rest : List Part}
    (balanced : Balanced others (.text s :: rest)) : Balanced others rest := by
  generalize whole : Part.text s :: rest = ps at balanced
  cases balanced with
  | text _ balanced =>
      cases whole
      exact balanced
  | _ => cases whole

/-- A tag is balanced as what it is for. -/
theorem Balanced.of_tag {others : List Tag} {s : Text} {rest : List Part}
    (balanced : Balanced others (.tag s :: rest)) :
    (∃ t, markOf s = .ok (.opening t) ∧ Balanced (t :: others) rest) ∨
    (∃ later t earlier, others = later ++ t :: earlier ∧ markOf s = .ok (.closing t.style) ∧
      (∀ u ∈ later, u.style ≠ t.style) ∧ t.Readable ∧ Balanced (later ++ earlier) rest) ∨
    ∃ t earlier, others = t :: earlier ∧ markOf s = .ok .closingLatest ∧ t.Readable ∧
      Balanced earlier rest := by
  generalize whole : Part.tag s :: rest = ps at balanced
  cases balanced with
  | opening mark balanced =>
      cases whole
      exact .inl ⟨_, mark, balanced⟩
  | closing mark apart readable balanced =>
      cases whole
      exact .inr (.inl ⟨_, _, _, rfl, mark, apart, readable, balanced⟩)
  | closingLatest mark readable balanced =>
      cases whole
      exact .inr (.inr ⟨_, _, rfl, mark, readable, balanced⟩)
  | _ => cases whole

/-- **The parts can be read when their tags are balanced**, behind any open tags. -/
theorem exists_readParts_iff {ps : List Part} {stack : List Opened} {position : Nat} :
    (∃ shown, readParts stack position ps = .ok shown) ↔ Balanced (stack.map Opened.tag) ps := by
  induction ps generalizing stack position with
  | nil => simp [readParts, Balanced.done]
  | cons p rest ih =>
      cases p with
      | text s =>
          simp only [readParts, except_map_eq_ok_iff]
          constructor
          · rintro ⟨_, shown, done, -⟩
            exact .text s (ih.1 ⟨shown, done⟩)
          · intro balanced
            obtain ⟨shown, done⟩ := ih.2 balanced.of_text
            exact ⟨_, shown, done, rfl⟩
      | tag s =>
          rw [readParts]
          constructor
          · rintro ⟨shown, done⟩
            obtain ⟨m, mark, done⟩ := except_bind_eq_ok_iff.1 done
            cases m with
            | opening t => exact .opening mark (ih.1 ⟨shown, done⟩)
            | closing style =>
                obtain ⟨t, others, closed, read⟩ := exists_closing_iff.1 ⟨shown, done⟩
                obtain ⟨later, earlier, rfl, rfl, apart, readable, rfl⟩ := close_eq_ok_iff.1 closed
                have balanced := ih.1 read
                rw [List.map_append] at balanced
                rw [List.map_append, List.map_cons]
                exact .closing mark (List.forall_mem_map.2 apart) readable balanced
            | closingLatest =>
                obtain ⟨t, others, closed, read⟩ := exists_closing_iff.1 ⟨shown, done⟩
                obtain ⟨rfl, readable⟩ := closeLatest_eq_ok_iff.1 closed
                exact .closingLatest mark readable (ih.1 read)
          · intro balanced
            rcases balanced.of_tag with ⟨t, mark, balanced⟩ |
              ⟨later, t, earlier, split, mark, apart, readable, balanced⟩ |
              ⟨t, earlier, split, mark, readable, balanced⟩
            · rw [mark]
              exact ih.2 balanced
            · obtain ⟨later, others, rfl, rfl, found⟩ := List.map_eq_append_iff.1 split
              obtain ⟨t, earlier, rfl, rfl, rfl⟩ := List.map_eq_cons_iff.1 found
              rw [← List.map_append] at balanced
              have closed := close_eq_ok_iff.2 ⟨later, earlier, rfl, rfl,
                fun u member => apart u.tag (List.mem_map_of_mem member), readable, rfl⟩
              rw [mark]
              exact exists_closing_iff.2 ⟨t, _, closed, ih.2 balanced⟩
            · obtain ⟨t, earlier, rfl, rfl, rfl⟩ := List.map_eq_cons_iff.1 split
              rw [mark]
              exact exists_closing_iff.2
                ⟨t, earlier, closeLatest_eq_ok_iff.2 ⟨rfl, readable⟩, ih.2 balanced⟩

/-- **A text can be read when its tags are paired.** -/
theorem exists_read_iff {s : Text} : (∃ shown, read s = .ok shown) ↔ Paired s :=
  exists_readParts_iff

end

/-! ## What has to be looked up -/

/-- No style that cannot be looked up. -/
structure Shown.Clean (s : Shown) : Prop where
  glyphs : Console.Line.Clean s.glyphs
  bare : s.bare = []

theorem Opened.bare_of_resolves {t : Opened} (resolves : t.tag.resolves = true) (position : Nat) :
    t.bare position = [] := by
  simp [Opened.bare, resolves]

theorem Shown.Clean.closing {shown : Shown} (clean : shown.Clean) {t : Opened}
    (resolves : t.tag.resolves = true) (position : Nat) : (shown.closing t position).Clean := by
  refine ⟨clean.glyphs, ?_⟩
  rw [Shown.closing, Opened.bare_of_resolves resolves, clean.bare]
  rfl

theorem Shown.Clean.behind {shown : Shown} (clean : shown.Clean) {stack : List Opened}
    (resolved : ∀ t ∈ stack, t.tag.resolves = true) (s : Text) :
    (shown.behind s stack).Clean := by
  refine ⟨fun g member => ?_, clean.bare⟩
  rcases List.mem_append.1 member with front | rest
  · obtain ⟨c, -, rfl⟩ := List.mem_map.1 front
    simpa using resolved
  · exact clean.glyphs g rest

/-- **Nothing has to be looked up that cannot be** if all tags that are opened can. -/
theorem clean_of_readParts [Host] {ps : List Part} {stack : List Opened} {position : Nat}
    {shown : Shown}
    (resolved : ∀ s t, .tag s ∈ ps → markOf s = .ok (.opening t) → t.resolves = true)
    (before : ∀ t ∈ stack, t.tag.resolves = true)
    (done : readParts stack position ps = .ok shown) : shown.Clean := by
  induction ps generalizing stack position shown with
  | nil =>
      cases done
      refine ⟨nofun, List.flatMap_eq_nil_iff.2 fun t member => ?_⟩
      exact Opened.bare_of_resolves (before t member) position
  | cons p rest ih =>
      have later : ∀ s t, .tag s ∈ rest → markOf s = .ok (.opening t) → t.resolves = true :=
        fun s t member => resolved s t (List.mem_cons_of_mem _ member)
      cases p with
      | text s =>
          rw [readParts] at done
          obtain ⟨others, read, rfl⟩ := except_map_eq_ok_iff.1 done
          exact (ih later before read).behind before _
      | tag s =>
          rw [readParts] at done
          obtain ⟨m, mark, done⟩ := except_bind_eq_ok_iff.1 done
          cases m with
          | opening t =>
              exact ih later
                (List.forall_mem_cons.2 ⟨resolved s t List.mem_cons_self mark, before⟩) done
          | closing style =>
              obtain ⟨⟨t, others⟩, closed, rest⟩ := except_bind_eq_ok_iff.1 done
              obtain ⟨others', read, rfl⟩ := except_map_eq_ok_iff.1 rest
              obtain ⟨front, behind, rfl, -, -, -, rfl⟩ := close_eq_ok_iff.1 closed
              obtain ⟨first, resolves, last⟩ := by
                simpa only [List.forall_mem_append, List.forall_mem_cons] using before
              exact (ih later (List.forall_mem_append.2 ⟨first, last⟩) read).closing resolves _
          | closingLatest =>
              obtain ⟨⟨t, others⟩, closed, rest⟩ := except_bind_eq_ok_iff.1 done
              obtain ⟨others', read, rfl⟩ := except_map_eq_ok_iff.1 rest
              obtain ⟨rfl, -⟩ := closeLatest_eq_ok_iff.1 closed
              obtain ⟨resolves, last⟩ := List.forall_mem_cons.1 before
              exact (ih later last read).closing resolves _

theorem Legible.clean [Host] {s : Text} (legible : Legible s) {shown : Shown}
    (done : read s = .ok shown) : shown.Clean :=
  clean_of_readParts legible.resolved (by simp) done

/-! ## Texts without brackets -/

theorem text_of_mem_textPart {p : Part} {s : Text} (member : p ∈ textPart s) : p = .text s := by
  rw [textPart] at member
  split at member
  · cases member
  · exact List.mem_singleton.1 member

/-- A text without brackets has no tags. -/
theorem exists_text_of_mem_parts {fuel slashes : Nat} {before s : Text} {p : Part}
    (absent : '[' ∉ s) (member : p ∈ parts fuel before slashes s) : ∃ s', p = .text s' := by
  induction fuel, before, slashes, s using parts.induct with
  | case1 => cases member
  | case2 => exact ⟨_, text_of_mem_textPart member⟩
  | case3 fuel before slashes rest ih =>
      rw [parts] at member
      exact ih (fun found => absent (List.mem_cons_of_mem _ found)) member
  | case4 => exact absurd List.mem_cons_self absent
  | case5 => exact absurd List.mem_cons_self absent
  | case6 fuel before slashes c rest escape bracket ih =>
      rw [parts.eq_5 _ _ _ _ _ escape bracket] at member
      exact ih (fun found => absent (List.mem_cons_of_mem _ found)) member

theorem balanced_of_texts [Host] {ps : List Part} (texts : ∀ p ∈ ps, ∃ s, p = .text s) :
    Balanced [] ps := by
  induction ps with
  | nil => exact .done []
  | cons p rest ih =>
      obtain ⟨⟨s, rfl⟩, others⟩ := List.forall_mem_cons.1 texts
      exact .text s (ih others)

/-- **A text without brackets is legible.** -/
theorem legible_of_not_mem [Host] {s : Text} (absent : '[' ∉ s) : Legible s := by
  have texts : ∀ p ∈ partsOf s, ∃ s', p = .text s' := fun p => exists_text_of_mem_parts absent
  refine ⟨balanced_of_texts texts, fun s' t member _ => ?_⟩
  obtain ⟨_, text⟩ := texts _ member
  cases text

end FieldTemplate.Markup
