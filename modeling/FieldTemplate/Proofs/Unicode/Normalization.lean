import FieldTemplate.Proofs.Unicode.Decomposition

/-!
# Normal forms around ASCII characters

An ASCII character attaches to nothing, and nothing but a nonspacing mark attaches to it
(`attaches_to_ascii`).  So the normal forms of a text are those of the texts between its ASCII
characters with these in their places (`Text.decomposed_append_cons`, `Text.composed_append_cons`).
Of plain characters they consist of plain characters (`Text.plain_decomposed`,
`Text.plain_composed`).
-/

namespace FieldTemplate

set_option autoImplicit false

namespace Unicode

variable {n m base : Nat} {ns ms apart : List Nat}

/-! ## The tables -/

/-- The composite of a row and what it is made of. -/
structure SoundComposite (c a b : Nat) : Prop where
  valid : c.isValidChar
  large : 0x80 ≤ c
  whole : (bits punctuated).testBit c = true → a < 0x80 ∧ (Char.ofNat a).isAlphanum = false
  mark : 0x80 ≤ b
  attaching : a < 0x80 → 0x300 ≤ b ∧ b < 0x370

instance (c a b : Nat) : Decidable (SoundComposite c a b) :=
  decidable_of_iff (c.isValidChar ∧ 0x80 ≤ c ∧
      ((bits punctuated).testBit c = true → a < 0x80 ∧ (Char.ofNat a).isAlphanum = false) ∧
      0x80 ≤ b ∧ (a < 0x80 → 0x300 ≤ b ∧ b < 0x370))
    ⟨fun ⟨valid, large, whole, mark, attaching⟩ => ⟨valid, large, whole, mark, attaching⟩,
      fun ⟨valid, large, whole, mark, attaching⟩ => ⟨valid, large, whole, mark, attaching⟩⟩

theorem soundComposite_of_mem : ∀ row ∈ composites, SoundComposite row.1 row.2.1 row.2.2 := by
  decide +kernel

theorem le_of_mem_combiningRuns : ∀ run ∈ combiningRuns, 0x80 ≤ run.1 := by
  decide +kernel

theorem combiningClass_of_ascii (ascii : n < 0x80) : combiningClass n = 0 := by
  rw [combiningClass]
  split
  · next first last k found =>
    have lower := le_of_mem_combiningRuns _ (List.mem_of_find?_eq_some found)
    have holds := List.find?_some found
    simp only [Bool.and_eq_true, decide_eq_true_eq] at holds lower
    omega
  · rfl

theorem not_nonspacing_of_ascii {c : Char} (ascii : c.toNat < 0x80) :
    nonspacingMarks.has c = false := by
  rw [CodeSet.has, nonspacingMarks, CodeSet.covers, if_pos (by omega)]

theorem nonspacing_of_range {c : Char} (lower : 0x300 ≤ c.toNat) (upper : c.toNat < 0x370) :
    nonspacingMarks.has c = true := by
  rw [CodeSet.has, nonspacingMarks, CodeSet.covers, if_neg (by omega), CodeSet.covers, if_pos upper]
  rfl

theorem mem_composites {c a b : Nat} (found : tableComposite a b = some c) :
    (c, a, b) ∈ composites := by
  obtain ⟨⟨c, x, y⟩, row, rfl⟩ := Option.map_eq_some_iff.1 found
  have holds := List.find?_some row
  simp only [Bool.and_eq_true, beq_iff_eq] at holds
  obtain ⟨rfl, rfl⟩ := holds
  exact List.mem_of_find?_eq_some row

/-- What composes is a Hangul syllable or a row of the table. -/
theorem composite_cases {c a b : Nat} (joined : composite a b = some c) :
    (0x1100 ≤ a ∧ 0x1100 ≤ b ∧ 0xAC00 ≤ c ∧ c < 0xD7A4) ∨ SoundComposite c a b := by
  rw [composite, Option.or_eq_some_iff] at joined
  rcases joined with hangul | ⟨-, row⟩
  · left
    unfold composeHangul at hangul
    split at hangul
    · next inside =>
      simp only [leadFirst, vowelFirst, hangulFirst, leadCount, vowelCount, tailCount,
        Option.some.injEq] at inside hangul
      omega
    split at hangul
    · next inside =>
      simp only [tailBase, hangulFirst, hangulCount, leadCount, vowelCount, tailCount,
        Option.some.injEq] at inside hangul
      omega
    · cases hangul
  · exact .inr (soundComposite_of_mem _ (mem_composites row))

/-- An ASCII character attaches to nothing. -/
theorem composite_ascii {a b : Nat} (ascii : b < 0x80) : composite a b = none := by
  cases joined : composite a b with
  | none => rfl
  | some c =>
      rcases composite_cases joined with ⟨-, letter, -⟩ | row
      · omega
      · have := row.mark
        omega

/-- **Only nonspacing marks attach to an ASCII character.** -/
theorem attaches_to_ascii {a : Nat} (ascii : a < 0x80) {d : Char}
    (spacing : nonspacingMarks.has d = false) : composite a d.toNat = none := by
  cases joined : composite a d.toNat with
  | none => rfl
  | some c =>
      rcases composite_cases joined with ⟨letter, -⟩ | row
      · omega
      · obtain ⟨lower, upper⟩ := row.attaching ascii
        rw [nonspacing_of_range lower upper] at spacing
        cases spacing

/-! ## The order of marks -/

theorem settle_starter (starter : combiningClass n = 0) (ns : List Nat) :
    settle n ns = n :: ns := by
  cases ns with
  | nil => rfl
  | cons m rest =>
      rw [settle, starter, if_neg]
      exact fun ⟨_, lower⟩ => Nat.not_lt_zero _ lower

theorem settle_append_starter (starter : combiningClass m = 0) (n : Nat) (ns ms : List Nat) :
    settle n (ns ++ m :: ms) = settle n ns ++ m :: ms := by
  induction ns with
  | nil =>
      rw [settle, List.nil_append, settle, if_neg]
      · rfl
      · exact fun ⟨mark, _⟩ => mark starter
  | cons first rest ih =>
      rw [List.cons_append, settle, settle, ih]
      split <;> rfl

/-- Marks do not pass a character that starts a sequence. -/
theorem sortMarks_append_starter (starter : combiningClass m = 0) (ns ms : List Nat) :
    sortMarks (ns ++ m :: ms) = sortMarks ns ++ m :: sortMarks ms := by
  induction ns with
  | nil => exact settle_starter starter (sortMarks ms)
  | cons first rest ih =>
      rw [List.cons_append, sortMarks, ih, settle_append_starter starter]
      rfl

theorem settle_perm (n : Nat) (ns : List Nat) : (settle n ns).Perm (n :: ns) := by
  induction ns with
  | nil => exact .refl _
  | cons m rest ih =>
      rw [settle]
      split
      · exact (ih.cons m).trans (.swap n m rest)
      · exact .refl _

theorem sortMarks_perm (ns : List Nat) : (sortMarks ns).Perm ns := by
  induction ns with
  | nil => exact .refl _
  | cons n rest ih => exact (settle_perm n (sortMarks rest)).trans (ih.cons n)

/-! ## Composition -/

/-- What a base becomes by the next character, if nothing that stayed apart blocks it. -/
def joinedTo (base : Nat) (apart : List Nat) (n : Nat) : Option Nat :=
  if (match apart with
    | [] => true
    | m :: _ => combiningClass m < combiningClass n) then composite base n else none

theorem composeFrom_cons (base : Nat) (apart : List Nat) (n : Nat) (rest : List Nat) :
    composeFrom base apart (n :: rest) =
      match joinedTo base apart n with
      | some joined => composeFrom joined apart rest
      | none =>
        if combiningClass n = 0 then base :: apart.reverse ++ composeFrom n [] rest
        else composeFrom base (n :: apart) rest := by
  rw [composeFrom.eq_def]
  rfl

theorem composite_of_joinedTo {joined : Nat} (found : joinedTo base apart n = some joined) :
    composite base n = some joined :=
  (Option.ite_none_right_eq_some.1 found).2

theorem joinedTo_eq_none (alone : composite base n = none) (apart : List Nat) :
    joinedTo base apart n = none := by
  unfold joinedTo
  rw [alone, ite_self]

/-- An ASCII character ends what is composed in front of it. -/
theorem composeFrom_append_ascii (ascii : m < 0x80) (base : Nat) (apart ns ms : List Nat) :
    composeFrom base apart (ns ++ m :: ms) = composeFrom base apart ns ++ composeFrom m [] ms := by
  -- base and apart change along the way; the character itself meets whatever they have become
  induction ns generalizing base apart with
  | nil =>
      rw [List.nil_append, composeFrom_cons, joinedTo_eq_none (composite_ascii ascii)]
      exact if_pos (combiningClass_of_ascii ascii)
  | cons n rest ih =>
      rw [List.cons_append, composeFrom_cons, composeFrom_cons]
      cases joinedTo base apart n with
      | some joined => exact ih joined apart
      | none =>
          dsimp only
          rw [ih, ih]
          split
          · exact (List.append_assoc ..).symm
          · rfl

theorem composeMarks_append_ascii (ascii : m < 0x80) (ns ms : List Nat) :
    composeMarks (ns ++ m :: ms) = composeMarks ns ++ composeFrom m [] ms := by
  induction ns with
  | nil => exact if_pos (combiningClass_of_ascii ascii)
  | cons n rest ih =>
      rw [List.cons_append, composeMarks, composeMarks, ih, composeFrom_append_ascii ascii]
      split <;> rfl

/-- A base that nothing attaches to stays as it is. -/
theorem composeFrom_of_alone (alone : ∀ n ∈ ns, composite base n = none) (apart : List Nat) :
    composeFrom base apart ns = base :: apart.reverse ++ composeMarks ns := by
  induction ns generalizing apart with
  | nil => rw [composeFrom, composeMarks, List.append_nil]
  | cons n rest ih =>
      obtain ⟨here, behind⟩ := List.forall_mem_cons.1 alone
      rw [composeFrom_cons, joinedTo_eq_none here, composeMarks]
      dsimp only
      split
      · rfl
      · rw [ih behind, List.reverse_cons, List.cons_append, List.cons_append, List.append_assoc]
        rfl

/-- What is closed under composition holds of all that is composed. -/
theorem forall_mem_composeFrom {P : Nat → Prop}
    (closed : ∀ {a b c}, P a → P b → composite a b = some c → P c) (start : P base)
    (others : ∀ n ∈ apart, P n) (behind : ∀ n ∈ ns, P n) :
    ∀ n ∈ composeFrom base apart ns, P n := by
  induction ns generalizing base apart with
  | nil =>
      rw [composeFrom]
      exact List.forall_mem_cons.2 ⟨start, fun n member => others n (List.mem_reverse.1 member)⟩
  | cons n rest ih =>
      obtain ⟨here, tail⟩ := List.forall_mem_cons.1 behind
      rw [composeFrom_cons]
      -- the next character joins the base, takes its place, or stays apart from it
      split
      · next joined => exact ih (closed start here (composite_of_joinedTo joined)) others tail
      split
      · refine List.forall_mem_cons.2 ⟨start, List.forall_mem_append.2 ⟨?_, ?_⟩⟩
        · exact fun n member => others n (List.mem_reverse.1 member)
        · exact ih here (List.forall_mem_nil _) tail
      · exact ih start (List.forall_mem_cons.2 ⟨here, others⟩) tail

theorem forall_mem_composeMarks {P : Nat → Prop}
    (closed : ∀ {a b c}, P a → P b → composite a b = some c → P c) (all : ∀ n ∈ ns, P n) :
    ∀ n ∈ composeMarks ns, P n := by
  induction ns with
  | nil => exact all
  | cons n rest ih =>
      obtain ⟨here, behind⟩ := List.forall_mem_cons.1 all
      rw [composeMarks]
      split
      · exact forall_mem_composeFrom closed here (List.forall_mem_nil _) behind
      · exact List.forall_mem_cons.2 ⟨here, ih behind⟩

/-- A composite of plain characters is plain. -/
theorem Plain.composite {a b c : Nat} (plain : Plain a) (joined : composite a b = some c) :
    Plain c ∧ c.isValidChar := by
  rcases composite_cases joined with ⟨-, -, lower, upper⟩ | row
  · refine ⟨⟨fun ascii => absurd ascii (by omega), ?_⟩, .inl (by omega)⟩
    simp only [punctuated, List.mem_cons, List.not_mem_nil, or_false]
    omega
  · refine ⟨⟨fun ascii => absurd row.large (by omega), fun member => ?_⟩, row.valid⟩
    obtain ⟨ascii, foreign⟩ := row.whole ((testBit_bits punctuated c).2 member)
    rw [plain.word ascii] at foreign
    cases foreign

theorem toNat_ofNat (valid : n.isValidChar) : (Char.ofNat n).toNat = n := by
  rw [Char.ofNat, dif_pos valid]
  rfl

end Unicode

/-! ## Texts -/

namespace Text

open Unicode

variable {s t : Text} {c : Char}

/-- The code points that a text decomposes into, marks in the order of the text. -/
def parts (s : Text) : List Nat := s.flatMap fun c => decompose c.toNat

theorem parts_append_cons (ascii : c.toNat < 0x80) (s t : Text) :
    parts (s ++ c :: t) = parts s ++ c.toNat :: parts t := by
  rw [parts, List.flatMap_append, List.flatMap_cons, decompose_of_ascii ascii]
  rfl

theorem isValidChar_of_mem_parts {n : Nat} (member : n ∈ parts s) : n.isValidChar := by
  obtain ⟨c, -, part⟩ := List.mem_flatMap.1 member
  exact isValidChar_of_mem_decompose c.valid part

/-- The characters of a decomposed text are parts of the characters of the text. -/
theorem exists_of_mem_decomposed (member : c ∈ s.decomposed) :
    ∃ d ∈ s, c.toNat ∈ decompose d.toNat := by
  obtain ⟨n, sorted, rfl⟩ := List.mem_map.1 member
  have part : n ∈ parts s := (sortMarks_perm _).mem_iff.1 sorted
  rw [toNat_ofNat (isValidChar_of_mem_parts part)]
  exact List.mem_flatMap.1 part

/-- **A decomposed text is decomposed completely.** -/
theorem decompose_of_mem_decomposed (member : c ∈ s.decomposed) :
    decompose c.toNat = [c.toNat] := by
  obtain ⟨d, -, part⟩ := exists_of_mem_decomposed member
  exact decompose_of_mem_decompose part

/-- **Decomposition goes from one ASCII character to the next.** -/
theorem decomposed_append_cons (ascii : c.toNat < 0x80) (s t : Text) :
    (s ++ c :: t).decomposed = s.decomposed ++ c :: t.decomposed := by
  have split := parts_append_cons ascii s t
  unfold parts at split
  rw [decomposed, split, sortMarks_append_starter (combiningClass_of_ascii ascii), List.map_append,
    List.map_cons, Char.ofNat_toNat]
  rfl

theorem parts_of_complete (complete : ∀ c ∈ s, decompose c.toNat = [c.toNat]) :
    parts s = s.map Char.toNat := by
  induction s with
  | nil => rfl
  | cons c rest ih =>
      obtain ⟨here, behind⟩ := List.forall_mem_cons.1 complete
      rw [parts, List.flatMap_cons, here, ← parts, ih behind]
      rfl

/-- **Composition goes from one ASCII character to the next**, if no nonspacing mark stands in what
follows. -/
theorem composed_append_cons (ascii : c.toNat < 0x80) (s : Text)
    (complete : ∀ d ∈ t, decompose d.toNat = [d.toNat])
    (spacing : ∀ d ∈ t, nonspacingMarks.has d = false) :
    (s ++ c :: t).composed = s.composed ++ c :: t.composed := by
  -- the marks are sorted first, so what comes next to the character is any member of what follows
  have alone : ∀ n ∈ sortMarks (parts t), composite c.toNat n = none := by
    intro n sorted
    have member : n ∈ parts t := (sortMarks_perm _).mem_iff.1 sorted
    rw [parts_of_complete complete] at member
    obtain ⟨d, inside, rfl⟩ := List.mem_map.1 member
    exact attaches_to_ascii ascii (spacing d inside)
  have split := parts_append_cons ascii s t
  have behind := composeFrom_of_alone alone []
  unfold parts at split behind
  rw [composed, split, sortMarks_append_starter (combiningClass_of_ascii ascii),
    composeMarks_append_ascii ascii, behind, List.map_append, List.reverse_nil, List.cons_append,
    List.map_cons, Char.ofNat_toNat]
  rfl

theorem plain_decomposed (plain : ∀ c ∈ s, Plain c.toNat) : ∀ c ∈ s.decomposed, Plain c.toNat := by
  intro c member
  obtain ⟨d, inside, part⟩ := exists_of_mem_decomposed member
  exact (plain d inside).of_mem_decompose part

theorem plain_composed (plain : ∀ c ∈ s, Plain c.toNat) : ∀ c ∈ s.composed, Plain c.toNat := by
  have sorted : ∀ n ∈ sortMarks (parts s), Plain n ∧ n.isValidChar := by
    intro n member
    have part : n ∈ parts s := (sortMarks_perm _).mem_iff.1 member
    obtain ⟨d, inside, here⟩ := List.mem_flatMap.1 part
    exact ⟨(plain d inside).of_mem_decompose here, isValidChar_of_mem_parts part⟩
  intro c member
  obtain ⟨n, composed, rfl⟩ := List.mem_map.1 member
  obtain ⟨same, valid⟩ := forall_mem_composeMarks (P := fun n => Plain n ∧ n.isValidChar)
    (fun left _ joined => left.1.composite joined) sorted n composed
  rw [toNat_ofNat valid]
  exact same

end Text

end FieldTemplate
