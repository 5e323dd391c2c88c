import FieldTemplate.Unicode.Category
import FieldTemplate.Unicode.Normalization

/-!
# Canonical decomposition

The table of decompositions is gone through once for each of two facts.  No chain of first parts is
longer than `decompositionDepth` (`chains_decompositionDepth`), so a decomposition is complete: no
part of it decomposes any further (`decompose_of_mem_decompose`).  And the parts of a character that
neither is nor holds a punctuation character of ASCII are of the same kind
(`Plain.of_mem_decompose`).
-/

namespace FieldTemplate.Unicode

set_option autoImplicit false

variable {n m a depth : Nat} {b : Option Nat}

/-- A set of numbers as the bits of one, which makes membership a single step. -/
def bits (ns : List Nat) : Nat := ns.foldr (fun n set => set ||| 1 <<< n) 0

theorem testBit_bits (ns : List Nat) (n : Nat) : (bits ns).testBit n = true ↔ n ∈ ns := by
  induction ns with
  | nil => simp [bits]
  | cons m rest ih =>
      rw [bits, List.foldr_cons, ← bits, Nat.testBit_or, Bool.or_eq_true, ih, Nat.one_shiftLeft,
        Nat.testBit_two_pow, decide_eq_true_eq, List.mem_cons, or_comm, eq_comm]

/-! ## The rows of the table -/

/-- All pairs, whether they compose again or not. -/
def pairs : List (Nat × Nat × Nat) := composites ++ excludedPairs

/-- All characters that are only another code for one character. -/
def otherCodes : List (Nat × Nat) := singletons ++ ideographs ++ supplementaryIdeographs

/-- What decomposes, with the first part of it. -/
def firstParts : List (Nat × Nat) := pairs.map (fun row => (row.1, row.2.1)) ++ otherCodes

theorem mem_of_find?_fst {β : Type} {table : List (Nat × β)} {row : Nat × β}
    (found : table.find? (fun row => row.1 == n) = some row) : (n, row.2) ∈ table := by
  have member := List.mem_of_find?_eq_some found
  have key : (row.1 == n) = true := List.find?_some (p := fun row : Nat × β => row.1 == n) found
  exact beq_iff_eq.1 key ▸ member

theorem mem_otherCodes (other : otherCode n = some a) : (n, a) ∈ otherCodes := by
  have row {table : List (Nat × Nat)}
      (found : (table.find? fun row => row.1 == n).map (·.2) = some a) : (n, a) ∈ table := by
    obtain ⟨row, here, rfl⟩ := Option.map_eq_some_iff.1 found
    exact mem_of_find?_fst here
  simp only [otherCode, Option.or_eq_some_iff] at other
  simp only [otherCodes, List.mem_append]
  rcases other with first | ⟨-, second | ⟨-, third⟩⟩
  · exact .inl (.inl (row first))
  · exact .inl (.inr (row second))
  · exact .inr (row third)

/-- A step of decomposition is a row of the table. -/
theorem decomposeStep_cases (step : decomposeStep n = some (a, b)) :
    (∃ mark, b = some mark ∧ (n, a, mark) ∈ pairs) ∨ (b = none ∧ (n, a) ∈ otherCodes) := by
  rw [decomposeStep] at step
  split at step
  · next found =>
    cases step
    exact .inl ⟨_, rfl, List.mem_append_left _ (mem_of_find?_fst found)⟩
  · split at step
    · next found =>
      cases step
      exact .inl ⟨_, rfl, List.mem_append_right _ (mem_of_find?_fst found)⟩
    · obtain ⟨first, other, same⟩ := Option.map_eq_some_iff.1 step
      cases same
      exact .inr ⟨rfl, mem_otherCodes other⟩

theorem mem_firstParts (step : decomposeStep n = some (a, b)) : (n, a) ∈ firstParts := by
  rcases decomposeStep_cases step with ⟨mark, -, row⟩ | ⟨-, row⟩
  · exact List.mem_append_left _ (List.mem_map_of_mem (f := fun row => (row.1, row.2.1)) row)
  · exact List.mem_append_right _ row

/-! ## Decompositions are complete -/

/-- The characters with a chain of more than `k` first parts, as bits. -/
def chains : Nat → Nat
  | 0 => bits (firstParts.map (·.1))
  | k + 1 => bits ((firstParts.filter fun row => (chains k).testBit row.2).map (·.1))

theorem testBit_chains_zero (step : decomposeStep n = some (a, b)) :
    (chains 0).testBit n = true :=
  (testBit_bits _ n).2 (List.mem_map_of_mem (f := (·.1)) (mem_firstParts step))

theorem testBit_chains_succ (step : decomposeStep n = some (a, b)) {k : Nat}
    (longer : (chains k).testBit a = true) : (chains (k + 1)).testBit n = true :=
  (testBit_bits _ n).2
    (List.mem_map_of_mem (f := (·.1)) (List.mem_filter.2 ⟨mem_firstParts step, longer⟩))

/-- No chain is longer than the depth to which the table is followed. -/
theorem chains_decompositionDepth : chains decompositionDepth = 0 := by
  decide +kernel

/-- What stands behind a first part does not decompose. -/
theorem testBit_chains_mark : ∀ row ∈ pairs, (chains 0).testBit row.2.2 = false := by
  decide +kernel

theorem decomposeStep_eq_none (short : (chains 0).testBit n = false) : decomposeStep n = none := by
  cases step : decomposeStep n with
  | none => rfl
  | some parts =>
      rw [testBit_chains_zero step] at short
      cases short

/-- What is followed to the end of its chain is decomposed completely. -/
theorem decomposeStep_of_mem_decomposeTable (short : (chains depth).testBit n = false)
    (member : m ∈ decomposeTable depth n) : decomposeStep m = none := by
  -- a step leads to a first part with a chain shorter by one, so the bound goes down with the depth
  induction depth generalizing n with
  | zero =>
      obtain rfl := List.mem_singleton.1 member
      exact decomposeStep_eq_none short
  | succ depth ih =>
      rw [decomposeTable] at member
      have first {a : Nat} {b : Option Nat} (step : decomposeStep n = some (a, b)) :
          (chains depth).testBit a = false := by
        rw [← Bool.not_eq_true]
        intro longer
        rw [testBit_chains_succ step longer] at short
        cases short
      cases step : decomposeStep n with
      | none =>
          rw [step] at member
          obtain rfl := List.mem_singleton.1 member
          exact step
      | some parts =>
          obtain ⟨a, b⟩ := parts
          have behind := first step
          rw [step] at member
          cases b with
          | none => exact ih behind member
          | some mark =>
              rcases List.mem_append.1 member with front | last
              · exact ih behind front
              · obtain rfl := List.mem_singleton.1 last
                rcases decomposeStep_cases step with ⟨mark, ⟨⟩, row⟩ | ⟨⟨⟩, -⟩
                exact decomposeStep_eq_none (testBit_chains_mark _ row)

/-! ## Parts -/

/-- The characters that decompose into a punctuation character of ASCII, alone or with a mark. -/
def punctuated : List Nat := [0x37E, 0x1FEF, 0x2260, 0x226E, 0x226F]

/-- The code point of a character that neither is nor holds a punctuation character of ASCII. -/
structure Plain (n : Nat) : Prop where
  word : n < 0x80 → (Char.ofNat n).isAlphanum = true
  whole : n ∉ punctuated

/-- Outside of the Hangul letters and syllables, which are computed. -/
structure NotHangul (n : Nat) : Prop where
  letter : n < 0x1100 ∨ 0x1200 ≤ n
  syllable : n < 0xAC00 ∨ 0xD7A4 ≤ n

instance (n : Nat) : Decidable (NotHangul n) :=
  decidable_of_iff
    ((n < 0x1100 ∨ 0x1200 ≤ n) ∧ (n < 0xAC00 ∨ 0xD7A4 ≤ n))
    ⟨fun ⟨letter, syllable⟩ => ⟨letter, syllable⟩, fun ⟨letter, syllable⟩ => ⟨letter, syllable⟩⟩

/-- What the table may give as a part of a code point. -/
structure SoundPart (n part : Nat) : Prop where
  valid : part.isValidChar
  notHangul : NotHangul part
  whole : (bits punctuated).testBit part = false
  word : (part < 0x80 → (Char.ofNat part).isAlphanum = true) ∨ n ∈ punctuated

instance (n part : Nat) : Decidable (SoundPart n part) :=
  decidable_of_iff (part.isValidChar ∧ NotHangul part ∧ (bits punctuated).testBit part = false ∧
      ((part < 0x80 → (Char.ofNat part).isAlphanum = true) ∨ n ∈ punctuated))
    ⟨fun ⟨valid, notHangul, whole, word⟩ => ⟨valid, notHangul, whole, word⟩,
      fun ⟨valid, notHangul, whole, word⟩ => ⟨valid, notHangul, whole, word⟩⟩

theorem soundPart_first : ∀ row ∈ firstParts, NotHangul row.1 ∧ SoundPart row.1 row.2 := by
  decide +kernel

theorem soundPart_mark : ∀ row ∈ pairs, SoundPart row.1 row.2.2 := by
  decide +kernel

theorem notHangul_of_step (step : decomposeStep n = some (a, b)) : NotHangul n :=
  (soundPart_first _ (mem_firstParts step)).1

/-- What holds of a code point and of all sound parts holds of its decomposition. -/
theorem forall_mem_decomposeTable {P : Nat → Prop}
    (closed : ∀ {n part}, P n → SoundPart n part → P part) (start : P n) :
    ∀ m ∈ decomposeTable depth n, P m := by
  induction depth generalizing n with
  | zero => exact List.forall_mem_singleton.2 start
  | succ depth ih =>
      rw [decomposeTable]
      cases step : decomposeStep n with
      | none => exact List.forall_mem_singleton.2 start
      | some parts =>
          obtain ⟨a, b⟩ := parts
          have front := ih (closed start (soundPart_first _ (mem_firstParts step)).2)
          cases b with
          | none => exact front
          | some mark =>
              rcases decomposeStep_cases step with ⟨mark, ⟨⟩, row⟩ | ⟨⟨⟩, -⟩
              refine List.forall_mem_append.2 ⟨front, List.forall_mem_singleton.2 ?_⟩
              exact closed start (soundPart_mark _ row)

theorem Plain.part {part : Nat} (plain : Plain n) (sound : SoundPart n part) : Plain part := by
  refine ⟨sound.word.resolve_right plain.whole, fun member => ?_⟩
  have set := (testBit_bits punctuated part).2 member
  rw [sound.whole] at set
  cases set

/-! ## Hangul -/

theorem decomposeHangul_eq_none_iff :
    decomposeHangul n = none ↔ n < 0xAC00 ∨ 0xD7A4 ≤ n := by
  have first : hangulFirst = 0xAC00 := rfl
  have last : hangulCount = 0xD7A4 - 0xAC00 := rfl
  rw [decomposeHangul, ite_eq_right_iff, first, last]
  simp only [reduceCtorEq, imp_false, not_and]
  omega

theorem jamo_of_mem_decomposeHangul {parts : List Nat} (found : decomposeHangul n = some parts)
    (member : m ∈ parts) : 0x1100 ≤ m ∧ m < 0x1200 := by
  unfold decomposeHangul at found
  split at found
  · next inside =>
    have count : n - hangulFirst < 11172 := by
      simp only [hangulFirst, hangulCount, leadCount, vowelCount, tailCount] at inside ⊢
      omega
    dsimp only at found
    generalize n - hangulFirst = i at count found
    rw [Option.some.injEq] at found
    subst found
    by_cases tail : i % tailCount = 0
    · rw [if_pos tail] at member
      simp only [leadFirst, vowelFirst, vowelCount, tailCount, List.mem_cons, List.not_mem_nil,
        or_false] at member
      omega
    · rw [if_neg tail] at member
      simp only [leadFirst, vowelFirst, tailBase, vowelCount, tailCount, List.mem_cons,
        List.not_mem_nil, or_false] at member
      omega
  · cases found

/-! ## The decomposition of a character -/

theorem decompose_of_ascii (ascii : n < 0x80) : decompose n = [n] := if_pos ascii

/-- Where the members of a decomposition come from. -/
theorem mem_decompose_cases (member : m ∈ decompose n) :
    (n < 0x80 ∧ m = n) ∨ (0x1100 ≤ m ∧ m < 0x1200) ∨
      (decomposeHangul n = none ∧ m ∈ decomposeTable decompositionDepth n) := by
  rw [decompose] at member
  split at member
  · next ascii => exact .inl ⟨ascii, List.mem_singleton.1 member⟩
  · cases syllable : decomposeHangul n with
    | none =>
        rw [syllable] at member
        exact .inr (.inr ⟨rfl, member⟩)
    | some parts =>
        rw [syllable] at member
        exact .inr (.inl (jamo_of_mem_decomposeHangul syllable member))

theorem decompose_eq_self (syllable : decomposeHangul n = none) (step : decomposeStep n = none) :
    decompose n = [n] := by
  rw [decompose, syllable]
  split
  · rfl
  · simp only [decompositionDepth, decomposeTable, step]

/-- **Decompositions are complete**: no part decomposes any further. -/
theorem decompose_of_mem_decompose (member : m ∈ decompose n) : decompose m = [m] := by
  rcases mem_decompose_cases member with ⟨ascii, rfl⟩ | ⟨lower, upper⟩ | ⟨syllable, parts⟩
  · exact decompose_of_ascii ascii
  · refine decompose_eq_self (decomposeHangul_eq_none_iff.2 (by omega)) ?_
    cases step : decomposeStep m with
    | none => rfl
    | some parts =>
        have letter := (notHangul_of_step step).letter
        omega
  · refine decompose_eq_self ?_ ?_
    · exact forall_mem_decomposeTable (P := fun n => decomposeHangul n = none)
        (fun _ sound => decomposeHangul_eq_none_iff.2 sound.notHangul.syllable) syllable m parts
    · refine decomposeStep_of_mem_decomposeTable ?_ parts
      rw [chains_decompositionDepth]
      exact Nat.zero_testBit n

theorem isValidChar_of_mem_decompose (valid : n.isValidChar) (member : m ∈ decompose n) :
    m.isValidChar := by
  rcases mem_decompose_cases member with ⟨-, rfl⟩ | ⟨lower, upper⟩ | ⟨-, parts⟩
  · exact valid
  · exact .inl (by omega)
  · exact forall_mem_decomposeTable (fun _ sound => sound.valid) valid m parts

/-- **The parts of a plain character are plain.** -/
theorem Plain.of_mem_decompose (plain : Plain n) (member : m ∈ decompose n) : Plain m := by
  rcases mem_decompose_cases member with ⟨-, rfl⟩ | ⟨lower, upper⟩ | ⟨-, parts⟩
  · exact plain
  · refine ⟨fun ascii => absurd ascii (by omega), ?_⟩
    simp only [punctuated, List.mem_cons, List.not_mem_nil, or_false]
    omega
  · exact forall_mem_decomposeTable Plain.part plain m parts

end FieldTemplate.Unicode
