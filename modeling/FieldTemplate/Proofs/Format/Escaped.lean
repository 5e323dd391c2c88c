import FieldTemplate.Format.Url
import FieldTemplate.Proofs.Unicode.Lowercase

/-!
# Texts with percent escapes

`Escaped allowed` is the grammar of such texts: characters of a kind, and percent signs with two
hexadecimal digits behind each.  Every step on the way to a URL path fragment leads from texts of
this form to texts of this form, so no escape is ever torn: sanitizing (`escaped_sanitize`), taking
off accents (`Escaped.removeAccents`), lower case (`Escaped.lower`) and the final encoding
(`Escaped.percentEncode`).  Accents are the step that could tear one, since a mark behind an escape
might attach to its last digit; but what attaches to a digit is a nonspacing mark, and these are
gone by then.
-/

namespace FieldTemplate.Url

set_option autoImplicit false

/-- Characters of a kind, and escapes: percent signs with two hexadecimal digits behind each. -/
inductive Escaped (allowed : Char → Prop) : Text → Prop
  | nil : Escaped allowed []
  | char {c : Char} {rest : Text} (here : allowed c) (other : c ≠ '%')
      (behind : Escaped allowed rest) : Escaped allowed (c :: rest)
  | escape {a b : Char} {rest : Text} (first : Text.isHexDigit a = true)
      (second : Text.isHexDigit b = true) (behind : Escaped allowed rest) :
      Escaped allowed ('%' :: a :: b :: rest)

/-- The characters that a fragment shows as they are: letters and digits of ASCII, and
punctuation. -/
def IsFragmentChar (c : Char) : Prop :=
  c.isAlphanum = true ∨ c ∈ ['.', '_', '~', '-', '/', '\\', '#', '+']

instance (c : Char) : Decidable (IsFragmentChar c) := inferInstanceAs (Decidable (_ ∨ _))

/-- Shown as it is, or beyond ASCII and therefore encoded. -/
def Encodable (c : Char) : Prop := c.toNat < 0x80 → IsFragmentChar c

variable {allowed other : Char → Prop} {c : Char} {s t : Text}

/-! ## The grammar -/

theorem Escaped.mono (escaped : Escaped allowed s) (weaker : ∀ c, allowed c → other c) :
    Escaped other s := by
  induction escaped with
  | nil => exact .nil
  | char here notPercent _ ih => exact .char (weaker _ here) notPercent ih
  | escape first second _ ih => exact .escape first second ih

theorem Escaped.append (left : Escaped allowed s) (right : Escaped allowed t) :
    Escaped allowed (s ++ t) := by
  induction left with
  | nil => exact right
  | char here notPercent _ ih => exact .char here notPercent ih
  | escape first second _ ih => exact .escape first second ih

theorem escaped_of_forall (all : ∀ c ∈ s, allowed c ∧ c ≠ '%') : Escaped allowed s := by
  induction s with
  | nil => exact .nil
  | cons c rest ih =>
      obtain ⟨⟨here, notPercent⟩, behind⟩ := List.forall_mem_cons.1 all
      exact .char here notPercent (ih behind)

/-- A character of an escaped text is one of its kind or a part of an escape. -/
theorem Escaped.forall_mem (escaped : Escaped allowed s) :
    ∀ c ∈ s, allowed c ∨ c = '%' ∨ Text.isHexDigit c = true := by
  induction escaped with
  | nil => exact List.forall_mem_nil _
  | char here _ _ ih => exact List.forall_mem_cons.2 ⟨.inl here, ih⟩
  | escape first second _ ih =>
      refine List.forall_mem_cons.2 ⟨.inr (.inl rfl), ?_⟩
      exact List.forall_mem_cons.2
        ⟨.inr (.inr first), List.forall_mem_cons.2 ⟨.inr (.inr second), ih⟩⟩

/-! ## Characters of ASCII -/

theorem of_ascii {P : Char → Prop} (table : ∀ n < 0x80, P (Char.ofNat n))
    (ascii : c.toNat < 0x80) : P c :=
  Char.ofNat_toNat c ▸ table c.toNat ascii

theorem ascii_of_le {last : Char} (inside : c ≤ last) (ascii : last.toNat < 0x80) :
    c.toNat < 0x80 :=
  Nat.lt_of_le_of_lt (UInt32.le_iff_toNat_le.1 inside) ascii

theorem ascii_of_range {first last : Char} (inside : (first ≤ c && c ≤ last) = true)
    (ascii : last.toNat < 0x80) : c.toNat < 0x80 :=
  ascii_of_le (of_decide_eq_true (Bool.and_eq_true_iff.1 inside).2) ascii

theorem ascii_of_isUpper (upper : c.isUpper = true) : c.toNat < 0x80 := by
  have inside : c ≤ 'Z' := (of_decide_eq_true upper).2
  exact ascii_of_le inside (by decide)

theorem ascii_of_isAlphanum (word : c.isAlphanum = true) : c.toNat < 0x80 := by
  rcases Bool.or_eq_true_iff.1 word with letter | digit
  · rcases Bool.or_eq_true_iff.1 letter with upper | lower
    · exact ascii_of_isUpper upper
    · have inside : ('a' ≤ c && c ≤ 'z') = true := lower
      exact ascii_of_range inside (by decide)
  · have inside : ('0' ≤ c && c ≤ '9') = true := digit
    exact ascii_of_range inside (by decide)

theorem ascii_of_isFragmentChar (shown : IsFragmentChar c) : c.toNat < 0x80 := by
  rcases shown with word | punctuation
  · exact ascii_of_isAlphanum word
  · simp only [List.mem_cons, List.not_mem_nil, or_false] at punctuation
    rcases punctuation with rfl | rfl | rfl | rfl | rfl | rfl | rfl | rfl
    all_goals decide

theorem ascii_of_isHexDigit (digit : Text.isHexDigit c = true) : c.toNat < 0x80 := by
  rcases Bool.or_eq_true_iff.1 digit with number | upper
  · rcases Bool.or_eq_true_iff.1 number with number | lower
    · exact ascii_of_range number (by decide)
    · exact ascii_of_range lower (by decide)
  · exact ascii_of_range upper (by decide)

theorem isKept_iff_of_ascii (ascii : c.toNat < 0x80) : isKept c = true ↔ IsFragmentChar c :=
  of_ascii (P := fun c => isKept c = true ↔ IsFragmentChar c) (by decide +kernel) ascii

theorem ascii_of_isSafe (safe : isSafe c = true) : c.toNat < 0x80 := by
  simp only [isSafe, isUnreserved, Bool.or_eq_true, beq_iff_eq] at safe
  rcases safe with
    ((((((((((upper | lower) | digit) | rfl) | rfl) | rfl) | rfl) | rfl) | rfl) | rfl) | rfl) | rfl
  · exact ascii_of_range upper (by decide)
  · exact ascii_of_range lower (by decide)
  · exact ascii_of_range digit (by decide)
  all_goals decide

/-! ## Sanitizing -/

theorem sanitize_cons (other : c ≠ '%') (rest : Text) :
    sanitize (c :: rest) = if isKept c then c :: sanitize rest else sanitize rest := by
  rw [sanitize.eq_def]
  split
  · next same => exact absurd (List.cons.inj same).1 other
  · next same =>
    obtain ⟨rfl, rfl⟩ := List.cons.inj same
    rfl
  · next empty => cases empty

theorem sanitize_escape {a b : Char} (first : Text.isHexDigit a = true)
    (second : Text.isHexDigit b = true) (rest : Text) :
    sanitize ('%' :: a :: b :: rest) = '%' :: a :: b :: sanitize rest := by
  rw [sanitize, first, second]
  rfl

/-- **What is kept has its percent signs in escapes only.** -/
theorem escaped_sanitize (s : Text) : Escaped (fun c => isKept c = true) (sanitize s) := by
  fun_induction sanitize s with
  | case1 a b rest digits ih =>
      obtain ⟨first, second⟩ := Bool.and_eq_true_iff.1 digits
      exact .escape first second ih
  | case2 _ _ _ _ ih => exact ih
  | case3 c rest _ kept ih =>
      refine .char kept ?_ ih
      rintro rfl
      exact absurd kept (by decide)
  | case4 _ _ _ _ ih => exact ih
  | case5 => exact .nil

/-- **A text of this form stays as it is.** -/
theorem sanitize_of_escaped (escaped : Escaped (fun c => isKept c = true) s) : sanitize s = s := by
  induction escaped with
  | nil => rfl
  | char kept notPercent _ ih => rw [sanitize_cons notPercent, if_pos kept, ih]
  | escape first second _ ih => rw [sanitize_escape first second, ih]

/-! ## Accents -/

theorem removeAccents_append_cons (ascii : c.toNat < 0x80) (s t : Text) :
    removeAccents (s ++ c :: t) = removeAccents s ++ c :: removeAccents t := by
  have stays (rest : Text) : (c :: rest).filter (fun d => !Unicode.nonspacingMarks.has d) =
      c :: rest.filter fun d => !Unicode.nonspacingMarks.has d := by
    rw [List.filter_cons, Unicode.not_nonspacing_of_ascii ascii]
    rfl
  unfold removeAccents
  rw [Text.decomposed_append_cons ascii, List.filter_append, stays,
    Text.composed_append_cons ascii]
  · exact fun d kept => Text.decompose_of_mem_decomposed (List.mem_filter.1 kept).1
  · exact fun d kept => by simpa using (List.mem_filter.1 kept).2

theorem removeAccents_cons (ascii : c.toNat < 0x80) (s : Text) :
    removeAccents (c :: s) = c :: removeAccents s :=
  removeAccents_append_cons ascii [] s

theorem removeAccents_of_ascii (ascii : ∀ c ∈ s, c.toNat < 0x80) : removeAccents s = s := by
  induction s with
  | nil => rfl
  | cons c rest ih =>
      obtain ⟨here, behind⟩ := List.forall_mem_cons.1 ascii
      rw [removeAccents_cons here, ih behind]

/-- None of the characters that hold punctuation of ASCII is kept. -/
theorem plain_of_isKept (kept : isKept c = true) (large : 0x80 ≤ c.toNat) :
    Unicode.Plain c.toNat := by
  refine ⟨fun ascii => absurd ascii (by omega), fun member => ?_⟩
  have gone : ∀ n ∈ Unicode.punctuated, isKept (Char.ofNat n) = false := by decide +kernel
  have dropped := gone c.toNat member
  rw [Char.ofNat_toNat, kept] at dropped
  cases dropped

theorem plain_removeAccents (plain : ∀ c ∈ s, Unicode.Plain c.toNat) :
    ∀ c ∈ removeAccents s, Unicode.Plain c.toNat :=
  Text.plain_composed fun c kept => Text.plain_decomposed plain c (List.mem_filter.1 kept).1

theorem escaped_of_plain (plain : ∀ c ∈ s, Unicode.Plain c.toNat) : Escaped Encodable s := by
  refine escaped_of_forall fun c member => ⟨fun ascii => .inl ?_, ?_⟩
  · have word := (plain c member).word ascii
    rwa [Char.ofNat_toNat] at word
  · rintro rfl
    exact absurd ((plain _ member).word (by decide)) (by decide)

/-- **Accents are taken off without tearing an escape.** -/
theorem Escaped.removeAccents (escaped : Escaped (fun c => isKept c = true) s) :
    Escaped Encodable (removeAccents s) := by
  -- what stands between two ASCII characters is taken as a whole, since accents move in it
  suffices between : ∀ u, (∀ c ∈ u, Unicode.Plain c.toNat) →
      Escaped Encodable (Url.removeAccents (u ++ s)) from
    between [] (List.forall_mem_nil _)
  induction escaped with
  | nil =>
      intro u plain
      rw [List.append_nil]
      exact escaped_of_plain (plain_removeAccents plain)
  | @char c rest kept notPercent _ ih =>
      intro u plain
      by_cases ascii : c.toNat < 0x80
      · rw [removeAccents_append_cons ascii]
        have shown := (isKept_iff_of_ascii ascii).1 kept
        refine (escaped_of_plain (plain_removeAccents plain)).append ?_
        exact .char (fun _ => shown) notPercent (ih [] (List.forall_mem_nil _))
      · rw [List.append_cons]
        refine ih _ (List.forall_mem_append.2 ⟨plain, List.forall_mem_singleton.2 ?_⟩)
        exact plain_of_isKept kept (by omega)
  | escape first second _ ih =>
      intro u plain
      rw [removeAccents_append_cons (by decide), removeAccents_cons (ascii_of_isHexDigit first),
        removeAccents_cons (ascii_of_isHexDigit second)]
      refine (escaped_of_plain (plain_removeAccents plain)).append ?_
      exact .escape first second (ih [] (List.forall_mem_nil _))

/-! ## Lower case -/

/-- Encodable, and no capital letter of ASCII. -/
def Lowered (c : Char) : Prop := Encodable c ∧ c.isUpper = false

theorem lowered_toLower (shown : IsFragmentChar c) :
    IsFragmentChar c.toLower ∧ c.toLower.isUpper = false ∧ c.toLower ≠ '%' :=
  of_ascii (P := fun c => IsFragmentChar c →
      IsFragmentChar c.toLower ∧ c.toLower.isUpper = false ∧ c.toLower ≠ '%')
    (by decide +kernel) (ascii_of_isFragmentChar shown) shown

theorem isHexDigit_toLower (digit : Text.isHexDigit c = true) : Text.isHexDigit c.toLower = true :=
  of_ascii (P := fun c => Text.isHexDigit c = true → Text.isHexDigit c.toLower = true)
    (by decide +kernel) (ascii_of_isHexDigit digit) digit

theorem lowered_of_large (large : 0x80 ≤ c.toNat) : Lowered c ∧ c ≠ '%' := by
  refine ⟨⟨fun ascii => absurd ascii (by omega), ?_⟩, ?_⟩
  · rw [← Bool.not_eq_true]
    intro upper
    have ascii := ascii_of_isUpper upper
    omega
  · rintro rfl
    exact absurd large (by decide)

/-- **Lower case tears no escape.** -/
theorem Escaped.lower (escaped : Escaped Encodable s) : Escaped Lowered s.lower := by
  suffices after : ∀ before, Escaped Lowered (Unicode.lowerAfter before s) from after []
  induction escaped with
  | nil => exact fun _ => .nil
  | @char c rest here notPercent _ ih =>
      intro before
      by_cases ascii : c.toNat < 0x80
      · rw [Unicode.lowerAfter_ascii_cons ascii]
        obtain ⟨shown, small, other⟩ := lowered_toLower (here ascii)
        exact .char ⟨fun _ => shown, small⟩ other (ih _)
      · obtain ⟨lowered, split, letters⟩ :=
          Unicode.exists_lowerAfter_cons (Nat.le_of_not_lt ascii) before rest
        rw [split]
        refine (escaped_of_forall fun d member => ?_).append (ih _)
        rcases letters d member with large | rfl | rfl
        · exact lowered_of_large large
        · exact ⟨⟨fun _ => .inl rfl, rfl⟩, by decide⟩
        · exact ⟨⟨fun _ => .inl rfl, rfl⟩, by decide⟩
  | escape first second _ ih =>
      intro before
      rw [Unicode.lowerAfter_ascii_cons (by decide),
        Unicode.lowerAfter_ascii_cons (ascii_of_isHexDigit first),
        Unicode.lowerAfter_ascii_cons (ascii_of_isHexDigit second)]
      exact .escape (isHexDigit_toLower first) (isHexDigit_toLower second) (ih _)

/-! ## The escapes of bytes -/

theorem isHexDigit_hexUpper {n : Nat} (small : n < 16) : Text.isHexDigit (hexUpper n) = true := by
  have table : ∀ n < 16, Text.isHexDigit (hexUpper n) = true := by decide
  exact table n small

theorem escaped_escapeBytes {bytes : List Nat} (small : ∀ b ∈ bytes, b < 256) :
    Escaped allowed (bytes.flatMap escapeByte) := by
  induction bytes with
  | nil => exact .nil
  | cons b rest ih =>
      obtain ⟨here, behind⟩ := List.forall_mem_cons.1 small
      have high := isHexDigit_hexUpper (n := b / 16) (by omega)
      have low := isHexDigit_hexUpper (n := b % 16) (by omega)
      exact .escape high low (ih behind)

theorem utf8Bytes_lt (c : Char) : ∀ b ∈ utf8Bytes c, b < 256 := by
  have valid : c.toNat < 0xD800 ∨ 0xDFFF < c.toNat ∧ c.toNat < 0x110000 := c.valid
  intro b member
  unfold utf8Bytes at member
  dsimp only at member
  repeat' split at member
  all_goals
    simp only [List.mem_cons, List.not_mem_nil, or_false] at member
    omega

theorem percentEncode_cons (c : Char) (rest : Text) :
    percentEncode (c :: rest) =
      (if isSafe c then [c] else (utf8Bytes c).flatMap escapeByte) ++ percentEncode rest := rfl

theorem percentEncode_of_isSafe (safe : ∀ c ∈ s, isSafe c = true) : percentEncode s = s := by
  induction s with
  | nil => rfl
  | cons c rest ih =>
      obtain ⟨here, behind⟩ := List.forall_mem_cons.1 safe
      rw [percentEncode_cons, if_pos here, ih behind]
      rfl

/-- **Encoding turns what is not shown as it is into escapes**, and leaves the others alone. -/
theorem Escaped.percentEncode (escaped : Escaped allowed s)
    (encodable : ∀ c, allowed c → Encodable c) :
    Escaped (fun c => IsFragmentChar c ∧ allowed c) (percentEncode s) := by
  induction escaped with
  | nil => exact .nil
  | @char c rest here notPercent _ ih =>
      rw [percentEncode_cons]
      split
      · next safe =>
        exact .char ⟨encodable c here (ascii_of_isSafe safe), here⟩ notPercent ih
      · exact (escaped_escapeBytes (utf8Bytes_lt c)).append ih
  | @escape a b rest first second _ ih =>
      have safe {d : Char} (digit : Text.isHexDigit d = true) : isSafe d = true :=
        of_ascii (P := fun d => Text.isHexDigit d = true → isSafe d = true)
          (by decide +kernel) (ascii_of_isHexDigit digit) digit
      rw [percentEncode_cons, percentEncode_cons, percentEncode_cons, if_pos (safe first),
        if_pos (safe second)]
      exact .escape first second ih

end FieldTemplate.Url
