import FieldTemplate.Proofs.Format.Escaped
import FieldTemplate.Proofs.Text.Parts
import FieldTemplate.Proofs.Text.Trim

/-!
# URL path fragments are well formed

The steps that make a fragment are put together: whatever the text, its fragment consists of
characters that a path shows as they are and of whole percent escapes (`fragment_is_well_formed`).
Texts of this form pass through every step as they are, apart from lower case
(`fragment_of_escaped`), which says what the fragment of a fragment is (`fragment_again`).
-/

namespace FieldTemplate.Url

set_option autoImplicit false

variable {allowed : Char → Prop} {c : Char} {s t : Text}

/-! ## The form of a fragment -/

/-- Step by step, from what is kept to what is shown or encoded. -/
theorem escaped_fragment (options : Options) (s : Text) :
    Escaped (fun c => IsFragmentChar c ∧ (options.lower = true → c.isUpper = false))
      (fragment options s) := by
  have kept := escaped_sanitize ((Text.trim s).replaceChar ' ' ['-'])
  unfold fragment
  dsimp only
  generalize sanitize _ = path at kept
  have bare : Escaped Encodable (if options.removeAccents then removeAccents path else path) := by
    split
    · exact kept.removeAccents
    · exact kept.mono fun c here ascii => (isKept_iff_of_ascii ascii).1 here
  generalize (if options.removeAccents then removeAccents path else path) = path at bare
  split
  · have encoded := bare.lower.percentEncode fun _ here => here.1
    exact encoded.mono fun c here => ⟨here.1, fun _ => here.2.2⟩
  · next upper =>
    have encoded := bare.percentEncode fun _ here => here
    exact encoded.mono fun c here => ⟨here.1, fun lower => absurd lower upper⟩

/-- **A fragment is well formed**: characters that a path shows as they are, and whole percent
escapes.  In lower case, capital letters stand in escapes only. -/
theorem fragment_is_well_formed (options : Options) (s : Text) :
    Escaped IsFragmentChar (fragment options s) ∧
      (options.lower = true →
        Escaped (fun c => IsFragmentChar c ∧ c.isUpper = false) (fragment options s)) :=
  ⟨(escaped_fragment options s).mono fun _ here => here.1,
    fun lower => (escaped_fragment options s).mono fun _ here => ⟨here.1, here.2 lower⟩⟩

/-- A mark behind an escape goes with the accents, or is encoded next to it. -/
example : fragment ⟨false, true⟩ "%41\u0301".toList = "%41".toList ∧
    fragment ⟨false, false⟩ "%41\u0301".toList = "%41%CC%81".toList := by decide +kernel

/-! ## The fragment of a fragment -/

/-- In texts of the form of fragments no step finds anything to do but lower case. -/
theorem safe_of_mem_escaped (escaped : Escaped IsFragmentChar s) :
    ∀ c ∈ s, c.toNat < 0x80 ∧ Text.isBlank c = false ∧ isSafe c = true := by
  intro c member
  have part := escaped.forall_mem c member
  have ascii : c.toNat < 0x80 := by
    rcases part with shown | rfl | digit
    · exact ascii_of_isFragmentChar shown
    · decide
    · exact ascii_of_isHexDigit digit
  refine ⟨ascii, ?_⟩
  exact of_ascii
    (P := fun c => IsFragmentChar c ∨ c = '%' ∨ Text.isHexDigit c = true →
      Text.isBlank c = false ∧ isSafe c = true)
    (by decide +kernel) ascii part

theorem Escaped.lowerAscii (escaped : Escaped IsFragmentChar s) :
    Escaped IsFragmentChar s.lowerAscii := by
  induction escaped with
  | nil => exact .nil
  | char shown _ _ ih =>
      obtain ⟨small, -, other⟩ := lowered_toLower shown
      exact .char small other ih
  | escape first second _ ih =>
      exact .escape (isHexDigit_toLower first) (isHexDigit_toLower second) ih

/-- **The fragment of a well-formed text** is that text, in lower case if the options say so. -/
theorem fragment_of_escaped (escaped : Escaped IsFragmentChar s) (options : Options) :
    fragment options s = if options.lower then s.lowerAscii else s := by
  have safe := safe_of_mem_escaped escaped
  have ascii : ∀ c ∈ s, c.toNat < 0x80 := fun c member => (safe c member).1
  have trimmed : Text.trim s = s :=
    Text.trim_of_trimmed (Text.trimmed_of_solid fun c member => (safe c member).2.1)
  have spaceless : s.replaceChar ' ' ['-'] = s := by
    refine Text.replaceChar_of_not_mem (fun member => ?_) _
    exact absurd (safe ' ' member).2.1 (by decide)
  have kept : sanitize s = s := by
    refine sanitize_of_escaped (escaped.mono fun c shown => ?_)
    exact (isKept_iff_of_ascii (ascii_of_isFragmentChar shown)).2 shown
  have bare : (if options.removeAccents then removeAccents s else s) = s := by
    rw [removeAccents_of_ascii ascii, ite_self]
  unfold fragment
  dsimp only
  rw [trimmed, spaceless, kept, bare, Text.lower_of_ascii ascii, ← Text.lowerAscii]
  split
  · have lowered := safe_of_mem_escaped escaped.lowerAscii
    exact percentEncode_of_isSafe fun c member => (lowered c member).2.2
  · exact percentEncode_of_isSafe fun c member => (safe c member).2.2

/-- The same text but for the case of the digits of its escapes. -/
inductive SameButEscapes : Text → Text → Prop
  | nil : SameButEscapes [] []
  | char {c : Char} {s t : Text} (other : c ≠ '%') (behind : SameButEscapes s t) :
      SameButEscapes (c :: s) (c :: t)
  | escape {a b x y : Char} {s t : Text} (first : Text.isHexDigit a = true)
      (second : Text.isHexDigit b = true) (sameFirst : a.toLower = x.toLower)
      (sameSecond : b.toLower = y.toLower) (behind : SameButEscapes s t) :
      SameButEscapes ('%' :: a :: b :: s) ('%' :: x :: y :: t)

theorem Escaped.sameButEscapes (escaped : Escaped allowed s) : SameButEscapes s s := by
  induction escaped with
  | nil => exact .nil
  | char _ notPercent _ ih => exact .char notPercent ih
  | escape first second _ ih => exact .escape first second rfl rfl ih

theorem toLower_toLower (ascii : c.toNat < 0x80) : c.toLower.toLower = c.toLower :=
  of_ascii (P := fun c => c.toLower.toLower = c.toLower) (by decide +kernel) ascii

/-- Lower case changes the escapes only, where no capital letter stands apart from them. -/
theorem Escaped.sameButEscapes_lowerAscii
    (escaped : Escaped (fun c => IsFragmentChar c ∧ c.isUpper = false) s) :
    SameButEscapes s s.lowerAscii := by
  induction escaped with
  | nil => exact .nil
  | @char c rest here notPercent _ ih =>
      have small : c.toLower = c :=
        of_ascii (P := fun c => c.isUpper = false → c.toLower = c) (by decide +kernel)
          (ascii_of_isFragmentChar here.1) here.2
      rw [Text.lowerAscii, List.map_cons, small]
      exact .char notPercent ih
  | escape first second _ ih =>
      have sameFirst := (toLower_toLower (ascii_of_isHexDigit first)).symm
      have sameSecond := (toLower_toLower (ascii_of_isHexDigit second)).symm
      exact .escape first second sameFirst sameSecond ih

theorem lowerAscii_lowerAscii (ascii : ∀ c ∈ s, c.toNat < 0x80) :
    s.lowerAscii.lowerAscii = s.lowerAscii := by
  rw [Text.lowerAscii, Text.lowerAscii, List.map_map]
  exact List.map_congr_left fun c member => toLower_toLower (ascii c member)

/-- **The fragment of a fragment** is that fragment, in lower case if the later options say so.
With the same options twice no more than the case of escapes is changed, and three times are no more
than two. -/
theorem fragment_again (first again : Options) (s : Text) :
    fragment again (fragment first s) =
        (if again.lower then (fragment first s).lowerAscii else fragment first s) ∧
      SameButEscapes (fragment first s) (fragment first (fragment first s)) ∧
      fragment first (fragment first (fragment first s)) = fragment first (fragment first s) := by
  have escaped : Escaped IsFragmentChar (fragment first s) :=
    (escaped_fragment first s).mono fun _ here => here.1
  have small (lower : first.lower = true) :
      Escaped (fun c => IsFragmentChar c ∧ c.isUpper = false) (fragment first s) :=
    (escaped_fragment first s).mono fun _ here => ⟨here.1, here.2 lower⟩
  refine ⟨fragment_of_escaped escaped again, ?_⟩
  generalize fragment first s = t at escaped small
  rw [fragment_of_escaped escaped first]
  split
  · next lower =>
    refine ⟨(small lower).sameButEscapes_lowerAscii, ?_⟩
    rw [fragment_of_escaped escaped.lowerAscii, if_pos lower]
    exact lowerAscii_lowerAscii fun c member => (safe_of_mem_escaped escaped c member).1
  · next upper =>
    refine ⟨escaped.sameButEscapes, ?_⟩
    rw [fragment_of_escaped escaped, if_neg upper]

example : fragment .usual "é".toList = "%C3%A9".toList ∧
    fragment .usual "%C3%A9".toList = "%c3%a9".toList := by decide +kernel

end FieldTemplate.Url
