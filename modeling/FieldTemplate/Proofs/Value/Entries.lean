import FieldTemplate.Value.Entries

/-!
# Reading and writing entries

A key is read back as what was written to it last (`Entries.get?_insert`), and writing keeps
the keys of a mapping distinct (`Entries.Distinct.insert`).
-/

namespace FieldTemplate

set_option autoImplicit false

namespace Atom

theorem sameKey_iff {a b : Atom} :
    a.sameKey b = true ↔ a.meaning ≠ .notANumber ∧ a.meaning = b.meaning := by
  simp [sameKey]

theorem sameKey_symm {a b : Atom} (same : a.sameKey b = true) : b.sameKey a = true := by
  obtain ⟨number, meaning⟩ := sameKey_iff.1 same
  exact sameKey_iff.2 ⟨meaning ▸ number, meaning.symm⟩

theorem sameKey_comm (a b : Atom) : a.sameKey b = b.sameKey a :=
  Bool.eq_iff_iff.2 ⟨sameKey_symm, sameKey_symm⟩

theorem sameKey_text (s t : WideText) : (Atom.text s).sameKey (.text t) = decide (s = t) := by
  by_cases same : s = t <;> simp [sameKey, meaning, same]

/-- A text is no number, and no other key than itself. -/
theorem sameKey_text_iff {a : Atom} {s : WideText} :
    a.sameKey (.text s) = true ↔ a = .text s := by
  rw [sameKey_iff]
  constructor
  · rintro ⟨-, same⟩
    cases a with
    | text t => cases same; rfl
    | double | complex =>
        simp only [meaning, Meaning.ofDoubles] at same
        split at same <;> cases same
    | decimal x => cases x <;> cases same
    | timestamp | time | range =>
        simp only [meaning] at same
        split at same <;> cases same
    | _ => cases same
  · rintro rfl
    exact ⟨nofun, rfl⟩

/-- Keys that are one with a third are one. -/
theorem sameKey_congr {a b : Atom} (same : a.sameKey b = true) (c : Atom) :
    a.sameKey c = b.sameKey c := by
  rw [sameKey, sameKey, (sameKey_iff.1 same).2]

theorem sameKey_congr_right {a b : Atom} (same : a.sameKey b = true) (c : Atom) :
    c.sameKey a = c.sameKey b := by
  rw [sameKey, sameKey, (sameKey_iff.1 same).2]

end Atom

namespace Entries

/-- No two of the keys are the same. -/
def Distinct (entries : Entries) : Prop :=
  entries.keys.Pairwise fun a b => a.sameKey b = false

@[simp] theorem distinct_nil : Distinct [] := List.Pairwise.nil

theorem distinct_cons_iff {key : Atom} {value : Value} {rest : Entries} :
    Distinct ((key, value) :: rest) ↔
      (∀ k ∈ rest.keys, key.sameKey k = false) ∧ rest.Distinct := by
  simp [Distinct, keys]

theorem get?_congr (entries : Entries) {a b : Atom} (same : a.sameKey b = true) :
    entries.get? a = entries.get? b := by
  induction entries with
  | nil => rfl
  | cons entry rest ih => rw [get?, get?, Atom.sameKey_congr_right same, ih]

theorem get?_eq_none_iff {entries : Entries} {key : Atom} :
    entries.get? key = none ↔ ∀ k ∈ entries.keys, k.sameKey key = false := by
  induction entries with
  | nil => simp [get?, keys]
  | cons entry rest ih =>
      obtain ⟨k, v⟩ := entry
      by_cases same : k.sameKey key = true
      · simp [get?, keys, same]
      · simpa [get?, keys, same] using ih

theorem mem_of_get? {entries : Entries} {key : Atom} {value : Value}
    (found : entries.get? key = some value) : ∃ k, (k, value) ∈ entries := by
  induction entries with
  | nil => cases found
  | cons entry rest ih =>
      obtain ⟨k, v⟩ := entry
      rw [get?] at found
      split at found
      · cases found
        exact ⟨k, List.mem_cons_self⟩
      · obtain ⟨k', member⟩ := ih found
        exact ⟨k', List.mem_cons_of_mem _ member⟩

/-- **A key has the value that was written to it last**, and the other keys keep theirs. -/
theorem get?_insert (entries : Entries) (key : Atom) (value : Value) (k : Atom) :
    (entries.insert key value).get? k =
      if key.sameKey k then some value else entries.get? k := by
  induction entries with
  | nil => rfl
  | cons entry rest ih =>
      obtain ⟨k', v⟩ := entry
      rw [insert]
      by_cases there : k'.sameKey key = true
      · rw [if_pos there, get?, get?, Atom.sameKey_congr there]
        split <;> rfl
      · rw [if_neg there, get?, get?, ih]
        by_cases here : k'.sameKey k = true
        · have other : key.sameKey k = false := by
            rw [Bool.eq_false_iff]
            intro same
            exact there ((Atom.sameKey_congr_right same k').trans here)
          simp [here, other]
        · simp [here]

/-- A new key comes last. -/
theorem insert_of_get?_eq_none {entries : Entries} {key : Atom} (value : Value)
    (absent : entries.get? key = none) : entries.insert key value = entries ++ [(key, value)] := by
  induction entries with
  | nil => rfl
  | cons entry rest ih =>
      obtain ⟨k, v⟩ := entry
      rw [get?] at absent
      split at absent
      · cases absent
      · next other => rw [insert, if_neg other, ih absent, List.cons_append]

/-- Writing adds a key only if it is new. -/
theorem keys_insert (entries : Entries) (key : Atom) (value : Value) :
    (entries.insert key value).keys =
      if entries.get? key = none then entries.keys ++ [key] else entries.keys := by
  induction entries with
  | nil => rfl
  | cons entry rest ih =>
      obtain ⟨k, v⟩ := entry
      rw [insert, get?]
      split
      · simp [keys]
      · simp only [keys, List.map_cons] at ih ⊢
        rw [ih]
        split <;> rfl

theorem Distinct.insert {entries : Entries} (distinct : entries.Distinct) (key : Atom)
    (value : Value) : (entries.insert key value).Distinct := by
  rw [Distinct, keys_insert]
  split
  · next absent =>
    rw [get?_eq_none_iff] at absent
    exact List.pairwise_append.2 ⟨distinct, List.pairwise_singleton _ _, by simpa using absent⟩
  · exact distinct

/-- What stands under a key after writing was written or stood there before. -/
theorem mem_insert {entries : Entries} {key : Atom} {value : Value} {entry : Atom × Value}
    (member : entry ∈ entries.insert key value) : entry.2 = value ∨ entry ∈ entries := by
  induction entries with
  | nil => exact .inl (by rw [List.mem_singleton.1 member])
  | cons first rest ih =>
      obtain ⟨k, v⟩ := first
      rw [insert] at member
      split at member
      · rcases List.mem_cons.1 member with rfl | old
        · exact .inl rfl
        · exact .inr (List.mem_cons_of_mem _ old)
      · rcases List.mem_cons.1 member with rfl | old
        · exact .inr List.mem_cons_self
        · exact (ih old).imp_right (List.mem_cons_of_mem _)

end Entries

end FieldTemplate
