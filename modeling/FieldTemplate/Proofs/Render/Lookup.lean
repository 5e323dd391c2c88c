import FieldTemplate.Proofs.Value.Entries
import FieldTemplate.Render.Basic

/-!
# What names lead to

Names lead through mappings, each to the first entry that has it as a key (`Value.LeadsTo`).  That
is what is looked up (`Value.lookup_eq_some_iff`); a key that is no text is never in the way.
-/

namespace FieldTemplate

set_option autoImplicit false

/-- Each name is a key of the mapping that those in front of it lead to, and of no earlier entry. -/
inductive Value.LeadsTo : Value → List Text → Value → Prop
  | here (v : Value) : LeadsTo v [] v
  | under {kind : MappingKind} {before after : Entries} {name : Text} {names : List Text}
    {inner v : Value} (first : .text name.wide ∉ before.keys) (behind : LeadsTo inner names v) :
    LeadsTo (.mapping kind (before ++ (.text name.wide, inner) :: after)) (name :: names) v

theorem Entries.get?_text_eq_some_iff {entries : Entries} {s : WideText} {v : Value} :
    entries.get? (.text s) = some v ↔
      ∃ before after, entries = before ++ (.text s, v) :: after ∧ .text s ∉ keys before := by
  induction entries with
  | nil => simp [get?]
  | cons entry rest ih =>
      obtain ⟨k, w⟩ := entry
      rw [get?]
      by_cases here : k = .text s
      · rw [if_pos (Atom.sameKey_text_iff.2 here)]
        subst here
        constructor
        · rintro ⟨⟩
          exact ⟨[], rest, rfl, List.not_mem_nil⟩
        · rintro ⟨before, after, split, first⟩
          cases before with
          | nil => cases split; rfl
          | cons other before => cases split; exact absurd List.mem_cons_self first
      · rw [if_neg (mt Atom.sameKey_text_iff.1 here), ih]
        constructor
        · rintro ⟨before, after, rfl, first⟩
          refine ⟨(k, w) :: before, after, rfl, ?_⟩
          simpa [keys, Ne.symm here] using first
        · rintro ⟨before, after, split, first⟩
          cases before with
          | nil => cases split; exact absurd rfl here
          | cons other before =>
              cases split
              exact ⟨before, after, rfl, fun member => first (List.mem_cons_of_mem _ member)⟩

namespace Value

variable {data v w : Value} {path : List Text}

/-- **What is looked up is what the names lead to.** -/
theorem lookup_eq_some_iff : data.lookup path = some v ↔ data.LeadsTo path v := by
  constructor
  · intro found
    induction path generalizing data with
    | nil => cases found; exact .here _
    | cons name names ih =>
        cases data with
        | atom | sequence => cases found
        | mapping kind entries =>
            rw [lookup] at found
            split at found
            · next inner there =>
              obtain ⟨before, after, rfl, first⟩ := Entries.get?_text_eq_some_iff.1 there
              exact .under first (ih found)
            · cases found
  · intro leads
    induction leads with
    | here => rfl
    | @under kind before after name names inner w first behind ih =>
        have there : Entries.get? (before ++ (.text name.wide, inner) :: after)
            (.text name.wide) = some inner :=
          Entries.get?_text_eq_some_iff.2 ⟨before, after, rfl, first⟩
        rw [lookup, there]
        exact ih

theorem lookup_eq_none_iff : data.lookup path = none ↔ ∀ v, ¬ data.LeadsTo path v := by
  simp only [Option.eq_none_iff_forall_ne_some, ne_eq, lookup_eq_some_iff]

theorem LeadsTo.unique (leads : data.LeadsTo path v) (leads' : data.LeadsTo path w) : v = w :=
  Option.some.inj ((lookup_eq_some_iff.2 leads).symm.trans (lookup_eq_some_iff.2 leads'))

end Value

end FieldTemplate
