import FieldTemplate.Proofs.Result
import FieldTemplate.Proofs.Value.Nested
import FieldTemplate.Render.Basic
import Mathlib.Data.List.Pairwise
import Mathlib.Data.Option.Basic

/-!
# Values up to the order of entries

Two values are the same up to order if one becomes the other by reordering the entries of
dictionaries in it, at any depth (`Value.Reordered`).  Such values hold the same behind every path
(`Value.Reordered.lookup`), and they stay the same up to order when the same is written into both
(`Value.Reordered.insert`).
-/

namespace FieldTemplate

set_option autoImplicit false

/-! ## Reordered entries -/

namespace Entries

theorem get?_append (xs ys : Entries) (key : Atom) :
    Entries.get? (xs ++ ys) key = (xs.get? key).or (ys.get? key) := by
  induction xs with
  | nil => rfl
  | cons entry rest ih =>
      obtain ⟨k, v⟩ := entry
      rw [List.cons_append, get?, get?, ih]
      split <;> rfl

/-- A key is written where it stands, or else behind everything. -/
theorem insert_append (xs ys : Entries) (key : Atom) (value : Value) :
    Entries.insert (xs ++ ys) key value =
      if xs.get? key = none then xs ++ ys.insert key value else xs.insert key value ++ ys := by
  induction xs with
  | nil => rfl
  | cons entry rest ih =>
      obtain ⟨k, v⟩ := entry
      rw [List.cons_append, insert, insert, get?]
      by_cases here : k.sameKey key = true
      · simp [here]
      · simp only [here, ih, Bool.false_eq_true, if_false]
        split <;> rfl

/-- Where a key is written does not depend on what is written. -/
theorem exists_insert_eq (entries : Entries) (key : Atom) :
    ∃ before k after, ∀ value, entries.insert key value = before ++ (k, value) :: after := by
  induction entries with
  | nil => exact ⟨[], key, [], fun value => rfl⟩
  | cons entry rest ih =>
      obtain ⟨k, v⟩ := entry
      by_cases here : k.sameKey key = true
      · exact ⟨[], k, rest, fun value => by simp [insert, here]⟩
      · obtain ⟨before, k', after, same⟩ := ih
        exact ⟨(k, v) :: before, k', after, fun value => by simp [insert, here, same]⟩

/-- Writing a key twice is writing it once. -/
theorem insert_insert (entries : Entries) {key : Atom} (self : key.sameKey key = true)
    (v w : Value) : (entries.insert key v).insert key w = entries.insert key w := by
  induction entries with
  | nil => simp [insert, self]
  | cons entry rest ih =>
      obtain ⟨k, old⟩ := entry
      rw [insert, insert]
      by_cases here : k.sameKey key = true
      · simp [insert, here]
      · simp [insert, here, ih]

theorem Distinct.perm {a b : Entries} (distinct : a.Distinct) (perm : a.Perm b) : b.Distinct := by
  refine (perm.map _).pairwise distinct fun {x y} apart => ?_
  rw [Bool.eq_false_iff] at apart ⊢
  exact fun same => apart (Atom.sameKey_symm same)

theorem get?_perm {a b : Entries} (perm : a.Perm b) (distinct : a.Distinct) (key : Atom) :
    a.get? key = b.get? key := by
  induction perm with
  | nil => rfl
  | cons entry _ ih =>
      obtain ⟨k, v⟩ := entry
      rw [get?, get?, ih (distinct_cons_iff.1 distinct).2]
  | swap x y rest =>
      obtain ⟨kx, vx⟩ := x
      obtain ⟨ky, vy⟩ := y
      have apart : ky.sameKey kx = false := (distinct_cons_iff.1 distinct).1 kx List.mem_cons_self
      by_cases here : kx.sameKey key = true
      · have other : ky.sameKey key = false := by
          rw [← Atom.sameKey_congr_right here ky, apart]
        simp [get?, here, other]
      · simp [get?, here]
  | trans first _ ih ih' => exact (ih distinct).trans (ih' (distinct.perm first))

theorem insert_perm {a b : Entries} (perm : a.Perm b) (distinct : a.Distinct) (key : Atom)
    (value : Value) : (a.insert key value).Perm (b.insert key value) := by
  induction perm with
  | nil => exact .refl _
  | cons entry perm ih =>
      obtain ⟨k, v⟩ := entry
      rw [insert, insert]
      split
      · exact perm.cons _
      · exact (ih (distinct_cons_iff.1 distinct).2).cons _
  | swap x y rest =>
      obtain ⟨kx, vx⟩ := x
      obtain ⟨ky, vy⟩ := y
      have apart : ky.sameKey kx = false := (distinct_cons_iff.1 distinct).1 kx List.mem_cons_self
      by_cases here : kx.sameKey key = true
      · have other : ky.sameKey key = false := by
          rw [← Atom.sameKey_congr_right here ky, apart]
        simpa [insert, here, other] using List.Perm.swap ..
      · by_cases there : ky.sameKey key = true
        · simpa [insert, here, there] using List.Perm.swap ..
        · simpa [insert, here, there] using List.Perm.swap ..
  | trans first _ ih ih' => exact (ih distinct).trans (ih' (distinct.perm first))

/-- Two keys can be written in either order. -/
theorem insert_comm (entries : Entries) {key key' : Atom} (apart : key.sameKey key' = false)
    (v w : Value) :
    ((entries.insert key v).insert key' w).Perm ((entries.insert key' w).insert key v) := by
  have apart' : key'.sameKey key = false := by
    rw [Bool.eq_false_iff] at apart ⊢
    exact fun same => apart (Atom.sameKey_symm same)
  induction entries with
  | nil => simpa [insert, apart, apart'] using List.Perm.swap ..
  | cons entry rest ih =>
      obtain ⟨k, old⟩ := entry
      by_cases here : k.sameKey key = true
      · have other : k.sameKey key' = false := by rw [Atom.sameKey_congr here, apart]
        simp [insert, here, other]
      · by_cases there : k.sameKey key' = true
        · simp [insert, here, there]
        · simpa [insert, here, there] using ih

end Entries

/-! ## Reordered values -/

/-- The second value is the first one with the entries of dictionaries in another order, at any
depth. -/
inductive Value.Reordered : Value → Value → Prop
  | refl (v : Value) : Reordered v v
  | trans {u v w : Value} (first : Reordered u v) (second : Reordered v w) : Reordered u w
  | entries {a b : Entries} (perm : a.Perm b) : Reordered (.mapping .dict a) (.mapping .dict b)
  | within (before : Entries) (key : Atom) {v w : Value} (after : Entries)
    (inner : Reordered v w) :
    Reordered (.mapping .dict (before ++ (key, v) :: after))
      (.mapping .dict (before ++ (key, w) :: after))

namespace Value.Reordered

variable {u v w : Value} {a b : Entries}

theorem symm (same : Reordered v w) : Reordered w v := by
  induction same with
  | refl v => exact .refl v
  | trans _ _ ih ih' => exact .trans ih' ih
  | entries perm => exact .entries perm.symm
  | within before key after _ ih => exact .within before key after ih

/-- What is no dictionary has nothing to reorder. -/
theorem eq_or_dict (same : Reordered v w) :
    v = w ∨ ∃ a b : Entries, v = .mapping .dict a ∧ w = .mapping .dict b ∧
      (a.Distinct → b.Distinct) := by
  induction same with
  | refl v => exact .inl rfl
  | trans _ _ ih ih' =>
      rcases ih with rfl | ⟨a, b, rfl, rfl, first⟩
      · exact ih'
      · rcases ih' with rfl | ⟨_, c, ⟨⟩, rfl, second⟩
        · exact .inr ⟨a, b, rfl, rfl, first⟩
        · exact .inr ⟨a, c, rfl, rfl, second ∘ first⟩
  | entries perm => exact .inr ⟨_, _, rfl, rfl, fun distinct => distinct.perm perm⟩
  | within before key after inner ih =>
      exact .inr ⟨_, _, rfl, rfl, by simp [Entries.Distinct, Entries.keys]⟩

/-- What is shown of all steps of a reordering holds of the reordering. -/
theorem dict_induction {motive : Entries → Entries → Prop}
    (refl : ∀ a, a.Distinct → motive a a)
    (trans : ∀ a b c, motive a b → motive b c → motive a c)
    (entries : ∀ a b, a.Distinct → a.Perm b → motive a b)
    (within : ∀ before key v w after, Reordered v w →
      Entries.Distinct (before ++ (key, v) :: after) →
      motive (before ++ (key, v) :: after) (before ++ (key, w) :: after))
    (same : Reordered (.mapping .dict a) (.mapping .dict b)) (distinct : a.Distinct) :
    motive a b := by
  generalize first : Value.mapping .dict a = v at same
  generalize second : Value.mapping .dict b = w at same
  induction same generalizing a b with
  | refl v => cases first; cases second; exact refl a distinct
  | trans left right ih ih' =>
      -- between two dictionaries there is a third one, and its keys are distinct too
      subst first second
      rcases left.eq_or_dict with rfl | ⟨_, c, ⟨⟩, rfl, kept⟩
      · exact ih' distinct rfl rfl
      · exact trans _ _ _ (ih distinct rfl rfl) (ih' (kept distinct) rfl rfl)
  | entries perm => cases first; cases second; exact entries _ _ distinct perm
  | within before key after inner _ =>
      cases first
      cases second
      exact within _ _ _ _ _ inner distinct

/-- **Every key has the same value** up to order. -/
theorem get? (same : Reordered (.mapping .dict a) (.mapping .dict b)) (distinct : a.Distinct)
    (key : Atom) : Option.Rel Reordered (a.get? key) (b.get? key) := by
  refine dict_induction (motive := fun a b => Option.Rel Reordered (a.get? key) (b.get? key))
    ?refl ?trans ?entries ?within same distinct
  case refl => exact fun a _ => optionRel_refl .refl _
  case trans => exact fun a b c first second => optionRel_trans .trans first second
  case entries =>
    intro a b distinct perm
    rw [Entries.get?_perm perm distinct]
    exact optionRel_refl .refl _
  case within =>
    intro before k v w after inner _
    rw [Entries.get?_append, Entries.get?_append]
    cases Entries.get? before key with
    | some found => exact .some (.refl found)
    | none =>
        rw [Option.none_or, Option.none_or, Entries.get?, Entries.get?]
        split
        · exact .some inner
        · exact optionRel_refl .refl _

/-- **What is written into both stays the same** up to order. -/
theorem insert (same : Reordered (.mapping .dict a) (.mapping .dict b)) (distinct : a.Distinct)
    (key : Atom) (written : Reordered v w) :
    Reordered (.mapping .dict (a.insert key v)) (.mapping .dict (b.insert key w)) := by
  have replaced :
      Reordered (.mapping .dict (b.insert key v)) (.mapping .dict (b.insert key w)) := by
    obtain ⟨before, k, after, place⟩ := b.exists_insert_eq key
    rw [place, place]
    exact .within before k after written
  refine .trans (dict_induction (motive := fun a b =>
    Reordered (.mapping .dict (a.insert key v)) (.mapping .dict (b.insert key v)))
    ?refl ?trans ?entries ?within same distinct) replaced
  case refl => exact fun a _ => .refl _
  case trans => exact fun a b c first second => first.trans second
  case entries => exact fun a b distinct perm => .entries (Entries.insert_perm perm distinct key v)
  case within =>
    intro before k old new after inner _
    rw [Entries.insert_append, Entries.insert_append]
    split
    · rw [Entries.insert, Entries.insert]
      split
      · exact .refl _
      · exact .within before k _ inner
    · exact .within _ k after inner

/-- The nodes of a path are reordered one by one. -/
theorem lookup (same : Reordered v w) (nested : v.Nested) (path : List Text) :
    Option.Rel Reordered (v.lookup path) (w.lookup path) := by
  induction path generalizing v w with
  | nil => exact .some same
  | cons segment rest ih =>
      rcases same.eq_or_dict with rfl | ⟨a, b, rfl, rfl, -⟩
      · exact optionRel_refl .refl _
      · have found := same.get? nested.distinct (.text segment)
        rw [Value.lookup, Value.lookup]
        generalize here : a.get? (.text segment) = x, b.get? (.text segment) = y at found
        cases found with
        | none => exact .none
        | some inner => exact ih inner (nested.get? here)

end Value.Reordered

end FieldTemplate
