import FieldTemplate.Render.Note
import Mathlib.Data.List.Forall2

/-!
# Results and errors

What a result says of the one it was made from.
-/

namespace FieldTemplate

set_option autoImplicit false

theorem except_map_eq_ok_iff {ε α β : Type} {x : Except ε α} {f : α → β} {b : β} :
    x.map f = .ok b ↔ ∃ a, x = .ok a ∧ b = f a := by
  cases x <;> simp [Except.map, eq_comm]

theorem except_map_eq_error_iff {ε α β : Type} {x : Except ε α} {f : α → β} {e : ε} :
    x.map f = .error e ↔ x = .error e := by
  cases x <;> simp [Except.map]

theorem except_mapError_eq_ok_iff {ε δ α : Type} {x : Except ε α} {f : ε → δ} {a : α} :
    x.mapError f = .ok a ↔ x = .ok a := by
  cases x <;> simp [Except.mapError]

theorem except_mapError_eq_error_iff {ε δ α : Type} {x : Except ε α} {f : ε → δ} {d : δ} :
    x.mapError f = .error d ↔ ∃ e, x = .error e ∧ d = f e := by
  cases x <;> simp [Except.mapError, eq_comm]

theorem except_bind_eq_ok_iff {ε α β : Type} {x : Except ε α} {f : α → Except ε β} {b : β} :
    x.bind f = .ok b ↔ ∃ a, x = .ok a ∧ f a = .ok b := by
  cases x <;> simp [Except.bind]

/-! ## Lists that are read item by item -/

theorem mapM_eq_ok_iff {ε α β : Type} {f : α → Except ε β} {xs : List α} {ys : List β} :
    xs.mapM f = .ok ys ↔ List.Forall₂ (fun x y => f x = .ok y) xs ys := by
  induction xs generalizing ys with
  | nil => simp [pure, Except.pure, eq_comm (a := [])]
  | cons x rest ih =>
      rw [List.mapM_cons, List.forall₂_cons_left_iff]
      change ((f x).bind fun y => (rest.mapM f).bind fun ys => .ok (y :: ys)) = _ ↔ _
      simp only [except_bind_eq_ok_iff, ih, Except.ok.injEq]
      grind

theorem mapM_append_eq_ok_iff {ε α β : Type} {f : α → Except ε β} {xs xs' : List α} {ys : List β} :
    (xs ++ xs').mapM f = .ok ys ↔
      ∃ first rest, xs.mapM f = .ok first ∧ xs'.mapM f = .ok rest ∧ ys = first ++ rest := by
  rw [List.mapM_append]
  change ((xs.mapM f).bind fun first => (xs'.mapM f).bind fun rest => .ok (first ++ rest)) = _ ↔ _
  simp only [except_bind_eq_ok_iff, Except.ok.injEq, eq_comm (b := ys), exists_and_left]

theorem mapM_congr {ε α β : Type} {f g : α → Except ε β} {xs : List α}
    (same : ∀ x ∈ xs, f x = g x) : xs.mapM f = xs.mapM g := by
  induction xs with
  | nil => rfl
  | cons x rest ih =>
      obtain ⟨first, others⟩ := List.forall_mem_cons.1 same
      rw [List.mapM_cons, List.mapM_cons, first, ih others]

/-- **Reading a list fails with the first item that cannot be read.** -/
theorem mapM_eq_error_iff {ε α β : Type} {f : α → Except ε β} {xs : List α} {e : ε} :
    xs.mapM f = .error e ↔
      ∃ (i : Nat) (x : α), xs[i]? = some x ∧ f x = .error e ∧
        ∀ j < i, ∀ y, xs[j]? = some y → ∀ e', f y ≠ .error e' := by
  induction xs with
  | nil => simp [pure, Except.pure]
  | cons x rest ih =>
      rw [List.mapM_cons]
      change ((f x).bind fun y => (rest.mapM f).bind fun ys => .ok (y :: ys)) = _ ↔ _
      cases read : f x with
      | error e' =>
          constructor
          · rintro ⟨⟩
            exact ⟨0, x, rfl, read, by simp⟩
          · rintro ⟨_ | i, y, given, failed, sound⟩
            · cases given
              rw [read] at failed
              cases failed
              rfl
            · exact absurd read (sound 0 (Nat.succ_pos i) x rfl e')
      | ok y =>
          have behind : (rest.mapM f).bind (fun ys => .ok (y :: ys)) = .error e ↔
              rest.mapM f = .error e := by
            cases rest.mapM f <;> simp [Except.bind]
          refine behind.trans (ih.trans ⟨?_, ?_⟩)
          · rintro ⟨i, z, given, failed, sound⟩
            refine ⟨i + 1, z, given, failed, fun j before w there => ?_⟩
            cases j with
            | zero => cases there; simp [read]
            | succ j => exact sound j (Nat.lt_of_succ_lt_succ before) w there
          · rintro ⟨_ | i, z, given, failed, sound⟩
            · cases given
              rw [read] at failed
              cases failed
            · exact ⟨i, z, given, failed, fun j before w there =>
                sound (j + 1) (Nat.succ_lt_succ before) w there⟩

theorem split_of_getElem? {α : Type} {xs : List α} {i : Nat} {x : α} (given : xs[i]? = some x) :
    xs = xs.take i ++ x :: xs.drop (i + 1) := by
  obtain ⟨inside, rfl⟩ := List.getElem?_eq_some_iff.1 given
  rw [← List.drop_eq_getElem_cons inside, List.take_append_drop]

theorem take_congr {α : Type} {xs ys : List α} {n : Nat} (same : ∀ i < n, xs[i]? = ys[i]?) :
    xs.take n = ys.take n := by
  refine List.ext_getElem? fun i => ?_
  by_cases before : i < n
  · rw [List.getElem?_take_of_lt before, List.getElem?_take_of_lt before, same i before]
  · have behind : n ≤ i := Nat.le_of_not_lt before
    rw [List.getElem?_take_eq_none behind, List.getElem?_take_eq_none behind]

/-- What one read gives is true of all that is read. -/
theorem forall_mem_of_forall₂ {α β : Type} {R : α → β → Prop} {p : β → Prop}
    (holds : ∀ a b, R a b → p b) {as : List α} {bs : List β} (related : List.Forall₂ R as bs) :
    ∀ b ∈ bs, p b :=
  ((List.forall₂_and_left ..).1 (related.flip.imp fun b a r => ⟨holds a b r, r⟩)).1

/-- A list is read if each of its items is. -/
theorem exists_forall₂_iff {α β : Type} {R : α → β → Prop} {as : List α} :
    (∃ bs, List.Forall₂ R as bs) ↔ ∀ a ∈ as, ∃ b, R a b := by
  constructor
  · rintro ⟨bs, related⟩
    exact forall_mem_of_forall₂ (fun b a read => ⟨b, read⟩) related.flip
  · intro each
    induction as with
    | nil => exact ⟨[], .nil⟩
    | cons a rest ih =>
        obtain ⟨⟨b, first⟩, others⟩ := List.forall_mem_cons.1 each
        obtain ⟨bs, behind⟩ := ih others
        exact ⟨b :: bs, .cons first behind⟩

theorem exists_mapM_eq_ok_iff {ε α β : Type} {f : α → Except ε β} {xs : List α} :
    (∃ ys, xs.mapM f = .ok ys) ↔ ∀ x ∈ xs, ∃ y, f x = .ok y := by
  simp only [mapM_eq_ok_iff, exists_forall₂_iff]

/-- What holds of all that is read from the items of a list. -/
theorem forall_mem_of_mapM {ε α β : Type} {f : α → Except ε β} {p : β → Prop} {xs : List α}
    {ys : List β} (read : xs.mapM f = .ok ys) (holds : ∀ x ∈ xs, ∀ y, f x = .ok y → p y) :
    ∀ y ∈ ys, p y :=
  forall_mem_of_forall₂ (fun x y both => holds x both.1 y both.2)
    ((List.forall₂_and_left ..).2 ⟨fun _ member => member, mapM_eq_ok_iff.1 read⟩)

/-- What is read twice from the same list is related item by item. -/
theorem forall₂_of_common {α β γ : Type} {R : α → β → Prop} {S : α → γ → Prop} {T : β → γ → Prop}
    {as : List α} {bs : List β} {cs : List γ} (left : List.Forall₂ R as bs)
    (right : List.Forall₂ S as cs) (related : ∀ a b c, R a b → S a c → T b c) :
    List.Forall₂ T bs cs := by
  induction left generalizing cs with
  | nil => cases right; exact .nil
  | cons first _ ih =>
      cases right with
      | cons second rest => exact .cons (related _ _ _ first second) (ih rest)

/-- What holds of any two items of a list holds of what is read from them. -/
theorem pairwise_of_forall₂ {α β : Type} {R : α → β → Prop} {S : α → α → Prop} {T : β → β → Prop}
    {as : List α} {bs : List β} (read : List.Forall₂ R as bs)
    (transfer : ∀ a a' b b', R a b → R a' b' → S a a' → T b b') (pairs : as.Pairwise S) :
    bs.Pairwise T := by
  induction read with
  | nil => exact .nil
  | @cons a b as bs first rest ih =>
      obtain ⟨heads, pairs⟩ := List.pairwise_cons.1 pairs
      have behind : ∀ b' ∈ bs, T b b' :=
        forall_mem_of_forall₂ (fun a' b' both => transfer a a' b b' first both.2 both.1)
          ((List.forall₂_and_left ..).2 ⟨heads, rest⟩)
      exact .cons behind (ih pairs)

/-- An item that stands twice in a row is read twice, and it is the use of what is read that makes
no difference. -/
theorem mapM_bind_repeated {ε δ α β γ : Type} {f : α → Except ε β} {h : ε → δ}
    {g : List β → Except δ γ} {x : α}
    (same : ∀ y, f x = .ok y → ∀ ys zs, g (ys ++ y :: y :: zs) = g (ys ++ y :: zs))
    (before after : List α) :
    (((before ++ x :: x :: after).mapM f).mapError h).bind g =
      (((before ++ x :: after).mapM f).mapError h).bind g := by
  simp only [List.mapM_append, List.mapM_cons]
  cases before.mapM f with
  | error e => rfl
  | ok ys =>
      cases read : f x with
      | error e => rfl
      | ok y =>
          cases after.mapM f with
          | error e => rfl
          | ok zs => exact same y read ys zs

/-! ## Optional results -/

theorem optionRel_refl {α : Type} {r : α → α → Prop} (refl : ∀ a, r a a) (x : Option α) :
    Option.Rel r x x := by
  cases x with
  | none => exact .none
  | some a => exact .some (refl a)

theorem optionRel_trans {α : Type} {r : α → α → Prop}
    (trans : ∀ {a b c}, r a b → r b c → r a c) {x y z : Option α} (first : Option.Rel r x y)
    (second : Option.Rel r y z) : Option.Rel r x z := by
  cases first with
  | none => exact second
  | some related =>
      cases second with
      | some related' => exact .some (trans related related')

/-! ## Notes -/

/-- A last step that cannot fail changes the result and makes no note. -/
theorem Traced.bind_ofExcept_ok {ε α β : Type} (t : Traced ε α) (f : α → β) :
    (t.bind fun a => .ofExcept (.ok (f a))) = ⟨t.notes, t.result.map f⟩ := by
  rcases t with ⟨notes, _ | a⟩
  · rfl
  · simp [Traced.bind, Traced.ofExcept, Except.map]

end FieldTemplate
