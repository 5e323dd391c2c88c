/-!
# Readers with a state

`Keeps inv fault x told` says of a reader with a state that it keeps the invariant `inv`, that its
result is as `told`, and that it fails with the faults of `fault` only.  Each way of putting
readers together has a rule of its own.
-/

namespace FieldTemplate

set_option autoImplicit false

variable {σ ε α β : Type} {inv : σ → Prop} {fault : ε → Prop} {told : α → Prop} {told' : β → Prop}

structure Keeps (inv : σ → Prop) (fault : ε → Prop) (x : StateT σ (Except ε) α)
    (told : α → Prop) : Prop where
  ok : ∀ {st a st'}, inv st → x.run st = .ok (a, st') → inv st' ∧ told a
  error : ∀ {st e}, inv st → x.run st = .error e → fault e

namespace Keeps

theorem pure {a : α} (holds : told a) : Keeps inv fault (Pure.pure a) told where
  ok keeps done := by
    cases done
    exact ⟨keeps, holds⟩
  error _ failed := nomatch failed

theorem throw {e : ε} (holds : fault e) : Keeps inv fault (MonadExcept.throw e) told where
  ok _ done := nomatch done
  error _ failed := by
    cases failed
    exact holds

theorem bind {x : StateT σ (Except ε) α} {f : α → StateT σ (Except ε) β}
    (first : Keeps inv fault x told) (next : ∀ a, told a → Keeps inv fault (f a) told') :
    Keeps inv fault (x >>= f) told' where
  ok {st b st'} keeps done := by
    rw [StateT.run_bind] at done
    cases run : x.run st with
    | error e => rw [run] at done; cases done
    | ok result =>
        rw [run] at done
        obtain ⟨keeps', holds⟩ := first.ok keeps run
        exact (next result.1 holds).ok keeps' done
  error {st e} keeps failed := by
    rw [StateT.run_bind] at failed
    cases run : x.run st with
    | error e' =>
        rw [run] at failed
        cases failed
        exact first.error keeps run
    | ok result =>
        rw [run] at failed
        obtain ⟨keeps', holds⟩ := first.ok keeps run
        exact (next result.1 holds).error keeps' failed

theorem get : Keeps inv fault MonadState.get inv where
  ok keeps done := by
    cases done
    exact ⟨keeps, keeps⟩
  error _ failed := nomatch failed

theorem set (st : σ) (holds : inv st) :
    Keeps inv fault (MonadStateOf.set st) fun _ : PUnit => True where
  ok _ done := by
    cases done
    exact ⟨holds, trivial⟩
  error _ failed := nomatch failed

theorem modify {f : σ → σ} (keeps : ∀ st, inv st → inv (f st)) :
    Keeps inv fault (modify f) fun _ : PUnit => True where
  ok before done := by
    cases done
    exact ⟨keeps _ before, trivial⟩
  error _ failed := nomatch failed

theorem lift {x : Except ε α} (holds : ∀ a, x = .ok a → told a)
    (fails : ∀ e, x = .error e → fault e) : Keeps inv fault (liftM x) told where
  ok keeps done := by
    cases x with
    | error e => cases done
    | ok a => cases done; exact ⟨keeps, holds _ rfl⟩
  error _ failed := by
    cases x with
    | error e => cases failed; exact fails _ rfl
    | ok a => cases failed

theorem liftAny {x : Except ε α} :
    Keeps inv (fun _ => True) (liftM x : StateT σ (Except ε) α) fun _ => True :=
  lift (fun _ _ => trivial) fun _ _ => trivial

theorem map {x : StateT σ (Except ε) α} (f : α → β) (keeps : Keeps inv fault x told)
    (holds : ∀ a, told a → told' (f a)) : Keeps inv fault (f <$> x) told' := by
  rw [map_eq_pure_bind]
  exact keeps.bind fun a there => pure (holds a there)

theorem forM {f : α → StateT σ (Except ε) PUnit}
    (each : ∀ a, Keeps inv fault (f a) fun _ => True) (xs : List α) :
    Keeps inv fault (xs.forM f) fun _ => True := by
  induction xs with
  | nil => exact pure trivial
  | cons x xs ih => exact (each x).bind fun _ _ => ih

theorem mapM {f : α → StateT σ (Except ε) β}
    (each : ∀ a, Keeps inv fault (f a) fun _ => True) (xs : List α) :
    Keeps inv fault (xs.mapM f) fun _ => True := by
  induction xs with
  | nil => exact pure trivial
  | cons x xs ih =>
      rw [List.mapM_cons]
      exact (each x).bind fun _ _ => ih.bind fun _ _ => pure trivial

theorem foldlM (told : β → Prop) {f : β → α → StateT σ (Except ε) β}
    (each : ∀ b a, told b → Keeps inv fault (f b a) told) {b : β} (start : told b) (xs : List α) :
    Keeps inv fault (xs.foldlM f b) told := by
  induction xs generalizing b with
  | nil => exact pure start
  | cons x xs ih => exact (each b x start).bind fun _ holds => ih holds

end Keeps

end FieldTemplate
