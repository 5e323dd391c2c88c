import FieldTemplate.Proofs.Stateful
import FieldTemplate.Proofs.Value.Nested
import FieldTemplate.Yaml.Value

/-!
# What a YAML text holds

Every mapping that is built has distinct keys: while the parts of a document are filled in, no
step spoils those that are there (`Build.KeepsDistinct`), and an entry is written to the key that it
has already.  What a document unfolds to is then nested dictionaries (`nested_of_readText`).
-/

namespace FieldTemplate.Yaml

set_option autoImplicit false

/-- All mappings among the parts have distinct keys. -/
def DistinctParts (parts : Array (Option Part)) : Prop :=
  ∀ number es, parts.getD number none = some (.entries es) →
    (es.map (·.1)).Pairwise fun a b => a.sameKey b = false

theorem distinctParts_set {parts : Array (Option Part)} (distinct : DistinctParts parts)
    (number : Nat) {p : Part}
    (new : ∀ es, p = .entries es → (es.map (·.1)).Pairwise fun a b => a.sameKey b = false) :
    DistinctParts (parts.setIfInBounds number (some p)) := by
  intro n es found
  rw [Array.getD_eq_getD_getElem?, Array.getElem?_setIfInBounds] at found
  split at found
  · split at found
    · exact new es (Option.some.inj found)
    · cases found
  · rw [← Array.getD_eq_getD_getElem?] at found
    exact distinct n es found

namespace Build

/-- A step that keeps the keys of all mappings distinct, and whose result is as told. -/
abbrev KeepsDistinct {α : Type} (x : Build α) (told : α → Prop) : Prop :=
  Keeps (fun st : Building => DistinctParts st.parts) (fun _ => True) x told

/-! ## Steps -/

theorem keeps_setPart (number : Nat) {p : Part}
    (new : ∀ es, p = .entries es → (es.map (·.1)).Pairwise fun a b => a.sameKey b = false) :
    KeepsDistinct (setPart number p) fun _ => True :=
  Keeps.modify fun _ distinct => distinctParts_set distinct number new

theorem keeps_wait (number : Nat) {p : Part} (empty : p.children = []) :
    KeepsDistinct (wait number p) fun _ => True := by
  refine (keeps_setPart number fun es same => ?_).bind fun _ _ =>
    Keeps.modify fun _ distinct => distinct
  subst same
  rw [List.map_eq_nil_iff.1 empty]
  exact .nil

theorem keeps_tagOf (number : Nat) : KeepsDistinct (tagOf number) fun _ => True :=
  Keeps.get.bind fun _ _ => Keeps.pure trivial

theorem keeps_contentOf (number : Nat) : KeepsDistinct (contentOf number) fun _ => True :=
  Keeps.get.bind fun _ _ => Keeps.pure trivial

theorem keeps_meet [Host] (number : Nat) : KeepsDistinct (meet number) fun _ => True := by
  refine Keeps.get.bind fun st _ => ?_
  split
  · exact Keeps.pure trivial
  refine (keeps_tagOf number).bind fun tag _ => ?_
  split
  · exact keeps_wait number rfl
  · exact keeps_wait number rfl
  · exact keeps_wait number rfl
  · exact keeps_wait number rfl
  · exact keeps_wait number rfl
  · exact Keeps.throw trivial
  · exact Keeps.throw trivial
  · exact Keeps.throw trivial
  · refine Keeps.get.bind fun st _ => Keeps.liftAny.bind fun s _ => ?_
    have scalar : KeepsDistinct (do setPart number (.atom (← Scalar.value tag s)))
        fun _ => True :=
      Keeps.liftAny.bind fun a _ => keeps_setPart number (by simp)
    split
    · exact (Keeps.throw trivial).bind fun _ (_ : True) => scalar
    · exact scalar

theorem keeps_pairOf [Host] (number : Nat) : KeepsDistinct (pairOf number) fun _ => True := by
  refine (keeps_contentOf number).bind fun content _ => ?_
  split
  · next key value =>
    exact (keeps_meet key).bind fun _ _ => (keeps_meet value).bind fun _ _ => Keeps.pure trivial
  · exact Keeps.throw trivial

/-- No two of the entries have the same key. -/
def DistinctKeyed (written : List Keyed) : Prop :=
  (written.map (·.key)).Pairwise fun a b => a.sameKey b = false

/-- An entry is added only if its key is new. -/
theorem keys_write (e : Keyed) (written : List Keyed) :
    (write e written).map (·.key) = written.map (·.key) ∨
      ((write e written).map (·.key) = written.map (·.key) ++ [e.key] ∧
        ∀ old ∈ written, old.key.sameKey e.key = false) := by
  induction written with
  | nil => exact .inr ⟨rfl, by simp⟩
  | cons old rest ih =>
      rw [write]
      split
      · exact .inl rfl
      · next other =>
        rcases ih with kept | ⟨added, absent⟩
        · exact .inl (by simp [kept])
        · rw [Bool.or_eq_true, not_or, Bool.not_eq_true, Bool.not_eq_true] at other
          exact .inr ⟨by simp [added], by simpa using ⟨other.2, absent⟩⟩

theorem DistinctKeyed.nil : DistinctKeyed [] := List.Pairwise.nil

theorem DistinctKeyed.write {written : List Keyed} (distinct : DistinctKeyed written) (e : Keyed) :
    DistinctKeyed (write e written) := by
  rw [DistinctKeyed]
  rcases keys_write e written with kept | ⟨added, absent⟩
  · rwa [kept]
  · rw [added]
    exact List.pairwise_append.2 ⟨distinct, List.pairwise_singleton _ _, by simpa using absent⟩

theorem keeps_entriesOf [Host] (number : Nat) :
    KeepsDistinct (entriesOf number) fun es =>
      (es.map (·.1)).Pairwise fun a b => a.sameKey b = false := by
  refine (keeps_contentOf number).bind fun content _ => ?_
  split
  · refine Keeps.get.bind fun st distinct => Keeps.liftAny.bind fun flattened _ => ?_
    obtain ⟨es, nodes⟩ := flattened
    have kept : KeepsDistinct (set { st with nodes := nodes }) fun _ : PUnit => True :=
      Keeps.set _ distinct
    refine kept.bind fun _ _ => ?_
    refine (Keeps.foldlM DistinctKeyed ?_ DistinctKeyed.nil es).bind fun written distinct =>
      Keeps.pure ?_
    · rintro written ⟨key, value⟩ distinct
      refine (keeps_meet key).bind fun _ _ => Keeps.get.bind fun st _ => ?_
      split
      · next a _ =>
        exact (keeps_meet value).bind fun _ _ => Keeps.pure (distinct.write ⟨key, a, value⟩)
      · exact Keeps.throw trivial
    · rwa [List.map_map]
  · exact Keeps.throw trivial

theorem keeps_fill [Host] (number : Nat) : KeepsDistinct (fill number) fun _ => True := by
  have pairs (items : List Nat) : KeepsDistinct (do setPart number (.pairs (← items.mapM pairOf)))
      fun _ => True :=
    (Keeps.mapM keeps_pairOf items).bind fun _ _ => keeps_setPart number (by simp)
  refine (keeps_tagOf number).bind fun tag _ => ?_
  split
  · refine (keeps_contentOf number).bind fun content _ => ?_
    split
    · next items =>
      exact (Keeps.forM keeps_meet items).bind fun _ _ => keeps_setPart number (by simp)
    · exact Keeps.throw trivial
  · refine (keeps_contentOf number).bind fun content _ => ?_
    split
    · next items => exact pairs items
    · exact Keeps.throw trivial
  · refine (keeps_contentOf number).bind fun content _ => ?_
    split
    · next items => exact pairs items
    · exact Keeps.throw trivial
  · refine (keeps_entriesOf number).bind fun es distinct => keeps_setPart number fun es' same => ?_
    cases same
    exact distinct
  · exact (keeps_entriesOf number).bind fun es _ => keeps_setPart number (by simp)
  · exact Keeps.pure trivial

theorem keeps_fillAll [Host] (fuel : Nat) : KeepsDistinct (fillAll fuel) fun _ => True := by
  induction fuel with
  | zero => exact Keeps.pure trivial
  | succ fuel ih =>
      rw [fillAll]
      refine Keeps.get.bind fun st _ => ?_
      split
      · exact Keeps.pure trivial
      · have emptied : KeepsDistinct (modify fun st => { st with waiting := [] }) fun _ => True :=
          Keeps.modify fun _ distinct => distinct
        exact emptied.bind fun _ _ => (Keeps.forM keeps_fill _).bind fun _ _ => ih

end Build

theorem distinctParts_of_parts [Host] {d : Document} {parts : Array (Option Part)}
    (done : d.parts = .ok parts) : DistinctParts parts := by
  have keeps := (Build.keeps_meet d.root).bind fun _ _ => Build.keeps_fillAll (d.nodes.size + 1)
  have start : DistinctParts (Array.replicate d.nodes.size none) := by
    intro number es found
    rw [Array.getD_eq_getD_getElem?, Array.getElem?_replicate] at found
    split at found <;> cases found
  rw [Document.parts, seqRight_eq_bind] at done
  cases run : StateT.run (Build.meet d.root >>= fun _ => Build.fillAll (d.nodes.size + 1))
      ⟨d.nodes, Array.replicate d.nodes.size none, []⟩ with
  | error e => rw [run] at done; cases done
  | ok last =>
      obtain ⟨_, st⟩ := last
      rw [run] at done
      cases done
      exact (keeps.ok start run).1

/-! ## Values -/

/-- Distinct parts unfold to nested dictionaries, to any depth. -/
theorem nested_unfold {parts : Array (Option Part)} (distinct : DistinctParts parts) (depth : Nat)
    (number : Nat) : (unfold parts depth number).Nested := by
  induction depth generalizing number with
  | zero =>
      rw [unfold]
      split
      · exact .atom _
      · exact .sequence _ _
      · exact .sequence _ _
      · exact .empty
      · exact .sequence _ _
      · exact .atom _
  | succ depth ih =>
      rw [unfold]
      split
      · exact .atom _
      · exact .sequence _ _
      · exact .sequence _ _
      · next es found =>
        refine .dict ?_ fun entry member => ?_
        · rw [Entries.Distinct, Entries.keys, List.map_map]
          exact distinct number es found
        · obtain ⟨e, -, rfl⟩ := List.mem_map.1 member
          exact ih e.2
      · exact .sequence _ _
      · exact .atom _

/-- **A YAML text holds nested dictionaries.** -/
theorem nested_of_readText [Host] {s : Text} {v : Value} (done : readText s = .ok v) :
    v.Nested := by
  rw [readText] at done
  split at done
  · cases done
  · cases done
    exact .atom .null
  · next d _ =>
    rw [Document.value] at done
    cases built : d.parts with
    | error e => rw [built] at done; cases done
    | ok parts =>
        rw [built] at done
        cases done
        exact nested_unfold (distinctParts_of_parts built) _ _

theorem nested_of_readBytes [Host] {bs : List UInt8} {v : Value} (done : readBytes bs = .ok v) :
    v.Nested := by
  rw [readBytes] at done
  split at done
  · exact nested_of_readText done
  · cases done

end FieldTemplate.Yaml
