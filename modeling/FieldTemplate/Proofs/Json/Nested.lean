import FieldTemplate.Json.Reader
import FieldTemplate.Proofs.Result
import FieldTemplate.Proofs.Value.Nested

/-!
# What a JSON text holds

Objects are dictionaries with distinct names, at every level (`nested_of_read`).
-/

namespace FieldTemplate.Json

set_option autoImplicit false

theorem nested_of_word {w : String} {a : Atom} {bs rest : List UInt8} {v : Value}
    (done : word w a bs = .ok (v, rest)) : v.Nested := by
  rw [word] at done
  split at done <;> cases done
  exact .atom a

/-- The readers with a given fuel give nested dictionaries, the members on top of nested ones. -/
theorem nested_of_fuel [Host] (fuel : Nat) :
    (∀ level bs v rest, value level fuel bs = .ok (v, rest) → v.Nested) ∧
    (∀ level entries bs entries' rest, (Value.dict entries).Nested →
      members level fuel entries bs = .ok (entries', rest) → (Value.dict entries').Nested) := by
  induction fuel with
  | zero => exact ⟨by simp [value], by simp [members]⟩
  | succ fuel ih =>
      obtain ⟨values, objects⟩ := ih
      constructor
      · intro level bs v rest done
        rw [value] at done
        split at done
        · cases done
        split at done
        · -- an object
          split at done
          · cases done
          split at done
          · split at done
            · cases done
              exact .empty
            · obtain ⟨⟨entries, _⟩, inner, same⟩ := except_map_eq_ok_iff.1 done
              cases same
              exact objects _ [] _ entries _ .empty inner
          · cases done
        split at done
        · -- an array
          split at done
          · cases done
          split at done
          · split at done
            · cases done
              exact .sequence .list []
            · obtain ⟨⟨items, _⟩, -, same⟩ := except_map_eq_ok_iff.1 done
              cases same
              exact .sequence .list items
          · cases done
        split at done
        · obtain ⟨⟨s, _⟩, -, same⟩ := except_map_eq_ok_iff.1 done
          cases same
          exact .atom (.text s)
        split at done
        · exact nested_of_word done
        split at done
        · exact nested_of_word done
        split at done
        · exact nested_of_word done
        obtain ⟨⟨a, _⟩, -, same⟩ := except_map_eq_ok_iff.1 done
        cases same
        exact .atom a
      · intro level entries bs entries' rest nested done
        rw [members] at done
        split at done
        · split at done
          · cases done
          split at done
          · cases done
          · split at done
            · split at done
              · cases done
              split at done
              · cases done
              · next member =>
                have grown (name : Text) := nested.insert (.text name) (values _ _ _ _ member)
                split at done
                · split at done
                  · exact objects _ _ _ _ _ (grown _) done
                  · split at done <;> cases done
                    exact grown _
                · cases done
            · cases done
        · cases done

/-- **A JSON text holds nested dictionaries.** -/
theorem nested_of_read [Host] {bs : List UInt8} {v : Value} (done : read bs = .ok v) :
    v.Nested := by
  rw [read] at done
  split at done
  · cases done
  · next inner =>
    split at done <;> cases done
    exact (nested_of_fuel _).1 _ _ _ _ inner

end FieldTemplate.Json
