import FieldTemplate.Text.Wide
import Mathlib.Data.List.Basic

/-!
# Texts with and without surrogates

A wide text has a form without surrogates just if it is the wide form of that
(`WideText.text?_eq_some_iff`), and no two texts have one wide form (`Text.wide_inj`).
-/

namespace FieldTemplate

set_option autoImplicit false

namespace Text

theorem wide_injective : Function.Injective wide :=
  List.map_injective_iff.2 fun _ _ => CodePoint.char.inj

@[simp] theorem wide_inj {s t : Text} : s.wide = t.wide ↔ s = t := wide_injective.eq_iff

@[simp] theorem wide_eq_nil_iff {s : Text} : s.wide = [] ↔ s = [] := List.map_eq_nil_iff

end Text

namespace WideText

@[simp] theorem text?_wide (s : Text) : text? s.wide = some s := by
  induction s with
  | nil => rfl
  | cons c s ih => simp [text?, ih]

theorem text?_eq_some_iff {s : WideText} {t : Text} : s.text? = some t ↔ s = t.wide := by
  constructor
  · fun_induction text? s generalizing t with
    | case1 => rintro ⟨⟩; rfl
    | case2 c rest ih =>
        intro whole
        obtain ⟨tail, here, rfl⟩ := Option.map_eq_some_iff.1 whole
        rw [ih here, Text.wide_cons]
    | case3 => nofun
  · rintro rfl
    exact text?_wide t

end WideText

end FieldTemplate
