import FieldTemplate.Config.Basic
import FieldTemplate.Proofs.Render.Rendering
import FieldTemplate.Proofs.Text.Wide

/-!
# Renderings without surrogates

Surrogates come from the texts of the data and from nowhere else: numbers and dates are written
without any, templates have none, and no formatter that has a name makes one
(`keepsEncodable_of_formatterFor`).  So a rendering has none if the texts that its fields lead to
have none (`encodable_of_renderNodes`).
-/

namespace FieldTemplate

set_option autoImplicit false

/-- Without surrogates, and so with a UTF-8 form. -/
def WideText.Encodable (s : WideText) : Prop := ∃ t : Text, s = t.wide

namespace WideText.Encodable

theorem wide (t : Text) : Encodable t.wide := ⟨t, rfl⟩

theorem nil : Encodable [] := wide []

theorem append {s s' : WideText} (first : s.Encodable) (rest : s'.Encodable) :
    (s ++ s').Encodable := by
  obtain ⟨t, rfl⟩ := first
  obtain ⟨t', rfl⟩ := rest
  exact ⟨t ++ t', (Text.wide_append t t').symm⟩

end WideText.Encodable

/-! ## Formatters -/

/-- Makes no surrogates where there are none. -/
def Formatter.KeepsEncodable (f : Formatter) : Prop := ∀ t : Text, (f t.wide).Encodable

theorem Html.escape_wide (t : Text) : escape t.wide = Text.wide (t.flatMap escapeChar) := by
  induction t with
  | nil => rfl
  | cons c t ih =>
      rw [escape] at ih ⊢
      simp [escapePoint, ih]

theorem FormatterName.keepsEncodable (name : FormatterName) (url : Url.Options) :
    (name.formatter url).KeepsEncodable := by
  intro t
  cases name with
  | identity => exact .wide t
  | html => exact ⟨_, Html.escape_wide t⟩
  | urlize => exact .wide _
  | markdown => exact ⟨Markdown.toHtml t, by simp [formatter, Markdown.toHtmlWide]⟩

theorem keepsEncodable_of_formatterFor {config : Config} {name : Option Text} {f : Formatter}
    (chosen : config.formatterFor name = .ok f) : f.KeepsEncodable := by
  unfold Config.formatterFor Formatter.named at chosen
  split at chosen
  · cases chosen
    exact config.formatter.keepsEncodable config.url
  · cases chosen
    exact config.formatter.keepsEncodable config.url
  · split at chosen
    · next n _ => cases chosen; exact n.keepsEncodable config.url
    · cases chosen

/-! ## Fields and nodes -/

/-- A scalar that is no text is written without surrogates. -/
theorem Value.encodable_of_scalarText {v : Value} {s : WideText} (written : v.scalarText = .ok s)
    (texts : ∀ t, v = .text t → t.Encodable) : s.Encodable := by
  cases v with
  | sequence => cases written
  | mapping => cases written
  | atom a =>
      cases a with
      | text t => cases written; exact texts s rfl
      | null | bytes | range | complex | object => cases written
      | bool | double | notANumber | date | timestamp | time =>
          cases written; exact .wide _
      | int | decimal | fraction =>
          obtain ⟨t, -, rfl⟩ := except_map_eq_ok_iff.1 written
          exact .wide t

/-- **A rendering has no surrogates** if no text has any that a field leads to. -/
theorem encodable_of_renderNodes {mode : RenderMode} {data : Value} {nodes : List Node}
    {s : WideText} (keeps : mode.formatter.KeepsEncodable)
    (texts : ∀ path expr, .field path expr ∈ nodes → ∀ t, data.lookup path = some (.text t) →
      t.Encodable)
    (rendered : (renderNodes mode data nodes).result = .ok s) : s.Encodable := by
  induction nodes generalizing s with
  | nil => cases rendered; exact .nil
  | cons node rest ih =>
      obtain ⟨first, behind, here, there, rfl⟩ := Rendering.append_result_eq_ok_iff.1 rendered
      refine .append ?_ (ih (fun path expr member => texts path expr (.tail _ member)) there)
      cases node with
      | text t => cases here; exact .wide t
      | field path expr =>
          rw [renderNode] at here
          cases found : data.lookup path with
          | none =>
              simp only [found] at here
              split at here
              · cases here
              · cases here; exact .nil
          | some v =>
              simp only [found] at here
              have own : ∀ t, v = .text t → t.Encodable := by
                rintro t rfl
                exact texts path expr (.head _) t found
              rcases renderValue_eq_ok here with ⟨-, rfl⟩ | ⟨scalar, written, rfl⟩
              · exact .nil
              · obtain ⟨t, rfl⟩ := v.encodable_of_scalarText written own
                exact keeps t

end FieldTemplate
