import FieldTemplate.Proofs.Render.Rendering
import FieldTemplate.Proofs.Template.Path
import FieldTemplate.Proofs.Template.Spelling

/-!
# A single placeholder

Every path can stand between the delimiters, with any blanks around it
(`FieldPath.proper_placeholder`).  The template of it alone has the one field
(`Template.compile_placeholder`) and renders what the field does (`compile_placeholder_result`).
-/

namespace FieldTemplate

set_option autoImplicit false

open Text

variable {left path right : Text} {segments : List Text}

theorem FieldPath.isPath_of_parse (parsed : FieldPath.parse path = .ok segments) : IsPath path where
  nonempty := ne_nil_of_parse parsed
  trimmed := trimmed_of_parse parsed
  noOpening doubled := not_mem_of_parse parsed (by decide) (by decide)
    (doubled.subset List.mem_cons_self)
  noClosing doubled := not_mem_of_parse parsed (by decide) (by decide)
    (doubled.subset List.mem_cons_self)

theorem FieldPath.proper_placeholder (parsed : FieldPath.parse path = .ok segments)
    (blank : allBlank left = true) (blank' : allBlank right = true) :
    (Spelling.placeholder left path right).Proper := by
  refine ⟨blank, blank', isPath_of_parse parsed, fun last => ?_⟩
  exact absurd (List.mem_of_getLast? last) (not_mem_of_parse parsed (by decide) (by decide))

namespace Template

/-- **A path with blanks around it between the delimiters is a template of one field.** -/
theorem compile_placeholder (parsed : FieldPath.parse path = .ok segments)
    (blank : allBlank left = true) (blank' : allBlank right = true) :
    compile (opening ++ left ++ path ++ right ++ closing) =
      .ok ⟨[.field segments path], opening ++ left ++ path ++ right ++ closing⟩ := by
  have proper := FieldPath.proper_placeholder parsed blank blank'
  have read : lex (opening ++ left ++ path ++ right ++ closing) =
      ⟨[.placeholder path 0], none⟩ := by
    have body := lexFrom_placeholder (isBody_padded proper) [] .start
    rw [trim_padded blank blank' proper.2.2.1.trimmed, lexFrom_plain not_doubled_nil] at body
    simpa [lex, Lexing.prepend, literalToken, Cursor.start] using body
  refine compile_eq_ok_iff.2 ⟨_, _, tokenize_eq_ok_iff.2 read, ?_, rfl⟩
  exact nodesOf_placeholder_cons_eq_ok_iff.2 ⟨segments, [], parsed, rfl, rfl⟩

end Template

theorem renderNode_of_lookup {data v : Value} (found : data.lookup segments = some v) (expr : Text)
    (mode : RenderMode) :
    renderNode mode data (.field segments expr) = ⟨[], renderValue mode.formatter expr v⟩ := by
  rw [renderNode, found]

theorem compile_placeholder_result (parsed : FieldPath.parse path = .ok segments)
    (blank : allBlank left = true) (blank' : allBlank right = true) (data : Value)
    (mode : RenderMode) :
    (compile data (opening ++ left ++ path ++ right ++ closing) mode).result =
      (renderNode mode data (.field segments path)).result.mapError .render := by
  rw [compile_of_template (Template.compile_placeholder parsed blank blank'), Template.render,
    renderNodes, renderNodes, Rendering.append_text_nil]

end FieldTemplate
