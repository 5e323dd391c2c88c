import FieldTemplate.Template.Basic

/-!
# The fields of a template

The fields are the expressions of its nodes, each where it is used first
(`Template.mem_fields_iff`).  A node list behind another adds those of its fields that the
other does not have (`fieldsOf_append`).
-/

namespace FieldTemplate.Template

set_option autoImplicit false

theorem fieldsOf_congr {seen seen' : List Text} (same : ∀ e, e ∈ seen ↔ e ∈ seen')
    (nodes : List Node) : fieldsOf seen nodes = fieldsOf seen' nodes := by
  induction nodes generalizing seen seen' with
  | nil => rfl
  | cons node rest ih =>
      cases node with
      | text s => exact ih same
      | field path expr =>
          have same' : ∀ e, e ∈ expr :: seen ↔ e ∈ expr :: seen' := by simp [same]
          simp only [fieldsOf, same expr, ih same, ih same']

/-- What has been seen already is left out, and nothing else. -/
theorem fieldsOf_seen (more seen : List Text) (nodes : List Node) :
    fieldsOf (more ++ seen) nodes = (fieldsOf seen nodes).filter fun e => e ∉ more := by
  induction nodes generalizing seen with
  | nil => rfl
  | cons node rest ih =>
      cases node with
      | text s => exact ih seen
      | field path expr =>
          have moved : fieldsOf (expr :: (more ++ seen)) rest =
              fieldsOf (more ++ expr :: seen) rest :=
            fieldsOf_congr (by simp [or_left_comm]) rest
          by_cases old : expr ∈ seen
          · simp [fieldsOf, old, ih]
          · by_cases told : expr ∈ more
            · have absorbed : fieldsOf (more ++ seen) rest = fieldsOf (more ++ expr :: seen) rest :=
                fieldsOf_congr (by grind) rest
              simp [fieldsOf, old, told, absorbed, ih]
            · simp [fieldsOf, old, told, moved, ih]

/-- **A node list behind another adds the fields that are new.** -/
theorem fieldsOf_append (seen : List Text) (xs ys : List Node) :
    fieldsOf seen (xs ++ ys) =
      fieldsOf seen xs ++ (fieldsOf seen ys).filter fun e => e ∉ fieldsOf seen xs := by
  induction xs generalizing seen with
  | nil => exact fieldsOf_seen [] seen ys
  | cons x xs ih =>
      cases x with
      | text s => exact ih seen
      | field path expr =>
          by_cases old : expr ∈ seen
          · simp only [List.cons_append, fieldsOf, if_pos old, ih]
          · have without := fieldsOf_seen [expr] seen ys
            simp only [List.singleton_append] at without
            simp only [List.cons_append, fieldsOf, if_neg old, ih, without, List.filter_filter]
            congr 2
            apply List.filter_congr
            intro e _
            simp [Bool.and_comm]

theorem mem_fieldsOf_iff {seen : List Text} {nodes : List Node} {expr : Text} :
    expr ∈ fieldsOf seen nodes ↔ expr ∉ seen ∧ ∃ path, Node.field path expr ∈ nodes := by
  induction nodes generalizing seen with
  | nil => simp [fieldsOf]
  | cons node rest ih =>
      cases node with
      | text s => simp [fieldsOf, ih]
      | field path e =>
          by_cases old : e ∈ seen
          · rw [fieldsOf, if_pos old, ih]
            grind
          · rw [fieldsOf, if_neg old, List.mem_cons, ih]
            grind

/-- The fields are the expressions of the field nodes. -/
theorem mem_fields_iff {t : Template} {expr : Text} :
    expr ∈ t.fields ↔ ∃ path, Node.field path expr ∈ t.nodes := by
  simp [fields, mem_fieldsOf_iff]

end FieldTemplate.Template
