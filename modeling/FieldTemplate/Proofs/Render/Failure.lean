import FieldTemplate.Proofs.Number.Decimal
import FieldTemplate.Proofs.Render.Lookup
import FieldTemplate.Proofs.Render.Rendering
import FieldTemplate.Proofs.Template.Fields

/-!
# What a rendering fails of

`Value.Fault` lists the values that have no text, and `Node.Fault` the nodes that lead to them.
A rendering fails of its first faulty node and of nothing else; the main statement is
`render_fails_exactly`.
-/

namespace FieldTemplate

set_option autoImplicit false

/-- The values that no expression may resolve to, and the error of each. -/
inductive Value.Fault (expr : Text) : Value → RenderError → Prop
  | mapping {kind : MappingKind} {entries : Entries} :
      Fault expr (.mapping kind entries) (.nonScalar expr)
  | sequence {kind : SequenceKind} {items : List Value} :
      Fault expr (.sequence kind items) (.nonScalar expr)
  | range {first stop : Int} : Fault expr (.atom (.range first stop)) (.nonScalar expr)
  | bytes {bs : List UInt8} : Fault expr (.atom (.bytes bs)) (.unsupported expr)
  | complex {re im : Binary64} : Fault expr (.atom (.complex re im)) (.unsupported expr)
  | object : Fault expr (.atom .object) (.unsupported expr)
  /-- An integer with more digits than are written. -/
  | integer {n : Int} :
      (10 : ℤ) ^ Text.digitLimit ≤ |n| → Fault expr (.atom (.int n)) (.scalar .integerLength)
  /-- A decimal that cannot be rounded to the precision below the greatest exponent. -/
  | decimal {negative : Bool} {coefficient : Nat} {exponent : Int} :
      Decimal.limit ≤ coefficient * (10 : ℚ) ^ exponent →
      Fault expr (.atom (.decimal (.finite negative coefficient exponent)))
        (.scalar .decimalOverflow)
  /-- A fraction that is rounded to no finite double. -/
  | fraction {q : Fraction} :
      (Binary64.limit : ℚ) ≤ |(q.num : ℚ) / q.den| →
      Fault expr (.atom (.fraction q)) (.scalar .fractionOverflow)

/-- The nodes that fail, and the error of each: a missing field only in strict mode. -/
inductive Node.Fault (strict : Bool) (data : Value) : Node → RenderError → Prop
  | missing {path : List Text} {expr : Text} :
      strict = true → (∀ v, ¬ data.LeadsTo path v) →
      Fault strict data (.field path expr) (.missing expr)
  | value {path : List Text} {expr : Text} {v : Value} {e : RenderError} :
      data.LeadsTo path v → v.Fault expr e → Fault strict data (.field path expr) e

/-! ## Conversions of numbers -/

theorem integerText_eq_error_iff {n : Int} {e : ScalarError} :
    integerText n = .error e ↔ (10 : ℤ) ^ Text.digitLimit ≤ |n| ∧ e = .integerLength := by
  have beyond : (10 : ℤ) ^ Text.digitLimit ≤ |n| ↔ ¬ n.natAbs < 10 ^ Text.digitLimit := by
    rw [Int.abs_eq_natAbs, not_lt]
    exact_mod_cast Iff.rfl
  rw [beyond, integerText, Text.ofInt?_eq]
  by_cases small : n.natAbs < 10 ^ Text.digitLimit
  · rw [if_pos small]
    exact iff_of_false nofun fun reaches => reaches.1 small
  · rw [if_neg small]
    simp only [small, not_false_iff, true_and, Except.error.injEq, eq_comm]

theorem Decimal.scalarText_finite_eq_error_iff {negative : Bool} {c : Nat} {exponent : Int}
    {e : ScalarError} :
    (Decimal.finite negative c exponent).scalarText = .error e ↔
      limit ≤ (c : ℚ) * 10 ^ exponent ∧ e = .decimalOverflow := by
  rw [← reduce?_eq_none_iff, scalarText]
  cases reduce? c exponent <;> simp [eq_comm]

/-- The limit of the doubles, without fractions. -/
theorem Binary64.limit_le_abs_iff (q : Fraction) :
    (limit : ℚ) ≤ |(q.num : ℚ) / q.den| ↔ limit * q.den ≤ q.num.natAbs := by
  have den_pos : (0 : ℚ) < q.den := by exact_mod_cast Nat.pos_of_ne_zero q.den_ne_zero.out
  rw [abs_div, abs_of_pos den_pos, le_div_iff₀ den_pos, ← Int.cast_abs, Int.abs_eq_natAbs]
  exact_mod_cast Iff.rfl

theorem Fraction.scalarText_eq_error_iff {q : Fraction} {e : ScalarError} :
    q.scalarText = .error e ↔
      (Binary64.limit : ℚ) ≤ |(q.num : ℚ) / q.den| ∧ e = .fractionOverflow := by
  rw [Binary64.limit_le_abs_iff,
    ← Binary64.ofRatio_eq_infinite_iff (q.num < 0) _ (Nat.pos_of_ne_zero q.den_ne_zero.out),
    scalarText]
  cases Binary64.ofRatio (q.num < 0) q.num.natAbs q.den <;> simp [eq_comm]

/-! ## One node -/

theorem renderValue_eq_error_iff {formatter : Formatter} {expr : Text} {v : Value}
    {e : RenderError} : renderValue formatter expr v = .error e ↔ v.Fault expr e := by
  -- a number fails of its conversion and passes its error on
  have number (x : Atom) (kind : x.kind = .number) :
      renderValue formatter expr (.atom x) = .error e ↔
        ∃ e', x.scalarText = .error e' ∧ e = .scalar e' := by
    rw [renderValue, Value.kind, kind, Value.scalarText]
    cases x.scalarText <;> simp [eq_comm]
  constructor
  · intro failed
    cases v with
    | mapping => cases failed; exact .mapping
    | sequence => cases failed; exact .sequence
    | atom a =>
        cases a with
        | null | text | bool | double | notANumber | date | timestamp | time => cases failed
        | range => cases failed; exact .range
        | bytes => cases failed; exact .bytes
        | complex => cases failed; exact .complex
        | object => cases failed; exact .object
        | int n =>
            obtain ⟨_, converted, rfl⟩ := (number _ rfl).1 failed
            obtain ⟨beyond, rfl⟩ := integerText_eq_error_iff.1 (except_map_eq_error_iff.1 converted)
            exact .integer beyond
        | decimal x =>
            cases x with
            | nan | infinite => cases failed
            | finite negative c exponent =>
                obtain ⟨_, converted, rfl⟩ := (number _ rfl).1 failed
                obtain ⟨beyond, rfl⟩ := Decimal.scalarText_finite_eq_error_iff.1
                  (except_map_eq_error_iff.1 converted)
                exact .decimal beyond
        | fraction q =>
            obtain ⟨_, converted, rfl⟩ := (number _ rfl).1 failed
            obtain ⟨beyond, rfl⟩ := Fraction.scalarText_eq_error_iff.1
              (except_map_eq_error_iff.1 converted)
            exact .fraction beyond
  · intro fault
    cases fault with
    | mapping | sequence | range | bytes | complex | object => rfl
    | integer beyond =>
        exact (number _ rfl).2 ⟨_, except_map_eq_error_iff.2
          (integerText_eq_error_iff.2 ⟨beyond, rfl⟩), rfl⟩
    | decimal beyond =>
        exact (number _ rfl).2 ⟨_, except_map_eq_error_iff.2
          (Decimal.scalarText_finite_eq_error_iff.2 ⟨beyond, rfl⟩), rfl⟩
    | fraction beyond =>
        exact (number _ rfl).2 ⟨_, except_map_eq_error_iff.2
          (Fraction.scalarText_eq_error_iff.2 ⟨beyond, rfl⟩), rfl⟩

theorem renderNode_eq_error_iff {mode : RenderMode} {data : Value} {node : Node}
    {e : RenderError} :
    (renderNode mode data node).result = .error e ↔ node.Fault mode.strict data e := by
  cases node with
  | text s => exact iff_of_false (by simp [renderNode, Rendering.text]) nofun
  | field path expr =>
      rw [renderNode]
      cases found : data.lookup path with
      | some v =>
          have leads := Value.lookup_eq_some_iff.1 found
          refine renderValue_eq_error_iff.trans ⟨.value leads, fun fault => ?_⟩
          cases fault with
          | missing _ absent => exact absurd leads (absent v)
          | value leads' fault =>
              obtain rfl := leads.unique leads'
              exact fault
      | none =>
          constructor
          · intro failed
            by_cases strict : mode.strict = true
            · rw [if_pos strict] at failed
              cases failed
              exact .missing strict (Value.lookup_eq_none_iff.1 found)
            · rw [if_neg strict] at failed
              cases failed
          · intro fault
            cases fault with
            | missing strict => rw [if_pos strict]; rfl
            | value leads => exact absurd leads (Value.lookup_eq_none_iff.1 found _)

/-! ## Nodes in sequence -/

/-- One rendering after another fails of the first one, or of the other if the first has a text. -/
theorem Rendering.append_result_eq_error_iff {a b : Rendering} {e : RenderError} :
    (a.append b).result = .error e ↔
      a.result = .error e ∨ (∀ e', a.result ≠ .error e') ∧ b.result = .error e := by
  rcases a with ⟨_, _ | first⟩
  · simp [append]
  · rcases b with ⟨_, _ | rest⟩ <;> simp [append, Except.map]

/-- The first node of a list that fails, and its error. -/
def FirstFault (strict : Bool) (data : Value) (nodes : List Node) (e : RenderError) : Prop :=
  ∃ before node after, nodes = before ++ node :: after ∧
    (∀ earlier ∈ before, ∀ e', ¬ earlier.Fault strict data e') ∧ node.Fault strict data e

theorem firstFault_cons_iff {strict : Bool} {data : Value} {node : Node} {rest : List Node}
    {e : RenderError} :
    FirstFault strict data (node :: rest) e ↔
      node.Fault strict data e ∨
        (∀ e', ¬ node.Fault strict data e') ∧ FirstFault strict data rest e := by
  constructor
  · rintro ⟨before, first, after, nodes, sound, fault⟩
    cases before with
    | nil => cases nodes; exact .inl fault
    | cons earlier before =>
        cases nodes
        exact .inr ⟨sound node List.mem_cons_self, before, first, after, rfl,
          fun n member => sound n (List.mem_cons_of_mem _ member), fault⟩
  · rintro (fault | ⟨sound, before, first, after, rfl, sound', fault⟩)
    · exact ⟨[], node, rest, rfl, by simp, fault⟩
    · exact ⟨node :: before, first, after, rfl, by simpa using ⟨sound, sound'⟩, fault⟩

/-- **A node list fails of its first faulty node.** -/
theorem renderNodes_eq_error_iff {mode : RenderMode} {data : Value} {nodes : List Node}
    {e : RenderError} :
    (renderNodes mode data nodes).result = .error e ↔ FirstFault mode.strict data nodes e := by
  induction nodes with
  | nil => simp [renderNodes, Rendering.text, FirstFault]
  | cons node rest ih =>
      rw [renderNodes, Rendering.append_result_eq_error_iff, firstFault_cons_iff, ih,
        renderNode_eq_error_iff]
      simp only [ne_eq, renderNode_eq_error_iff]

/-- Where any node is faulty, one of them is the first. -/
theorem exists_firstFault_iff {strict : Bool} {data : Value} {nodes : List Node} :
    (∃ e, FirstFault strict data nodes e) ↔ ∃ node ∈ nodes, ∃ e, node.Fault strict data e := by
  induction nodes with
  | nil => simp [FirstFault]
  | cons node rest ih =>
      simp only [firstFault_cons_iff, exists_or, exists_and_left, ih, List.mem_cons,
        exists_eq_or_imp]
      by_cases faulty : ∃ e, node.Fault strict data e
      · exact iff_of_true (.inl faulty) (.inl faulty)
      · simp [not_exists.1 faulty]

/-- The expression that an error of the renderer's own carries. -/
def RenderError.expr? : RenderError → Option Text
  | .missing expr | .nonScalar expr | .unsupported expr => some expr
  | .scalar _ => none

theorem Value.Fault.expr_eq {expr expr' : Text} {v : Value} {e : RenderError}
    (fault : v.Fault expr e) (carried : e.expr? = some expr') : expr' = expr := by
  cases fault <;> cases carried <;> rfl

theorem Node.Fault.exists_field {strict : Bool} {data : Value} {node : Node} {e : RenderError}
    {expr : Text} (fault : node.Fault strict data e) (carried : e.expr? = some expr) :
    ∃ path, node = .field path expr := by
  cases fault with
  | missing => cases carried; exact ⟨_, rfl⟩
  | value _ fault => exact ⟨_, by rw [fault.expr_eq carried]⟩

theorem Node.Fault.ne_notScalar {strict : Bool} {data : Value} {node : Node} {e : RenderError}
    (fault : node.Fault strict data e) (kind : ValueKind) : e ≠ .scalar (.notScalar kind) := by
  rintro rfl
  cases fault with
  | value _ fault => cases fault

/-- **A rendering fails exactly of its first faulty node, with the error of that node.**  An error
that carries an expression carries that of the node, which is among the fields of the template, and
no rendering asks for the scalar text of a value that has none. -/
theorem render_fails_exactly (t : Template) (mode : RenderMode) (data : Value) :
    ((∃ e, (t.render mode data).result = .error e) ↔
      ∃ node ∈ t.nodes, ∃ e, node.Fault mode.strict data e) ∧
    (∀ e, (t.render mode data).result = .error e ↔
      ∃ before node after, t.nodes = before ++ node :: after ∧
        (∀ earlier ∈ before, ∀ e', ¬ earlier.Fault mode.strict data e') ∧
        node.Fault mode.strict data e ∧
        ∀ expr, e.expr? = some expr → (∃ path, node = .field path expr) ∧ expr ∈ t.fields) ∧
    (∀ kind, (t.render mode data).result ≠ .error (.scalar (.notScalar kind))) := by
  have fails (e : RenderError) : (t.render mode data).result = .error e ↔
      FirstFault mode.strict data t.nodes e := renderNodes_eq_error_iff
  refine ⟨?_, fun e => ?_, fun kind failed => ?_⟩
  · simp only [fails, exists_firstFault_iff]
  · refine (fails e).trans ⟨?_, ?_⟩
    · rintro ⟨before, node, after, nodes, sound, fault⟩
      refine ⟨before, node, after, nodes, sound, fault, fun expr carried => ?_⟩
      obtain ⟨path, rfl⟩ := fault.exists_field carried
      exact ⟨⟨path, rfl⟩, Template.mem_fields_iff.2 ⟨path, by simp [nodes]⟩⟩
    · rintro ⟨before, node, after, nodes, sound, fault, -⟩
      exact ⟨before, node, after, nodes, sound, fault⟩
  · obtain ⟨_, node, _, _, _, fault⟩ := (fails _).1 failed
    exact fault.ne_notScalar kind rfl

/-- A list, an integer that is one digit too long, a decimal beyond the last exponent and a field
that is missing: the first one decides, and the missing one in strict mode only. -/
example :
    let data : Value := .dict [(.text "title".toList, .text "x".toList),
      (.text "tags".toList, .sequence .list []), (.text "count".toList, .atom (.int (10 ^ 4300))),
      (.text "price".toList, .atom (.decimal (.finite false 1 (10 ^ 6))))]
    let render (strict : Bool) (names : List String) :=
      (Template.render ⟨names.map fun s => .field [s.toList] s.toList, []⟩ ⟨id, strict⟩
        data).result
    render true ["title", "tags", "count"] = .error (.nonScalar "tags".toList) ∧
      render true ["title", "count", "tags"] = .error (.scalar .integerLength) ∧
      render true ["title", "gone", "price"] = .error (.missing "gone".toList) ∧
      render false ["title", "gone", "price"] = .error (.scalar .decimalOverflow) ∧
      render false ["title", "gone"] = .ok "x".toList := by
  decide +kernel

end FieldTemplate
