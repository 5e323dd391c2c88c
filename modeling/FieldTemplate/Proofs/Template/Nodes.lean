import FieldTemplate.Template.Basic
import FieldTemplate.Proofs.Result
import FieldTemplate.Proofs.Template.Fault

/-!
# The nodes of a template

A template is made when its text can be read and every path in it is one
(`Template.compile_eq_ok_iff`).  A literal gives a text node, or nothing if it is empty
(`textNodes`), and a placeholder a field.  Where a path is bad, the first such path is reported
(`nodesOf_eq_error_iff`).
-/

namespace FieldTemplate

set_option autoImplicit false

/-- The nodes of a literal. -/
def textNodes (s : Text) : List Node := if s = [] then [] else [.text s]

theorem nodesOf_literalToken_append (s : Text) (c : Cursor) (tokens : List Token) :
    nodesOf (literalToken s c ++ tokens) = (nodesOf tokens).map (textNodes s ++ ·) := by
  by_cases empty : s = []
  · cases read : nodesOf tokens <;> simp [literalToken, textNodes, empty, read, Except.map]
  · simp [literalToken, textNodes, empty, nodesOf, Token.toNode]

theorem nodesOf_placeholder_cons_eq_ok_iff {path : Text} {offset : Nat} {tokens : List Token}
    {nodes : List Node} :
    nodesOf (.placeholder path offset :: tokens) = .ok nodes ↔
      ∃ segments rest, FieldPath.parse path = .ok segments ∧ nodesOf tokens = .ok rest ∧
        nodes = .field segments path :: rest := by
  cases parsed : FieldPath.parse path with
  | error e => simp [nodesOf, Token.toNode, parsed, Except.map]
  | ok segments =>
      have node : (Token.placeholder path offset).toNode = .ok (.field segments path) := by
        rw [Token.toNode, parsed]
        rfl
      simp [nodesOf, node, except_map_eq_ok_iff]

/-! ## All nodes or the first bad path -/

/-- The first path among tokens that is none. -/
def FirstBadPath (tokens : List Token) (path : Text) : Prop :=
  ∃ before offset after, tokens = before ++ .placeholder path offset :: after ∧
    FieldPath.parse path = .error ⟨path⟩ ∧
    ∀ earlier offset', .placeholder earlier offset' ∈ before →
      ∃ segments, FieldPath.parse earlier = .ok segments

theorem Token.parse_of_toNode {t : Token} {path : List Text} {expr : Text}
    (made : t.toNode = .ok (.field path expr)) : FieldPath.parse expr = .ok path := by
  cases t with
  | literal s offset => cases made
  | placeholder q offset =>
      obtain ⟨segments, parsed, same⟩ := except_map_eq_ok_iff.1 made
      cases same
      exact parsed

theorem FieldPath.eq_of_parse_error {path : Text} {e : PathError}
    (raised : FieldPath.parse path = .error e) : e = ⟨path⟩ := by
  rw [FieldPath.parse] at raised
  split at raised
  · cases raised
  · dsimp only at raised
    split at raised <;> cases raised
    rfl

theorem firstBadPath_literal_cons_iff {s : Text} {offset : Nat} {tokens : List Token}
    {path : Text} : FirstBadPath (.literal s offset :: tokens) path ↔ FirstBadPath tokens path := by
  constructor
  · rintro ⟨_ | ⟨t, before⟩, offset', after, shape, bad, good⟩
    · cases shape
    · obtain ⟨rfl, rfl⟩ := List.cons.inj shape
      exact ⟨before, offset', after, rfl, bad, fun q o member =>
        good q o (List.mem_cons_of_mem _ member)⟩
  · rintro ⟨before, offset', after, rfl, bad, good⟩
    exact ⟨.literal s offset :: before, offset', after, rfl, bad, by simpa using good⟩

theorem firstBadPath_placeholder_cons_iff {q : Text} {offset : Nat} {tokens : List Token}
    {path : Text} :
    FirstBadPath (.placeholder q offset :: tokens) path ↔
      (q = path ∧ FieldPath.parse q = .error ⟨q⟩) ∨
        ((∃ segments, FieldPath.parse q = .ok segments) ∧ FirstBadPath tokens path) := by
  constructor
  · rintro ⟨_ | ⟨t, before⟩, offset', after, shape, bad, good⟩
    · cases shape
      exact .inl ⟨rfl, bad⟩
    · obtain ⟨rfl, rfl⟩ := List.cons.inj shape
      exact .inr ⟨good q offset List.mem_cons_self, before, offset', after, rfl, bad,
        fun q' o member => good q' o (List.mem_cons_of_mem _ member)⟩
  · rintro (⟨rfl, bad⟩ | ⟨⟨segments, parsed⟩, before, offset', after, rfl, bad, good⟩)
    · exact ⟨[], offset, tokens, rfl, bad, by simp⟩
    · refine ⟨.placeholder q offset :: before, offset', after, rfl, bad, fun q' o member => ?_⟩
      rcases List.mem_cons.1 member with same | member
      · cases same
        exact ⟨segments, parsed⟩
      · exact good q' o member

theorem nodesOf_eq_mapM (tokens : List Token) : nodesOf tokens = tokens.mapM Token.toNode := by
  induction tokens with
  | nil => rfl
  | cons t rest ih =>
      rw [nodesOf, List.mapM_cons, ← ih]
      cases t.toNode with
      | error e => rfl
      | ok node => cases nodesOf rest <;> rfl

theorem nodesOf_eq_ok_iff {tokens : List Token} {nodes : List Node} :
    nodesOf tokens = .ok nodes ↔
      List.Forall₂ (fun t node => t.toNode = .ok node) tokens nodes := by
  rw [nodesOf_eq_mapM, mapM_eq_ok_iff]

/-- **Nodes cannot be made of tokens exactly if one of the paths is bad**, and the first such path
is the one reported. -/
theorem nodesOf_eq_error_iff {tokens : List Token} {e : PathError} :
    nodesOf tokens = .error e ↔ ∃ path, FirstBadPath tokens path ∧ e = ⟨path⟩ := by
  induction tokens with
  | nil => simp [nodesOf, FirstBadPath]
  | cons t rest ih =>
      cases t with
      | literal s offset =>
          simp only [firstBadPath_literal_cons_iff, ← ih, nodesOf, Token.toNode]
          cases nodesOf rest <;> simp [Except.map]
      | placeholder q offset =>
          simp only [firstBadPath_placeholder_cons_iff, nodesOf, Token.toNode]
          cases parsed : FieldPath.parse q with
          | error e' =>
              obtain rfl := FieldPath.eq_of_parse_error parsed
              simp [Except.map, eq_comm]
          | ok segments =>
              simp only [Except.map, Except.ok.injEq, exists_eq', true_and, reduceCtorEq, and_false,
                false_or, ← ih]
              cases nodesOf rest <;> simp

namespace Template

theorem compile_eq_ok_iff {source : Text} {t : Template} :
    compile source = .ok t ↔
      ∃ tokens nodes, tokenize source = .ok tokens ∧ nodesOf tokens = .ok nodes ∧
        t = ⟨nodes, source⟩ := by
  rw [compile]
  cases tokenize source with
  | error e => simp
  | ok tokens => simp [ofTokens, except_mapError_eq_ok_iff, except_map_eq_ok_iff]

/-- The path of a field is the one that its expression stands for. -/
theorem parse_of_mem_nodes {source : Text} {t : Template} (compiled : compile source = .ok t)
    {path : List Text} {expr : Text} (member : .field path expr ∈ t.nodes) :
    FieldPath.parse expr = .ok path := by
  obtain ⟨tokens, nodes, -, made, rfl⟩ := compile_eq_ok_iff.1 compiled
  exact forall_mem_of_forall₂ (p := fun node => node = .field path expr → _)
    (fun _ _ gives same => Token.parse_of_toNode (same ▸ gives)) (nodesOf_eq_ok_iff.1 made) _
    member rfl

end Template

end FieldTemplate
