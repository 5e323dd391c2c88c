import FieldTemplate.Proofs.Yaml.LexFault
import FieldTemplate.Proofs.Yaml.Nodes
import FieldTemplate.Yaml.Value

/-!
# Scalars without a value

A text that the grammar lets through has a value unless one of its scalars has none or it is too
deep for the stack.  Resolving
merge keys changes no scalar (`Resolved`), and every step that fills in the parts of a document
fails with a broken grammar or with a scalar of the document that has no value (`Build.fails_meet`
and what is built on it).  Together with what is read from the tokens of a text this gives
`valueless_of_readText`: the reader fails because the grammar is broken, because of an escape, or
because of a scalar that stands in the text.
-/

namespace FieldTemplate.Yaml

set_option autoImplicit false

/-- Nodes that differ from the ones of a document in their merge keys and default keys only. -/
structure Resolved (nodes nodes' : Nodes) : Prop where
  tag : ∀ number, (nodes'.getD number default).tag = (nodes.getD number default).tag ∨
    (nodes.getD number default).tag = .default ∧ (nodes'.getD number default).tag = .str
  scalar : ∀ number s, nodes'.content number = .scalar s ↔ nodes.content number = .scalar s
  size : nodes'.size = nodes.size

/-! ## Resolving merge keys -/

namespace Nodes

theorem getD_modify (nodes : Nodes) (number n : Nat) (f : Node → Node) :
    (nodes.modify number f).getD n default =
      if number = n ∧ n < nodes.size then f (nodes.getD n default) else nodes.getD n default := by
  by_cases inside : n < nodes.size
  · simp [Array.getD, inside, Array.getElem_modify]
  · simp [Array.getD, inside]

end Nodes

namespace Resolved

variable {nodes nodes' : Nodes}

theorem refl (nodes : Nodes) : Resolved nodes nodes := ⟨fun _ => .inl rfl, fun _ _ => Iff.rfl, rfl⟩

theorem collection (resolved : Resolved nodes nodes') {number : Nat}
    (isCollection : ∀ s, nodes'.content number ≠ .scalar s) :
    ∀ s, nodes.content number ≠ .scalar s :=
  fun s same => isCollection s ((resolved.scalar number s).2 same)

/-- The entries of a collection can be changed. -/
theorem setEntries (resolved : Resolved nodes nodes') {number : Nat}
    (isCollection : ∀ s, nodes.content number ≠ .scalar s) (es : List (Nat × Nat)) :
    Resolved nodes (nodes'.setEntries number es) := by
  refine ⟨?_, ?_, (Array.size_modify ..).trans resolved.size⟩
  · intro n
    rw [Nodes.setEntries, Nodes.getD_modify]
    split
    · exact resolved.tag n
    · exact resolved.tag n
  · intro n s
    rw [Nodes.content, Nodes.setEntries, Nodes.getD_modify]
    split
    · next here =>
      obtain ⟨rfl, -⟩ := here
      exact iff_of_false nofun (isCollection s)
    · exact resolved.scalar n s

theorem asText (resolved : Resolved nodes nodes') (number : Nat) :
    Resolved nodes (nodes'.asText number) := by
  refine ⟨?_, ?_, (Array.size_modify ..).trans resolved.size⟩
  · intro n
    rw [Nodes.asText, Nodes.getD_modify]
    split
    · split
      · next isDefault =>
        rcases resolved.tag n with same | ⟨-, isText⟩
        · exact .inr ⟨same.symm.trans isDefault, rfl⟩
        · cases isText.symm.trans isDefault
      · exact resolved.tag n
    · exact resolved.tag n
  · intro n s
    rw [Nodes.content, Nodes.asText, Nodes.getD_modify]
    split
    · split <;> exact resolved.scalar n s
    · exact resolved.scalar n s

theorem foldl_asText (resolved : Resolved nodes nodes') (es : List (Nat × Nat)) :
    Resolved nodes (es.foldl (fun nodes e => nodes.asText e.1) nodes') := by
  induction es generalizing nodes' with
  | nil => exact resolved
  | cons e es ih => exact ih (resolved.asText e.1)

end Resolved

/-- What a document holds under a number has been read, or it is the scalar that is not written. -/
theorem isRead_getD {tokens : List Token} {nodes : Nodes} (reads : ∀ n ∈ nodes, n.IsRead tokens)
    (number : Nat) : Node.IsRead tokens (nodes.getD number default) := by
  by_cases inside : number < nodes.size
  · have there : nodes.getD number default = nodes[number] := by simp [Array.getD, inside]
    rw [there]
    exact reads _ (Array.getElem_mem inside)
  · have beyond : nodes.getD number default = Node.empty := by simp [Array.getD, inside]; rfl
    rw [beyond]
    exact Node.isRead_empty tokens

/-- A collection has the tag of a collection unless another one is written in front of it. -/
theorem CollectionTagIn.exists_ofText {tokens : List Token} {tag : Tag}
    (tagged : CollectionTagIn tokens tag) (sequence : tag ≠ .seq) (mapping : tag ≠ .map) :
    ∃ text, TagIn tokens text ∧ tag = Tag.ofText text := by
  obtain ⟨text, usual, named, isUsual, rfl⟩ := tagged
  rw [Node.collectionTag] at sequence mapping ⊢
  split
  · next untagged =>
    rw [if_pos untagged] at sequence mapping
    rcases isUsual with rfl | rfl
    · exact absurd rfl sequence
    · exact absurd rfl mapping
  · cases text with
    | none => next tagged => exact absurd rfl tagged
    | some t => exact ⟨t, named t rfl, rfl⟩

section

variable [Host]

/-- Why a document has no value. -/
inductive Nodes.Lacks (nodes : Nodes) : YamlError → Prop
  | scalar {number : Nat} {s : WideText} {e : YamlError}
    (content : nodes.content number = .scalar s)
    (fault : Scalar.value (nodes.getD number default).tag s = .error e) : Lacks nodes e
  /-- A collection with the tag of a scalar, for which one of its entries stands. -/
  | standIn {number number' : Nat} {s : WideText} {e : YamlError}
    (collection : ∀ s, nodes.content number ≠ .scalar s)
    (content : nodes.content number' = .scalar s)
    (fault : Scalar.value (nodes.getD number default).tag s = .error e) : Lacks nodes e
  | timestampMapping {number : Nat} (collection : ∀ s, nodes.content number ≠ .scalar s)
    (tag : (nodes.getD number default).tag = .timestamp) : Lacks nodes .timestampMapping
  /-- A collection with another tag than those of collections that stands for itself. -/
  | endless {number : Nat} (collection : ∀ s, nodes.content number ≠ .scalar s)
    (sequence : (nodes.getD number default).tag ≠ .seq)
    (mapping : (nodes.getD number default).tag ≠ .map) : Lacks nodes .endless
  /-- Mappings are merged into each other for which the stack has no room. -/
  | mergeKey {nodes' : Nodes} {level : Nat} (resolved : Resolved nodes nodes')
    (inside : level ≤ nodes'.mergeFuel) (full : Host.room .mergeKey level = false) :
    Lacks nodes .tooDeep
  /-- Mappings stand for each other for which the stack has no room. -/
  | standsIn {level : Nat} (inside : level ≤ nodes.size)
    (full : Host.room .standIn level = false) : Lacks nodes .tooDeep

namespace Nodes

variable {nodes : Nodes}

/-- Resolving merge keys fails with the grammar, or where the stack has no room for so many mappings
that are merged into each other. -/
def Unresolved (bound : Nat) (e : YamlError) : Prop :=
  e = .malformed ∨ e = .tooDeep ∧ ∃ level ≤ bound, Host.room .mergeKey level = false

/-- A step of resolving merge keys. -/
abbrev Resolves {α : Type} (nodes : Nodes) (bound : Nat) (x : Edit α) : Prop :=
  Keeps (Resolved nodes) (Unresolved bound) x fun _ => True

theorem resolves_takeMerge {number bound : Nat}
    (isCollection : ∀ s, nodes.content number ≠ .scalar s) :
    Resolves nodes bound (takeMerge? number) := by
  refine Keeps.get.bind fun nodes' resolved => ?_
  dsimp only
  split
  · exact Keeps.pure trivial
  · have kept (es : List (Nat × Nat)) : Keeps (Resolved nodes) (Unresolved bound)
        (set (nodes'.setEntries number es)) fun _ : PUnit => True :=
      Keeps.set _ (resolved.setEntries isCollection es)
    exact (kept _).bind fun _ _ => Keeps.pure trivial

/-- The fuel lasts for more levels than there are, so that it is never what is missing. -/
theorem resolves_flatten {bound fuel : Nat} :
    ∀ number level, level + fuel ≤ bound → (∀ s, nodes.content number ≠ .scalar s) →
      Resolves nodes bound (takeMerged number level fuel) ∧
        Resolves nodes bound (flatten number level fuel) := by
  induction fuel with
  | zero => exact fun _ _ _ _ => ⟨Keeps.throw (.inl rfl), Keeps.throw (.inl rfl)⟩
  | succ fuel ih =>
      intro number level inside isCollection
      have below : level + fuel ≤ bound := by omega
      have deeper : level + 1 + fuel ≤ bound := by omega
      constructor
      · rw [takeMerged]
        refine (resolves_takeMerge isCollection).bind fun source _ => ?_
        split
        · exact Keeps.pure trivial
        · next source =>
          have behind (taken : List (Nat × Nat)) :
              Resolves nodes bound (do return taken ++ (← takeMerged number level fuel)) :=
            (ih number level below isCollection).1.bind fun _ _ => Keeps.pure trivial
          refine Keeps.get.bind fun nodes' resolved => ?_
          split
          · next es content =>
            have isCollection' : ∀ s, nodes.content source ≠ .scalar s :=
              resolved.collection fun s same => by rw [content] at same; cases same
            exact (ih source _ deeper isCollection').2.bind fun taken _ => behind taken
          · next items _ =>
            refine (Keeps.mapM (fun item => ?_) items).bind fun parts _ => behind _
            refine Keeps.get.bind fun nodes' resolved => ?_
            split
            · next es content =>
              have isCollection' : ∀ s, nodes.content item ≠ .scalar s :=
                resolved.collection fun s same => by rw [content] at same; cases same
              exact (ih item _ deeper isCollection').2
            · exact Keeps.throw (.inl rfl)
          · have broken : Resolves nodes bound (throw .malformed : Edit (List (Nat × Nat))) :=
              Keeps.throw (.inl rfl)
            exact broken.bind fun taken _ => behind taken
      · rw [flatten]
        have flattened : Resolves nodes bound (do
            let merged ← takeMerged number level fuel
            let es := merged ++ (← get).entries number
            modify fun nodes =>
              es.foldl (fun nodes e => nodes.asText e.1) (nodes.setEntries number es)
            return es) := by
          refine (ih number level below isCollection).1.bind fun merged _ => ?_
          refine Keeps.get.bind fun nodes' _ => ?_
          have kept : Keeps (Resolved nodes) (Unresolved bound)
              (modify fun nodes => (merged ++ nodes'.entries number).foldl
                (fun nodes e => nodes.asText e.1)
                (nodes.setEntries number (merged ++ nodes'.entries number)))
              fun _ : PUnit => True :=
            Keeps.modify fun _ resolved => (resolved.setEntries isCollection _).foldl_asText _
          exact kept.bind fun _ _ => Keeps.pure trivial
        split
        · next full =>
          have broken : Resolves nodes bound (throw .tooDeep : Edit PUnit) :=
            Keeps.throw (.inr ⟨rfl, level, by omega, by simpa using full⟩)
          exact broken.bind fun _ _ => flattened
        · exact flattened

/-! ## The text of a scalar -/

/-- It is the node's own, or that of another one if the node is a collection. -/
theorem content_of_scalarText {number level fuel : Nat} {s : WideText}
    (done : nodes.scalarText number level fuel = .ok s) :
    nodes.content number = .scalar s ∨
      (∀ s, nodes.content number ≠ .scalar s) ∧ ∃ number', nodes.content number' = .scalar s := by
  induction fuel generalizing number level with
  | zero => cases done
  | succ fuel ih =>
      rw [scalarText] at done
      split at done
      · cases done
      split at done
      · next content =>
        cases done
        exact .inl content
      · cases done
      · next content =>
        refine .inr ⟨fun s same => (by rw [content] at same; cases same), ?_⟩
        split at done
        · rcases ih done with own | ⟨-, other⟩
          · exact ⟨_, own⟩
          · exact other
        · cases done

/-- Why a node has no scalar text. -/
inductive Textless (nodes : Nodes) (number bound : Nat) : YamlError → Prop
  | malformed : Textless nodes number bound .malformed
  | endless (isCollection : ∀ s, nodes.content number ≠ .scalar s) :
    Textless nodes number bound .endless
  | tooDeep {level : Nat} (inside : level ≤ bound) (full : Host.room .standIn level = false) :
    Textless nodes number bound .tooDeep

theorem textless_of_scalarText {number level fuel bound : Nat} {e : YamlError}
    (inside : level + fuel ≤ bound)
    (failed : nodes.scalarText number level (fuel + 1) = .error e) :
    Textless nodes number bound e := by
  have here : level ≤ bound := Nat.le_of_add_right_le inside
  induction fuel generalizing number level with
  | zero =>
      rw [scalarText] at failed
      split at failed
      · next full =>
        cases failed
        exact .tooDeep here (by simpa using full)
      split at failed
      · cases failed
      · cases failed
        exact .malformed
      · next content =>
        split at failed
        · cases failed
          exact .endless fun s same => (by rw [content] at same; cases same)
        · cases failed
          exact .malformed
  | succ fuel ih =>
      rw [scalarText] at failed
      split at failed
      · next full =>
        cases failed
        exact .tooDeep here (by simpa using full)
      split at failed
      · cases failed
      · cases failed
        exact .malformed
      · next content =>
        split at failed
        · cases ih (by omega) failed (by omega) with
          | malformed => exact .malformed
          | tooDeep inside full => exact .tooDeep inside full
          | endless => exact .endless fun s same => (by rw [content] at same; cases same)
        · cases failed
          exact .malformed

end Nodes

/-! ## Filling in parts -/

namespace Build

variable {nodes : Nodes}

/-- A step that changes no scalar and fails for lack of a value only, or with the grammar. -/
abbrev Fills {α : Type} (nodes : Nodes) (x : Build α) (told : α → Prop) : Prop :=
  Keeps (fun st : Building => Resolved nodes st.nodes) (fun e => e = .malformed ∨ nodes.Lacks e)
    x told

theorem fills_malformed {α : Type} {told : α → Prop} :
    Fills nodes (throw .malformed : Build α) told :=
  Keeps.throw (.inl rfl)

theorem fills_setPart (number : Nat) (p : Part) : Fills nodes (setPart number p) fun _ => True :=
  Keeps.modify fun _ resolved => resolved

theorem fills_wait (number : Nat) (p : Part) : Fills nodes (wait number p) fun _ => True :=
  (fills_setPart number p).bind fun _ _ => Keeps.modify fun _ resolved => resolved

theorem fills_tagOf (number : Nat) :
    Fills nodes (tagOf number) fun tag => tag = (nodes.getD number default).tag ∨
      (nodes.getD number default).tag = .default ∧ tag = .str :=
  Keeps.get.bind fun _ resolved => Keeps.pure (resolved.tag number)

theorem fills_contentOf (number : Nat) :
    Fills nodes (contentOf number) fun content =>
      ∀ s, content = .scalar s ↔ nodes.content number = .scalar s :=
  Keeps.get.bind fun _ resolved => Keeps.pure (resolved.scalar number)

/-- The value of a scalar by the tag of its node. -/
theorem fills_value {number : Nat} {s : WideText} {tag : Tag}
    (tagged : tag = (nodes.getD number default).tag ∨
      (nodes.getD number default).tag = .default ∧ tag = .str)
    (written : nodes.content number = .scalar s ∨
      (∀ s, nodes.content number ≠ .scalar s) ∧ ∃ number', nodes.content number' = .scalar s) :
    Fills nodes (liftM (Scalar.value tag s) : Build Atom) fun _ => True := by
  refine Keeps.lift (fun _ _ => trivial) fun e fault => .inr ?_
  rcases tagged with rfl | ⟨-, rfl⟩
  · rcases written with content | ⟨isCollection, number', content⟩
    · exact .scalar content fault
    · exact .standIn isCollection content fault
  · cases fault

theorem fills_meet (number : Nat) : Fills nodes (meet number) fun _ => True := by
  refine Keeps.get.bind fun st _ => ?_
  split
  · exact Keeps.pure trivial
  refine (fills_tagOf number).bind fun tag tagged => ?_
  split
  · exact fills_wait number _
  · exact fills_wait number _
  · exact fills_wait number _
  · exact fills_wait number _
  · exact fills_wait number _
  · exact fills_malformed
  · exact fills_malformed
  · exact fills_malformed
  next notSequence _ _ notMapping _ _ _ _ =>
  have foreign : (nodes.getD number default).tag ≠ .seq ∧
      (nodes.getD number default).tag ≠ .map := by
    rcases tagged with rfl | ⟨isDefault, -⟩
    · exact ⟨notSequence, notMapping⟩
    · rw [isDefault]
      exact ⟨nofun, nofun⟩
  refine Keeps.get.bind fun st resolved => ?_
  have text : Fills nodes
      (liftM (st.nodes.scalarText number 0 (st.nodes.size + 1)) : Build WideText) fun s =>
      nodes.content number = .scalar s ∨
        (∀ s, nodes.content number ≠ .scalar s) ∧ ∃ number', nodes.content number' = .scalar s := by
    refine Keeps.lift (fun s done => ?_) fun e failed => ?_
    · rcases Nodes.content_of_scalarText done with own | ⟨isCollection, number', other⟩
      · exact .inl ((resolved.scalar _ _).1 own)
      · exact .inr ⟨resolved.collection isCollection, number', (resolved.scalar _ _).1 other⟩
    · have inside : 0 + st.nodes.size ≤ nodes.size := by simp [resolved.size]
      cases Nodes.textless_of_scalarText inside failed with
      | malformed => exact .inl rfl
      | endless isCollection =>
          exact .inr (.endless (resolved.collection isCollection) foreign.1 foreign.2)
      | tooDeep inside full => exact .inr (.standsIn inside full)
  refine text.bind fun s written => ?_
  have filled : Fills nodes (do setPart number (.atom (← Scalar.value tag s))) fun _ => True :=
    (fills_value tagged written).bind fun a _ => fills_setPart number _
  split
  · next es same =>
    obtain ⟨rfl, content⟩ := Prod.mk.inj same
    have stamped : nodes.Lacks .timestampMapping := by
      have tag := (tagged.resolve_right fun isText => nomatch isText.2).symm
      refine .timestampMapping (resolved.collection fun s same => ?_) tag
      rw [content] at same
      cases same
    have fails : Fills nodes (throw .timestampMapping : Build PUnit) fun _ => True :=
      Keeps.throw (.inr stamped)
    exact fails.bind fun _ _ => filled
  · exact filled

theorem fills_pairOf (number : Nat) : Fills nodes (pairOf number) fun _ => True := by
  refine (fills_contentOf number).bind fun content _ => ?_
  split
  · next key value _ =>
    exact (fills_meet key).bind fun _ _ => (fills_meet value).bind fun _ _ => Keeps.pure trivial
  · exact fills_malformed

theorem fills_entriesOf (number : Nat) : Fills nodes (entriesOf number) fun _ => True := by
  refine (fills_contentOf number).bind fun content same => ?_
  split
  · have isCollection : ∀ s, nodes.content number ≠ .scalar s :=
      fun s scalar => nomatch (same s).2 scalar
    refine Keeps.get.bind fun st resolved => ?_
    have flattens := (@Nodes.resolves_flatten _ nodes st.nodes.mergeFuel st.nodes.mergeFuel number 0
      (Nat.le_of_eq (Nat.zero_add _)) isCollection).2
    have flattened : Fills nodes
        (liftM ((Nodes.flatten number 0 st.nodes.mergeFuel).run st.nodes) :
          Build (List (Nat × Nat) × Nodes)) fun result => Resolved nodes result.2 := by
      refine Keeps.lift (fun result done => (flattens.ok resolved done).1) fun e failed => ?_
      rcases flattens.error resolved failed with malformed | ⟨rfl, level, inside, full⟩
      · exact .inl malformed
      · exact .inr (.mergeKey resolved inside full)
    refine flattened.bind fun result resolved' => ?_
    obtain ⟨es, nodes'⟩ := result
    have kept : Fills nodes (set { st with nodes := nodes' }) fun _ : PUnit => True :=
      Keeps.set _ resolved'
    refine kept.bind fun _ _ => ?_
    refine (Keeps.foldlM (fun _ => True) ?_ trivial es).bind fun written _ => Keeps.pure trivial
    rintro written ⟨key, value⟩ -
    refine (fills_meet key).bind fun _ _ => Keeps.get.bind fun st _ => ?_
    split
    · exact (fills_meet value).bind fun _ _ => Keeps.pure trivial
    · exact fills_malformed
  · exact fills_malformed

theorem fills_fill (number : Nat) : Fills nodes (fill number) fun _ => True := by
  have pairs (items : List Nat) : Fills nodes (do setPart number (.pairs (← items.mapM pairOf)))
      fun _ => True :=
    (Keeps.mapM fills_pairOf items).bind fun _ _ => fills_setPart number _
  refine (fills_tagOf number).bind fun tag _ => ?_
  split
  · refine (fills_contentOf number).bind fun content _ => ?_
    split
    · next items _ =>
      exact (Keeps.forM fills_meet items).bind fun _ _ => fills_setPart number _
    · exact fills_malformed
  · refine (fills_contentOf number).bind fun content _ => ?_
    split
    · exact pairs _
    · exact fills_malformed
  · refine (fills_contentOf number).bind fun content _ => ?_
    split
    · exact pairs _
    · exact fills_malformed
  · exact (fills_entriesOf number).bind fun es _ => fills_setPart number _
  · exact (fills_entriesOf number).bind fun es _ => fills_setPart number _
  · exact Keeps.pure trivial

theorem fills_fillAll (fuel : Nat) : Fills nodes (fillAll fuel) fun _ => True := by
  induction fuel with
  | zero => exact Keeps.pure trivial
  | succ fuel ih =>
      rw [fillAll]
      refine Keeps.get.bind fun st _ => ?_
      split
      · exact Keeps.pure trivial
      · have emptied : Fills nodes (modify fun st => { st with waiting := [] })
            fun _ : PUnit => True :=
          Keeps.modify fun _ resolved => resolved
        exact emptied.bind fun _ _ => (Keeps.forM fills_fill _).bind fun _ _ => ih

end Build

/-! ## Documents and texts -/

theorem error_of_value {d : Document} {e : YamlError} (failed : d.value = .error e) :
    e = .malformed ∨ Nodes.Lacks d.nodes e := by
  have fills := (@Build.fills_meet _ d.nodes d.root).bind fun _ _ =>
    Build.fills_fillAll (d.nodes.size + 1)
  rw [Document.value, Document.parts, seqRight_eq_bind] at failed
  cases run : StateT.run (Build.meet d.root >>= fun _ => Build.fillAll (d.nodes.size + 1))
      ⟨d.nodes, Array.replicate d.nodes.size none, []⟩ with
  | error e' =>
      rw [run] at failed
      cases failed
      exact fills.error (.refl d.nodes) run
  | ok result => rw [run] at failed; cases failed

/-- A scalar stands in a text, or it is not written. -/
def InText (source : Text) (s : WideText) : Prop :=
  s = [] ∨ ∃ plain, .scalar s plain ∈ (lex source).tokens

/-- Why a text has no value though the grammar lets it through. -/
inductive Valueless (source : Text) : YamlError → Prop
  /-- An escape for a number beyond the code points. -/
  | escape {e : YamlError} (stop : (lex source).stop = some e)
    (beyond : e = .codePoint ∨ e = .codeOverflow) : Valueless source e
  /-- A directive with a version of more digits than are read. -/
  | version {digits : Nat} (stop : (lex source).stop = some (.integerLength digits))
    (long : Text.digitLimit < digits) : Valueless source (.integerLength digits)
  /-- A plain scalar is of the type that its characters say, and has no value of it. -/
  | plain {s : WideText} {e : YamlError} (written : .scalar s true ∈ (lex source).tokens)
    (fault : Scalar.value (Tag.ofPlain s.lossy) s = .error e) : Valueless source e
  | tagged {tag : Text} {s : WideText} {plain : Bool} {e : YamlError}
    (named : TagIn (lex source).tokens tag)
    (written : InText source s)
    (fault : Scalar.value (Node.scalarTag (some tag) plain s) s = .error e) : Valueless source e
  /-- A collection with the tag of a scalar, for which one of its entries stands. -/
  | standIn {tag : Text} {s : WideText} {e : YamlError} (named : TagIn (lex source).tokens tag)
    (written : InText source s) (fault : Scalar.value (Tag.ofText tag) s = .error e) :
    Valueless source e
  | timestampMapping {tag : Text} (named : TagIn (lex source).tokens tag)
    (isTimestamp : Tag.ofText tag = .timestamp) : Valueless source .timestampMapping
  /-- A collection with another tag than those of collections that stands for itself. -/
  | endless {tag : Text} (named : TagIn (lex source).tokens tag)
    (sequence : Tag.ofText tag ≠ .seq) (mapping : Tag.ofText tag ≠ .map) :
    Valueless source .endless
  /-- Collections in each other for which the stack has no room. -/
  | tooDeep (deep : (lex source).TooDeep) : Valueless source .tooDeep
  /-- Mappings merged into each other for which the stack has no room. -/
  | mergeKey {d : Document} {nodes : Nodes} {level : Nat}
    (read : Document.ofLexing (lex source) = .ok (some d)) (resolved : Resolved d.nodes nodes)
    (inside : level ≤ nodes.mergeFuel) (full : Host.room .mergeKey level = false) :
    Valueless source .tooDeep
  /-- Mappings that stand for each other for which the stack has no room. -/
  | standsIn {d : Document} {level : Nat}
    (read : Document.ofLexing (lex source) = .ok (some d)) (inside : level ≤ d.nodes.size)
    (full : Host.room .standIn level = false) : Valueless source .tooDeep

theorem valueless_of_lacks {source : Text} {d : Document} {e : YamlError}
    (read : Document.ofLexing (lex source) = .ok (some d)) (lacks : Nodes.Lacks d.nodes e)
    (other : e ≠ .malformed) : Valueless source e := by
  have reads := isRead_of_ofLexing read
  cases lacks with
  | @scalar number s e content fault =>
      obtain ⟨tag, plain, named, tagged, written⟩ := (isRead_getD reads number).scalar s content
      rw [tagged] at fault
      cases tag with
      | some tag =>
          exact .tagged (named tag rfl) (written.imp_right fun there => ⟨plain, there⟩) fault
      | none =>
          cases plain with
          | false => cases fault
          | true =>
              rcases written with rfl | there
              · cases fault
              · exact .plain there fault
  | @standIn number number' s e collection content fault =>
      obtain ⟨_, plain, -, -, written⟩ := (isRead_getD reads number').scalar s content
      -- neither a sequence nor a mapping is read as a scalar
      have sequence : (d.nodes.getD number default).tag ≠ .seq := fun same => by
        rw [same] at fault
        cases fault
        exact other rfl
      have mapping : (d.nodes.getD number default).tag ≠ .map := fun same => by
        rw [same] at fault
        cases fault
        exact other rfl
      obtain ⟨tag, named, same⟩ :=
        ((isRead_getD reads number).collection collection).exists_ofText sequence mapping
      rw [same] at fault
      exact .standIn named (written.imp_right fun there => ⟨plain, there⟩) fault
  | @timestampMapping number collection isTimestamp =>
      obtain ⟨tag, named, same⟩ :=
        ((isRead_getD reads number).collection collection).exists_ofText
          (fun same => nomatch isTimestamp.symm.trans same)
          (fun same => nomatch isTimestamp.symm.trans same)
      exact .timestampMapping named (same.symm.trans isTimestamp)
  | @endless number collection sequence mapping =>
      obtain ⟨tag, named, same⟩ :=
        ((isRead_getD reads number).collection collection).exists_ofText sequence mapping
      exact .endless named (same ▸ sequence) (same ▸ mapping)
  | mergeKey resolved inside full => exact .mergeKey read resolved inside full
  | standsIn inside full => exact .standsIn read inside full

/-- **A text has a value, or it breaks the grammar, or one of its scalars has none, or it is too
deep.** -/
theorem valueless_of_readText {source : Text} {e : YamlError}
    (failed : readText source = .error e) (other : e ≠ .malformed) : Valueless source e := by
  rw [readText, document] at failed
  split at failed
  · next failed' =>
    cases failed
    split at failed'
    · cases error_of_ofLexing failed' with
      | malformed => exact absurd rfl other
      | tooDeep deep => exact .tooDeep deep
      | stopped stop =>
          cases lexFault_of_stop stop with
          | malformed => exact absurd rfl other
          | codePoint => exact .escape stop (.inl rfl)
          | codeOverflow => exact .escape stop (.inr rfl)
          | integerLength long => exact .version stop long
    · cases failed'
      exact absurd rfl other
  · cases failed
  · next d done =>
    split at done
    · exact valueless_of_lacks done ((error_of_value failed).resolve_left other) other
    · cases done

end

end FieldTemplate.Yaml
