import FieldTemplate.Proofs.Stateful
import FieldTemplate.Yaml.Node

/-!
# The nodes of a token sequence

What is read from tokens goes back to them (`ReadFrom`): every scalar of a document stands among the
tokens of its text, or it is not written at all, and the tag of a node is one of the text (`TagIn`),
or that of its characters or its kind.  If no document can be read, the grammar is broken, or the
text has a fault behind its tokens, or its collections are too deep (`error_of_ofLexing`).
-/

namespace FieldTemplate.Yaml

set_option autoImplicit false

open FieldTemplate.Yaml.Node

/-- The handle of a tag with what it stands for, as usual or by a directive. -/
def HandleIn (tokens : List Token) (handle : Text × Text) : Prop :=
  handle ∈ usualHandles ∨ .directive (.tag handle.1 handle.2) ∈ tokens

/-- A tag with this full text stands among the tokens. -/
inductive TagIn (tokens : List Token) : Text → Prop
  | verbatim {text : Text} (written : .tag ⟨none, text⟩ ∈ tokens) : TagIn tokens text
  | shorthand {handle start suffix : Text} (written : .tag ⟨some handle, suffix⟩ ∈ tokens)
    (known : HandleIn tokens (handle, start)) : TagIn tokens (start ++ suffix)

/-- The tag of a collection is one of the text, or the usual one. -/
def CollectionTagIn (tokens : List Token) (tag : Tag) : Prop :=
  ∃ text usual, (∀ t ∈ text, TagIn tokens t) ∧ (usual = .seq ∨ usual = .map) ∧
    tag = collectionTag text usual

/-- A node is what stands among the tokens. -/
structure Node.IsRead (tokens : List Token) (n : Node) : Prop where
  scalar : ∀ s, n.content = .scalar s →
    ∃ tag plain, (∀ t ∈ tag, TagIn tokens t) ∧ n.tag = scalarTag tag plain s ∧
      (s = [] ∨ .scalar s plain ∈ tokens)
  collection : (∀ s, n.content ≠ .scalar s) → CollectionTagIn tokens n.tag

/-- A state of the reader on the tokens of a lexing. -/
structure ReadFrom (lexing : Lexing) (st : State) : Prop where
  stop : st.stop = lexing.stop.getD .malformed
  tokens : st.tokens = lexing.tokens.drop st.read
  /-- A collection begins with a token of its own. -/
  unfinished : st.unfinished.length ≤ st.read
  handles : ∀ e ∈ st.handles, HandleIn lexing.tokens e
  nodes : ∀ n ∈ st.nodes, n.IsRead lexing.tokens

variable {lexing : Lexing}

namespace ReadFrom

theorem start (lexing : Lexing) :
    ReadFrom lexing
      ⟨lexing.tokens, 0, lexing.stop.getD .malformed, usualHandles, [], #[], [], false⟩ :=
  ⟨rfl, rfl, Nat.le_refl 0, fun _ member => .inl member, fun _ member => nomatch member⟩

theorem tokens_drop {st : State} (reads : ReadFrom lexing st) :
    st.tokens.drop 1 = lexing.tokens.drop (st.read + 1) := by
  rw [reads.tokens, List.drop_drop]

theorem push {st : State} (reads : ReadFrom lexing st) {n : Node}
    (isRead : n.IsRead lexing.tokens) : ∀ m ∈ st.nodes.push n, m.IsRead lexing.tokens := by
  intro m member
  rcases Array.mem_push.1 member with old | rfl
  · exact reads.nodes m old
  · exact isRead

end ReadFrom

/-- A scalar without characters need not be written. -/
theorem Node.isRead_scalar {tokens : List Token} {tag : Option Text} {plain : Bool} {s : WideText}
    (named : ∀ t ∈ tag, TagIn tokens t) (written : s = [] ∨ .scalar s plain ∈ tokens) :
    Node.IsRead tokens ⟨scalarTag tag plain s, .scalar s⟩ where
  scalar s' same := by
    cases same
    exact ⟨tag, plain, named, rfl, written⟩
  collection isCollection := absurd rfl (isCollection s)

theorem Node.isRead_empty (tokens : List Token) : Node.IsRead tokens empty :=
  @isRead_scalar tokens none true [] nofun (.inl rfl)

section

variable [Host]

/-- The stack has no room for a node inside of so many collections, each of which begins with one of
the tokens in front of it. -/
def Lexing.TooDeep (lexing : Lexing) : Prop :=
  ∃ read level, level ≤ read ∧ Host.room (.node (lexing.tokens.drop read)) level = false

/-- Why the tokens give no document. -/
inductive Lexing.Fails (lexing : Lexing) : YamlError → Prop
  | malformed : Fails lexing .malformed
  /-- The text has this fault behind its tokens. -/
  | stopped {e : YamlError} (stop : lexing.stop = some e) : Fails lexing e
  | tooDeep (deep : lexing.TooDeep) : Fails lexing .tooDeep

/-- A step of the reader on the tokens of a lexing. -/
abbrev Follows {α : Type} (lexing : Lexing) (x : Parse α) (told : α → Prop) : Prop :=
  Keeps (ReadFrom lexing) lexing.Fails x told

namespace Node

theorem follows_fail {α : Type} {told : α → Prop} : Follows lexing fail told :=
  Keeps.throw .malformed

theorem follows_peek : Follows lexing peek fun t => t ∈ lexing.tokens := by
  refine Keeps.get.bind fun st reads => ?_
  split
  · next t rest ahead =>
    have there : t ∈ lexing.tokens.drop st.read := by simp [← reads.tokens, ahead]
    exact Keeps.pure (List.mem_of_mem_drop there)
  · refine Keeps.throw ?_
    rw [reads.stop]
    cases stop : lexing.stop with
    | none => exact .malformed
    | some e => exact .stopped stop

theorem follows_advance : Follows lexing advance fun _ => True :=
  Keeps.modify fun _ reads =>
    ⟨reads.stop, reads.tokens_drop, Nat.le_succ_of_le reads.unfinished, reads.handles, reads.nodes⟩

theorem follows_enter : Follows lexing enter fun _ => True := by
  refine Keeps.get.bind fun st reads => ?_
  split
  · next full =>
    rw [Bool.not_eq_true', reads.tokens] at full
    exact Keeps.throw (.tooDeep ⟨st.read, _, reads.unfinished, full⟩)
  · exact Keeps.pure trivial

theorem follows_take (t : Token) : Follows lexing (take? t) fun _ => True := by
  refine follows_peek.bind fun t' _ => ?_
  split
  · exact follows_advance.bind fun _ _ => Keeps.pure trivial
  · exact Keeps.pure trivial

theorem follows_sees (ts : List Token) : Follows lexing (sees ts) fun _ => True :=
  follows_peek.bind fun _ _ => Keeps.pure trivial

theorem follows_properties :
    Follows lexing properties fun found => ∀ name ∈ found.2, .tag name ∈ lexing.tokens := by
  refine follows_peek.bind fun t there => ?_
  split
  · refine follows_advance.bind fun _ _ => follows_peek.bind fun t' there' => ?_
    split
    · exact follows_advance.bind fun _ _ => Keeps.pure fun _ same => Option.some.inj same ▸ there'
    · exact Keeps.pure nofun
  · refine follows_advance.bind fun _ _ => follows_peek.bind fun t' _ => ?_
    split
    · exact follows_advance.bind fun _ _ => Keeps.pure fun _ same => Option.some.inj same ▸ there
    · exact Keeps.pure fun _ same => Option.some.inj same ▸ there
  · exact Keeps.pure nofun

theorem follows_tagText {name : Option TagName}
    (written : ∀ name' ∈ name, .tag name' ∈ lexing.tokens) :
    Follows lexing (tagText name) fun text => ∀ t ∈ text, TagIn lexing.tokens t := by
  rw [tagText.eq_def]
  split
  · exact Keeps.pure nofun
  next t =>
  obtain ⟨handle, suffix⟩ := t
  have there := written _ rfl
  split
  · next none =>
    cases none
    refine Keeps.pure fun _ same => ?_
    cases same
    exact .verbatim there
  · next h some =>
    cases some
    refine Keeps.get.bind fun st reads => ?_
    split
    · next h' start found =>
      have same : h' = h := by simpa using List.find?_some found
      subst same
      have known := reads.handles _ (List.mem_of_find?_eq_some found)
      refine Keeps.pure fun _ same => ?_
      cases same
      exact .shorthand there known
    · exact follows_fail

/-! ## Nodes get their numbers -/

theorem follows_add (anchor : Option Text) {n : Node} (isRead : n.IsRead lexing.tokens) :
    Follows lexing (add anchor n) fun _ => True := by
  refine Keeps.get.bind fun st _ => ?_
  split
  · have kept : Follows lexing (modify fun st => { st with nodes := st.nodes.push n })
        fun _ : PUnit => True :=
      Keeps.modify fun st reads =>
        ⟨reads.stop, reads.tokens, reads.unfinished, reads.handles, ReadFrom.push reads isRead⟩
    exact kept.bind fun _ _ => Keeps.pure trivial
  · next a =>
    refine Keeps.get.bind fun st' _ => ?_
    have kept : Follows lexing
        (modify fun st'' => { st'' with
          nodes := st''.nodes.push n
          anchors := (a, st.nodes.size) :: st''.anchors }) fun _ : PUnit => True :=
      Keeps.modify fun st reads =>
        ⟨reads.stop, reads.tokens, reads.unfinished, reads.handles, ReadFrom.push reads isRead⟩
    split
    · exact follows_fail.bind fun _ (_ : True) => kept.bind fun _ _ => Keeps.pure trivial
    · exact kept.bind fun _ _ => Keeps.pure trivial

theorem follows_addEmpty : Follows lexing addEmpty fun _ => True :=
  follows_add none (isRead_empty lexing.tokens)

theorem follows_named (anchor : Text) : Follows lexing (named anchor) fun _ => True := by
  refine Keeps.get.bind fun st reads => ?_
  split
  · next number _ =>
    have kept : Follows lexing
        (set { st with circular := st.circular || st.unfinished.contains number })
        fun _ : PUnit => True :=
      Keeps.set _ ⟨reads.stop, reads.tokens, reads.unfinished, reads.handles, reads.nodes⟩
    exact kept.bind fun _ _ => Keeps.pure trivial
  · exact follows_fail

/-- What a collection holds is no scalar. -/
def IsCollection (content : Content) : Prop := ∀ s, content ≠ .scalar s

theorem follows_collection (anchor : Option Text) {tag : Tag}
    (tagged : CollectionTagIn lexing.tokens tag) {parts : Parse Content}
    (each : Follows lexing parts IsCollection) :
    Follows lexing (collection anchor tag parts) fun _ => True := by
  have begun : Node.IsRead lexing.tokens ⟨tag, .sequence []⟩ := ⟨nofun, fun _ => tagged⟩
  refine (follows_add anchor begun).bind fun number _ => ?_
  have opened : Follows lexing (modify fun st => { st with
      tokens := st.tokens.drop 1
      read := st.read + 1
      unfinished := number :: st.unfinished }) fun _ : PUnit => True :=
    Keeps.modify fun _ reads =>
      ⟨reads.stop, reads.tokens_drop, Nat.succ_le_succ reads.unfinished, reads.handles, reads.nodes⟩
  refine opened.bind fun _ _ => each.bind fun content isCollection => ?_
  have closed : Follows lexing (modify fun st => { st with
      nodes := st.nodes.setIfInBounds number ⟨tag, content⟩
      unfinished := st.unfinished.drop 1 }) fun _ : PUnit => True := by
    refine Keeps.modify fun st reads =>
      ⟨reads.stop, reads.tokens, by simpa using Nat.le_add_right_of_le reads.unfinished,
        reads.handles, fun n member => ?_⟩
    rcases Array.mem_or_eq_of_mem_setIfInBounds member with old | rfl
    · exact reads.nodes n old
    · exact ⟨fun s same => absurd same (isCollection s), fun _ => tagged⟩
  exact closed.bind fun _ _ => Keeps.pure trivial

/-! ## The readers of nodes -/

/-- All readers with so much fuel. -/
structure ReadersFollow (lexing : Lexing) (fuel : Nat) : Prop where
  node : ∀ block inParent, Follows lexing (node block inParent fuel) fun _ => True
  blockItems : Follows lexing (blockItems fuel) fun _ => True
  parentItems : Follows lexing (parentItems fuel) fun _ => True
  blockEntries : Follows lexing (blockEntries fuel) fun _ => True
  flowItems : ∀ first, Follows lexing (flowItems first fuel) fun _ => True
  flowEntries : ∀ first, Follows lexing (flowEntries first fuel) fun _ => True

section

variable {β : Type} {told : β → Prop} {x : Parse Nat} {next : Nat → Parse β}

/-- A part that may be left out, and what is read behind it. -/
theorem follows_orEmpty (there : Follows lexing x fun _ => True) (ts : List Token)
    (behind : ∀ number, Follows lexing (next number) told) :
    Follows lexing (do if ← sees ts then addEmpty >>= next else x >>= next) told := by
  refine (follows_sees ts).bind fun absent _ => ?_
  split
  · exact follows_addEmpty.bind fun number _ => behind number
  · exact there.bind fun number _ => behind number

/-- A value that may be left out with its mark or behind it, and what is read behind it. -/
theorem follows_orNoValue (there : Follows lexing x fun _ => True) (ts : List Token)
    (behind : ∀ number, Follows lexing (next number) told) :
    Follows lexing (do
      if ← take? .value then (do if ← sees ts then addEmpty >>= next else x >>= next)
      else addEmpty >>= next) told := by
  refine (follows_take .value).bind fun marked _ => ?_
  split
  · exact follows_orEmpty there ts behind
  · exact follows_addEmpty.bind fun number _ => behind number

end

namespace ReadersFollow

variable {fuel : Nat}

theorem node_succ (ih : ReadersFollow lexing fuel) (block inParent : Bool) :
    Follows lexing (Node.node block inParent (fuel + 1)) fun _ => True := by
  rw [Node.node]
  refine follows_enter.bind fun _ _ => follows_peek.bind fun t _ => ?_
  split
  · exact follows_advance.bind fun _ _ => follows_named _
  refine follows_properties.bind fun found written => ?_
  obtain ⟨anchor, name⟩ := found
  refine (follows_tagText written).bind fun tag named => follows_peek.bind fun t there => ?_
  have items {x : Parse (List Nat)} (each : Follows lexing x fun _ => True) :
      Follows lexing (collection anchor (collectionTag tag .seq) (.sequence <$> x))
        fun _ => True :=
    follows_collection anchor ⟨tag, .seq, named, .inl rfl, rfl⟩ (each.map _ fun _ _ => nofun)
  have entries {x : Parse (List (Nat × Nat))} (each : Follows lexing x fun _ => True) :
      Follows lexing (collection anchor (collectionTag tag .map) (.mapping <$> x))
        fun _ => True :=
    follows_collection anchor ⟨tag, .map, named, .inr rfl, rfl⟩ (each.map _ fun _ _ => nofun)
  dsimp only
  split
  · next s plain =>
    exact follows_advance.bind fun _ _ =>
      follows_add anchor (isRead_scalar named (.inr there))
  split
  · exact items ih.parentItems
  split
  · exact items (ih.flowItems true)
  split
  · exact entries (ih.flowEntries true)
  split
  · exact items ih.blockItems
  split
  · exact entries ih.blockEntries
  split
  · exact follows_add anchor (isRead_scalar named (.inl rfl))
  · exact follows_fail

theorem blockItems_succ (ih : ReadersFollow lexing fuel) :
    Follows lexing (Node.blockItems (fuel + 1)) fun _ => True := by
  rw [Node.blockItems]
  refine (follows_take .blockEntry).bind fun more _ => ?_
  split
  · refine follows_orEmpty (ih.node true false) [.blockEntry, .blockEnd] fun item => ?_
    exact ih.blockItems.bind fun _ _ => Keeps.pure trivial
  · refine (follows_take .blockEnd).bind fun ends _ => ?_
    split
    · exact Keeps.pure trivial
    · exact follows_fail

theorem parentItems_succ (ih : ReadersFollow lexing fuel) :
    Follows lexing (Node.parentItems (fuel + 1)) fun _ => True := by
  rw [Node.parentItems]
  refine follows_orEmpty (ih.node true false) [.blockEntry, .key, .value, .blockEnd]
    fun item => ?_
  refine (follows_take .blockEntry).bind fun more _ => ?_
  split
  · exact ih.parentItems.bind fun _ _ => Keeps.pure trivial
  · exact Keeps.pure trivial

theorem blockEntries_succ (ih : ReadersFollow lexing fuel) :
    Follows lexing (Node.blockEntries (fuel + 1)) fun _ => True := by
  rw [Node.blockEntries]
  refine (follows_take .key).bind fun more _ => ?_
  split
  · refine follows_orEmpty (ih.node true true) [.key, .value, .blockEnd] fun key => ?_
    refine follows_orNoValue (ih.node true true) [.key, .value, .blockEnd] fun value => ?_
    exact ih.blockEntries.bind fun _ _ => Keeps.pure trivial
  · refine (follows_take .blockEnd).bind fun ends _ => ?_
    split
    · exact Keeps.pure trivial
    · exact follows_fail

/-- Behind the first part of a collection in brackets there has to be a comma. -/
theorem follows_comma {β : Type} {told : β → Prop} {next : PUnit → Parse β} (first : Bool)
    (behind : Follows lexing (next ⟨⟩) told) :
    Follows lexing (if !first then (do
        if !(← take? .flowEntry) then fail >>= next else next ⟨⟩)
      else next ⟨⟩) told := by
  split
  · refine (follows_take .flowEntry).bind fun comma _ => ?_
    split
    · exact follows_fail.bind fun _ (_ : True) => behind
    · exact behind
  · exact behind

theorem flowItems_succ (ih : ReadersFollow lexing fuel) (first : Bool) :
    Follows lexing (Node.flowItems first (fuel + 1)) fun _ => True := by
  rw [Node.flowItems]
  refine (follows_take .flowSequenceEnd).bind fun ends _ => ?_
  split
  · exact Keeps.pure trivial
  refine follows_comma first ?_
  refine (follows_sees [.key]).bind fun keyed _ => ?_
  split
  · -- a key makes a mapping of its own
    have tagged : CollectionTagIn lexing.tokens .map := ⟨none, .map, nofun, .inr rfl, rfl⟩
    refine (follows_collection none tagged ?_).bind fun item _ =>
      (ih.flowItems false).bind fun _ _ => Keeps.pure trivial
    refine follows_orEmpty (ih.node false false) [.value, .flowEntry, .flowSequenceEnd]
      fun key => ?_
    refine follows_orNoValue (ih.node false false) [.flowEntry, .flowSequenceEnd] fun value => ?_
    exact Keeps.pure nofun
  · refine (follows_take .flowSequenceEnd).bind fun ends _ => ?_
    split
    · exact Keeps.pure trivial
    · exact (ih.node false false).bind fun item _ =>
        (ih.flowItems false).bind fun _ _ => Keeps.pure trivial

theorem flowEntries_succ (ih : ReadersFollow lexing fuel) (first : Bool) :
    Follows lexing (Node.flowEntries first (fuel + 1)) fun _ => True := by
  rw [Node.flowEntries]
  refine (follows_take .flowMappingEnd).bind fun ends _ => ?_
  split
  · exact Keeps.pure trivial
  refine follows_comma first ?_
  refine (follows_take .key).bind fun keyed _ => ?_
  split
  · refine follows_orEmpty (ih.node false false) [.value, .flowEntry, .flowMappingEnd]
      fun key => ?_
    refine follows_orNoValue (ih.node false false) [.flowEntry, .flowMappingEnd] fun value => ?_
    exact (ih.flowEntries false).bind fun _ _ => Keeps.pure trivial
  · refine (follows_take .flowMappingEnd).bind fun ends _ => ?_
    split
    · exact Keeps.pure trivial
    · exact (ih.node false false).bind fun key _ => follows_addEmpty.bind fun value _ =>
        (ih.flowEntries false).bind fun _ _ => Keeps.pure trivial

end ReadersFollow

theorem readersFollow (lexing : Lexing) (fuel : Nat) : ReadersFollow lexing fuel := by
  induction fuel with
  | zero =>
      exact ⟨fun _ _ => follows_fail, follows_fail, follows_fail, follows_fail,
        fun _ => follows_fail, fun _ => follows_fail⟩
  | succ fuel ih =>
      exact ⟨ih.node_succ, ih.blockItems_succ, ih.parentItems_succ, ih.blockEntries_succ,
        ih.flowItems_succ, ih.flowEntries_succ⟩

/-! ## Documents -/

theorem follows_directives (fuel : Nat) (versioned : Bool) {handles : List (Text × Text)}
    (written : ∀ e ∈ handles, HandleIn lexing.tokens e) :
    Follows lexing (directives fuel versioned handles)
      fun handles' => ∀ e ∈ handles', HandleIn lexing.tokens e := by
  induction fuel generalizing versioned handles with
  | zero => exact follows_fail
  | succ fuel ih =>
      rw [directives]
      refine follows_peek.bind fun t there => ?_
      split
      · split
        · exact follows_fail
        · exact follows_advance.bind fun _ _ => ih true written
      · split
        · exact follows_fail
        · exact follows_advance.bind fun _ _ =>
            ih versioned (List.forall_mem_cons.2 ⟨.inr there, written⟩)
      · exact follows_advance.bind fun _ _ => ih versioned written
      · exact Keeps.pure (List.forall_mem_append.2 ⟨written, fun e usual => .inl usual⟩)

theorem follows_finish (fuel : Nat) : Follows lexing (finish fuel) fun _ => True := by
  induction fuel with
  | zero => exact follows_fail
  | succ fuel ih =>
      rw [finish]
      refine follows_peek.bind fun t _ => ?_
      split
      · exact follows_advance.bind fun _ _ => ih
      · exact Keeps.pure trivial
      · exact follows_fail

theorem follows_document (fuel : Nat) : Follows lexing (document fuel) fun _ => True := by
  have root : Follows lexing (do
      let n ← Node.node true false fuel
      finish fuel
      return some n) fun _ => True :=
    ((readersFollow lexing fuel).node true false).bind fun _ _ =>
      (follows_finish fuel).bind fun _ _ => Keeps.pure trivial
  have nothing : Follows lexing (do finish fuel; return some (← addEmpty)) fun _ => True :=
    (follows_finish fuel).bind fun _ _ => follows_addEmpty.bind fun _ _ => Keeps.pure trivial
  have kept {handles : List (Text × Text)} (written : ∀ e ∈ handles, HandleIn lexing.tokens e) :
      Follows lexing (modify fun st => { st with handles := handles }) fun _ : PUnit => True :=
    Keeps.modify fun _ reads => ⟨reads.stop, reads.tokens, reads.unfinished, written, reads.nodes⟩
  refine follows_peek.bind fun t _ => ?_
  split
  · exact Keeps.pure trivial
  case h_4 => exact root
  -- a document with directives or a start mark, which may hold nothing
  all_goals
    refine (follows_directives fuel false (List.forall_mem_nil _)).bind fun handles written => ?_
    refine (kept written).bind fun _ _ => (follows_take .documentStart).bind fun begins _ => ?_
    split
    · exact follows_fail
    · refine follows_peek.bind fun t _ => ?_
      split
      · exact nothing
      · exact nothing
      · exact nothing
      · exact nothing
      · exact root

end Node

/-- **If no document can be read**, the grammar is broken, or the text has a fault, or it is too
deep. -/
theorem error_of_ofLexing {e : YamlError} (failed : Document.ofLexing lexing = .error e) :
    lexing.Fails e := by
  rw [Document.ofLexing] at failed
  cases run : (document (4 * lexing.tokens.length + 8)).run
      ⟨lexing.tokens, 0, lexing.stop.getD .malformed, usualHandles, [], #[], [], false⟩ with
  | error e' =>
      rw [run] at failed
      cases failed
      exact (follows_document _).error (ReadFrom.start lexing) run
  | ok result => rw [run] at failed; cases failed

/-- **The nodes of a document stand in its text.** -/
theorem isRead_of_ofLexing {d : Document} (done : Document.ofLexing lexing = .ok (some d)) :
    ∀ n ∈ d.nodes, n.IsRead lexing.tokens := by
  rw [Document.ofLexing] at done
  cases run : (document (4 * lexing.tokens.length + 8)).run
      ⟨lexing.tokens, 0, lexing.stop.getD .malformed, usualHandles, [], #[], [], false⟩ with
  | error e => rw [run] at done; cases done
  | ok result =>
      obtain ⟨root, st⟩ := result
      have reads := ((follows_document _).ok (ReadFrom.start lexing) run).1
      rw [run] at done
      cases root with
      | none => cases done
      | some number =>
          cases done
          exact reads.nodes

end

end FieldTemplate.Yaml
