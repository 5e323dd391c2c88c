import FieldTemplate.Proofs.Template.FaultPlace
import FieldTemplate.Proofs.Template.Lazy
import FieldTemplate.Proofs.Text.ByteCounter

/-!
# Where the offsets of tokens come from

A reader could ask a byte counter for the offset of each token and of the fault that it stops at, by
the index of the place; its cursors carry the very same answers along
(`Reader.offsets_are_counted`).  What is true of a reader at each step is that its cursor stands
behind what it has taken from the text (`Reader.ReadsFrom`).
-/

namespace FieldTemplate

set_option autoImplicit false

open Text

def Token.offset : Token → Nat
  | .literal _ offset | .placeholder _ offset => offset

/-- At the index there is the text of a literal, or the opening of a placeholder. -/
def Token.StandsAt (source : Text) (index : Nat) : Token → Prop
  | .literal s _ => s <+: source.drop index
  | .placeholder .. => opening <+: source.drop index

/-- A token with the offset that is counted for the index it stands at. -/
def Token.Counted (source : Text) (t : Token) (index : Nat) : Prop :=
  t.StandsAt source index ∧ t.offset = source.byteOffset index

def Cursor.Counted (source : Text) (c : Cursor) : Prop :=
  c.offset = source.byteOffset c.position

theorem Cursor.counted_past (before after : Text) :
    (start.past before).Counted (before ++ after) := by
  have position : (start.past before).position = before.length := Nat.zero_add _
  rw [Counted, position, byteOffset, List.take_left' rfl]
  exact Nat.zero_add _

theorem Token.counted_literal (before s after : Text) :
    Counted (before ++ (s ++ after)) (.literal s (Cursor.start.past before).offset)
      before.length := by
  refine ⟨?_, ?_⟩
  · rw [StandsAt, List.drop_left' rfl]
    exact List.prefix_append s after
  · have position : (Cursor.start.past before).position = before.length := Nat.zero_add _
    exact position ▸ Cursor.counted_past before (s ++ after)

theorem Token.counted_placeholder (before path after : Text) :
    Counted (before ++ (opening ++ after)) (.placeholder path (Cursor.start.past before).offset)
      before.length :=
  counted_literal before opening after

theorem Token.byteOffsets_eq {source : Text} {tokens : List Token} {indexes : List Nat}
    (counted : List.Forall₂ (Counted source) tokens indexes) :
    indexes.map source.byteOffset = tokens.map offset := by
  induction counted with
  | nil => rfl
  | cons here _ ih => rw [List.map_cons, List.map_cons, ih, here.2]

namespace Reader

/-- The cursor of a reader is behind what the reader has taken from the text. -/
inductive ReadsFrom (source : Text) : Reader → Prop
  | outside {before s : Text} (split : source = before ++ s) :
    ReadsFrom source (.outside (Cursor.start.past before) s)
  | inside {before inner : Text} (split : source = before ++ (opening ++ inner)) :
    ReadsFrom source (.inside (Cursor.start.past before) inner)

variable {source : Text} {r : Reader}

theorem readsFrom_start (source : Text) : ReadsFrom source (start source) :=
  @ReadsFrom.outside source [] source rfl

/-- An answer whose offset is the one that is counted. -/
inductive CountedAnswer (source : Text) : Pulled → Prop
  | token {t : Token} {next : Reader} {index : Nat} (counted : t.Counted source index)
    (reads : ReadsFrom source next) : CountedAnswer source (.token t next)
  | stop {s : Stop} (counted : s.cursor.Counted source) : CountedAnswer source (.stop s)
  | done : CountedAnswer source .done

theorem countedAnswer_inside (before inner : Text) :
    CountedAnswer (before ++ (opening ++ inner)) (inside (Cursor.start.past before) inner).pull := by
  rcases spoiled_or_body inner with ⟨fault, n, spoiled⟩ | ⟨body, rest, isBody, rfl⟩
  · obtain ⟨skipped, after, whole, taken⟩ := spoiled.exists_opening
    rw [pull_spoiled spoiled, taken, Cursor.past_past, whole, ← List.append_assoc]
    exact .stop (Cursor.counted_past _ _)
  · rw [pull_placeholder isBody, Cursor.past_past]
    exact .token (Token.counted_placeholder before _ _) (.outside (by simp))

/-- **Every answer of a reader has the offset that is counted**, and leaves the reader in order. -/
theorem ReadsFrom.pull (reads : ReadsFrom source r) : CountedAnswer source r.pull := by
  cases reads with
  | @inside before inner split =>
      subst split
      exact countedAnswer_inside before inner
  | @outside before s split =>
      subst split
      by_cases open_ : Doubled '{' s
      · obtain ⟨first, inner, rfl, upTo⟩ := exists_upTo_of_doubled open_
        change CountedAnswer _ (Reader.outside _ (first ++ (opening ++ inner))).pull
        rw [pull_literal upTo]
        split
        · next empty =>
          subst empty
          exact countedAnswer_inside before inner
        · rw [Cursor.past_past]
          exact .token (Token.counted_literal before first _)
            (.inside (List.append_assoc ..).symm)
      · rw [pull_plain open_]
        split
        · exact .done
        · have counted := Token.counted_literal before s []
          rw [List.append_nil] at counted
          rw [Cursor.past_past]
          exact .token counted (.outside (List.append_nil _).symm)

/-- A whole run, by induction on the answers. -/
theorem ReadsFrom.drain (reads : ReadsFrom source r) :
    (∃ indexes, List.Forall₂ (Token.Counted source) r.drain.tokens indexes) ∧
      ∀ s ∈ r.drain.stop, s.cursor.Counted source := by
  induction r using Reader.drain.induct with
  | case1 r pulled =>
      rw [drain_eq, pulled]
      exact ⟨⟨[], .nil⟩, by simp⟩
  | case2 r s pulled =>
      have answer := reads.pull
      rw [pulled] at answer
      rw [drain_eq, pulled]
      cases answer with
      | stop counted => exact ⟨⟨[], .nil⟩, by simpa using counted⟩
  | case3 r t next pulled _ ih =>
      have answer := reads.pull
      rw [pulled] at answer
      rw [drain_eq, pulled]
      cases answer with
      | @token t next index counted reads' =>
          obtain ⟨⟨indexes, others⟩, stop⟩ := ih reads'
          exact ⟨⟨index :: indexes, .cons counted others⟩, stop⟩

/-- **Offsets are what a byte counter answers.**  The tokens of a text stand at indexes, and one
counter that is asked for these in turn, and then for the index of the fault if there is one, gives
the offsets of all of them. -/
theorem offsets_are_counted (source : Text) :
    ∃ indexes, List.Forall₂ (fun t index => t.StandsAt source index) (lex source).tokens indexes ∧
      (ByteCounter.start source).queries
          (indexes ++ (lex source).stop.toList.map fun s => s.cursor.position) =
        (lex source).tokens.map Token.offset ++
          (lex source).stop.toList.map fun s => s.cursor.offset := by
  have reads := (readsFrom_start source).drain
  rw [drain_start] at reads
  obtain ⟨⟨indexes, counted⟩, stop⟩ := reads
  refine ⟨indexes, counted.imp fun _ _ counted => counted.1, ?_⟩
  rw [(ByteCounter.exact_start source).queries_eq, List.map_append]
  congr 1
  · exact Token.byteOffsets_eq counted
  · rw [List.map_map]
    refine List.map_congr_left fun s member => ?_
    exact (stop s (Option.mem_toList.1 member)).symm

end Reader

end FieldTemplate
