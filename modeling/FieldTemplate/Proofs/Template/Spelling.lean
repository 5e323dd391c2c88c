import FieldTemplate.Proofs.Template.Fault
import Mathlib.Data.List.Chain

/-!
# Tokens and how they are spelled

A token can be written down: a literal as it is, a placeholder with any blanks around its path.
`WellSpelled` says which lists of spelled tokens a text can be read as: literals hold no
opening, do not follow one another and do not reach into the opening behind them; paths are
trimmed, hold no delimiter and do not reach into their closing.

Reading and writing are inverse to one another on them:

* `tokenize_spell`: what is written is read back, with the byte offset of each token;
* `exists_spell_of_tokenize`: what is read is a way of writing the text, which loses nothing.
-/

namespace FieldTemplate

set_option autoImplicit false

open Text

/-- A token as it stands in a text: a placeholder has its path between two runs of blanks. -/
inductive Spelling where
  | literal (text : Text)
  | placeholder (left path right : Text)
deriving DecidableEq, Repr

/-- A path as a token holds it. -/
structure IsPath (path : Text) : Prop where
  nonempty : path ≠ []
  trimmed : Trimmed path
  noOpening : ¬ Doubled '{' path
  noClosing : ¬ Doubled '}' path

namespace Spelling

def written : Spelling → Text
  | literal s => s
  | placeholder left path right => opening ++ left ++ path ++ right ++ closing

/-- The token at the given byte offset. -/
def token (offset : Nat) : Spelling → Token
  | literal s => .literal s offset
  | placeholder _ path _ => .placeholder path offset

/-- What a token has to be on its own. -/
def Proper : Spelling → Prop
  | literal s => s ≠ [] ∧ ¬ Doubled '{' s
  | placeholder left path right =>
    allBlank left = true ∧ allBlank right = true ∧ IsPath path ∧
      (path.getLast? = some '}' → right ≠ [])

/-- What a token may have directly behind it. -/
def MayPrecede : Spelling → Spelling → Prop
  | literal _, literal _ => False
  | literal s, placeholder .. => s.getLast? ≠ some '{'
  | placeholder .., _ => True

def spell (pieces : List Spelling) : Text := pieces.flatMap written

/-- The tokens, each with the number of bytes that stand in front of it. -/
def tokens (pieces : List Spelling) : List Token :=
  pieces.mapIdx fun i piece => piece.token (spell (pieces.take i)).bytes

end Spelling

open Spelling

structure WellSpelled (pieces : List Spelling) : Prop where
  proper : ∀ piece ∈ pieces, piece.Proper
  adjacent : pieces.IsChain MayPrecede

instance (path : Text) : Decidable (IsPath path) :=
  decidable_of_iff (path ≠ [] ∧ Trimmed path ∧ ¬ Doubled '{' path ∧ ¬ Doubled '}' path)
    ⟨fun ⟨nonempty, trimmed, noOpening, noClosing⟩ => ⟨nonempty, trimmed, noOpening, noClosing⟩,
      fun h => ⟨h.nonempty, h.trimmed, h.noOpening, h.noClosing⟩⟩

instance : DecidablePred Proper
  | literal s => inferInstanceAs (Decidable (s ≠ [] ∧ ¬ Doubled '{' s))
  | placeholder left path right => inferInstanceAs (Decidable
      (allBlank left = true ∧ allBlank right = true ∧ IsPath path ∧
        (path.getLast? = some '}' → right ≠ [])))

instance : DecidableRel MayPrecede
  | literal _, literal _ => inferInstanceAs (Decidable False)
  | literal s, placeholder .. => inferInstanceAs (Decidable (s.getLast? ≠ some '{'))
  | placeholder .., _ => inferInstanceAs (Decidable True)

instance (pieces : List Spelling) : Decidable (WellSpelled pieces) :=
  decidable_of_iff ((∀ piece ∈ pieces, piece.Proper) ∧ pieces.IsChain MayPrecede)
    ⟨fun ⟨proper, adjacent⟩ => ⟨proper, adjacent⟩, fun h => ⟨h.proper, h.adjacent⟩⟩

/-! ## Paths and bodies -/

/-- Blanks around a text make no pair of anything else. -/
theorem doubled_padded {d : Char} (solid : isBlank d = false) {left right : Text}
    (blank : allBlank left = true) (blank' : allBlank right = true) (s : Text) :
    Doubled d (left ++ s ++ right) ↔ Doubled d s := by
  obtain ⟨noPair, noLast⟩ := upTo_iff.1 (upTo_of_not_mem (not_mem_of_allBlank blank solid))
  have absent : d ∉ right := not_mem_of_allBlank blank' solid
  have noPair' : ¬ Doubled d right := (upTo_of_not_mem absent).not_doubled
  have noHead : right.head? ≠ some d := fun head => absent (List.mem_of_mem_head? head)
  simp [doubled_append_iff, noPair, noLast, noPair', noHead]

/-- A path with blanks around it is the body of a placeholder. -/
theorem isBody_padded {left path right : Text}
    (proper : (placeholder left path right).Proper) : IsBody (left ++ path ++ right) := by
  obtain ⟨blank, blank', isPath, closes⟩ := proper
  refine ⟨upTo_iff.2 ⟨?_, ?_⟩, ?_, ?_⟩
  · rw [doubled_padded (by decide) blank blank']
    exact isPath.noClosing
  · intro last
    cases ends : right.getLast? with
    | none =>
        -- the path is not empty, so its last character is that of the body
        obtain rfl := List.getLast?_eq_none_iff.1 ends
        rw [List.append_nil, List.getLast?_append_of_ne_nil _ isPath.nonempty] at last
        exact closes last rfl
    | some c =>
        rw [List.getLast?_append, ends] at last
        cases last
        exact not_mem_of_allBlank blank' (by decide) (List.mem_of_getLast? ends)
  · rw [doubled_padded (by decide) blank blank']
    exact isPath.noOpening
  · rw [trim_padded blank blank' isPath.trimmed]
    exact isPath.nonempty

/-- The body of a placeholder is a path with blanks around it. -/
theorem exists_padding {body : Text} (isBody : IsBody body) :
    ∃ left right, left ++ trim body ++ right = body ∧
      (placeholder left (trim body) right).Proper := by
  obtain ⟨left, right, blank, blank', split⟩ := exists_trim body
  obtain ⟨noClosing, boundary⟩ := upTo_iff.1 isBody.upTo
  have noOpening := isBody.noOpening
  rw [split, doubled_padded (by decide) blank blank'] at noClosing noOpening
  refine ⟨left, right, split.symm, blank, blank',
    ⟨isBody.solid, trimmed_trim body, noOpening, noClosing⟩, ?_⟩
  rintro last rfl
  rw [split, List.append_nil, List.getLast?_append_of_ne_nil _ isBody.solid] at boundary
  exact boundary last

/-! ## Lists of spelled tokens -/

@[simp] theorem spell_nil : spell [] = [] := rfl

theorem spell_cons (piece : Spelling) (pieces : List Spelling) :
    spell (piece :: pieces) = piece.written ++ spell pieces := rfl

theorem spell_placeholder_cons (left path right : Text) (pieces : List Spelling) :
    spell (placeholder left path right :: pieces) =
      opening ++ ((left ++ path ++ right) ++ (closing ++ spell pieces)) := by
  simp [spell_cons, written]

namespace WellSpelled

theorem nil : WellSpelled [] := ⟨by simp, .nil⟩

theorem tail {piece : Spelling} {pieces : List Spelling} (well : WellSpelled (piece :: pieces)) :
    WellSpelled pieces :=
  ⟨fun other member => well.proper other (List.mem_cons_of_mem _ member), well.adjacent.tail⟩

/-- A placeholder may stand in front of anything. -/
theorem placeholder_cons {left path right : Text} {pieces : List Spelling}
    (proper : (placeholder left path right).Proper) (well : WellSpelled pieces) :
    WellSpelled (placeholder left path right :: pieces) := by
  refine ⟨List.forall_mem_cons.2 ⟨proper, well.proper⟩, ?_⟩
  cases pieces with
  | nil => exact .singleton _
  | cons next pieces => exact List.isChain_cons_cons.2 ⟨trivial, well.adjacent⟩

/-- A literal up to an opening may stand in front of a placeholder. -/
theorem literal_cons {s left path right : Text} {pieces : List Spelling} (nonempty : s ≠ [])
    (upTo : UpTo '{' s) (well : WellSpelled (placeholder left path right :: pieces)) :
    WellSpelled (literal s :: placeholder left path right :: pieces) := by
  obtain ⟨plain, boundary⟩ := upTo_iff.1 upTo
  exact ⟨List.forall_mem_cons.2 ⟨⟨nonempty, plain⟩, well.proper⟩,
    List.isChain_cons_cons.2 ⟨boundary, well.adjacent⟩⟩

end WellSpelled

/-! ## Reading what is written -/

/-- The tokens of a list that starts at the given byte offset. -/
def tokensFrom (offset : Nat) : List Spelling → List Token
  | [] => []
  | piece :: pieces => piece.token offset :: tokensFrom (offset + piece.written.bytes) pieces

theorem tokensFrom_eq_mapIdx (offset : Nat) (pieces : List Spelling) :
    tokensFrom offset pieces =
      pieces.mapIdx fun i piece => piece.token (offset + (spell (pieces.take i)).bytes) := by
  induction pieces generalizing offset with
  | nil => rfl
  | cons piece pieces ih =>
      rw [tokensFrom, ih, List.mapIdx_cons]
      simp [spell_cons, Nat.add_assoc]

theorem tokens_eq_tokensFrom (pieces : List Spelling) : tokens pieces = tokensFrom 0 pieces := by
  simp [tokens, tokensFrom_eq_mapIdx]

theorem lexFrom_spell {pieces : List Spelling} (well : WellSpelled pieces) (c : Cursor) :
    lexFrom c (spell pieces) = ⟨tokensFrom c.offset pieces, none⟩ := by
  induction pieces generalizing c with
  | nil =>
      rw [spell_nil, lexFrom_plain not_doubled_nil]
      rfl
  | cons piece pieces ih =>
      have behind := ih well.tail
      have proper := well.proper piece List.mem_cons_self
      cases piece with
      | placeholder left path right =>
          have ⟨blank, blank', isPath, _⟩ := proper
          rw [spell_placeholder_cons, lexFrom_placeholder (isBody_padded proper), behind,
            trim_padded blank blank' isPath.trimmed]
          simp [Lexing.prepend, tokensFrom, Spelling.token, written, Cursor.past]
      | literal s =>
          obtain ⟨nonempty, plain⟩ := proper
          cases pieces with
          | nil =>
              rw [spell_cons, spell_nil, List.append_nil, written, lexFrom_plain plain]
              simp [literalToken, nonempty, tokensFrom, Spelling.token]
          | cons next pieces =>
              have adjacent := (List.isChain_cons_cons.1 well.adjacent).1
              cases next with
              | literal t => exact adjacent.elim
              | placeholder left path right =>
                  -- the literal ends at the opening, and what follows is read by itself
                  have literal_read := lexFrom_literal (upTo_iff.2 ⟨plain, adjacent⟩)
                    ((left ++ path ++ right) ++ (closing ++ spell pieces)) c
                  rw [spell_cons, spell_placeholder_cons, written, literal_read,
                    ← spell_placeholder_cons, behind]
                  simp [Lexing.prepend, literalToken, nonempty, tokensFrom, Spelling.token,
                    written, Cursor.past]

/-- A readable text can be spelled. -/
theorem exists_wellSpelled {s : Text} (readable : Readable s) :
    ∃ pieces, WellSpelled pieces ∧ spell pieces = s := by
  induction s using scan_induction with
  | plain s plain =>
      by_cases empty : s = []
      · exact ⟨[], .nil, empty.symm⟩
      · refine ⟨[literal s], ⟨?_, .singleton _⟩, by simp [spell, written]⟩
        exact List.forall_mem_singleton.2 ⟨empty, plain⟩
  | spoiled before inner fault n upTo spoiled =>
      rw [readable_literal_iff upTo] at readable
      exact absurd readable (not_readable_spoiled spoiled)
  | placeholder before body rest upTo isBody ih =>
      rw [readable_literal_iff upTo, readable_placeholder_iff isBody] at readable
      obtain ⟨pieces, well, rfl⟩ := ih readable
      obtain ⟨left, right, split, proper⟩ := exists_padding isBody
      have behind := well.placeholder_cons proper
      have spelled : spell (placeholder left (trim body) right :: pieces) =
          opening ++ (body ++ (closing ++ spell pieces)) := by
        rw [spell_placeholder_cons, split]
      by_cases empty : before = []
      · exact ⟨_, behind, by rw [spelled, empty, List.nil_append]⟩
      · exact ⟨_, behind.literal_cons empty upTo, by rw [spell_cons, spelled, written]⟩

/-- **What is written is read back**, whatever blanks stand around the paths. -/
theorem tokenize_spell {pieces : List Spelling} (well : WellSpelled pieces) :
    tokenize (spell pieces) = .ok (tokens pieces) := by
  rw [tokenize_eq_ok_iff, lex, lexFrom_spell well, tokens_eq_tokensFrom]
  rfl

/-- Braces at every seam: of a literal, of a path, and a path that is one. -/
def bracedSpellings : List Spelling :=
  [literal ['ü', '}'], placeholder [' '] ['{', 'x', '}'] [' '], placeholder [] ['}'] ['\t'],
    literal ['}', '{']]

theorem tokenize_spell_braced :
    WellSpelled bracedSpellings ∧
      tokenize (spell bracedSpellings) = .ok [.literal ['ü', '}'] 0,
        .placeholder ['{', 'x', '}'] 3, .placeholder ['}'] 12, .literal ['}', '{'] 18] :=
  ⟨by decide +kernel, tokenize_spell (by decide +kernel)⟩

/-- **Reading loses nothing**: the tokens with some blanks around their paths are the text. -/
theorem exists_spell_of_tokenize {source : Text} {read : List Token}
    (success : tokenize source = .ok read) :
    ∃ pieces, WellSpelled pieces ∧ spell pieces = source ∧ tokens pieces = read := by
  obtain ⟨pieces, well, rfl⟩ := exists_wellSpelled (readable_iff_tokenize.2 ⟨read, success⟩)
  rw [tokenize_eq_ok_iff, lex, lexFrom_spell well] at success
  cases success
  exact ⟨pieces, well, rfl, tokens_eq_tokensFrom pieces⟩

theorem exists_spell_of_tokenize_multibyte :
    tokenize "日本 {{ a }} ü".toList =
        .ok [.literal "日本 ".toList 0, .placeholder ['a'] 7, .literal " ü".toList 14] ∧
      ∃ pieces, WellSpelled pieces ∧ spell pieces = "日本 {{ a }} ü".toList ∧
        tokens pieces =
          [.literal "日本 ".toList 0, .placeholder ['a'] 7, .literal " ü".toList 14] :=
  ⟨by decide +kernel, exists_spell_of_tokenize (by decide +kernel)⟩

end FieldTemplate
