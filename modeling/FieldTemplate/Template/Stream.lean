import FieldTemplate.Template.Basic

/-!
# Templates read token by token

A `Reader` hands out the tokens of a text one at a time and looks no further than the one it is
asked for.  `Template.compileLazily` takes its tokens from there: each is made a node before the
next is read, so that of a bad path and a syntax error the one that comes first in the text is
reported.  `drain` takes all tokens and lets them pass.
-/

namespace FieldTemplate

set_option autoImplicit false

/-- Where a reader stands: outside of all placeholders, or behind an opening. -/
inductive Reader where
  | outside (c : Cursor) (s : Text)
  /-- `start` is where the placeholder opens, `inner` the text behind the opening. -/
  | inside (start : Cursor) (inner : Text)
deriving DecidableEq, Repr

/-- What a reader answers: a token, and where it stands then; a fault; or that the text is over. -/
inductive Pulled where
  | token (t : Token) (next : Reader)
  | stop (s : Stop)
  | done
deriving DecidableEq, Repr

namespace Reader

def start (source : Text) : Reader := .outside .start source

def pullPlaceholder (start : Cursor) (inner : Text) : Pulled :=
  match opened inner with
  | .nested skipped => .stop ⟨.nested, start.past (opening ++ skipped)⟩
  | .unclosed => .stop ⟨.unterminated, start⟩
  | .closed body rest =>
    if Text.trim body = [] then .stop ⟨.empty, start⟩
    else .token (.placeholder (Text.trim body) start.offset)
      (.outside (start.past (opening ++ body ++ closing)) rest)

/-- The next token.  There is none for an empty literal, so the reader goes straight on to the
placeholder behind it. -/
def pull : Reader → Pulled
  | .inside start inner => pullPlaceholder start inner
  | .outside c s =>
    match Text.cutDouble '{' s with
    | none => if s = [] then .done else .token (.literal s c.offset) (.outside (c.past s) [])
    | some (before, inner) =>
      if before = [] then pullPlaceholder c inner
      else .token (.literal before c.offset) (.inside (c.past before) inner)

/-- The characters that are left; behind an opening one more, since that is a step on the way. -/
def remaining : Reader → Nat
  | .outside _ s => s.length
  | .inside _ inner => inner.length + 1

theorem remaining_of_pullPlaceholder {start : Cursor} {inner : Text} {t : Token} {next : Reader}
    (pulled : pullPlaceholder start inner = .token t next) : next.remaining < inner.length := by
  unfold pullPlaceholder at pulled
  split at pulled
  · cases pulled
  · cases pulled
  · next closed =>
    split at pulled
    · cases pulled
    · cases pulled
      exact length_of_opened closed

theorem remaining_of_pull {r next : Reader} {t : Token} (pulled : r.pull = .token t next) :
    next.remaining < r.remaining := by
  cases r with
  | inside start inner =>
      exact Nat.lt_succ_of_lt (remaining_of_pullPlaceholder pulled)
  | outside c s =>
      rw [pull] at pulled
      split at pulled
      · split at pulled
        · cases pulled
        · next filled =>
          cases pulled
          exact List.length_pos_iff.2 filled
      · next cut =>
        have shorter := Text.length_of_cutDouble cut
        split at pulled
        · exact Nat.lt_trans (remaining_of_pullPlaceholder pulled)
            (by simp only [remaining]; omega)
        · cases pulled
          simp only [remaining]
          omega

/-- All tokens up to the end or the first fault. -/
def drain (r : Reader) : Lexing :=
  match pulled : r.pull with
  | .done => ⟨[], none⟩
  | .stop s => ⟨[], some s⟩
  | .token t next =>
    have := remaining_of_pull pulled
    let more := next.drain
    ⟨t :: more.tokens, more.stop⟩
termination_by r.remaining

/-- The nodes of the tokens that are still to come, up to the first fault of any kind. -/
def nodes (source : Text) (r : Reader) : Except TemplateError (List Node) :=
  match pulled : r.pull with
  | .done => .ok []
  | .stop s => .error (.syntaxError (s.toError source))
  | .token t next =>
    have := remaining_of_pull pulled
    match t.toNode with
    | .error e => .error (.path e)
    | .ok node => (next.nodes source).map (node :: ·)
termination_by r.remaining

end Reader

/-- The template of a text that is read no further than its first fault. -/
def Template.compileLazily (source : Text) : Except TemplateError Template :=
  ((Reader.start source).nodes source).map fun nodes => ⟨nodes, source⟩

end FieldTemplate
