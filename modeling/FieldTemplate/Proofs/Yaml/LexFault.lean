import FieldTemplate.Proofs.Result
import FieldTemplate.Yaml.Token.Lexer

/-!
# Why a text cannot be cut into tokens

Every reader of tokens fails because the grammar is broken; only a double quoted scalar can also
hold an escape for a number that is no code point, and a directive a version of too many digits
(`LexFault`, `lexFault_of_stop`).  The lemmas go through the readers from the inside out and are
there for `grind`, which follows a fault from a reader into those that it calls.
-/

namespace FieldTemplate.Yaml

set_option autoImplicit false

/-- The faults of a text before there are tokens. -/
inductive LexFault : YamlError → Prop
  | malformed : LexFault .malformed
  | codePoint : LexFault .codePoint
  | codeOverflow : LexFault .codeOverflow
  | integerLength {digits : Nat} (long : Text.digitLimit < digits) :
    LexFault (.integerLength digits)

attribute [grind] LexFault
attribute [grind =] except_map_eq_error_iff

variable {p : Cursor} {e : YamlError}

/-! ## Names -/

namespace Name

@[grind →]
theorem word_error (failed : word p = .error e) : e = .malformed := by
  unfold word at failed
  grind

@[grind →]
theorem anchor_error (failed : anchor p = .error e) : e = .malformed := by
  unfold anchor at failed
  grind

@[grind →]
theorem uriChars_error {fuel : Nat} (failed : uriChars fuel p = .error e) : e = .malformed := by
  induction fuel generalizing p with
  | zero => cases failed
  | succ fuel ih =>
      unfold uriChars at failed
      grind

@[grind →]
theorem uri_error (failed : uri p = .error e) : e = .malformed := by
  unfold uri at failed
  grind

@[grind →]
theorem handle_error (failed : handle p = .error e) : e = .malformed := by
  unfold handle at failed
  grind

@[grind →]
theorem tag_error (failed : tag p = .error e) : e = .malformed := by
  unfold tag at failed
  grind

@[grind →]
theorem number_error (failed : number p = .error e) : LexFault e := by
  unfold number at failed
  grind

@[grind →]
theorem version_error (failed : version p = .error e) : LexFault e := by
  unfold version at failed
  grind

@[grind →]
theorem tagDirective_error (failed : tagDirective p = .error e) : e = .malformed := by
  unfold tagDirective at failed
  grind

@[grind →]
theorem lineEnd_error {d : Directive} (failed : lineEnd d p = .error e) : e = .malformed := by
  unfold lineEnd at failed
  grind

@[grind →]
theorem directive_error (failed : directive p = .error e) : LexFault e := by
  unfold directive at failed
  grind

end Name

/-! ## Scalars -/

namespace Block

@[grind →]
theorem increment_error (failed : increment p = .error e) : e = .malformed := by
  unfold increment at failed
  grind

@[grind →]
theorem header_error (failed : header p = .error e) : e = .malformed := by
  unfold header at failed
  grind

@[grind →]
theorem scalar_error {indent : Int} (failed : scalar indent p = .error e) : e = .malformed := by
  unfold scalar headerEnd at failed
  grind

end Block

namespace Quoted

@[grind →]
theorem breaks_error {fuel : Nat} (failed : breaks fuel p = .error e) : e = .malformed := by
  induction fuel generalizing p with
  | zero => cases failed
  | succ fuel ih =>
      unfold breaks at failed
      grind

@[grind →]
theorem spaces_error (failed : spaces p = .error e) : e = .malformed := by
  unfold spaces at failed
  grind

/-- An escape may ask for a number beyond the code points. -/
@[grind →]
theorem escape_error (failed : escape p = .error e) : LexFault e := by
  unfold escape at failed
  grind

@[grind →]
theorem nonSpaces_error {double : Bool} {fuel : Nat}
    (failed : nonSpaces double fuel p = .error e) : LexFault e := by
  induction fuel generalizing p with
  | zero => cases failed
  | succ fuel ih =>
      unfold nonSpaces at failed
      grind

@[grind →]
theorem body_error {double : Bool} {fuel : Nat} (failed : body double fuel p = .error e) :
    LexFault e := by
  induction fuel generalizing p with
  | zero =>
      cases failed
      exact .malformed
  | succ fuel ih =>
      unfold body at failed
      grind

@[grind →]
theorem scalar_error (failed : scalar p = .error e) : LexFault e := by
  unfold scalar at failed
  grind

end Quoted

/-! ## Tokens -/

namespace LexState

variable {st : LexState} {t : Token}

@[grind →]
theorem dropStale_error (failed : st.dropStale = .error e) : e = .malformed := by
  unfold dropStale at failed
  grind

@[grind →]
theorem dropKey_error (failed : st.dropKey = .error e) : e = .malformed := by
  unfold dropKey at failed
  grind

@[grind →]
theorem saveKey_error (failed : st.saveKey = .error e) : e = .malformed := by
  unfold saveKey at failed
  grind

@[grind →]
theorem atMargin_error (failed : st.atMargin = .error e) : e = .malformed := by
  unfold atMargin at failed
  grind

/-- Marks fail with the keys that they end. -/
@[grind →]
theorem flowStart_error (failed : st.flowStart t = .error e) : e = .malformed := by
  unfold flowStart at failed
  grind

@[grind →]
theorem flowEnd_error (failed : st.flowEnd t = .error e) : e = .malformed := by
  unfold flowEnd at failed
  grind

@[grind →]
theorem flowEntry_error (failed : st.flowEntry = .error e) : e = .malformed := by
  unfold flowEntry at failed
  grind

@[grind →]
theorem blockEntry_error (failed : st.blockEntry = .error e) : e = .malformed := by
  unfold blockEntry at failed
  grind

@[grind →]
theorem keyMark_error (failed : st.keyMark = .error e) : e = .malformed := by
  unfold keyMark at failed
  grind

@[grind →]
theorem valueMark_error (failed : st.valueMark = .error e) : e = .malformed := by
  unfold valueMark at failed
  grind

@[grind →]
theorem marker_error (failed : st.marker t = .error e) : e = .malformed := by
  unfold marker at failed
  grind

@[grind →]
theorem named_error {read : Cursor → Read Token} (failed : st.named read = .error e) :
    e = .malformed ∨ ∃ p, read p = .error e := by
  unfold named at failed
  grind

@[grind →]
theorem plain_error (failed : st.plain = .error e) : e = .malformed := by
  unfold plain at failed
  grind

@[grind →]
theorem block_error (failed : st.block = .error e) : e = .malformed := by
  unfold block at failed
  grind

theorem lexFault_ite {c : Prop} [Decidable c] {x y : Step}
    (here : ∀ e, x = .error e → LexFault e) (there : ∀ e, y = .error e → LexFault e) :
    ∀ e, (if c then x else y) = .error e → LexFault e := by
  intro e failed
  split at failed
  · exact here e failed
  · exact there e failed

theorem token_error (st : LexState) : ∀ e, st.token = .error e → LexFault e := by
  unfold token
  dsimp only
  -- the first character decides, and each of the readers has its lemma
  iterate 17 refine lexFault_ite (by grind) ?_
  grind

end LexState

/-! ## Texts -/

theorem lexFault_of_lexFrom {fuel : Nat} {st : LexState}
    (stop : (lexFrom fuel st).stop = some e) : LexFault e := by
  induction fuel generalizing st with
  | zero =>
      cases stop
      exact .malformed
  | succ fuel ih =>
      unfold lexFrom at stop
      grind [Lexing.stopped, LexState.token_error]

/-- **A text is cut into tokens, or it breaks the grammar, or it has a number that is too long or
escapes no code point.** -/
theorem lexFault_of_stop {s : Text} (stop : (lex s).stop = some e) : LexFault e :=
  lexFault_of_lexFrom stop

end FieldTemplate.Yaml
