import FieldTemplate.Markdown.Document
import FieldTemplate.Text.StandIn

/-!
# Markdown texts with surrogates

Stand-ins take the place of surrogates while a text is converted.  A mail address shows its
characters as references by number; those of a stand-in are put right as well.
-/

namespace FieldTemplate.Markdown

set_option autoImplicit false

/-- The numbers that are written in a text. -/
def numbersIn : Text → List Nat
  | [] => []
  | c :: rest =>
    if Text.isDigit c then Text.toNat ((c :: rest).takeWhile Text.isDigit) :: numbersIn rest
    else numbersIn rest

/-- The number of a reference to a stand-in, and what follows it. -/
def reference? (block : Nat) : Text → Option (Fin 0x800 × Text)
  | '&' :: '#' :: rest =>
    let ds := rest.takeWhile Text.isDigit
    match rest.drop ds.length with
    | ';' :: after =>
      (StandIn.surrogate? block (Char.ofNat (Text.toNat ds))).map fun n => (n, after)
    | _ => none
  | _ => none

/-- A text with the surrogates in the place of their stand-ins and of references to these. -/
def restoreAll (block : Nat) : Nat → Text → WideText
  | 0, s => s.wide
  | _ + 1, [] => []
  | fuel + 1, c :: rest =>
    match reference? block (c :: rest) with
    | some (n, after) =>
      Text.wide ('&' :: '#' :: Text.ofNat (CodePoint.firstSurrogate + n) ++ [';']) ++
        restoreAll block fuel after
    | none => StandIn.restorePoint block (.char c) :: restoreAll block fuel rest

/-- The HTML of a Markdown text that may have surrogates. -/
def toHtmlWide (s : WideText) : WideText :=
  match s.text? with
  | some t => (toHtml t).wide
  | none =>
    let known := s.filled ' '
    let block := StandIn.freshBlock (known.map Char.toNat ++ numbersIn known)
    let html := toHtml (s.map (StandIn.standIn block))
    restoreAll block html.length html

end FieldTemplate.Markdown
