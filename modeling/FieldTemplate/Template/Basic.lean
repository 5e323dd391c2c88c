import FieldTemplate.Template.Path
import FieldTemplate.Template.Token
import FieldTemplate.Value.Basic

/-!
# Templates

A template is a list of nodes in the order in which they are rendered, one for each token.
`Template.compile` reads the whole text before it looks at any path; `Template.ofLexing`
takes the tokens as they come, so that a bad path before a syntax error is found first.
-/

namespace FieldTemplate

set_option autoImplicit false

/-- A piece of text, or a field with its path and the expression as written. -/
inductive Node where
  | text (s : Text)
  | field (path : List Text) (expr : Text)
deriving DecidableEq, Repr

structure Template where
  nodes : List Node
  source : Text
deriving DecidableEq, Repr

def Token.toNode : Token → Except PathError Node
  | .literal s _ => .ok (.text s)
  | .placeholder path _ => (FieldPath.parse path).map fun segments => .field segments path

/-- The nodes of the tokens, up to the first bad path. -/
def nodesOf : List Token → Except PathError (List Node)
  | [] => .ok []
  | token :: rest =>
    match token.toNode with
    | .error e => .error e
    | .ok node => (nodesOf rest).map (node :: ·)

namespace Template

def ofTokens (tokens : List Token) (source : Text) : Except PathError Template :=
  (nodesOf tokens).map fun nodes => ⟨nodes, source⟩

/-- The template of a text: a syntax error anywhere comes before a bad path. -/
def compile (source : Text) : Except TemplateError Template :=
  match tokenize source with
  | .error e => .error (.syntaxError e)
  | .ok tokens => (ofTokens tokens source).mapError .path

/-- The template of tokens that are read one by one: the first fault in the text decides. -/
def ofLexing (lexing : Lexing) (source : Text) : Except TemplateError Template :=
  match nodesOf lexing.tokens with
  | .error e => .error (.path e)
  | .ok nodes =>
    match lexing.stop with
    | none => .ok ⟨nodes, source⟩
    | some stop => .error (.syntaxError (stop.toError source))

/-- The distinct expressions of field nodes, in the order of their first use. -/
def fieldsOf (seen : List Text) : List Node → List Text
  | [] => []
  | .text _ :: rest => fieldsOf seen rest
  | .field _ expr :: rest =>
    if expr ∈ seen then fieldsOf seen rest else expr :: fieldsOf (expr :: seen) rest

def fields (t : Template) : List Text := fieldsOf [] t.nodes

end Template

end FieldTemplate
