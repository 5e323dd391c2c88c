import FieldTemplate.Format.Html
import FieldTemplate.Format.Url
import FieldTemplate.Markdown.Wide
import FieldTemplate.Render.Basic

/-!
# Formatters by name
-/

namespace FieldTemplate

set_option autoImplicit false

inductive FormatterName where
  | identity
  | html
  | urlize
  | markdown
deriving DecidableEq, Repr

/-- A name that no formatter has. -/
structure UnknownFormatter where
  name : Text
deriving DecidableEq, Repr

namespace FormatterName

def toText : FormatterName → Text
  | .identity => "identity".toList
  | .html => "html".toList
  | .urlize => "urlize".toList
  | .markdown => "markdown".toList

def all : List FormatterName := [.html, .identity, .markdown, .urlize]

def ofText? (s : Text) : Option FormatterName := all.find? fun n => n.toText == s

/-- The names in alphabetic order. -/
def known : Text := Text.join [',', ' '] (all.map toText)

end FormatterName

def UnknownFormatter.message (e : UnknownFormatter) : Text :=
  "Unknown formatter '".toList ++ e.name ++ "' (expected one of: ".toList ++
    FormatterName.known ++ [')']

/-- A surrogate has no place in a path, and neither has a null character. -/
def Formatter.url (options : Url.Options) : Formatter := fun s =>
  (Url.fragment options (s.filled '\x00')).wide

/-- The formatter of a name; the options are those of the URL formatter. -/
def FormatterName.formatter (url : Url.Options) : FormatterName → Formatter
  | .identity => id
  | .html => Html.escape
  | .urlize => .url url
  | .markdown => Markdown.toHtmlWide

def Formatter.named (url : Url.Options) (name : Text) : Except UnknownFormatter Formatter :=
  match FormatterName.ofText? name with
  | some n => .ok (n.formatter url)
  | none => .error ⟨name⟩

/-- What a caller may say about a formatter: nothing, a name, or options of the URL formatter. -/
inductive FormatterChoice where
  | usual
  | named (name : Text)
  | url (options : Url.Options)

def FormatterChoice.formatter : FormatterChoice → Except UnknownFormatter Formatter
  | .usual => .ok id
  | .named name => Formatter.named .usual name
  | .url options => .ok (.url options)

end FieldTemplate
