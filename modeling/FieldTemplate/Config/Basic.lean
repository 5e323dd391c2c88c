import FieldTemplate.Format.Named
import FieldTemplate.Text.Utf8
import FieldTemplate.Value.Entries
import FieldTemplate.Value.Shown

/-!
# Configuration

A configuration names the formatter, says whether missing fields are errors, holds the
options of the URL formatter and the defaults that lie under all other data.  `Config.read`
takes it from a value, fills in what is absent, and collects every issue in the order of the
fields.
-/

namespace FieldTemplate

set_option autoImplicit false

structure Config where
  formatter : FormatterName
  strict : Bool
  url : Url.Options
  defaults : Entries

namespace Config

def usual : Config := ⟨.identity, false, .usual, []⟩

/-! ## Issues -/

/-- A step on the way to the place of an issue. -/
inductive Step where
  | name (s : Text)
  | number (n : Int)
deriving DecidableEq, Repr

inductive IssueKind where
  | notText
  | notUnicode
  | notBoolText
  | notBool
  | notModel
  | notDict
  | unknownFormatter (name : Text)
deriving DecidableEq, Repr

structure Issue where
  place : List Step
  kind : IssueKind
deriving DecidableEq, Repr

/-- Only the issue with a wording of its own has a message. -/
def IssueKind.message : IssueKind → Option Text
  | .unknownFormatter name =>
    some ("Value error, unknown formatter '".toList ++ name ++ "' (expected one of: ".toList ++
      FormatterName.known ++ [')'])
  | _ => none

/-- A field that was read, or its issues. -/
abbrev Checked (α : Type) := Except (List Issue) α

def issue {α : Type} (place : List Step) (kind : IssueKind) : Checked α := .error [⟨place, kind⟩]

/-- Both fields, or the issues of both. -/
def both {α β : Type} : Checked α → Checked β → Checked (α × β)
  | .ok a, .ok b => .ok (a, b)
  | .error e, .error f => .error (e ++ f)
  | .error e, .ok _ => .error e
  | .ok _, .error f => .error f

/-! ## Scalars -/

/-- A text, or bytes that are the UTF-8 form of one. -/
def text (place : List Step) : Value → Checked Text
  | .atom (.text s) =>
    match s.text? with
    | some t => .ok t
    | none => issue place .notUnicode
  | .atom (.bytes bs) =>
    match Utf8.decode bs with
    | .ok s => .ok s
    | .error _ => issue place .notUnicode
  | _ => issue place .notText

def boolOfText? (s : Text) : Option Bool :=
  let word := String.ofList (s.map Char.toLower)
  if ["1", "t", "y", "on", "yes", "true"].contains word then some true
  else if ["0", "f", "n", "off", "no", "false"].contains word then some false
  else none

/-- Integers of 64 bits. -/
def isWord (n : Int) : Bool := -9223372036854775808 ≤ n && n < 9223372036854775808

/-- Zero and one are booleans; other integers of 64 bits are near misses. -/
def boolOfInt (place : List Step) (n : Int) : Checked Bool :=
  if n = 0 then .ok false
  else if n = 1 then .ok true
  else if isWord n then issue place .notBoolText
  else issue place .notBool

/-- A whole double counts as the integer it stands for; the least integer of 64 bits is none of
those. -/
def boolOfDouble (place : List Step) : Binary64 → Checked Bool
  | .finite negative m e =>
    match Binary64.whole? m e with
    | some n =>
      let n := if negative then -(n : Int) else n
      if isWord (n - 1) then boolOfInt place n else issue place .notBool
    | none => issue place .notBool
  | _ => issue place .notBool

def bool (place : List Step) : Value → Checked Bool
  | .atom (.bool b) => .ok b
  | .atom (.text s) =>
    match s.text? with
    | none => issue place .notUnicode
    | some t =>
      match boolOfText? t with
      | some b => .ok b
      | none => issue place .notBoolText
  | .atom (.bytes bs) =>
    match (Utf8.decode bs).toOption.bind boolOfText? with
    | some b => .ok b
    | none => issue place .notBoolText
  | .atom (.int n) => boolOfInt place n
  | .atom (.double x) => boolOfDouble place x
  | .atom (.decimal (.finite s c e)) => boolOfDouble place (.ofDecimal s c e)
  | .atom (.fraction q) => boolOfDouble place (.ofRatio (q.num < 0) q.num.natAbs q.den)
  | _ => issue place .notBool

/-! ## Fields -/

/-- A field of a mapping, or the given value where it is absent. -/
def field {α : Type} (entries : Entries) (name : String) (usual : α)
    (read : List Step → Value → Checked α) : Checked α :=
  match entries.get? (.text (Text.wide name.toList)) with
  | some v => read [.name name.toList] v
  | none => .ok usual

def formatterName (place : List Step) (v : Value) : Checked FormatterName :=
  match text place v with
  | .error e => .error e
  | .ok s =>
    match FormatterName.ofText? s with
    | some n => .ok n
    | none => issue place (.unknownFormatter s)

/-- Puts the place of a whole in front of the places in it. -/
def within {α : Type} (place : List Step) (checked : Checked α) : Checked α :=
  checked.mapError fun issues => issues.map fun i => { i with place := place ++ i.place }

def urlOptions (place : List Step) : Value → Checked Url.Options
  | .mapping _ entries =>
    within place <| (both (field entries "lower" true bool)
      (field entries "remove_accents" false bool)).map fun (lower, accents) => ⟨lower, accents⟩
  | _ => issue place .notModel

/-- How a key is named on the way to an issue. -/
def keyStep : Atom → Step
  | .text s => .name (s.text?.getD s.quoted)
  | .bool b => .number b.toNat
  | .int n =>
    if isWord n then .number n
    else .name ((Text.ofInt? n).getD "<unprintable int object>".toList)
  | a => .name a.shown

/-- Defaults are a mapping whose keys are texts. -/
def defaultEntries (place : List Step) (acc : Checked Entries) : Entries → Checked Entries
  | [] => acc
  | (key, value) :: rest =>
    let name := text (place ++ [keyStep key, .name "[key]".toList]) (.atom key)
    let next := (both acc name).map fun (entries, s) => entries.insert (.text s.wide) value
    defaultEntries place next rest

def defaultsField (place : List Step) : Value → Checked Entries
  | .mapping _ entries => defaultEntries place (.ok []) entries
  | _ => issue place .notDict

/-- The configuration that a value stands for. -/
def read : Value → Checked Config
  | .mapping _ entries =>
    let first := both (field entries "formatter" .identity formatterName)
      (field entries "strict" false bool)
    let second := both (field entries "urlize" .usual urlOptions)
      (field entries "defaults" [] defaultsField)
    (both first second).map fun ((formatter, strict), (url, defaults)) =>
      ⟨formatter, strict, url, defaults⟩
  | _ => issue [] .notModel

/-- The formatter of the given name, or of the configured one if there is no name. -/
def formatterFor (config : Config) (name : Option Text) : Except UnknownFormatter Formatter :=
  match name with
  | none | some [] => .ok (config.formatter.formatter config.url)
  | some s => Formatter.named config.url s

end Config

end FieldTemplate
