import FieldTemplate.Files.Path

/-!
# Command lines

A command line is a command with options and one template.  Options may stand before and
behind the template; of an option that is given more than once the last one counts, except
for data files and assignments, which add up.  A word that starts with a hyphen is an
option, and so is each letter behind a single hyphen; a lone hyphen is a template, and
everything behind two hyphens is none.
-/

namespace FieldTemplate.Command

set_option autoImplicit false

inductive OptionName where
  | data
  | assign
  | formatter
  | strict
  | lenient
  | output
  | config
  | verbose
  | help
  | version
deriving DecidableEq, Repr

def OptionName.takesValue : OptionName → Bool
  | .data | .assign | .formatter | .output | .config => true
  | _ => false

/-- The options of a command by their long names and by their letters. -/
structure OptionTable where
  long : List (Text × OptionName)
  short : List (Char × OptionName)

namespace OptionTable

def long? (t : OptionTable) (name : Text) : Option OptionName :=
  (t.long.find? fun e => e.1 == name).map (·.2)

def short? (t : OptionTable) (c : Char) : Option OptionName :=
  (t.short.find? fun e => e.1 == c).map (·.2)

def ofNames (long : List (String × OptionName)) (short : List (Char × OptionName)) : OptionTable :=
  ⟨long.map fun e => (e.1.toList, e.2), short⟩

/-- Options in front of any command. -/
def program : OptionTable := ofNames [("--version", .version), ("--help", .help)] []

def render : OptionTable :=
  ofNames
    [("--data", .data), ("--set", .assign), ("--formatter", .formatter), ("--strict", .strict),
      ("--lenient", .lenient), ("--output", .output), ("--config", .config),
      ("--verbose", .verbose), ("--help", .help)]
    [('d', .data), ('s', .assign), ('e', .formatter), ('o', .output), ('c', .config),
      ('v', .verbose)]

def check : OptionTable := ofNames [("--verbose", .verbose), ("--help", .help)] [('v', .verbose)]

def tokens : OptionTable := ofNames [("--help", .help)] []

end OptionTable

/-- A command line that cannot be understood. -/
inductive Usage where
  | wrong
deriving DecidableEq, Repr

/-- An option with its value, or a flag with an empty one. -/
abbrev Given := OptionName × Text

/-! ## Words -/

/-- The flags behind a single hyphen; an option with a value takes the rest of the word, and
waits for the next word if there is no rest. -/
def cluster (table : OptionTable) : Text → Except Usage (List Given × Option OptionName)
  | [] => .ok ([], none)
  | c :: rest =>
    match table.short? c with
    | none => .error .wrong
    | some name =>
      if name.takesValue then
        if rest.isEmpty then .ok ([], some name) else .ok ([(name, rest)], none)
      else (cluster table rest).map fun (given, waiting) => ((name, []) :: given, waiting)

/-- The options in one word, and the one that waits for the next word. -/
def word (table : OptionTable) (arg : Text) : Except Usage (List Given × Option OptionName) :=
  let (name, value) := match Text.cutAt '=' arg with
    | some (name, value) => (name, some value)
    | none => (arg, none)
  match table.long? name with
  | some option =>
    match option.takesValue, value with
    | true, some v => .ok ([(option, v)], none)
    | true, none => .ok ([], some option)
    | false, none => .ok ([(option, [])], none)
    | false, some _ => .error .wrong
  | none =>
    match arg with
    | '-' :: '-' :: _ => .error .wrong
    | _ :: letters => cluster table letters
    | [] => .error .wrong

def isOption : Text → Bool
  | '-' :: _ :: _ => true
  | _ => false

/-- The options of a list of words, and the words that are none.  Where options and other words
may not be mixed, the first other word ends the options. -/
def scan (table : OptionTable) (mixed : Bool) : List Text → Except Usage (List Given × List Text)
  | [] => .ok ([], [])
  | arg :: rest =>
    if arg = ['-', '-'] then .ok ([], rest)
    else if isOption arg then
      match word table arg with
      | .error e => .error e
      | .ok (given, none) =>
        (scan table mixed rest).map fun (more, others) => (given ++ more, others)
      | .ok (given, some waiting) =>
        match rest with
        | [] => .error .wrong
        | value :: rest =>
          (scan table mixed rest).map fun (more, others) =>
            (given ++ (waiting, value) :: more, others)
    else if mixed then (scan table mixed rest).map fun (more, others) => (more, arg :: others)
    else .ok ([], arg :: rest)

/-! ## Requests -/

structure RenderRequest where
  template : Text
  data : List Path
  assignments : List Text
  formatter : Option Text
  strict : Option Bool
  output : Option Path
  config : Option Path
  verbose : Bool

inductive Request where
  | version
  | help
  | render (r : RenderRequest)
  | check (template : Text) (verbose : Bool)
  | tokens (template : Text)

def allOf (given : List Given) (name : OptionName) : List Text :=
  given.filterMap fun g => if g.1 = name then some g.2 else none

def lastOf (given : List Given) (name : OptionName) : Option Text := (allOf given name).getLast?

def isGiven (given : List Given) (name : OptionName) : Bool := given.any fun g => g.1 == name

/-- The last of the two flags for and against strictness. -/
def strictness (given : List Given) : Option Bool :=
  (given.filterMap fun g =>
    match g.1 with
    | .strict => some true
    | .lenient => some false
    | _ => none).getLast?

def renderRequest (given : List Given) (template : Text) : RenderRequest :=
  { template := template
    data := (allOf given .data).map Path.ofText
    assignments := allOf given .assign
    formatter := lastOf given .formatter
    strict := strictness given
    output := (lastOf given .output).map Path.ofText
    config := (lastOf given .config).map Path.ofText
    verbose := isGiven given .verbose }

/-- A null character cannot stand in the path of a file that is read or written. -/
def hasNull (p : Path) : Bool := p.parts.any fun part => part.contains '\x00'

def RenderRequest.check (r : RenderRequest) : Except Usage Request :=
  if (r.data ++ r.output.toList ++ r.config.toList).any hasNull then .error .wrong
  else .ok (.render r)

/-- A command's options and its only other word; help comes before everything that is missing or
wrong. -/
def withTemplate (table : OptionTable) (args : List Text)
    (make : List Given → Text → Except Usage Request) : Except Usage Request :=
  match scan table true args with
  | .error e => .error e
  | .ok (given, others) =>
    if isGiven given .help then .ok .help
    else match others with
      | [template] => make given template
      | _ => .error .wrong

def command (name : Text) (args : List Text) : Except Usage Request :=
  match String.ofList name with
  | "render" => withTemplate .render args fun given t => (renderRequest given t).check
  | "check" => withTemplate .check args fun given t => .ok (.check t (isGiven given .verbose))
  | "tokens" => withTemplate .tokens args fun _ t => .ok (.tokens t)
  | _ => .error .wrong

/-- What the options in front of any command ask for, or the words behind them. -/
def programOptions (args : List Text) : Except Usage (Request ⊕ List Text) :=
  match scan .program false args with
  | .error e => .error e
  | .ok ((.version, _) :: _, _) => .ok (.inl .version)
  | .ok (_ :: _, _) => .ok (.inl .help)
  | .ok ([], rest) => .ok (.inr rest)

/-- What a command line asks for.  Words behind two hyphens that look like an option where the
command should stand are read as options after all. -/
def Request.parse (args : List Text) : Except Usage Request :=
  match programOptions args with
  | .error e => .error e
  | .ok (.inl request) => .ok request
  | .ok (.inr []) => .error .wrong
  | .ok (.inr (name :: rest)) =>
    if isOption name then
      match programOptions (name :: rest) with
      | .ok (.inl request) => .ok request
      | _ => .error .wrong
    else command name rest

end FieldTemplate.Command
