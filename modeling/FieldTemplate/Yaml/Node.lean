import FieldTemplate.Host
import FieldTemplate.Yaml.Tag
import FieldTemplate.Yaml.Token.Lexer

/-!
# From tokens to nodes

A node is a scalar, a sequence or a mapping with its tag resolved.  The nodes of a document
are numbered, and collections hold the numbers of their parts: an alias is the number of the
node it stands for, which may be a collection that the alias lies in.  A text holds at most
one document, and an empty text none.
-/

namespace FieldTemplate.Yaml

set_option autoImplicit false

inductive Content where
  | scalar (text : WideText)
  | sequence (items : List Nat)
  | mapping (entries : List (Nat × Nat))

structure Node where
  tag : Tag
  content : Content

/-- The nodes of a document by their numbers.  It is circular if a collection may lie in itself. -/
structure Document where
  nodes : Array Node
  root : Nat
  circular : Bool

namespace Node

/-- A scalar that is not written. -/
def empty : Node := ⟨.null, .scalar []⟩

instance : Inhabited Node := ⟨empty⟩

/-- What is left of the tokens behind the `read` first ones, with the nodes and names that are known
by now.  A node has its number, and its anchor can be referred to, as soon as it begins;
`unfinished` are the collections that have begun and not ended. -/
structure State where
  tokens : List Token
  read : Nat
  stop : YamlError
  handles : List (Text × Text)
  anchors : List (Text × Nat)
  nodes : Array Node
  unfinished : List Nat
  circular : Bool

abbrev Parse := StateT State (Except YamlError)

def fail {α : Type} : Parse α := throw .malformed

/-- The next token; the end of the tokens is where the text has its fault. -/
def peek : Parse Token := do
  let st ← get
  match st.tokens with
  | t :: _ => return t
  | [] => throw st.stop

def advance : Parse Unit :=
  modify fun st => { st with tokens := st.tokens.drop 1, read := st.read + 1 }

/-- Takes the next token if it is the given one. -/
def take? (t : Token) : Parse Bool := do
  if (← peek) = t then
    advance
    return true
  else return false

def sees (ts : List Token) : Parse Bool := return ts.contains (← peek)

/-! ## Properties -/

/-- The anchor and the tag in front of a node, in either order. -/
def properties : Parse (Option Text × Option TagName) := do
  match ← peek with
  | .anchor a =>
    advance
    match ← peek with
    | .tag t =>
      advance
      return (some a, some t)
    | _ => return (some a, none)
  | .tag t =>
    advance
    match ← peek with
    | .anchor a =>
      advance
      return (some a, some t)
    | _ => return (none, some t)
  | _ => return (none, none)

/-- The full text of a tag; the lone mark stands for no tag at all. -/
def tagText : Option TagName → Parse (Option Text)
  | none => return none
  | some t =>
    match t.handle with
    | none => return some t.suffix
    | some h => do
      match (← get).handles.find? fun e => e.1 == h with
      | some (_, start) => return some (start ++ t.suffix)
      | none => fail

def isUntagged (tag : Option Text) : Bool := tag.isNone || tag == some ['!']

/-- The tag of a collection. -/
def collectionTag (tag : Option Text) (usual : Tag) : Tag :=
  if isUntagged tag then usual else Tag.ofText (tag.getD [])

/-- The tag of a scalar: by its characters if it is plain or carries the lone mark. -/
def scalarTag (tag : Option Text) (plain : Bool) (s : WideText) : Tag :=
  match tag with
  | none => if plain then Tag.ofPlain s.lossy else .str
  | some t => if t = ['!'] then Tag.ofPlain s.lossy else Tag.ofText t

/-- Gives a node its number, under an anchor that is not taken. -/
def add (anchor : Option Text) (n : Node) : Parse Nat := do
  let number := (← get).nodes.size
  match anchor with
  | none => modify fun st => { st with nodes := st.nodes.push n }
  | some a =>
    if (← get).anchors.any fun e => e.1 == a then fail
    modify fun st => { st with nodes := st.nodes.push n, anchors := (a, number) :: st.anchors }
  return number

/-- A scalar that is not written. -/
def addEmpty : Parse Nat := add none empty

/-- The node that an anchor stands for. -/
def named (anchor : Text) : Parse Nat := do
  let st ← get
  match st.anchors.find? fun e => e.1 == anchor with
  | some (_, number) =>
    set { st with circular := st.circular || st.unfinished.contains number }
    return number
  | none => fail

/-- A collection whose parts are read behind its first token, after it has its number. -/
def collection (anchor : Option Text) (tag : Tag) (parts : Parse Content) : Parse Nat := do
  let number ← add anchor ⟨tag, .sequence []⟩
  modify fun st =>
    { st with
      tokens := st.tokens.drop 1
      read := st.read + 1
      unfinished := number :: st.unfinished }
  let content ← parts
  modify fun st =>
    { st with
      nodes := st.nodes.setIfInBounds number ⟨tag, content⟩
      unfinished := st.unfinished.drop 1 }
  return number

/-! ## Nodes -/

section

variable [Host]

/-- A node is read if the stack has room for it inside of the collections that have begun. -/
def enter : Parse Unit := do
  let st ← get
  if !Host.room (.node st.tokens) st.unfinished.length then throw .tooDeep

mutual

/-- A node.  Block collections are only read where `block` allows them, a sequence at the
indentation of its parent only where `inParent` does. -/
def node (block inParent : Bool) : Nat → Parse Nat
  | 0 => fail
  | fuel + 1 => do
    enter
    match ← peek with
    | .alias a =>
      advance
      named a
    | _ =>
      let (anchor, name) ← properties
      let tag ← tagText name
      let sequence (items : Parse (List Nat)) : Parse Nat :=
        collection anchor (collectionTag tag .seq) (.sequence <$> items)
      let mapping (entries : Parse (List (Nat × Nat))) : Parse Nat :=
        collection anchor (collectionTag tag .map) (.mapping <$> entries)
      match ← peek with
      | .scalar s plain =>
        advance
        add anchor ⟨scalarTag tag plain s, .scalar s⟩
      | t =>
        if inParent && t == .blockEntry then sequence (parentItems fuel)
        else if t == .flowSequenceStart then sequence (flowItems true fuel)
        else if t == .flowMappingStart then mapping (flowEntries true fuel)
        else if block && t == .blockSequenceStart then sequence (blockItems fuel)
        else if block && t == .blockMappingStart then mapping (blockEntries fuel)
        else if anchor.isSome || tag.isSome then add anchor ⟨scalarTag tag true [], .scalar []⟩
        else fail

/-- The items of a block sequence up to its end. -/
def blockItems : Nat → Parse (List Nat)
  | 0 => fail
  | fuel + 1 => do
    if ← take? .blockEntry then
      let item ← if ← sees [.blockEntry, .blockEnd] then addEmpty else node true false fuel
      return item :: (← blockItems fuel)
    else if ← take? .blockEnd then return []
    else fail

/-- The items of a sequence at the indentation of its parent, behind the mark of the first one. -/
def parentItems : Nat → Parse (List Nat)
  | 0 => fail
  | fuel + 1 => do
    let item ← if ← sees [.blockEntry, .key, .value, .blockEnd] then addEmpty
      else node true false fuel
    if ← take? .blockEntry then return item :: (← parentItems fuel)
    else return [item]

/-- The entries of a block mapping up to its end. -/
def blockEntries : Nat → Parse (List (Nat × Nat))
  | 0 => fail
  | fuel + 1 => do
    if ← take? .key then
      let key ← if ← sees [.key, .value, .blockEnd] then addEmpty else node true true fuel
      let value ← if ← take? .value then
          if ← sees [.key, .value, .blockEnd] then addEmpty else node true true fuel
        else addEmpty
      return (key, value) :: (← blockEntries fuel)
    else if ← take? .blockEnd then return []
    else fail

/-- The items of a sequence in brackets; a key makes an item of its own a mapping. -/
def flowItems (first : Bool) : Nat → Parse (List Nat)
  | 0 => fail
  | fuel + 1 => do
    if ← take? .flowSequenceEnd then return []
    else
      if !first then
        if !(← take? .flowEntry) then fail
      if ← sees [.key] then
        let item ← collection none .map do
          let key ← if ← sees [.value, .flowEntry, .flowSequenceEnd] then addEmpty
            else node false false fuel
          let value ← if ← take? .value then
              if ← sees [.flowEntry, .flowSequenceEnd] then addEmpty else node false false fuel
            else addEmpty
          return .mapping [(key, value)]
        return item :: (← flowItems false fuel)
      else if ← take? .flowSequenceEnd then return []
      else
        let item ← node false false fuel
        return item :: (← flowItems false fuel)

/-- The entries of a mapping in braces; a key alone has no value. -/
def flowEntries (first : Bool) : Nat → Parse (List (Nat × Nat))
  | 0 => fail
  | fuel + 1 => do
    if ← take? .flowMappingEnd then return []
    else
      if !first then
        if !(← take? .flowEntry) then fail
      if ← take? .key then
        let key ← if ← sees [.value, .flowEntry, .flowMappingEnd] then addEmpty
          else node false false fuel
        let value ← if ← take? .value then
            if ← sees [.flowEntry, .flowMappingEnd] then addEmpty else node false false fuel
          else addEmpty
        return (key, value) :: (← flowEntries false fuel)
      else if ← take? .flowMappingEnd then return []
      else
        let key ← node false false fuel
        return (key, ← addEmpty) :: (← flowEntries false fuel)

end

end

/-! ## Documents -/

def usualHandles : List (Text × Text) := [(['!'], ['!']), (['!', '!'], coreStart)]

/-- The directives in front of a document. -/
def directives : Nat → Bool → List (Text × Text) → Parse (List (Text × Text))
  | 0, _, _ => fail
  | fuel + 1, versioned, handles => do
    match ← peek with
    | .directive (.version major _) =>
      if versioned || major ≠ 1 then fail
      else
        advance
        directives fuel true handles
    | .directive (.tag h start) =>
      if handles.any fun e => e.1 == h then fail
      else
        advance
        directives fuel versioned ((h, start) :: handles)
    | .directive .other =>
      advance
      directives fuel versioned handles
    | _ => return handles ++ usualHandles

/-- Passes the markers at the end of a document; nothing else may follow. -/
def finish : Nat → Parse Unit
  | 0 => fail
  | fuel + 1 => do
    match ← peek with
    | .documentEnd =>
      advance
      finish fuel
    | .streamEnd => return ()
    | _ => fail

/-- The root of the only document, or nothing for an empty text. -/
def document [Host] (fuel : Nat) : Parse (Option Nat) := do
  match ← peek with
  | .streamEnd => return none
  | .directive _ | .documentStart =>
    let handles ← directives fuel false []
    modify fun st => { st with handles := handles }
    if !(← take? .documentStart) then fail
    else
      match ← peek with
      | .directive _ | .documentStart | .documentEnd | .streamEnd =>
        finish fuel
        return some (← addEmpty)
      | _ =>
        let n ← node true false fuel
        finish fuel
        return some n
  | _ =>
    let n ← node true false fuel
    finish fuel
    return some n

end Node

/-- The document of a token sequence, if there is one.  Between two tokens at most a few nested
readers are entered. -/
def Document.ofLexing [Host] (lexing : Lexing) : Except YamlError (Option Document) :=
  let start : Node.State :=
    ⟨lexing.tokens, 0, lexing.stop.getD .malformed, Node.usualHandles, [], #[], [], false⟩
  ((Node.document (4 * lexing.tokens.length + 8)).run start).map fun (root, st) =>
    root.map fun number => ⟨st.nodes, number, st.circular⟩

end FieldTemplate.Yaml
