import FieldTemplate.Yaml.Node

/-!
# Merge keys

A merge key takes the entries of other mappings into its own mapping, in front of the ones
that are written there.  Merge keys are resolved in place, since a mapping that is merged has
its own merge keys resolved first and may be the very mapping that is being filled.
-/

namespace FieldTemplate.Yaml

set_option autoImplicit false

/-- The nodes of a document while values are built from them. -/
abbrev Nodes := Array Node

namespace Nodes

abbrev Edit := StateT Nodes (Except YamlError)

def content (nodes : Nodes) (number : Nat) : Content := (nodes.getD number default).content

def isTagged (nodes : Nodes) (tag : Tag) (number : Nat) : Bool :=
  (nodes.getD number default).tag == tag

def entries (nodes : Nodes) (number : Nat) : List (Nat × Nat) :=
  match nodes.content number with
  | .mapping es => es
  | _ => []

def setEntries (nodes : Nodes) (number : Nat) (es : List (Nat × Nat)) : Nodes :=
  nodes.modify number fun n => { n with content := .mapping es }

/-- A default key is an ordinary text in a mapping. -/
def asText (nodes : Nodes) (number : Nat) : Nodes :=
  nodes.modify number fun n => if n.tag = .default then { n with tag := .str } else n

/-- Removes the first merge key of a mapping and gives the node behind it. -/
def takeMerge? (number : Nat) : Edit (Option Nat) := do
  let nodes ← get
  let es := nodes.entries number
  let own := es.takeWhile fun e => !nodes.isTagged .merge e.1
  match es.drop own.length with
  | [] => return none
  | (_, source) :: rest =>
    set (nodes.setEntries number (own ++ rest))
    return some source

section

variable [Host]

mutual

/-- The entries that the merge keys of a mapping stand for; the keys are removed.  Of several
mappings in one sequence the first has the last word.  A merge key with anything but a mapping or
a sequence of mappings is a fault.  `level` mappings wait for this one. -/
def takeMerged (number level : Nat) : Nat → Edit (List (Nat × Nat))
  | 0 => throw .malformed
  | fuel + 1 => do
    match ← takeMerge? number with
    | none => return []
    | some source =>
      let taken ←
        match (← get).content source with
        | .mapping _ => flatten source (level + 1) fuel
        | .sequence items => do
          let parts ← items.mapM fun item => do
            match (← get).content item with
            | .mapping _ => flatten item (level + 1) fuel
            | _ => throw .malformed
          pure parts.reverse.flatten
        | .scalar _ => throw .malformed
      return taken ++ (← takeMerged number level fuel)

/-- Resolves the merge keys of a mapping and gives its entries. -/
def flatten (number level : Nat) : Nat → Edit (List (Nat × Nat))
  | 0 => throw .malformed
  | fuel + 1 => do
    if !Host.room .mergeKey level then throw .tooDeep
    let merged ← takeMerged number level fuel
    let es := merged ++ (← get).entries number
    modify fun nodes => es.foldl (fun nodes e => nodes.asText e.1) (nodes.setEntries number es)
    return es

end

end

/-- As many steps as resolving all merge keys can take: each is removed once. -/
def mergeFuel (nodes : Nodes) : Nat :=
  nodes.foldl (fun n node =>
    match node.content with
    | .mapping es => n + 2 * es.length
    | _ => n) 4

/-- The text of a scalar, or the text that stands for a mapping with a default entry.  A mapping
that stands for itself has no end.  `level` mappings wait for the text. -/
def scalarText [Host] (nodes : Nodes) (number level : Nat) : Nat → Except YamlError WideText
  | 0 => .error .endless
  | fuel + 1 =>
    if !Host.room .standIn level then .error .tooDeep
    else match nodes.content number with
    | .scalar s => .ok s
    | .sequence _ => .error .malformed
    | .mapping es =>
      match es.find? fun e => nodes.isTagged .default e.1 with
      | some (_, value) => nodes.scalarText value (level + 1) fuel
      | none => .error .malformed

end Nodes

end FieldTemplate.Yaml
