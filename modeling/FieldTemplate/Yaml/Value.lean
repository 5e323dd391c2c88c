import FieldTemplate.Value.Entries
import FieldTemplate.Yaml.Mapping
import FieldTemplate.Yaml.Scalar

/-!
# From nodes to values

Scalars are read by their tags when they are first met.  Collections are filled level by
level: all nodes of one depth are met before any node below them, so that of several faults
the one nearest to the root is reported, and of those of one depth the first.

What is built is again numbered, since a collection may lie in itself.  The value of a
document is then the tree that its root unfolds to.  Without a circle that is the whole
value; with one it ends at a level that the host sets.
-/

namespace FieldTemplate.Yaml

set_option autoImplicit false

/-! ## Parts -/

/-- What a node is read as; collections hold the numbers of their parts. -/
inductive Part where
  | atom (a : Atom)
  | items (numbers : List Nat)
  | pairs (numbers : List (Nat × Nat))
  | entries (es : List (Atom × Nat))
  | keys (atoms : List Atom)

namespace Part

def children : Part → List Nat
  | .atom _ | .keys _ => []
  | .items numbers => numbers
  | .pairs numbers => numbers.flatMap fun p => [p.1, p.2]
  | .entries es => es.map (·.2)

end Part

/-- The parts read so far, the nodes as they are by now, and the collections that wait to be
filled, latest first. -/
structure Building where
  nodes : Nodes
  parts : Array (Option Part)
  waiting : List Nat

abbrev Build := StateT Building (Except YamlError)

namespace Build

def setPart (number : Nat) (p : Part) : Build Unit :=
  modify fun st => { st with parts := st.parts.setIfInBounds number (some p) }

/-- Puts an empty collection in the place of a node until it is filled. -/
def wait (number : Nat) (p : Part) : Build Unit := do
  setPart number p
  modify fun st => { st with waiting := number :: st.waiting }

def tagOf (number : Nat) : Build Tag := return ((← get).nodes.getD number default).tag

def contentOf (number : Nat) : Build Content := return (← get).nodes.content number

/-- Reads a node unless it has been read before. -/
def meet [Host] (number : Nat) : Build Unit := do
  if ((← get).parts.getD number none).isSome then return
  match ← tagOf number with
  | .seq => wait number (.items [])
  | .orderedMap | .pairs => wait number (.pairs [])
  | .map => wait number (.entries [])
  | .set => wait number (.keys [])
  | .unknown | .merge | .default => throw .malformed
  | tag =>
    let nodes := (← get).nodes
    let s ← nodes.scalarText number 0 (nodes.size + 1)
    if let (.timestamp, .mapping _) := (tag, nodes.content number) then throw .timestampMapping
    setPart number (.atom (← Scalar.value tag s))

/-! ## Filling -/

/-- An entry with the number of its key. -/
structure Keyed where
  number : Nat
  key : Atom
  value : Nat

/-- Writes an entry; a key that comes again keeps its place.  The same node is the same key. -/
def write (e : Keyed) : List Keyed → List Keyed
  | [] => [e]
  | old :: rest =>
    if old.number == e.number || old.key.sameKey e.key then { old with value := e.value } :: rest
    else old :: write e rest

/-- The entries of a mapping, whose keys have to be atoms. -/
def entriesOf [Host] (number : Nat) : Build (List (Atom × Nat)) := do
  let .mapping _ ← contentOf number | throw .malformed
  let st ← get
  let (es, nodes) ← (Nodes.flatten number 0 st.nodes.mergeFuel).run st.nodes
  set { st with nodes := nodes }
  let written ← es.foldlM (fun (written : List Keyed) (key, value) => do
    meet key
    let some (.atom a) := (← get).parts.getD key none | throw .malformed
    meet value
    return write ⟨key, a, value⟩ written) []
  return written.map fun e => (e.key, e.value)

/-- An item of an ordered mapping: a mapping of one entry. -/
def pairOf [Host] (number : Nat) : Build (Nat × Nat) := do
  let .mapping [(key, value)] ← contentOf number | throw .malformed
  meet key
  meet value
  return (key, value)

/-- Reads the parts of a collection. -/
def fill [Host] (number : Nat) : Build Unit := do
  match ← tagOf number with
  | .seq =>
    let .sequence items ← contentOf number | throw .malformed
    items.forM meet
    setPart number (.items items)
  | .orderedMap | .pairs =>
    let .sequence items ← contentOf number | throw .malformed
    setPart number (.pairs (← items.mapM pairOf))
  | .map => setPart number (.entries (← entriesOf number))
  | .set => setPart number (.keys ((← entriesOf number).map (·.1)))
  | _ => return

/-- Fills the collections that wait, and then those that were met meanwhile. -/
def fillAll [Host] : Nat → Build Unit
  | 0 => return
  | fuel + 1 => do
    match (← get).waiting with
    | [] => return
    | waiting =>
      modify fun st => { st with waiting := [] }
      waiting.reverse.forM fill
      fillAll fuel

end Build

/-- The parts of a document.  Every round fills at least one of its nodes. -/
def Document.parts [Host] (d : Document) : Except YamlError (Array (Option Part)) := do
  let start : Building := ⟨d.nodes, Array.replicate d.nodes.size none, []⟩
  let (_, st) ← (Build.meet d.root *> Build.fillAll (d.nodes.size + 1)).run start
  return st.parts

/-! ## Unfolding -/

/-- The value of a part to the given depth; what lies deeper is left out. -/
def unfold (parts : Array (Option Part)) : Nat → Nat → Value
  | 0, number =>
    match parts.getD number none with
    | some (.atom a) => .atom a
    | some (.items _) | some (.pairs _) => .sequence .list []
    | some (.entries _) => .dict []
    | some (.keys as) => .sequence .set (as.map .atom)
    | none => .null
  | depth + 1, number =>
    match parts.getD number none with
    | some (.atom a) => .atom a
    | some (.items numbers) => .sequence .list (numbers.map (unfold parts depth))
    | some (.pairs numbers) =>
      .sequence .list (numbers.map fun p =>
        .sequence .tuple [unfold parts depth p.1, unfold parts depth p.2])
    | some (.entries es) => .dict (es.map fun e => (e.1, unfold parts depth e.2))
    | some (.keys as) => .sequence .set (as.map .atom)
    | none => .null

/-- The number of levels below the given numbers that have no more values each. -/
def levelsBelow (parts : Array (Option Part)) (breadth : Nat) : Nat → List Nat → Nat
  | 0, _ => 0
  | levels + 1, numbers =>
    if numbers.isEmpty || breadth < numbers.length then 0
    else
      let next := numbers.flatMap fun n => ((parts.getD n none).map Part.children).getD []
      levelsBelow parts breadth levels next + 1

/-- A document that does not lie in itself is unfolded to its end. -/
def Document.value [Host] (d : Document) : Except YamlError Value := do
  let parts ← d.parts
  let extent := Host.unfolding
  let depth := if d.circular then levelsBelow parts extent.breadth extent.levels [d.root]
    else parts.size
  return unfold parts depth d.root

/-! ## Texts -/

/-- The document of a text that has been decoded, if there is one. -/
def document [Host] (s : Text) : Except YamlError (Option Document) :=
  if s.all isPrintable then Document.ofLexing (lex s) else .error .malformed

/-- The value of a text that has been decoded; an empty text is null. -/
def readText [Host] (s : Text) : Except YamlError Value :=
  match document s with
  | .error e => .error e
  | .ok none => .ok .null
  | .ok (some d) => d.value

/-- The value of a text in bytes. -/
def readBytes [Host] (bs : List UInt8) : Except YamlError Value :=
  match decode bs with
  | some s => readText s
  | none => .error .malformed

end FieldTemplate.Yaml
