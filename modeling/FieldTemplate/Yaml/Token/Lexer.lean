import FieldTemplate.Yaml.Token.Block
import FieldTemplate.Yaml.Token.Name
import FieldTemplate.Yaml.Token.Plain
import FieldTemplate.Yaml.Token.Quoted

/-!
# From characters to tokens

A key is only known to be one when the colon behind it is reached.  So every token that may
start a key is remembered, by depth of brackets, and the key token is put in front of it
when the colon comes on the same line and within 1024 characters.  Outside brackets a
greater column opens a block, a smaller one closes blocks.
-/

namespace FieldTemplate.Yaml

set_option autoImplicit false

/-- Where a key may have started: its token's number and place.  A required one is an error if
no colon follows. -/
structure KeyStart where
  number : Nat
  required : Bool
  index : Nat
  line : Nat
  column : Nat

/-- Latest token first.  `depth` counts open brackets, `indent` is the column of the innermost
block, `keyAllowed` says whether a key may start here. -/
structure LexState where
  cursor : Cursor
  tokens : List Token
  depth : Nat
  indent : Int
  outer : List Int
  keyAllowed : Bool
  keys : List (Nat × KeyStart)

namespace LexState

abbrev Step := Except YamlError LexState

def start (s : Text) : LexState := ⟨.start s, [], 0, -1, [], true, []⟩

def push (st : LexState) (t : Token) : LexState := { st with tokens := t :: st.tokens }

/-- Puts a token in front of the one with the given number. -/
def insert (st : LexState) (number : Nat) (t : Token) : LexState :=
  let later := st.tokens.length - number
  { st with tokens := st.tokens.take later ++ t :: st.tokens.drop later }

def column (st : LexState) : Int := st.cursor.column

def inFlow (st : LexState) : Bool := st.depth ≠ 0

/-! ## Keys -/

/-- A start that lies too far back for a colon to follow. -/
def isStale (st : LexState) (k : KeyStart) : Bool :=
  k.line != st.cursor.line || st.cursor.index - k.index > 1024

/-- Forgets the starts of keys that lie too far back. -/
def dropStale (st : LexState) : Step :=
  if st.keys.any fun k => st.isStale k.2 && k.2.required then .error .malformed
  else .ok { st with keys := st.keys.filter fun k => !st.isStale k.2 }

/-- Forgets the start of a key at the present depth. -/
def dropKey (st : LexState) : Step :=
  if st.keys.any fun k => k.1 == st.depth && k.2.required then .error .malformed
  else .ok { st with keys := st.keys.filter fun k => k.1 != st.depth }

/-- Remembers that a key may start here.  The first token of a line in a block has to be one. -/
def saveKey (st : LexState) : Step :=
  if !st.keyAllowed then .ok st
  else
    let key : KeyStart := ⟨st.tokens.length, !st.inFlow && st.indent == st.column,
      st.cursor.index, st.cursor.line, st.cursor.column⟩
    st.dropKey.map fun st => { st with keys := (st.depth, key) :: st.keys }

/-! ## Blocks -/

/-- Closes the blocks that are indented further than the column. -/
def unwindFrom (st : LexState) (column : Int) : List Int → LexState
  | [] => st
  | outer :: rest =>
    if column < st.indent then
      unwindFrom { st with indent := outer, outer := rest, tokens := .blockEnd :: st.tokens }
        column rest
    else st

def unwind (st : LexState) (column : Int) : LexState :=
  if st.inFlow then st else st.unwindFrom column st.outer

/-- Opens a block at a column further in; tells whether it did. -/
def openBlock (st : LexState) (column : Int) : Bool × LexState :=
  if st.indent < column then
    (true, { st with indent := column, outer := st.indent :: st.outer })
  else (false, st)

/-- Opens a block at the cursor, with its start token. -/
def openHere (st : LexState) (t : Token) : LexState :=
  match st.openBlock st.column with
  | (true, st) => st.push t
  | (false, st) => st

/-! ## Tokens -/

def advance (st : LexState) (n : Nat) : LexState := { st with cursor := st.cursor.skip n }

/-- Passes spaces, comments and line breaks; outside brackets a key may start on a new line. -/
def toNextToken : Nat → LexState → LexState
  | 0, st => st
  | fuel + 1, st =>
    let p := st.cursor.skipWhile (· == ' ')
    let p := if p.head = '#' then p.skipWhile fun c => !isBreakOrEnd c else p
    if isBreak p.head then
      toNextToken fuel
        { st with cursor := p.lineBreak.2, keyAllowed := st.keyAllowed || !st.inFlow }
    else { st with cursor := p }

def allow (st : LexState) (b : Bool) : LexState := { st with keyAllowed := b }

/-- A token that resets the block structure: the end of the text, a directive, a marker. -/
def atMargin (st : LexState) : Step := ((st.unwind (-1)).dropKey).map (·.allow false)

def flowStart (st : LexState) (t : Token) : Step :=
  st.saveKey.map fun st => ({ st with depth := st.depth + 1, keyAllowed := true }.advance 1).push t

def flowEnd (st : LexState) (t : Token) : Step :=
  st.dropKey.map fun st => ({ st with depth := st.depth - 1, keyAllowed := false }.advance 1).push t

def flowEntry (st : LexState) : Step :=
  (st.allow true).dropKey.map fun st => (st.advance 1).push .flowEntry

def blockEntry (st : LexState) : Step :=
  if !st.inFlow && !st.keyAllowed then .error .malformed
  else
    let st := if st.inFlow then st else st.openHere .blockSequenceStart
    (st.allow true).dropKey.map fun st => (st.advance 1).push .blockEntry

def keyMark (st : LexState) : Step :=
  if !st.inFlow && !st.keyAllowed then .error .malformed
  else
    let st := if st.inFlow then st else st.openHere .blockMappingStart
    (st.allow !st.inFlow).dropKey.map fun st => (st.advance 1).push .key

/-- A colon: what was remembered at this depth is a key now. -/
def valueMark (st : LexState) : Step :=
  match st.keys.find? fun k => k.1 == st.depth with
  | some (_, key) =>
    let st := { st with keys := st.keys.filter fun k => k.1 != st.depth }
    let st := st.insert key.number .key
    let st := if st.inFlow then st else
      match st.openBlock key.column with
      | (true, st) => st.insert key.number .blockMappingStart
      | (false, st) => st
    .ok (((st.allow false).advance 1).push .value)
  | none =>
    if !st.inFlow && !st.keyAllowed then .error .malformed
    else
      let st := if st.inFlow then st else st.openHere .blockMappingStart
      (st.allow !st.inFlow).dropKey.map fun st => (st.advance 1).push .value

/-- A token that may start a key. -/
def named (st : LexState) (read : Cursor → Read Token) : Step :=
  match st.saveKey with
  | .error e => .error e
  | .ok st =>
    (read st.cursor).map fun (t, p) => ({ st with cursor := p, keyAllowed := false }).push t

def plain (st : LexState) : Step :=
  st.saveKey.map fun st =>
    let (t, broken, p) := Plain.scalar st.inFlow (st.indent + 1) st.cursor
    ({ st with cursor := p, keyAllowed := broken }).push t

def block (st : LexState) : Step :=
  match (st.allow true).dropKey with
  | .error e => .error e
  | .ok st => (Block.scalar st.indent st.cursor).map fun (t, p) => ({ st with cursor := p }).push t

def marker (st : LexState) (t : Token) : Step := st.atMargin.map fun st => (st.advance 3).push t

/-- The token at the cursor, chosen by its first characters. -/
def token (st : LexState) : Step :=
  let p := st.cursor
  let c := p.head
  let apart := isBlankOrEnd (p.peek 1)
  if c = '%' ∧ p.column = 0 then
    match st.atMargin with
    | .error e => .error e
    | .ok st => (Name.directive p).map fun (d, p) => ({ st with cursor := p }).push (.directive d)
  else if p.column = 0 ∧ p.seesMarker Cursor.documentStart then st.marker .documentStart
  else if p.column = 0 ∧ p.seesMarker Cursor.documentEnd then st.marker .documentEnd
  else if c = '[' then st.flowStart .flowSequenceStart
  else if c = '{' then st.flowStart .flowMappingStart
  else if c = ']' then st.flowEnd .flowSequenceEnd
  else if c = '}' then st.flowEnd .flowMappingEnd
  else if c = ',' then st.flowEntry
  else if c = '-' ∧ apart then st.blockEntry
  else if c = '?' ∧ (st.inFlow ∨ apart) then st.keyMark
  else if c = ':' ∧ (st.inFlow ∨ apart) then st.valueMark
  else if c = '*' then st.named fun p => (Name.anchor p).map fun (s, p) => (.alias s, p)
  else if c = '&' then st.named fun p => (Name.anchor p).map fun (s, p) => (.anchor s, p)
  else if c = '!' then st.named fun p => (Name.tag p).map fun (t, p) => (.tag t, p)
  else if (c = '|' ∨ c = '>') ∧ !st.inFlow then st.block
  else if c = '\'' ∨ c = '"' then st.named Quoted.scalar
  else if Plain.starts st.inFlow p then st.plain
  else .error .malformed

end LexState

/-- The tokens up to the end of the text, or those that are certain before the first fault. -/
structure Lexing where
  tokens : List Token
  stop : Option YamlError

/-- A token is certain once nothing that may still turn out to be a key starts with it or in front
of it: a fault behind it then comes too late to matter. -/
def LexState.certain (st : LexState) : Nat :=
  (st.keys.filter fun k => !st.isStale k.2).foldl (fun n k => min n k.2.number) st.tokens.length

/-- A lexing that stops with a fault behind the given state. -/
def Lexing.stopped (st : LexState) (e : YamlError) : Lexing :=
  ⟨st.tokens.reverse.take st.certain, some e⟩

/-- Reads token after token; each takes at least one character. -/
def lexFrom : Nat → LexState → Lexing
  | 0, st => .stopped st .malformed
  | fuel + 1, st =>
    match (LexState.toNextToken st.cursor.fuel st).dropStale with
    | .error e => .stopped st e
    | .ok next =>
      let next := next.unwind next.column
      if next.cursor.rest.isEmpty then
        match next.atMargin with
        | .error e => .stopped st e
        | .ok last => ⟨(Token.streamEnd :: last.tokens).reverse, none⟩
      else match next.token with
        | .error e => .stopped st e
        | .ok next => lexFrom fuel next

/-- The tokens of a YAML text.  A byte order mark in front of it is passed over. -/
def lex (s : Text) : Lexing :=
  let st := LexState.start s
  let p := st.cursor
  let p := if p.head = byteOrderMark then p.next else p
  lexFrom (s.length + 2) { st with cursor := p }

end FieldTemplate.Yaml
