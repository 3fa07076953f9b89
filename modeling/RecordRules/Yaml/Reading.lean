import RecordRules.Yaml.Layout
import RecordRules.Yaml.Tree

/-!
# RecordRules.Yaml.Reading

From tokens to a document. A text holds one document at most.

Anchors are numbered in the order of their nodes. A new name takes the count of names so far for its
number, and so does a name that is used again, which may be the number of another one: the number
then refers to the node that took it last.
-/

namespace RecordRules
namespace Yaml

/-- What is known of anchors: the number that each name has now, the order in which nodes took
numbers, the last one first, and the nodes that are complete, by their place in that order. -/
structure Anchors where
  names : List (String × Nat)
  takers : List (Nat × Nat)
  nodes : List (Nat × Yaml)

namespace Anchors

/-- A node starts that carries a name. -/
def start (a : Anchors) (name : String) : Anchors :=
  let number := a.names.length
  { a with
    names := (name, number) :: a.names.filter (·.1 != name)
    takers := (number, a.takers.length) :: a.takers }

/-- The node that started at a place is complete. -/
def finish (a : Anchors) (place : Nat) (v : Yaml) : Anchors :=
  { a with nodes := (place, v) :: a.nodes }

/-- The node of every number. -/
def table (a : Anchors) : List (Nat × Yaml) :=
  a.takers.filterMap fun t => (a.nodes.lookup t.2).map fun v => (t.1, v)

end Anchors

/-- The tokens still to be read, the known handles of tags, and the anchors so far. -/
structure Input where
  tokens : List Token
  handles : List String
  anchors : Anchors

abbrev Reader := StateT Input Option

namespace Reader

/-! ## Tokens -/

def next? : Reader (Option Token) := do
  return (← get).tokens.head?

def drop : Reader Unit :=
  modify fun i => { i with tokens := i.tokens.drop 1 }

def atOneOf (ts : List Token) : Reader Bool := do
  return (← next?).any ts.contains

def take? (t : Token) : Reader Bool := do
  if ← atOneOf [t] then
    drop
    return true
  else return false

def take (t : Token) : Reader Unit := do
  if !(← take? t) then failure

/-! ## Anchors and tags -/

def anchor? : Reader (Option String) := do
  match ← next? with
  | some (.anchor name) =>
    drop
    return some name
  | _ => return none

/-- Takes a tag where one comes next, and says whether it did. Its handle must be known. -/
def tag? : Reader Bool := do
  match ← next? with
  | some (.tag handle) =>
    drop
    if handle.all (← get).handles.contains then return true else failure
  | _ => return false

/-- What stands before a node: an anchor and a tag, in any order. It tells whether there is any of
them, besides the anchor. -/
def properties : Reader (Option String × Bool) := do
  match ← anchor? with
  | some name =>
    discard tag?
    return (some name, true)
  | none =>
    if ← tag? then return (← anchor?, true) else return (none, false)

/-- Reads a node that carries a name, if it does. -/
def anchored (name : Option String) (node : Reader Yaml) : Reader Yaml := do
  match name with
  | none => node
  | some name =>
    let place := (← get).anchors.takers.length
    modify fun i => { i with anchors := i.anchors.start name }
    let v ← node
    modify fun i => { i with anchors := i.anchors.finish place v }
    return v

/-- A reference to a node by the name of its anchor. The node must have started before. -/
def referenceTo (name : String) : Reader Yaml := do
  match (← get).anchors.names.lookup name with
  | some number => return .reference number
  | none => failure

/-! ## Nodes -/

mutual

/-- A node. Blocks may start in it where `blocks` says so, and a sequence may stand at the column of
its key where `dashes` says so. -/
def node : (bound : Nat) → (blocks dashes : Bool) → Reader Yaml
  | 0, _, _ => failure
  | bound + 1, blocks, dashes => do
    match ← next? with
    | some (.reference name) =>
      drop
      referenceTo name
    | _ =>
      let (name, marked) ← properties
      anchored name (content bound blocks dashes marked)

/-- A node behind its anchor and its tag. With one of them, it may be empty. -/
def content : (bound : Nat) → (blocks dashes marked : Bool) → Reader Yaml
  | 0, _, _, _ => failure
  | bound + 1, blocks, dashes, marked => do
    match ← next? with
    | some (.scalar plain text) =>
      drop
      return .scalar plain text
    | _ =>
      if ← take? .flowSequence then return .sequence (← flowItems bound true)
      else if ← take? .flowMapping then return .mapping (← flowEntries bound true)
      else if dashes && (← atOneOf [.blockEntry]) then return .sequence (← dashItems bound)
      else if blocks && (← atOneOf [.blockSequence]) then
        drop
        return .sequence (← blockItems bound)
      else if blocks && (← atOneOf [.blockMapping]) then
        drop
        return .mapping (← blockEntries bound)
      else if marked then return nothing
      else failure

/-- A node, or nothing where one of some tokens stands in its place. -/
def nodeOrNothing : (bound : Nat) → (blocks dashes : Bool) → (ends : List Token) → Reader Yaml
  | 0, _, _, _ => failure
  | bound + 1, blocks, dashes, ends => do
    if ← atOneOf ends then return nothing else node bound blocks dashes

/-- The items of a sequence with a block of its own. -/
def blockItems : (bound : Nat) → Reader (List Yaml)
  | 0 => failure
  | bound + 1 => do
    if ← take? .blockEntry then
      let item ← nodeOrNothing bound true false [.blockEntry, .blockEnd]
      return item :: (← blockItems bound)
    else
      take .blockEnd
      return []

/-- The items of a sequence in the block of its key. -/
def dashItems : (bound : Nat) → Reader (List Yaml)
  | 0 => failure
  | bound + 1 => do
    if ← take? .blockEntry then
      let item ← nodeOrNothing bound true false [.blockEntry, .key, .value, .blockEnd]
      return item :: (← dashItems bound)
    else return []

def blockEntries : (bound : Nat) → Reader (List (Yaml × Yaml))
  | 0 => failure
  | bound + 1 => do
    if ← take? .key then
      let ends := [Token.key, .value, .blockEnd]
      let k ← nodeOrNothing bound true true ends
      let v ← if ← take? .value then nodeOrNothing bound true true ends else pure nothing
      return (k, v) :: (← blockEntries bound)
    else
      take .blockEnd
      return []

def flowItems : (bound : Nat) → (first : Bool) → Reader (List Yaml)
  | 0, _ => failure
  | bound + 1, first => do
    if ← take? .flowSequenceEnd then return []
    else
      if !first then take .flowEntry
      if ← take? .flowSequenceEnd then return []
      else
        let item ← if ← take? .key then flowPair bound else node bound false false
        return item :: (← flowItems bound false)

/-- A mapping of one entry as an item in brackets. Where its key is missing, the token in the place
of the key is passed over. -/
def flowPair : (bound : Nat) → Reader Yaml
  | 0 => failure
  | bound + 1 => do
    let missing ← atOneOf [.value, .flowEntry, .flowSequenceEnd]
    if missing then drop
    let k ← if missing then pure nothing else node bound false false
    let v ← if ← take? .value then
        nodeOrNothing bound false false [.flowEntry, .flowSequenceEnd]
      else pure nothing
    return .mapping [(k, v)]

def flowEntries : (bound : Nat) → (first : Bool) → Reader (List (Yaml × Yaml))
  | 0, _ => failure
  | bound + 1, first => do
    if ← take? .flowMappingEnd then return []
    else
      if !first then take .flowEntry
      if ← take? .flowMappingEnd then return []
      else
        let entry ← flowEntry bound
        return entry :: (← flowEntries bound false)

/-- An entry of a mapping in brackets. A key that no colon follows has nothing for its value. -/
def flowEntry : (bound : Nat) → Reader (Yaml × Yaml)
  | 0 => failure
  | bound + 1 => do
    if ← take? .key then
      let k ← nodeOrNothing bound false false [.value, .flowEntry, .flowMappingEnd]
      let v ← if ← take? .value then
          nodeOrNothing bound false false [.flowEntry, .flowMappingEnd]
        else pure nothing
      return (k, v)
    else return (← node bound false false, nothing)

end

/-! ## Documents -/

/-- Directives: one version at most, which must be known, and no handle twice. -/
def directives : (bound : Nat) → (versioned : Bool) → Reader Unit
  | 0, _ => failure
  | bound + 1, versioned => do
    match ← next? with
    | some (.version major minor) =>
      if versioned || major ≠ 1 || (minor ≠ 1 && minor ≠ 2) then failure
      drop
      directives bound true
    | some (.handle name) =>
      if (← get).handles.contains name then failure
      drop
      modify fun i => { i with handles := name :: i.handles }
      directives bound versioned
    | _ => return ()

def standardHandles : List String :=
  ["!", "!!"]

/-- Lines that end a document, up to the end of the text. -/
def finished : Reader Bool := do
  return (← get).tokens.all (· == .documentEnd)

/-- A token that no node starts with, behind the line that starts a document. -/
def atNoContent : Reader Bool := do
  match ← next? with
  | none => return true
  | some (.version _ _) => return true
  | some (.handle _) => return true
  | some t => return t == .documentStart || t == .documentEnd

def root (bound : Nat) : Reader Yaml := do
  if ← take? .documentStart then
    if ← atNoContent then return nothing else node bound true false
  else node bound true false

/-- The document, if there is one; its numbers are known when it is complete. -/
def document (bound : Nat) : Reader Document := do
  match ← next? with
  | none => return .empty
  | some _ =>
    let before := (← get).tokens.length
    directives bound false
    if (← get).tokens.length ≠ before && !(← atOneOf [.documentStart]) then failure
    modify fun i => { i with handles := i.handles ++ standardHandles }
    let v ← root bound
    if !(← finished) then failure
    return ⟨v, (← get).anchors.table⟩

end Reader

/-- The document in a text, or nothing where it is not well formed. -/
def read? (cs : List Char) : Option Document :=
  match tokens? cs with
  | none => none
  | some ts =>
    ((Reader.document (4 * ts.length + 4)).run ⟨ts, [], ⟨[], [], []⟩⟩).map Prod.fst

end Yaml
end RecordRules
