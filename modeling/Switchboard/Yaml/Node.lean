import Switchboard.Yaml.Form

/-!
# Nodes of YAML documents

The tokens of a text make up one document or none. A document is a node: a scalar, a sequence of
nodes, or a mapping of nodes to nodes. An anchor names a node, and an alias stands for the node of
that name.
-/

namespace Switchboard
namespace Yaml

open Text

/-- A node. Its kind is what its tag says, or its form if it has none. A node inside of which its
own anchor is named contains itself there. -/
inductive Node
  | scalar (kind : Kind) (text : List Char)
  | sequence (kind : Kind) (items : List Node)
  | mapping (kind : Kind) (entries : List (Node × Node))
  | itself
  deriving Repr

namespace Node

def empty : Node := .scalar .nothing []

end Node

/-! ## Reading tokens -/

/-- The tokens left, the leads of tags by handle, and the nodes by anchor. An anchor has no node
while its node is read. -/
structure Reader where
  tokens : List Token
  handles : List (List Char × List Char)
  anchors : List (List Char × Option Node)

/-- Reading nodes: it may fail, and it moves on in the tokens. -/
abbrev Reading := StateT Reader (Except Flaw)

namespace Reading

def fail {α : Type} : Reading α :=
  throw .malformed

def peek? : Reading (Option Token) :=
  return (← get).tokens.head?

def isAt (choices : List Token) : Reading Bool := do
  match ← peek? with
  | some token => return choices.contains token
  | none => return false

def advance : Reading Unit :=
  modify fun r => { r with tokens := r.tokens.tail }

/-- Moves over the next token, if it is the given one. -/
def takes (token : Token) : Reading Bool := do
  if ← isAt [token] then
    advance
    return true
  else return false

/-- Moves over the given token, which must come next. -/
def expect (token : Token) : Reading Unit := do
  if !(← takes token) then fail

/-! ### Directives -/

/-- The handles that are known in every document. -/
def standardHandles : List (List Char × List Char) :=
  [(['!'], ['!']), (['!', '!'], coreLead)]

def directives (versionSeen : Bool) : Nat → Reading Unit
  | 0 => fail
  | fuel + 1 => do
    match ← peek? with
    | some (.version major) =>
      if versionSeen || major != 1 then fail
      advance
      directives true fuel
    | some (.tagHandle handle lead) =>
      let r ← get
      if r.handles.any (·.1 == handle) then fail
      set { r with handles := r.handles ++ [(handle, lead)] }
      advance
      directives versionSeen fuel
    | some .otherDirective =>
      advance
      directives versionSeen fuel
    | _ => modify fun r => { r with handles := r.handles ++ standardHandles }

/-! ### Properties of nodes -/

def takeAnchor : Reading (Option (List Char)) := do
  match ← peek? with
  | some (.anchor name) =>
    advance
    return some name
  | _ => return none

/-- The tag at the cursor in full, if there is one. -/
def takeTag : Reading (Option (List Char)) := do
  match ← peek? with
  | some (.tag none suffix) =>
    advance
    return some suffix
  | some (.tag (some handle) suffix) =>
    advance
    match (← get).handles.find? (·.1 == handle) with
    | some (_, lead) => return some (lead ++ suffix)
    | none => fail
  | _ => return none

/-- The anchor and the tag before a node, in either order. -/
def properties : Reading (Option (List Char) × Option (List Char)) := do
  match ← takeAnchor with
  | some anchor => return (some anchor, ← takeTag)
  | none =>
    let tag ← takeTag
    return (← if tag.isSome then takeAnchor else pure none, tag)

/-- The kind of a node that its tag names; a tag that is only a mark leaves it open. -/
def taggedKind? (tag : Option (List Char)) : Option Kind :=
  match tag with
  | none => none
  | some tag => if tag == ['!'] then none else some (Kind.ofTag tag)

def aliasNode (name : List Char) : Reading Node := do
  match (← get).anchors.find? (·.1 == name) with
  | some (_, some node) => return node
  | some (_, none) => return .itself
  | none => fail

/-- Notes that the node of an anchor begins. -/
def openAnchor (anchor : Option (List Char)) : Reading Unit := do
  match anchor with
  | none => pure ()
  | some name =>
    let r ← get
    if r.anchors.any (·.1 == name) then fail
    set { r with anchors := (name, none) :: r.anchors }

/-- Notes the node of an anchor. -/
def closeAnchor (anchor : Option (List Char)) (node : Node) : Reading Unit :=
  match anchor with
  | none => pure ()
  | some name => modify fun r => { r with anchors := (name, some node) :: r.anchors }

/-! ### Nodes -/

/-- Where a node stands: inside of brackets or outside, where the value of a key may be a sequence
without indentation. -/
inductive Place
  | flow
  | block
  | value
  deriving DecidableEq, Repr

mutual

def node (place : Place) : Nat → Reading Node
  | 0 => fail
  | fuel + 1 => do
    match ← peek? with
    | some (.alias name) =>
      advance
      aliasNode name
    | _ =>
      let (anchor, tag) ← properties
      openAnchor anchor
      let result ← content place (anchor.isSome || tag.isSome) tag fuel
      closeAnchor anchor result
      return result

/-- What a node holds. It may be empty if properties stand before it. -/
def content (place : Place) (mayBeEmpty : Bool) (tag : Option (List Char)) : Nat → Reading Node
  | 0 => fail
  | fuel + 1 => do
    let kind? := taggedKind? tag
    let sequenceKind := kind?.getD .sequence
    let mappingKind := kind?.getD .mapping
    match ← peek?, place with
    | some .blockEntry, .value => return .sequence sequenceKind (← plainEntries fuel)
    | some (.scalar text isPlain), _ =>
      advance
      let form := if isPlain || tag.isSome then Kind.ofPlain text else .text
      return .scalar (kind?.getD form) text
    | some .flowSequenceStart, _ =>
      advance
      return .sequence sequenceKind (← flowItems true fuel)
    | some .flowMappingStart, _ =>
      advance
      return .mapping mappingKind (← flowEntries true fuel)
    | some .blockSequenceStart, .block | some .blockSequenceStart, .value =>
      advance
      return .sequence sequenceKind (← blockItems fuel)
    | some .blockMappingStart, .block | some .blockMappingStart, .value =>
      advance
      return .mapping mappingKind (← blockEntries fuel)
    | _, _ => if mayBeEmpty then return .scalar (kind?.getD .nothing) [] else fail

/-- A node, or the empty one if one of the given tokens comes next. -/
def nodeUnless (stops : List Token) (place : Place) : Nat → Reading Node
  | 0 => fail
  | fuel + 1 => do
    if ← isAt stops then return .empty else node place fuel

def blockItems : Nat → Reading (List Node)
  | 0 => fail
  | fuel + 1 => do
    if ← takes .blockEntry then
      let item ← nodeUnless [.blockEntry, .blockEnd] .block fuel
      return item :: (← blockItems fuel)
    else
      expect .blockEnd
      return []

/-- The items of a sequence that is not indented further than the mapping around it. -/
def plainEntries : Nat → Reading (List Node)
  | 0 => fail
  | fuel + 1 => do
    if ← takes .blockEntry then
      let item ← nodeUnless [.blockEntry, .key, .value, .blockEnd] .block fuel
      return item :: (← plainEntries fuel)
    else return []

def blockEntries : Nat → Reading (List (Node × Node))
  | 0 => fail
  | fuel + 1 => do
    if ← takes .key then
      let key ← nodeUnless [.key, .value, .blockEnd] .value fuel
      let value ←
        if ← takes .value then nodeUnless [.key, .value, .blockEnd] .value fuel else pure .empty
      return (key, value) :: (← blockEntries fuel)
    else
      expect .blockEnd
      return []

/-- A key and its value inside of brackets, which `stop` closes. -/
def flowPair (stop : Token) : Nat → Reading (Node × Node)
  | 0 => fail
  | fuel + 1 => do
    let key ← nodeUnless [.value, .flowEntry, stop] .flow fuel
    let value ←
      if ← takes .value then nodeUnless [.flowEntry, stop] .flow fuel else pure .empty
    return (key, value)

/-- The items of a sequence in brackets; commas stand between them. A key with its value is a
mapping of its own. -/
def flowItems (first : Bool) : Nat → Reading (List Node)
  | 0 => fail
  | fuel + 1 => do
    if ← takes .flowSequenceEnd then return []
    if !first then expect .flowEntry
    if ← takes .key then
      let entry ← flowPair .flowSequenceEnd fuel
      return .mapping .mapping [entry] :: (← flowItems false fuel)
    else if ← takes .flowSequenceEnd then return []
    else
      let item ← node .flow fuel
      return item :: (← flowItems false fuel)

/-- The entries of a mapping in brackets; commas stand between them. A node that is marked as no
key has an empty value. -/
def flowEntries (first : Bool) : Nat → Reading (List (Node × Node))
  | 0 => fail
  | fuel + 1 => do
    if ← takes .flowMappingEnd then return []
    if !first then expect .flowEntry
    if ← takes .key then
      let entry ← flowPair .flowMappingEnd fuel
      return entry :: (← flowEntries false fuel)
    else if ← takes .flowMappingEnd then return []
    else
      let key ← node .flow fuel
      return (key, .empty) :: (← flowEntries false fuel)

end

/-! ### Documents -/

/-- The tokens that no document starts with unless its start is marked. -/
def startsMarked : Option Token → Bool
  | some (.version _) => true
  | some (.tagHandle _ _) => true
  | some .otherDirective => true
  | some .documentStart => true
  | _ => false

def documentEnds : Nat → Reading Unit
  | 0 => pure ()
  | fuel + 1 => do
    if ← takes .documentEnd then documentEnds fuel

def markedDocument (fuel : Nat) : Reading Node := do
  modify fun r => { r with handles := [] }
  directives false fuel
  expect .documentStart
  let next ← peek?
  if next.isNone || next == some .documentEnd || startsMarked next then return .empty
  else node .block fuel

/-- The node of the only document, or nothing if there is none. -/
def stream (fuel : Nat) : Reading (Option Node) := do
  match ← peek? with
  | none => return none
  | first =>
    let result ← if startsMarked first then markedDocument fuel else node .block fuel
    documentEnds fuel
    if (← peek?).isSome then fail
    return some result

end Reading

/-- The node that a text stands for, or nothing if the text is blank. -/
def nodeOf (text : List Char) : Except Flaw (Option Node) := do
  let tokens ← tokensOf text
  let start : Reader := ⟨tokens, Reading.standardHandles, []⟩
  return (← (Reading.stream (4 * tokens.length + 8)).run start).1

end Yaml
end Switchboard
