import Switchboard.Yaml.Node

/-!
# Values of YAML documents

The value of a node is built from the values of its parts. A mapping may take the entries of other
mappings in; its own entries count more than those. Lists and mappings are no keys.
-/

namespace Switchboard
namespace Yaml

abbrev ValueEntries := List (Value × Value)

/-- The entries of a mapping: those taken in from others, and its own. -/
structure Parts where
  taken : ValueEntries
  own : ValueEntries

namespace Parts

def empty : Parts := ⟨[], []⟩

/-- All entries, those taken in first. -/
def all (p : Parts) : ValueEntries :=
  p.taken ++ p.own

/-- The mapping with the entries: of several with one key the last counts, at the place of the
first. -/
def toMapping (p : Parts) : ValueEntries :=
  p.all.foldl (fun entries (key, value) => Value.setEntry key value entries) []

end Parts

namespace Node

def kind : Node → Kind
  | .scalar kind _ => kind
  | .sequence kind _ => kind
  | .mapping kind _ => kind
  | .itself => .other

/-- The text of a key that stands for itself although it has a form of its own. -/
def standInText? : Node → Option (List Char)
  | .scalar .standIn text => some text
  | _ => none

/-- Whether entries of other mappings are taken in at the key. -/
def isMerge (node : Node) : Bool :=
  node.kind == .merge

mutual

/-- The text of a node that is read as a scalar: its own, or that of what stands in for a mapping. -/
def scalarText? : Node → Option (List Char)
  | .scalar _ text => some text
  | .mapping _ entries => standInOf? entries
  | _ => none

/-- The text of what stands in for a mapping with the entries. -/
def standInOf? : List (Node × Node) → Option (List Char)
  | [] => none
  | (key, node) :: entries => if key.kind == .standIn then node.scalarText? else standInOf? entries

end

mutual

/-- The value of a node. Of a set, of pairs and of a node that contains itself it is only told that
they can be read, and that they are no keys. -/
def toValue : Node → Except Flaw Value
  | .scalar kind text => kind.read text
  | .sequence kind items =>
    match kind with
    | .sequence => do return .list (← itemValues items)
    | .pairs => do
      readPairs items
      return .list []
    | _ => throw .malformed
  | .mapping kind entries =>
    match kind with
    | .mapping => do return .dict (← entryValues entries).toMapping
    | .set => do
      let _ ← entryValues entries
      return .list []
    | kind =>
      match standInOf? entries with
      | some text => if kind == .moment then throw .notAMoment else kind.read text
      | none => throw .malformed
  | .itself => .ok (.list [])

def itemValues : List Node → Except Flaw (List Value)
  | [] => .ok []
  | item :: items => do
    let value ← item.toValue
    return value :: (← itemValues items)

/-- Reads mappings of one entry each. -/
def readPairs : List Node → Except Flaw Unit
  | [] => .ok ()
  | .mapping _ [(key, node)] :: items => do
    let _ ← key.toValue
    let _ ← node.toValue
    readPairs items
  | _ :: _ => .error .malformed

/-- The entries of the mappings that a node gives to another mapping: its own if it is one, or
those of the mappings in it, the last first. -/
def givenEntries : Node → Except Flaw ValueEntries
  | .mapping _ entries => do return (← entryValues entries).all
  | .sequence _ items => givenByItems items
  | .scalar _ _ => .error .malformed
  | .itself => .ok []

/-- The entries that the mappings in a sequence give to another mapping, the last first. -/
def givenByItems : List Node → Except Flaw ValueEntries
  | [] => .ok []
  | .mapping _ entries :: items => do
    let parts ← entryValues entries
    return (← givenByItems items) ++ parts.all
  | .itself :: items => givenByItems items
  | _ :: _ => .error .malformed

def entryValues : List (Node × Node) → Except Flaw Parts
  | [] => .ok .empty
  | (key, node) :: entries => do
    if key.isMerge then
      let given ← node.givenEntries
      let parts ← entryValues entries
      return { parts with taken := given ++ parts.taken }
    else
      let keyValue ← match key.standInText? with
        | some text => .ok (.text (String.ofList text))
        | none => key.toValue
      if !keyValue.isKey then throw .malformed
      let value ← node.toValue
      let parts ← entryValues entries
      return { parts with own := (keyValue, value) :: parts.own }

end

mutual

def isPlain : Node → Bool
  | .scalar kind _ => kind != .bytes
  | .sequence kind items => kind != .pairs && areItemsPlain items
  | .mapping kind entries =>
    kind != .set && kind != .bytes && (kind != .mapping || areEntriesPlain entries)
  | .itself => false

def areItemsPlain : List Node → Bool
  | [] => true
  | item :: items => item.isPlain && areItemsPlain items

def areEntriesPlain : List (Node × Node) → Bool
  | [] => true
  | (key, node) :: entries => key.isPlain && node.isPlain && areEntriesPlain entries

end

end Node

/-- The value that a text stands for; a blank text stands for none. -/
def load (text : List Char) : Except Flaw Value := do
  match ← nodeOf text with
  | none => return .none
  | some node =>
    let value ← node.toValue
    if node.isPlain then return value else throw .notPlain

end Yaml
end Switchboard
