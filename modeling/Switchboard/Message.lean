import Switchboard.Calendar.Moment
import Switchboard.Entries
import Switchboard.Fault

/-!
# Messages

A message is a name with fields, and what the handlers found out about it. A message can be
written as a mapping (`toRecord`) and read back (`ofRecord`).
-/

namespace Switchboard

open Calendar

/-- The unit of work: what handlers subscribe to by name, read and write in fields, and answer.
`returned` is set inside of a context alone, when the rest of its rules is to be skipped. -/
structure Message where
  name : String
  fields : Fields
  handled : Bool
  result : Value
  error : Option String
  returned : Bool
  timestamp : Moment
  deriving Repr, Inhabited

namespace Message

/-- A message that no handler has seen. -/
def fresh (name : String) (fields : Fields) (timestamp : Moment) : Message :=
  ⟨name, fields, false, .none, none, false, timestamp⟩

/-- The value of a field; a missing field is the empty text. -/
def get (m : Message) (key : String) : Value :=
  (m.fields.get? key).getD (.text "")

def set (m : Message) (key : String) (value : Value) : Message :=
  { m with fields := m.fields.set key value }

/-- Whether the rest of the rules of a context is to be skipped. -/
def isSettled (m : Message) : Bool :=
  m.handled || m.returned

/-- One line that shows the message. -/
def summary (m : Message) : String :=
  "[" ++ m.name ++ "] " ++ (if m.handled then "handled" else "unhandled") ++
    " result=" ++ m.result.literalString ++ " fields=" ++ m.fields.toValue.literalString

def errorValue (m : Message) : Value :=
  match m.error with
  | none => .none
  | some text => .text text

/-! ## Records -/

def toRecord (m : Message) : List (Value × Value) :=
  [(.text "name", .text m.name), (.text "fields", m.fields.toValue),
    (.text "handled", .bool m.handled), (.text "result", m.result),
    (.text "error", m.errorValue),
    (.text "timestamp", .text (String.ofList m.timestamp.isoText))]

/-- The name and value of an entry that a list or text of two stands for. -/
def entryOf : Value → Except Fault (String × Value)
  | .list [key, value] =>
    if key.isKey then .ok (key.plainString, value) else .error (.misfit (.notText "a list or mapping is no key"))
  | .list _ => .error (.badValue "an entry has two items")
  | .text s =>
    match s.toList with
    | [key, value] => .ok (String.singleton key, .text (String.singleton value))
    | _ => .error (.badValue "an entry has two items")
  | value => .error (.misfit (.notIterable value.kindName))

/-- The fields that a value stands for: a mapping, or a list of entries. -/
def fieldsOf : Value → Except Fault Fields
  | .dict entries => .ok (Entries.ofPairs (entries.map fun (k, v) => (k.plainString, v)))
  | .list items => (items.mapM entryOf).map Entries.ofPairs
  | .text s =>
    (s.toList.mapM fun c => entryOf (.text (String.singleton c))).map Entries.ofPairs
  | value => .error (.misfit (.notIterable value.kindName))

/-- The moment of a record, or `now` if it has none. -/
def timestampOf (now : Moment) : Option Value → Except Fault Moment
  | none => .ok now
  | some (.text s) =>
    match Moment.ofIsoText? s.toList with
    | some m => .ok m
    | none => .error (.badValue ("Invalid isoformat string: " ++ Text.quotedString s))
  | some _ => .error (.misfit (.notText "a timestamp must be a text"))

/-- The message that a record stands for. It needs a name; all else has a default. -/
def ofRecord (now : Moment) (record : List (Value × Value)) : Except Fault Message := do
  let name ← match Value.lookupText? "name" record with
    | some value => pure value.plainString
    | none => throw (.missingKey "name")
  let fields ← fieldsOf ((Value.lookupText? "fields" record).getD (.dict []))
  let handled := ((Value.lookupText? "handled" record).getD (.bool false)).isTruthy
  let result := (Value.lookupText? "result" record).getD .none
  let error := match Value.lookupText? "error" record with
    | none => none
    | some .none => none
    | some value => some value.plainString
  let timestamp ← timestampOf now (Value.lookupText? "timestamp" record)
  return ⟨name, fields, handled, result, error, false, timestamp⟩

/-- The message that comes back from its own record. -/
def copy (now : Moment) (m : Message) : Except Fault Message :=
  ofRecord now m.toRecord

end Message
end Switchboard
