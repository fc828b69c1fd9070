import Switchboard.Number.Numeral
import Switchboard.Number.Shortest
import Switchboard.Text.Quoted
import Switchboard.Value.Basic

/-!
# Values as text

Three texts of a value: the literal that shows its kind (`literal`), the plain text that differs
for a text alone (`plain`), and the command text of a field (`commandText`). `ofCommandText`
reads a value from command text.
-/

namespace Switchboard
namespace Value

open Text

/-! ## Literals -/

mutual

/-- The literal of a value: text in quotes, lists in brackets, mappings in braces. -/
def literal : Value → List Char
  | .none => ['N', 'o', 'n', 'e']
  | .bool true => ['T', 'r', 'u', 'e']
  | .bool false => ['F', 'a', 'l', 's', 'e']
  | .int n => intText n
  | .float x => x.text
  | .text s => quoted s.toList
  | .calendar iso => iso.toList
  | .list items => '[' :: itemsLiteral items ++ [']']
  | .dict entries => '\x7b' :: entriesLiteral entries ++ ['\x7d']

def itemsLiteral : List Value → List Char
  | [] => []
  | [item] => item.literal
  | item :: items => item.literal ++ ',' :: ' ' :: itemsLiteral items

def entriesLiteral : List (Value × Value) → List Char
  | [] => []
  | [(key, value)] => key.literal ++ ':' :: ' ' :: value.literal
  | (key, value) :: entries =>
    key.literal ++ ':' :: ' ' :: value.literal ++ ',' :: ' ' :: entriesLiteral entries

end

/-- The plain text of a value: a text stands for itself, all else is written as its literal. -/
def plain : Value → List Char
  | .text s => s.toList
  | value => value.literal

def literalString (value : Value) : String :=
  String.ofList value.literal

def plainString (value : Value) : String :=
  String.ofList value.plain

mutual

/-- Whether every integer in the value is short enough to be written. -/
def isWritable : Value → Bool
  | .int n => (natText n.natAbs).length ≤ Numeral.digitLimit
  | .list items => itemsWritable items
  | .dict entries => entriesWritable entries
  | _ => true

def itemsWritable : List Value → Bool
  | [] => true
  | item :: items => item.isWritable && itemsWritable items

def entriesWritable : List (Value × Value) → Bool
  | [] => true
  | (key, value) :: entries => key.isWritable && value.isWritable && entriesWritable entries

end

/-! ## Command text -/

/-- The command text of a field value: nothing for none, small letters for truth values. -/
def commandText : Value → List Char
  | .none => []
  | .bool true => ['t', 'r', 'u', 'e']
  | .bool false => ['f', 'a', 'l', 's', 'e']
  | value => value.plain

def allDigits (s : List Char) : Bool :=
  s.all Char.isDigit

/-- The shape of a number in command text: ASCII digits with at most one point, and a digit
behind the point. -/
inductive NumberShape
  | whole
  | decimal
  deriving DecidableEq, Repr

/-- The text without a line feed at its end. -/
def dropFinalLineFeed (s : List Char) : List Char :=
  if s.getLast? = some '\n' then s.dropLast else s

/-- The number shape of command text; one line feed at the end does not count. -/
def numberShape? (s : List Char) : Option NumberShape :=
  let body := dropFinalLineFeed s
  match cut? '.' body with
  | Option.none => if !body.isEmpty && allDigits body then some .whole else Option.none
  | some (whole, fraction) =>
    if allDigits whole && !fraction.isEmpty && allDigits fraction then some .decimal
    else Option.none

/-- The value of command text: a number or truth value if it looks like one, else the text. A
whole number of too many digits is refused. -/
def ofCommandText (s : String) : Except Numeral.IntegerFlaw Value :=
  match numberShape? s.toList with
  | some .whole => (Numeral.readInteger s.toList).map .int
  | some .decimal =>
    match Numeral.readBinary? s.toList with
    | some x => .ok (.float x)
    | Option.none => .ok (.text s)
  | Option.none =>
    if s = "true" then .ok (.bool true)
    else if s = "false" then .ok (.bool false)
    else .ok (.text s)

/-- Reads command text and leaves every other value as it is. -/
def fromCommand : Value → Except Numeral.IntegerFlaw Value
  | .text s => ofCommandText s
  | value => .ok value

end Value
end Switchboard
