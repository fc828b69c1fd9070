import Switchboard.Value.Text

/-!
# Values as JSON

The JSON text of a value, in ASCII: every other character is escaped. Keys are written as texts,
and numbers that JSON has no text for as words.
-/

namespace Switchboard
namespace Json

open Text

/-- The escape of a code unit of sixteen bits. -/
def unitEscape (unit : Nat) : List Char :=
  '\\' :: 'u' :: hexText hexDigitSmall 4 unit

/-- A character inside of a JSON text. -/
def charText (c : Char) : List Char :=
  let n := c.toNat
  match n with
  | 0x22 => ['\\', '"']
  | 0x5c => ['\\', '\\']
  | 0x08 => ['\\', 'b']
  | 0x09 => ['\\', 't']
  | 0x0a => ['\\', 'n']
  | 0x0c => ['\\', 'f']
  | 0x0d => ['\\', 'r']
  | _ =>
    if 0x20 ≤ n ∧ n ≤ 0x7e then [c]
    else if n < 0x10000 then unitEscape n
    else
      let rest := n - 0x10000
      unitEscape (0xd800 + rest / 0x400) ++ unitEscape (0xdc00 + rest % 0x400)

/-- A text in double quotes. -/
def quotedText (s : List Char) : List Char :=
  '"' :: s.flatMap charText ++ ['"']

def quotedString (s : String) : List Char :=
  quotedText s.toList

def floatText : Binary64 → List Char
  | .nan => "NaN".toList
  | .infinite negative => (if negative then "-Infinity" else "Infinity").toList
  | x => x.text

/-- A scalar without quotes, nothing for lists and mappings. -/
def bareText : Value → List Char
  | .none => "null".toList
  | .bool b => (if b then "true" else "false").toList
  | .int n => intText n
  | .float x => floatText x
  | .text s => s.toList
  | .calendar s => s.toList
  | _ => []

mutual

def ofValue : Value → List Char
  | .text s => quotedString s
  | .calendar s => quotedString s
  | .list items => '[' :: ofItems items ++ [']']
  | .dict entries => '\x7b' :: ofEntries entries ++ ['\x7d']
  | value => bareText value

def ofItems : List Value → List Char
  | [] => []
  | [item] => ofValue item
  | item :: items => ofValue item ++ ',' :: ' ' :: ofItems items

def ofEntries : List (Value × Value) → List Char
  | [] => []
  | [(key, value)] => quotedText (bareText key) ++ ':' :: ' ' :: ofValue value
  | (key, value) :: entries =>
    quotedText (bareText key) ++ ':' :: ' ' :: ofValue value ++ ',' :: ' ' :: ofEntries entries

end

end Json
end Switchboard
