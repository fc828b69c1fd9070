import Switchboard.Number.Binary64

/-!
# Values

Fields, results and settings hold untyped values. A mapping keeps its entries in order; its keys
are values too, since a settings file may use numbers and truth values as keys.
-/

namespace Switchboard

/-- An untyped value. A calendar day or moment comes from settings files alone and is kept as
its text. -/
inductive Value
  | none
  | bool (b : Bool)
  | int (n : Int)
  | float (x : Binary64)
  | text (s : String)
  | calendar (iso : String)
  | list (items : List Value)
  | dict (entries : List (Value × Value))
  deriving Repr, Inhabited

namespace Value

def kindName : Value → String
  | .none => "NoneType"
  | .bool _ => "bool"
  | .int _ => "int"
  | .float _ => "float"
  | .text _ => "str"
  | .calendar _ => "date"
  | .list _ => "list"
  | .dict _ => "dict"

/-- Whether the value counts as true: all but none, false, zero and what is empty. -/
def isTruthy : Value → Bool
  | .none => false
  | .bool b => b
  | .int n => n != 0
  | .float x => !x.isZero
  | .text s => !s.isEmpty
  | .calendar _ => true
  | .list items => !items.isEmpty
  | .dict entries => !entries.isEmpty

def isNone : Value → Bool
  | .none => true
  | _ => false

def isText (s : String) : Value → Bool
  | .text t => t == s
  | _ => false

/-- The whole number that a number or truth value equals, if it equals one. -/
def asInteger? : Value → Option Int
  | .bool b => some (if b then 1 else 0)
  | .int n => some n
  | .float x =>
    match x.truncate? with
    | some n => if x.eqInt n then some n else Option.none
    | Option.none => Option.none
  | _ => Option.none

/-- Whether two keys of a mapping are the same key. Numbers and truth values are the same key
when they are equal as numbers; lists and mappings are no keys. -/
def sameKey (a b : Value) : Bool :=
  match a, b with
  | .none, .none => true
  | .text s, .text t => s == t
  | .calendar s, .calendar t => s == t
  | .float x, .float y => x.eqValue y
  | a, b =>
    match a.asInteger?, b.asInteger? with
    | some m, some n => m == n
    | _, _ => false

def isKey : Value → Bool
  | .list _ => false
  | .dict _ => false
  | _ => true

/-- Sets a key: an existing entry keeps its place, a new one goes to the end. -/
def setEntry (key value : Value) : List (Value × Value) → List (Value × Value)
  | [] => [(key, value)]
  | (k, v) :: rest => if k.sameKey key then (k, value) :: rest else (k, v) :: setEntry key value rest

def lookupText? (key : String) : List (Value × Value) → Option Value
  | [] => Option.none
  | (k, v) :: rest => if k.isText key then some v else lookupText? key rest

end Value
end Switchboard
