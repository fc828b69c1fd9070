import Switchboard.Value.Basic

/-!
# Equality of values

Numbers and truth values are equal when they are equal as numbers, lists when their items are,
and mappings when they have the same keys with equal values in whatever order.
-/

namespace Switchboard
namespace Value

mutual

def equals : Value → Value → Bool
  | .list xs, .list ys => itemsEqual xs ys
  | .dict xs, .dict ys => xs.length == ys.length && entriesWithin xs ys
  | x, y => x.sameKey y

def itemsEqual : List Value → List Value → Bool
  | [], [] => true
  | x :: xs, y :: ys => x.equals y && itemsEqual xs ys
  | _, _ => false

/-- Whether every entry is in a mapping with an equal value. -/
def entriesWithin : List (Value × Value) → List (Value × Value) → Bool
  | [], _ => true
  | (key, value) :: rest, ys =>
    (match ys.find? (fun entry => entry.1.sameKey key) with
      | some entry => value.equals entry.2
      | Option.none => false) && entriesWithin rest ys

end

end Value
end Switchboard
