import Switchboard.Fault

/-!
# Integers from values

The integer that an untyped value stands for: a number is cut off towards zero, and text is read
as a numeral.
-/

namespace Switchboard
namespace Value

/-- The integer that a value stands for, or why there is none. -/
def toInteger : Value → Except Fault Int
  | .bool b => .ok (if b then 1 else 0)
  | .int n => .ok n
  | .float x =>
    match x, x.truncate? with
    | _, some n => .ok n
    | .nan, Option.none => .error .undefinedNumber
    | _, Option.none => .error .infiniteNumber
  | .text s => (Numeral.readInteger s.toList).mapError (Fault.ofIntegerFlaw s.toList)
  | value => .error (.misfit (.notInteger value.kindName))

end Value
end Switchboard
