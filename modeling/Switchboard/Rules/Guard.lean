import Switchboard.Fault

/-!
# Guards

A guard is a setting that bounds evaluation: how many commands a chain may have, or how deep
contexts may be nested. Settings are untyped, so a guard may be a value that no number can be
compared with.
-/

namespace Switchboard

/-- A bound, with the value that it was set to; or the kind of a value that bounds nothing. -/
inductive Guard
  | upTo (count : Nat) (label : Value)
  | unordered (kind : String)
  deriving Repr, Inhabited

namespace Guard

/-- A count that no run gets to. -/
def endless : Nat :=
  Nat.pow 10 30

/-- The greatest integer not above a number, or the least one not below it. -/
def rounded (up : Bool) (x : Binary64) : Int :=
  match x.truncate? with
  | none => if x.ltInt 0 then 0 else endless
  | some n =>
    if x.eqInt n then n
    else if up then (if x.ltInt 0 then n else n + 1)
    else (if x.ltInt 0 then n - 1 else n)

/-- The guard of a value; a fraction is rounded. -/
def ofValue (up : Bool) (value : Value) : Guard :=
  match value with
  | .bool b => .upTo (if b then 1 else 0) value
  | .int n => .upTo n.toNat value
  | .float x => .upTo (rounded up x).toNat value
  | value => .unordered value.kindName

/-- The guard of a chain: as many commands as the value allows without going beyond it. -/
def ofChainLimit (value : Value) : Guard :=
  ofValue false value

/-- The guard of nesting: as many levels as lie below the value. -/
def ofDepthLimit (value : Value) : Guard :=
  ofValue true value

def count : Guard → Nat
  | .upTo n _ => n
  | .unordered _ => 0

/-- How many levels are left at a depth. -/
def levelsAt (depth : Int) : Guard → Nat
  | .upTo n _ => ((n : Int) - depth).toNat
  | .unordered _ => 0

def fault (relation summary : String) (details : List (String × String)) : Guard → Fault
  | .upTo _ label => Fault.report (.chainLimit label) summary details
  | .unordered kind => .misfit (.notOrdered relation kind)

end Guard

structure Limits where
  chain : Guard
  nesting : Guard
  deriving Repr, Inhabited

namespace Limits

def chainFault (limits : Limits) (message : String) : Fault :=
  limits.chain.fault ">" "Too many chained commands" [("message", message)]

def nestingFault (limits : Limits) (message context : String) : Fault :=
  limits.nesting.fault ">=" "Context calls nested too deeply"
    [("message", message), ("context", context)]

end Limits
end Switchboard
