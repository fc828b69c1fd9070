import Switchboard.Value.Basic

/-!
# Equality of values

Whether two values are the same is decided, kind by kind and part by part
(`Value.isIdentical_iff`), so that what a text is loaded as can be computed and compared.
-/

namespace Switchboard
namespace Value

mutual

/-- Whether two values are the same in all their parts. -/
def isIdentical : Value → Value → Bool
  | .none, .none => true
  | .bool a, .bool b => a == b
  | .int m, .int n => m == n
  | .float x, .float y => decide (x = y)
  | .text s, .text t => s == t
  | .calendar s, .calendar t => s == t
  | .list xs, .list ys => areIdentical xs ys
  | .dict xs, .dict ys => haveIdentical xs ys
  | _, _ => false

/-- Whether two lists have the same items. -/
def areIdentical : List Value → List Value → Bool
  | [], [] => true
  | x :: xs, y :: ys => x.isIdentical y && areIdentical xs ys
  | _, _ => false

/-- Whether two mappings have the same entries in the same order. -/
def haveIdentical : List (Value × Value) → List (Value × Value) → Bool
  | [], [] => true
  | (k, v) :: xs, (l, w) :: ys => k.isIdentical l && v.isIdentical w && haveIdentical xs ys
  | _, _ => false

end

mutual

theorem isIdentical_iff (a b : Value) : a.isIdentical b = true ↔ a = b := by
  match a, b with
  | .list xs, .list ys => simp [isIdentical, areIdentical_iff xs ys]
  | .dict xs, .dict ys => simp [isIdentical, haveIdentical_iff xs ys]
  | .none, b | .bool _, b | .int _, b | .float _, b | .text _, b | .calendar _, b =>
    cases b <;> simp [isIdentical]
  | .list _, .none | .list _, .bool _ | .list _, .int _ | .list _, .float _ | .list _, .text _
  | .list _, .calendar _ | .list _, .dict _ => simp [isIdentical]
  | .dict _, .none | .dict _, .bool _ | .dict _, .int _ | .dict _, .float _ | .dict _, .text _
  | .dict _, .calendar _ | .dict _, .list _ => simp [isIdentical]

theorem areIdentical_iff (xs ys : List Value) : areIdentical xs ys = true ↔ xs = ys := by
  match xs, ys with
  | [], [] => simp [areIdentical]
  | [], _ :: _ => simp [areIdentical]
  | _ :: _, [] => simp [areIdentical]
  | x :: xs, y :: ys => simp [areIdentical, isIdentical_iff x y, areIdentical_iff xs ys]

theorem haveIdentical_iff (xs ys : List (Value × Value)) :
    haveIdentical xs ys = true ↔ xs = ys := by
  match xs, ys with
  | [], [] => simp [haveIdentical]
  | [], _ :: _ => simp [haveIdentical]
  | _ :: _, [] => simp [haveIdentical]
  | (k, v) :: xs, (l, w) :: ys =>
    simp [haveIdentical, isIdentical_iff k l, isIdentical_iff v w, haveIdentical_iff xs ys,
      Prod.ext_iff, and_assoc]

end

instance : DecidableEq Value :=
  fun a b => decidable_of_iff (a.isIdentical b = true) (isIdentical_iff a b)

end Value
end Switchboard
