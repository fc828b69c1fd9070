/-!
# Code point ranges

Properties of characters are stored as ascending, disjoint ranges of code points. `covers` asks
whether a code point lies in one of them, by bisection.
-/

namespace Switchboard
namespace Text

/-- How many of the entries `lo, …, hi - 1` start at or before `code`, counted from `0`, for
starts that ascend. -/
def countStarted (start : Nat → Nat) (code lo hi : Nat) : Nat :=
  if h : lo < hi then
    let mid := (lo + hi) / 2
    if start mid ≤ code then countStarted start code (mid + 1) hi
    else countStarted start code lo mid
  else lo
termination_by hi - lo
decreasing_by all_goals omega

/-- Whether one of the ranges, which ascend and are disjoint, holds `code`. -/
def covers (ranges : Array (Nat × Nat)) (code : Nat) : Bool :=
  match countStarted (fun i => (ranges[i]?.getD (0, 0)).1) code 0 ranges.size with
  | 0 => false
  | n + 1 => decide (code ≤ (ranges[n]?.getD (0, 0)).2)

end Text
end Switchboard
