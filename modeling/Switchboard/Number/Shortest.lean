import Switchboard.Number.Binary64
import Switchboard.Text.Split

/-!
# Shortest decimals

The decimal with the fewest digits that reads back as a given number, the nearest of them, and
its layout as text. For one, two, … seventeen digits the two neighbours of the value on that
decimal grid are tried; a grid that meets the numbers that round to the value has one of them
among its hits.
-/

namespace Switchboard
namespace Binary64

open Text

structure Decimal where
  digits : Nat
  exponent : Int
  deriving DecidableEq, Repr

namespace Decimal

def toBinary (negative : Bool) (d : Decimal) : Binary64 :=
  ofDecimal negative d.digits d.exponent

/-- The decimal without zeros at the end of its digits. -/
def trimFrom : Nat → Decimal → Decimal
  | 0, d => d
  | fuel + 1, d =>
    if d.digits ≠ 0 ∧ d.digits % 10 = 0 then trimFrom fuel ⟨d.digits / 10, d.exponent + 1⟩ else d

def trim (d : Decimal) : Decimal :=
  trimFrom (natText d.digits).length d

end Decimal

/-- Whether `10 ^ k ≤ num / den`. -/
def reachesPower (num den : Nat) : Int → Bool
  | .ofNat k => decide (den * Nat.pow 10 k ≤ num)
  | .negSucc k => decide (den ≤ num * Nat.pow 10 (k + 1))

/-- The greatest power of ten at or below `num / den`, from a guess that is not above it and at
most `fuel` below it. -/
def climb (num den : Nat) : Nat → Int → Int
  | 0, k => k
  | fuel + 1, k => if reachesPower num den (k + 1) then climb num den fuel (k + 1) else k

/-- The exponent of the greatest power of ten at or below `num / den`. -/
def magnitude (num den : Nat) : Int :=
  let bits : Int := (num.log2 : Int) - (den.log2 : Int) - 1
  climb num den 8 (Int.fdiv (bits * 30103) 100000 - 2)

/-- The multiple of `10 ^ exponent` next below the value, and twice the remainder against the
divisor, which tells which neighbour is the nearer one. -/
def gridFloor (num den : Nat) (exponent : Int) : Nat × Nat × Nat :=
  match exponent with
  | .ofNat e => (num / (den * Nat.pow 10 e), 2 * (num % (den * Nat.pow 10 e)), den * Nat.pow 10 e)
  | .negSucc e => (num * Nat.pow 10 (e + 1) / den, 2 * (num * Nat.pow 10 (e + 1) % den), den)

/-- The neighbour on one grid that reads back as `x`, the nearer one if both do and the even one
if they are equally near. -/
def gridHit? (x : Binary64) (negative : Bool) (num den : Nat) (exponent : Int) : Option Decimal :=
  let (low, twice, whole) := gridFloor num den exponent
  let below : Decimal := ⟨low, exponent⟩
  let above : Decimal := ⟨low + 1, exponent⟩
  let belowHit := low ≠ 0 ∧ below.toBinary negative = x
  let aboveHit := above.toBinary negative = x
  if belowHit ∧ aboveHit then
    if twice < whole then some below
    else if whole < twice then some above
    else if low % 2 = 0 then some below else some above
  else if belowHit then some below
  else if aboveHit then some above
  else none

/-- The first grid with a hit, from `count` grids on, coarse grids first. -/
def firstHit? (x : Binary64) (negative : Bool) (num den : Nat) : Nat → Int → Option Decimal
  | 0, _ => none
  | count + 1, exponent =>
    match gridHit? x negative num den exponent with
    | some d => some d
    | none => firstHit? x negative num den count (exponent - 1)

def exactDecimal (significand : Nat) : Int → Decimal
  | .ofNat e => ⟨significand * Nat.pow 2 e, 0⟩
  | .negSucc e => ⟨significand * Nat.pow 5 (e + 1), .negSucc e⟩

/-- The shortest decimal that reads back as the finite number. -/
def shortest (negative : Bool) (significand : Nat) (exponent : Int) : Decimal :=
  if significand = 0 then ⟨0, 0⟩
  else
    let (num, den) := ratio significand exponent
    match firstHit? (.finite negative significand exponent) negative num den 17
        (magnitude num den) with
    | some d => d.trim
    | none => exactDecimal significand exponent

/-! ## Layout -/

/-- The exponent with its sign and at least two digits. -/
def exponentText (exponent : Int) : List Char :=
  (if exponent < 0 then '-' else '+') :: paddedNat 2 exponent.natAbs

/-- Digits with a point behind the first `before` of them, zeros filled in on either side. -/
def positional (digits : List Char) (before : Int) : List Char :=
  match before with
  | .ofNat (n + 1) =>
    if digits.length ≤ n + 1 then padEnd '0' (n + 1) digits ++ ['.', '0']
    else digits.take (n + 1) ++ '.' :: digits.drop (n + 1)
  | _ => '0' :: '.' :: List.replicate (-before).toNat '0' ++ digits

/-- Digits with a point behind the first one and an exponent. -/
def scientific (digits : List Char) (exponent : Int) : List Char :=
  match digits with
  | [] => []
  | [d] => d :: 'e' :: exponentText exponent
  | d :: rest => d :: '.' :: rest ++ 'e' :: exponentText exponent

/-- The text of a finite number: positional for magnitudes from `10 ^ -4` up to below
`10 ^ 16`, with at least one digit behind the point, and with an exponent beyond. -/
def finiteText (negative : Bool) (significand : Nat) (exponent : Int) : List Char :=
  let d := shortest negative significand exponent
  let digits := natText d.digits
  let before : Int := digits.length + d.exponent
  let body :=
    if significand = 0 then ['0', '.', '0']
    else if -4 < before ∧ before ≤ 16 then positional digits before
    else scientific digits (before - 1)
  if negative then '-' :: body else body

def text : Binary64 → List Char
  | .nan => ['n', 'a', 'n']
  | .infinite false => ['i', 'n', 'f']
  | .infinite true => ['-', 'i', 'n', 'f']
  | .finite negative m e => finiteText negative m e

/-! ## A given number of places -/

/-- A finite number with `places` digits behind the point, rounded to the nearest, a tie to the
even last digit. -/
def fixedText (places : Nat) (significand : Nat) (exponent : Int) : List Char :=
  let (num, den) := ratio significand exponent
  let units := paddedNat (places + 1) (roundDiv (num * Nat.pow 10 places) den)
  let cut := units.length - places
  if places = 0 then units else units.take cut ++ '.' :: units.drop cut

/-- The first `count` digits of a finite number, rounded, and the exponent of the first one. -/
def leadingDigits (count : Nat) (significand : Nat) (exponent : Int) : List Char × Int :=
  if significand = 0 then (List.replicate count '0', 0)
  else
    let (num, den) := ratio significand exponent
    let top := magnitude num den
    let unit : Int := top - (count : Int) + 1
    let rounded :=
      match unit with
      | .ofNat e => roundDiv num (den * Nat.pow 10 e)
      | .negSucc e => roundDiv (num * Nat.pow 10 (e + 1)) den
    let digits := natText rounded
    if digits.length ≤ count then (digits, top) else (digits.take count, top + 1)

end Binary64
end Switchboard
