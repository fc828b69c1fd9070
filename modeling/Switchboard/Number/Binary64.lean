/-!
# Double-precision numbers

A number of the binary64 format as its sign, significand and exponent, so that equality and
order are decidable and exact. `ofRatio` and `ofDecimal` round to the nearest such number, a
tie to the even significand.
-/

namespace Switchboard

/-- A binary64 datum. A finite one has the value `significand * 2 ^ exponent`, with a significand
below `2 ^ 53` that is at least `2 ^ 52` unless the exponent is the least one. -/
inductive Binary64
  | nan
  | infinite (negative : Bool)
  | finite (negative : Bool) (significand : Nat) (exponent : Int)
  deriving DecidableEq, Repr, Inhabited

namespace Binary64

def minExponent : Int := -1074

def maxExponent : Int := 971

def zero (negative : Bool) : Binary64 :=
  .finite negative 0 minExponent

/-- The quotient of two numbers to the nearest integer, a tie to the even one. -/
def roundDiv (num den : Nat) : Nat :=
  let q := num / den
  let r := num % den
  if 2 * r < den then q
  else if den < 2 * r then q + 1
  else if q % 2 = 0 then q else q + 1

/-- `num / den` in units of `2 ^ exponent`, as a fraction. -/
def scaled (num den : Nat) (exponent : Int) : Nat × Nat :=
  match exponent with
  | .ofNat e => (num, den * Nat.pow 2 e)
  | .negSucc e => (num * Nat.pow 2 (e + 1), den)

/-- The exponent that gives `num / den` a significand of 53 bits, or the least exponent. -/
def exponentFor (num den : Nat) : Int :=
  let guess : Int := (num.log2 : Int) - (den.log2 : Int) - 53
  let (n, d) := scaled num den guess
  max minExponent (if n / d < Nat.pow 2 53 then guess else guess + 1)

/-- The number nearest to `num / den`. -/
def ofRatio (negative : Bool) (num den : Nat) : Binary64 :=
  if num = 0 then zero negative
  else
    let e := exponentFor num den
    let (n, d) := scaled num den e
    let m := roundDiv n d
    let (m, e) := if m < Nat.pow 2 53 then (m, e) else (Nat.pow 2 52, e + 1)
    if maxExponent < e then .infinite negative else .finite negative m e

/-- The number nearest to `digits * 10 ^ exponent`. Exponents that are out of reach for any
number of so many digits are answered without computing the power. -/
def ofDecimal (negative : Bool) (digits : Nat) (exponent : Int) : Binary64 :=
  if digits = 0 then zero negative
  else if 400 < exponent then .infinite negative
  else if exponent < -400 - (digits.log2 : Int) then zero negative
  else
    match exponent with
    | .ofNat e => ofRatio negative (digits * Nat.pow 10 e) 1
    | .negSucc e => ofRatio negative digits (Nat.pow 10 (e + 1))

def ofInt : Int → Binary64
  | .ofNat n => ofRatio false n 1
  | .negSucc n => ofRatio true (n + 1) 1

/-- The absolute value of a finite number as a fraction. -/
def ratio (significand : Nat) (exponent : Int) : Nat × Nat :=
  match exponent with
  | .ofNat e => (significand * Nat.pow 2 e, 1)
  | .negSucc e => (significand, Nat.pow 2 (e + 1))

def negated : Binary64 → Binary64
  | .nan => .nan
  | .infinite negative => .infinite !negative
  | .finite negative m e => .finite (!negative) m e

/-- The sum of two numbers that are not negative. -/
def plus (x y : Binary64) : Binary64 :=
  match x, y with
  | .finite _ m e, .finite _ k f =>
    let (n, d) := ratio m e
    let (p, q) := ratio k f
    ofRatio false (n * q + p * d) (d * q)
  | .nan, _ => .nan
  | _, .nan => .nan
  | _, _ => .infinite false

/-- The product of two numbers that are not negative. -/
def times (x y : Binary64) : Binary64 :=
  match x, y with
  | .finite _ m e, .finite _ k f =>
    let (n, d) := ratio m e
    let (p, q) := ratio k f
    ofRatio false (n * p) (d * q)
  | .infinite _, .finite _ 0 _ => .nan
  | .finite _ 0 _, .infinite _ => .nan
  | .nan, _ => .nan
  | _, .nan => .nan
  | _, _ => .infinite false

/-- The integer part of a finite number, toward zero. -/
def truncate? : Binary64 → Option Int
  | .finite negative m e =>
    let (n, d) := ratio m e
    some (if negative then -((n / d : Nat) : Int) else ((n / d : Nat) : Int))
  | _ => none

/-- Whether the number is less than an integer; a NaN is not. -/
def ltInt (x : Binary64) (k : Int) : Bool :=
  match x with
  | .nan => false
  | .infinite negative => negative
  | .finite negative m e =>
    let (n, d) := ratio m e
    let signed : Int := if negative then -(n : Int) else n
    decide (signed < k * d)

def eqInt (x : Binary64) (k : Int) : Bool :=
  match x with
  | .finite negative m e =>
    let (n, d) := ratio m e
    let signed : Int := if negative then -(n : Int) else n
    decide (signed = k * d)
  | _ => false

/-- Equality of values: a NaN equals nothing, and the two zeros are equal. -/
def eqValue (x y : Binary64) : Bool :=
  match x, y with
  | .nan, _ => false
  | _, .nan => false
  | .finite _ 0 _, .finite _ 0 _ => true
  | x, y => decide (x = y)

def isZero : Binary64 → Bool
  | .finite _ 0 _ => true
  | _ => false

end Binary64
end Switchboard
