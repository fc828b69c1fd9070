import Switchboard.Number.Binary64
import Switchboard.Text.Blank
import Switchboard.Text.Digit
import Switchboard.Text.Split

/-!
# Numerals

Reading integers and double-precision numbers from text. Blanks around a numeral are ignored,
single underscores may stand between digits, and digits of any script count. An integer of more
than `digitLimit` digits is refused in either direction.
-/

namespace Switchboard
namespace Numeral

open Text

/-- The greatest number of digits that an integer may have as text. -/
def digitLimit : Nat := 4300

inductive IntegerFlaw
  | malformed
  | tooLong (digits : Nat)
  deriving DecidableEq, Repr

def startsWithDigit : List Char → Bool
  | [] => false
  | c :: _ => isDecimalDigit c

/-- The digits at the cursor and the rest; `after` tells whether a digit stands before it, so
that an underscore with a digit behind it is skipped. -/
def digitsFrom (after : Bool) : List Char → List Nat × List Char
  | [] => ([], [])
  | c :: rest =>
    match digitValue? c with
    | some d =>
      let (ds, tail) := digitsFrom true rest
      (d :: ds, tail)
    | none =>
      if c = '_' && after && startsWithDigit rest then digitsFrom false rest else ([], c :: rest)

/-- A run of digits with single underscores between them: its digits and the rest. Nothing is
read if the text starts with no digit. -/
def digitRun (s : List Char) : List Nat × List Char :=
  digitsFrom false s

def ofDigits (ds : List Nat) : Nat :=
  ds.foldl (fun n d => 10 * n + d) 0

def splitSign : List Char → Bool × List Char
  | '-' :: rest => (true, rest)
  | '+' :: rest => (false, rest)
  | rest => (false, rest)

def readInteger (s : List Char) : Except IntegerFlaw Int :=
  let (negative, body) := splitSign (strip s)
  match digitRun body with
  | ([], _) => .error .malformed
  | (ds, rest) =>
    if digitLimit < ds.length then .error (.tooLong ds.length)
    else if rest.isEmpty then
      .ok (if negative then -((ofDigits ds : Nat) : Int) else ((ofDigits ds : Nat) : Int))
    else .error .malformed

def lowered (s : List Char) : List Char :=
  s.map Char.toLower

/-- The exponent of a decimal numeral, `0` if there is none. -/
def readExponent? : List Char → Option Int
  | [] => some 0
  | c :: rest =>
    if c = 'e' ∨ c = 'E' then
      let (negative, body) := splitSign rest
      match digitRun body with
      | ([], _) => none
      | (ds, []) => some (if negative then -((ofDigits ds : Nat) : Int) else ((ofDigits ds : Nat) : Int))
      | _ => none
    else none

/-- The double-precision number that a text stands for. -/
def readBinary? (s : List Char) : Option Binary64 :=
  let (negative, body) := splitSign (strip s)
  match lowered body with
  | ['n', 'a', 'n'] => some .nan
  | ['i', 'n', 'f'] => some (.infinite negative)
  | ['i', 'n', 'f', 'i', 'n', 'i', 't', 'y'] => some (.infinite negative)
  | _ =>
    let (whole, rest) := digitRun body
    let (fraction, rest) :=
      match rest with
      | '.' :: rest => digitRun rest
      | rest => ([], rest)
    if whole.isEmpty && fraction.isEmpty then none
    else
      (readExponent? rest).map fun e =>
        Binary64.ofDecimal negative (ofDigits (whole ++ fraction)) (e - fraction.length)

end Numeral
end Switchboard
