import Switchboard.Calendar.Moment
import Switchboard.Text.Digit
import Switchboard.Text.Split

/-!
# Chance

Random characters and identifiers are drawn one after the other. What is drawn is fixed by the
number of the draw, so that equal draws give equal texts.
-/

namespace Switchboard

open Calendar Text

/-- The source of time and chance: the current moment, and the pick of every draw. -/
structure Source where
  now : Moment
  pick : Nat → Int

/-- How many characters have been drawn and how many identifiers issued. -/
structure Draws where
  drawn : Nat
  issued : Nat
  deriving DecidableEq, Repr, Inhabited

namespace Draws

def start : Draws :=
  ⟨0, 0⟩

end Draws

def letters : List Char :=
  ['A', 'B', 'C', 'D', 'E', 'F', 'G', 'H', 'I', 'J', 'K', 'L', 'M', 'N', 'O', 'P', 'Q', 'R', 'S',
    'T', 'U', 'V', 'W', 'X', 'Y', 'Z', 'a', 'b', 'c', 'd', 'e', 'f', 'g', 'h', 'i', 'j', 'k', 'l',
    'm', 'n', 'o', 'p', 'q', 'r', 's', 't', 'u', 'v', 'w', 'x', 'y', 'z']

def decimalDigits : List Char :=
  ['0', '1', '2', '3', '4', '5', '6', '7', '8', '9']

/-- The characters that a placeholder is drawn from. -/
def drawnFrom? : Char → Option (List Char)
  | '*' => some (letters ++ decimalDigits)
  | '@' => some letters
  | '#' => some decimalDigits
  | _ => none

/-- The text with its placeholders drawn from left to right. -/
def drawText (source : Source) : List Char → Draws → List Char × Draws
  | [], draws => ([], draws)
  | c :: rest, draws =>
    match drawnFrom? c with
    | some choices =>
      let place := ((source.pick draws.drawn) % (choices.length : Int)).toNat
      let (tail, after) := drawText source rest { draws with drawn := draws.drawn + 1 }
      (choices[place]?.getD c :: tail, after)
    | none =>
      let (tail, after) := drawText source rest draws
      (c :: tail, after)

def identifierText (number : Nat) : List Char :=
  "00000000-0000-4000-8000-".toList ++ hexText hexDigitSmall 12 number

def issueIdentifier (draws : Draws) : List Char × Draws :=
  (identifierText (draws.issued + 1), { draws with issued := draws.issued + 1 })

end Switchboard
