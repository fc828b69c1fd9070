import Switchboard.Calendar.Moment

/-!
# Layouts of dates and times

A layout is text with directives: a percent sign, flags, a field width, a modifier and a letter
that names a part of the moment. A directive with an unknown letter stands for itself.
-/

namespace Switchboard
namespace Calendar

open Text

/-! ## Names -/

def weekdayNames : List String :=
  ["Monday", "Tuesday", "Wednesday", "Thursday", "Friday", "Saturday", "Sunday"]

def monthNames : List String :=
  ["January", "February", "March", "April", "May", "June", "July", "August", "September",
    "October", "November", "December"]

namespace Moment

/-- The weekday, Monday being 0. -/
def weekday (m : Moment) : Nat :=
  Calendar.weekday m.year m.month m.day

def weekdayName (m : Moment) : List Char :=
  (weekdayNames[m.weekday]?.getD "").toList

def monthName (m : Moment) : List Char :=
  (monthNames[m.month - 1]?.getD "").toList

/-- The hour on a clock of twelve hours. -/
def hour12 (m : Moment) : Nat :=
  if m.hour % 12 = 0 then 12 else m.hour % 12

def halfDay (m : Moment) : List Char :=
  if m.hour < 12 then ['A', 'M'] else ['P', 'M']

/-- The day of the year, counted from 0. -/
def yearDay (m : Moment) : Nat :=
  dayOfYear m.year m.month m.day - 1

/-- The week of the year by weeks that start on the given weekday, Monday being 0. -/
def weekFrom (first : Nat) (m : Moment) : Nat :=
  (m.yearDay + 7 - (m.weekday + 7 - first) % 7) / 7

def epochSeconds (m : Moment) : Int :=
  ((ordinal m.year m.month m.day : Int) - (ordinal 1970 1 1 : Int)) * 86400 +
    (m.hour * 3600 + m.minute * 60 + m.second : Nat)

def shortTime (m : Moment) : List Char :=
  paddedNat 2 m.hour ++ ':' :: paddedNat 2 m.minute

def longTime (m : Moment) : List Char :=
  m.shortTime ++ ':' :: paddedNat 2 m.second

/-- Month, day and the last two digits of the year. -/
def shortDate (m : Moment) : List Char :=
  paddedNat 2 m.month ++ '/' :: paddedNat 2 m.day ++ '/' :: paddedNat 2 (m.year % 100)

end Moment

/-! ## Directives -/

/-- What has been read of a directive. -/
structure Directive where
  /-- The directive so far, in reverse order. -/
  raw : List Char
  /-- The flag that chooses the filling. -/
  pad : Option Char
  /-- Whether letters are to be capitals. -/
  upper : Bool
  /-- Whether the case is to be changed. -/
  swap : Bool
  /-- The field width. -/
  width : Option Nat
  /-- The modifier. -/
  modifier : Option Char
  deriving DecidableEq, Repr

namespace Directive

/-- A directive of which the percent sign alone has been read. -/
def start : Directive :=
  ⟨['%'], none, false, false, none, none⟩

/-- Reads one more character into the directive, unless it is the letter. -/
def feed? (d : Directive) (c : Char) : Option Directive :=
  if d.modifier.isSome then none
  else if d.width.isNone ∧ (c = '_' ∨ c = '-' ∨ c = '0') then
    some { d with raw := c :: d.raw, pad := some c }
  else if d.width.isNone ∧ c = '^' then some { d with raw := c :: d.raw, upper := true }
  else if d.width.isNone ∧ c = '#' then some { d with raw := c :: d.raw, swap := true }
  else if c.isDigit then
    some { d with raw := c :: d.raw, width := some (10 * d.width.getD 0 + (c.toNat - 0x30)) }
  else if c = 'E' ∨ c = 'O' then some { d with raw := c :: d.raw, modifier := some c }
  else none

/-- Text in the field: filled up to the width, with zeros if the flag asks for them. -/
def fill (d : Directive) (s : List Char) : List Char :=
  padStart (if d.pad = some '0' then '0' else ' ') (d.width.getD 0) s

/-- A name in the field. -/
def name (d : Directive) (s : List Char) : List Char :=
  d.fill (if d.upper || d.swap then s.map Char.toUpper else s)

/-- Text put together from other parts, in the field. -/
def whole (d : Directive) (s : List Char) : List Char :=
  d.fill (if d.upper then s.map Char.toUpper else s)

/-- A number of at least `digits` digits in the field, filled with zeros unless a flag says
otherwise. -/
def number (d : Directive) (digits : Nat) (n : Nat) : List Char :=
  let text := natText n
  match d.pad with
  | some '-' => d.fill text
  | some '_' =>
    let filling := digits - text.length
    List.replicate filling ' ' ++ { d with width := d.width.map (· - filling) }.fill text
  | _ => d.fill (padStart '0' digits text)

/-- A number in the field, filled with spaces unless a flag says otherwise. -/
def spacedNumber (d : Directive) (digits : Nat) (n : Nat) : List Char :=
  if d.pad = some '0' ∨ d.pad = some '-' then d.number digits n
  else { d with pad := some '_' }.number digits n

/-- The half of the day in the field; `small` asks for small letters. -/
def half (d : Directive) (small : Bool) (s : List Char) : List Char :=
  d.fill (if small || d.swap then s.map Char.toLower else s)

/-- The part of the moment that a letter names, if the letter is known and takes the
modifier. -/
def part? (d : Directive) (m : Moment) (letter : Char) : Option (List Char) :=
  let plain (s : List Char) : Option (List Char) := if d.modifier.isSome then none else some s
  let notEra (s : List Char) : Option (List Char) := if d.modifier = some 'E' then none else some s
  let notAlternative (s : List Char) : Option (List Char) :=
    if d.modifier = some 'O' then none else some s
  match letter with
  | '%' => plain (d.fill ['%'])
  | 'a' => plain (d.name (m.weekdayName.take 3))
  | 'A' => plain (d.name m.weekdayName)
  | 'b' => notEra (d.name (m.monthName.take 3))
  | 'h' => notEra (d.name (m.monthName.take 3))
  | 'B' => notEra (d.name m.monthName)
  | 'c' =>
    notAlternative (d.whole (m.weekdayName.take 3 ++ ' ' :: m.monthName.take 3 ++
      ' ' :: padStart ' ' 2 (natText m.day) ++ ' ' :: m.longTime ++ ' ' :: natText m.year))
  | 'C' => some (d.number 1 (m.year / 100))
  | 'd' => notEra (d.number 2 m.day)
  | 'D' => plain (d.whole m.shortDate)
  | 'e' => notEra (d.spacedNumber 2 m.day)
  | 'F' =>
    plain (d.whole (natText m.year ++ '-' :: paddedNat 2 m.month ++ '-' :: paddedNat 2 m.day))
  | 'g' => notEra (d.number 2 ((weekOf m.year m.month m.day).1 % 100))
  | 'G' => notEra (d.number 1 (weekOf m.year m.month m.day).1)
  | 'H' => notEra (d.number 2 m.hour)
  | 'I' => notEra (d.number 2 m.hour12)
  | 'j' => notEra (d.number 3 (m.yearDay + 1))
  | 'k' => notEra (d.spacedNumber 2 m.hour)
  | 'l' => notEra (d.spacedNumber 2 m.hour12)
  | 'm' => notEra (d.number 2 m.month)
  | 'M' => notEra (d.number 2 m.minute)
  | 'n' => some (d.fill ['\n'])
  | 'p' => some (d.half false m.halfDay)
  | 'P' => some (d.half true m.halfDay)
  | 'r' => some (d.whole (paddedNat 2 m.hour12 ++
      ':' :: paddedNat 2 m.minute ++ ':' :: paddedNat 2 m.second ++ ' ' :: m.halfDay))
  | 'R' => some (d.whole m.shortTime)
  | 's' => some (d.fill (intText m.epochSeconds))
  | 'S' => notEra (d.number 2 m.second)
  | 't' => some (d.fill ['\t'])
  | 'T' => some (d.whole m.longTime)
  | 'u' => some (d.number 1 (m.weekday + 1))
  | 'U' => notEra (d.number 2 (m.weekFrom 6))
  | 'V' => notEra (d.number 2 (weekOf m.year m.month m.day).2)
  | 'w' => notEra (d.number 1 ((m.weekday + 1) % 7))
  | 'W' => notEra (d.number 2 (m.weekFrom 0))
  | 'x' => notAlternative (d.whole m.shortDate)
  | 'X' => notAlternative (d.whole m.longTime)
  | 'y' => some (d.number 2 (m.year % 100))
  | 'Y' => notAlternative (d.number 1 m.year)
  | 'z' => some []
  | 'Z' => plain (d.fill [])
  | _ => none

/-- The directive with its letter: the part of the moment, or the directive itself. -/
def write (d : Directive) (m : Moment) (letter : Char) : List Char :=
  (d.part? m letter).getD (d.fill (letter :: d.raw).reverse)

end Directive

/-! ## Whole layouts -/

/-- Fills in the directives, one of them perhaps begun before the cursor. -/
def fillLayout (m : Moment) : Option Directive → List Char → List Char
  | none, [] => []
  | some d, [] => d.fill d.raw.reverse
  | none, c :: rest =>
    if c = '%' then fillLayout m (some .start) rest else c :: fillLayout m none rest
  | some d, c :: rest =>
    match d.feed? c with
    | some d => fillLayout m (some d) rest
    | none => d.write m c ++ fillLayout m none rest

/-- Fills in the fraction of the second as six digits and the zone, which is empty, where they
follow their percent sign at once. -/
def fillFraction (m : Moment) : List Char → List Char
  | '%' :: 'f' :: rest => paddedNat 6 m.micro ++ fillFraction m rest
  | '%' :: 'z' :: rest => fillFraction m rest
  | '%' :: 'Z' :: rest => fillFraction m rest
  | '%' :: c :: rest => '%' :: c :: fillFraction m rest
  | c :: rest => c :: fillFraction m rest
  | [] => []

/-- The moment written in a layout, which ends at a character with code 0. -/
def layoutText (layout : List Char) (m : Moment) : List Char :=
  fillLayout m none (fillFraction m (layout.takeWhile (· ≠ '\x00')))

end Calendar
end Switchboard
