import Switchboard.Calendar.Date
import Switchboard.Text.Split

/-!
# Moments

A date with a time of day and perhaps an offset from universal time, its ISO text and the
reading of ISO text.
-/

namespace Switchboard
namespace Calendar

open Text

/-- A moment; the offset from universal time is in microseconds. -/
structure Moment where
  year : Nat
  month : Nat
  day : Nat
  hour : Nat
  minute : Nat
  second : Nat
  micro : Nat
  offset : Option Int
  deriving DecidableEq, Repr, Inhabited

namespace Moment

/-! ## Writing -/

/-- Date and time of day without fraction, `separator` between them. -/
def dateTimeText (separator : Char) (m : Moment) : List Char :=
  paddedNat 4 m.year ++ '-' :: paddedNat 2 m.month ++ '-' :: paddedNat 2 m.day ++
    separator :: paddedNat 2 m.hour ++ ':' :: paddedNat 2 m.minute ++ ':' :: paddedNat 2 m.second

/-- An offset as hours and minutes, with seconds and microseconds if there are any. -/
def offsetText (micros : Int) : List Char :=
  let all := micros.natAbs
  let micro := all % 1000000
  let seconds := all / 1000000
  (if micros < 0 then '-' else '+') :: paddedNat 2 (seconds / 3600) ++
    ':' :: paddedNat 2 (seconds / 60 % 60) ++
    (if seconds % 60 = 0 ∧ micro = 0 then []
      else ':' :: paddedNat 2 (seconds % 60) ++ (if micro = 0 then [] else '.' :: paddedNat 6 micro))

def secondsText (m : Moment) : List Char :=
  m.dateTimeText 'T' ++ (m.offset.map offsetText).getD []

/-- The ISO text; a fraction is written if there is one. -/
def isoText (m : Moment) : List Char :=
  m.dateTimeText 'T' ++ (if m.micro = 0 then [] else '.' :: paddedNat 6 m.micro) ++
    (m.offset.map offsetText).getD []

/-! ## Reading -/

/-- The number of exactly `count` ASCII digits at the front, and the rest. -/
def takeDigits? (count : Nat) (s : List Char) : Option (Nat × List Char) :=
  let digits := s.take count
  if digits.length = count ∧ digits.all Char.isDigit then
    some (digits.foldl (fun n c => 10 * n + (c.toNat - 0x30)) 0, s.drop count)
  else none

/-- Where the date ends. Dates with dashes, week dates and their short forms are told apart by
their fifth character and the digits behind it. -/
def dateLength? (s : List Char) : Option Nat :=
  let at? (i : Nat) : Option Char := s[i]?
  let digitAt (i : Nat) : Bool := ((at? i).map Char.isDigit).getD false
  if s.length < 7 then none
  else if s.length = 7 then some 7
  else if at? 4 = some '-' then
    if at? 5 = some 'W' then
      if at? 8 = some '-' then
        if s.length = 9 then none
        else if digitAt 10 then some 8
        else some 10
      else some 8
    else some 10
  else if at? 4 = some 'W' then
    let stop := 7 + ((s.drop 7).takeWhile Char.isDigit).length
    if stop < 9 then some stop else if stop % 2 = 0 then some 7 else some 8
  else some 8

/-- The date in the text, which is as long as `dateLength?` says. -/
def readDate? (s : List Char) : Option (Nat × Nat × Nat) := do
  let (year, rest) ← takeDigits? 4 s
  let dashed := rest.head? = some '-'
  let rest := if dashed then rest.drop 1 else rest
  if rest.head? = some 'W' then
    let (week, rest) ← takeDigits? 2 (rest.drop 1)
    if rest.isEmpty then ofWeekDate? year week 1
    else
      if dashed ∧ rest.head? ≠ some '-' then none
      else
        let (day, _) ← takeDigits? 1 (if dashed then rest.drop 1 else rest)
        ofWeekDate? year week day
  else
    let (month, rest) ← takeDigits? 2 rest
    if dashed ∧ rest.head? ≠ some '-' then none
    else
      let (day, _) ← takeDigits? 2 (if dashed then rest.drop 1 else rest)
      some (year, month, day)

structure Clock where
  hour : Nat
  minute : Nat
  second : Nat
  micro : Nat
  deriving DecidableEq, Repr

/-- The fraction of a second, cut off behind six digits, and what follows its digits. -/
def readFraction? (s : List Char) : Option (Nat × List Char) :=
  let count := min 6 s.length
  (takeDigits? count s).map fun (n, rest) =>
    (n * Nat.pow 10 (6 - count), rest.dropWhile Char.isDigit)

/-- Reads two digits for each of `fields` parts, most significant first, and a fraction. The
answer tells whether text is left over; text that is cut off behind a separator counts as
such. -/
def readParts? (colon : Option Bool) : Nat → List Nat → List Char → Option (List Nat × Nat × Bool)
  | 0, got, s => (readFraction? s).map fun (micro, rest) => (got, micro, !rest.isEmpty)
  | fields + 1, got, s => do
    let (n, rest) ← takeDigits? 2 s
    let got := got ++ [n]
    match rest with
    | [] => some (got, 0, false)
    | c :: rest =>
      let colon := colon.getD (c = ':')
      if rest.isEmpty then some (got, 0, true)
      else if colon ∧ c = ':' then readParts? (some colon) fields got rest
      else if c = '.' ∨ c = ',' then
        (readFraction? rest).map fun (micro, rest) => (got, micro, !rest.isEmpty)
      else if colon then none
      else readParts? (some colon) fields got (c :: rest)

/-- A time of day or an offset, and whether text is left over behind it. -/
def readClock? (s : List Char) : Option (Clock × Bool) :=
  (readParts? none 3 [] s).map fun (got, micro, more) =>
    (⟨got[0]?.getD 0, got[1]?.getD 0, got[2]?.getD 0, micro⟩, more)

def dayMicros : Int := 86400000000

/-- An offset in microseconds, less than a day in either direction. An offset of less than a second
is read as none from universal time. -/
def readOffset? (s : List Char) : Option Int :=
  match s with
  | ['Z'] => some 0
  | sign :: rest => do
    if sign = 'Z' then none
    let (clock, more) ← readClock? rest
    if more then none
    let seconds := clock.hour * 3600 + clock.minute * 60 + clock.second
    if seconds = 0 then some 0
    else
      let micros : Int := (seconds * 1000000 + clock.micro : Nat)
      if dayMicros ≤ micros then none
      some (if sign = '-' then -micros else micros)
  | [] => none

def startsOffset (c : Char) : Bool :=
  c == '+' || c == '-' || c == 'Z'

/-- The time of day and offset behind a date. -/
def readTime? (s : List Char) : Option (Clock × Option Int) := do
  let body := s.takeWhile fun c => !startsOffset c
  let zone := s.dropWhile fun c => !startsOffset c
  let (clock, more) ← readClock? body
  if zone.isEmpty then
    if more then none else some (clock, none)
  else
    let offset ← readOffset? zone
    some (clock, some offset)

def ofIsoText? (s : List Char) : Option Moment := do
  let length ← dateLength? s
  let (year, month, day) ← readDate? (s.take length)
  let rest := s.drop (length + 1)
  let (clock, offset) ← if rest.isEmpty then some (⟨0, 0, 0, 0⟩, none) else readTime? rest
  if isDate year month day ∧ clock.hour < 24 ∧ clock.minute < 60 ∧ clock.second < 60 then
    some ⟨year, month, day, clock.hour, clock.minute, clock.second, clock.micro, offset⟩
  else none

end Moment
end Calendar
end Switchboard
