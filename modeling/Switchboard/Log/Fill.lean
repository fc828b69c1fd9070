import Switchboard.Fault
import Switchboard.Number.Shortest

/-!
# Filling in log texts

A log text may have places that begin with a percent sign and are filled with arguments: as text,
as an integer to some base, as a number with a point, or as a character. A place can ask for a
width, a precision and signs, and it can name its argument if the only one is a mapping.
-/

namespace Switchboard
namespace Log

open Text

/-! ## Places -/

/-- The signs of a place. -/
structure Flags where
  left : Bool
  plus : Bool
  blank : Bool
  alternate : Bool
  zero : Bool
  deriving DecidableEq, Repr

def Flags.empty : Flags := ⟨false, false, false, false, false⟩

def Flags.add? (f : Flags) : Char → Option Flags
  | '-' => some { f with left := true }
  | '+' => some { f with plus := true }
  | ' ' => some { f with blank := true }
  | '#' => some { f with alternate := true }
  | '0' => some { f with zero := true }
  | _ => none

/-- The signs at the start of a text, and the rest. -/
def takeFlags (f : Flags) : List Char → Flags × List Char
  | [] => (f, [])
  | c :: rest =>
    match f.add? c with
    | some f => takeFlags f rest
    | none => (f, c :: rest)

/-- The arguments: those of a list that are left, or a single value that can be taken once. -/
inductive Supply
  | list (rest : List Value)
  | single (value : Value) (isFresh : Bool)

def unfit (text : String) : Fault :=
  .misfit (.notText text)

def Supply.take : Supply → Except Fault (Value × Supply)
  | .list (value :: rest) => .ok (value, .list rest)
  | .single value true => .ok (value, .single value false)
  | _ => .error (unfit "too few arguments")

def Supply.isLeftOver : Supply → Bool
  | .list rest => !rest.isEmpty
  | .single _ _ => false

structure Measure where
  amount : Option Int
  supply : Supply
  rest : List Char

/-- The width or precision at the start of a text: digits, or a star that stands for an
argument. -/
def takeMeasure (supply : Supply) (s : List Char) : Except Fault Measure :=
  match s with
  | '*' :: rest => do
    let (value, supply) ← supply.take
    match value with
    | .int n => return ⟨some n, supply, rest⟩
    | .bool b => return ⟨some (if b then 1 else 0), supply, rest⟩
    | _ => throw (unfit "a width must be an integer")
  | s =>
    let digits := s.takeWhile Char.isDigit
    let amount : Int := digits.foldl (fun n d => 10 * n + ((d.toNat : Int) - 48)) 0
    .ok ⟨if digits.isEmpty then none else some amount, supply, s.drop digits.length⟩

/-- A place: its signs, width, precision and the letter of its form. -/
structure Place where
  flags : Flags
  width : Nat
  precision : Option Nat
  letter : Char

/-! ## Forms -/

/-- A text in its place. -/
def Place.pad (p : Place) (s : List Char) : List Char :=
  if p.flags.left then padEnd ' ' p.width s else padStart ' ' p.width s

/-- A text in its place, cut to its precision. -/
def Place.fillText (p : Place) (s : List Char) : List Char :=
  p.pad (match p.precision with
    | some n => s.take n
    | none => s)

/-- A number in its place; zeros stand between its sign and lead and its digits. -/
def Place.fillNumber (p : Place) (isNegative : Bool) (lead digits : List Char) : List Char :=
  let sign :=
    if isNegative then ['-'] else if p.flags.plus then ['+'] else if p.flags.blank then [' '] else []
  let front := sign ++ lead
  if p.flags.zero && !p.flags.left then front ++ padStart '0' (p.width - front.length) digits
  else p.pad (front ++ digits)

/-- ASCII letters in capitals. -/
def raised (s : List Char) : List Char :=
  s.map Char.toUpper

/-- The lead of integers to the base that a letter stands for. -/
def baseLead : Char → List Char
  | 'x' => ['0', 'x']
  | 'X' => ['0', 'X']
  | 'o' => ['0', 'o']
  | _ => []

def baseDigits (letter : Char) (n : Nat) : List Char :=
  match letter with
  | 'x' => Nat.toDigits 16 n
  | 'X' => raised (Nat.toDigits 16 n)
  | 'o' => Nat.toDigits 8 n
  | _ => natText n

/-- An integer in its place; its precision is the least number of digits. -/
def Place.fillInteger (p : Place) (n : Int) : List Char :=
  let digits := padStart '0' (p.precision.getD 0) (baseDigits p.letter n.natAbs)
  p.fillNumber (n < 0) (if p.flags.alternate then baseLead p.letter else []) digits

/-- Digits with a point behind the first one. -/
def pointed (keepsPoint : Bool) : List Char → List Char
  | [] => []
  | [d] => if keepsPoint then [d, '.'] else [d]
  | d :: rest => d :: '.' :: rest

/-- The text without zeros at its end, and without a point that is left there. -/
def trimZeros (s : List Char) : List Char :=
  let trimmed := s.reverse.dropWhile (· == '0')
  (if trimmed.head? == some '.' then trimmed.drop 1 else trimmed).reverse

/-- A finite number with an exponent. -/
def exponentForm (keepsPoint : Bool) (places significand : Nat) (exponent : Int) : List Char :=
  let (digits, top) := Binary64.leadingDigits (places + 1) significand exponent
  pointed keepsPoint digits ++ 'e' :: Binary64.exponentText top

/-- A finite number with places behind the point. -/
def fixedForm (keepsPoint : Bool) (places significand : Nat) (exponent : Int) : List Char :=
  Binary64.fixedText places significand exponent ++ (if keepsPoint && places == 0 then ['.'] else [])

/-- A finite number with a count of digits that matter, with an exponent if it is very small or
has more digits than that before the point. -/
def generalForm (keepsZeros : Bool) (count significand : Nat) (exponent : Int) : List Char :=
  let (digits, top) := Binary64.leadingDigits count significand exponent
  if -4 ≤ top ∧ top < (count : Int) then
    let s := fixedForm keepsZeros ((count : Int) - 1 - top).toNat significand exponent
    if keepsZeros || !s.contains '.' then s else trimZeros s
  else
    let s := pointed keepsZeros digits
    (if keepsZeros || !s.contains '.' then s else trimZeros s) ++ 'e' :: Binary64.exponentText top

def Place.floatForm (p : Place) (x : Binary64) : List Char :=
  let places := p.precision.getD 6
  let keeps := p.flags.alternate
  match x with
  | .nan => "nan".toList
  | .infinite _ => "inf".toList
  | .finite _ m e =>
    match p.letter.toLower with
    | 'e' => exponentForm keeps places m e
    | 'f' => fixedForm keeps places m e
    | _ => generalForm keeps (max 1 places) m e

def isNegative : Binary64 → Bool
  | .nan => false
  | .infinite negative => negative
  | .finite negative _ _ => negative

def Place.fillFloat (p : Place) (x : Binary64) : List Char :=
  let s := p.floatForm x
  p.fillNumber (isNegative x) [] (if p.letter.isUpper then raised s else s)

/-- A text with every character escaped that is not ASCII. -/
def asciiText (s : List Char) : List Char :=
  s.flatMap fun c =>
    let n := c.toNat
    if n < 0x80 then [c]
    else if n < 0x100 then '\\' :: 'x' :: hexText hexDigitSmall 2 n
    else if n < 0x10000 then '\\' :: 'u' :: hexText hexDigitSmall 4 n
    else '\\' :: 'U' :: hexText hexDigitSmall 8 n

def Place.integer (p : Place) (value : Value) : Except Fault Int :=
  match value with
  | .int n => .ok n
  | .bool b => .ok (if b then 1 else 0)
  | .float x =>
    if (baseLead p.letter).isEmpty then
      match x, x.truncate? with
      | _, some n => .ok n
      | .nan, none => .error .undefinedNumber
      | _, none => .error .infiniteNumber
    else .error (unfit "an integer is needed")
  | _ => .error (unfit "a number is needed")

def floatOf (value : Value) : Except Fault Binary64 :=
  let ofInt (n : Int) : Except Fault Binary64 :=
    match Binary64.ofInt n with
    | .infinite _ => .error .infiniteNumber
    | x => .ok x
  match value with
  | .float x => .ok x
  | .int n => ofInt n
  | .bool b => ofInt (if b then 1 else 0)
  | _ => .error (unfit "a number is needed")

def charOf (value : Value) : Except Fault Char :=
  let ofCode (n : Int) : Except Fault Char :=
    if 0 ≤ n ∧ n < 0x110000 then .ok (Char.ofNat n.toNat) else .error .infiniteNumber
  match value with
  | .text s =>
    match s.toList with
    | [c] => .ok c
    | _ => .error (unfit "a character is needed")
  | .int n => ofCode n
  | .bool b => ofCode (if b then 1 else 0)
  | _ => .error (unfit "a character is needed")

/-- The text of a value, which may hold no integer that is too long. -/
def writable (value : Value) (s : List Char) : Except Fault (List Char) :=
  if value.isWritable then .ok s else .error (.tooManyDigits none)

def Place.fill (p : Place) (value : Value) : Except Fault (List Char) :=
  match p.letter with
  | 's' => (writable value value.plain).map p.fillText
  | 'r' => (writable value value.literal).map p.fillText
  | 'a' => (writable value (asciiText value.literal)).map p.fillText
  | 'c' => (charOf value).map fun c => p.pad [c]
  | 'd' | 'i' | 'u' => do
    let n ← p.integer value
    writable (.int n) (p.fillInteger n)
  | 'x' | 'X' | 'o' => (p.integer value).map p.fillInteger
  | 'e' | 'E' | 'f' | 'F' | 'g' | 'G' => (floatOf value).map p.fillFloat
  | _ => .error (.badValue "a place of an unknown form")

/-! ## Texts -/

/-- The name at the start of a text up to its closing bracket, and the rest; `depth` brackets are
open. -/
def takeName (depth : Nat) : List Char → Option (List Char × List Char)
  | [] => none
  | c :: rest =>
    if c = ')' ∧ depth = 0 then some ([], rest)
    else
      let depth := if c = '(' then depth + 1 else if c = ')' then depth - 1 else depth
      (takeName depth rest).map fun (name, rest) => (c :: name, rest)

/-- The arguments behind a name in brackets, if there is one: the value of that name alone. -/
def takeNamed (names : Option (List (Value × Value))) (supply : Supply) (s : List Char) :
    Except Fault (Supply × List Char) :=
  match s with
  | '(' :: rest =>
    match names, takeName 0 rest with
    | none, _ => .error (unfit "a mapping is needed")
    | some _, none => .error (.badValue "a name without an end")
    | some entries, some (name, rest) =>
      match Value.lookupText? (String.ofList name) entries with
      | some value => .ok (.single value true, rest)
      | none => .error (.missingKey (String.ofList name))
  | s => .ok (supply, s)

/-- The text of the place behind a percent sign, the arguments left, and the rest. -/
def fillPlace (names : Option (List (Value × Value))) (supply : Supply) (s : List Char) :
    Except Fault (List Char × Supply × List Char) := do
  let (supply, s) ← takeNamed names supply s
  let (flags, s) := takeFlags .empty s
  let width ← takeMeasure supply s
  let precision ← match width.rest with
    | '.' :: rest => takeMeasure width.supply rest
    | rest => .ok ⟨none, width.supply, rest⟩
  let isPrecise := width.rest.head? == some '.'
  let s := match precision.rest with
    | c :: rest => if c = 'h' ∨ c = 'l' ∨ c = 'L' then rest else c :: rest
    | [] => []
  match s with
  | [] => throw (.badValue "a place without an end")
  | '%' :: rest => return (['%'], precision.supply, rest)
  | letter :: rest =>
    let (value, supply) ← precision.supply.take
    let amount := width.amount.getD 0
    let place : Place := {
      flags := { flags with left := flags.left || amount < 0 }
      width := amount.natAbs
      precision := if isPrecise then some (precision.amount.getD 0).toNat else none
      letter := letter }
    return (← place.fill value, supply, rest)

/-- The text with its places filled. -/
def fillFrom (names : Option (List (Value × Value))) :
    Nat → Supply → List Char → Except Fault (List Char)
  | 0, _, _ => .ok []
  | fuel + 1, supply, s =>
    match s with
    | [] =>
      if supply.isLeftOver then
        .error (unfit "arguments are left over")
      else .ok []
    | '%' :: rest => do
      let (filled, supply, rest) ← fillPlace names supply rest
      return filled ++ (← fillFrom names fuel supply rest)
    | c :: rest => do return c :: (← fillFrom names fuel supply rest)

/-- The text with its places filled. Without arguments it is left as it is. -/
def fill (text : String) (args : List Value) : Except Fault String :=
  let s := text.toList
  match args with
  | [] => .ok text
  | [.dict (entry :: entries)] =>
    let names := entry :: entries
    (fillFrom (some names) (s.length + 1) (.single (.dict names) true) s).map String.ofList
  | args => (fillFrom none (s.length + 1) (.list args) s).map String.ofList

end Log
end Switchboard
