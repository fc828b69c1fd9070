import Switchboard.Calendar.Moment
import Switchboard.Value.Text
import Switchboard.Yaml.Token

/-!
# Forms of scalars

What a scalar stands for shows in the form of its text, unless a tag says it. There are words for
truth values and for nothing, and forms of numbers and of calendar days and moments; every other
text stands for itself.
-/

namespace Switchboard
namespace Yaml

open Text

/-- What a node stands for. The bytes, sets and pairs are values, but no plain ones. -/
inductive Kind
  | nothing
  | bool
  | int
  | float
  | text
  | moment
  | bytes
  | merge
  | standIn
  | sequence
  | mapping
  | pairs
  | set
  | other
  deriving DecidableEq, Repr

/-! ## Tags -/

def coreLead : List Char := "tag:yaml.org,2002:".toList

def coreKind (name : String) : Kind :=
  match name with
  | "null" => .nothing
  | "bool" => .bool
  | "int" => .int
  | "float" => .float
  | "str" => .text
  | "timestamp" => .moment
  | "binary" => .bytes
  | "merge" => .merge
  | "value" => .standIn
  | "seq" => .sequence
  | "map" => .mapping
  | "omap" => .pairs
  | "pairs" => .pairs
  | "set" => .set
  | _ => .other

def Kind.ofTag (tag : List Char) : Kind :=
  match dropLead? coreLead tag with
  | some name => coreKind (String.ofList name)
  | none => .other

/-! ## Numbers -/

def dropSign (s : List Char) : List Char :=
  (Numeral.splitSign s).2

/-- Whether all characters are digits or underscores. -/
def areDigits (isDigit : Char → Bool) (s : List Char) : Bool :=
  s.all fun c => c == '_' || isDigit c

/-- Whether the text is a decimal digit with digits and underscores behind it. -/
def isDecimal : List Char → Bool
  | [] => false
  | d :: rest => d.isDigit && areDigits Char.isDigit rest

/-- Whether the text is a place of a number to the base sixty. -/
def isSixtieth : List Char → Bool
  | [d] => d.isDigit
  | [tens, d] => tens.isDigit && tens.toNat < 0x36 && d.isDigit
  | _ => false

def isInteger (s : List Char) : Bool :=
  match dropSign s with
  | [] => false
  | '0' :: 'b' :: digits => !digits.isEmpty && areDigits (fun c => c == '0' || c == '1') digits
  | '0' :: 'x' :: digits => !digits.isEmpty && areDigits (fun c => (hexValue? c).isSome) digits
  | '0' :: digits => areDigits (fun c => c.isDigit && c.toNat < 0x38) digits
  | body =>
    match splitAll ':' body with
    | [] => false
    | first :: places => isDecimal first && places.all isSixtieth

/-- Whether the text is an exponent of ten, or nothing. -/
def isExponent : List Char → Bool
  | [] => true
  | e :: sign :: digits =>
    (e == 'e' || e == 'E') && (sign == '-' || sign == '+') && !digits.isEmpty &&
      digits.all Char.isDigit
  | _ => false

/-- Whether the text is made of digits and underscores with an exponent behind them. -/
def isScaled (s : List Char) : Bool :=
  isExponent (s.dropWhile fun c => c == '_' || c.isDigit)

/-- Whether the text has the form of a number with a point. -/
def isPointed (s : List Char) : Bool :=
  match cut? '.' (dropSign s) with
  | none => false
  | some ([], fraction) =>
    s.head? == some '.' && (fraction.head?.map Char.isDigit).getD false && isScaled fraction
  | some (whole, fraction) =>
    match splitAll ':' whole with
    | [] => false
    | [digits] => isDecimal digits && isScaled fraction
    | first :: places =>
      isDecimal first && places.all isSixtieth && areDigits Char.isDigit fraction

def infinityWords : List (List Char) := [".inf".toList, ".Inf".toList, ".INF".toList]

def nanWords : List (List Char) := [".nan".toList, ".NaN".toList, ".NAN".toList]

/-- Whether the text has the form of a number that is no integer. -/
def isFloat (s : List Char) : Bool :=
  isPointed s || infinityWords.contains (dropSign s) || nanWords.contains s

def ofBase (base : Nat) (s : List Char) : Except Flaw Int :=
  let (negative, digits) := Numeral.splitSign (strip s)
  if !digits.isEmpty && digits.all fun c => decide ((hexValue? c).getD base < base) then
    let n := digits.foldl (fun n c => base * n + (hexValue? c).getD 0) 0
    .ok (if negative then -(n : Int) else n)
  else .error .badValue

def ofDecimal (s : List Char) : Except Flaw Int :=
  (Numeral.readInteger s).mapError fun _ => .badValue

/-- The number with the given places to the base sixty, the highest first. -/
def ofSixtieths (places : List Int) : Int :=
  places.foldl (fun n place => 60 * n + place) 0

def unsignedInteger (s : List Char) : Except Flaw Int :=
  match s with
  | [] => .error .badValue
  | '0' :: 'b' :: digits => ofBase 2 digits
  | '0' :: 'x' :: digits => ofBase 16 digits
  | '0' :: 'o' :: digits => ofBase 8 digits
  | '0' :: digits => ofBase 8 ('0' :: digits)
  | body =>
    if body.contains ':' then ((splitAll ':' body).mapM ofDecimal).map ofSixtieths
    else ofDecimal body

def readInteger (s : List Char) : Except Flaw Int :=
  let (negative, body) := Numeral.splitSign (s.filter (· != '_'))
  (unsignedInteger body).map fun n => if negative then -n else n

/-- The number that a decimal numeral stands for. -/
def ofPointed (s : List Char) : Except Flaw Binary64 :=
  match Numeral.readBinary? s with
  | some x => .ok x
  | none => .error .badValue

/-- The number with the given places to the base sixty, the lowest first, added to `sum`. Every
step is rounded. -/
def addSixtieths (sum : Binary64) (base : Nat) : List Binary64 → Binary64
  | [] => sum
  | place :: places =>
    addSixtieths (sum.plus (place.times (Binary64.ofInt base))) (60 * base) places

def readFloat (s : List Char) : Except Flaw Binary64 := do
  let (negative, body) := Numeral.splitSign (Numeral.lowered (s.filter (· != '_')))
  let x ←
    if body.isEmpty then .error .badValue
    else if body == ".inf".toList then .ok (.infinite false)
    else if body == ".nan".toList then return .nan
    else if body.contains ':' then
      ((splitAll ':' body).mapM ofPointed).map fun places =>
        addSixtieths (.zero false) 1 places.reverse
    else ofPointed body
  return if negative then x.negated else x

/-! ## Calendar days and moments -/

/-- A time of day, with the fraction of its last second and the offset of its zone in minutes. -/
structure TimeOfDay where
  hour : Nat
  minute : Nat
  second : Nat
  fraction : List Char
  offset : Option Int
  deriving DecidableEq, Repr

/-- A calendar day, and a time of it if one is given. -/
structure Stamp where
  year : Nat
  month : Nat
  day : Nat
  time : Option TimeOfDay
  deriving DecidableEq, Repr

def oneOrTwoDigits? (s : List Char) : Option (Nat × List Char) :=
  (Calendar.Moment.takeDigits? 2 s).or (Calendar.Moment.takeDigits? 1 s)

def behind? (c : Char) (s : List Char) : Option (List Char) :=
  dropLead? [c] s

/-- The offset of a zone: nothing, a letter, or a sign with hours and minutes. -/
def readZone? (s : List Char) : Option (Option Int) :=
  match s.dropWhile fun c => c == ' ' || c == '\t' with
  | [] => if s.isEmpty then some none else none
  | ['Z'] => some (some 0)
  | sign :: rest => do
    guard (sign == '-' || sign == '+')
    let (hours, rest) ← oneOrTwoDigits? rest
    let minutes ←
      if rest.isEmpty then some 0
      else do
        let (minutes, rest) ← Calendar.Moment.takeDigits? 2 (← behind? ':' rest)
        guard rest.isEmpty
        some minutes
    let offset : Int := 60 * hours + minutes
    some (some (if sign == '-' then -offset else offset))

def readTime? (s : List Char) : Option TimeOfDay := do
  let (hour, rest) ← oneOrTwoDigits? s
  let (minute, rest) ← Calendar.Moment.takeDigits? 2 (← behind? ':' rest)
  let (second, rest) ← Calendar.Moment.takeDigits? 2 (← behind? ':' rest)
  let fraction := ((behind? '.' rest).map (·.takeWhile Char.isDigit)).getD []
  let rest := ((behind? '.' rest).map (·.dropWhile Char.isDigit)).getD rest
  some ⟨hour, minute, second, fraction, ← readZone? rest⟩

def readStamp? (s : List Char) : Option Stamp := do
  let (year, rest) ← Calendar.Moment.takeDigits? 4 s
  let (month, rest) ← oneOrTwoDigits? (← behind? '-' rest)
  let (day, rest) ← oneOrTwoDigits? (← behind? '-' rest)
  match rest with
  | [] => some ⟨year, month, day, none⟩
  | c :: tail =>
    let time ←
      if c == 'T' || c == 't' then some tail
      else if c == ' ' || c == '\t' then some (tail.dropWhile fun c => c == ' ' || c == '\t')
      else none
    some ⟨year, month, day, some (← readTime? time)⟩

/-- Whether the text has the form of a day or moment. A day without a time has all its digits. -/
def isStamp (s : List Char) : Bool :=
  match readStamp? s with
  | some stamp => stamp.time.isSome || s.length == 10
  | none => false

def offsetText (offset : Int) : List Char :=
  (if offset < 0 then '-' else '+') :: paddedNat 2 (offset.natAbs / 60) ++ ':' ::
    paddedNat 2 (offset.natAbs % 60)

/-- The text of a time of day; a fraction has six digits. -/
def TimeOfDay.text (t : TimeOfDay) : List Char :=
  let micro := (padEnd '0' 6 t.fraction).take 6
  paddedNat 2 t.hour ++ ':' :: paddedNat 2 t.minute ++ ':' :: paddedNat 2 t.second ++
    (if micro.all (· == '0') then [] else '.' :: micro) ++
    (t.offset.map offsetText).getD []

def TimeOfDay.isTime (t : TimeOfDay) : Bool :=
  t.hour < 24 && t.minute < 60 && t.second < 60 &&
    decide ((t.offset.getD 0).natAbs < 24 * 60)

/-- The value of a day or moment, if there is such a one. -/
def Stamp.toValue (s : Stamp) : Except Flaw Value :=
  let day := paddedNat 4 s.year ++ '-' :: paddedNat 2 s.month ++ '-' :: paddedNat 2 s.day
  if Calendar.isDate s.year s.month s.day && (s.time.map TimeOfDay.isTime).getD true then
    match s.time with
    | some time => .ok (.calendar (String.ofList (day ++ ' ' :: time.text)))
    | none => .ok (.calendar (String.ofList day))
  else .error .badValue

/-! ## Bytes -/

/-- Whether a character stands for six bits. -/
def isSextet (c : Char) : Bool :=
  c.isAlphanum || c == '+' || c == '/'

/-- Whether bytes can be read from the text, with so many sextets of a group of four and so many
signs of padding behind them. Padding that completes a group ends the bytes; what stands for no bits
is passed over. -/
def hasSextets (sextets padding : Nat) : List Char → Bool
  | [] => sextets == 0
  | c :: rest =>
    if c == '=' then
      if sextets < 2 then hasSextets sextets padding rest
      else 3 ≤ sextets + padding || hasSextets sextets (padding + 1) rest
    else if isSextet c then hasSextets ((sextets + 1) % 4) 0 rest
    else hasSextets sextets padding rest

def areBytes (s : List Char) : Bool :=
  s.all (fun c => c.toNat < 128) && hasSextets 0 0 s

/-! ## Words -/

/-- The words for truth values in small letters. -/
def boolWords : List (String × Bool) :=
  [("yes", true), ("no", false), ("true", true), ("false", false), ("on", true), ("off", false)]

/-- The truth value that a word stands for, whatever its letters' case. -/
def readBool (s : List Char) : Except Flaw Bool :=
  let word := Numeral.lowered s
  match boolWords.find? fun (name, _) => name.toList == word with
  | some (_, b) => .ok b
  | none => .error (.unknownWord word)

/-- Whether a word is written in small letters, in capitals, or with one capital at its start. -/
def hasPlainCase (s : List Char) : Bool :=
  s.all Char.isLower || s.all Char.isUpper ||
    ((s.head?.map Char.isUpper).getD false && (s.drop 1).all Char.isLower)

def isBool (s : List Char) : Bool :=
  hasPlainCase s && (boolWords.any fun (name, _) => name.toList == Numeral.lowered s)

def isNothing (s : List Char) : Bool :=
  s == ['~'] || (hasPlainCase s && Numeral.lowered s == "null".toList)

/-- What a text stands for by its form. One line feed at its end does not count. -/
def Kind.ofPlain (s : List Char) : Kind :=
  let line := Value.dropFinalLineFeed s
  if s.isEmpty || isNothing line then .nothing
  else if isBool line then .bool
  else if isFloat line then .float
  else if isInteger line then .int
  else if isStamp line then .moment
  else if line == "<<".toList then .merge
  else if line == ['='] then .standIn
  else if line == ['!'] || line == ['&'] || line == ['*'] then .other
  else .text

/-- The value of a scalar of a kind. Of bytes it is only told that they can be read. -/
def Kind.read (kind : Kind) (s : List Char) : Except Flaw Value :=
  match kind with
  | .nothing => .ok .none
  | .bool => (readBool s).map .bool
  | .int => (readInteger s).map .int
  | .float => (readFloat s).map .float
  | .text => .ok (.text (String.ofList s))
  | .moment =>
    match readStamp? (Value.dropFinalLineFeed s) with
    | some stamp => stamp.toValue
    | none => .error .notAMoment
  | .bytes => if areBytes s then .ok .none else .error .malformed
  | _ => .error .malformed

end Yaml
end Switchboard
