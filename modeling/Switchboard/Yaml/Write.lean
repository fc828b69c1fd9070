import Switchboard.Number.Shortest
import Switchboard.Yaml.Form

/-!
# Writing YAML documents

Mappings and lists are written as blocks, one entry or item a line, and empty ones in brackets. A
scalar is written as it is where that reads back as the same, in single quotes where they do, and
in double quotes with escapes otherwise. Long lines are broken at single spaces.
-/

namespace Switchboard
namespace Yaml

open Text

/-! ## The sheet -/

/-- What is written so far, in reverse, the column of the cursor, whether a space is before it, and
whether there is nothing but indentation before it on its line. -/
structure Sheet where
  written : List Char
  column : Nat
  isSpaced : Bool
  isIndented : Bool

/-- The column behind which lines are broken. -/
def lineWidth : Nat := 80

namespace Sheet

def empty : Sheet := ⟨[], 0, true, true⟩

def put (s : List Char) (sheet : Sheet) : Sheet :=
  { sheet with written := s.reverse ++ sheet.written, column := sheet.column + s.length }

def breakLine (sheet : Sheet) : Sheet :=
  ⟨'\n' :: sheet.written, 0, true, true⟩

/-- Goes to a column, on a new line if something is written on this one. -/
def indentTo (indent : Nat) (sheet : Sheet) : Sheet :=
  let fresh :=
    if !sheet.isIndented || indent < sheet.column || (sheet.column == indent && !sheet.isSpaced)
    then sheet.breakLine else sheet
  if fresh.column < indent then
    { fresh.put (List.replicate (indent - fresh.column) ' ') with isSpaced := true }
  else fresh

/-- Notes that the cursor is inside of a word. -/
def inWord (sheet : Sheet) : Sheet :=
  { sheet with isSpaced := false, isIndented := false }

/-- Writes a sign behind a space. -/
def sign (s : List Char) (sheet : Sheet) : Sheet :=
  { sheet.put (if sheet.isSpaced then s else ' ' :: s) with isSpaced := false, isIndented := false }

/-- Writes a sign behind what is there. -/
def closeSign (s : List Char) (sheet : Sheet) : Sheet :=
  { sheet.put s with isSpaced := false, isIndented := false }

/-- Writes a sign behind a space; what follows still counts as the first of its line. -/
def leadSign (s : List Char) (sheet : Sheet) : Sheet :=
  { sheet.put (if sheet.isSpaced then s else ' ' :: s) with isSpaced := false }

end Sheet

/-! ## Looks of scalars -/

/-- What is in a text that bears on the way it can be written. -/
structure Looks where
  hasBreaks : Bool
  isPlain : Bool
  isQuotable : Bool
  deriving DecidableEq, Repr

/-- Whether `c` cannot start a plain scalar. -/
def isReserved (c : Char) : Bool :=
  "#,[]&*!|>'\"%@`".toList.contains c || c == '\x7b' || c == '\x7d'

/-- Whether there is a colon before a blank, or a number sign behind one. `before` is the character
before the text. -/
def hasInnerSign (before : Char) : List Char → Bool
  | [] => false
  | c :: rest =>
    (c == ':' && endsToken (rest.head?.getD endMark)) || (c == '#' && endsToken before) ||
      hasInnerSign c rest

/-- Whether the text would be taken for something else at its start or inside. -/
def hasSigns (s : List Char) : Bool :=
  s.take 3 == ['-', '-', '-'] || s.take 3 == ['.', '.', '.'] ||
    match s with
    | [] => false
    | c :: rest =>
      let alone := endsToken (rest.head?.getD endMark)
      isReserved c || (alone && (c == '?' || c == ':' || c == '-')) || hasInnerSign c rest

/-- Whether `first` is somewhere right before `second`. -/
def hasPair (first second : Char) : List Char → Bool
  | a :: b :: rest => (a == first && b == second) || hasPair first second (b :: rest)
  | _ => false

/-- Whether `c` can be written without an escape. -/
def isSimple (c : Char) : Bool :=
  c == '\n' || (0x20 ≤ c.toNat && c.toNat ≤ 0x7e)

def isSpaceOrBreak (c : Char) : Bool :=
  c == ' ' || (c != '\r' && isBreak c)

def Looks.ofText (s : List Char) : Looks :=
  let hasBreaks := s.any fun c => c != '\r' && isBreak c
  let isQuotable := s.all isSimple && !hasPair ' ' '\n' s && !hasPair '\n' ' ' s
  let hasEdges := ((s.head?.map isSpaceOrBreak).getD false) ||
    ((s.getLast?.map isSpaceOrBreak).getD false)
  ⟨hasBreaks, isQuotable && !hasBreaks && !hasEdges && !hasSigns s, isQuotable⟩

/-! ## Scalars -/

/-- Cuts a text into runs of spaces, of line feeds and of other characters. -/
def runsOf : List Char → List (List Char)
  | [] => []
  | c :: rest =>
    match runsOf rest with
    | [] => [[c]]
    | [] :: runs => [c] :: runs
    | (d :: run) :: runs =>
      if (c == ' ') == (d == ' ') && (c == '\n') == (d == '\n') then (c :: d :: run) :: runs
      else [c] :: (d :: run) :: runs

/-- Whether a line is broken at a run of spaces. -/
def breaksAt (split : Bool) (run : List Char) (sheet : Sheet) : Bool :=
  split && run == [' '] && lineWidth < sheet.column

def plainRuns (indent : Nat) (split : Bool) : List (List Char) → Sheet → Sheet
  | [], sheet => sheet
  | run :: runs, sheet =>
    plainRuns indent split runs
      (if breaksAt split run sheet then (sheet.indentTo indent).inWord else sheet.put run)

def writePlain (indent : Nat) (split : Bool) (s : List Char) (sheet : Sheet) : Sheet :=
  plainRuns indent split (runsOf s) (sheet.sign [])

def doubleQuotes (s : List Char) : List Char :=
  s.flatMap fun c => if c == '\'' then ['\'', '\''] else [c]

/-- Writes the runs of a scalar in single quotes; no line is broken at its first or last run. -/
def quotedRuns (indent : Nat) (split isFirst : Bool) : List (List Char) → Sheet → Sheet
  | [], sheet => sheet
  | run :: runs, sheet =>
    let next :=
      if run.head? == some '\n' then
        ((List.replicate run.length ()).foldl (fun sheet _ => sheet.breakLine)
          sheet.breakLine).indentTo indent
      else if breaksAt split run sheet && !isFirst && !runs.isEmpty then sheet.indentTo indent
      else sheet.put (doubleQuotes run)
    quotedRuns indent split false runs next

def writeQuoted (indent : Nat) (split : Bool) (s : List Char) (sheet : Sheet) : Sheet :=
  (quotedRuns indent split true (runsOf s) (sheet.sign ['\''])).closeSign ['\'']

def escapeLetter? (c : Char) : Option Char :=
  match c.toNat with
  | 0 => some '0'
  | 7 => some 'a'
  | 8 => some 'b'
  | 9 => some 't'
  | 10 => some 'n'
  | 11 => some 'v'
  | 12 => some 'f'
  | 13 => some 'r'
  | 27 => some 'e'
  | 34 => some '"'
  | 92 => some '\\'
  | 0x85 => some 'N'
  | 0xa0 => some '_'
  | 0x2028 => some 'L'
  | 0x2029 => some 'P'
  | _ => none

/-- The escape of a character, if it needs one. -/
def escapeOf? (c : Char) : Option (List Char) :=
  let n := c.toNat
  if 0x20 ≤ n && n ≤ 0x7e && c != '"' && c != '\\' then none
  else
    match escapeLetter? c with
    | some letter => some ['\\', letter]
    | none =>
      if n ≤ 0xff then some ('\\' :: 'x' :: hexText hexDigit 2 n)
      else if n ≤ 0xffff then some ('\\' :: 'u' :: hexText hexDigit 4 n)
      else some ('\\' :: 'U' :: hexText hexDigit 8 n)

/-- Breaks the line inside of double quotes; a space at the start of the next line is escaped. -/
def breakEscaped (indent : Nat) (next : Option Char) (sheet : Sheet) : Sheet :=
  let fresh := ((sheet.put ['\\']).indentTo indent).inWord
  if next == some ' ' then fresh.put ['\\'] else fresh

/-- Writes the characters of a scalar in double quotes. The line is broken before a space or behind
an escape, but not at the first character or the last. -/
def escapedChars (indent : Nat) (split isFirst afterEscape : Bool) : List Char → Sheet → Sheet
  | [], sheet => sheet
  | c :: rest, sheet =>
    let mayBreak := split && !isFirst && !rest.isEmpty
    match escapeOf? c with
    | some escape =>
      let sheet := sheet.put escape
      let next :=
        if mayBreak && lineWidth + 1 < sheet.column then breakEscaped indent rest.head? sheet
        else sheet
      escapedChars indent split false true rest next
    | none =>
      let sheet :=
        if mayBreak && (c == ' ' || afterEscape) && lineWidth < sheet.column then
          breakEscaped indent (some c) sheet
        else sheet
      escapedChars indent split false false rest (sheet.put [c])

def writeEscaped (indent : Nat) (split : Bool) (s : List Char) (sheet : Sheet) : Sheet :=
  (escapedChars indent split true false s (sheet.sign ['"'])).closeSign ['"']

/-- The text of a number that is no integer. It has a point wherever it has an exponent. -/
def floatText (x : Binary64) : List Char :=
  match x with
  | .nan => ".nan".toList
  | .infinite negative => (if negative then ['-'] else []) ++ ".inf".toList
  | x =>
    let s := x.text
    if s.contains '.' then s
    else s.flatMap fun c => if c == 'e' then ['.', '0', 'e'] else [c]

def scalarOf? : Value → Option (Kind × List Char)
  | .none => some (.nothing, "null".toList)
  | .bool b => some (.bool, (if b then "true" else "false").toList)
  | .int n => some (.int, intText n)
  | .float x => some (.float, floatText x)
  | .text s => some (.text, s.toList)
  | .calendar s => some (.moment, s.toList)
  | _ => none

/-- Writes a scalar. A key on one line with its value is not broken. -/
def writeScalar (indent : Nat) (isSimpleKey : Bool) (kind : Kind) (s : List Char) (sheet : Sheet) :
    Sheet :=
  let looks := Looks.ofText s
  let split := !isSimpleKey
  if Kind.ofPlain s == kind && looks.isPlain then writePlain indent split s sheet
  else if looks.isQuotable && !(isSimpleKey && looks.hasBreaks) then
    writeQuoted indent split s sheet
  else writeEscaped indent split s sheet

/-! ## Collections -/

def tagLength : Kind → Nat
  | .nothing => 6
  | .bool => 6
  | .float => 7
  | .moment => 11
  | _ => 5

/-- Whether a key is written on one line with its value: it is short, not empty, and has no line
breaks. -/
def isSimpleKey (key : Value) : Bool :=
  match scalarOf? key with
  | some (kind, s) => tagLength kind + s.length < 128 && !s.isEmpty && !(Looks.ofText s).hasBreaks
  | none => false

mutual

/-- Writes a value. `indent` is the indentation of the block around it; `inMapping` tells whether
that is a mapping, in which a list need not be indented further. -/
def writeValue (indent : Nat) (inMapping isSimpleKey : Bool) : Value → Sheet → Sheet
  | .list [], sheet => (sheet.sign ['[']).closeSign [']']
  | .list (item :: items), sheet =>
    writeItems (if inMapping && !sheet.isIndented then indent else indent + 2) (item :: items) sheet
  | .dict [], sheet => (sheet.sign ['\x7b']).closeSign ['\x7d']
  | .dict (entry :: entries), sheet => writeEntries (indent + 2) (entry :: entries) sheet
  | value, sheet =>
    match scalarOf? value with
    | some (kind, s) => writeScalar (indent + 2) isSimpleKey kind s sheet
    | none => sheet

def writeItems (indent : Nat) : List Value → Sheet → Sheet
  | [], sheet => sheet
  | item :: items, sheet =>
    writeItems indent items
      (writeValue indent false false item ((sheet.indentTo indent).leadSign ['-']))

def writeEntries (indent : Nat) : List (Value × Value) → Sheet → Sheet
  | [], sheet => sheet
  | (key, value) :: entries, sheet =>
    let start := sheet.indentTo indent
    let atValue :=
      if isSimpleKey key then (writeValue indent true true key start).closeSign [':']
      else
        let keyed := writeValue indent true false key (start.leadSign ['?'])
        (keyed.indentTo indent).leadSign [':']
    writeEntries indent entries (writeValue indent true false value atValue)

end

def document (entries : List (Value × Value)) : List Char :=
  if entries.isEmpty then "\x7b\x7d\n".toList
  else ((writeEntries 0 entries .empty).indentTo 0).written.reverse

end Yaml
end Switchboard
