import Switchboard.Text.Digit
import Switchboard.Text.Split

/-!
# Tokens of YAML documents

A document is cut into tokens from left to right. Block structure shows in indentation, so tokens
that open and close blocks are added where the indentation changes. Whether a token is the key of
a mapping is known only when a colon follows on its line; then a key token is put before it.
-/

namespace Switchboard
namespace Yaml

open Text

/-- Why a text is no document, or has no value, or has one that is not plain: bytes, a set or pairs
are in it, or a part of it contains itself. -/
inductive Flaw
  | malformed
  | badValue
  | unknownWord (word : List Char)
  | notAMoment
  | notPlain
  deriving DecidableEq, Repr

/-- A token. A tag has the handle before its last exclamation mark, none if it is written in full
or alone. -/
inductive Token
  | version (major : Nat)
  | tagHandle (handle : List Char) (lead : List Char)
  | otherDirective
  | documentStart
  | documentEnd
  | blockSequenceStart
  | blockMappingStart
  | blockEnd
  | flowSequenceStart
  | flowSequenceEnd
  | flowMappingStart
  | flowMappingEnd
  | blockEntry
  | flowEntry
  | key
  | value
  | alias (name : List Char)
  | anchor (name : List Char)
  | tag (handle : Option (List Char)) (suffix : List Char)
  | scalar (text : List Char) (isPlain : Bool)
  deriving DecidableEq, Repr, Inhabited

/-! ## Characters -/

def isAllowed (c : Char) : Bool :=
  let n := c.toNat
  n == 9 || n == 10 || n == 13 || (0x20 ≤ n && n ≤ 0x7e) || n == 0x85 ||
    (0xa0 ≤ n && n ≤ 0xd7ff) || (0xe000 ≤ n && n ≤ 0xfffd) || 0x10000 ≤ n

/-- The character that stands for the end of the text. -/
def endMark : Char := '\x00'

def isBreak (c : Char) : Bool :=
  c == '\n' || c == '\r' || c.toNat == 0x85 || c.toNat == 0x2028 || c.toNat == 0x2029

/-- Whether `c` ends a line. -/
def endsLine (c : Char) : Bool :=
  c == endMark || isBreak c

/-- Whether `c` ends a line or is a space. -/
def endsWord (c : Char) : Bool :=
  c == ' ' || endsLine c

/-- Whether `c` ends a line or is a space or tab. -/
def endsToken (c : Char) : Bool :=
  c == '\t' || endsWord c

/-- Whether `c` may stand in the name of an anchor, directive or handle. -/
def isNamePart (c : Char) : Bool :=
  c.isAlphanum || c == '-' || c == '_'

/-! ## Scanning -/

/-- A token that may turn out to be a key. -/
structure PossibleKey where
  token : Nat
  required : Bool
  index : Nat
  line : Nat
  column : Nat
  deriving Repr

/-- The text left with the position in it, the tokens so far, the indentation of the open blocks,
and the possible keys by the number of open brackets. -/
structure Scan where
  rest : List Char
  index : Nat
  line : Nat
  column : Nat
  brackets : Nat
  tokens : Array Token
  indent : Int
  indents : List Int
  keyAllowed : Bool
  keys : List (Nat × PossibleKey)

/-- Scanning a document: it may fail, and it moves on in the text. -/
abbrev Scanner := StateT Scan (Except Flaw)

namespace Scanner

def fail {α : Type} : Scanner α :=
  throw .malformed

def demand (condition : Bool) : Scanner Unit :=
  if condition then pure () else fail

/-- The character `n` places on. -/
def peekAt (n : Nat) : Scanner Char :=
  return ((← get).rest.drop n).head?.getD endMark

def peek : Scanner Char :=
  return (← get).rest.head?.getD endMark

/-- The state one character on. -/
def stepOver (s : Scan) : Scan :=
  match s.rest with
  | [] => s
  | c :: rest =>
    let breaks := c == '\n' || c.toNat == 0x85 || c.toNat == 0x2028 || c.toNat == 0x2029 ||
      (c == '\r' && rest.head? != some '\n')
    if breaks then { s with rest := rest, index := s.index + 1, line := s.line + 1, column := 0 }
    else if c.toNat == 0xfeff then { s with rest := rest, index := s.index + 1 }
    else { s with rest := rest, index := s.index + 1, column := s.column + 1 }

/-- The state `n` characters on. -/
def stepsOver : Nat → Scan → Scan
  | 0, s => s
  | n + 1, s => stepsOver n (stepOver s)

def forward (n : Nat) : Scanner Unit :=
  modify (stepsOver n)

/-- Takes the characters up to the first that fails the test. -/
def takeWhile (test : Char → Bool) : Scanner (List Char) := do
  let taken := (← get).rest.takeWhile test
  forward taken.length
  return taken

def remaining : Scanner Nat :=
  return (← get).rest.length

def push (token : Token) : Scanner Unit :=
  modify fun s => { s with tokens := s.tokens.push token }

/-- Whether brackets are open. -/
def inFlow : Scanner Bool :=
  return (← get).brackets != 0

/-- Takes a line break, if one is at the cursor. -/
def lineBreak : Scanner (List Char) := do
  let c ← peek
  if c == '\r' && (← peekAt 1) == '\n' then
    forward 2
    return ['\n']
  else if isBreak c then
    forward 1
    return [if c.toNat == 0x2028 || c.toNat == 0x2029 then c else '\n']
  else return []

/-- Whether a line with document marks starts at the cursor. -/
def atDocumentMark : Scanner Bool := do
  let lead := (← get).rest.take 3
  return (lead == ['-', '-', '-'] || lead == ['.', '.', '.']) && endsToken (← peekAt 3)

/-! ### Keys and indentation -/

/-- Drops possible keys that are on an earlier line or too far back. -/
def dropStaleKeys : Scanner Unit := do
  let s ← get
  let stale (k : PossibleKey) : Bool := k.line != s.line || 1024 < s.index - k.index
  demand (!s.keys.any fun (_, k) => stale k && k.required)
  set { s with keys := s.keys.filter fun (_, k) => !stale k }

/-- Drops the possible key inside the open brackets. -/
def dropKey : Scanner Unit := do
  let s ← get
  demand (!s.keys.any fun (level, k) => level == s.brackets && k.required)
  set { s with keys := s.keys.filter fun (level, _) => level != s.brackets }

/-- Notes that what follows may be a key. -/
def noteKey : Scanner Unit := do
  let s ← get
  if s.keyAllowed then
    dropKey
    let required := s.brackets == 0 && s.indent == s.column
    let k : PossibleKey := ⟨s.tokens.size, required, s.index, s.line, s.column⟩
    modify fun s => { s with keys := (s.brackets, k) :: s.keys }

def allowKey (allowed : Bool) : Scanner Unit :=
  modify fun s => { s with keyAllowed := allowed }

/-- Closes the blocks that are indented further than the column. -/
def unwindFrom (column : Int) : List Int → Int → Array Token → List Int × Int × Array Token
  | [], indent, tokens => ([], indent, tokens)
  | outer :: indents, indent, tokens =>
    if column < indent then unwindFrom column indents outer (tokens.push .blockEnd)
    else (outer :: indents, indent, tokens)

/-- Closes the blocks that are indented further than the column, unless brackets are open. -/
def unwind (column : Int) : Scanner Unit :=
  modify fun s =>
    if s.brackets != 0 then s
    else
      let (indents, indent, tokens) := unwindFrom column s.indents s.indent s.tokens
      { s with indents := indents, indent := indent, tokens := tokens }

/-- Opens a block at the column, if it is indented further than the one around it. -/
def addIndent (column : Nat) : Scanner Bool := do
  let s ← get
  if s.indent < column then
    set { s with indents := s.indent :: s.indents, indent := (column : Int) }
    return true
  else return false

/-! ### Blanks -/

def skipBlanks : Nat → Scanner Unit
  | 0 => pure ()
  | fuel + 1 => do
    let _ ← takeWhile (· == ' ')
    if (← peek) == '#' then
      let _ ← takeWhile fun c => !isBreak c
    if (← lineBreak) != [] then
      if !(← inFlow) then allowKey true
      skipBlanks fuel

/-- Skips a byte order mark at the start of the text, spaces, comments and line breaks. -/
def skipToToken : Scanner Unit := do
  if (← get).index == 0 && (← peek).toNat == 0xfeff then forward 1
  skipBlanks ((← remaining) + 1)

/-! ### Directives, names and tags -/

/-- The end of a line with nothing but spaces and a comment. -/
def endOfLine : Scanner Unit := do
  let _ ← takeWhile (· == ' ')
  if (← peek) == '#' then
    let _ ← takeWhile fun c => !isBreak c
  demand (endsLine (← peek))
  let _ ← lineBreak

def number : Scanner Nat := do
  let digits ← takeWhile Char.isDigit
  demand (!digits.isEmpty)
  return digits.foldl (fun n d => 10 * n + (d.toNat - 48)) 0

def isUriChar (c : Char) : Bool :=
  c.isAlphanum || "-;/?:@&=+$,_.!~*'()[]%".toList.contains c

def tagText : Scanner (List Char) := do
  let text ← takeWhile isUriChar
  demand (!text.isEmpty)
  return text

/-- A handle between exclamation marks. -/
def handle : Scanner (List Char) := do
  demand ((← peek) == '!')
  forward 1
  let name ← takeWhile isNamePart
  if (← peek) == '!' then
    forward 1
    return '!' :: name ++ ['!']
  else
    demand name.isEmpty
    return ['!']

def directive : Scanner Token := do
  forward 1
  let name ← takeWhile isNamePart
  demand (!name.isEmpty && endsWord (← peek))
  let token ←
    if name == "YAML".toList then do
      let _ ← takeWhile (· == ' ')
      let major ← number
      demand ((← peek) == '.')
      forward 1
      let _ ← number
      demand (endsWord (← peek))
      pure (Token.version major)
    else if name == "TAG".toList then do
      let _ ← takeWhile (· == ' ')
      let h ← handle
      demand ((← peek) == ' ')
      let _ ← takeWhile (· == ' ')
      let lead ← tagText
      demand (endsWord (← peek))
      pure (Token.tagHandle h lead)
    else do
      let _ ← takeWhile fun c => !isBreak c
      pure Token.otherDirective
  endOfLine
  return token

def anchorName : Scanner (List Char) := do
  forward 1
  let name ← takeWhile isNamePart
  demand (!name.isEmpty)
  let c ← peek
  demand (endsToken c || c == '\x7d' || "?:,]%@`".toList.contains c)
  return name

def tag : Scanner Token := do
  let c ← peekAt 1
  let token ←
    if c == '<' then do
      forward 2
      let suffix ← tagText
      demand ((← peek) == '>')
      forward 1
      pure (Token.tag none suffix)
    else if endsToken c then do
      forward 1
      pure (Token.tag none ['!'])
    else do
      let word := ((← get).rest.drop 1).takeWhile fun c => !endsWord c
      let h ← if word.contains '!' then handle else do
        forward 1
        pure ['!']
      let suffix ← tagText
      pure (Token.tag (some h) suffix)
  demand (endsWord (← peek))
  return token

/-! ### Block scalars -/

/-- What is done with line breaks at the end of a block scalar. -/
inductive Chomping
  | strip
  | clip
  | keep
  deriving DecidableEq, Repr

/-- The chomping that a sign asks for. -/
def chomping? : Char → Option Chomping
  | '+' => some .keep
  | '-' => some .strip
  | _ => none

/-- The chomping sign at the cursor, if there is one. -/
def takeChomping : Scanner (Option Chomping) := do
  match chomping? (← peek) with
  | some c =>
    forward 1
    return some c
  | none => return none

/-- The indentation digit at the cursor, if there is one; it cannot be zero. -/
def takeIncrement : Scanner (Option Nat) := do
  let c ← peek
  if c.isDigit then
    demand (c != '0')
    forward 1
    return some (c.toNat - 48)
  else return none

/-- The signs behind the indicator of a block scalar, in either order. -/
def blockSigns : Scanner (Chomping × Option Nat) := do
  let before ← takeChomping
  let increment ← takeIncrement
  let after ← if before.isNone && increment.isSome then takeChomping else pure none
  demand (endsWord (← peek))
  return ((before.or after).getD .clip, increment)

/-- Blank lines before the first line of a block scalar, and the greatest indentation seen. -/
def leadingBreaks : Nat → Nat → List Char → Scanner (List Char × Nat)
  | 0, deepest, breaks => return (breaks, deepest)
  | fuel + 1, deepest, breaks => do
    let c ← peek
    if c == ' ' then
      forward 1
      leadingBreaks fuel (max deepest (← get).column) breaks
    else if isBreak c then leadingBreaks fuel deepest (breaks ++ (← lineBreak))
    else return (breaks, deepest)

def spacesTo (column : Nat) : Nat → Scanner Unit
  | 0 => pure ()
  | fuel + 1 => do
    if (← get).column < column && (← peek) == ' ' then
      forward 1
      spacesTo column fuel

/-- Blank lines inside a block scalar, and the indentation of the next line. -/
def innerBreaks (column : Nat) : Nat → List Char → Scanner (List Char)
  | 0, breaks => return breaks
  | fuel + 1, breaks => do
    spacesTo column column
    if isBreak (← peek) then innerBreaks column fuel (breaks ++ (← lineBreak))
    else return breaks

/-- The lines of a block scalar: the text so far, the blank lines before the cursor, and the last
line break. -/
def blockLines (folded : Bool) (column : Nat) :
    Nat → List Char → List Char → List Char → Scanner (List Char × List Char × List Char)
  | 0, text, breaks, last => return (text, breaks, last)
  | fuel + 1, text, breaks, last => do
    if (← get).column == column && (← peek) != endMark then
      let lead ← peek
      let line ← takeWhile fun c => !isBreak c
      let last ← lineBreak
      let text := text ++ breaks ++ line
      let breaks ← innerBreaks column ((← remaining) + 1) []
      let next ← peek
      if (← get).column == column && next != endMark then
        let joins := folded && last == ['\n'] && !(lead == ' ' || lead == '\t') &&
          !(next == ' ' || next == '\t')
        let between := if joins then (if breaks.isEmpty then [' '] else []) else last
        blockLines folded column fuel (text ++ between) breaks last
      else return (text, breaks, last)
    else return (text, breaks, last)

def blockScalar (folded : Bool) : Scanner Token := do
  forward 1
  let (chomping, increment) ← blockSigns
  endOfLine
  let least := max 1 ((← get).indent + 1).toNat
  let (breaks, column) ← match increment with
    | none => do
      let (breaks, deepest) ← leadingBreaks ((← remaining) + 1) 0 []
      pure (breaks, max least deepest)
    | some n => do
      let column := least + n - 1
      let breaks ← innerBreaks column ((← remaining) + 1) []
      pure (breaks, column)
  let (text, breaks, last) ← blockLines folded column ((← remaining) + 1) [] breaks []
  match chomping with
  | .strip => return .scalar text false
  | .clip => return .scalar (text ++ last) false
  | .keep => return .scalar (text ++ last ++ breaks) false

/-! ### Quoted scalars -/

def escapeCode? : Char → Option Nat
  | '0' => some 0
  | 'a' => some 7
  | 'b' => some 8
  | 't' => some 9
  | '\t' => some 9
  | 'n' => some 10
  | 'v' => some 11
  | 'f' => some 12
  | 'r' => some 13
  | 'e' => some 27
  | ' ' => some 32
  | '"' => some 34
  | '\\' => some 92
  | '/' => some 47
  | 'N' => some 0x85
  | '_' => some 0xa0
  | 'L' => some 0x2028
  | 'P' => some 0x2029
  | _ => none

/-- The number of hexadecimal digits that a letter behind a backslash announces. -/
def escapeLength? : Char → Option Nat
  | 'x' => some 2
  | 'u' => some 4
  | 'U' => some 8
  | _ => none

/-- Line breaks and blanks between lines of a quoted scalar. -/
def quotedBreaks : Nat → List Char → Scanner (List Char)
  | 0, breaks => return breaks
  | fuel + 1, breaks => do
    demand (!(← atDocumentMark))
    let _ ← takeWhile fun c => c == ' ' || c == '\t'
    if isBreak (← peek) then quotedBreaks fuel (breaks ++ (← lineBreak)) else return breaks

def escape : Scanner (List Char) := do
  let c ← peek
  match escapeCode? c, escapeLength? c with
  | some code, _ =>
    forward 1
    return [Char.ofNat code]
  | none, some count =>
    forward 1
    let digits := (← get).rest.take count
    demand (digits.length == count && digits.all fun c => (hexValue? c).isSome)
    let code := digits.foldl (fun n d => 16 * n + (hexValue? d).getD 0) 0
    if 0x10ffff < code then throw .badValue
    forward count
    return [Char.ofNat code]
  | none, none =>
    demand (isBreak c)
    let _ ← lineBreak
    quotedBreaks ((← remaining) + 1) []

/-- Blanks inside a quoted scalar; a line break is folded. -/
def quotedBlanks : Scanner (List Char) := do
  let blanks ← takeWhile fun c => c == ' ' || c == '\t'
  let c ← peek
  demand (c != endMark)
  if isBreak c then
    let first ← lineBreak
    let breaks ← quotedBreaks ((← remaining) + 1) []
    let lead := if first != ['\n'] then first else if breaks.isEmpty then [' '] else []
    return lead ++ breaks
  else return blanks

/-- The text of a quoted scalar up to its closing quote. -/
def quotedText (double : Bool) : Nat → List Char → Scanner (List Char)
  | 0, _ => fail
  | fuel + 1, text => do
    let c ← peek
    if c == endMark then fail
    else if !double && c == '\'' then
      if (← peekAt 1) == '\'' then
        forward 2
        quotedText double fuel (text ++ ['\''])
      else return text
    else if double && c == '"' then return text
    else if double && c == '\\' then
      forward 1
      quotedText double fuel (text ++ (← escape))
    else if c == ' ' || c == '\t' || isBreak c then
      quotedText double fuel (text ++ (← quotedBlanks))
    else
      forward 1
      quotedText double fuel (text ++ [c])

def quotedScalar (double : Bool) : Scanner Token := do
  forward 1
  let text ← quotedText double ((← remaining) + 1) []
  forward 1
  return .scalar text false

/-! ### Plain scalars -/

def isFlowSign (c : Char) : Bool :=
  c == ',' || c == '[' || c == ']' || c == '\x7b' || c == '\x7d'

/-- The characters of a plain scalar up to the first that cannot belong to it. -/
def plainRun (flow : Bool) : List Char → List Char
  | [] => []
  | c :: rest =>
    let next := rest.head?.getD endMark
    if endsToken c || (c == ':' && (endsToken next || (flow && isFlowSign next))) ||
        (flow && (isFlowSign c || c == '?')) then []
    else c :: plainRun flow rest

/-- Line breaks between lines of a plain scalar; nothing if a document mark follows. -/
def plainBreaks : Nat → List Char → Scanner (Option (List Char))
  | 0, breaks => return some breaks
  | fuel + 1, breaks => do
    let c ← peek
    if c == ' ' then
      forward 1
      plainBreaks fuel breaks
    else if isBreak c then
      let b ← lineBreak
      if ← atDocumentMark then return none
      plainBreaks fuel (breaks ++ b)
    else return some breaks

/-- Blanks inside a plain scalar; a line break is folded. -/
def plainBlanks : Scanner (List Char) := do
  let blanks ← takeWhile (· == ' ')
  if isBreak (← peek) then
    let first ← lineBreak
    allowKey true
    if ← atDocumentMark then return []
    match ← plainBreaks ((← remaining) + 1) [] with
    | none => return []
    | some breaks =>
      let lead := if first != ['\n'] then first else if breaks.isEmpty then [' '] else []
      return lead ++ breaks
  else return blanks

/-- The text of a plain scalar; `blanks` stand between the text so far and the cursor. -/
def plainText (least : Int) : Nat → List Char → List Char → Scanner (List Char)
  | 0, text, _ => return text
  | fuel + 1, text, blanks => do
    if (← peek) == '#' then return text
    let run := plainRun (← inFlow) (← get).rest
    if run.isEmpty then return text
    allowKey false
    forward run.length
    let text := text ++ blanks ++ run
    let blanks ← plainBlanks
    let column : Int := (← get).column
    if blanks.isEmpty || (← peek) == '#' || (!(← inFlow) && column < least) then return text
    plainText least fuel text blanks

def plainScalar : Scanner Token := do
  let least := (← get).indent + 1
  return .scalar (← plainText least ((← remaining) + 1) [] []) true

def startsPlain : Scanner Bool := do
  let c ← peek
  let next ← peekAt 1
  let sign := endsToken c || "-?:,[]#&*!|>'\"%@`".toList.contains c || c == '\x7b' || c == '\x7d'
  return !sign ||
    (!endsToken next && (c == '-' || (!(← inFlow) && (c == '?' || c == ':'))))

/-! ### Tokens -/

def openBracket (token : Token) : Scanner Unit := do
  noteKey
  modify fun s => { s with brackets := s.brackets + 1 }
  allowKey true
  forward 1
  push token

/-- Closes a bracket, which must be open. -/
def closeBracket (token : Token) : Scanner Unit := do
  dropKey
  demand (← inFlow)
  modify fun s => { s with brackets := s.brackets - 1 }
  allowKey false
  forward 1
  push token

/-- Opens a block with the token, if the cursor is indented further and no bracket is open. -/
def openBlock (token : Token) : Scanner Unit := do
  if !(← inFlow) then
    let s ← get
    demand s.keyAllowed
    if ← addIndent s.column then push token

def blockEntry : Scanner Unit := do
  openBlock .blockSequenceStart
  allowKey true
  dropKey
  forward 1
  push .blockEntry

/-- A key that is marked as one. -/
def markedKey : Scanner Unit := do
  openBlock .blockMappingStart
  allowKey (!(← inFlow))
  dropKey
  forward 1
  push .key

def insertToken (number : Nat) (token : Token) : Scanner Unit :=
  modify fun s => { s with tokens := s.tokens.insertIdxIfInBounds number token }

def insertOrPush (number : Nat) (token : Token) : Scanner Unit := do
  if number < (← get).tokens.size then insertToken number token else push token

/-- The value of a key. If a possible key stands before it, it is one. -/
def keyValue : Scanner Unit := do
  let s ← get
  match s.keys.find? fun (level, _) => level == s.brackets with
  | some (_, k) =>
    set { s with keys := s.keys.filter fun (level, _) => level != s.brackets }
    insertOrPush k.token .key
    if !(← inFlow) then
      if ← addIndent k.column then insertOrPush k.token .blockMappingStart
    allowKey false
  | none =>
    openBlock .blockMappingStart
    allowKey (!(← inFlow))
    dropKey
  forward 1
  push .value

def documentMark (token : Token) : Scanner Unit := do
  unwind (-1)
  dropKey
  allowKey false
  forward 3
  push token

/-- A token that may be a key and is followed by none. -/
def keyToken (scan : Scanner Token) : Scanner Unit := do
  noteKey
  allowKey false
  push (← scan)

/-- One token of the text, or nothing at its end. -/
def next : Scanner Bool := do
  skipToToken
  dropStaleKeys
  unwind (← get).column
  let c ← peek
  let following ← peekAt 1
  let flow ← inFlow
  let atStart := (← get).column == 0
  if c == endMark then
    unwind (-1)
    dropKey
    return false
  if c == '%' && atStart then
    unwind (-1)
    dropKey
    allowKey false
    push (← directive)
  else if atStart && (← atDocumentMark) then
    documentMark (if c == '-' then .documentStart else .documentEnd)
  else if c == '[' then openBracket .flowSequenceStart
  else if c == '\x7b' then openBracket .flowMappingStart
  else if c == ']' then closeBracket .flowSequenceEnd
  else if c == '\x7d' then closeBracket .flowMappingEnd
  else if c == ',' then
    allowKey true
    dropKey
    forward 1
    push .flowEntry
  else if c == '-' && endsToken following then blockEntry
  else if c == '?' && (flow || endsToken following) then markedKey
  else if c == ':' && (flow || endsToken following) then keyValue
  else if c == '*' then keyToken (return .alias (← anchorName))
  else if c == '&' then keyToken (return .anchor (← anchorName))
  else if c == '!' then keyToken tag
  else if (c == '|' || c == '>') && !flow then
    allowKey true
    dropKey
    push (← blockScalar (c == '>'))
  else if c == '\'' then keyToken (quotedScalar false)
  else if c == '"' then keyToken (quotedScalar true)
  else if ← startsPlain then keyToken plainScalar
  else fail
  return true

def all : Nat → Scanner Unit
  | 0 => fail
  | fuel + 1 => do
    if ← next then all fuel

end Scanner

def tokensOf (text : List Char) : Except Flaw (List Token) :=
  if text.all isAllowed then
    let start : Scan := ⟨text, 0, 0, 0, 0, #[], -1, [], true, []⟩
    ((Scanner.all (text.length + 2)).run start).map fun (_, s) => s.tokens.toList
  else .error .malformed

end Yaml
end Switchboard
