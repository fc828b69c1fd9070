import Switchboard.Number.Numeral
import Switchboard.Pattern.Item
import Switchboard.Text.Identifier

/-!
# Reading patterns

The text of a pattern is a list of tokens: characters, and characters behind a backslash. It is
read from left to right; the groups opened so far, their names and the lengths of the closed
ones go along. `Compiled.ofText` is the pattern of a text or the reason why there is none.
-/

namespace Switchboard
namespace Pattern

open Text

/-! ## Tokens -/

/-- A character, a character behind a backslash, or a backslash with nothing behind it. -/
inductive Token
  | char (c : Char)
  | escaped (c : Char)
  | dangling
  deriving DecidableEq, Repr

def tokensOf : List Char → List Token
  | [] => []
  | ['\\'] => [.dangling]
  | '\\' :: c :: rest => .escaped c :: tokensOf rest
  | c :: rest => .char c :: tokensOf rest

def Token.text : Token → List Char
  | .char c => [c]
  | .escaped c => ['\\', c]
  | .dangling => ['\\']

/-- What is left to read and what is known so far: the lengths of the groups (none while a group
is open), their names, the number of groups at the start of the outermost look-behind, the
groups that conditions ask for, the flags of the whole pattern, and the calls that are under way. -/
structure Progress where
  rest : List Token
  widths : Array (Option Lengths)
  names : List (List Char × Nat)
  behind : Option Nat
  conditions : List Nat
  flags : Flags
  depth : Nat
  deriving Repr, Inhabited

/-- Reading a pattern: it may fail, and it moves on in the text. -/
abbrev Reader := StateT Progress (Except Flaw)

namespace Reader

def fail {α : Type} : Reader α :=
  throw .malformed

def demand (condition : Bool) : Reader Unit :=
  if condition then pure () else fail

/-- Reads what is so many calls further inside, if there is room for them. -/
def within {α : Type} (calls : Nat) (read : Reader α) : Reader α := do
  let depth := (← get).depth
  if callRoom < depth + calls then throw .tooDeep
  modify fun progress => { progress with depth := depth + calls }
  let result ← read
  modify fun progress => { progress with depth := depth }
  return result

def peek : Reader (Option Token) :=
  return (← get).rest.head?

/-- Takes the token at the cursor. A backslash at the end of the text is refused as soon as it is
at the cursor. -/
def advance : Reader (Option Token) := do
  match (← get).rest with
  | [] => return none
  | token :: rest =>
    demand (rest.head? != some .dangling)
    modify fun progress => { progress with rest := rest }
    return some token

def accept (c : Char) : Reader Bool := do
  if (← peek) = some (.char c) then
    let _ ← advance
    return true
  else return false

/-- The number of tokens left, which bounds every loop over them. -/
def remaining : Reader Nat :=
  return (← get).rest.length

/-- The values of the digits at the cursor, `most` of them at the most. -/
def digits (value? : Char → Option Nat) : Nat → Reader (List Nat)
  | 0 => return []
  | most + 1 => do
    match ← peek with
    | some (.char c) =>
      match value? c with
      | some d =>
        let _ ← advance
        return d :: (← digits value? most)
      | none => return []
    | _ => return []

/-- The text up to the stop character, which is taken too. -/
def textUntil (stop : Char) : Nat → Reader (List Char)
  | 0 => fail
  | fuel + 1 => do
    match ← advance with
    | none => fail
    | some token =>
      if token = .char stop then return []
      else return token.text ++ (← textUntil stop fuel)

def nameUntil (stop : Char) : Reader (List Char) := do
  textUntil stop ((← remaining) + 1)

/-- Skips what stands before the stop character and the character itself; the text may end
before it if `optional` is set. -/
def skipUntil (stop : Char) (optional : Bool) : Nat → Reader Unit
  | 0 => fail
  | fuel + 1 => do
    match ← advance with
    | none => demand optional
    | some token => if token = .char stop then pure () else skipUntil stop optional fuel

end Reader

open Reader

/-! ## Groups -/

def groupCount : Reader Nat :=
  return (← get).widths.size

/-- Opens a group and gives its number. -/
def openGroup (name? : Option (List Char)) : Reader Nat := do
  let progress ← get
  let number := progress.widths.size + 1
  let names ← match name? with
    | none => pure progress.names
    | some name =>
      demand (!progress.names.any (·.1 == name))
      pure ((name, number) :: progress.names)
  set { progress with widths := progress.widths.push none, names := names }
  return number

def widthOf (widths : Array (Option Lengths)) (number : Nat) : Lengths :=
  (widths[number - 1]?.getD none).getD ⟨0, 0⟩

def lengthsOf (node : Node) : Reader Lengths :=
  return node.lengths (widthOf (← get).widths)

def closeGroup (number : Nat) (content : Node) : Reader Unit := do
  let lengths ← lengthsOf content
  modify fun progress =>
    { progress with widths := progress.widths.setIfInBounds (number - 1) (some lengths) }

def isClosed (number : Nat) : Reader Bool :=
  return ((← get).widths[number - 1]?.getD none).isSome

/-- Inside a look-behind only groups may be asked for that were closed before it. -/
def checkBehind (number : Nat) : Reader Unit := do
  match (← get).behind with
  | none => pure ()
  | some count => demand ((← isClosed number) && number ≤ count)

def groupReference (flags : Flags) (number : Nat) : Reader Item := do
  demand (← isClosed number)
  checkBehind number
  return .other (.backref number flags.fold)

/-! ## Escapes -/

def octalValue? (c : Char) : Option Nat :=
  if '0' ≤ c ∧ c ≤ '7' then some (c.toNat - 48) else none

def asciiDigit? (c : Char) : Option Nat :=
  if c.isDigit then some (c.toNat - 48) else none

def ofDigits (base : Nat) (ds : List Nat) : Nat :=
  ds.foldl (fun n d => base * n + d) 0

/-- The code point of a letter that stands for a control character. -/
def controlCode? : Char → Option Nat
  | 'a' => some 7
  | 'b' => some 8
  | 'f' => some 12
  | 'n' => some 10
  | 'r' => some 13
  | 't' => some 9
  | 'v' => some 11
  | _ => none

def categoryMember? (flags : Flags) : Char → Option Member
  | 'd' => some (.category false flags.ascii .digit)
  | 'D' => some (.category true flags.ascii .digit)
  | 's' => some (.category false flags.ascii .blank)
  | 'S' => some (.category true flags.ascii .blank)
  | 'w' => some (.category false flags.ascii .word)
  | 'W' => some (.category true flags.ascii .word)
  | _ => none

def namedPlace? (flags : Flags) : Char → Option Anchor
  | 'A' => some .textStart
  | 'Z' => some .textEnd
  | 'b' => some (.wordEdge flags.ascii)
  | 'B' => some (.notWordEdge flags.ascii)
  | _ => none

/-- The code point with exactly `count` hexadecimal digits. -/
def hexCode (count : Nat) : Reader Nat := do
  let ds ← digits hexValue? count
  demand (ds.length = count)
  let code := ofDigits 16 ds
  demand (code ≤ 0x10ffff)
  return code

/-- The code point of an escape that means the same inside and outside of classes. -/
def commonEscape (c : Char) : Reader Nat := do
  match controlCode? c with
  | some code => return code
  | none =>
    if c = 'x' then hexCode 2
    else if c = 'u' then hexCode 4
    else if c = 'U' then hexCode 8
    else if c.isAlphanum then fail
    else return c.toNat

/-- The member of a class that an escape stands for. -/
def classEscape (flags : Flags) (c : Char) : Reader Member := do
  match categoryMember? flags c, octalValue? c with
  | some member, _ => return member
  | none, some d =>
    let code := ofDigits 8 (d :: (← digits octalValue? 2))
    demand (code ≤ 0o377)
    return .code code
  | none, none => return .code (← commonEscape c)

/-- What stands behind a backslash and a digit other than zero: three octal digits are a code
point, else one or two digits are the number of a group. -/
def numberEscape (flags : Flags) (first : Nat) : Reader Item := do
  match ← digits asciiDigit? 1 with
  | [] => groupReference flags first
  | second =>
    let pair := first :: second
    let third ← if pair.all (· < 8) then digits octalValue? 1 else pure []
    if third.isEmpty then groupReference flags (ofDigits 10 pair)
    else
      let code := ofDigits 8 (pair ++ third)
      demand (code ≤ 0o377)
      return .literal flags.fold code

def escapeItem (flags : Flags) (c : Char) : Reader Item := do
  match namedPlace? flags c, categoryMember? flags c, asciiDigit? c with
  | some place, _, _ => return .place place
  | none, some member, _ => return .set ⟨false, flags.fold, [member]⟩
  | none, none, some 0 => return .literal flags.fold (ofDigits 8 (← digits octalValue? 2))
  | none, none, some d => numberEscape flags d
  | none, none, none => return .literal flags.fold (← commonEscape c)

/-! ## Classes -/

def tokenMember (flags : Flags) : Token → Reader Member
  | .char c => return .code c.toNat
  | .escaped c => classEscape flags c
  | .dangling => fail

/-- The members of a class up to its closing bracket, which cannot be the first of them. -/
def classMembers (flags : Flags) (first : Bool) : Nat → Reader (List Member)
  | 0 => fail
  | fuel + 1 => do
    match ← advance with
    | none => fail
    | some token =>
      if token = .char ']' ∧ !first then return []
      else
        let low ← tokenMember flags token
        if ← accept '-' then
          match ← advance with
          | none => fail
          | some (.char ']') => return [low, .code '-'.toNat]
          | some token =>
            let high ← tokenMember flags token
            match low, high with
            | .code low, .code high =>
              demand (low ≤ high)
              return .range low high :: (← classMembers flags false fuel)
            | _, _ => fail
        else return low :: (← classMembers flags false fuel)

def readClass (flags : Flags) : Reader Item := do
  let negated ← accept '^'
  let members ← classMembers flags true ((← remaining) + 1)
  return classItem negated flags.fold members

/-! ## Repetitions -/

/-- A count with the given digits; too large a one is refused. -/
def checkedCount (ds : List Nat) : Reader Nat := do
  if Numeral.digitLimit < ds.length then throw (.countTooLong ds.length)
  let n := ofDigits 10 ds
  if countLimit ≤ n then throw .countTooLarge
  return n

/-- The counts in braces behind an opening brace, or nothing if the brace stands for itself. -/
def bracedCounts? : Reader (Option (Nat × Option Nat)) := do
  let start ← get
  if (← peek) = some (.char '\x7d') then return none
  let low ← digits asciiDigit? (← remaining)
  let comma ← accept ','
  let high ← if comma then digits asciiDigit? (← remaining) else pure low
  if ← accept '\x7d' then
    let least ← if low.isEmpty then pure 0 else checkedCount low
    if high.isEmpty then return some (least, none)
    let most ← checkedCount high
    demand (least ≤ most)
    return some (least, some most)
  else
    set start
    return none

/-- The counts of a repetition that starts with the character, or nothing if it starts none. -/
def counts? (c : Char) : Reader (Option (Nat × Option Nat)) :=
  if c = '?' then return some (0, some 1)
  else if c = '*' then return some (0, none)
  else if c = '+' then return some (1, none)
  else if c = '\x7b' then bracedCounts?
  else return none

/-- The appetite that a mark behind the counts asks for. -/
def appetite : Reader Appetite := do
  if ← accept '?' then return .lazy
  if ← accept '+' then return .possessive
  return .greedy

/-- The items with the last one repeated; the items are in reverse order. -/
def repeatLast (least : Nat) (most : Option Nat) : List Item → Reader (List Item)
  | [] => fail
  | last :: before => do
    match last.repeatable? with
    | none => fail
    | some body => return .repetition (.loop (← appetite) least most body) :: before

/-! ## Flags -/

/-- Flag letters up to a character that is none, which is taken and given too. -/
def flagLetters (found : Flags) (c : Char) : Nat → Reader (Flags × Char)
  | 0 => fail
  | fuel + 1 => do
    match Flags.ofLetter? c with
    | none => return (found, c)
    | some flag =>
      let found := found.union flag
      demand !found.conflict
      match ← advance with
      | some (.char next) => flagLetters found next fuel
      | _ => fail

/-- Flags for the rest of the pattern, or flags that a group adds and removes. -/
inductive FlagChange
  | whole (added : Flags)
  | inside (added removed : Flags)
  deriving Repr

def flagChange (c : Char) : Reader FlagChange := do
  let fuel := (← remaining) + 1
  let (added, stop) ← flagLetters {} c fuel
  if stop = ')' then return .whole added
  demand !added.template
  if stop = ':' then return .inside added {}
  demand (stop = '-')
  match ← advance with
  | some (.char c) =>
    let (removed, stop) ← flagLetters {} c fuel
    demand (stop = ':' && removed != {} && !removed.namesScript && !removed.template &&
      added.disjoint removed)
    return .inside added removed
  | _ => fail

/-! ## Alternatives and groups -/

/-- The calls that the content of a group takes: one for its alternatives and one for each. -/
def groupCalls : Nat := 2

/-- What a pair of parentheses stands for: an item, nothing, or flags for what follows. -/
inductive Bracketed
  | item (item : Item)
  | nothing
  | flags (flags : Flags)

def addFlags (added : Flags) : Reader Bracketed := do
  modify fun progress => { progress with flags := progress.flags.union added }
  let progress ← get
  return .flags progress.flags

def close : Reader Unit := do
  demand (← accept ')')

def conditionGroup : Reader Nat := do
  let name ← nameUntil ')'
  if isIdentifier name then
    match (← get).names.find? (·.1 == name) with
    | some (_, number) => return number
    | none => fail
  else
    match Numeral.readInteger name with
    | .ok (.ofNat (n + 1)) =>
      modify fun progress => { progress with conditions := (n + 1) :: progress.conditions }
      return n + 1
    | _ => fail

/-- The name of a group, which must be an identifier. -/
def groupName (stop : Char) : Reader (List Char) := do
  let name ← nameUntil stop
  demand (isIdentifier name)
  return name

/-- The place of a circumflex. -/
def startPlace (flags : Flags) : Anchor :=
  if flags.multiline then .lineStart else .textStart

/-- The place of a dollar sign. -/
def endPlace (flags : Flags) : Anchor :=
  if flags.multiline then .lineEnd else .textEndOrFinalBreak

mutual

/-- Alternatives up to a closing parenthesis or the end of the text. -/
def alternatives (nested : Bool) (flags : Flags) : Nat → Reader (List Item)
  | 0 => fail
  | fuel + 1 => do
    let first ← items (!nested) flags [] fuel
    let more ← moreAlternatives nested flags fuel
    return alternativeItems (first :: more)

def moreAlternatives (nested : Bool) (flags : Flags) : Nat → Reader (List (List Item))
  | 0 => fail
  | fuel + 1 => do
    if ← accept '|' then
      let progress ← get
      let flags := if nested then flags else progress.flags
      let alternative ← items false flags [] fuel
      return alternative :: (← moreAlternatives nested flags fuel)
    else return []

/-- The items of an alternative; those read so far are in reverse order. -/
def items (opening : Bool) (flags : Flags) (done : List Item) : Nat → Reader (List Item)
  | 0 => fail
  | fuel + 1 => do
    match ← peek with
    | none => return flatten done.reverse
    | some .dangling => fail
    | some (.escaped c) =>
      let _ ← advance
      items opening flags ((← escapeItem flags c) :: done) fuel
    | some (.char c) =>
      if c = '|' ∨ c = ')' then return flatten done.reverse
      let _ ← advance
      if flags.verbose && isAsciiBlank c then items opening flags done fuel
      else if flags.verbose && c == '#' then
        skipUntil '\n' true ((← remaining) + 1)
        items opening flags done fuel
      else if c = '[' then items opening flags ((← readClass flags) :: done) fuel
      else if c = '.' then items opening flags (.other (.anyChar flags.dotAll) :: done) fuel
      else if c = '^' then items opening flags (.place (startPlace flags) :: done) fuel
      else if c = '$' then items opening flags (.place (endPlace flags) :: done) fuel
      else if c = '(' then
        match ← bracketed (opening && done.isEmpty) flags fuel with
        | .item item => items opening flags (item :: done) fuel
        | .nothing => items opening flags done fuel
        | .flags flags => items opening flags done fuel
      else
        match ← counts? c with
        | some (least, most) => items opening flags (← repeatLast least most done) fuel
        | none => items opening flags (.literal flags.fold c.toNat :: done) fuel

/-- What stands behind an opening parenthesis, up to the closing one. -/
def bracketed (first : Bool) (flags : Flags) : Nat → Reader Bracketed
  | 0 => fail
  | fuel + 1 => do
    if !(← accept '?') then captured none flags fuel
    else
      match ← advance with
      | some (.char c) =>
        if c = 'P' then
          if ← accept '<' then captured (some (← groupName '>')) flags fuel
          else if ← accept '=' then
            let name ← groupName ')'
            match (← get).names.find? (·.1 == name) with
            | some (_, number) => return .item (← groupReference flags number)
            | none => fail
          else fail
        else if c = ':' then
          let content ← within groupCalls (alternatives true flags fuel)
          close
          return .item (.plain content)
        else if c = '#' then
          skipUntil ')' false ((← remaining) + 1)
          return .nothing
        else if c = '=' ∨ c = '!' then
          let content ← within groupCalls (alternatives true flags fuel)
          close
          return .item (.other (.look .ahead (c = '!') (itemsNode content)))
        else if c = '<' then lookBehind flags fuel
        else if c = '(' then conditional flags fuel
        else if c = '>' then
          let content ← within groupCalls (alternatives true flags fuel)
          close
          return .item (.other (.atomic (itemsNode content)))
        else if c = '-' ∨ (Flags.ofLetter? c).isSome then
          match ← flagChange c with
          | .whole added =>
            demand first
            addFlags added
          | .inside added removed =>
            let content ← within groupCalls (alternatives true (flags.inside added removed) fuel)
            close
            return .item (.other (itemsNode content))
        else fail
      | _ => fail

/-- The content of a group that remembers its text. -/
def captured (name? : Option (List Char)) (flags : Flags) : Nat → Reader Bracketed
  | 0 => fail
  | fuel + 1 => do
    let number ← openGroup name?
    let content := itemsNode (← within groupCalls (alternatives true flags fuel))
    close
    closeGroup number content
    return .item (.other (.group number content))

def lookBehind (flags : Flags) : Nat → Reader Bracketed
  | 0 => fail
  | fuel + 1 => do
    match ← advance with
    | some (.char c) =>
      demand (c = '=' || c = '!')
      let outer := (← get).behind
      let count ← groupCount
      modify fun progress => { progress with behind := some (outer.getD count) }
      let content := itemsNode (← within groupCalls (alternatives true flags fuel))
      modify fun progress => { progress with behind := outer }
      close
      let lengths ← lengthsOf content
      return .item (.other (.look (.behind lengths.shortest lengths.longest) (c = '!') content))
    | _ => fail

/-- A condition on a group with the content for either case. -/
def conditional (flags : Flags) : Nat → Reader Bracketed
  | 0 => fail
  | fuel + 1 => do
    let number ← conditionGroup
    checkBehind number
    let present := itemsNode (← within 1 (items false flags [] fuel))
    let absent ←
      if ← accept '|' then
        let absent ← within 1 (items false flags [] fuel)
        demand ((← peek) != some (.char '|'))
        pure (itemsNode absent)
      else pure .empty
    close
    return .item (.other (.cond number present absent))

end

/-! ## Whole patterns -/

/-- Enough steps to read a text: each takes a token, and four at the most are nested for one. -/
def fuelFor (tokens : List Token) : Nat :=
  4 * tokens.length + 4

def wholePattern (fuel : Nat) : Reader Compiled := do
  demand ((← peek) != some .dangling)
  let root := itemsNode (← alternatives false {} fuel)
  let progress ← get
  if progress.flags.conflict then throw .conflictingFlags
  demand progress.rest.isEmpty
  demand (progress.conditions.all (· ≤ progress.widths.size))
  match root.flaw? progress.flags.template callRoom with
  | some flaw => throw flaw
  | none => return ⟨root, progress.widths.size⟩

def Compiled.ofText (s : List Char) : Except Flaw Compiled :=
  let tokens := tokensOf s
  ((wholePattern (fuelFor tokens)).run ⟨tokens, #[], [], none, [], {}, 0⟩).map (·.1)

end Pattern
end Switchboard
