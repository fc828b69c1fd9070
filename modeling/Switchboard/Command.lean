import Switchboard.Entries
import Switchboard.Text.Blank
import Switchboard.Text.Percent
import Switchboard.Text.Split

/-!
# Commands

A command line is an optional equals sign, an optional keyword, argument text, parameter groups
and an optional target:

    [=][keyword ]args[;key[=value]...][=target]

`Command.parse` reads a line, `Command.render` writes one, and `parameters` reads the parameter
groups as names with decoded values. A line that does not fit is the empty command.
-/

namespace Switchboard

open Text

/-! ## Keywords -/

/-- What a command does. A command without keyword may be made a `dispatch` by a program, but no
line is read as one. -/
inductive Action
  | test
  | answer
  | echo
  | enqueue
  | call
  | jump
  | dispatch
  deriving DecidableEq, Repr, Inhabited

namespace Action

def keyword : Action → List Char
  | .test => ['i', 'f']
  | .answer => ['r', 'e', 't', 'u', 'r', 'n']
  | .echo => ['e', 'c', 'h', 'o']
  | .enqueue => ['e', 'n', 'q', 'u', 'e', 'u', 'e']
  | .call => ['c', 'a', 'l', 'l']
  | .jump => ['j', 'u', 'm', 'p']
  | .dispatch => ['d', 'i', 's', 'p', 'a', 't', 'c', 'h']

def readable : List Action :=
  [.test, .echo, .answer, .enqueue, .call, .jump]

/-- Whether the text behind a keyword ends it: a blank or a semicolon stands there. -/
def endsKeyword : List Char → Bool
  | [] => false
  | c :: _ => isBlank c || c == ';'

/-- The first of the actions whose keyword stands at the start of the text, and the rest. -/
def readAmong : List Action → List Char → Option Action × List Char
  | [], s => (none, s)
  | action :: actions, s =>
    match dropLead? action.keyword s with
    | some rest => if endsKeyword rest then (some action, rest) else readAmong actions s
    | none => readAmong actions s

/-- The action whose keyword stands at the start of the text, and the rest. -/
def read (s : List Char) : Option Action × List Char :=
  readAmong readable s

end Action

/-! ## Parameter groups -/

/-- Whether `c` separates neither groups nor keys from values. -/
def isPlainChar (c : Char) : Bool :=
  c != ';' && c != '='

/-- A parameter group as it is written: a key, and a value if an equals sign follows the key. -/
structure Group where
  key : List Char
  value : Option (List Char)
  deriving DecidableEq, Repr, Inhabited

namespace Group

def text (g : Group) : List Char :=
  ';' :: g.key ++
    match g.value with
    | none => []
    | some value => '=' :: value

def textOf (groups : List Group) : List Char :=
  groups.flatMap text

/-- The text behind a key: the value, if there is one, and the rest. -/
def readValue : List Char → Option (List Char) × List Char
  | '=' :: rest => (some (rest.takeWhile isPlainChar), rest.dropWhile isPlainChar)
  | rest => (none, rest)

/-- One group at the start of the text and the rest. A group has a key. -/
def readOne? : List Char → Option (Group × List Char)
  | ';' :: rest =>
    let key := rest.takeWhile isPlainChar
    let (value, left) := readValue (rest.dropWhile isPlainChar)
    if key.isEmpty then none else some (⟨key, value⟩, left)
  | _ => none

theorem readValue_length_le (s : List Char) : (readValue s).2.length ≤ s.length := by
  unfold readValue
  split
  · next rest =>
    have := (List.dropWhile_sublist isPlainChar (l := rest)).length_le
    simp only [List.length_cons]
    omega
  · exact Nat.le_refl _

theorem readOne?_length_lt {s rest : List Char} {g : Group} (h : readOne? s = some (g, rest)) :
    rest.length < s.length := by
  unfold readOne? at h
  split at h
  · next body =>
    simp only at h
    split at h
    · simp at h
    · have hr : rest = (readValue (body.dropWhile isPlainChar)).2 := by
        simp only [Option.some.injEq, Prod.mk.injEq] at h
        exact h.2.symm
      have h1 := readValue_length_le (body.dropWhile isPlainChar)
      have h2 := (List.dropWhile_sublist isPlainChar (l := body)).length_le
      simp only [List.length_cons, hr]
      omega
  · simp at h

/-- As many groups as stand at the start of the text, and the rest. -/
def readAll (s : List Char) : List Group × List Char :=
  match _h : readOne? s with
  | none => ([], s)
  | some (g, rest) =>
    let (groups, left) := readAll rest
    (g :: groups, left)
termination_by s.length
decreasing_by exact readOne?_length_lt _h

/-- Tears the last group that has a value: the groups before it and its bare key, and the text
from its value on. -/
def tearLast? : List Group → Option (List Group × List Char)
  | [] => none
  | g :: groups =>
    match tearLast? groups, g.value with
    | some (before, tail), _ => some (g :: before, tail)
    | none, some value => some ([⟨g.key, none⟩], value ++ textOf groups)
    | none, none => none

end Group

/-! ## Command lines -/

/-- A parsed command line. The parameters are kept as they are written; a target is what stands
behind the equals sign that ends arguments and parameters. -/
structure Command where
  action : Option Action
  args : List Char
  params : List Char
  target : Option (List Char)
  deriving DecidableEq, Repr, Inhabited

namespace Command

/-- The command of a line that does not fit. -/
def empty : Command :=
  ⟨none, [], [], none⟩

/-- The text without an equals sign at its start, and whether there was one. -/
def dropOpening : List Char → Bool × List Char
  | '=' :: rest => (true, rest)
  | rest => (false, rest)

/-- The text without one blank at its start. -/
def dropBlank : List Char → List Char
  | [] => []
  | c :: rest => if isBlank c then rest else c :: rest

/-- The command with what is left behind the groups: nothing, or the target. A semicolon that
starts no group is left only where a line does not fit; then the last group with a value gives
up its value to the target, or all of an opened line is target. -/
def finish (opened : Bool) (body : List Char) (action : Option Action) (args : List Char)
    (groups : List Group) : List Char → Command
  | [] => ⟨action, args, Group.textOf groups, none⟩
  | '=' :: target => ⟨action, args, Group.textOf groups, some target⟩
  | left =>
    match Group.tearLast? groups with
    | some (kept, tail) => ⟨action, args, Group.textOf kept, some (tail ++ left)⟩
    | none => if opened then ⟨none, [], [], some body⟩ else empty

def parse (line : List Char) : Command :=
  let (opened, body) := dropOpening (stripStart line)
  let (action, rest) := Action.read body
  let rest := dropBlank rest
  let (groups, left) := Group.readAll (rest.dropWhile isPlainChar)
  finish opened body action (rest.takeWhile isPlainChar) groups left

/-- The line of a command, written so that nothing in it is read as something else. -/
def render (c : Command) : List Char :=
  '=' :: (match c.action with
    | none => []
    | some action => action.keyword) ++
  ' ' :: c.args ++ c.params ++
    match c.target with
    | none => []
    | some target => '=' :: target

/-- Whether the line of the command had an equals sign behind arguments and parameters. -/
def hasTarget (c : Command) : Bool :=
  c.target.isSome

end Command

/-! ## Parameters -/

/-- Text in which a plus sign stands for a space and percent escapes for bytes. -/
def decodeComponent (s : List Char) : String :=
  String.ofList (percentDecode (replaceChar '+' ' ' s))

/-- The name and value of a written group; a group without equals sign has an empty value. -/
def readParameter (group : List Char) : String × String :=
  match cut? '=' group with
  | none => (decodeComponent group, "")
  | some (key, value) => (decodeComponent key, decodeComponent value)

/-- The parameters of a text; empty groups count for nothing, and of groups with one name the
last one counts. -/
def parameters (s : List Char) : Entries String :=
  Entries.ofPairs (((splitAll ';' s).filter fun group => !group.isEmpty).map readParameter)

end Switchboard
