import Switchboard.Text.Digit
import Switchboard.Text.Split

/-!
# Arguments of the command line

Options may be shortened as long as they cannot be mistaken for another, and a value may be attached
to its option with an equals sign. The three modes exclude each other, and nothing may be left
over.
-/

namespace Switchboard
namespace Cli

open Text

inductive Mode
  | check
  | test (name : String) (pairs : List String)
  | daemon
  deriving DecidableEq, Repr

structure Options where
  mode : Option Mode
  config : Option String
  rules : Option String
  debug : Bool
  deriving DecidableEq, Repr

/-- Why the arguments do not start the program: they are wrong, or they ask for help. -/
inductive Refusal
  | usage
  | help
  deriving DecidableEq, Repr

/-! ## Options -/

inductive Flag
  | help
  | check
  | test
  | daemon
  | config
  | rules
  | debug
  deriving DecidableEq, Repr

def flagNames : List (List Char × Flag) :=
  [("--help".toList, .help), ("--check".toList, .check), ("--test".toList, .test),
    ("--daemon".toList, .daemon), ("--config".toList, .config), ("--rules".toList, .rules),
    ("--debug".toList, .debug)]

/-- What an argument is: an option with what is attached to it, a mark behind which there are no
options, a word, or an option that does not exist. -/
inductive Piece
  | option (flag : Flag) (attached : Option (List Char))
  | helpLetter (tail : List Char)
  | divider
  | word (text : List Char)
  | stranger
  deriving DecidableEq, Repr

/-- The option that a name or its start stands for; nothing if it stands for none or for several. -/
def flagOf? (name : List Char) : List Flag :=
  match flagNames.find? (·.1 == name) with
  | some (_, flag) => [flag]
  | none => (flagNames.filter fun (full, _) => name.isPrefixOf full).map (·.2)

/-- Whether the text is digits, with a point before the last run of them or without one. -/
def isUnsigned (s : List Char) : Bool :=
  match cut? '.' s with
  | none => !s.isEmpty && s.all isDecimalDigit
  | some (whole, fraction) =>
    whole.all isDecimalDigit && !fraction.isEmpty && fraction.all isDecimalDigit

/-- Whether an argument that starts with a dash is a word all the same: a negative number, or a text
with a space. -/
def isDashedWord (s : List Char) : Bool :=
  let body := s.drop 1
  isUnsigned (if body.getLast? == some '\n' then body.dropLast else body) || s.contains ' '

/-- An argument that starts with two dashes. -/
def longPiece (s : List Char) : Except Refusal Piece :=
  let (name, attached) := match cut? '=' s with
    | some (name, value) => (name, some value)
    | none => (s, none)
  match flagOf? name with
  | [flag] => .ok (.option flag attached)
  | [] => .ok (if isDashedWord s then .word s else .stranger)
  | _ => .error .usage

def pieceOf (s : List Char) : Except Refusal Piece :=
  match s with
  | '-' :: '-' :: _ => longPiece s
  | ['-'] => .ok (.word s)
  | '-' :: 'h' :: tail => .ok (.helpLetter tail)
  | '-' :: _ => .ok (if isDashedWord s then .word s else .stranger)
  | _ => .ok (.word s)

/-- What the arguments are. Behind two dashes alone there are words only. -/
def piecesOf : List (List Char) → Except Refusal (List Piece)
  | [] => .ok []
  | ['-', '-'] :: rest => .ok (.divider :: rest.map .word)
  | s :: rest => do
    let piece ← pieceOf s
    return piece :: (← piecesOf rest)

/-! ## Reading -/

/-- What the words that follow are: left over, the value of an option, the name of a message, or
its fields. -/
inductive Waiting
  | nothing
  | config
  | rules
  | name
  | pairs
  deriving DecidableEq, Repr

/-- The options so far, what is waited for, and whether something is left over. -/
structure Progress where
  options : Options
  waiting : Waiting
  hasExtras : Bool
  deriving DecidableEq, Repr

namespace Progress

def start : Progress :=
  ⟨⟨none, none, none, false⟩, .nothing, false⟩

def settle (p : Progress) : Except Refusal Progress :=
  match p.waiting with
  | .nothing => .ok p
  | .pairs => .ok { p with waiting := .nothing }
  | _ => .error .usage

def sameKind : Mode → Mode → Bool
  | .check, .check => true
  | .test _ _, .test _ _ => true
  | .daemon, .daemon => true
  | _, _ => false

/-- Sets the mode, which must not be of another kind than the one before. -/
def setMode (p : Progress) (mode : Mode) : Except Refusal Progress :=
  if (p.options.mode.map (sameKind mode)).getD true then
    .ok { p with options := { p.options with mode := some mode } }
  else .error .usage

def word (p : Progress) (s : List Char) : Except Refusal Progress :=
  let text := String.ofList s
  match p.waiting with
  | .nothing => .ok { p with hasExtras := true }
  | .config =>
    .ok { p with options := { p.options with config := some text }, waiting := .nothing }
  | .rules =>
    .ok { p with options := { p.options with rules := some text }, waiting := .nothing }
  | .name => (p.setMode (.test text [])).map fun p => { p with waiting := .pairs }
  | .pairs =>
    match p.options.mode with
    | some (.test name pairs) => p.setMode (.test name (pairs ++ [text]))
    | _ => .ok p

def bare (p : Progress) (flag : Flag) : Except Refusal Progress :=
  match flag with
  | .help => .error .help
  | .check => p.setMode .check
  | .daemon => p.setMode .daemon
  | .debug => .ok { p with options := { p.options with debug := true } }
  | .test => .ok { p with waiting := .name }
  | .config => .ok { p with waiting := .config }
  | .rules => .ok { p with waiting := .rules }

def attached (p : Progress) (flag : Flag) (value : List Char) : Except Refusal Progress :=
  match flag with
  | .test => do
    let p ← ({ p with waiting := .name }).word value
    return { p with waiting := .nothing }
  | .config => ({ p with waiting := .config }).word value
  | .rules => ({ p with waiting := .rules }).word value
  | _ => .error .usage

/-- Whether letters behind the letter for help still ask for help. -/
def asksHelp : List Char → Bool
  | [] => true
  | '-' :: _ => false
  | '=' :: _ => false
  | 'h' :: rest => asksHelp rest
  | _ => true

def step (p : Progress) (piece : Piece) : Except Refusal Progress :=
  match piece with
  | .word s => p.word s
  | .divider => p.settle.map fun p => { p with hasExtras := true }
  | .stranger => p.settle.map fun p => { p with hasExtras := true }
  | .helpLetter tail => do
    let _ ← p.settle
    throw (if asksHelp tail then .help else .usage)
  | .option flag none => do (← p.settle).bare flag
  | .option flag (some value) => do (← p.settle).attached flag value

end Progress

def readArguments (args : List String) : Except Refusal Options := do
  let pieces ← piecesOf (args.map (·.toList))
  let p ← (← pieces.foldlM Progress.step .start).settle
  if p.hasExtras then throw .usage else return p.options

end Cli
end Switchboard
