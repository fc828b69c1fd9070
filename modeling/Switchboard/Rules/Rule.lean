import Switchboard.Command
import Switchboard.Event
import Switchboard.Template.Captures

/-!
# Rules

A rule is a line with the command that it stands for. A line without keyword tests its argument
text as a pattern if it has a target, and answers if it has none.
-/

namespace Switchboard

open Text

/-! ## Conditions -/

/-- Whether `c` may stand in the name of a section, message or tested field. -/
def isNameChar (c : Char) : Bool :=
  c.isAlphanum || c == '.' || c == '_'

/-- A field placeholder at the start of the text, and the rest. -/
def leadingPlaceholder? (s : List Char) : Option (List Char × List Char) :=
  match s with
  | '$' :: '\x7b' :: body =>
    let name := body.takeWhile isNameChar
    match body.dropWhile isNameChar with
    | '\x7d' :: rest =>
      if name.isEmpty then none else some ('$' :: '\x7b' :: name ++ ['\x7d'], rest)
    | _ => none
  | _ => none

/-- What a test reads and the pattern that it looks for. Without a placeholder in front of the
pattern the empty text is read. -/
structure Condition where
  source : List Char
  pattern : List Char
  deriving DecidableEq, Repr

namespace Condition

def ofArgs (args : List Char) : Condition :=
  let body := stripStart args
  match leadingPlaceholder? body with
  | some (source, pattern) => ⟨source, pattern⟩
  | none => ⟨[], body⟩

end Condition

/-! ## Compilation -/

/-- A line and the command to run for it, which has an action. -/
structure Rule where
  line : List Char
  command : Command
  deriving DecidableEq, Repr, Inhabited

namespace Rule

/-- The command with an action: a test if it has a target, an answer if it has none. -/
def complete (c : Command) : Command :=
  match c.action with
  | some _ => c
  | none => { c with action := some (if c.hasTarget then .test else .answer) }

def misfitWarning (line : List Char) : Event :=
  .log .warning .rules
    ("Rule does not parse, it will only stop its context: " ++ String.ofList (quoted line))

def patternWarning (pattern : List Char) : Event :=
  .log .warning .rules
    ("Rule pattern " ++ String.ofList (quoted pattern) ++ " is invalid and will never match")

/-- Tries the pattern of a test: a text that is no pattern gives a warning, and a pattern that
cannot be handled is refused. -/
def checkPattern (c : Command) : Except Fault (List Event) :=
  if c.action = some .test then
    let pattern := (Condition.ofArgs c.args).pattern
    match Pattern.Compiled.ofText pattern with
    | .ok _ => .ok []
    | .error .malformed => .ok [patternWarning pattern]
    | .error flaw => .error (Fault.ofPatternFlaw flaw)
  else .ok []

/-- The rule of a line, with the warnings about it. -/
def compile (line : List Char) : List Event × Except Fault Rule :=
  let command := Command.parse line
  -- a blank line is the empty command and no misfit
  let warnings := if command = Command.empty && !allBlank line then [misfitWarning line] else []
  let command := complete command
  match checkPattern command with
  | .ok more => (warnings ++ more, .ok ⟨line, command⟩)
  | .error fault => (warnings, .error fault)

/-- The command of a rule is that of its line, with an action. -/
theorem command_eq_complete {line : List Char} {rule : Rule} (h : (compile line).2 = .ok rule) :
    rule.command = complete (Command.parse line) := by
  unfold compile at h
  simp only at h
  split at h
  · cases h
    rfl
  · cases h

/-- The rules of lines up to the first that is refused, with all warnings. -/
def compileAll : List (List Char) → List Event × Except Fault (List Rule)
  | [] => ([], .ok [])
  | line :: lines =>
    match compile line with
    | (events, .error fault) => (events, .error fault)
    | (events, .ok rule) =>
      let (more, rules) := compileAll lines
      (events ++ more, rules.map (rule :: ·))

end Rule
end Switchboard
