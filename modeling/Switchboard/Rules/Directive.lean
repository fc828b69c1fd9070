import Switchboard.Rules.Rule
import Switchboard.Text.WordChar

/-!
# Install directives

A line `message=[priority][,context]` binds a message name to a context at a priority. Without a
priority a default counts, without a context the context with the name of the message.
-/

namespace Switchboard

open Text

/-- The binding of a message name to a context. -/
structure Directive where
  messageName : String
  priority : Value
  contextName : String
  deriving Repr, Inhabited

namespace Directive

/-- Whether `c` may stand in the name of a context behind its first character. -/
def isContextChar (c : Char) : Bool :=
  c.isAlphanum || c == '.'

/-- The context name that makes up the text, none if the text is blank; nothing if the text is
anything else. -/
def contextName? : List Char → Option (List Char)
  | [] => some []
  | c :: rest =>
    if isWordChar c then
      if allBlank (rest.dropWhile isContextChar) then some (c :: rest.takeWhile isContextChar)
      else none
    else if allBlank (c :: rest) then some []
    else none

/-- The context name behind a priority, perhaps with a comma between them. -/
def afterPriority? (s : List Char) : Option (List Char) :=
  match stripStart s with
  | ',' :: rest => contextName? (stripStart rest)
  | _ => contextName? s

/-- The written priority and context name of a binding. All digits are the priority, unless the
context name has to start with the last of them. -/
def splitBinding? (s : List Char) : Option (List Char × List Char) :=
  let digits := s.takeWhile isDecimalDigit
  let rest := s.dropWhile isDecimalDigit
  match afterPriority? rest with
  | some context => some (digits, context)
  | none =>
    -- a name may start with a digit, which is given back then
    match digits.getLast? with
    | some last =>
      match contextName? (last :: rest) with
      | some context => some (digits.dropLast, context)
      | none => none
    | none => none

/-- The priority that digits stand for, the default if there are none. -/
def readPriority (default : Value) (digits : List Char) : Except Fault Value :=
  if digits.isEmpty then .ok default
  else
    match Numeral.readInteger digits with
    | .ok n => .ok (.int n)
    | .error flaw => .error (Fault.ofIntegerFlaw digits flaw)

/-- The directive of a line, nothing if the line is malformed. A priority of too many digits is
refused. -/
def parse (default : Value) (line : List Char) : Except Fault (Option Directive) :=
  let body := stripStart line
  let name := body.takeWhile isNameChar
  match body.dropWhile isNameChar with
  | '=' :: rest =>
    if name.isEmpty then .ok none
    else
      match splitBinding? (stripStart rest) with
      | none => .ok none
      | some (digits, context) =>
        (readPriority default digits).map fun priority =>
          some ⟨String.ofList name, priority,
            String.ofList (if context.isEmpty then name else context)⟩
  | _ => .ok none

end Directive
end Switchboard
