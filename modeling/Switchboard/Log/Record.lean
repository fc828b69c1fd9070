import Switchboard.Calendar.Layout
import Switchboard.Event
import Switchboard.Log.Fill
import Switchboard.Value.Json

/-!
# Log records

A record says what happened, how grave it is and where it comes from. It is written as an object
of JSON, in color for a terminal, or as a plain line.
-/

namespace Switchboard
namespace Log

open Text

/-! ## Levels -/

inductive Level
  | debug
  | info
  | warning
  | error
  | critical
  deriving DecidableEq, Repr

namespace Level

def name : Level → String
  | .debug => "DEBUG"
  | .info => "INFO"
  | .warning => "WARNING"
  | .error => "ERROR"
  | .critical => "CRITICAL"

/-- The number of a level; graver ones have greater numbers. -/
def number : Level → Nat
  | .debug => 10
  | .info => 20
  | .warning => 30
  | .error => 40
  | .critical => 50

def ofSeverity : Severity → Level
  | .info => .info
  | .warning => .warning
  | .error => .error

end Level

/-! ## Records -/

/-- Something that failed: its kind, whether that is one of the program's own, and its text. -/
structure Failure where
  kind : String
  isOwn : Bool
  text : String
  deriving Repr

def Failure.line (f : Failure) : List Char :=
  (if f.isOwn then "core.exceptions.".toList else []) ++ f.kind.toList ++
    (if f.text.isEmpty then [] else ':' :: ' ' :: f.text.toList)

structure Record where
  level : String
  grade : Nat
  logger : String
  message : String
  file : String
  function : String
  line : Nat
  failure : Option Failure
  context : Fields
  deriving Repr

namespace Record

/-! ## Forms -/

def jsonEntries (now : Calendar.Moment) (r : Record) : List (String × Value) :=
  let stamp := { now with offset := some 0 }.isoText
  [("timestamp", .text (String.ofList stamp)), ("level", .text r.level),
    ("logger", .text r.logger), ("message", .text r.message), ("module", .text r.file),
    ("function", .text r.function), ("line", .int r.line)] ++
  (match r.failure with
    | some f => [("exception", .text (String.ofList f.line))]
    | none => []) ++
  (if r.context.isEmpty then [] else [("context", Entries.toValue r.context)])

def jsonText (now : Calendar.Moment) (r : Record) : Except Fault (List Char) :=
  let object := Entries.toValue (r.jsonEntries now)
  if object.isWritable then .ok (Json.ofValue object) else .error (.tooManyDigits none)

/-- The sequence that sets the color of a level's name. -/
def colorOf (level : String) : List Char :=
  let digit? := match level with
    | "DEBUG" => some '6'
    | "INFO" => some '2'
    | "WARNING" => some '3'
    | "ERROR" => some '1'
    | "CRITICAL" => some '5'
    | _ => none
  match digit? with
  | some digit => ['\x1b', '[', '3', digit, 'm']
  | none => []

def bold : List Char := ['\x1b', '[', '1', 'm']

/-- The sequence that ends colors and bold letters. -/
def plainAgain : List Char := ['\x1b', '[', '0', 'm']

/-- The context of a record in square brackets. -/
def contextText (context : Fields) : List Char :=
  if context.isEmpty then []
  else
    " [".toList ++ join [' '] (context.map fun (k, v) => k.toList ++ '=' :: v.plain) ++ [']']

def coloredText (now : Calendar.Moment) (r : Record) : Except Fault (List Char) :=
  let stamp := Calendar.layoutText "%Y-%m-%d %H:%M:%S".toList now
  let failure := match r.failure with
    | some f => '\n' :: f.line
    | none => []
  if (Entries.toValue r.context).isWritable then
    .ok (colorOf r.level ++ bold ++ '[' :: r.level.toList ++ ']' :: plainAgain ++ ' ' :: stamp ++
      " | ".toList ++ r.logger.toList ++ ':' :: natText r.line ++ " | ".toList ++
      r.message.toList ++ contextText r.context ++ failure)
  else .error (.tooManyDigits none)

def plainText (now : Calendar.Moment) (r : Record) : List Char :=
  let failure := match r.failure with
    | some f => '\n' :: f.line
    | none => []
  Calendar.layoutText "%Y-%m-%d %H:%M:%S".toList now ++ ',' :: paddedNat 3 (now.micro / 1000) ++
    " | ".toList ++ padEnd ' ' 8 r.level.toList ++ " | ".toList ++ r.logger.toList ++
    ':' :: natText r.line ++ " | ".toList ++ r.message.toList ++ failure

end Record
end Log
end Switchboard
