import Switchboard.FileFlaw
import Switchboard.Pattern.Basic
import Switchboard.Text.Utf8
import Switchboard.Value.Text

/-!
# Faults

Every way in which loading rules, evaluating them, using the bus or reading settings can fail.
Faults of the program's own carry a report; `Fault.text` is the text by which a fault is
recorded on a message or in a log.
-/

namespace Switchboard

/-- What happened, and details of it. -/
structure Report where
  summary : String
  details : List (Value × Value)
  deriving Repr, Inhabited

namespace Report

/-- The summary, with the details behind it if there are any. -/
def text (r : Report) : String :=
  if r.details.isEmpty then r.summary
  else r.summary ++ " | Details: " ++ (Value.dict r.details).literalString

def ofTexts (summary : String) (details : List (String × String)) : Report :=
  ⟨summary, details.map fun (k, v) => (.text k, .text v)⟩

end Report

inductive Concern
  | general
  | settings
  | chainLimit (limit : Value)
  | enqueue
  | bus
  deriving Repr, Inhabited

inductive Misfit
  | notIterable (kind : String)
  | notOrdered (relation : String) (kind : String)
  | notInteger (kind : String)
  | notPath (kind : String)
  | notText (what : String)
  deriving DecidableEq, Repr

inductive Fault
  | reported (concern : Concern) (report : Report)
  | handler (text : String)
  | pattern
  | conflictingFlags
  | countTooLarge
  | tooDeep
  | notANumber (literal : String)
  | tooManyDigits (count : Option Nat)
  | infiniteNumber
  | undefinedNumber
  | badValue (text : String)
  | missingKey (key : String)
  | unsupported (text : String)
  | misfit (misfit : Misfit)
  | undecodable (flaw : Text.Flaw)
  | file (flaw : FileFlaw) (path : String)
  deriving Repr, Inhabited

namespace Misfit

def text : Misfit → String
  | .notIterable kind => "'" ++ kind ++ "' object is not iterable"
  | .notOrdered relation kind =>
    "'" ++ relation ++ "' not supported between instances of 'int' and '" ++ kind ++ "'"
  | .notInteger kind =>
    "int() argument must be a string, a bytes-like object or a real number, not '" ++ kind ++ "'"
  | .notPath kind => "expected str, bytes or os.PathLike object, not " ++ kind
  | .notText what => what

end Misfit

namespace Fault

/-- A fault of a concern of the program with texts as details. -/
def report (concern : Concern) (summary : String) (details : List (String × String)) : Fault :=
  .reported concern (Report.ofTexts summary details)

/-- Whether the fault is one of the program's own. -/
def isReported : Fault → Bool
  | .reported _ _ => true
  | _ => false

/-- The text of a report in its concern; a limit is named at the end. -/
def reportText (concern : Concern) (r : Report) : String :=
  match concern with
  | .chainLimit limit => r.text ++ " | Limit: " ++ limit.plainString
  | _ => r.text

/-- The sentence about integers with too many digits. -/
def digitsText (count : Option Nat) : String :=
  "Exceeds the limit (4300 digits) for integer string conversion" ++
    (match count with
      | some n => ": value has " ++ toString n ++ " digits"
      | none => "") ++
    "; use sys.set_int_max_str_digits() to increase the limit"

def flawText : Text.FlawKind → String
  | .badStart => "invalid start byte"
  | .badContinuation => "invalid continuation byte"
  | .truncated => "unexpected end of data"

/-- Where encoded text is no text, and why. -/
def undecodableText (flaw : Text.Flaw) : String :=
  let place :=
    if flaw.length = 1 then
      "byte 0x" ++ String.ofList (Text.hexText Text.hexDigitSmall 2 flaw.byte.toNat) ++
        " in position " ++ toString flaw.position
    else
      "bytes in position " ++ toString flaw.position ++ "-" ++
        toString (flaw.position + flaw.length - 1)
  "'utf-8' codec can't decode " ++ place ++ ": " ++ flawText flaw.kind

def text : Fault → String
  | .reported concern r => reportText concern r
  | .handler text => text
  | .pattern => "invalid pattern"
  | .conflictingFlags => "ASCII and UNICODE flags are incompatible"
  | .countTooLarge => "the repetition number is too large"
  | .tooDeep => "maximum recursion depth exceeded"
  | .notANumber literal => "invalid literal for int() with base 10: " ++ literal
  | .tooManyDigits count => digitsText count
  | .infiniteNumber => "cannot convert float infinity to integer"
  | .undefinedNumber => "cannot convert float NaN to integer"
  | .badValue text => text
  | .missingKey key => Text.quotedString key
  | .unsupported text => text
  | .misfit m => m.text
  | .undecodable flaw => undecodableText flaw
  | .file flaw path => flaw.text path

def ofPatternFlaw : Pattern.Flaw → Fault
  | .malformed => .pattern
  | .countTooLarge => .countTooLarge
  | .countTooLong n => .tooManyDigits (some n)
  | .conflictingFlags => .conflictingFlags
  | .tooDeep => .tooDeep

def ofIntegerFlaw (s : List Char) : Numeral.IntegerFlaw → Fault
  | .malformed => .notANumber (String.ofList (Text.quoted s))
  | .tooLong n => .tooManyDigits (some n)

end Fault
end Switchboard
