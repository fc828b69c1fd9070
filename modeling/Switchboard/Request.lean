import Switchboard.Command
import Switchboard.Message

/-!
# Requests

A request names a message and gives its fields as parameters, whose values are read as command
text.
-/

namespace Switchboard

/-- The fields that parameters stand for; an integer of too many digits is refused. -/
def readParameters (params : List Char) : Except Fault Fields :=
  (parameters params).mapM fun (key, text) =>
    match Value.ofCommandText text with
    | .error flaw => .error (Fault.ofIntegerFlaw text.toList flaw)
    | .ok value => .ok (key, value)

namespace Message

/-- The message of a name and parameter groups. -/
def ofRequest (now : Calendar.Moment) (name : String) (groups : List (List Char)) :
    Except Fault Message :=
  (readParameters (Text.join [';'] groups)).map fun fields => Message.fresh name fields now

end Message
end Switchboard
