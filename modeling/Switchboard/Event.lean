import Switchboard.Message

/-!
# Events

What evaluating rules and using the bus does besides changing messages: records of a log, raw
output, messages put into the queue, and reports on the channels of the host.
-/

namespace Switchboard

/-- How grave a log record is. -/
inductive Severity
  | info
  | warning
  | error
  deriving DecidableEq, Repr

/-- The part of the program that writes a log record. -/
inductive Origin
  | rules
  | evaluation
  | bus
  deriving DecidableEq, Repr

namespace Severity

def name : Severity → String
  | .info => "INFO"
  | .warning => "WARNING"
  | .error => "ERROR"

end Severity

namespace Origin

def logger : Origin → String
  | .rules => "regexp_handler.rules.engine"
  | .evaluation => "regexp_handler.rules.interpreter"
  | .bus => "regexp_handler.services.bus"

end Origin

inductive Event
  | log (severity : Severity) (origin : Origin) (text : String)
  | raw (text : String)
  | enqueue (message : Message)
  | error (args : List Value)
  | info (args : List Value)
  | handler (label : String) (name : String)
  deriving Repr, Inhabited

end Switchboard
