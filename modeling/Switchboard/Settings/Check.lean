import Switchboard.Fault
import Switchboard.Settings.Basic
import Switchboard.Text.CaseMap

/-!
# Checking settings

Settings are refused if the program cannot run with them. The checks are made in a fixed order,
and the first that fails is reported.
-/

namespace Switchboard

namespace Value

/-- Whether a value is less than an integer; values that are no numbers have no order. -/
def isBelow (bound : Int) (value : Value) : Except Fault Bool :=
  match value with
  | .bool b => .ok (decide ((if b then 1 else 0) < bound))
  | .int n => .ok (decide (n < bound))
  | .float x => .ok (x.ltInt bound)
  | value => .error (.misfit (.notText ("no order for values of kind " ++ value.kindName)))

end Value

namespace EngineSettings

def notPositive (name : String) (value : Value) : Fault :=
  if value.isWritable then
    Fault.report .settings (name ++ " must be at least 1, got " ++ value.plainString) []
  else .tooManyDigits none

def checkPositive (name : String) (value : Value) : Except Fault Unit := do
  if ← value.isBelow 1 then throw (notPositive name value)

def check (s : EngineSettings) : Except Fault Unit := do
  if !s.rulesFile.isTruthy then
    throw (Fault.report .settings "rules_file must not be empty" [])
  checkPositive "max_chain_length" s.maxChainLength
  checkPositive "max_call_depth" s.maxCallDepth
  if ← s.defaultPriority.isBelow 0 then
    throw (Fault.report .settings "default_priority cannot be negative" [])

end EngineSettings

namespace LogSettings

def levelNames : List String := ["DEBUG", "INFO", "WARNING", "ERROR", "CRITICAL"]

def capitals (name : String) : String :=
  String.ofList (name.toList.map Text.upperChar)

def check (s : LogSettings) : Except Fault Unit :=
  match s.level with
  | .text name =>
    if levelNames.contains (capitals name) then .ok ()
    else .error (Fault.report .settings ("Invalid log level: " ++ name) [])
  | _ => .error (.unsupported "the level must be a text")

end LogSettings

namespace Settings

def check (s : Settings) : Except Fault Unit := do
  s.engine.check
  s.logging.check

end Settings
end Switchboard
