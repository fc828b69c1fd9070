import Switchboard.Files
import Switchboard.Settings.Basic
import Switchboard.Text.Blank

/-!
# Settings from the environment

Variables of the environment say where the settings file is, and some settings can be set by a
variable of their own.
-/

namespace Switchboard

open Text

abbrev Environment := Entries String

namespace Environment

/-- The home directory; without the variable it is that of the superuser. -/
def home (env : Environment) : Path :=
  let text := ((env.get? "HOME").getD "/root").toList
  let trimmed := (text.reverse.dropWhile (· == '/')).reverse
  if trimmed.isEmpty then Path.ofString "/" else Path.ofText trimmed

def settingsDirectory (env : Environment) : Path :=
  match env.get? "REGEXP_HANDLER_CONFIG_DIR", env.get? "XDG_CONFIG_HOME" with
  | some directory, _ => Path.ofString directory
  | none, some base => (Path.ofString base).append (Path.ofString "regexp-handler")
  | none, none => env.home.append (Path.ofString ".config/regexp-handler")

end Environment

/-! ## Variables -/

inductive VariableForm
  | text
  | integer
  | switch
  deriving DecidableEq, Repr

/-- A variable, and the setting that it sets. -/
structure Variable where
  name : String
  sectionName? : Option String
  setting : String
  form : VariableForm
  deriving DecidableEq, Repr

namespace Variable

/-- The variables that set a setting, in the order in which they are read. -/
def all : List Variable := [
  ⟨"REGEXP_HANDLER_DEBUG", none, "debug", .switch⟩,
  ⟨"REGEXP_HANDLER_RULES_FILE", some "engine", "rules_file", .text⟩,
  ⟨"REGEXP_HANDLER_DEFAULT_PRIORITY", some "engine", "default_priority", .integer⟩,
  ⟨"REGEXP_HANDLER_MAX_CHAIN_LENGTH", some "engine", "max_chain_length", .integer⟩,
  ⟨"REGEXP_HANDLER_MAX_CALL_DEPTH", some "engine", "max_call_depth", .integer⟩,
  ⟨"REGEXP_HANDLER_LOG_LEVEL", some "logging", "level", .text⟩,
  ⟨"REGEXP_HANDLER_LOG_DIR", some "logging", "log_dir", .text⟩,
  ⟨"REGEXP_HANDLER_LOG_JSON", some "logging", "json_format", .switch⟩]

/-- The words that turn a switch on, whatever their letters' case. -/
def switchWords : List String := ["true", "1", "yes", "on"]

def read (v : Variable) (content : String) : Except Fault Value :=
  match v.form with
  | .text => .ok (.text content)
  | .switch =>
    .ok (.bool (switchWords.contains (String.ofList (Numeral.lowered content.toList))))
  | .integer =>
    match Numeral.readInteger content.toList with
    | .ok n => .ok (.int n)
    | .error _ =>
      .error (Fault.report .settings ("Invalid value for " ++ v.name ++ ": " ++ content) [])

end Variable

namespace Settings

/-- Sets a setting by its variable, if the environment has it. -/
def assignVariable (env : Environment) (s : Settings) (v : Variable) : Except Fault Settings :=
  match env.get? v.name with
  | none => .ok s
  | some content => (v.read content).map fun value => s.assignIn v.sectionName? v.setting value

/-- Sets the settings that the environment has variables for. -/
def applyEnvironment (s : Settings) (env : Environment) : Except Fault Settings :=
  Variable.all.foldlM (assignVariable env) s

end Settings
end Switchboard
