import Switchboard.Entries

/-!
# Settings

What the program can be told: names and limits of the rules engine, and how it keeps its log.
Settings come from files and are untyped until they are checked.
-/

namespace Switchboard

structure EngineSettings where
  rulesFile : Value
  defaultPriority : Value
  maxChainLength : Value
  maxCallDepth : Value
  commandMessage : Value
  haltMessage : Value
  commandPriority : Value
  reloadCommand : Value
  deriving Repr, Inhabited

namespace EngineSettings

/-- The settings that count where nothing else is said. -/
def standard : EngineSettings :=
  ⟨.text "conf/.jms-regexp.conf", .int 100, .int 1000, .int 64, .text "engine.command",
    .text "engine.halt", .int 100, .text "regexp reload"⟩

def entries (s : EngineSettings) : Entries Value :=
  [("rules_file", s.rulesFile), ("default_priority", s.defaultPriority),
    ("max_chain_length", s.maxChainLength), ("max_call_depth", s.maxCallDepth),
    ("command_message", s.commandMessage), ("halt_message", s.haltMessage),
    ("command_priority", s.commandPriority), ("reload_command", s.reloadCommand)]

/-- Sets a setting by its name; a name that is none of theirs changes nothing. -/
def assign (s : EngineSettings) (name : String) (value : Value) : EngineSettings :=
  match name with
  | "rules_file" => { s with rulesFile := value }
  | "default_priority" => { s with defaultPriority := value }
  | "max_chain_length" => { s with maxChainLength := value }
  | "max_call_depth" => { s with maxCallDepth := value }
  | "command_message" => { s with commandMessage := value }
  | "halt_message" => { s with haltMessage := value }
  | "command_priority" => { s with commandPriority := value }
  | "reload_command" => { s with reloadCommand := value }
  | _ => s

end EngineSettings

structure LogSettings where
  level : Value
  directory : Value
  jsonFormat : Value
  console : Value
  deriving Repr, Inhabited

namespace LogSettings

def standard : LogSettings :=
  ⟨.text "INFO", .text "", .bool false, .bool true⟩

def entries (s : LogSettings) : Entries Value :=
  [("level", s.level), ("log_dir", s.directory), ("json_format", s.jsonFormat),
    ("console_output", s.console)]

def assign (s : LogSettings) (name : String) (value : Value) : LogSettings :=
  match name with
  | "level" => { s with level := value }
  | "log_dir" => { s with directory := value }
  | "json_format" => { s with jsonFormat := value }
  | "console_output" => { s with console := value }
  | _ => s

end LogSettings

/-- All settings, and the directory that the settings file is looked for in. -/
structure Settings where
  appName : Value
  version : Value
  debug : Value
  engine : EngineSettings
  logging : LogSettings
  directory : String
  deriving Repr, Inhabited

namespace Settings

def standard : Settings :=
  ⟨.text "Regexp Handler", .text "1.0.0", .bool false, .standard, .standard, ""⟩

def toRecord (s : Settings) : List (Value × Value) :=
  [(.text "app_name", s.appName), (.text "version", s.version), (.text "debug", s.debug),
    (.text "engine", Entries.toValue s.engine.entries),
    (.text "logging", Entries.toValue s.logging.entries)]

/-- Sets a setting outside of the sections by its name. -/
def assign (s : Settings) (name : String) (value : Value) : Settings :=
  match name with
  | "app_name" => { s with appName := value }
  | "version" => { s with version := value }
  | "debug" => { s with debug := value }
  | _ => s

def assignIn (s : Settings) (sectionName? : Option String) (name : String) (value : Value) :
    Settings :=
  match sectionName? with
  | none => s.assign name value
  | some "engine" => { s with engine := s.engine.assign name value }
  | some "logging" => { s with logging := s.logging.assign name value }
  | some _ => s

end Settings
end Switchboard
