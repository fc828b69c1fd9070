import Switchboard.Settings.Check
import Switchboard.Settings.Environment
import Switchboard.Yaml.Load

/-!
# Loading settings

Settings are the standard ones, with those of a file in their place, and those of the environment
in the place of these. They are checked when all of them are known.
-/

namespace Switchboard

/-- The fault of a settings file that is no document or has a bad value. -/
def Yaml.Flaw.fault : Yaml.Flaw → Fault
  | .malformed => Fault.report .settings "Failed to parse config file" []
  | .badValue => .badValue "the settings file has a bad value"
  | .unknownWord word => .missingKey (String.ofList word)
  | .notAMoment => .unsupported "the settings file has a bad moment"
  | .notPlain => .unsupported "the settings file has a value that is not plain"

namespace Settings

/-! ## Documents -/

/-! ### Names of a section's own

A section has names beside its settings: that of what checks it, and those that everything has.
-/

/-- The name of what checks a section. A section that sets it cannot be checked. -/
def checkName : String := "validate"

/-- The name of what a section is. It cannot be set to a value. -/
def kindName : String := "__class__"

/-- The name of the references to a section. It cannot be set. -/
def referencesName : String := "__weakref__"

/-- The name of all that is set in a section. It can be set to a mapping. -/
def contentsName : String := "__dict__"

/-- The name of the list of a section's settings, by which the section is written. -/
def shapeName : String := "__dataclass_fields__"

/-! ### Sections -/

/-- The entries of a section; one that is missing or empty has none. -/
def sectionEntries (name : String) (document : List (Value × Value)) :
    Except Fault (List (Value × Value)) :=
  match Value.lookupText? name document with
  | none => .ok []
  | some (.dict entries) => .ok entries
  | some value =>
    if value.isTruthy then
      .error (.unsupported "a section must be a mapping")
    else .ok []

/-- The settings with the standard ones in a section. -/
def clearSection (s : Settings) (sectionName : String) : Settings :=
  match sectionName with
  | "engine" => { s with engine := .standard }
  | "logging" => { s with logging := .standard }
  | _ => s

/-- Sets the setting that an entry of a section's contents names. -/
def assignContent (sectionName : String) (s : Settings) (entry : Value × Value) : Settings :=
  match entry.1 with
  | .text key => s.assignIn (some sectionName) key entry.2
  | _ => s

/-- Sets what an entry of a section names: a setting, or one of the section's own names. -/
def assignEntry (sectionName : String) (s : Settings) (entry : Value × Value) :
    Except Fault Settings :=
  match entry.1 with
  | .text key =>
    if key = kindName then
      .error (.misfit (.notText "what a section is cannot be set to a value"))
    else if key = referencesName then
      .error (.unsupported "the references to a section cannot be set")
    else if key = contentsName then
      match entry.2 with
      | .dict contents =>
        .ok (contents.foldl (assignContent sectionName) (s.clearSection sectionName))
      | _ => .error (.misfit (.notText "the contents of a section must be a mapping"))
    else .ok (s.assignIn (some sectionName) key entry.2)
  | _ => .error (.misfit (.notText "the name of a setting must be a text"))

/-- Sets the settings of a section that a document has. -/
def applySection (document : List (Value × Value)) (s : Settings) (sectionName : String) :
    Except Fault Settings := do
  let entries ← sectionEntries sectionName document
  entries.foldlM (assignEntry sectionName) s

/-- Sets a setting outside of the sections, if a document has it. -/
def applyTop (document : List (Value × Value)) (s : Settings) (name : String) : Settings :=
  match Value.lookupText? name document with
  | some value => s.assign name value
  | none => s

def applyDocument (s : Settings) (document : List (Value × Value)) : Except Fault Settings :=
  ["engine", "logging"].foldlM (applySection document)
    (["app_name", "version", "debug"].foldl (applyTop document) s)

/-- What a section has been given under a name of its own behind an entry, by what it had before. -/
def ownValue? (name : String) (before : Option Value) (entry : Value × Value) : Option Value :=
  match entry.1 with
  | .text key =>
    if key = name then some entry.2
    else if key = contentsName then
      match entry.2 with
      | .dict contents => Value.lookupText? name contents
      | _ => before
    else before
  | _ => before

/-- What a section of a document is given under a name of its own. -/
def ownIn? (name : String) (document : List (Value × Value)) (sectionName : String) :
    Option Value :=
  match sectionEntries sectionName document with
  | .ok entries => entries.foldl (ownValue? name) none
  | .error _ => none

/-- Refuses a section that cannot be checked. -/
def checkable (document : List (Value × Value)) (sectionName : String) : Except Fault Unit :=
  if (ownIn? checkName document sectionName).isSome then
    .error (.misfit (.notText "the check of a section is not callable"))
  else .ok ()

/-- Checks the settings; no section of the document may set the name of what checks it. -/
def checkWith (s : Settings) (document : List (Value × Value)) : Except Fault Unit := do
  checkable document "engine"
  s.engine.check
  checkable document "logging"
  s.logging.check

/-! ## Files -/

def unreadable (path : Path) : FileStore.ReadFlaw → Fault
  | .encoding flaw => .undecodable flaw
  | .file flaw =>
    Fault.report .settings ("Failed to read config file: " ++ flaw.text path.string)
      [("path", path.string)]

/-- The entries of a settings file. A file without content has none. -/
def readDocument (store : FileStore) (path : Path) : Except Fault (List (Value × Value)) := do
  let text ← (store.readText path).mapError (unreadable path)
  let value ← (Yaml.load text).mapError Yaml.Flaw.fault
  match value with
  | .dict entries => return entries
  | value =>
    if value.isTruthy then
      throw (Fault.report .settings "Config file must contain a mapping" [("path", path.string)])
    else return []

def fileName : Path := Path.ofString "config.yaml"

/-- Whether a file is there; that cannot be told of every path. -/
def isThere (store : FileStore) (path : Path) : Except Fault Bool :=
  (store.has path).mapError fun flaw => .file flaw path.string

/-- The path that settings are loaded from: the given one, or that in the directory of settings
files. An empty path counts as none. -/
def loadPath (env : Environment) (path? : Option String) : Path :=
  match path?.filter (!·.isEmpty) with
  | some text => Path.ofString text
  | none => env.settingsDirectory.append fileName

/-- The settings file, if there is one. A path that is given must lead to one. -/
def findFile (env : Environment) (store : FileStore) (path? : Option String) :
    Except Fault (Option Path) := do
  let path := loadPath env path?
  if ← isThere store path then return some path
  else if (path?.filter (!·.isEmpty)).isSome then
    throw (Fault.report .settings "Config file not found" [("path", path.string)])
  else return none

/-- The entries of the settings file, none if there is no file. -/
def findDocument (env : Environment) (store : FileStore) (path? : Option String) :
    Except Fault (List (Value × Value)) := do
  match ← findFile env store path? with
  | some path => readDocument store path
  | none => return []

/-- The settings of a document and, if wanted, of the environment. -/
def ofDocument (env : Environment) (usesEnvironment : Bool) (document : List (Value × Value)) :
    Except Fault Settings := do
  let start : Settings := { standard with directory := env.settingsDirectory.string }
  let s ← start.applyDocument document
  let s ← if usesEnvironment then s.applyEnvironment env else pure s
  s.checkWith document
  return s

def load (env : Environment) (store : FileStore) (path? : Option String) (usesEnvironment : Bool) :
    Except Fault Settings := do
  ofDocument env usesEnvironment (← findDocument env store path?)

/-- Settings with what a document puts in the place of the lists of the sections' settings. -/
structure Config where
  settings : Settings
  engineShape : Option Value
  loggingShape : Option Value
  deriving Repr, Inhabited

namespace Config

def ofSettings (s : Settings) : Config :=
  ⟨s, none, none⟩

def load (env : Environment) (store : FileStore) (path? : Option String) (usesEnvironment : Bool) :
    Except Fault Config := do
  let document ← findDocument env store path?
  let s ← ofDocument env usesEnvironment document
  return ⟨s, ownIn? shapeName document "engine", ownIn? shapeName document "logging"⟩

end Config

end Settings
end Switchboard
