import Switchboard.Settings.Load
import Switchboard.Yaml.Write

/-!
# Saving settings

Settings are written to a file in the form in which they are loaded, all of them but the directory
of the settings file.
-/

namespace Switchboard

/-! ## What cannot be written -/

namespace Value

mutual

/-- Why a value cannot be written with room for so many levels: an integer of too many digits is in
it, or it is nested too deep. -/
def writeFault? : Nat → Value → Option Fault
  | 0, _ => some .tooDeep
  | _ + 1, .int n => if (int n).isWritable then .none else some (.tooManyDigits .none)
  | levels + 1, .list items => itemsWriteFault? levels items
  | levels + 1, .dict entries => entriesWriteFault? levels entries
  | _ + 1, _ => .none

def itemsWriteFault? (levels : Nat) : List Value → Option Fault
  | [] => .none
  | item :: items => (item.writeFault? levels).or (itemsWriteFault? levels items)

def entriesWriteFault? (levels : Nat) : List (Value × Value) → Option Fault
  | [] => .none
  | (key, value) :: entries =>
    (key.writeFault? levels).or
      ((value.writeFault? levels).or (entriesWriteFault? levels entries))

end

end Value

namespace Settings

/-! ## Files -/

/-- How deep values may be nested that are written: each takes three calls. -/
def writtenLevels : Nat :=
  callRoom / 3

/-- The file that settings are saved to: the given one, or the one in their directory. An empty path
counts as none. -/
def savePath (s : Settings) (path? : Option String) : Path :=
  match path?.filter (!·.isEmpty) with
  | some text => Path.ofString text
  | none => (Path.ofString s.directory).append fileName

def fileText (s : Settings) : List Char :=
  Yaml.document s.toRecord

def unwritten (path : Path) (flaw : FileFlaw) : Fault :=
  Fault.report .settings ("Failed to save config file: " ++ flaw.text path.string)
    [("path", path.string)]

/-- Writes a record to a file in place of what was there; the directories that contain it are made
first. The file is opened before the record is known. -/
def saveRecord (record : Except Fault (List (Value × Value))) (store : FileStore) (path : Path) :
    Except Fault FileStore := do
  path.parent.refuseNull
  let store ← store.makeDirectories path.parent
  path.refuseNull
  let opened ← (store.writeBytes path []).mapError (unwritten path)
  let record ← record
  if let some fault := (Value.dict record).writeFault? writtenLevels then throw fault
  (opened.writeBytes path (Text.encode (Yaml.document record))).mapError (unwritten path)

def save (s : Settings) (store : FileStore) (path? : Option String) : Except Fault FileStore :=
  saveRecord (.ok s.toRecord) store (s.savePath path?)

/-- The settings of a section by what is in the place of their list: nothing, a list of none, or
something that is no list of settings. -/
def sectionRecord (entries : Entries Value) : Option Value → Except Fault Value
  | none => .ok entries.toValue
  | some (.dict []) => .ok (.dict [])
  | some _ => .error (.unsupported "a section has no list of its settings")

namespace Config

/-- The settings as a mapping, with each section as its list has it. -/
def record (c : Config) : Except Fault (List (Value × Value)) := do
  let engine ← sectionRecord c.settings.engine.entries c.engineShape
  let logging ← sectionRecord c.settings.logging.entries c.loggingShape
  return [(.text "app_name", c.settings.appName), (.text "version", c.settings.version),
    (.text "debug", c.settings.debug), (.text "engine", engine), (.text "logging", logging)]

def save (c : Config) (store : FileStore) (path? : Option String) : Except Fault FileStore :=
  saveRecord c.record store (c.settings.savePath path?)

end Config

end Settings
end Switchboard
