import Switchboard.Files
import Switchboard.Log.Record
import Switchboard.Settings.Check

/-!
# The journal

Where log records go. The loggers of the program make up a tree; the sinks at its root take the
records that are grave enough. A record that no sink is responsible for is written as its bare text
if it is a warning or graver.
-/

namespace Switchboard
namespace Log

/-! ## Loggers -/

def rootName : String := "regexp_handler"

def fullName (name : String) : String :=
  if name.startsWith rootName then name else rootName ++ "." ++ name

def isInTree (logger : String) : Bool :=
  logger == rootName || logger.startsWith (rootName ++ ".")

/-- The number that the name of a level in capitals stands for. -/
def namedNumber : String → Option Nat
  | "NOTSET" => some 0
  | "DEBUG" => some 10
  | "INFO" => some 20
  | "WARN" => some 30
  | "WARNING" => some 30
  | "ERROR" => some 40
  | "FATAL" => some 50
  | "CRITICAL" => some 50
  | _ => none

/-- The number from which bare texts are written. -/
def bareNumber : Nat := 30

/-! ## Sinks -/

/-- What takes records. -/
inductive Sink
  | silent
  | console
  | plainFile (path : Path)
  | jsonFile (path : Path)
  | errorFile (path : Path)
  deriving DecidableEq, Repr

/-- The least number of records that a sink takes. -/
def Sink.least : Sink → Nat
  | .silent => 0
  | .errorFile _ => 40
  | _ => 10

/-- The journal: whether it is set up, the level from which records are kept, the sinks, the
context of the messages at hand, what was written to the console, and the files. -/
structure Journal where
  isSetUp : Bool
  threshold : Nat
  sinks : List Sink
  context : Fields
  console : List Char
  store : FileStore

namespace Journal

/-- A journal that is not set up. -/
def start (store : FileStore) : Journal :=
  ⟨false, 20, [], [], [], store⟩

def appendTo (store : FileStore) (path : Path) (s : List Char) : FileStore :=
  let before := match store.readBytes path with
    | .ok bytes => bytes
    | .error _ => []
  match store.writeBytes path (before ++ Text.encode s) with
  | .ok store => store
  | .error _ => store

/-- Opens a file to add to it; it is made if it is not there. -/
def openFile (store : FileStore) (path : Path) : Except Fault FileStore :=
  match store.readBytes path with
  | .ok _ => .ok store
  | .error .missing =>
    (store.writeBytes path []).mapError fun flaw => .file flaw path.string
  | .error flaw => .error (.file flaw path.string)

/-- The sinks in a directory of log files, and the store with their files. -/
def fileSinks (store : FileStore) (directory : String) (jsonFormat : Bool) :
    Except Fault (List Sink × FileStore) := do
  let path := Path.ofString directory
  path.refuseNull
  let store ← store.makeDirectories path
  let log := path.append (Path.ofString "regexp-handler.log")
  let errors := path.append (Path.ofString "errors.log")
  let store ← openFile store log
  let store ← openFile store errors
  return ([if jsonFormat then .jsonFile log else .plainFile log, .errorFile errors], store)

/-- The number of the level that the settings ask for. A name that is no level's stands for the
level of information. -/
def settingsThreshold (s : LogSettings) : Except Fault Nat :=
  match s.level with
  | .text name => .ok ((namedNumber (LogSettings.capitals name)).getD 20)
  | _ => .error (.unsupported "the level must be a text")

/-- The directory of log files that the settings ask for, if they ask for one. -/
def settingsDirectory (s : LogSettings) : Except Fault (Option String) :=
  match s.directory with
  | .text path => .ok (if path.isEmpty then none else some path)
  | value => if value.isTruthy then .error (.misfit (.notPath value.kindName)) else .ok none

/-- Sets the journal up as the settings ask for, once: a journal that is set up is left as it is. -/
def setUp (j : Journal) (s : LogSettings) : Except Fault Journal := do
  if j.isSetUp then return j
  let threshold ← settingsThreshold s
  let console := if s.console.isTruthy then [Sink.console] else []
  match ← settingsDirectory s with
  | none => return { j with isSetUp := true, threshold := threshold, sinks := console }
  | some directory =>
    let (files, store) ← fileSinks j.store directory s.jsonFormat.isTruthy
    return { j with
      isSetUp := true, threshold := threshold, sinks := console ++ files, store := store }

def addContext (j : Journal) (entries : Fields) : Journal :=
  { j with context := Entries.setAll entries j.context }

def clearContext (j : Journal) : Journal :=
  { j with context := [] }

def thresholdOf (j : Journal) (logger : String) : Nat :=
  if isInTree logger && j.threshold != 0 then j.threshold else bareNumber

def writeConsole (j : Journal) (s : List Char) : Journal :=
  { j with console := j.console ++ s ++ ['\n'] }

def writeFile (j : Journal) (path : Path) (s : List Char) : Journal :=
  { j with store := appendTo j.store path (s ++ ['\n']) }

def write (write : Journal → List Char → Journal) (text : Except Fault (List Char))
    (j : Journal) : Journal :=
  match text with
  | .ok s => write j s
  | .error _ => j

def give (now : Calendar.Moment) (r : Record) (j : Journal) (sink : Sink) : Journal :=
  if r.grade < sink.least then j
  else
    match sink with
    | .silent => j
    | .console => write writeConsole (r.coloredText now) j
    | .plainFile path => writeFile j path (r.plainText now)
    | .jsonFile path => write (writeFile · path) (r.jsonText now) j
    | .errorFile path => write (writeFile · path) (r.jsonText now) j

/-- The record with the context of the journal in the place of its own, if there is one. -/
def addTo (j : Journal) (r : Record) : Record :=
  if j.context.isEmpty then r else { r with context := j.context }

def log (now : Calendar.Moment) (j : Journal) (r : Record) : Journal :=
  if r.grade < j.thresholdOf r.logger then j
  else if isInTree r.logger && !j.sinks.isEmpty then j.sinks.foldl (give now (j.addTo r)) j
  else if r.grade < bareNumber then j
  else j.writeConsole r.message.toList

/-- The names that a record has for its own. -/
def ownNames : List String := [
  "message", "asctime", "name", "msg", "args", "levelname", "levelno", "pathname", "filename",
  "module", "exc_info", "exc_text", "stack_info", "lineno", "funcName", "created", "msecs",
  "relativeCreated", "thread", "threadName", "processName", "process"]

/-- Takes a record in that is bound to extra entries. None of them may have a name of the record's
own; the context among them is the context of the record. -/
def logBound (now : Calendar.Moment) (j : Journal) (r : Record) (extras : Fields) :
    Except Fault Journal :=
  if r.grade < j.thresholdOf r.logger then .ok j
  else
    match extras.keys.find? ownNames.contains with
    | some name => .error (.missingKey name)
    | none =>
      let context := match extras.get? "context" with
        | some (.dict entries) => entries.filterMap fun (key, value) =>
          match key with
          | .text name => some (name, value)
          | _ => none
        | _ => []
      .ok (j.log now { r with context := context })

end Journal
end Log
end Switchboard
