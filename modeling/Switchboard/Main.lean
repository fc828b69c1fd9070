import Std.Time
import Switchboard.Cli.Session

/-!
# The command

The outer layer of the program: it reads the arguments, the environment, the clock and the files
that the program may need, and writes what the program prints and keeps in its journal.
-/

namespace Switchboard
namespace Main

open Cli

def variableNames : List String :=
  ["HOME", "XDG_CONFIG_HOME", "REGEXP_HANDLER_CONFIG_DIR"] ++ Variable.all.map (·.name)

def readEnvironment : IO Environment :=
  variableNames.filterMapM fun name => do
    return (← IO.getEnv name).map fun value => (name, value)

def currentMoment : IO Calendar.Moment := do
  let t ← Std.Time.PlainDateTime.now
  return ⟨t.year.toInt.toNat, t.month.val.toNat, t.day.val.toNat, t.hour.val.toNat,
    t.minute.val.toNat, t.second.val.toNat, t.nanosecond.val.toNat / 1000, none⟩

def currentSource (seed : Nat) : IO Source :=
  return ⟨← currentMoment, fun k => ((stdNext (mkStdGen (seed + 7919 * k))).1 : Int)⟩

def readInto (store : FileStore) (path : String) : IO FileStore := do
  let p := Path.ofString path
  try
    let bytes ← IO.FS.readBinFile p.string
    return store.put p bytes.toList
  catch
    | .inappropriateType .. => return ((store.makeDirectories p).toOption).getD store
    | _ => return store.remove p

/-- The store that knows nothing but the root directory. -/
def emptyStore : FileStore :=
  [(FileStore.rootParts, .directory)]

def readSettings (env : Environment) (options : Options) : IO FileStore :=
  match options.config.filter (!·.isEmpty) with
  | some path => readInto emptyStore path
  | none => readInto emptyStore (env.settingsDirectory.append Settings.fileName).string

/-- What the router works in now. -/
def surroundings (seed : Nat) (store : FileStore) (s : Session) : IO Surroundings := do
  let source ← currentSource seed
  match s.router.settings.rulesFile with
  | .text path => return ⟨source, ← readInto store path⟩
  | _ => return ⟨source, store⟩

/-- Adds what the journal has for a file to it. -/
def appendFile (store : FileStore) (path : Path) : IO Unit := do
  match store.readBytes path with
  | .ok bytes =>
    IO.FS.createDirAll path.parent.string
    let file ← IO.FS.Handle.mk path.string .append
    file.write (ByteArray.mk bytes.toArray)
  | .error _ => return

def fileOf? : Log.Sink → Option Path
  | .plainFile path => some path
  | .jsonFile path => some path
  | .errorFile path => some path
  | _ => none

/-- Writes what was printed and what the journal has, and goes on with nothing written. -/
def flush (s : Session) : IO Session := do
  IO.print s.printed
  IO.eprint (String.ofList s.journal.console)
  (← IO.getStdout).flush
  let files := s.journal.sinks.filterMap fileOf?
  for path in files do
    appendFile s.journal.store path
  let store := files.foldl (fun store path => store.remove path) s.journal.store
  return { s with printed := "", journal := { s.journal with console := [], store := store } }

def finish (finished : Except Fault Nat) : IO UInt32 := do
  let (ending, last) := endingOf finished
  IO.print last
  match ending with
  | .code n => return n.toUInt32
  | .fault fault =>
    IO.eprintln fault.text
    return 1

partial def serve (seed : Nat) (store : FileStore) (input : IO.FS.Stream) (s : Session) :
    IO UInt32 := do
  let line ← input.getLine
  let around ← surroundings seed store s
  if line.isEmpty then
    let (finished, s) := haltDaemon around s
    let _ ← flush s
    finish finished
  else
    match answer around s (.line line) with
    | (some finished, s) =>
      let _ ← flush s
      finish finished
    | (none, s) => serve seed store input (← flush s)

def runOptions (options : Options) : IO UInt32 := do
  let env ← readEnvironment
  let store ← readSettings env options
  let seed ← IO.rand 0 (Nat.pow 2 30)
  match openSession env store options with
  | .error fault => finish (.error fault)
  | .ok s =>
    let around ← surroundings seed store s
    if options.mode == some .daemon then
      match startDaemon around s with
      | (.error fault, s) =>
        let _ ← flush s
        finish (.error fault)
      | (.ok _, s) => serve seed store (← IO.getStdin) (← flush s)
    else
      let (finished, s) := runMode around options (fun s => (.ok 0, s)) s
      let _ ← flush s
      finish finished

end Main
end Switchboard

def main (args : List String) : IO UInt32 := do
  match Switchboard.Cli.readArguments args with
  | .error .help =>
    IO.print Switchboard.Cli.helpText
    return 0
  | .error .usage =>
    IO.eprint Switchboard.Cli.helpText
    return 2
  | .ok options => Switchboard.Main.runOptions options
