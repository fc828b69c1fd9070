import Switchboard.Cli.Arguments
import Switchboard.Cli.Report
import Switchboard.Log.Journal
import Switchboard.Request
import Switchboard.Router.Delivery
import Switchboard.Settings.Load

/-!
# Running the program

The program loads its settings and sets its journal up; then it lists the rules, delivers one message,
or delivers the messages of its input until that ends. Raw output and reports are printed; log
records go to the journal. A fault of the program's own is printed and ends it; any other fault
leaves it.
-/

namespace Switchboard
namespace Cli

open Text

/-! ## Sessions -/

/-- The router at work, what is printed so far, and the journal. -/
structure Session where
  router : Router
  printed : String
  journal : Log.Journal

/-- How the program ends: with a code, or by a fault that leaves it. -/
inductive Ending
  | code (n : Nat)
  | fault (fault : Fault)
  deriving Repr

namespace Session

def print (s : Session) (text : String) : Session :=
  { s with printed := s.printed ++ text }

/-- The part of the program that a logger is named for. -/
def partOf (logger : String) : String :=
  String.ofList ((splitAll '.' logger.toList).getLast?.getD [])

def recordOf (level : Log.Level) (logger text : String) : Log.Record :=
  ⟨level.name, level.number, logger, text, partOf logger, "", 0, none, []⟩

def note (s : Session) (now : Calendar.Moment) (level : Log.Level) (logger text : String) :
    Session :=
  { s with journal := s.journal.log now (recordOf level logger text) }

/-- Prints an event, or takes it into the journal. -/
def take (now : Calendar.Moment) (s : Session) (event : Event) : Session :=
  match event with
  | .raw text => s.print (lineOf text)
  | .log severity origin text => s.note now (.ofSeverity severity) origin.logger text
  | _ => s

/-- Goes on with a router that may have events to show. -/
def goOn (s : Session) (now : Calendar.Moment) (router : Router) : Session :=
  { router.trail.foldl (take now) s with router := { router with trail := [] } }

end Session

/-! ## Modes -/

def runCheck (around : Surroundings) (s : Session) : Except Fault Nat × Session :=
  let (loaded, router) := s.router.load around none
  let s := s.goOn around.source.now router
  match loaded with
  | .error fault => (.error fault, s)
  | .ok _ => (.ok 0, (s.print (rulesText router)).goOn around.source.now s.router.unload)

/-- The greatest number of messages from the queue that a test delivers. -/
def testLimit : Nat := 100

/-- Delivers a message and prints what became of it. -/
def deliverTest (around : Surroundings) (s : Session) (m : Message) : Except Fault Nat × Session :=
  let now := around.source.now
  let (delivery, router) := s.router.dispatch around m
  let s := s.goOn now router
  match delivery.fault with
  | some fault => (.error fault, s)
  | none =>
    let m := delivery.message
    let s := s.print (messageText m)
    let (queued, router) := s.router.processPending around testLimit
    let s := (s.goOn now router).print (String.join (queued.map queuedText))
    (.ok (if (m.error.getD "").isEmpty then 0 else 1), s.goOn now s.router.unload)

/-- Loads the rules and delivers a message, and then those that it put into the queue. -/
def runTest (around : Surroundings) (name : String) (pairs : List String) (s : Session) :
    Except Fault Nat × Session :=
  let (loaded, router) := s.router.load around none
  let s := s.goOn around.source.now router
  match loaded, Message.ofRequest around.source.now name (pairs.map (·.toList)) with
  | .error fault, _ => (.error fault, s)
  | .ok _, .error fault => (.error fault, s)
  | .ok _, .ok m => deliverTest around s m

/-! ## The daemon -/

/-- What comes to the daemon: a line of its input, and the wishes to reload the rules and to end. -/
inductive Call
  | line (text : String)
  | reload
  | halt
  deriving DecidableEq, Repr

def mainLogger : String := "regexp_handler.main"

def startDaemon (around : Surroundings) (s : Session) : Except Fault Unit × Session :=
  let now := around.source.now
  let (started, router) := (s.router.absorb (Router.workerNote "started")).startUp around
  let s := s.goOn now router
  match started with
  | .error fault => (.error fault, s)
  | .ok _ => (.ok (), s.note now .info mainLogger "Reading messages from stdin")

/-- The message that asks the router to reload its rules. -/
def reloadMessage (now : Calendar.Moment) (settings : EngineSettings) : Message :=
  Message.fresh (Router.messageName settings.commandMessage) [("line", settings.reloadCommand)] now

/-- The message of a line of the input; a blank line has none. -/
def messageOfLine (now : Calendar.Moment) (settings : EngineSettings) (line : String) :
    Except Fault (Option Message) :=
  let text := strip line.toList
  if settings.reloadCommand.isText (String.ofList text) then
    if text.isEmpty then .ok none else .ok (some (reloadMessage now settings))
  else
    match words text with
    | [] => .ok none
    | name :: pairs => (Message.ofRequest now (String.ofList name) pairs).map some

/-- Delivers a message and those that it puts into the queue. -/
def deliverAll (around : Surroundings) (s : Session) (m : Message) : Session :=
  s.goOn around.source.now (s.router.deliverNow around m).2

/-- Ends the daemon: its hook for the end is called. -/
def haltDaemon (around : Surroundings) (s : Session) : Except Fault Nat × Session :=
  let now := around.source.now
  let name := Router.messageName s.router.settings.haltMessage
  let (delivery, router) := s.router.dispatch around (Message.fresh name [] now)
  let s := s.goOn now router
  match delivery.fault with
  | some fault => (.error fault, s)
  | none => (.ok 0, s.goOn now (s.router.absorb (Router.workerNote "stopped")))

def answer (around : Surroundings) (s : Session) (call : Call) :
    Option (Except Fault Nat) × Session :=
  let now := around.source.now
  match call with
  | .reload =>
    let s := s.note now .info mainLogger "SIGHUP received, reloading rules"
    (none, deliverAll around s (reloadMessage now s.router.settings))
  | .halt =>
    let (ending, s) := haltDaemon around (s.note now .info mainLogger "Shutting down...")
    (some ending, s)
  | .line text =>
    match messageOfLine now s.router.settings text with
    | .error fault => (some (.error fault), s)
    | .ok none => (none, s)
    | .ok (some m) => (none, deliverAll around s m)

/-- Answers calls in the surroundings of each, up to one that ends the daemon or the end of its
input. -/
def runCalls (last : Surroundings) (s : Session) :
    List (Surroundings × Call) → Except Fault Nat × Session
  | [] => haltDaemon last s
  | (around, call) :: calls =>
    match answer around s call with
    | (some ending, s) => (ending, s)
    | (none, s) => runCalls last s calls

def runDaemon (around last : Surroundings) (calls : List (Surroundings × Call)) (s : Session) :
    Except Fault Nat × Session :=
  match startDaemon around s with
  | (.error fault, s) => (.error fault, s)
  | (.ok _, s) => runCalls last s calls

/-! ## The program -/

def applyOptions (options : Options) (settings : Settings) : Settings :=
  let settings := match options.rules.filter (!·.isEmpty) with
    | some path => settings.assignIn (some "engine") "rules_file" (.text path)
    | none => settings
  if options.debug then
    (settings.assign "debug" (.bool true)).assignIn (some "logging") "level" (.text "DEBUG")
  else settings

/-- Loads the settings that the arguments ask for and sets the journal up. -/
def openSession (env : Environment) (store : FileStore) (options : Options) :
    Except Fault Session := do
  let settings ← Settings.load env store options.config true
  let settings := applyOptions options settings
  let journal ← (Log.Journal.start store).setUp settings.logging
  return ⟨Router.start settings.engine, "", journal⟩

/-- How the program ends, and what it prints last. -/
def endingOf : Except Fault Nat → Ending × String
  | .ok n => (.code n, "")
  | .error fault => if fault.isReported then (.code 1, faultText fault) else (.fault fault, "")

/-- Runs the program in the mode of its options; `run` runs the daemon. -/
def runMode (around : Surroundings) (options : Options)
    (run : Session → Except Fault Nat × Session) (s : Session) : Except Fault Nat × Session :=
  match options.mode with
  | some .check => runCheck around s
  | some (.test name pairs) => runTest around name pairs s
  | some .daemon => run s
  | none => (.ok 0, s.print modeText)

structure Outcome where
  ending : Ending
  printed : String

def conclude (finished : Except Fault Nat × Session) : Outcome :=
  let (ending, last) := endingOf finished.1
  ⟨ending, finished.2.printed ++ last⟩

def run (env : Environment) (around last : Surroundings) (args : List String)
    (calls : List (Surroundings × Call)) : Outcome :=
  match readArguments args with
  | .error .usage => ⟨.code 2, ""⟩
  | .error .help => ⟨.code 0, helpText⟩
  | .ok options =>
    match openSession env around.store options with
    | .error fault =>
      let (ending, printed) := endingOf (.error fault)
      ⟨ending, printed⟩
    | .ok s => conclude (runMode around options (runDaemon around last calls) s)

end Cli
end Switchboard
