import Switchboard.Request
import Switchboard.Rules.Guard
import Switchboard.Rules.Rule
import Switchboard.Template.Fill

/-!
# Evaluation of rules

A command finishes with the message or gives the next line of its chain, which is parsed and run
in turn; a guard bounds the length of the chain. A context runs its rules in order until one of
them settles the message. Contexts call each other; a guard bounds how deep.

Every function gives the state it leaves behind, also where it fails.
-/

namespace Switchboard

open Text

/-! ## What is at hand, and what comes out -/

/-- The host of an evaluation may refuse a message for its queue, with a text that says why. -/
structure Host where
  refusal? : Message → Option String

namespace Host

def accepting : Host :=
  ⟨fun _ => none⟩

end Host

/-- What an evaluation needs besides the message: time and chance, the host, the contexts and
the guards. -/
structure Scene where
  source : Source
  host : Host
  contexts : Entries (List Rule)
  limits : Limits

/-- What commands change: the message, and what has been drawn. -/
structure State where
  message : Message
  draws : Draws
  deriving Repr, Inhabited

structure Outcome where
  state : State
  events : List Event
  fault : Option Fault
  deriving Repr, Inhabited

namespace Outcome

def after (events : List Event) (o : Outcome) : Outcome :=
  { o with events := events ++ o.events }

end Outcome

inductive Next
  | done
  | line (text : List Char)
  | fault (fault : Fault)
  deriving Repr, Inhabited

structure Step where
  state : State
  events : List Event
  next : Next
  deriving Repr, Inhabited

/-- Runs the rules of a context that was called by its name. -/
abbrev Enter := String → List Rule → State → Outcome

/-! ## Commands -/

def State.fill (scene : Scene) (state : State) (template : List Char) :
    Except Fault (List Char) × State :=
  let (result, draws) := fillTemplate scene.source state.message template state.draws
  (result, { state with draws := draws })

/-- The target of a command, filled in, as its next line. -/
def chainTarget (scene : Scene) (command : Command) (events : List Event) (state : State) : Step :=
  match state.fill scene (command.target.getD []) with
  | (.error fault, state) => ⟨state, events, .fault fault⟩
  | (.ok line, state) => ⟨state, events, .line line⟩

def invalidPatternWarning (pattern : List Char) : Event :=
  .log .warning .evaluation ("Invalid pattern " ++ String.ofList (quoted pattern))

/-- The line that a test gives: the target with the groups of the match filled in, the empty line
if nothing matches or the pattern is none. -/
def testLine (pattern text target : List Char) : List Event × Next :=
  match Pattern.Compiled.ofText pattern with
  | .error .malformed => ([invalidPatternWarning pattern], .line [])
  | .error flaw => ([], .fault (Fault.ofPatternFlaw flaw))
  | .ok compiled =>
    match applyCaptures compiled text target with
    | .error fault => ([], .fault fault)
    | .ok line => ([], .line line)

def runTest (scene : Scene) (command : Command) (state : State) : Step :=
  let condition := Condition.ofArgs command.args
  match state.fill scene condition.source with
  | (.error fault, state) => ⟨state, [], .fault fault⟩
  | (.ok text, state) =>
    let (events, next) := testLine condition.pattern text (command.target.getD [])
    ⟨state, events, next⟩

/-- Writes parameters into fields, up to the first that cannot be read. -/
def writeParameters : Entries String → Message → Message × Option Fault
  | [], m => (m, none)
  | (key, text) :: rest, m =>
    match Value.ofCommandText text with
    | .error flaw => (m, some (Fault.ofIntegerFlaw text.toList flaw))
    | .ok value => writeParameters rest (m.set key value)

/-- Writes the result, unless its text is empty. -/
def writeResult (args : List Char) (m : Message) : Message × Option Fault :=
  if args.isEmpty then (m, none)
  else
    match Value.ofCommandText (String.ofList args) with
    | .error flaw => (m, some (Fault.ofIntegerFlaw args flaw))
    | .ok value => ({ m with result := value, handled := true }, none)

/-- Writes parameters, and then the result. -/
def writeAnswer (args : List Char) (pairs : Entries String) (m : Message) :
    Message × Option Fault :=
  match writeParameters pairs m with
  | (m, some fault) => (m, some fault)
  | (m, none) => writeResult args m

/-- Answers: parameters become fields, and argument text becomes the result. -/
def runAnswer (scene : Scene) (command : Command) (state : State) : Step :=
  match state.fill scene command.args with
  | (.error fault, state) => ⟨state, [], .fault fault⟩
  | (.ok args, state) =>
    -- both texts are filled before anything is written, so neither sees what the other writes
    match state.fill scene command.params with
    | (.error fault, state) => ⟨state, [], .fault fault⟩
    | (.ok params, state) =>
      match writeAnswer (strip args) (parameters params) state.message with
      | (m, some fault) => ⟨{ state with message := m }, [], .fault fault⟩
      | (m, none) => ⟨{ state with message := m }, [], .done⟩

/-- Writes argument and parameter text to the raw output. -/
def runEcho (scene : Scene) (command : Command) (state : State) : Step :=
  match state.fill scene command.args with
  | (.error fault, state) => ⟨state, [], .fault fault⟩
  | (.ok args, state) =>
    match state.fill scene command.params with
    | (.error fault, state) => ⟨state, [], .fault fault⟩
    | (.ok params, state) =>
      chainTarget scene command [.raw (String.ofList (args ++ params))] state

def namelessFault (command : Command) : Fault :=
  Fault.report .enqueue "enqueue needs a message name" [("params", String.ofList command.params)]

def submission (scene : Scene) (command : Command) (state : State) :
    Except Fault Message × State :=
  match state.fill scene command.args with
  | (.error fault, state) => (.error fault, state)
  | (.ok args, state) =>
    if (strip args).isEmpty then (.error (namelessFault command), state)
    else
      match state.fill scene command.params with
      | (.error fault, state) => (.error fault, state)
      | (.ok params, state) =>
        match readParameters params with
        | .error fault => (.error fault, state)
        | .ok fields =>
          let m := Message.fresh (String.ofList (strip args)) fields scene.source.now
          match scene.host.refusal? m with
          | some text => (.error (.handler text), state)
          | none => (.ok m, state)

/-- What happens when no message could be submitted: a log record, and a report to the host. -/
def submissionFailed (fault : Fault) : List Event :=
  [.log .error .evaluation ("enqueue failed: " ++ fault.text),
    .error [.text "regexp enqueue", .text fault.text]]

/-- Submits a message; a failure is reported and goes no further. -/
def runEnqueue (scene : Scene) (command : Command) (state : State) : Step :=
  match submission scene command state with
  | (.ok m, state) => chainTarget scene command [.enqueue m] state
  | (.error fault, state) => chainTarget scene command (submissionFailed fault) state

def State.markReturned (mark : Bool) (state : State) : State :=
  { state with message := { state.message with returned := mark } }

/-- Runs another context on the message; nothing happens if there is none of that name. A jump
skips the rest of the calling context. -/
def runCall (scene : Scene) (enter : Enter) (jump : Bool) (args : List Char) (state : State) :
    Step :=
  let name := String.ofList (strip args)
  match scene.contexts.get? name with
  | none => ⟨state, [], .done⟩
  | some rules =>
    let outcome := enter name rules state
    match outcome.fault with
    | some fault => ⟨outcome.state, outcome.events, .fault fault⟩
    | none =>
      -- behind a jump the calling context ends too
      ⟨if jump then outcome.state.markReturned true else outcome.state, outcome.events, .done⟩

def execute (scene : Scene) (enter : Enter) (command : Command) (state : State) : Step :=
  match command.action with
  | some .call => runCall scene enter false command.args state
  | some .jump => runCall scene enter true command.args state
  | some .answer => runAnswer scene command (state.markReturned true)
  | none => runAnswer scene command state
  | some .test => runTest scene command state
  | some .echo => runEcho scene command state
  | some .enqueue => runEnqueue scene command state
  | some .dispatch => ⟨state, [], .line (command.target.getD [])⟩

/-! ## Chains, contexts and nesting -/

/-- Runs a command and the lines that follow from it, as many commands as are left. -/
def runChain (scene : Scene) (enter : Enter) : Nat → Command → State → Outcome
  | 0, _, state => ⟨state, [], some (scene.limits.chainFault state.message.name)⟩
  | left + 1, command, state =>
    let step := execute scene enter command state
    match step.next with
    | .done => ⟨step.state, step.events, none⟩
    | .fault fault => ⟨step.state, step.events, some fault⟩
    | .line line => (runChain scene enter left (Command.parse line) step.state).after step.events

def runCommand (scene : Scene) (enter : Enter) (command : Command) (state : State) : Outcome :=
  runChain scene enter scene.limits.chain.count command state

/-- Runs rules in order. The first rule that settles the message is the last one to run. -/
def runRules (scene : Scene) (enter : Enter) : List Rule → State → Outcome
  | [], state => ⟨state, [], none⟩
  | rule :: rules, state =>
    let outcome := runCommand scene enter rule.command state
    match outcome.fault with
    | some _ => outcome
    | none =>
      if outcome.state.message.isSettled then
        -- the mark does not leave the context
        { outcome with state := outcome.state.markReturned false }
      else (runRules scene enter rules outcome.state).after outcome.events

/-- Enters a context with so many levels left. -/
def enterAt (scene : Scene) : Nat → Enter
  | 0, name, _, state =>
    ⟨state, [], some (scene.limits.nestingFault state.message.name name)⟩
  | levels + 1, _, rules, state => runRules scene (enterAt scene levels) rules state

/-- Evaluates the rules of a context at a depth. -/
def evaluateRules (scene : Scene) (depth : Int) (rules : List Rule) (state : State) : Outcome :=
  runRules scene (enterAt scene (scene.limits.nesting.levelsAt depth)) rules state

def runAt (scene : Scene) (depth : Int) (command : Command) (state : State) : Outcome :=
  runCommand scene (enterAt scene (scene.limits.nesting.levelsAt depth)) command state

end Switchboard
