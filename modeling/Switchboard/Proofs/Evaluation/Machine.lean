import Switchboard.Proofs.Evaluation.Commands

/-!
# Evaluation as a machine

`evaluateRules` recurses on what its guards leave over, so that it ends by construction. This
module gives the same evaluation as a machine that knows nothing of an end: it goes on rule by
rule and command by command, counts the commands of a chain and the levels of nesting upwards, and
holds the counts against the guards before each command and each call.

What holds during an evaluation is a statement about the configurations of a run. `move_of_step`
tells the kinds of steps apart, and `Run.invariant` proves such statements from what one step
preserves.
-/

namespace Switchboard

open Text

/-! ## Guards -/

namespace Guard

/-- Whether a number lies below the bound; a guard that bounds nothing lets nothing pass. -/
def admits (n : Int) : Guard → Bool
  | .upTo count _ => n < count
  | .unordered _ => false

theorem admits_iff_lt_count (g : Guard) (n : Nat) : g.admits n = true ↔ n < g.count := by
  cases g with
  | upTo bound label => simp [admits, Guard.count]
  | unordered kind => simp [admits, Guard.count]

end Guard

namespace Machine

/-! ## Configurations -/

/-- What is to be done next: go on with the rules of a context, try a command in a chain of which
`done` commands have been executed, leave a chain, leave a context, or stop with a fault. -/
inductive Control
  | rules (rules : List Rule)
  | command (done : Nat) (command : Command)
  | chainEnd
  | contextEnd
  | failed (fault : Fault)

/-- What waits for an end: a context for the chain of one of its rules, or a chain for the context
that it called at a depth. -/
inductive Frame
  | rules (rest : List Rule)
  | call (jump : Bool) (depth : Int)

/-- An evaluation in progress. -/
structure Config where
  control : Control
  stack : List Frame
  depth : Int
  state : State
  events : List Event

namespace Config

/-- The start of the evaluation of rules at a depth. -/
def start (rules : List Rule) (depth : Int) (state : State) : Config :=
  ⟨.rules rules, [], depth, state, []⟩

/-- What the evaluation leaves behind, once it is over. -/
def outcome? (c : Config) : Option Outcome :=
  match c.control, c.stack with
  -- nothing catches a fault on the way, whatever waits on the stack
  | .failed fault, _ => some ⟨c.state, c.events, some fault⟩
  | .contextEnd, [] => some ⟨c.state, c.events, none⟩
  | _, _ => none

theorem outcome?_eq_some {c : Config} {o : Outcome} (h : c.outcome? = some o) :
    o.state = c.state ∧ o.events = c.events ∧
      ((o.fault = none ∧ c.control = .contextEnd ∧ c.stack = []) ∨
        ∃ fault, o.fault = some fault ∧ c.control = .failed fault) := by
  unfold outcome? at h
  split at h
  case h_1 fault hcontrol =>
    cases h
    exact ⟨rfl, rfl, .inr ⟨fault, rfl, hcontrol⟩⟩
  case h_2 hcontrol hstack =>
    cases h
    exact ⟨rfl, rfl, .inl ⟨rfl, hcontrol, hstack⟩⟩
  case h_3 => cases h

end Config

/-! ## Steps -/

/-- Enters the context of a name unless the guard refuses; a context that does not exist ends the
chain. -/
def enter (scene : Scene) (jump : Bool) (args : List Char) (c : Config) : Config :=
  let name := String.ofList (strip args)
  match scene.contexts.get? name with
  | none => { c with control := .chainEnd }
  | some rules =>
    if scene.limits.nesting.admits c.depth then
      -- the frame keeps the depth to which the end of the context leads back
      { c with
        control := .rules rules
        stack := .call jump c.depth :: c.stack
        depth := c.depth + 1 }
    else { c with control := .failed (scene.limits.nestingFault c.state.message.name name) }

/-- Takes in what a command did that called no context. -/
def take (done : Nat) (s : Step) (c : Config) : Config :=
  { c with
    control :=
      match s.next with
      | .done => .chainEnd
      | .line line => .command done (Command.parse line)
      | .fault fault => .failed fault
    state := s.state
    events := c.events ++ s.events }

/-- Executes a command as number `done + 1` of its chain. -/
def perform (scene : Scene) (done : Nat) (command : Command) (c : Config) : Config :=
  match command.action with
  | some .call => enter scene false command.args c
  | some .jump => enter scene true command.args c
  | some .answer => take (done + 1) (runAnswer scene command (c.state.markReturned true)) c
  | none => take (done + 1) (runAnswer scene command c.state) c
  | some .test => take (done + 1) (runTest scene command c.state) c
  | some .echo => take (done + 1) (runEcho scene command c.state) c
  | some .enqueue => take (done + 1) (runEnqueue scene command c.state) c
  | some .dispatch => take (done + 1) ⟨c.state, [], .line (command.target.getD [])⟩ c

/-- One step, unless the evaluation is over. -/
def step (scene : Scene) (c : Config) : Option Config :=
  match c.control, c.stack with
  | .rules [], _ => some { c with control := .contextEnd }
  | .rules (rule :: rest), stack =>
    some { c with control := .command 0 rule.command, stack := .rules rest :: stack }
  | .command done command, _ =>
    if scene.limits.chain.admits done then some (perform scene done command c)
    else some { c with control := .failed (scene.limits.chainFault c.state.message.name) }
  | .chainEnd, .rules rest :: stack =>
    if c.state.message.isSettled then
      -- the mark does not leave the context
      some { c with
        control := .contextEnd, stack := stack, state := c.state.markReturned false }
    else some { c with control := .rules rest, stack := stack }
  | .contextEnd, .call jump depth :: stack =>
    some { c with
      control := .chainEnd
      stack := stack
      depth := depth
      state := if jump then c.state.markReturned true else c.state }
  | _, _ => none

/-! ## The kinds of steps -/

/-- Whether a command that calls a context jumps there. Other commands call none. -/
def jumps? (command : Command) : Option Bool :=
  match command.action with
  | some .call => some false
  | some .jump => some true
  | _ => none

/-- The state in which a return-style command answers. Other commands do not answer. -/
def answering? (command : Command) (state : State) : Option State :=
  match command.action with
  | some .answer => some (state.markReturned true)
  | none => some state
  | _ => none

theorem answering?_eq_some {command : Command} {state marked : State}
    (h : answering? command state = some marked) : ∃ mark, marked = state.markReturned mark := by
  unfold answering? at h
  split at h
  case h_1 =>
    cases h
    exact ⟨true, rfl⟩
  case h_2 =>
    cases h
    exact ⟨state.message.returned, rfl⟩
  case h_3 => cases h

/-- One step, told by what it is a step of. Of a command that neither calls nor answers it says as
much as its lemma does. -/
inductive Move (scene : Scene) (c : Config) : Config → Prop
  | noRule : c.control = .rules [] → Move scene c { c with control := .contextEnd }
  | rule (rule : Rule) (rest : List Rule) :
      c.control = .rules (rule :: rest) →
      Move scene c { c with control := .command 0 rule.command, stack := .rules rest :: c.stack }
  | chainRefused (done : Nat) (command : Command) :
      c.control = .command done command → scene.limits.chain.admits done = false →
      Move scene c
        { c with control := .failed (scene.limits.chainFault c.state.message.name) }
  | spare (done : Nat) (command : Command) (s : Step) :
      c.control = .command done command → scene.limits.chain.admits done = true →
      jumps? command = none → answering? command c.state = none → s.Spares c.state.message →
      Move scene c (take (done + 1) s c)
  | answer (done : Nat) (command : Command) (state : State) :
      c.control = .command done command → scene.limits.chain.admits done = true →
      jumps? command = none → answering? command c.state = some state →
      Move scene c (take (done + 1) (runAnswer scene command state) c)
  | noContext (done : Nat) (command : Command) (jump : Bool) :
      c.control = .command done command → scene.limits.chain.admits done = true →
      jumps? command = some jump →
      scene.contexts.get? (String.ofList (strip command.args)) = none →
      Move scene c { c with control := .chainEnd }
  | nestingRefused (done : Nat) (command : Command) (jump : Bool) (rules : List Rule) :
      c.control = .command done command → scene.limits.chain.admits done = true →
      jumps? command = some jump →
      scene.contexts.get? (String.ofList (strip command.args)) = some rules →
      scene.limits.nesting.admits c.depth = false →
      Move scene c
        { c with
          control := .failed (scene.limits.nestingFault c.state.message.name
            (String.ofList (strip command.args))) }
  | entry (done : Nat) (command : Command) (jump : Bool) (rules : List Rule) :
      c.control = .command done command → scene.limits.chain.admits done = true →
      jumps? command = some jump →
      scene.contexts.get? (String.ofList (strip command.args)) = some rules →
      scene.limits.nesting.admits c.depth = true →
      Move scene c
        { c with
          control := .rules rules
          stack := .call jump c.depth :: c.stack
          depth := c.depth + 1 }
  | settled (rest : List Rule) (stack : List Frame) :
      c.control = .chainEnd → c.stack = .rules rest :: stack →
      c.state.message.isSettled = true →
      Move scene c
        { c with control := .contextEnd, stack := stack, state := c.state.markReturned false }
  | unsettled (rest : List Rule) (stack : List Frame) :
      c.control = .chainEnd → c.stack = .rules rest :: stack →
      c.state.message.isSettled = false →
      Move scene c { c with control := .rules rest, stack := stack }
  | comeback (jump : Bool) (depth : Int) (stack : List Frame) :
      c.control = .contextEnd → c.stack = .call jump depth :: stack →
      Move scene c
        { c with
          control := .chainEnd
          stack := stack
          depth := depth
          state := if jump then c.state.markReturned true else c.state }

theorem move_of_enter {scene : Scene} {c : Config} {done : Nat} {command : Command} {jump : Bool}
    (hcontrol : c.control = .command done command)
    (hadmitted : scene.limits.chain.admits done = true) (hjump : jumps? command = some jump) :
    Move scene c (enter scene jump command.args c) := by
  cases hcontext : scene.contexts.get? (String.ofList (strip command.args)) with
  | none =>
    simpa [enter, hcontext] using
      Move.noContext done command jump hcontrol hadmitted hjump hcontext
  | some rules =>
    cases hnesting : scene.limits.nesting.admits c.depth with
    | false =>
      simpa [enter, hcontext, hnesting] using
        Move.nestingRefused done command jump rules hcontrol hadmitted hjump hcontext hnesting
    | true =>
      simpa [enter, hcontext, hnesting] using
        Move.entry done command jump rules hcontrol hadmitted hjump hcontext hnesting

theorem move_of_perform {scene : Scene} {c : Config} {done : Nat} {command : Command}
    (hcontrol : c.control = .command done command)
    (hadmitted : scene.limits.chain.admits done = true) :
    Move scene c (perform scene done command c) := by
  cases haction : command.action with
  | none =>
    have hanswer : answering? command c.state = some c.state := by simp [answering?, haction]
    simpa [perform, haction] using
      Move.answer done command c.state hcontrol hadmitted (by simp [jumps?, haction]) hanswer
  | some action =>
    -- what is neither a call nor an answer spares the message, and leads on or fails
    have hspare : ∀ s : Step, s.Spares c.state.message →
        jumps? command = none → answering? command c.state = none →
        Move scene c (take (done + 1) s c) := by
      intro s hs hjump hanswer
      exact Move.spare done command s hcontrol hadmitted hjump hanswer hs
    cases action with
    | call =>
      have hjump : jumps? command = some false := by simp [jumps?, haction]
      simpa [perform, haction] using move_of_enter hcontrol hadmitted hjump
    | jump =>
      have hjump : jumps? command = some true := by simp [jumps?, haction]
      simpa [perform, haction] using move_of_enter hcontrol hadmitted hjump
    | answer =>
      have hanswer : answering? command c.state = some (c.state.markReturned true) := by
        simp [answering?, haction]
      simpa [perform, haction] using
        Move.answer done command _ hcontrol hadmitted (by simp [jumps?, haction]) hanswer
    | test =>
      simpa [perform, haction] using hspare _ (runTest_spares scene command c.state)
        (by simp [jumps?, haction]) (by simp [answering?, haction])
    | echo =>
      simpa [perform, haction] using hspare _ (runEcho_spares scene command c.state)
        (by simp [jumps?, haction]) (by simp [answering?, haction])
    | enqueue =>
      simpa [perform, haction] using hspare _ (runEnqueue_spares scene command c.state)
        (by simp [jumps?, haction]) (by simp [answering?, haction])
    | dispatch =>
      simpa [perform, haction] using hspare _ (Step.Spares.going rfl)
        (by simp [jumps?, haction]) (by simp [answering?, haction])

/-- Every step is of one of the kinds. -/
theorem move_of_step {scene : Scene} {a b : Config} (h : step scene a = some b) :
    Move scene a b := by
  unfold step at h
  split at h
  case h_1 hcontrol =>
    cases h
    exact .noRule hcontrol
  case h_2 stack rule rest hcontrol =>
    cases h
    exact .rule rule rest hcontrol
  case h_3 done command hcontrol =>
    split at h
    case isTrue hadmitted =>
      cases h
      exact move_of_perform hcontrol hadmitted
    case isFalse hrefused =>
      cases h
      exact .chainRefused done command hcontrol (by simpa using hrefused)
  case h_4 rest stack hcontrol hstack =>
    split at h
    case isTrue hsettled =>
      cases h
      exact .settled rest stack hcontrol hstack hsettled
    case isFalse hsettled =>
      cases h
      exact .unsettled rest stack hcontrol hstack (by simpa using hsettled)
  case h_5 jump depth stack hcontrol hstack =>
    cases h
    exact .comeback jump depth stack hcontrol hstack
  case h_6 => cases h

/-! ## Runs -/

/-- The machine goes from one configuration to another; the trail holds the configurations on the
way, the first one included and the last one not. -/
inductive Run (scene : Scene) : Config → List Config → Config → Prop
  | here (c : Config) : Run scene c [] c
  | next {a b c : Config} {trail : List Config} :
      step scene a = some b → Run scene b trail c → Run scene a (a :: trail) c

namespace Run

variable {scene : Scene}

theorem trans {a b c : Config} {first second : List Config}
    (hab : Run scene a first b) (hbc : Run scene b second c) :
    Run scene a (first ++ second) c := by
  induction hab with
  | here => exact hbc
  | next hstep _ ih => exact .next hstep (ih hbc)

theorem single {a b : Config} (hstep : step scene a = some b) : Run scene a [a] b :=
  .next hstep (.here b)

/-- A run gets to every configuration of its trail. -/
theorem to_mem {front back : List Config} {a c config : Config}
    (hrun : Run scene a (front ++ config :: back) c) : Run scene a front config := by
  induction front generalizing a with
  | nil =>
    cases hrun with
    | next _ _ => exact .here _
  | cons first front ih =>
    cases hrun with
    | next hstep hrest => exact .next hstep (ih hrest)

/-- What holds at the start, of nothing behind it, and is preserved by every step, holds all
along. -/
theorem invariant {P : List Config → Config → Prop}
    (preserved : ∀ trail a b, P trail a → step scene a = some b → P (trail ++ [a]) b)
    {before trail : List Config} {a c : Config} (hrun : Run scene a trail c)
    (hstart : P before a) : P (before ++ trail) c := by
  -- the trail behind the start grows by each configuration that the run leaves
  induction hrun generalizing before with
  | here => simpa using hstart
  | next hstep _ ih => simpa using ih (preserved before _ _ hstart hstep)

/-- An invariant of single configurations holds of all configurations of a run. -/
theorem forall_mem {P : Config → Prop}
    (preserved : ∀ a b, P a → step scene a = some b → P b)
    {trail : List Config} {a c : Config} (hrun : Run scene a trail c) (hstart : P a) :
    (∀ config ∈ trail, P config) ∧ P c := by
  induction hrun with
  | here => exact ⟨by simp, hstart⟩
  | next hstep _ ih =>
    rcases ih (preserved _ _ hstart hstep) with ⟨htrail, hlast⟩
    refine ⟨?_, hlast⟩
    intro config hmem
    rcases List.mem_cons.1 hmem with heq | hmem
    · exact heq ▸ hstart
    · exact htrail config hmem

/-- What an invariant says of single steps holds of all steps of a run. -/
theorem forall_step {P : Config → Prop} {R : Config → Config → Prop}
    (preserved : ∀ a b, P a → step scene a = some b → P b)
    (hstep : ∀ a b, P a → step scene a = some b → R a b)
    {trail : List Config} {a c : Config} (hrun : Run scene a trail c) (hstart : P a) :
    ∀ config ∈ trail, ∃ next, step scene config = some next ∧ R config next := by
  induction hrun with
  | here => simp
  | next hnext _ ih =>
    intro config hmem
    rcases List.mem_cons.1 hmem with heq | hmem
    · exact heq ▸ ⟨_, hnext, hstep _ _ hstart hnext⟩
    · exact ih (preserved _ _ hstart hnext) config hmem

end Run

end Machine
end Switchboard
