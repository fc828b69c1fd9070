import Switchboard.Proofs.Entries
import Switchboard.Proofs.Evaluation.Commands
import Switchboard.Rules.Registry

/-!
# Evaluation only adds to a message

Rules write fields and a result, and they set flags. What a message is called, when it was made and
the error that is recorded on it are none of their concern, a message that is handled stays so, and
a field that is there stays where it is: new fields come behind it. This holds of a command, of a
chain and of contexts that call each other, however they end. An answer that is broken off has
written some of its fields and no others.
-/

namespace Switchboard

/-! ## Growing -/

/-- A message has become another one by additions alone. -/
structure Message.Grows (m m' : Message) : Prop where
  name : m'.name = m.name
  timestamp : m'.timestamp = m.timestamp
  error : m'.error = m.error
  handled : m.handled = true → m'.handled = true
  /-- Values may have been written over, but no field is gone or has moved. -/
  keys : m.fields.keys <+: m'.fields.keys

namespace Message.Grows

theorem refl (m : Message) : m.Grows m :=
  ⟨rfl, rfl, rfl, id, List.prefix_refl _⟩

theorem trans {a b c : Message} (hab : a.Grows b) (hbc : b.Grows c) : a.Grows c where
  name := hbc.name.trans hab.name
  timestamp := hbc.timestamp.trans hab.timestamp
  error := hbc.error.trans hab.error
  handled := fun h => hbc.handled (hab.handled h)
  keys := hab.keys.trans hbc.keys

theorem of_eq {m m' : Message} (h : m' = m) : m.Grows m' := by
  rw [h]
  exact refl m

/-- Growing says nothing of the mark of a return. -/
theorem markReturned (mark : Bool) (state : State) :
    state.message.Grows (state.markReturned mark).message :=
  ⟨rfl, rfl, rfl, id, List.prefix_refl _⟩

end Message.Grows

/-! ## Writing -/

theorem Message.grows_set (m : Message) (key : String) (value : Value) :
    m.Grows (m.set key value) :=
  ⟨rfl, rfl, rfl, id, Entries.keys_prefix_set key value m.fields⟩

theorem writeParameters_grows (pairs : Entries String) (m : Message) :
    m.Grows (writeParameters pairs m).1 := by
  induction pairs generalizing m with
  | nil => exact .refl m
  | cons pair rest ih =>
    rcases pair with ⟨key, text⟩
    cases htext : Value.ofCommandText text with
    | error flaw => simpa only [writeParameters, htext] using Message.Grows.refl m
    | ok value =>
      simpa only [writeParameters, htext] using (m.grows_set key value).trans (ih (m.set key value))

theorem writeResult_grows (args : List Char) (m : Message) : m.Grows (writeResult args m).1 := by
  rcases writeResult_cases args m with
    ⟨fault, hresult, -⟩ | ⟨-, hresult⟩ | ⟨value, -, -, hresult⟩
  · rw [hresult]
    exact .refl m
  · rw [hresult]
    exact .refl m
  · rw [hresult]
    exact ⟨rfl, rfl, rfl, fun _ => rfl, List.prefix_refl _⟩

theorem writeAnswer_grows (args : List Char) (pairs : Entries String) (m : Message) :
    m.Grows (writeAnswer args pairs m).1 := by
  have hparameters := writeParameters_grows pairs m
  rcases hwrite : writeParameters pairs m with ⟨written, fault?⟩
  rw [hwrite] at hparameters
  cases fault? with
  -- what was written before the fault stays written
  | some fault => simpa [writeAnswer, hwrite] using hparameters
  | none => simpa [writeAnswer, hwrite] using hparameters.trans (writeResult_grows args written)

theorem runAnswer_grows (scene : Scene) (command : Command) (state : State) :
    state.message.Grows (runAnswer scene command state).state.message := by
  rcases runAnswer_message scene command state with hsame | ⟨draws, args, params, -, hwritten⟩
  · exact .of_eq hsame
  · rw [hwritten]
    exact writeAnswer_grows args (parameters params) state.message

/-! ## Commands, chains and contexts -/

/-- Contexts are entered in a way that only adds to the message. -/
def Enter.Grows (enter : Enter) : Prop :=
  ∀ name rules (state : State), state.message.Grows (enter name rules state).state.message

section

variable {scene : Scene} {enter : Enter}

theorem runCall_grows (henter : enter.Grows) (jump : Bool) (args : List Char) (state : State) :
    state.message.Grows (runCall scene enter jump args state).state.message := by
  cases hcontext : scene.contexts.get? (String.ofList (Text.strip args)) with
  | none => simpa [runCall, hcontext] using Message.Grows.refl state.message
  | some rules =>
    have hcallee := henter (String.ofList (Text.strip args)) rules state
    cases hfault : (enter (String.ofList (Text.strip args)) rules state).fault with
    | some fault => simpa [runCall, hcontext, hfault] using hcallee
    | none =>
      cases jump with
      | false => simpa [runCall, hcontext, hfault] using hcallee
      | true =>
        simpa [runCall, hcontext, hfault] using hcallee.trans (Message.Grows.markReturned true _)

theorem execute_grows (henter : enter.Grows) (command : Command) (state : State) :
    state.message.Grows (execute scene enter command state).state.message := by
  unfold execute
  cases command.action with
  | none => exact runAnswer_grows scene command state
  | some action =>
    cases action with
    | call => exact runCall_grows henter false command.args state
    | jump => exact runCall_grows henter true command.args state
    | answer =>
      exact (Message.Grows.markReturned true state).trans (runAnswer_grows scene command _)
    | test => exact .of_eq (runTest_spares scene command state).message
    | echo => exact .of_eq (runEcho_spares scene command state).message
    | enqueue => exact .of_eq (runEnqueue_spares scene command state).message
    | dispatch => exact .refl state.message

theorem runChain_grows (henter : enter.Grows) (left : Nat) (command : Command) (state : State) :
    state.message.Grows (runChain scene enter left command state).state.message := by
  induction left generalizing command state with
  | zero => exact .refl state.message
  | succ left ih =>
    have hstep : state.message.Grows (execute scene enter command state).state.message :=
      execute_grows henter command state
    rw [runChain_succ]
    cases hnext : (execute scene enter command state).next with
    | done => simpa [Step.outcome, hnext] using hstep
    | fault fault => simpa [Step.outcome, hnext] using hstep
    | line line =>
      simpa [Step.outcome, hnext, Outcome.after] using hstep.trans (ih (Command.parse line) _)

theorem runRules_grows (henter : enter.Grows) (rules : List Rule) (state : State) :
    state.message.Grows (runRules scene enter rules state).state.message := by
  induction rules generalizing state with
  | nil => exact .refl state.message
  | cons rule rest ih =>
    have hchain : state.message.Grows (runCommand scene enter rule.command state).state.message :=
      runChain_grows henter _ rule.command state
    cases hfault : (runCommand scene enter rule.command state).fault with
    | some fault =>
      rw [runRules_of_fault hfault]
      exact hchain
    | none =>
      cases hsettled : (runCommand scene enter rule.command state).state.message.isSettled with
      | true =>
        rw [runRules_of_settled hfault hsettled]
        exact hchain.trans (Message.Grows.markReturned false _)
      | false =>
        rw [runRules_of_unsettled hfault hsettled]
        exact hchain.trans (ih _)

end

/-- Contexts that call each other only add to the message, however deep they are nested. -/
theorem enterAt_grows (scene : Scene) (levels : Nat) : (enterAt scene levels).Grows := by
  induction levels with
  | zero =>
    intro name rules state
    exact .refl state.message
  | succ levels ih =>
    intro name rules state
    exact runRules_grows ih rules state

/-- Whether it ends with the message or with a fault, a command that is run in a registry only adds
to the message, and so does the evaluation of a context. -/
theorem evaluation_only_adds (source : Source) (host : Host) (depth : Int) (state : State) :
    (∀ (registry : Registry) (command : Command),
      state.message.Grows
        (runAt (registry.scene source host) depth command state).state.message) ∧
    ∀ c : Context, state.message.Grows (c.evaluate source host depth state).state.message := by
  refine ⟨?_, ?_⟩
  · intro registry command
    exact runChain_grows (enterAt_grows _ _) _ command state
  · intro c
    exact runRules_grows (enterAt_grows _ _) c.rules state

end Switchboard
