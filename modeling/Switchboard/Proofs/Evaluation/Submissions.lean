import Mathlib.Data.List.Forall2
import Switchboard.Proofs.Evaluation.Commands
import Switchboard.Rules.Registry

/-!
# Submissions that succeed, and submissions that fail

A command that submits a message may fail in many places: its name or its parameters cannot be
filled in, the name is blank, a value cannot be read, or the host refuses the message. `Submits` and
`Declines` tell when it succeeds and why it fails, without regard to how the command goes about it;
`submission_of_submits` and `submission_of_declines` say that it does just that. Either way the
message that is being evaluated stays as it is, the host hears of the submission once, and the chain
goes on (`enqueue_is_contained`).
-/

namespace Switchboard

open Text

/-! ## Values of parameters -/

/-- Fields stand for parameters: they have the same names in the same order, and each value is that
of its text. -/
def ReadAs (pairs : Entries String) (fields : Fields) : Prop :=
  List.Forall₂ (fun pair field => field.1 = pair.1 ∧ Value.ofCommandText pair.2 = .ok field.2)
    pairs fields

/-- The first text of parameters that stands for no value is refused with a fault. -/
inductive Unreadable : Entries String → Fault → Prop
  | here {key text : String} {rest : Entries String} {flaw : Numeral.IntegerFlaw} :
      Value.ofCommandText text = .error flaw →
      Unreadable ((key, text) :: rest) (Fault.ofIntegerFlaw text.toList flaw)
  | behind {key text : String} {rest : Entries String} {value : Value} {fault : Fault} :
      Value.ofCommandText text = .ok value → Unreadable rest fault →
      Unreadable ((key, text) :: rest) fault

/-- The parameters that a text is read as, one by one. -/
def readPairs (pairs : Entries String) : Except Fault Fields :=
  pairs.mapM fun (key, text) =>
    match Value.ofCommandText text with
    | .error flaw => .error (Fault.ofIntegerFlaw text.toList flaw)
    | .ok value => .ok (key, value)

theorem readParameters_eq (params : List Char) :
    readParameters params = readPairs (parameters params) :=
  rfl

theorem readPairs_cons_error {key text : String} {rest : Entries String}
    {flaw : Numeral.IntegerFlaw} (h : Value.ofCommandText text = .error flaw) :
    readPairs ((key, text) :: rest) = .error (Fault.ofIntegerFlaw text.toList flaw) := by
  simp [readPairs, List.mapM_cons, h, bind, Except.bind]

theorem readPairs_cons_ok {key text : String} {rest : Entries String} {value : Value}
    (h : Value.ofCommandText text = .ok value) :
    readPairs ((key, text) :: rest) = (readPairs rest).map ((key, value) :: ·) := by
  cases hrest : readPairs rest with
  | error fault =>
    have hmap := hrest
    rw [readPairs] at hmap
    simp [readPairs, List.mapM_cons, h, hmap, bind, Except.bind, Except.map]
  | ok fields =>
    have hmap := hrest
    rw [readPairs] at hmap
    simp [readPairs, List.mapM_cons, h, hmap, bind, Except.bind, Except.map, pure, Except.pure]

theorem readPairs_eq_ok_iff {pairs : Entries String} {fields : Fields} :
    readPairs pairs = .ok fields ↔ ReadAs pairs fields := by
  induction pairs generalizing fields with
  | nil =>
    rw [ReadAs, List.forall₂_nil_left_iff]
    exact ⟨fun h => (Except.ok.inj h).symm, fun h => h ▸ rfl⟩
  | cons pair rest ih =>
    rcases pair with ⟨key, text⟩
    rw [ReadAs, List.forall₂_cons_left_iff]
    cases htext : Value.ofCommandText text with
    | error flaw =>
      rw [readPairs_cons_error htext]
      refine ⟨fun h => (by cases h), ?_⟩
      rintro ⟨field, more, ⟨-, hfield⟩, -, -⟩
      cases hfield
    | ok value =>
      rw [readPairs_cons_ok htext]
      constructor
      · intro h
        cases hrest : readPairs rest with
        | error fault => simp [hrest, Except.map] at h
        | ok more =>
          have hfields : (key, value) :: more = fields := by simpa [hrest, Except.map] using h
          exact ⟨(key, value), more, ⟨rfl, rfl⟩, ih.1 hrest, hfields.symm⟩
      · rintro ⟨⟨key', value'⟩, more, ⟨rfl, hvalue⟩, hmore, rfl⟩
        cases hvalue
        rw [ih.2 hmore]
        rfl

theorem readPairs_eq_error_iff {pairs : Entries String} {fault : Fault} :
    readPairs pairs = .error fault ↔ Unreadable pairs fault := by
  induction pairs with
  | nil => exact ⟨fun h => (by cases h), fun h => (by cases h)⟩
  | cons pair rest ih =>
    rcases pair with ⟨key, text⟩
    cases htext : Value.ofCommandText text with
    | error flaw =>
      rw [readPairs_cons_error htext]
      constructor
      · intro h
        cases h
        exact .here htext
      · intro h
        cases h with
        | here hflaw =>
          rw [htext] at hflaw
          cases hflaw
          rfl
        | behind hvalue _ => simp [htext] at hvalue
    | ok value =>
      rw [readPairs_cons_ok htext]
      constructor
      · intro h
        refine .behind htext (ih.1 ?_)
        cases hrest : readPairs rest with
        | ok fields => simp [hrest, Except.map] at h
        | error other => simpa [hrest, Except.map] using h
      · intro h
        cases h with
        | here hflaw => simp [htext] at hflaw
        | behind _ hrest =>
          rw [ih.2 hrest]
          rfl

/-! ## What becomes of a submission -/

/-- A command submits a message: its name is filled in and not blank, and so are its parameters,
all of which can be read, and the host takes the message of that name with these fields. -/
def Submits (scene : Scene) (command : Command) (state : State) (m : Message) (after : State) :
    Prop :=
  ∃ args named params fields,
    state.fill scene command.args = (.ok args, named) ∧ strip args ≠ [] ∧
    named.fill scene command.params = (.ok params, after) ∧ ReadAs (parameters params) fields ∧
    m = Message.fresh (String.ofList (strip args)) fields scene.source.now ∧
    scene.host.refusal? m = none

/-- Why a command submits no message. -/
inductive Declines (scene : Scene) (command : Command) (state : State) : Fault → State → Prop
  | name {fault : Fault} {after : State} :
      state.fill scene command.args = (.error fault, after) →
      Declines scene command state fault after
  | nameless {args : List Char} {after : State} :
      state.fill scene command.args = (.ok args, after) → strip args = [] →
      Declines scene command state (namelessFault command) after
  | params {args : List Char} {named after : State} {fault : Fault} :
      state.fill scene command.args = (.ok args, named) → strip args ≠ [] →
      named.fill scene command.params = (.error fault, after) →
      Declines scene command state fault after
  | value {args params : List Char} {named after : State} {fault : Fault} :
      state.fill scene command.args = (.ok args, named) → strip args ≠ [] →
      named.fill scene command.params = (.ok params, after) →
      Unreadable (parameters params) fault →
      Declines scene command state fault after
  | host {args params : List Char} {named after : State} {fields : Fields} {text : String} :
      state.fill scene command.args = (.ok args, named) → strip args ≠ [] →
      named.fill scene command.params = (.ok params, after) →
      ReadAs (parameters params) fields →
      scene.host.refusal?
        (Message.fresh (String.ofList (strip args)) fields scene.source.now) = some text →
      Declines scene command state (.handler text) after

section

variable {scene : Scene} {command : Command} {state after : State}

theorem submission_of_submits {m : Message} (h : Submits scene command state m after) :
    submission scene command state = (.ok m, after) := by
  rcases h with ⟨args, named, params, fields, hargs, hname, hparams, hread, rfl, hhost⟩
  have hfields : readParameters params = .ok fields := by
    rw [readParameters_eq]
    exact readPairs_eq_ok_iff.2 hread
  simp [submission, hargs, hname, hparams, hfields, hhost]

theorem submission_of_declines {fault : Fault} (h : Declines scene command state fault after) :
    submission scene command state = (.error fault, after) := by
  cases h with
  | name hargs => simp [submission, hargs]
  | nameless hargs hname => simp [submission, hargs, hname]
  | params hargs hname hparams => simp [submission, hargs, hname, hparams]
  | @value args params named _ _ hargs hname hparams hread =>
    have hfields : readParameters params = .error fault := by
      rw [readParameters_eq]
      exact readPairs_eq_error_iff.2 hread
    simp [submission, hargs, hname, hparams, hfields]
  | @host args params named _ fields text hargs hname hparams hread hhost =>
    have hfields : readParameters params = .ok fields := by
      rw [readParameters_eq]
      exact readPairs_eq_ok_iff.2 hread
    simp [submission, hargs, hname, hparams, hfields, hhost]

end

/-- Every command submits a message or declines to do so. -/
theorem submits_or_declines (scene : Scene) (command : Command) (state : State) :
    (∃ m after, Submits scene command state m after) ∨
      ∃ fault after, Declines scene command state fault after := by
  rcases hargs : state.fill scene command.args with ⟨result, named⟩
  cases result with
  | error fault => exact .inr ⟨fault, named, .name hargs⟩
  | ok args =>
    by_cases hname : strip args = []
    · exact .inr ⟨_, named, .nameless hargs hname⟩
    rcases hparams : named.fill scene command.params with ⟨result', after⟩
    cases result' with
    | error fault => exact .inr ⟨fault, after, .params hargs hname hparams⟩
    | ok params =>
      cases hfields : readPairs (parameters params) with
      | error fault =>
        exact .inr ⟨fault, after, .value hargs hname hparams (readPairs_eq_error_iff.1 hfields)⟩
      | ok fields =>
        have hread := readPairs_eq_ok_iff.1 hfields
        cases hhost : scene.host.refusal?
            (Message.fresh (String.ofList (strip args)) fields scene.source.now) with
        | some text => exact .inr ⟨_, after, .host hargs hname hparams hread hhost⟩
        | none =>
          exact .inl ⟨_, after, args, named, params, fields, hargs, hname, hparams, hread, rfl,
            hhost⟩

/-- No command does both. -/
theorem not_declines_of_submits {scene : Scene} {command : Command} {state after : State}
    {m : Message} (h : Submits scene command state m after) (fault : Fault) (other : State) :
    ¬ Declines scene command state fault other := by
  intro hdeclines
  have hboth := (submission_of_submits h).symm.trans (submission_of_declines hdeclines)
  simp at hboth

/-! ## The chain behind a submission -/

/-- What a command does that goes on with its target. -/
theorem chainTarget_of_filled {scene : Scene} {command : Command} {events : List Event}
    {state later : State} {line : List Char}
    (h : state.fill scene (command.target.getD []) = (.ok line, later)) :
    chainTarget scene command events state = ⟨later, events, .line line⟩ := by
  simp [chainTarget, h]

theorem chainTarget_events (scene : Scene) (command : Command) (events : List Event)
    (state : State) : (chainTarget scene command events state).events = events := by
  unfold chainTarget
  split <;> rfl

/-- A command that submits a message, or fails to, leaves the message that is being evaluated as it
is. The host either takes one new message, of the name and with the fields that the command gives,
and is told of no error, or it takes none and is told once why. The chain goes on with the target,
filled in behind name and parameters. -/
theorem enqueue_is_contained {command : Command} (haction : command.action = some .enqueue)
    (scene : Scene) (enter : Enter) (state : State) :
    (execute scene enter command state).state.message = state.message ∧
    ∃ after, after.message = state.message ∧
      (((∃ m, Submits scene command state m after ∧
          (execute scene enter command state).events = [.enqueue m]) ∧
        ∀ fault other, ¬ Declines scene command state fault other) ∨
      ((∃ fault, Declines scene command state fault after ∧
          (execute scene enter command state).events =
            [.log .error .evaluation ("enqueue failed: " ++ fault.text),
              .error [.text "regexp enqueue", .text fault.text]]) ∧
        ∀ m other, ¬ Submits scene command state m other)) ∧
      ∀ line later, after.fill scene (command.target.getD []) = (.ok line, later) →
        ∀ left, runChain scene enter (left + 1) command state =
          (runChain scene enter left (Command.parse line) later).after
            (execute scene enter command state).events := by
  have hexecute : execute scene enter command state = runEnqueue scene command state := by
    simp [execute, haction]
  have hmessage := submission_message scene command state
  -- with or without a submission, the command ends in its target
  have hchain : ∀ events after, runEnqueue scene command state =
      chainTarget scene command events after →
      ∀ line later, after.fill scene (command.target.getD []) = (.ok line, later) →
        ∀ left, runChain scene enter (left + 1) command state =
          (runChain scene enter left (Command.parse line) later).after
            (execute scene enter command state).events := by
    intro events after henqueue line later hfill left
    rw [runChain_succ, hexecute, henqueue, chainTarget_of_filled hfill]
    rfl
  refine ⟨by rw [hexecute]; exact (runEnqueue_spares scene command state).message, ?_⟩
  rcases submits_or_declines scene command state with ⟨m, after, hm⟩ | ⟨fault, after, hfault⟩
  · have hsubmission := submission_of_submits hm
    have henqueue : runEnqueue scene command state =
        chainTarget scene command [.enqueue m] after := by simp [runEnqueue, hsubmission]
    rw [hsubmission] at hmessage
    refine ⟨after, hmessage, .inl ⟨⟨m, hm, ?_⟩, not_declines_of_submits hm⟩, hchain _ _ henqueue⟩
    rw [hexecute, henqueue, chainTarget_events]
  · have hsubmission := submission_of_declines hfault
    have henqueue : runEnqueue scene command state =
        chainTarget scene command (submissionFailed fault) after := by
      simp [runEnqueue, hsubmission]
    rw [hsubmission] at hmessage
    refine ⟨after, hmessage, .inr ⟨⟨fault, hfault, ?_⟩, ?_⟩, hchain _ _ henqueue⟩
    · rw [hexecute, henqueue, chainTarget_events]
      rfl
    · intro m other hm
      exact not_declines_of_submits hm fault after hfault

/-- A command that submits a message with a number, and then answers. -/
def numbering : Command :=
  ⟨some .enqueue, ['n'], [';', 'k', '=', '1'], some ['r', 'e', 't', 'u', 'r', 'n', ' ', 'y']⟩

/-- A message without fields, before anything is drawn. -/
def State.blank : State :=
  ⟨.fresh "m" [] Source.still.now, .start⟩

theorem numbering_is_contained :
    numbering.action = some .enqueue ∧
    ∃ m, m.name = "n" ∧ m.fields = [("k", .int 1)] ∧
      Submits (Registry.empty.scene .still .accepting) numbering .blank m .blank ∧
      (execute (Registry.empty.scene .still .accepting)
        (enterAt (Registry.empty.scene .still .accepting) 64) numbering .blank).events =
          [.enqueue m] := by
  have haction : numbering.action = some .enqueue := rfl
  have hsubmission : submission (Registry.empty.scene .still .accepting) numbering .blank =
      (.ok (Message.fresh "n" [("k", .int 1)] Source.still.now), .blank) := by
    with_unfolding_all rfl
  refine ⟨haction, Message.fresh "n" [("k", .int 1)] Source.still.now, rfl, rfl, ?_⟩
  rcases enqueue_is_contained haction (Registry.empty.scene .still .accepting)
      (enterAt (Registry.empty.scene .still .accepting) 64) .blank with
    ⟨-, after, -, ⟨⟨m, hm, hevents⟩, -⟩ | ⟨⟨fault, hfault, -⟩, -⟩, -⟩
  · have hsame := (submission_of_submits hm).symm.trans hsubmission
    simp only [Prod.mk.injEq, Except.ok.injEq] at hsame
    rw [← hsame.1]
    exact ⟨hsame.2 ▸ hm, hevents⟩
  · have hsame := (submission_of_declines hfault).symm.trans hsubmission
    simp at hsame

end Switchboard
