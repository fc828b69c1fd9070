import Switchboard.Proofs.Evaluation.Commands
import Switchboard.Proofs.Template.Pieces

/-!
# Output, then the target

A command that writes output or submits a message goes on with its target: the target is filled
in, and what comes out is parsed and run. A target without placeholders is therefore run as if it
were a command of its own. One with placeholders is not: what a field holds becomes part of the
line before the line is parsed.
-/

namespace Switchboard

open Text

/-! ## Templates without placeholders -/

/-- A text in which no placeholder stands: the scan gives it back as a single piece. -/
def Plain (text : List Char) : Prop :=
  Segment.segments text = Segment.ofLiteral text.reverse

theorem plain_of_notMem {text : List Char} (h : '$' ∉ text) : Plain text := by
  simpa [Plain, Segment.segments] using Segment.scan_of_notMem h []

theorem Plain.fill {text : List Char} (h : Plain text) (scene : Scene) (state : State) :
    state.fill scene text = (.ok text, state) := by
  have hsegments : Segment.segments text = if text.isEmpty then [] else [.literal text] := by
    simpa [Plain, Segment.ofLiteral] using h
  by_cases hempty : text = []
  · subst hempty
    simp [State.fill, fillTemplate, hsegments, segmentsText]
  · simp [State.fill, fillTemplate, hsegments, hempty, segmentsText, segmentText]

theorem plain_nil : Plain [] :=
  rfl

/-- An answer without text does nothing: there is nothing to fill in and nothing to write. -/
theorem runAnswer_blank {command : Command} (hargs : command.args = [])
    (hparams : command.params = []) (scene : Scene) (state : State) :
    runAnswer scene command state = ⟨state, [], .done⟩ := by
  have hstrip : strip [] = [] := rfl
  simp only [runAnswer, hargs, hparams, plain_nil.fill, hstrip, writeAnswer_nil]

/-! ## Chains that are long enough -/

/-- The outcome is that of a chain that is too long. -/
def Outcome.Overruns (limits : Limits) (o : Outcome) : Prop :=
  ∃ name, o.fault = some (limits.chainFault name)

theorem Outcome.not_overruns_of_completed {limits : Limits} {o : Outcome} (h : o.fault = none) :
    ¬ o.Overruns limits := by
  rintro ⟨name, hfault⟩
  simp [h] at hfault

theorem Outcome.overruns_after {limits : Limits} {o : Outcome} (events : List Event) :
    (o.after events).Overruns limits ↔ o.Overruns limits :=
  Iff.rfl

/-- A chain that does not overrun its guard is the same one with more commands left. -/
theorem runChain_succ_of_not_overruns {scene : Scene} {enter : Enter} {left : Nat}
    {command : Command} {state : State}
    (h : ¬ (runChain scene enter left command state).Overruns scene.limits) :
    runChain scene enter (left + 1) command state = runChain scene enter left command state := by
  induction left generalizing command state with
  | zero => exact absurd ⟨state.message.name, rfl⟩ h
  | succ left ih =>
    rw [runChain_succ] at h ⊢
    rw [runChain_succ]
    -- both sides execute the same command; what follows it has one command less on each side
    cases hnext : (execute scene enter command state).next with
    | done => simp [Step.outcome, hnext]
    | fault fault => simp [Step.outcome, hnext]
    | line line =>
      simp only [Step.outcome, hnext, Outcome.overruns_after] at h ⊢
      rw [ih h]

/-- Running a command whose first step leads to a line is running that line, if the guard does
not come between. -/
theorem runAt_of_line {scene : Scene} {depth : Int} {command : Command} {state after : State}
    {events : List Event} {line : List Char}
    (hstep : ∀ enter, execute scene enter command state = ⟨after, events, .line line⟩)
    (h : ¬ (runAt scene depth command state).Overruns scene.limits) :
    runAt scene depth command state =
      (runAt scene depth (Command.parse line) after).after events := by
  unfold runAt runCommand at h ⊢
  cases hcount : scene.limits.chain.count with
  | zero =>
    rw [hcount] at h
    exact absurd ⟨state.message.name, rfl⟩ h
  | succ left =>
    -- the line is run with one command less than it would have of its own
    rw [hcount, runChain_succ, hstep] at h
    rw [runChain_succ, hstep]
    simp only [Step.outcome, Outcome.overruns_after] at h ⊢
    rw [runChain_succ_of_not_overruns h]

/-- A command whose first step fails fails with the same fault, if the guard lets it be executed. -/
theorem runAt_of_fault {scene : Scene} {depth : Int} {command : Command} {state after : State}
    {events : List Event} {fault : Fault}
    (hstep : ∀ enter, execute scene enter command state = ⟨after, events, .fault fault⟩)
    (h : ¬ (runAt scene depth command state).Overruns scene.limits) :
    runAt scene depth command state = ⟨after, events, some fault⟩ := by
  unfold runAt runCommand at h ⊢
  cases hcount : scene.limits.chain.count with
  | zero =>
    rw [hcount] at h
    exact absurd ⟨state.message.name, rfl⟩ h
  | succ left => rw [runChain_succ, hstep, Step.outcome]

/-! ## Targets -/

/-- Fills a target in and runs the line that comes out. -/
def runTarget (scene : Scene) (depth : Int) (target : List Char) (state : State) : Outcome :=
  match state.fill scene target with
  | (.error fault, after) => ⟨after, [], some fault⟩
  | (.ok line, after) => runAt scene depth (Command.parse line) after

theorem runTarget_of_plain {target : List Char} (h : Plain target) (scene : Scene) (depth : Int)
    (state : State) :
    runTarget scene depth target state = runAt scene depth (Command.parse target) state := by
  rw [runTarget, h.fill]

/-- A command that does nothing but to give out events and then chain into its target. -/
theorem runAt_of_chainTarget {scene : Scene} {depth : Int} {command : Command} {state : State}
    {events : List Event} {target : List Char} (htarget : command.target = some target)
    (hstep : ∀ enter, execute scene enter command state = chainTarget scene command events state)
    (h : ¬ (runAt scene depth command state).Overruns scene.limits) :
    runAt scene depth command state = (runTarget scene depth target state).after events := by
  rcases state.fill_cases scene target with
    ⟨fault, after, hfill, -, -⟩ | ⟨line, after, hfill, -⟩
  · have hfails : ∀ enter, execute scene enter command state = ⟨after, events, .fault fault⟩ := by
      intro enter
      simp [hstep, chainTarget, htarget, hfill]
    simp [runAt_of_fault hfails h, runTarget, hfill, Outcome.after]
  · have hleads : ∀ enter, execute scene enter command state = ⟨after, events, .line line⟩ := by
      intro enter
      simp [hstep, chainTarget, htarget, hfill]
    calc
      runAt scene depth command state
          = (runAt scene depth (Command.parse line) after).after events := runAt_of_line hleads h
      _ = (runTarget scene depth target state).after events := by rw [runTarget, hfill]

/-! ## Output and submissions -/

/-- The command that writes a text and goes on with a target. -/
def echoThen (text target : List Char) : Command :=
  ⟨some .echo, text, [], some target⟩

/-- The command that submits a message without fields and goes on with a target. -/
def enqueueThen (name target : List Char) : Command :=
  ⟨some .enqueue, name, [], some target⟩

theorem execute_echoThen {text : List Char} (htext : Plain text) (scene : Scene) (enter : Enter)
    (target : List Char) (state : State) :
    execute scene enter (echoThen text target) state =
      chainTarget scene (echoThen text target) [.raw (String.ofList text)] state := by
  simp [execute, echoThen, runEcho, htext.fill, plain_nil.fill]

/-- What the host is given for a message without fields: the message, or the report that it
refused it. -/
def submissionEvents (scene : Scene) (name : List Char) : List Event :=
  let m := Message.fresh (String.ofList (strip name)) [] scene.source.now
  match scene.host.refusal? m with
  | none => [.enqueue m]
  | some text => submissionFailed (.handler text)

theorem execute_enqueueThen {name : List Char} (hname : Plain name) (hne : strip name ≠ [])
    (scene : Scene) (enter : Enter) (target : List Char) (state : State) :
    execute scene enter (enqueueThen name target) state =
      chainTarget scene (enqueueThen name target) (submissionEvents scene name) state := by
  have hshape : (strip name).isEmpty = false := by simpa using hne
  have hfields : readParameters [] = .ok [] := rfl
  have hsubmission : submission scene (enqueueThen name target) state =
      match scene.host.refusal?
        (Message.fresh (String.ofList (strip name)) [] scene.source.now) with
      | none => (.ok (Message.fresh (String.ofList (strip name)) [] scene.source.now), state)
      | some text => (.error (.handler text), state) := by
    simp only [submission, enqueueThen, hname.fill, plain_nil.fill, hshape, hfields]
    cases scene.host.refusal? _ <;> rfl
  have hexecute : execute scene enter (enqueueThen name target) state =
      runEnqueue scene (enqueueThen name target) state := rfl
  rw [hexecute, runEnqueue, hsubmission]
  cases hhost : scene.host.refusal?
      (Message.fresh (String.ofList (strip name)) [] scene.source.now) with
  | none => simp [submissionEvents, hhost]
  | some text => simp [submissionEvents, hhost]

/-- Writing a text without placeholders, or submitting a message of such a name, adds just that
to what comes of the target, if the chain does not overrun its guard. A target without
placeholders is run as a command of its own. -/
theorem echo_and_enqueue_run_target (scene : Scene) (depth : Int) (target : List Char)
    (state : State) :
    (∀ text, '$' ∉ text →
      ¬ (runAt scene depth (echoThen text target) state).Overruns scene.limits →
      runAt scene depth (echoThen text target) state =
        (runTarget scene depth target state).after [.raw (String.ofList text)]) ∧
    (∀ name, Plain name → strip name ≠ [] →
      ¬ (runAt scene depth (enqueueThen name target) state).Overruns scene.limits →
      runAt scene depth (enqueueThen name target) state =
        (runTarget scene depth target state).after (submissionEvents scene name)) ∧
    (Plain target →
      runTarget scene depth target state = runAt scene depth (Command.parse target) state) := by
  refine ⟨?_, ?_, ?_⟩
  · intro text htext hoverrun
    exact runAt_of_chainTarget rfl
      (fun enter => execute_echoThen (plain_of_notMem htext) scene enter target state) hoverrun
  · intro name hname hne hoverrun
    exact runAt_of_chainTarget rfl
      (fun enter => execute_enqueueThen hname hne scene enter target state) hoverrun
  · intro htarget
    exact runTarget_of_plain htarget scene depth state

/-! ## A target that reads a field -/

/-- A scene without contexts. -/
def Scene.bare : Scene :=
  ⟨.still, .accepting, [], ⟨.upTo 1000 (.int 1000), .upTo 64 (.int 64)⟩⟩

/-- A message whose field `x` holds an `a`. -/
def State.holdingA : State :=
  ⟨.fresh "m" [("x", .text "a")] Source.still.now, .start⟩

/-- A target that answers with yes. -/
def answerYes : List Char :=
  ['r', 'e', 't', 'u', 'r', 'n', ' ', 'y', 'e', 's']

/-- A target that does so if it finds an `a` in the field `x`. -/
def answerYesIfA : List Char :=
  ['i', 'f', ' ', '$', '\x7b', 'x', '\x7d', 'a', '='] ++ answerYes

theorem bare_runs_of_plain_targets :
    ('$' ∉ ['h', 'i'] ∧ Plain ['n'] ∧ strip ['n'] ≠ [] ∧ Plain answerYes) ∧
    (runAt .bare 0 (echoThen ['h', 'i'] answerYes) .holdingA =
      (runTarget .bare 0 answerYes .holdingA).after [.raw (String.ofList ['h', 'i'])]) ∧
    (runAt .bare 0 (enqueueThen ['n'] answerYes) .holdingA =
      (runTarget .bare 0 answerYes .holdingA).after (submissionEvents .bare ['n'])) ∧
    runTarget .bare 0 answerYes .holdingA =
      runAt .bare 0 (Command.parse answerYes) .holdingA := by
  have htext : '$' ∉ ['h', 'i'] := by decide
  have hname : Plain ['n'] := plain_of_notMem (by decide)
  have hne : strip ['n'] ≠ [] := by decide
  have htarget : Plain answerYes := plain_of_notMem (by decide)
  have hecho : ¬ (runAt .bare 0 (echoThen ['h', 'i'] answerYes) .holdingA).Overruns
      Scene.bare.limits :=
    Outcome.not_overruns_of_completed (by decide +kernel)
  have henqueue : ¬ (runAt .bare 0 (enqueueThen ['n'] answerYes) .holdingA).Overruns
      Scene.bare.limits :=
    Outcome.not_overruns_of_completed (by decide +kernel)
  have hruns := echo_and_enqueue_run_target .bare 0 answerYes .holdingA
  exact ⟨⟨htext, hname, hne, htarget⟩, hruns.1 _ htext hecho, hruns.2.1 _ hname hne henqueue,
    hruns.2.2 htarget⟩

/-- Behind an output the test reads `aa` as its pattern and no field, and does not match. -/
theorem not_every_target_runs_alone :
    ¬ ∀ (scene : Scene) (depth : Int) (state : State) (text target : List Char), '$' ∉ text →
      ¬ (runAt scene depth (echoThen text target) state).Overruns scene.limits →
      runAt scene depth (echoThen text target) state =
        (runAt scene depth (Command.parse target) state).after [.raw (String.ofList text)] := by
  intro h
  have hoverrun : ¬ (runAt .bare 0 (echoThen ['h', 'i'] answerYesIfA) .holdingA).Overruns
      Scene.bare.limits :=
    Outcome.not_overruns_of_completed (by decide +kernel)
  -- the line that is run is `if aa=return yes`, whose test reads the empty text
  have hbehind : (runAt .bare 0 (echoThen ['h', 'i'] answerYesIfA)
      .holdingA).state.message.handled = false := by decide +kernel
  have halone : (runAt .bare 0 (Command.parse answerYesIfA)
      .holdingA).state.message.handled = true := by decide +kernel
  have hequal := h .bare 0 .holdingA ['h', 'i'] answerYesIfA (by decide) hoverrun
  rw [hequal] at hbehind
  simp [Outcome.after, halone] at hbehind

end Switchboard
