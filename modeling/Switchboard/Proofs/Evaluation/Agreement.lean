import Switchboard.Proofs.Evaluation.Machine
import Switchboard.Rules.Registry

/-!
# The machine and the evaluator

The machine comes to an end from every start, and with the outcome of the evaluator
(`run_evaluateRules`). The proof follows the evaluator: a chain, the rules of a context and a call
each get a lemma that says where the machine stands behind them. The frames below are arbitrary
there, so that the lemmas fit into each other.
-/

namespace Switchboard

open Text

namespace Guard

theorem levelsAt_eq_zero_iff (g : Guard) (depth : Int) :
    g.levelsAt depth = 0 ↔ g.admits depth = false := by
  cases g with
  | upTo bound label =>
    simp only [levelsAt, admits, decide_eq_false_iff_not]
    omega
  | unordered kind => simp [levelsAt, admits]

theorem levelsAt_succ (g : Guard) (depth : Int) :
    g.levelsAt (depth + 1) = g.levelsAt depth - 1 := by
  cases g with
  | upTo bound label =>
    simp only [levelsAt]
    omega
  | unordered kind => rfl

end Guard

namespace Machine

/-! ## Agreement with the evaluator -/

/-- The configuration behind a part of an evaluation that left `o` behind: it goes on with
`control` over the given frames, or has stopped with the fault of `o`. -/
def Config.IsBehind (control : Control) (stack : List Frame) (depth : Int) (before : List Event)
    (o : Outcome) (c : Config) : Prop :=
  match o.fault with
  | none => c = ⟨control, stack, depth, o.state, before ++ o.events⟩
  | some fault => c.control = .failed fault ∧ c.state = o.state ∧ c.events = before ++ o.events

/-- The machine gets from `a` behind a part of an evaluation that left `o` behind. -/
def Reaches (scene : Scene) (a : Config) (control : Control) (stack : List Frame) (depth : Int)
    (before : List Event) (o : Outcome) : Prop :=
  ∃ trail last, Run scene a trail last ∧ last.IsBehind control stack depth before o

section

variable {scene : Scene} {depth : Int}

theorem Reaches.after_step {a b : Config} {control : Control} {stack : List Frame}
    {before : List Event} {o : Outcome} (hstep : step scene a = some b)
    (h : Reaches scene b control stack depth before o) :
    Reaches scene a control stack depth before o := by
  rcases h with ⟨trail, last, hrun, hbehind⟩
  exact ⟨a :: trail, last, .next hstep hrun, hbehind⟩

theorem Reaches.failed {c : Config} {control : Control} {stack : List Frame} {fault : Fault}
    (hcontrol : c.control = .failed fault) :
    Reaches scene c control stack depth c.events ⟨c.state, [], some fault⟩ :=
  ⟨[], c, .here c, hcontrol, rfl, by simp⟩

/-- A part of an evaluation, and behind it the rest. -/
theorem Reaches.andThen {a : Config} {control control' : Control} {stack stack' : List Frame}
    {depth' : Int} {before : List Event} {first second : Outcome}
    (h : Reaches scene a control stack depth before first)
    (hfault : ∀ fault, first.fault = some fault → second = first)
    (hrest : first.fault = none →
      Reaches scene ⟨control, stack, depth, first.state, before ++ first.events⟩
        control' stack' depth' before second) :
    Reaches scene a control' stack' depth' before second := by
  rcases h with ⟨trail, last, hrun, hbehind⟩
  -- behind a fault there is no rest: both parts end where the first one stopped
  cases hfirst : first.fault with
  | none =>
    rw [Config.IsBehind, hfirst] at hbehind
    rcases hrest hfirst with ⟨trail', last', hrun', hbehind'⟩
    exact ⟨trail ++ trail', last', hrun.trans (hbehind ▸ hrun'), hbehind'⟩
  | some fault =>
    refine ⟨trail, last, hrun, ?_⟩
    rw [Config.IsBehind, hfirst] at hbehind
    rw [hfault fault hfirst, Config.IsBehind, hfirst]
    exact hbehind

/-- The machine runs the contexts that are called at a depth as `recur` does. -/
def Calls (scene : Scene) (depth : Int) (recur : Enter) : Prop :=
  ∀ jump args (c : Config), c.depth = depth → ∀ rest,
    Reaches scene (enter scene jump args c) .chainEnd c.stack depth c.events
      (Step.outcome rest (runCall scene recur jump args c.state))

theorem reaches_take {s : Step} {c : Config} {done : Nat} {rest : List Char → State → Outcome}
    (hdepth : c.depth = depth)
    (hrest : ∀ line state before,
      Reaches scene ⟨.command done (Command.parse line), c.stack, depth, state, before⟩
        .chainEnd c.stack depth before (rest line state)) :
    Reaches scene (take done s c) .chainEnd c.stack depth c.events (Step.outcome rest s) := by
  subst hdepth
  cases hnext : s.next with
  | done =>
    refine ⟨[], _, .here _, ?_⟩
    simp [Config.IsBehind, Step.outcome, take, hnext]
  | fault fault =>
    refine ⟨[], _, .here _, ?_⟩
    simp [Config.IsBehind, Step.outcome, take, hnext]
  | line line =>
    rcases hrest line s.state (c.events ++ s.events) with ⟨trail, last, hrun, hbehind⟩
    refine ⟨trail, last, by simpa [take, hnext] using hrun, ?_⟩
    simpa [Config.IsBehind, Step.outcome, hnext, Outcome.after, List.append_assoc] using hbehind

/-- The machine runs a chain as `runChain` does: what the guard leaves over is what is missing
to its count. -/
theorem reaches_runChain {recur : Enter} (hcalls : Calls scene depth recur) (left : Nat) :
    ∀ (done : Nat) (command : Command) (stack : List Frame) (state : State)
      (before : List Event), left + done = scene.limits.chain.count →
      Reaches scene ⟨.command done command, stack, depth, state, before⟩ .chainEnd stack depth
        before (runChain scene recur left command state) := by
  induction left with
  | zero =>
    intro done command stack state before hcount
    -- nothing is left over, so that the count has come to the guard
    have hrefused : ¬ scene.limits.chain.admits done = true := by
      rw [Guard.admits_iff_lt_count]
      omega
    exact .after_step (by simp [step, hrefused]; rfl) (Reaches.failed rfl)
  | succ left ih =>
    intro done command stack state before hcount
    have hadmitted : scene.limits.chain.admits done = true := by
      rw [Guard.admits_iff_lt_count]
      omega
    have hrest : ∀ line state before,
        Reaches scene ⟨.command (done + 1) (Command.parse line), stack, depth, state, before⟩
          .chainEnd stack depth before
          (runChain scene recur left (Command.parse line) state) := by
      intro line state before
      exact ih (done + 1) (Command.parse line) stack state before (by omega)
    refine .after_step (by simp [step, hadmitted]; rfl) ?_
    -- calls end the chain, and all other commands leave the line that `hrest` runs, if any
    rw [runChain_succ, execute, perform]
    cases command.action with
    | none => exact reaches_take rfl hrest
    | some action =>
      cases action with
      | call => exact hcalls false command.args _ rfl _
      | jump => exact hcalls true command.args _ rfl _
      | answer => exact reaches_take rfl hrest
      | test => exact reaches_take rfl hrest
      | echo => exact reaches_take rfl hrest
      | enqueue => exact reaches_take rfl hrest
      | dispatch => exact reaches_take rfl hrest

theorem Reaches.shift {a : Config} {control : Control} {stack : List Frame}
    {before events : List Event} {o : Outcome}
    (h : Reaches scene a control stack depth (before ++ events) o) :
    Reaches scene a control stack depth before (o.after events) := by
  rcases h with ⟨trail, last, hrun, hbehind⟩
  refine ⟨trail, last, hrun, ?_⟩
  simpa [Config.IsBehind, Outcome.after, List.append_assoc] using hbehind

/-- The machine runs the rules of a context as `runRules` does. -/
theorem reaches_runRules {recur : Enter} (hcalls : Calls scene depth recur)
    (rules : List Rule) :
    ∀ (stack : List Frame) (state : State) (before : List Event),
      Reaches scene ⟨.rules rules, stack, depth, state, before⟩ .contextEnd stack depth before
        (runRules scene recur rules state) := by
  induction rules with
  | nil =>
    intro stack state before
    refine .after_step rfl ⟨[], _, .here _, ?_⟩
    simp [Config.IsBehind, runRules]
  | cons rule rest ih =>
    intro stack state before
    have hchain : Reaches scene ⟨.command 0 rule.command, .rules rest :: stack, depth, state,
        before⟩ .chainEnd (.rules rest :: stack) depth before
        (runCommand scene recur rule.command state) :=
      reaches_runChain hcalls _ 0 rule.command _ state before (by simp)
    -- the chain of the rule, and then the rules that wait in its frame
    refine .after_step rfl (hchain.andThen ?_ ?_)
    · intro fault hfault
      simp [runRules, hfault]
    · intro hfault
      by_cases hsettled : (runCommand scene recur rule.command state).state.message.isSettled
      · refine .after_step (by simp [step, hsettled]; rfl) ⟨[], _, .here _, ?_⟩
        simp [Config.IsBehind, runRules, hfault, hsettled]
      · refine .after_step (by simp [step, hsettled]; rfl) ?_
        simpa [runRules, hfault, hsettled] using (ih stack _ _).shift

/-- The machine enters contexts as `enterAt` does with the levels that the guard leaves over. -/
theorem calls_enterAt (levels : Nat) :
    ∀ depth : Int, scene.limits.nesting.levelsAt depth = levels →
      Calls scene depth (enterAt scene levels) := by
  induction levels with
  | zero =>
    intro depth hlevels jump args c hdepth rest
    -- no level is left just where the guard refuses
    have hrefused := (scene.limits.nesting.levelsAt_eq_zero_iff depth).1 hlevels
    cases hcontext : scene.contexts.get? (String.ofList (strip args)) with
    | none =>
      refine ⟨[], _, .here _, ?_⟩
      simp [Config.IsBehind, enter, runCall, hcontext, Step.outcome, hdepth]
    | some rules =>
      refine ⟨[], _, .here _, ?_⟩
      simp [Config.IsBehind, enter, runCall, hcontext, Step.outcome, enterAt, hdepth, hrefused]
  | succ levels ih =>
    intro depth hlevels jump args c hdepth rest
    subst hdepth
    have hadmitted : scene.limits.nesting.admits c.depth = true := by
      rw [← Bool.not_eq_false, ← Guard.levelsAt_eq_zero_iff]
      omega
    cases hcontext : scene.contexts.get? (String.ofList (strip args)) with
    | none =>
      refine ⟨[], _, .here _, ?_⟩
      simp [Config.IsBehind, enter, runCall, hcontext, Step.outcome]
    | some rules =>
      -- inside of the context one level less is left, and calls start one deeper
      have hcalls : Calls scene (c.depth + 1) (enterAt scene levels) := by
        refine ih (c.depth + 1) ?_
        rw [Guard.levelsAt_succ, hlevels]
        rfl
      have hrules := reaches_runRules hcalls rules (.call jump c.depth :: c.stack) c.state c.events
      simp only [enter, hcontext, hadmitted, if_true]
      refine hrules.andThen ?_ ?_
      · intro fault hfault
        simp only [runCall, hcontext, enterAt, Step.outcome, hfault]
        rw [← hfault]
      · intro hfault
        refine .after_step rfl ⟨[], _, .here _, ?_⟩
        simp [Config.IsBehind, runCall, hcontext, enterAt, Step.outcome, hfault]

end

/-! ## The end of an evaluation -/

theorem step_eq_none_of_outcome? {scene : Scene} {c : Config} {o : Outcome}
    (h : c.outcome? = some o) : step scene c = none := by
  rcases (Config.outcome?_eq_some h).2.2 with ⟨-, hcontrol, hstack⟩ | ⟨fault, -, hcontrol⟩
  · simp [step, hcontrol, hstack]
  · simp [step, hcontrol]

/-- From every start the machine comes to an end, and with the outcome of the evaluator. -/
theorem run_evaluateRules (scene : Scene) (depth : Int) (rules : List Rule) (state : State) :
    ∃ trail last, Run scene (Config.start rules depth state) trail last ∧
      last.outcome? = some (evaluateRules scene depth rules state) := by
  have hcalls : Calls scene depth (enterAt scene (scene.limits.nesting.levelsAt depth)) :=
    calls_enterAt _ depth rfl
  rcases reaches_runRules hcalls rules [] state [] with ⟨trail, last, hrun, hbehind⟩
  refine ⟨trail, last, hrun, ?_⟩
  rw [evaluateRules]
  cases hout : runRules scene (enterAt scene (scene.limits.nesting.levelsAt depth)) rules state with
  | mk final events fault? =>
    rw [hout] at hbehind
    cases fault? with
    | none =>
      have hlast : last = ⟨.contextEnd, [], depth, final, events⟩ := by
        simpa [Config.IsBehind] using hbehind
      simp [hlast, Config.outcome?]
    | some fault =>
      rcases hbehind with ⟨hcontrol, hstate, hevents⟩
      simp only [List.nil_append] at hevents
      simp [Config.outcome?, hcontrol, hstate, hevents]

theorem run_evaluate (c : Context) (source : Source) (host : Host) (depth : Int) (state : State) :
    ∃ trail last,
      Run (c.registry.scene source host) (Config.start c.rules depth state) trail last ∧
      last.outcome? = some (c.evaluate source host depth state) :=
  run_evaluateRules (c.registry.scene source host) depth c.rules state

end Machine
end Switchboard
