import Switchboard.Proofs.Evaluation.Commands
import Switchboard.Rules.Registry

/-!
# Wider guards

A guard shows in the outcome of an evaluation only where it refuses: an evaluation that ends without
such a fault ends in the same way under guards that allow more. The proof runs the evaluation under
both guards in step, so that the two have the same commands behind them at every point. Where the
narrow one is refused, its fault is that of the whole evaluation, since no command holds a fault of
a context that it called back (`execute_of_refines`).
-/

namespace Switchboard

/-! ## Refusals -/

/-- The fault of a guard. -/
def Fault.IsOfGuard : Fault → Prop
  | .reported (.chainLimit _) _ => True
  | _ => False

/-- An evaluation that a guard has ended. -/
def Outcome.IsRefused (o : Outcome) : Prop :=
  ∃ fault, o.fault = some fault ∧ fault.IsOfGuard

/-- A command that a guard has ended, in a context that it called. -/
def Step.IsRefused (s : Step) : Prop :=
  ∃ fault, s.next = .fault fault ∧ fault.IsOfGuard

theorem Outcome.isRefused_after (events : List Event) (o : Outcome) :
    (o.after events).IsRefused ↔ o.IsRefused :=
  Iff.rfl

/-- Guards that refuse with faults of their own, since numbers can be compared with them. -/
structure Limits.IsOrdered (limits : Limits) : Prop where
  chain : ∀ message, (limits.chainFault message).IsOfGuard
  nesting : ∀ message context, (limits.nestingFault message context).IsOfGuard

/-- The scene under other guards. -/
def Scene.withLimits (scene : Scene) (limits : Limits) : Scene :=
  { scene with limits := limits }

/-! ## Running in step -/

/-- Contexts that are entered in the second way end as in the first, unless they are refused
there. -/
def Enter.Refines (enter enter' : Enter) : Prop :=
  ∀ name rules state, ¬ (enter name rules state).IsRefused →
    enter' name rules state = enter name rules state

section

variable {scene : Scene} {limits : Limits} {enter enter' : Enter}

/-- A command that is not refused does the same; guards are none of its concern. -/
theorem execute_of_refines (henter : Enter.Refines enter enter') {command : Command} {state : State}
    (h : ¬ (execute scene enter command state).IsRefused) :
    execute (scene.withLimits limits) enter' command state =
      execute scene enter command state := by
  -- only calls enter contexts
  have hcall : ∀ jump, ¬ (runCall scene enter jump command.args state).IsRefused →
      runCall (scene.withLimits limits) enter' jump command.args state =
        runCall scene enter jump command.args state := by
    intro jump hstep
    have hcontexts : (scene.withLimits limits).contexts = scene.contexts := rfl
    cases hcontext : scene.contexts.get? (String.ofList (Text.strip command.args)) with
    | none => simp [runCall, hcontexts, hcontext]
    | some rules =>
      have houtcome :
          ¬ (enter (String.ofList (Text.strip command.args)) rules state).IsRefused := by
        rintro ⟨fault, hfault, hguard⟩
        exact hstep ⟨fault, by simp [runCall, hcontext, hfault], hguard⟩
      simp [runCall, hcontexts, hcontext, henter _ _ _ houtcome]
  unfold execute at h ⊢
  cases haction : command.action with
  | none => rfl
  | some action =>
    rw [haction] at h
    cases action with
    | call => exact hcall false h
    | jump => exact hcall true h
    | test => rfl
    | answer => rfl
    | echo => rfl
    | enqueue => rfl
    | dispatch => rfl

/-- A chain that is not refused is the same one with more commands left. -/
theorem runChain_of_refines (hordered : scene.limits.IsOrdered)
    (henter : Enter.Refines enter enter') {left left' : Nat} (hle : left ≤ left')
    {command : Command} {state : State}
    (h : ¬ (runChain scene enter left command state).IsRefused) :
    runChain (scene.withLimits limits) enter' left' command state =
      runChain scene enter left command state := by
  induction left generalizing left' command state with
  | zero => exact absurd ⟨_, rfl, hordered.chain state.message.name⟩ h
  | succ left ih =>
    rcases Nat.exists_eq_add_of_le' hle with ⟨extra, rfl⟩
    rw [← Nat.add_assoc, runChain_succ, runChain_succ]
    rw [runChain_succ] at h
    -- a step that is refused ends the chain with its fault
    have hstep : ¬ (execute scene enter command state).IsRefused := by
      rintro ⟨fault, hnext, hguard⟩
      exact h ⟨fault, by simp [Step.outcome, hnext], hguard⟩
    rw [execute_of_refines henter hstep]
    cases hnext : (execute scene enter command state).next with
    | done => simp [Step.outcome, hnext]
    | fault fault => simp [Step.outcome, hnext]
    | line line =>
      simp only [Step.outcome, hnext, Outcome.isRefused_after] at h ⊢
      rw [ih (Nat.le_add_left left extra) h]

/-- Rules that are not refused do the same. -/
theorem runRules_of_refines (hordered : scene.limits.IsOrdered)
    (henter : Enter.Refines enter enter')
    (hchain : scene.limits.chain.count ≤ limits.chain.count) {rules : List Rule} {state : State}
    (h : ¬ (runRules scene enter rules state).IsRefused) :
    runRules (scene.withLimits limits) enter' rules state = runRules scene enter rules state := by
  induction rules generalizing state with
  | nil => rfl
  | cons rule rest ih =>
    simp only [runRules] at h ⊢
    have hcommand : ¬ (runCommand scene enter rule.command state).IsRefused := by
      rintro ⟨fault, hfault, hguard⟩
      exact h ⟨fault, by simp [hfault], hguard⟩
    have hsame : runCommand (scene.withLimits limits) enter' rule.command state =
        runCommand scene enter rule.command state :=
      runChain_of_refines hordered henter hchain hcommand
    rw [hsame]
    cases hfault : (runCommand scene enter rule.command state).fault with
    | some fault => rfl
    | none =>
      rw [hfault] at h
      by_cases hsettled : (runCommand scene enter rule.command state).state.message.isSettled
      · simp [hsettled]
      · simp only [hsettled] at h ⊢
        rw [ih h]

/-- With more levels left contexts that are not refused do the same. -/
theorem enterAt_refines (hordered : scene.limits.IsOrdered)
    (hchain : scene.limits.chain.count ≤ limits.chain.count) {levels levels' : Nat}
    (hle : levels ≤ levels') :
    Enter.Refines (enterAt scene levels) (enterAt (scene.withLimits limits) levels') := by
  induction levels generalizing levels' with
  | zero =>
    intro name rules state h
    exact absurd ⟨_, rfl, hordered.nesting state.message.name name⟩ h
  | succ levels ih =>
    intro name rules state h
    rcases Nat.exists_eq_add_of_le' hle with ⟨extra, rfl⟩
    exact runRules_of_refines hordered (ih (Nat.le_add_left levels extra)) hchain h

/-- Under guards that allow more, an evaluation that is not refused has the same outcome. -/
theorem evaluateRules_of_refines (hordered : scene.limits.IsOrdered)
    (hchain : scene.limits.chain.count ≤ limits.chain.count) {depth : Int}
    (hnesting : scene.limits.nesting.levelsAt depth ≤ limits.nesting.levelsAt depth)
    {rules : List Rule} {state : State}
    (h : ¬ (evaluateRules scene depth rules state).IsRefused) :
    evaluateRules (scene.withLimits limits) depth rules state =
      evaluateRules scene depth rules state :=
  runRules_of_refines hordered (enterAt_refines hordered hchain hnesting) hchain h

end

/-! ## Guards that are integers -/

namespace Limits

/-- The guards of settings that are integers. -/
def ofIntegers (chain depth : Int) : Limits :=
  ⟨Guard.ofChainLimit (.int chain), Guard.ofDepthLimit (.int depth)⟩

theorem isOrdered_ofIntegers (chain depth : Int) : (ofIntegers chain depth).IsOrdered where
  chain := by
    intro message
    trivial
  nesting := by
    intro message context
    trivial

theorem ofIntegers_chain_count_le {chain chain' : Int} (h : chain ≤ chain') (depth depth' : Int) :
    (ofIntegers chain depth).chain.count ≤ (ofIntegers chain' depth').chain.count :=
  Int.toNat_le_toNat h

theorem ofIntegers_levelsAt_le (chain chain' : Int) {depth depth' : Int} (h : depth ≤ depth')
    (level : Int) :
    (ofIntegers chain depth).nesting.levelsAt level ≤
      (ofIntegers chain' depth').nesting.levelsAt level := by
  simp only [ofIntegers, Guard.ofDepthLimit, Guard.ofValue, Guard.levelsAt]
  omega

end Limits

/-! ## Contexts under wider guards -/

/-- Rules are compiled without regard to the guards and the number of the registry. -/
theorem Registry.build_again {serial : Nat} {limits : Limits} {sections : Sections}
    {registry : Registry} (h : (build serial limits sections).2 = .ok registry) (serial' : Nat)
    (limits' : Limits) :
    (build serial' limits' sections).2 = .ok ⟨serial', limits', registry.contexts⟩ := by
  rcases of_build h with ⟨-, -, hcontexts⟩
  simp [build, hcontexts, Except.map]

/-- A context that ends without a refusal under some limits ends in the same way under wider ones:
with the same message, the same fault if there is one, and the same events. -/
theorem wider_guards_keep_outcome {serial : Nat} {chain chain' nesting nesting' : Int}
    (hchain : chain ≤ chain') (hnesting : nesting ≤ nesting') {sections : Sections}
    {registry : Registry} {name : String} {c : Context}
    (hbuild : (Registry.build serial (Limits.ofIntegers chain nesting) sections).2 = .ok registry)
    (hcontext : registry.context? name = some c) (source : Source) (host : Host) (depth : Int)
    (state : State) (hends : ¬ (c.evaluate source host depth state).IsRefused) (serial' : Nat) :
    ∃ registry' c',
      (Registry.build serial' (Limits.ofIntegers chain' nesting') sections).2 = .ok registry' ∧
      registry'.context? name = some c' ∧
      c'.evaluate source host depth state = c.evaluate source host depth state := by
  rcases Registry.of_build hbuild with ⟨-, hlimits, -⟩
  rw [Registry.context?, Option.map_eq_some_iff] at hcontext
  rcases hcontext with ⟨rules, hrules, rfl⟩
  refine ⟨⟨serial', Limits.ofIntegers chain' nesting', registry.contexts⟩,
    ⟨name, rules, ⟨serial', Limits.ofIntegers chain' nesting', registry.contexts⟩⟩,
    Registry.build_again hbuild _ _, by simp [Registry.context?, hrules], ?_⟩
  have hordered : (registry.scene source host).limits.IsOrdered := by
    rw [Registry.scene, hlimits]
    exact Limits.isOrdered_ofIntegers chain nesting
  refine evaluateRules_of_refines hordered ?_ ?_ hends
  · rw [Registry.scene, hlimits]
    exact Limits.ofIntegers_chain_count_le hchain nesting nesting'
  · rw [Registry.scene, hlimits]
    exact Limits.ofIntegers_levelsAt_le chain chain' hnesting depth

/-- Sections of two contexts: one calls the other, which writes a text and answers behind it. -/
def callingSections : Sections :=
  [("main", [['c', 'a', 'l', 'l', ' ', 's']]),
    ("s", [['e', 'c', 'h', 'o', ' ', 'h', 'i', '=', 'r', 'e', 't', 'u', 'r', 'n', ' ', '1']])]

/-- Their registry under guards that just suffice. -/
def callingRegistry : Registry :=
  ⟨1, Limits.ofIntegers 2 1,
    [("main", [⟨['c', 'a', 'l', 'l', ' ', 's'], ⟨some .call, ['s'], [], none⟩⟩]),
      ("s", [⟨['e', 'c', 'h', 'o', ' ', 'h', 'i', '=', 'r', 'e', 't', 'u', 'r', 'n', ' ', '1'],
        ⟨some .echo, ['h', 'i'], [], some ['r', 'e', 't', 'u', 'r', 'n', ' ', '1']⟩⟩])]⟩

theorem calling_keeps_outcome :
    (2 : Int) ≤ 1000 ∧ (1 : Int) ≤ 64 ∧
    (Registry.build 1 (Limits.ofIntegers 2 1) callingSections).2 = .ok callingRegistry ∧
    ∃ c, callingRegistry.context? "main" = some c ∧
      (c.evaluate .still .accepting 0 ⟨.fresh "m" [] Source.still.now, .start⟩).fault = none ∧
      ∃ registry' c',
        (Registry.build 2 (Limits.ofIntegers 1000 64) callingSections).2 = .ok registry' ∧
        registry'.context? "main" = some c' ∧
        c'.evaluate .still .accepting 0 ⟨.fresh "m" [] Source.still.now, .start⟩ =
          c.evaluate .still .accepting 0 ⟨.fresh "m" [] Source.still.now, .start⟩ := by
  have hbuild : (Registry.build 1 (Limits.ofIntegers 2 1) callingSections).2 =
      .ok callingRegistry := by with_unfolding_all rfl
  have hcontext : callingRegistry.context? "main" =
      some ⟨"main", [⟨['c', 'a', 'l', 'l', ' ', 's'], ⟨some .call, ['s'], [], none⟩⟩],
        callingRegistry⟩ := rfl
  have hends : (Context.evaluate ⟨"main", [⟨['c', 'a', 'l', 'l', ' ', 's'],
      ⟨some .call, ['s'], [], none⟩⟩], callingRegistry⟩ .still .accepting 0
      ⟨.fresh "m" [] Source.still.now, .start⟩).fault = none := by decide +kernel
  have hfree : ¬ (Context.evaluate ⟨"main", [⟨['c', 'a', 'l', 'l', ' ', 's'],
      ⟨some .call, ['s'], [], none⟩⟩], callingRegistry⟩ .still .accepting 0
      ⟨.fresh "m" [] Source.still.now, .start⟩).IsRefused := by
    rintro ⟨fault, hfault, -⟩
    simp [hends] at hfault
  exact ⟨by decide, by decide, hbuild, _, hcontext, hends,
    wider_guards_keep_outcome (by decide) (by decide) hbuild hcontext _ _ _ _ hfree 2⟩

end Switchboard
