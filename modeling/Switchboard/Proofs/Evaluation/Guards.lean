import Switchboard.Proofs.Evaluation.Agreement

/-!
# What the guards do

Under guards that are numbers an evaluation executes no more commands in a chain than the one
allows, and enters no context deeper than the other. `Bounded` is the invariant of its
configurations, and `Guarded` says of each step when a guard refuses it. A fault of the program's
own arises in no other way, since commands have none.
-/

namespace Switchboard

open Text

/-! ## Guards that are numbers -/

namespace Limits

/-- The guards of settings that are numbers. -/
def ofNumbers (chain depth : Nat) : Limits :=
  ⟨Guard.ofChainLimit (.int chain), Guard.ofDepthLimit (.int depth)⟩

variable {chain depth : Nat}

@[simp] theorem ofNumbers_chain_admits (n : Int) :
    (ofNumbers chain depth).chain.admits n = decide (n < chain) := by
  simp [ofNumbers, Guard.ofChainLimit, Guard.ofValue, Guard.admits]

@[simp] theorem ofNumbers_nesting_admits (n : Int) :
    (ofNumbers chain depth).nesting.admits n = decide (n < depth) := by
  simp [ofNumbers, Guard.ofDepthLimit, Guard.ofValue, Guard.admits]

theorem ofNumbers_chainFault (message : String) :
    (ofNumbers chain depth).chainFault message =
      Fault.report (.chainLimit (.int chain)) "Too many chained commands"
        [("message", message)] :=
  rfl

theorem ofNumbers_nestingFault (message context : String) :
    (ofNumbers chain depth).nestingFault message context =
      Fault.report (.chainLimit (.int depth)) "Context calls nested too deeply"
        [("message", message), ("context", context)] :=
  rfl

@[simp] theorem ofNumbers_chainFault_isReported (message : String) :
    ((ofNumbers chain depth).chainFault message).isReported = true :=
  rfl

@[simp] theorem ofNumbers_nestingFault_isReported (message context : String) :
    ((ofNumbers chain depth).nestingFault message context).isReported = true :=
  rfl

/-- The two guards fail with different faults. -/
theorem ofNumbers_chainFault_ne_nestingFault (message message' context : String) :
    (ofNumbers chain depth).chainFault message ≠
      (ofNumbers chain depth).nestingFault message' context := by
  rw [ofNumbers_chainFault, ofNumbers_nestingFault]
  simp [Fault.report, Report.ofTexts]

end Limits

namespace Machine

variable {scene : Scene} {chain depth : Nat} {a b : Config}

/-! ## The bounds -/

/-- No chain has come farther than to the attempt behind its last command, and no context is
deeper than allowed. -/
structure Bounded (chain depth : Nat) (c : Config) : Prop where
  executed_le : ∀ done command, c.control = .command done command → done ≤ chain
  depth_nonneg : 0 ≤ c.depth
  depth_le : c.depth ≤ depth
  waiting : ∀ (jump : Bool) (level : Int), .call jump level ∈ c.stack → 0 ≤ level ∧ level ≤ depth

theorem bounded_start (chain depth : Nat) (rules : List Rule) (state : State) :
    Bounded chain depth (Config.start rules 0 state) where
  executed_le := by
    intro done command hcontrol
    simp [Config.start] at hcontrol
  depth_nonneg := Int.le_refl 0
  depth_le := Int.natCast_nonneg depth
  waiting := by
    intro jump level hmem
    simp [Config.start] at hmem

/-- What a command did that called no context leaves the nesting as it is. -/
theorem bounded_take {done : Nat} {s : Step} {c : Config} (hdone : done < chain)
    (h : Bounded chain depth c) : Bounded chain depth (take (done + 1) s c) where
  executed_le := by
    intro done' command hcontrol
    cases hnext : s.next with
    | done => simp [take, hnext] at hcontrol
    | fault fault => simp [take, hnext] at hcontrol
    | line line =>
      simp only [take, hnext, Control.command.injEq] at hcontrol
      omega
  depth_nonneg := h.depth_nonneg
  depth_le := h.depth_le
  waiting := h.waiting

theorem bounded_step (hlimits : scene.limits = Limits.ofNumbers chain depth)
    (h : Bounded chain depth a) (hstep : step scene a = some b) : Bounded chain depth b := by
  cases move_of_step hstep with
  | noRule hcontrol => exact ⟨by simp, h.depth_nonneg, h.depth_le, h.waiting⟩
  | rule rule rest hcontrol =>
    refine ⟨?_, h.depth_nonneg, h.depth_le, ?_⟩
    · intro done command hcommand
      cases hcommand
      exact Nat.zero_le chain
    · intro jump level hmem
      exact h.waiting jump level (by simpa using hmem)
  | chainRefused done command hcontrol hrefused =>
    exact ⟨by simp, h.depth_nonneg, h.depth_le, h.waiting⟩
  | spare done command s hcontrol hadmitted hjump hanswer hspares =>
    rw [hlimits] at hadmitted
    exact bounded_take (by simpa using hadmitted) h
  | answer done command state hcontrol hadmitted hjump hanswer =>
    rw [hlimits] at hadmitted
    exact bounded_take (by simpa using hadmitted) h
  | noContext done command jump hcontrol hadmitted hjump hcontext =>
    exact ⟨by simp, h.depth_nonneg, h.depth_le, h.waiting⟩
  | nestingRefused done command jump rules hcontrol hadmitted hjump hcontext hrefused =>
    exact ⟨by simp, h.depth_nonneg, h.depth_le, h.waiting⟩
  | entry done command jump rules hcontrol hadmitted hjump hcontext hnesting =>
    rw [hlimits] at hnesting
    have hdepth : a.depth < depth := by simpa using hnesting
    have hnonneg := h.depth_nonneg
    refine ⟨by simp, by simp only; omega, by simp only; omega, ?_⟩
    intro jump' level hmem
    rcases List.mem_cons.1 hmem with heq | hmem
    · cases heq
      exact ⟨h.depth_nonneg, h.depth_le⟩
    · exact h.waiting jump' level hmem
  | settled rest stack hcontrol hstack hsettled =>
    refine ⟨by simp, h.depth_nonneg, h.depth_le, ?_⟩
    intro jump level hmem
    exact h.waiting jump level (by rw [hstack]; exact List.mem_cons_of_mem _ hmem)
  | unsettled rest stack hcontrol hstack hsettled =>
    refine ⟨by simp, h.depth_nonneg, h.depth_le, ?_⟩
    intro jump level hmem
    exact h.waiting jump level (by rw [hstack]; exact List.mem_cons_of_mem _ hmem)
  | comeback jump level stack hcontrol hstack =>
    -- the depth that the call kept is the depth again
    have hlevel := h.waiting jump level (by simp [hstack])
    refine ⟨by simp, hlevel.1, hlevel.2, ?_⟩
    intro jump' level' hmem
    exact h.waiting jump' level' (by rw [hstack]; exact List.mem_cons_of_mem _ hmem)

/-! ## When a guard refuses -/

/-- A command is about to call a context that exists. -/
def Calling (scene : Scene) (chain : Nat) (c : Config) : Prop :=
  ∃ done command jump rules, c.control = .command done command ∧ done < chain ∧
    jumps? command = some jump ∧
    scene.contexts.get? (String.ofList (strip command.args)) = some rules

/-- A context was entered. -/
def Entered (a b : Config) : Prop :=
  ∃ jump rules, b.control = .rules rules ∧ b.stack = .call jump a.depth :: a.stack ∧
    b.depth = a.depth + 1

/-- What the guards do in a step. -/
structure Guarded (scene : Scene) (chain depth : Nat) (a b : Config) : Prop where
  /-- The number at a command is that of the commands executed before it in its chain. -/
  counts : ∀ done command, b.control = .command done command →
    (done = 0 ∧ ∃ rule rest, a.control = .rules (rule :: rest) ∧ command = rule.command) ∨
      ∃ before previous, a.control = .command before previous ∧ done = before + 1
  /-- The guard of chains refuses the attempt behind the last command, and nothing else. -/
  chain_refuses : (∃ name, b.control = .failed (scene.limits.chainFault name)) ↔
    ∃ command, a.control = .command chain command
  /-- The guard of nesting refuses calls at the depth that is allowed, and nothing else. -/
  nesting_refuses :
    (∃ name context, b.control = .failed (scene.limits.nestingFault name context)) ↔
      Calling scene chain a ∧ a.depth = depth
  /-- All other calls enter their context. -/
  enters : Entered a b ↔ Calling scene chain a ∧ a.depth ≠ depth
  /-- There is no other fault of the program's own. -/
  reported : ∀ fault, b.control = .failed fault → fault.isReported = true →
    (∃ command, a.control = .command chain command) ∨ Calling scene chain a ∧ a.depth = depth

namespace Guarded

/-- A step that neither attempts too much nor calls a context, and does not fail with a fault of
the program's own. -/
theorem plain (hlimits : scene.limits = Limits.ofNumbers chain depth)
    (hcounts : ∀ done command, b.control = .command done command →
      (done = 0 ∧ ∃ rule rest, a.control = .rules (rule :: rest) ∧ command = rule.command) ∨
        ∃ before previous, a.control = .command before previous ∧ done = before + 1)
    (hfault : ∀ fault, b.control = .failed fault → fault.isReported = false)
    (hchain : ¬ ∃ command, a.control = .command chain command)
    (hcalling : ¬ Calling scene chain a) (hentered : ¬ Entered a b) :
    Guarded scene chain depth a b where
  counts := hcounts
  chain_refuses := by
    refine iff_of_false ?_ hchain
    rintro ⟨name, hcontrol⟩
    have hplain := hfault _ hcontrol
    simp [hlimits] at hplain
  nesting_refuses := by
    refine iff_of_false ?_ (fun h => hcalling h.1)
    rintro ⟨name, context, hcontrol⟩
    have hplain := hfault _ hcontrol
    simp [hlimits] at hplain
  enters := iff_of_false hentered (fun h => hcalling h.1)
  reported := by
    intro fault hcontrol hreported
    simp [hfault fault hcontrol] at hreported

end Guarded

theorem not_calling_of_control {c : Config}
    (h : ∀ done command, c.control ≠ .command done command) : ¬ Calling scene chain c := by
  rintro ⟨done, command, jump, rules, hcontrol, -⟩
  exact h done command hcontrol

theorem not_calling_of_jumps? {c : Config} {done : Nat} {command : Command}
    (hcontrol : c.control = .command done command) (hjump : jumps? command = none) :
    ¬ Calling scene chain c := by
  rintro ⟨done', command', jump, rules, hcontrol', -, hjump', -⟩
  rw [hcontrol] at hcontrol'
  cases hcontrol'
  simp [hjump] at hjump'

/-- A chain with commands left does not attempt too much. -/
theorem not_attempting {c : Config} {done : Nat} {command : Command}
    (hcontrol : c.control = .command done command) (hdone : done < chain) :
    ¬ ∃ command, c.control = .command chain command := by
  rintro ⟨command', hcontrol'⟩
  rw [hcontrol] at hcontrol'
  cases hcontrol'
  exact Nat.lt_irrefl chain hdone

theorem not_calling_of_le {c : Config} {done : Nat} {command : Command}
    (hcontrol : c.control = .command done command) (hdone : chain ≤ done) :
    ¬ Calling scene chain c := by
  rintro ⟨done', command', jump, rules, hcontrol', hlt, -⟩
  rw [hcontrol] at hcontrol'
  cases hcontrol'
  omega

/-- What a command did that called no context is the concern of no guard. -/
theorem guarded_take (hlimits : scene.limits = Limits.ofNumbers chain depth) {done : Nat}
    {command : Command} {s : Step} (hcontrol : a.control = .command done command)
    (hdone : done < chain) (hjump : jumps? command = none)
    (hfault : ∀ fault, s.next = .fault fault → fault.isReported = false) :
    Guarded scene chain depth a (take (done + 1) s a) := by
  refine Guarded.plain hlimits ?_ ?_ (not_attempting hcontrol hdone)
    (not_calling_of_jumps? hcontrol hjump) ?_
  · intro done' command' hcontrol'
    cases hnext : s.next with
    | done => simp [take, hnext] at hcontrol'
    | fault fault => simp [take, hnext] at hcontrol'
    | line line =>
      simp only [take, hnext, Control.command.injEq] at hcontrol'
      exact .inr ⟨done, command, hcontrol, hcontrol'.1.symm⟩
  · intro fault hfailed
    cases hnext : s.next with
    | done => simp [take, hnext] at hfailed
    | fault other =>
      simp only [take, hnext, Control.failed.injEq] at hfailed
      exact hfailed ▸ hfault other hnext
    | line line => simp [take, hnext] at hfailed
  · rintro ⟨jump, rules, hentered, -⟩
    cases hnext : s.next <;> simp [take, hnext] at hentered

theorem guarded_step (hlimits : scene.limits = Limits.ofNumbers chain depth)
    (h : Bounded chain depth a) (hstep : step scene a = some b) :
    Guarded scene chain depth a b := by
  cases move_of_step hstep with
  | noRule hcontrol =>
    refine .plain hlimits (by simp) (by simp) (by simp [hcontrol]) ?_ (by simp [Entered])
    exact not_calling_of_control (by simp [hcontrol])
  | rule rule rest hcontrol =>
    refine .plain hlimits ?_ (by simp) (by simp [hcontrol]) ?_ (by simp [Entered])
    · intro done command hcommand
      cases hcommand
      exact .inl ⟨rfl, rule, rest, hcontrol, rfl⟩
    · exact not_calling_of_control (by simp [hcontrol])
  | chainRefused done command hcontrol hrefused =>
    -- the attempt is refused from the full length of a chain on, and no chain gets beyond that
    have hdone : done = chain := by
      have hle := h.executed_le done command hcontrol
      rw [hlimits] at hrefused
      have hge : ¬ (done : Int) < chain := by simpa using hrefused
      omega
    subst hdone
    have hcalling : ¬ Calling scene done a := not_calling_of_le hcontrol (Nat.le_refl done)
    refine ⟨by simp, ?_, ?_, ?_, ?_⟩
    · exact iff_of_true ⟨_, rfl⟩ ⟨command, hcontrol⟩
    · refine iff_of_false ?_ (fun h => hcalling h.1)
      rintro ⟨name, context, hfailed⟩
      rw [hlimits] at hfailed
      exact Limits.ofNumbers_chainFault_ne_nestingFault _ _ _ (Control.failed.inj hfailed)
    · exact iff_of_false (by simp [Entered]) (fun h => hcalling h.1)
    · intro fault hfailed hreported
      exact .inl ⟨command, hcontrol⟩
  | spare done command s hcontrol hadmitted hjump hanswer hspares =>
    rw [hlimits] at hadmitted
    refine guarded_take hlimits hcontrol (by simpa using hadmitted) hjump ?_
    intro fault hnext
    exact (hspares.fault fault hnext).unreported
  | answer done command state hcontrol hadmitted hjump hanswer =>
    rw [hlimits] at hadmitted
    refine guarded_take hlimits hcontrol (by simpa using hadmitted) hjump ?_
    -- an answer may fail, but at its texts alone
    intro fault hnext
    rcases runAnswer_cases scene command state with
      ⟨other, fields, hother, harises, -⟩ | ⟨fields, hdone, -⟩ | ⟨value, fields, hdone, -⟩
    · rw [hother] at hnext
      cases hnext
      exact harises.unreported
    · simp [hdone] at hnext
    · simp [hdone] at hnext
  | noContext done command jump hcontrol hadmitted hjump hcontext =>
    rw [hlimits] at hadmitted
    have hdone : done < chain := by simpa using hadmitted
    refine .plain hlimits (by simp) (by simp) (not_attempting hcontrol hdone) ?_ (by simp [Entered])
    rintro ⟨done', command', jump', rules, hcontrol', -, -, hcontext'⟩
    rw [hcontrol] at hcontrol'
    cases hcontrol'
    simp [hcontext] at hcontext'
  | nestingRefused done command jump rules hcontrol hadmitted hjump hcontext hrefused =>
    rw [hlimits] at hadmitted hrefused
    have hdone : done < chain := by simpa using hadmitted
    have hcalling : Calling scene chain a :=
      ⟨done, command, jump, rules, hcontrol, hdone, hjump, hcontext⟩
    -- the guard refuses from the allowed depth on, and no configuration is deeper than that
    have hdepth : a.depth = depth := by
      have hle := h.depth_le
      have hge : ¬ a.depth < depth := by simpa using hrefused
      omega
    refine ⟨by simp, ?_, ?_, ?_, ?_⟩
    · refine iff_of_false ?_ (not_attempting hcontrol hdone)
      rintro ⟨name, hfailed⟩
      rw [hlimits] at hfailed
      exact Limits.ofNumbers_chainFault_ne_nestingFault _ _ _ (Control.failed.inj hfailed).symm
    · exact iff_of_true ⟨_, _, rfl⟩ ⟨hcalling, hdepth⟩
    · exact iff_of_false (by simp [Entered]) (fun h => h.2 hdepth)
    · intro fault hfailed hreported
      exact .inr ⟨hcalling, hdepth⟩
  | entry done command jump rules hcontrol hadmitted hjump hcontext hnesting =>
    rw [hlimits] at hadmitted hnesting
    have hdone : done < chain := by simpa using hadmitted
    have hcalling : Calling scene chain a :=
      ⟨done, command, jump, rules, hcontrol, hdone, hjump, hcontext⟩
    have hdepth : a.depth ≠ depth := by
      have hlt : a.depth < depth := by simpa using hnesting
      omega
    refine ⟨by simp, ?_, ?_, ?_, by simp⟩
    · exact iff_of_false (by simp) (not_attempting hcontrol hdone)
    · exact iff_of_false (by simp) (fun h => hdepth h.2)
    · exact iff_of_true ⟨jump, rules, rfl, rfl, rfl⟩ ⟨hcalling, hdepth⟩
  | settled rest stack hcontrol hstack hsettled =>
    refine .plain hlimits (by simp) (by simp) (by simp [hcontrol]) ?_ (by simp [Entered])
    exact not_calling_of_control (by simp [hcontrol])
  | unsettled rest stack hcontrol hstack hsettled =>
    refine .plain hlimits (by simp) (by simp) (by simp [hcontrol]) ?_ ?_
    · exact not_calling_of_control (by simp [hcontrol])
    · -- the stack has become shorter, and a call makes it longer
      rintro ⟨jump, rules, -, hgrown, -⟩
      have hlength := congrArg List.length hgrown
      simp [hstack] at hlength
      omega
  | comeback jump level stack hcontrol hstack =>
    refine .plain hlimits (by simp) (by simp) (by simp [hcontrol]) ?_ (by simp [Entered])
    exact not_calling_of_control (by simp [hcontrol])

/-! ## The guards hold -/

/-- Evaluating a context of a registry that was built with numbers as guards comes to an end. On
the way no chain and no nesting goes beyond its guard, and a guard refuses what goes beyond it and
nothing else. -/
theorem evaluate_ends_within_guards {serial chain depth : Nat} {sections : Sections}
    {registry : Registry} {name : String} {c : Context}
    (hbuild : (Registry.build serial (Limits.ofNumbers chain depth) sections).2 = .ok registry)
    (hcontext : registry.context? name = some c) (source : Source) (host : Host)
    (state : State) :
    ∃ trail last,
      Run (registry.scene source host) (Config.start c.rules 0 state) trail last ∧
      last.outcome? = some (c.evaluate source host 0 state) ∧
      step (registry.scene source host) last = none ∧
      (∀ config ∈ trail ++ [last], Bounded chain depth config) ∧
      ∀ config ∈ trail, ∃ next, step (registry.scene source host) config = some next ∧
        Guarded (registry.scene source host) chain depth config next := by
  have hlimits : (registry.scene source host).limits = Limits.ofNumbers chain depth :=
    (Registry.of_build hbuild).2.1
  have hregistry : c.registry = registry := by
    simp only [Registry.context?, Option.map_eq_some_iff] at hcontext
    rcases hcontext with ⟨rules, -, rfl⟩
    rfl
  rcases run_evaluate c source host 0 state with ⟨trail, last, hrun, houtcome⟩
  rw [hregistry] at hrun
  have hbounded := hrun.forall_mem (fun _ _ => bounded_step hlimits)
    (bounded_start chain depth c.rules state)
  refine ⟨trail, last, hrun, houtcome, step_eq_none_of_outcome? houtcome, ?_, ?_⟩
  · intro config hmem
    rcases List.mem_append.1 hmem with hmem | hmem
    · exact hbounded.1 config hmem
    · exact List.mem_singleton.1 hmem ▸ hbounded.2
  · exact hrun.forall_step (fun _ _ => bounded_step hlimits)
      (fun _ _ => guarded_step hlimits) (bounded_start chain depth c.rules state)

/-- A rule that jumps to the context in which it stands. -/
def loopRule : Rule :=
  ⟨['j', 'u', 'm', 'p', ' ', 'l', 'o', 'o', 'p'], ⟨some .jump, ['l', 'o', 'o', 'p'], [], none⟩⟩

/-- A registry with a context that only jumps to itself. -/
def loopRegistry : Registry :=
  ⟨1, Limits.ofNumbers 3 2, [("loop", [loopRule])]⟩

theorem loop_ends_within_guards :
    (Registry.build 1 (Limits.ofNumbers 3 2) [("loop", [loopRule.line])]).2 = .ok loopRegistry ∧
    loopRegistry.context? "loop" = some ⟨"loop", [loopRule], loopRegistry⟩ ∧
    ∃ trail last,
      Run (loopRegistry.scene .still .accepting)
        (Config.start [loopRule] 0 ⟨.fresh "m" [] Source.still.now, .start⟩) trail last ∧
      last.outcome? = some (Context.evaluate ⟨"loop", [loopRule], loopRegistry⟩ .still .accepting
        0 ⟨.fresh "m" [] Source.still.now, .start⟩) ∧
      step (loopRegistry.scene .still .accepting) last = none ∧
      (∀ config ∈ trail ++ [last], Bounded 3 2 config) ∧
      ∀ config ∈ trail, ∃ next, step (loopRegistry.scene .still .accepting) config = some next ∧
        Guarded (loopRegistry.scene .still .accepting) 3 2 config next := by
  have hbuild : (Registry.build 1 (Limits.ofNumbers 3 2) [("loop", [loopRule.line])]).2 =
      .ok loopRegistry := by with_unfolding_all rfl
  have hcontext : loopRegistry.context? "loop" = some ⟨"loop", [loopRule], loopRegistry⟩ := rfl
  exact ⟨hbuild, hcontext, evaluate_ends_within_guards hbuild hcontext _ _ _⟩

end Machine
end Switchboard
