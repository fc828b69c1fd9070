import Switchboard.Proofs.Evaluation.Agreement
import Switchboard.Proofs.Router.Routes

/-!
# Published contexts

A context that a router has given out stays what it was, whatever is loaded, unloaded or set
afterwards. Every load puts up a registry of its own under a new number and leaves the former one
alone (`Operation.succeeds`), so a context that is found again under its number and name is the one
that was given out (`Router.recalls_eq`). What a context calls is found in the registry that it was
built in, and all rules that its evaluation runs are rules of contexts of that registry
(`Machine.resides_step`, `Machine.resolves_step`).
-/

namespace Switchboard

open Machine (Config Frame Run)
open Text (strip)

/-! ## What is loaded -/

/-- What a router has loaded, and under which guards and after which number it loads anew. -/
structure Loaded where
  registry : Registry
  limits : Limits
  serial : Nat

namespace Router

/-- What the router has loaded. -/
def loaded (router : Router) : Loaded :=
  ⟨router.registry, router.limits, router.serial⟩

@[simp] theorem loaded_absorb (router : Router) (event : Event) :
    (router.absorb event).loaded = router.loaded := by
  rcases router.absorb_eq event with ⟨queue, trail, hevent⟩
  rw [hevent]
  rfl

@[simp] theorem loaded_absorbAll (router : Router) (events : List Event) :
    (router.absorbAll events).loaded = router.loaded := by
  rcases router.absorbAll_eq events with ⟨queue, trail, hevents⟩
  rw [hevents]
  rfl

@[simp] theorem loaded_install (router : Router) (name : String) (handler? : Option Handler)
    (priority : Value) : (router.install name handler? priority).2.loaded = router.loaded := by
  rw [install_snd]
  rfl

@[simp] theorem loaded_unload (router : Router) :
    router.unload.loaded = ⟨Registry.empty, router.limits, router.serial⟩ := by
  rcases router.unload_eq with ⟨bus, trail, hunload⟩
  rw [hunload]
  rfl

theorem loaded_bind (router : Router) (d : Directive) :
    (router.bind d).2.loaded = router.loaded := by
  rcases router.bind_cases d with ⟨-, hbind⟩ | ⟨c, -, ⟨fault, -, hbind⟩ | hbind⟩
  · rw [hbind]
  · rw [hbind]
    exact router.loaded_install _ _ _
  · rw [hbind]
    rfl

/-- Prepared rules take the place of the loaded ones, also where a binding is refused. -/
theorem loaded_commit (router : Router) (plan : Plan) (source : String) :
    (router.commit plan source).2.loaded =
      ⟨plan.registry, router.limits, plan.registry.serial⟩ := by
  have hlimits : router.unload.limits = router.limits :=
    congrArg Loaded.limits router.loaded_unload
  refine commit_invariant
    (P := fun after => after.loaded = ⟨plan.registry, router.limits, plan.registry.serial⟩)
    ?_ ?_ ?_ source
  · intro after d hafter
    rw [loaded_bind, hafter]
  · intro after event hafter
    rw [loaded_absorb, hafter]
  · rw [← hlimits]
    rfl

end Router

/-! ## The succession of registries -/

/-- What a single operation leaves loaded: the registry is the one of before, or there is none, or
it is a new one with a number of its own, which was built under the guards of the settings. -/
structure Succeeds (former now : Loaded) : Prop where
  serial_le : former.serial ≤ now.serial
  numbered : now.registry.serial ≤ now.serial
  registry : now.registry = former.registry ∨ now.registry = Registry.empty ∨
    former.serial < now.registry.serial ∧ ∃ sections,
      (Registry.build now.registry.serial former.limits sections).2 = .ok now.registry

namespace Succeeds

theorem refl {now : Loaded} (h : now.registry.serial ≤ now.serial) : Succeeds now now :=
  ⟨Nat.le_refl _, h, .inl rfl⟩

theorem unload {former now : Loaded} (h : Succeeds former now) :
    Succeeds former { now with registry := Registry.empty } :=
  ⟨h.serial_le, Nat.zero_le _, .inr (.inl rfl)⟩

end Succeeds

/-- As long as the guards of the settings are the same, what succeeds is succeeded by what is loaded
or unloaded next. -/
theorem steady_succeeds (former : Loaded) :
    Steady fun router =>
      router.loaded.limits = former.limits ∧ Succeeds former router.loaded where
  aside := fun _ _ _ _ h => h
  loadText := by
    rintro router text source ⟨hlimits, hsucceeds⟩
    rcases hprepare : router.prepare text with ⟨events, result⟩
    cases result with
    | error fault =>
      simp only [Router.loadText, hprepare, Router.loaded_absorbAll]
      exact ⟨hlimits, hsucceeds⟩
    | ok plan =>
      have hbuild := (Router.of_prepare hprepare).1
      have hserial : plan.registry.serial = router.loaded.serial + 1 :=
        (Registry.of_build hbuild).1
      have hwarned : (router.absorbAll events).limits = router.loaded.limits :=
        congrArg Loaded.limits (router.loaded_absorbAll events)
      -- the new registry has the next number, which no registry had before
      have hnumber := hsucceeds.serial_le
      simp only [Router.loadText, hprepare, Router.loaded_commit]
      refine ⟨hwarned.trans hlimits, ?_, Nat.le_refl _, .inr (.inr ⟨?_, plan.sections, ?_⟩)⟩
      · simp only
        omega
      · simp only
        omega
      · rw [hserial, ← hlimits]
        exact hbuild
  unload := by
    rintro router ⟨hlimits, hsucceeds⟩
    rw [Router.loaded_unload]
    exact ⟨hlimits, hsucceeds.unload⟩
  install := by
    intro router name handler priority _ h
    rw [router.loaded_install]
    exact h
  uninstall := fun _ _ _ _ h => h

/-- The number of the registry is not beyond the numbers that were given. -/
def Router.Numbered (router : Router) : Prop :=
  router.registry.serial ≤ router.serial

/-- What an operation leaves loaded. -/
theorem Operation.succeeds {router : Router} (h : router.Numbered) (around : Surroundings)
    (operation : Operation) : Succeeds router.loaded (operation.run around router).loaded := by
  by_cases hforeign : operation.IsForeign
  · -- neither settings nor handlers are part of what is loaded
    cases operation with
    | configure settings => exact ⟨Nat.le_refl _, h, .inl rfl⟩
    | install name handler? priority =>
      rw [run, router.loaded_install]
      exact .refl h
    | uninstall name handler? => exact .refl h
    | _ => exact hforeign.elim
  · exact ((steady_succeeds router.loaded).run around (fun hother => absurd hother hforeign)
      ⟨rfl, .refl h⟩).2

/-! ## Reachable routers -/

theorem Reachable.numbered {router : Router} (h : Reachable router) : router.Numbered := by
  induction h with
  | start settings => exact Nat.le_refl 0
  | after around operation _ ih => exact (operation.succeeds ih around).numbered

/-- A registry that was built for a router, under the guards that its settings asked for then. -/
def Registry.IsBuilt (registry : Registry) : Prop :=
  ∃ builder sections, Reachable builder ∧ registry.limits = builder.limits ∧
    (Registry.build registry.serial builder.limits sections).2 = .ok registry

theorem Reachable.isBuilt {router : Router} (h : Reachable router) :
    router.registry = Registry.empty ∨ router.registry.IsBuilt := by
  induction h with
  | start settings => exact .inl rfl
  | @after router around operation hreachable ih =>
    -- a single operation leaves the settings, so the guards of all that it builds are of one state
    rcases (operation.succeeds hreachable.numbered around).registry with
      hsame | hempty | ⟨-, sections, hbuild⟩
    · rw [show (operation.run around router).registry = router.registry from hsame]
      exact ih
    · exact .inl hempty
    · exact .inr ⟨router, sections, hreachable, (Registry.of_build hbuild).2.1, hbuild⟩

/-- The router after operations, one after the other. -/
def Operation.runAll : List (Surroundings × Operation) → Router → Router
  | [], router => router
  | (around, operation) :: rest, router => runAll rest (operation.run around router)

/-- What any number of operations leave loaded: the registry is the one of before, or there is none,
or it is one with a number that was not given before. -/
structure Later (former now : Loaded) : Prop where
  serial_le : former.serial ≤ now.serial
  registry : now.registry = former.registry ∨ now.registry = Registry.empty ∨
    former.serial < now.registry.serial

/-- What is later than a successor is later. -/
theorem Succeeds.later {former next now : Loaded} (hnext : Succeeds former next)
    (hlater : Later next now) : Later former now := by
  refine ⟨hnext.serial_le.trans hlater.serial_le, ?_⟩
  rcases hlater.registry with hsame | hempty | hnew
  · rcases hnext.registry with hkept | hdropped | ⟨hnumber, -⟩
    · exact .inl (hsame.trans hkept)
    · exact .inr (.inl (hsame.trans hdropped))
    · exact .inr (.inr (hsame ▸ hnumber))
  · exact .inr (.inl hempty)
  · exact .inr (.inr (hnext.serial_le.trans_lt hnew))

theorem Operation.runAll_later (operations : List (Surroundings × Operation)) {router : Router}
    (h : router.Numbered) : Later router.loaded (runAll operations router).loaded := by
  induction operations generalizing router with
  | nil => exact ⟨Nat.le_refl _, .inl rfl⟩
  | cons first rest ih =>
    rcases first with ⟨around, operation⟩
    have hnext := operation.succeeds h around
    exact hnext.later (ih hnext.numbered)

/-! ## Contexts that are still at hand -/

/-- A context is still at hand: it was kept, or it is found under a name, as the same one. -/
def Router.Recalls (later : Router) (c c' : Context) : Prop :=
  c' = c ∨ (∃ name, later.context? name = some c') ∧ c'.isSame c = true

/-- A registry has one context of a name. -/
theorem Registry.eq_of_context? {registry : Registry} {name name' : String} {c c' : Context}
    (h : registry.context? name = some c) (h' : registry.context? name' = some c')
    (hname : c'.name = c.name) : c' = c := by
  rw [(of_context? h).2.1, (of_context? h').2.1] at hname
  rw [hname, h, Option.some.injEq] at h'
  exact h'.symm

/-- What is found later and is the same context has the same rules, the same registry and the same
guards. -/
theorem Router.recalls_eq {router later : Router} {name : String} {c c' : Context}
    (hnumbered : router.Numbered) (hlater : Later router.loaded later.loaded)
    (hc : router.context? name = some c) (h : later.Recalls c c') : c' = c := by
  rcases h with hkept | ⟨⟨name', hc'⟩, hsame⟩
  · exact hkept
  · simp only [Context.isSame, Bool.and_eq_true, beq_iff_eq] at hsame
    rcases hsame with ⟨hserial, hname⟩
    rw [(Registry.of_context? hc).1, (Registry.of_context? hc').1] at hserial
    rcases hlater.registry with hregistry | hempty | hnew
    · have hregistry' : later.registry = router.registry := hregistry
      rw [context?, hregistry'] at hc'
      exact Registry.eq_of_context? hc hc' hname
    · -- nothing is found in the registry without contexts
      have hempty' : later.registry = Registry.empty := hempty
      rw [context?, hempty'] at hc'
      cases hc'
    · -- a new registry has a number that no context of the former one has
      have hnew' : router.serial < later.registry.serial := hnew
      have hold : router.registry.serial ≤ router.serial := hnumbered
      omega

/-- Two contexts, each run by a router, do the same with every message: at one time and from equal
draws they give the same response, draw the same, and tell the bus and the log the same. -/
structure Router.Alike (router later : Router) (c c' : Context) : Prop where
  evaluate : ∀ (around around' : Surroundings) (draws : Draws) (depth : Int) (m : Message),
    around'.source = around.source → ∃ response drawn events,
      { router with draws := draws }.evaluateContext around c depth m =
        (response, { router with draws := drawn }.absorbAll events) ∧
      { later with draws := draws }.evaluateContext around' c' depth m =
        (response, { later with draws := drawn }.absorbAll events)
  call : ∀ (around around' : Surroundings) (draws : Draws) (m : Message),
    around'.source = around.source → ∃ response drawn events,
      { router with draws := draws }.callContext around c m =
        (response, { router with draws := drawn }.absorbAll events) ∧
      { later with draws := draws }.callContext around' c' m =
        (response, { later with draws := drawn }.absorbAll events)

/-- What a context does depends neither on what is loaded nor on the settings. -/
theorem Router.alike_self (router later : Router) (c : Context) : router.Alike later c c where
  evaluate := by
    intro around around' draws depth m hsource
    refine ⟨_, _, _, rfl, ?_⟩
    rw [evaluateContext, hsource]
    rfl
  call := by
    intro around around' draws m hsource
    refine ⟨_, _, _, rfl, ?_⟩
    rw [callContext, hsource]
    rfl

/-! ## Where calls lead -/

/-- Rules are those of a context of the registry, or what is left of them. -/
def Registry.HoldsRest (registry : Registry) (rest : List Rule) : Prop :=
  ∃ name target, registry.context? name = some target ∧ rest <:+ target.rules

namespace Machine

variable {registry : Registry} {source : Source} {host : Host} {a b : Config}

/-- All rules that an evaluation has before it are rules of contexts of the registry. -/
structure Resides (registry : Registry) (config : Config) : Prop where
  running : ∀ rest, config.control = .rules rest → registry.HoldsRest rest
  waiting : ∀ rest, .rules rest ∈ config.stack → registry.HoldsRest rest

theorem Resides.of_subset (h : Resides registry a)
    (hrunning : ∀ rest, b.control = .rules rest → registry.HoldsRest rest)
    (hstack : b.stack ⊆ a.stack) : Resides registry b :=
  ⟨hrunning, fun rest hmem => h.waiting rest (hstack hmem)⟩

theorem resides_start {c : Context} {name : String} (hc : registry.context? name = some c)
    (depth : Int) (state : State) : Resides registry (Config.start c.rules depth state) where
  running := by
    intro rest hcontrol
    cases hcontrol
    exact ⟨name, c, hc, List.suffix_refl _⟩
  waiting := by
    intro rest hmem
    cases hmem

theorem take_control_ne (done : Nat) (s : Step) (c : Config) (rest : List Rule) :
    (take done s c).control ≠ .rules rest := by
  cases hnext : s.next <;> simp [take, hnext]

/-- Every step stays in the registry. -/
theorem resides_step (h : Resides registry a)
    (hstep : step (registry.scene source host) a = some b) : Resides registry b := by
  cases move_of_step hstep with
  | noRule hcontrol => exact h.of_subset (by simp) (List.Subset.refl _)
  | rule rule rest hcontrol =>
    rcases h.running _ hcontrol with ⟨name, target, htarget, hsuffix⟩
    refine ⟨by simp, ?_⟩
    intro rest' hmem
    rcases List.mem_cons.1 hmem with hfirst | hmem
    · cases hfirst
      exact ⟨name, target, htarget, (List.suffix_cons rule rest).trans hsuffix⟩
    · exact h.waiting rest' hmem
  | chainRefused done command hcontrol hrefused =>
    exact h.of_subset (by simp) (List.Subset.refl _)
  | spare done command s hcontrol hadmitted hjump hanswer hspares =>
    exact h.of_subset (fun rest heq => absurd heq (take_control_ne _ _ _ rest))
      (List.Subset.refl _)
  | answer done command state hcontrol hadmitted hjump hanswer =>
    exact h.of_subset (fun rest heq => absurd heq (take_control_ne _ _ _ rest))
      (List.Subset.refl _)
  | noContext done command jump hcontrol hadmitted hjump hcontext =>
    exact h.of_subset (by simp) (List.Subset.refl _)
  | nestingRefused done command jump rules hcontrol hadmitted hjump hcontext hrefused =>
    exact h.of_subset (by simp) (List.Subset.refl _)
  | entry done command jump rules hcontrol hadmitted hjump hcontext hnesting =>
    -- the context that is entered is one of the registry
    have htarget : registry.context? (String.ofList (strip command.args)) =
        some ⟨String.ofList (strip command.args), rules, registry⟩ := by
      have hrules : registry.contexts.get? (String.ofList (strip command.args)) = some rules :=
        hcontext
      simp [Registry.context?, hrules]
    refine ⟨?_, ?_⟩
    · intro rest hrest
      cases hrest
      exact ⟨_, _, htarget, List.suffix_refl _⟩
    · intro rest hmem
      exact h.waiting rest (by simpa using hmem)
  | settled rest stack hcontrol hstack hsettled =>
    refine h.of_subset (by simp) ?_
    rw [hstack]
    exact List.subset_cons_self _ _
  | unsettled rest stack hcontrol hstack hsettled =>
    refine h.of_subset ?_ ?_
    · intro rest' hrest
      cases hrest
      exact h.waiting rest (by simp [hstack])
    · rw [hstack]
      exact List.subset_cons_self _ _
  | comeback jump depth stack hcontrol hstack =>
    refine h.of_subset (by simp) ?_
    rw [hstack]
    exact List.subset_cons_self _ _

/-- A command that calls a context enters it. -/
theorem step_of_jumps {scene : Scene} {config : Config} {done : Nat} {command : Command}
    {jump : Bool} (hcontrol : config.control = .command done command)
    (hadmitted : scene.limits.chain.admits done = true) (hjump : jumps? command = some jump) :
    step scene config = some (enter scene jump command.args config) := by
  have hperform : perform scene done command config = enter scene jump command.args config := by
    unfold jumps? at hjump
    split at hjump
    case h_1 haction =>
      cases hjump
      simp [perform, haction]
    case h_2 haction =>
      cases hjump
      simp [perform, haction]
    case h_3 => cases hjump
  simp [step, hcontrol, hadmitted, hperform]

/-- A step finds what a command calls in the registry and keeps the guards of the registry. -/
structure Resolves (registry : Registry) (config next : Config) : Prop where
  chain : ∀ done command, config.control = .command done command →
    registry.limits.chain.admits done = false →
    next.control = .failed (registry.limits.chainFault config.state.message.name)
  absent : ∀ done command jump, config.control = .command done command →
    registry.limits.chain.admits done = true → jumps? command = some jump →
    registry.context? (String.ofList (strip command.args)) = none →
    next = { config with control := .chainEnd }
  found : ∀ done command jump target, config.control = .command done command →
    registry.limits.chain.admits done = true → jumps? command = some jump →
    registry.context? (String.ofList (strip command.args)) = some target →
    target.registry = registry ∧
    (registry.limits.nesting.admits config.depth = true →
      next = { config with
        control := .rules target.rules
        stack := .call jump config.depth :: config.stack
        depth := config.depth + 1 }) ∧
    (registry.limits.nesting.admits config.depth = false →
      next.control = .failed (registry.limits.nestingFault config.state.message.name target.name))

theorem resolves_step (hstep : step (registry.scene source host) a = some b) :
    Resolves registry a b where
  chain := by
    intro done command hcontrol hrefused
    have hguard : (registry.scene source host).limits.chain.admits done = false := hrefused
    simp only [step, hcontrol, hguard, Bool.false_eq_true, if_false, Option.some.injEq] at hstep
    rw [← hstep]
    rfl
  absent := by
    intro done command jump hcontrol hadmitted hjump hcontext
    rw [step_of_jumps hcontrol hadmitted hjump, Option.some.injEq] at hstep
    rw [Registry.context?, Option.map_eq_none_iff] at hcontext
    rw [← hstep]
    simp [enter, Registry.scene, hcontext]
  found := by
    intro done command jump target hcontrol hadmitted hjump hcontext
    rw [step_of_jumps hcontrol hadmitted hjump, Option.some.injEq] at hstep
    rcases Registry.of_context? hcontext with ⟨hregistry, hname, hrules⟩
    refine ⟨hregistry, ?_, ?_⟩
    · intro hnesting
      rw [← hstep]
      simp [enter, Registry.scene, hrules, hnesting]
    · intro hrefused
      rw [← hstep, hname]
      simp [enter, Registry.scene, hrules, hrefused]

end Machine

/-! ## Publication -/

/-- A context that was found in a router does the same whatever is done to the router afterwards,
wherever it is kept and whenever it is found again. It was built under the guards that the settings
asked for then. Its evaluation runs rules of its own registry alone, finds every context there, and
is refused by the guards of this registry alone. -/
theorem published_context_keeps_conduct {router : Router} {name : String} {c : Context}
    (h : Reachable router) (hc : router.context? name = some c)
    (operations : List (Surroundings × Operation)) :
    (∀ c', (Operation.runAll operations router).Recalls c c' →
      c' = c ∧ router.Alike (Operation.runAll operations router) c c') ∧
    c.registry.IsBuilt ∧
    ∀ (source : Source) (host : Host) (depth : Int) (state : State), ∃ trail last,
      Run (c.registry.scene source host) (Config.start c.rules depth state) trail last ∧
      last.outcome? = some (c.evaluate source host depth state) ∧
      ∀ config ∈ trail, Machine.Resides c.registry config ∧
        ∃ next, Machine.step (c.registry.scene source host) config = some next ∧
          Machine.Resolves c.registry config next := by
  have hregistry : c.registry = router.registry := (Registry.of_context? hc).1
  refine ⟨?_, ?_, ?_⟩
  · intro c' hrecalls
    have hlater := Operation.runAll_later operations h.numbered
    have hsame := Router.recalls_eq h.numbered hlater hc hrecalls
    rw [hsame]
    exact ⟨rfl, router.alike_self _ c⟩
  · rw [hregistry]
    rcases h.isBuilt with hempty | hbuilt
    · rw [Router.context?, hempty] at hc
      cases hc
    · exact hbuilt
  · intro source host depth state
    rcases Machine.run_evaluate c source host depth state with ⟨trail, last, hrun, houtcome⟩
    have hstart : Machine.Resides c.registry (Config.start c.rules depth state) := by
      rw [hregistry]
      exact Machine.resides_start hc depth state
    have hresides := hrun.forall_mem (fun _ _ => Machine.resides_step) hstart
    have hresolves := hrun.forall_step (fun _ _ => Machine.resides_step)
      (fun _ _ _ => Machine.resolves_step) hstart
    exact ⟨trail, last, hrun, houtcome,
      fun config hmem => ⟨hresides.1 config hmem, hresolves config hmem⟩⟩

/-- The text of rules with a context that calls another one, which answers. -/
def oldRules : List Char :=
  ['[', 's', ']', '\n', 'r', 'e', 't', 'u', 'r', 'n', ' ', 'o', 'l', 'd', '\n', '[', 'm', ']', '\n',
    'c', 'a', 'l', 'l', ' ', 's', '\n']

/-- The same rules with another answer. -/
def newRules : List Char :=
  ['[', 's', ']', '\n', 'r', 'e', 't', 'u', 'r', 'n', ' ', 'n', 'e', 'w', '\n', '[', 'm', ']', '\n',
    'c', 'a', 'l', 'l', ' ', 's', '\n']

/-- A router with the old rules. -/
def Router.ofOldRules : Router :=
  Operation.run .empty (Router.start .standard) (.rules (.loadText oldRules "t"))

/-- Operations that put the new rules up, under a guard that allows one level, and then forbid even
this one. -/
def replacement : List (Surroundings × Operation) :=
  [(.empty, .configure { EngineSettings.standard with maxCallDepth := .int 1 }),
    (.empty, .rules .unload), (.empty, .rules (.loadText newRules "t")),
    (.empty, .configure { EngineSettings.standard with maxCallDepth := .int 0 })]

/-- The text that a context answers with for a message without fields. -/
def Router.answerOf (router : Router) (c : Context) : String :=
  (router.callContext .empty c (.fresh "m" [] Source.still.now)).1.message.result.plainString

theorem old_context_keeps_conduct :
    Reachable Router.ofOldRules ∧
    ∃ c c', Router.ofOldRules.context? "m" = some c ∧
      (Operation.runAll replacement Router.ofOldRules).context? "m" = some c' ∧
      (Operation.runAll replacement Router.ofOldRules).answerOf c' = "new" ∧
      (Operation.runAll replacement Router.ofOldRules).answerOf c = "old" ∧
      Router.ofOldRules.Alike (Operation.runAll replacement Router.ofOldRules) c c ∧
      c.registry.IsBuilt := by
  have hreachable : Reachable Router.ofOldRules := .after _ _ (.start _)
  have hold : (Router.ofOldRules.context? "m").map
      (Operation.runAll replacement Router.ofOldRules).answerOf = some "old" := by decide +kernel
  have hnew : ((Operation.runAll replacement Router.ofOldRules).context? "m").map
      (Operation.runAll replacement Router.ofOldRules).answerOf = some "new" := by decide +kernel
  rcases Option.map_eq_some_iff.1 hold with ⟨c, hc, hanswer⟩
  rcases Option.map_eq_some_iff.1 hnew with ⟨c', hc', hanswer'⟩
  rcases published_context_keeps_conduct hreachable hc replacement with ⟨hkept, hbuilt, -⟩
  exact ⟨hreachable, c, c', hc, hc', hanswer', hanswer, (hkept c (.inl rfl)).2, hbuilt⟩

end Switchboard
