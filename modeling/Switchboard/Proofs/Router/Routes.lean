import Mathlib.Algebra.Group.Int.Defs
import Switchboard.Proofs.Router.Bindings

/-!
# The contexts on the bus

The bindings that a router notes and the subscriptions on its bus are changed by separate calls. As
long as other code installs no contexts, removes none, and leaves the default priority an integer
that can be written (`Undisturbed`), they never come apart, whether loads succeed or fail
(`bindings_agree_with_bus`).

`Bound` is the invariant. Taking the bindings down leaves no context on the bus, since every message
name with a context has a binding (`routes_unload`); so a load starts from a bus without contexts,
and what it puts up is all there is.

An integer of too many digits cannot be written into the note about an installation. The load then
fails between the installation and the binding, and the two come apart (`long_priority_parts_them`).
-/

namespace Switchboard

open Bus (Counted)

/-! ## What loading leaves of a router -/

namespace Router

/-- Unloading changes the bus and what is loaded. -/
theorem unload_eq (router : Router) :
    ∃ bus trail, router.unload =
      { router with
        bus := bus
        bindings := []
        registry := Registry.empty
        sections := Sections.initial
        trail := trail } := by
  -- taking one binding down touches the bus and the trail alone, and so does taking down many
  have hfold : ∀ (ds : List Directive) (router : Router), ∃ bus trail,
      ds.foldl unbind router = { router with bus := bus, trail := trail } := by
    intro ds
    induction ds with
    | nil =>
      intro router
      exact ⟨router.bus, router.trail, rfl⟩
    | cons d rest ih =>
      intro router
      rcases ih (router.unbind d) with ⟨bus, trail, hrest⟩
      exact ⟨bus, trail, by rw [List.foldl_cons, hrest]; rfl⟩
  rcases hfold router.bindings router with ⟨bus, trail, hbindings⟩
  exact ⟨bus, trail, by rw [unload, hbindings]⟩

end Router

/-! ## The invariant -/

/-- The bindings are those of the install lines that are loaded, read with some default priority, as
far as their contexts exist. -/
def Router.BindsLines (router : Router) : Prop :=
  ∃ default directives,
    (Router.readDirectives default (router.sections.linesOf installSection)).2 = .ok directives ∧
    router.bindings = directives.filter router.hasContextOf

/-- The bindings of a router agree with its bus. -/
structure Bound (router : Router) : Prop where
  default : router.settings.defaultPriority.IsWritableInteger
  counted : Counted router.bus
  ordered : router.bus.Ordered
  routed : Matches router.registry router.bindings router.bus
  lines : router.BindsLines
  current : router.bindings ≠ [] → router.registry.serial = router.serial

namespace Bound

variable {router : Router}

theorem start {settings : EngineSettings} (h : settings.defaultPriority.IsWritableInteger) :
    Bound (Router.start settings) where
  default := h
  counted := Bus.counted_empty
  ordered := Bus.ordered_empty
  routed := by
    intro name
    exact .nil
  lines := ⟨.int 100, [], rfl, rfl⟩
  current := fun h => absurd rfl h

/-- Taking the bindings down leaves no context on the bus. -/
theorem routes_unload (h : Bound router) (name : String) : router.unload.bus.routes name = [] := by
  rw [Bus.routes, Router.handlers_unload]
  cases hbinds : router.binds name with
  | true => rfl
  | false =>
    -- a name without a binding has no context either
    have hnone : (router.bindings.filter fun d => d.messageName == name) = [] := by
      rw [List.filter_eq_nil_iff]
      simpa [Router.binds] using hbinds
    have hrouted := h.routed name
    rw [bindingsOf, hnone, List.insertionSort_nil, List.forall₂_nil_right_iff] at hrouted
    exact hrouted

theorem unload (h : Bound router) : Bound router.unload := by
  have hroutes := h.routes_unload
  have hcounted := router.unload_evolves.counted h.counted
  have hordered := router.unload_evolves.ordered h.counted h.ordered
  rcases router.unload_eq with ⟨bus, trail, hunload⟩
  rw [hunload] at hroutes hcounted hordered ⊢
  refine ⟨h.default, hcounted, hordered, ?_, ⟨.int 100, [], rfl, rfl⟩, fun h => absurd rfl h⟩
  intro name
  rw [hroutes name]
  exact .nil

/-- Prepared rules are put up on a bus without contexts. -/
theorem commit (h : Bound router) {plan : Router.Plan} (source : String)
    (hlines : (Router.readDirectives router.settings.defaultPriority
      (plan.sections.linesOf installSection)).2 = .ok plan.directives) :
    Bound (router.commit plan source).2 := by
  have hwritable := Router.isWritableInteger_of_readDirectives h.default hlines
  have hroutes := h.routes_unload
  have hdown := h.unload
  rcases router.unload_eq with ⟨bus, trail, hunload⟩
  rw [hunload] at hroutes hdown
  -- no context is on the bus, so it agrees with any registry that has no bindings yet
  have hempty : Matches plan.registry [] bus := by
    intro name
    rw [hroutes name]
    exact .nil
  rcases Router.bindAll_eq
    { router with
      bus := bus
      bindings := []
      registry := plan.registry
      sections := plan.sections
      serial := plan.registry.serial
      trail := trail } hwritable hdown.counted hdown.ordered hempty with
    ⟨bound, notes, hall, hcounted, hordered, hmatches⟩
  simp only [Router.commit, hunload, hall]
  exact ⟨h.default, hcounted, hordered, hmatches, ⟨_, _, hlines, rfl⟩, fun _ => rfl⟩

/-- Handlers that are no contexts can be installed. -/
theorem install (h : Bound router) (name : String) (handler? : Option Handler)
    (hkind : ∀ c, handler? ≠ some (.context c)) (priority : Value) :
    Bound (router.install name handler? priority).2 := by
  have hcounted := Bus.counted_apply (.install name handler? priority) h.counted
  have hordered := Bus.ordered_apply (.install name handler? priority) h.counted h.ordered
  rw [Router.install_snd]
  refine ⟨h.default, hcounted, hordered, ?_, h.lines, h.current⟩
  intro other
  rw [Bus.routes_install_of_not_context router.bus name other hkind priority]
  exact h.routed other

/-- Handlers that are no contexts can be removed. -/
theorem uninstall (h : Bound router) (name : String) (handler : Handler)
    (hkind : ∀ c, handler.isSame (.context c) = false) :
    Bound (router.uninstall name (some handler)).2 := by
  have hcounted := Bus.counted_apply (.uninstall name handler.isSame) h.counted
  have hordered := Bus.ordered_apply (.uninstall name handler.isSame) h.counted h.ordered
  refine ⟨h.default, hcounted, hordered, ?_, h.lines, h.current⟩
  intro other
  have hroutes := Bus.routes_uninstall_of_not_context router.bus name other hkind
  exact (congrArg (List.Forall₂ (Carries router.registry) · _) hroutes).mpr (h.routed other)

/-- Loading keeps the bindings and the bus in agreement, and so does a load that fails. Handlers that
are no contexts do not count. -/
theorem steady : Steady Bound where
  aside := fun _ _ _ _ h => ⟨h.default, h.counted, h.ordered, h.routed, h.lines, h.current⟩
  loadText := by
    intro router text source h
    rcases hprepare : router.prepare text with ⟨events, result⟩
    rcases router.absorbAll_eq events with ⟨queue, trail, hwarned⟩
    have haside : Bound (router.absorbAll events) := by
      rw [hwarned]
      exact ⟨h.default, h.counted, h.ordered, h.routed, h.lines, h.current⟩
    cases result with
    | error fault => simpa only [Router.loadText, hprepare] using haside
    | ok plan =>
      have hlines := (Router.of_prepare hprepare).2
      simp only [Router.loadText, hprepare]
      rw [hwarned] at haside ⊢
      exact haside.commit source hlines
  unload := fun _ h => h.unload
  install := by
    intro router name handler priority hkind h
    refine h.install name (some handler) ?_ priority
    rintro c ⟨⟩
    cases hkind
  uninstall := by
    intro router name handler hkind h
    refine h.uninstall name handler ?_
    intro c
    cases handler with
    | context other => cases hkind
    | commandHook => rfl
    | haltHook => rfl
    | listener l => rfl

end Bound

/-! ## Runs that other code does not disturb -/

/-- What other code may do: set default priorities of a kind, and install and remove handlers that
are no contexts. Everything else that it can do changes neither the rules nor the bus, or does so by
way of the router. -/
def Operation.Considerate (sets : Value → Prop) : Operation → Prop
  | .configure settings => sets settings.defaultPriority
  | .install _ handler? _ => ∀ c, handler? ≠ some (.context c)
  | .uninstall _ handler? => ∃ handler, handler? = some handler ∧ handler.isContext = false
  | _ => True

/-- The states that are reached by operations without other code coming between the rules and the
bus. -/
inductive Undisturbed (sets : Value → Prop) : Router → Prop
  | start (settings : EngineSettings) :
      sets settings.defaultPriority → Undisturbed sets (Router.start settings)
  | after {router : Router} (around : Surroundings) (operation : Operation) :
      operation.Considerate sets → Undisturbed sets router →
      Undisturbed sets (operation.run around router)

/-- Every operation that is not disturbing keeps the bindings and the bus in agreement. -/
theorem Bound.run {router : Router} (h : Bound router) (around : Surroundings)
    {operation : Operation} (hallowed : operation.Considerate Value.IsWritableInteger) :
    Bound (operation.run around router) := by
  refine steady.run around ?_ h
  intro hforeign
  cases operation with
  | configure settings =>
    exact ⟨hallowed, h.counted, h.ordered, h.routed, h.lines, h.current⟩
  | install name handler? priority => exact h.install name handler? hallowed priority
  | uninstall name handler? =>
    rcases hallowed with ⟨handler, rfl, hkind⟩
    exact steady.uninstall router name handler hkind h
  | _ => exact hforeign.elim

theorem Undisturbed.bound {router : Router} (h : Undisturbed Value.IsWritableInteger router) :
    Bound router := by
  induction h with
  | start settings hdefault => exact .start hdefault
  | after around operation hallowed _ ih => exact ih.run around hallowed

/-- In every undisturbed state the contexts on the bus are those of the bindings, one for each, with
its message name and priority and the context that the current registry has under its name. They
are in the order of priority and, within a priority, in the order of the install lines. -/
theorem bindings_agree_with_bus {router : Router}
    (h : Undisturbed Value.IsWritableInteger router) :
    router.BindsLines ∧
    (∀ name, List.Forall₂ (Carries router.registry) (router.bus.routes name)
      (bindingsOf router.bindings name)) ∧
    (∀ name level, List.Forall₂ (Carries router.registry)
      ((router.bus.routes name).filter fun s => s.priority = level)
      (router.bindings.filter fun d => d.level = level ∧ d.messageName = name)) ∧
    ∀ name, ∀ s ∈ router.bus.handlers name, ∀ c, s.handler = .context c →
      c.registry = router.registry ∧ c.registry.serial = router.serial := by
  have hbound := h.bound
  refine ⟨hbound.lines, hbound.routed, ?_, ?_⟩
  · intro name level
    -- partners have one priority, so taking those of a priority keeps the partners together
    have hkinds : ∀ s d, Carries router.registry s d →
        (decide (s.priority = level) = true ↔ decide (d.level = level) = true) := by
      intro s d hcarries
      rw [hcarries.level]
    have hlevel := List.rel_filter (fun s d hcarries => hkinds s d hcarries) (hbound.routed name)
    rw [bindingsOf, filter_insertionSort, List.filter_filter] at hlevel
    simpa [Bool.and_comm, beq_eq_decide] using hlevel
  · intro name s hs c hcontext
    -- a context that is subscribed has a binding, and bindings are of the current registry
    have hroute : s ∈ router.bus.routes name := by
      rw [Bus.routes, List.mem_filter]
      exact ⟨hs, by rw [hcontext]; rfl⟩
    rcases hbound.routed.exists_binding hroute with ⟨d, hd, hcarries⟩
    rcases hcarries.context with ⟨c', hc', hhandler⟩
    have hsame : c = c' := by
      rw [hcontext] at hhandler
      exact Handler.context.inj hhandler
    have hregistry : c.registry = router.registry := by
      rw [hsame]
      exact (Registry.of_context? hc').1
    refine ⟨hregistry, ?_⟩
    rw [hregistry]
    exact hbound.current (List.ne_nil_of_mem hd)

/-- The text of rules with two bindings of one priority and a third of the default priority, whose
contexts stand behind them. -/
def threeBindings : List Char :=
  ['[', 'i', 'n', 's', 't', 'a', 'l', 'l', ']', '\n', 'a', '=', '7', ',', 'y', '\n', 'a', '=', ',',
    'z', '\n', 'a', '=', '7', ',', 'x', '\n', 'a', '=', '7', ',', 'w', '\n', '[', 'x', ']', '\n',
    '[', 'y', ']', '\n', '[', 'z', ']', '\n']

/-- A router with these rules, which were loaded twice. -/
def Router.ofThreeBindings : Router :=
  Operation.run .empty
    (Operation.run .empty (Router.start .standard) (.rules (.loadText threeBindings "t")))
    (.rules (.loadText threeBindings "t"))

theorem three_bindings_are_routed :
    Undisturbed Value.IsWritableInteger Router.ofThreeBindings ∧
    ((Router.ofThreeBindings.bus.routes "a").map fun s => s.handler.label) =
      ["context:y", "context:x", "context:z"] ∧
    List.Forall₂ (Carries Router.ofThreeBindings.registry)
      (Router.ofThreeBindings.bus.routes "a") (bindingsOf Router.ofThreeBindings.bindings "a") := by
  have hundisturbed : Undisturbed Value.IsWritableInteger Router.ofThreeBindings :=
    .after _ _ trivial (.after _ _ trivial (.start _ ⟨100, rfl, by decide +kernel⟩))
  have hlabels : ((Router.ofThreeBindings.bus.routes "a").map fun s => s.handler.label) =
      ["context:y", "context:x", "context:z"] := by decide +kernel
  exact ⟨hundisturbed, hlabels, (bindings_agree_with_bus hundisturbed).2.1 "a"⟩

/-- The text of rules with one binding of the default priority. -/
def oneBinding : List Char :=
  ['[', 'i', 'n', 's', 't', 'a', 'l', 'l', ']', '\n', 'm', '=', '\n', '[', 'm', ']', '\n']

/-- A router whose default priority is the least integer that cannot be written, with these
rules. -/
def Router.ofLongPriority : Router :=
  Operation.run .empty
    (Router.start { EngineSettings.standard with defaultPriority := .int (10 ^ 4300) })
    (.rules (.loadText oneBinding "t"))

/-- With a default priority that cannot be written a context is on the bus without a binding. -/
theorem long_priority_parts_them :
    ¬ ∀ router, Undisturbed (fun default => ∃ n, default = .int n) router →
      ∀ name, List.Forall₂ (Carries router.registry) (router.bus.routes name)
        (bindingsOf router.bindings name) := by
  intro hagrees
  have hundisturbed : Undisturbed (fun default => ∃ n, default = .int n)
      Router.ofLongPriority := .after _ _ trivial (.start _ ⟨10 ^ 4300, rfl⟩)
  have hroute : (Router.ofLongPriority.bus.routes "m").length = 1 := by decide +kernel
  have hbindings : Router.ofLongPriority.bindings.length = 0 := by decide +kernel
  have hlength := (hagrees _ hundisturbed "m").length_eq
  rw [hroute, bindingsOf, List.length_insertionSort, List.eq_nil_of_length_eq_zero hbindings]
    at hlength
  simp at hlength

end Switchboard
