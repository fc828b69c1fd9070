import Switchboard.Proofs.Bus.Snapshot

/-!
# The hooks of a router

A router answers two messages itself: the command to reload its rules, and the one before the
program ends. Its hooks stand for these messages only (`Hooked`), whatever is loaded, unloaded or
delivered.

So a delivery changes the rules in two ways alone. One of the end may drop them. Any other one
leaves the rules of a reload, if the hook for the command was asked to reload, and those it began
with if not (`deliver_rules`).
-/

namespace Switchboard

open Bus (Call trace)

/-! ## Where the hooks are -/

/-- A router with given settings, whose hooks are on the bus for the messages that these name, if
they are on the bus at all. -/
structure Hooked (settings : EngineSettings) (router : Router) : Prop where
  settings_eq : router.settings = settings
  command : ∀ name, ∀ s ∈ router.bus.handlers name, s.handler = .commandHook →
    name = Router.messageName settings.commandMessage
  halt : ∀ name, ∀ s ∈ router.bus.handlers name, s.handler = .haltHook →
    name = Router.messageName settings.haltMessage

namespace Hooked

variable {settings : EngineSettings} {a b : Router}

theorem start (settings : EngineSettings) : Hooked settings (Router.start settings) where
  settings_eq := rfl
  command := by simp [Router.start, Bus.handlers, Bus.empty, Entries.get?]
  halt := by simp [Router.start, Bus.handlers, Bus.empty, Entries.get?]

/-- Handlers may go, and handlers may come that are no hooks, or hooks for their messages. -/
theorem of_handlers (h : Hooked settings a) (hsettings : b.settings = a.settings)
    (hhandlers : ∀ name, ∀ s ∈ b.bus.handlers name, s ∈ a.bus.handlers name ∨
      (s.handler = .commandHook → name = Router.messageName settings.commandMessage) ∧
      (s.handler = .haltHook → name = Router.messageName settings.haltMessage)) :
    Hooked settings b := by
  refine ⟨hsettings.trans h.settings_eq, ?_, ?_⟩
  · intro name s hs hhook
    rcases hhandlers name s hs with hold | ⟨hcommand, -⟩
    · exact h.command name s hold hhook
    · exact hcommand hhook
  · intro name s hs hhook
    rcases hhandlers name s hs with hold | ⟨-, hhalt⟩
    · exact h.halt name s hold hhook
    · exact hhalt hhook

theorem install (h : Hooked settings a) (name : String) (handler : Handler) (priority : Value)
    (hcommand : handler = .commandHook → name = Router.messageName settings.commandMessage)
    (hhalt : handler = .haltHook → name = Router.messageName settings.haltMessage) :
    Hooked settings (a.install name (some handler) priority).2 := by
  rw [Router.install_snd]
  refine h.of_handlers rfl ?_
  intro other s hs
  rcases Bus.mem_handlers_install hs with hold | ⟨rfl, hinstalled⟩
  · exact .inl hold
  · cases hinstalled
    exact .inr ⟨hcommand, hhalt⟩

theorem unload (h : Hooked settings a) : Hooked settings a.unload := by
  have hsettings : ∀ (ds : List Directive) (router : Router),
      (ds.foldl Router.unbind router).settings = router.settings := by
    intro ds
    induction ds with
    | nil => exact fun _ => rfl
    | cons d rest ih => exact fun router => ih (router.unbind d)
  refine h.of_handlers (hsettings a.bindings a) ?_
  intro name s hs
  rw [Router.handlers_unload] at hs
  cases hbinds : a.binds name with
  | true => simp [hbinds] at hs
  | false => exact .inl (by simpa [hbinds] using hs)

theorem aside (h : Hooked settings a) (queue : List Message) (draws : Draws)
    (trail : List Event) :
    Hooked settings
      { a with bus := { a.bus with queue := queue }, draws := draws, trail := trail } :=
  ⟨h.settings_eq, h.command, h.halt⟩

theorem absorb (h : Hooked settings a) (event : Event) : Hooked settings (a.absorb event) := by
  rcases a.absorb_eq event with ⟨queue, trail, hevent⟩
  rw [hevent]
  exact h.aside queue a.draws trail

theorem bind (h : Hooked settings a) (d : Directive) : Hooked settings (a.bind d).2 := by
  -- what a binding installs is a context and no hook
  have hinstalled : ∀ c, Hooked settings
      (a.install d.messageName (some (.context c)) d.priority).2 :=
    fun c => h.install d.messageName (.context c) d.priority (by simp) (by simp)
  rcases a.bind_cases d with ⟨-, hbind⟩ | ⟨c, -, ⟨fault, -, hbind⟩ | hbind⟩
  · rw [hbind]
    exact h
  · rw [hbind]
    exact hinstalled c
  · rw [hbind]
    have hbound := hinstalled c
    rw [Router.install_snd] at hbound
    have hnoted : Hooked settings { a with
        bus := (a.bus.install d.messageName (some (.context c)) d.priority).2
        bindings := a.bindings ++ [d] } := hbound.of_handlers rfl fun _ _ hs => .inl hs
    exact hnoted.absorb (Router.bindingNote "installed to context" d)

theorem loadText (h : Hooked settings a) (text : List Char) (source : String) :
    Hooked settings (a.loadText text source).2 := by
  rcases hprepare : a.prepare text with ⟨events, result⟩
  have hwarned : Hooked settings (a.absorbAll events) := by
    rcases a.absorbAll_eq events with ⟨queue, trail, hevents⟩
    rw [hevents]
    exact h.aside queue a.draws trail
  cases result with
  | error fault => simpa only [Router.loadText, hprepare] using hwarned
  | ok plan =>
    simp only [Router.loadText, hprepare]
    -- once the old rules are gone, only contexts come on the bus
    exact Router.commit_invariant (fun router d h => h.bind d)
      (fun router event h => h.absorb event)
      (hwarned.unload.of_handlers rfl fun _ _ hs => .inl hs) source

/-- Nothing that happens in a delivery brings a hook to another message. -/
theorem stable (settings : EngineSettings) : Stable (Hooked settings) where
  aside := fun _ queue draws trail h => h.aside queue draws trail
  loadText := fun _ text source h => h.loadText text source
  unload := fun _ h => h.unload

theorem startUp (h : Hooked settings a) (around : Surroundings) :
    Hooked settings (a.startUp around).2 := by
  rcases a.startUp_cases around with ⟨result, hooked, result', ready, hcommand, hhalt, hstart⟩
  have hhooked : Hooked settings hooked := by
    have hfirst := h.install (Router.messageName a.settings.commandMessage) .commandHook
      a.settings.commandPriority (by simp [h.settings_eq]) (by simp)
    rwa [hcommand] at hfirst
  have hready : Hooked settings ready := by
    have hsecond := hhooked.install (Router.messageName a.settings.haltMessage) .haltHook
      a.settings.commandPriority (by simp) (by simp [h.settings_eq])
    rwa [hhalt] at hsecond
  rcases hstart with ⟨fault, hstart⟩ | ⟨fault, hstart⟩ | ⟨-, -, hstart⟩
  · rw [hstart]
    exact hhooked
  · rw [hstart]
    exact hready
  · rw [hstart]
    exact (stable settings).startRules around hready

end Hooked

/-! ## What a delivery does to the rules -/

namespace Router

/-- Whether a call asks the hook for the command to reload the rules. A setting that cannot be
written keeps it from an answer, and then from the reload. -/
def asksReload (c : Call Handler Router) : Bool :=
  match c.subscription.handler with
  | .commandHook => c.before.isReloadCommand c.given && c.before.settings.rulesFile.isWritable
  | _ => false

/-- A command that is no reload is passed on. One that is ends the delivery, and the rules are
loaded again if there is an answer. -/
theorem onCommand_rules (router : Router) (around : Surroundings) (m : Message) :
    (router.isReloadCommand m = false ∧ router.onCommand around m = (⟨m, none, none⟩, router)) ∨
    (router.isReloadCommand m = true ∧ (router.onCommand around m).1.stops = true ∧
      (router.onCommand around m).2.rules =
        if router.settings.rulesFile.isWritable then (router.reload around).2.rules
        else router.rules) := by
  cases hcommand : router.isReloadCommand m with
  | false => exact .inl ⟨rfl, by simp [onCommand, hcommand]⟩
  | true =>
    refine .inr ⟨rfl, ?_⟩
    cases hwritable : router.settings.rulesFile.isWritable with
    | false =>
      simp [onCommand, hcommand, announceReload, hwritable, Bus.Response.stops]
    | true =>
      rcases hreload : router.reload around with ⟨result, loaded⟩
      cases result with
      | ok sections =>
        simp [onCommand, hcommand, announceReload, hwritable, hreload, Bus.Response.stops,
          Bus.Response.current]
      | error fault =>
        cases hreported : fault.isReported with
        | false =>
          simp [onCommand, hcommand, announceReload, hwritable, hreload, reloadFailed, hreported,
            Bus.Response.stops]
        | true =>
          simp [onCommand, hcommand, announceReload, hwritable, hreload, reloadFailed, hreported,
            Bus.Response.stops, Bus.Response.current, rules_absorbAll]

/-- A delivery that does not come to the hook for the end leaves the rules of a reload, if a call
asked for one, and those that it began with if not. -/
theorem deliver_rules (around : Surroundings) (subs : List (Subscription Handler))
    (hhalt : ∀ s ∈ subs, s.handler ≠ .haltHook) :
    ∀ received m router,
      (Bus.deliver (invoke around) subs received m router).2.rules =
        if (trace (invoke around) subs m router).any asksReload then (router.reload around).2.rules
        else router.rules := by
  induction subs with
  | nil =>
    intro received m router
    rfl
  | cons sub rest ih =>
    intro received m router
    have hrest := ih fun s hs => hhalt s (List.mem_cons_of_mem sub hs)
    -- a handler that does nothing to the rules leaves what the others do to them
    have hpassed : ∀ response after, invoke around sub.handler m router = (response, after) →
        after.rules = router.rules → (∀ c : Call Handler Router, c.subscription = sub →
          c.given = m → c.before = router → asksReload c = false) →
        (Bus.deliver (invoke around) (sub :: rest) received m router).2.rules =
          if (trace (invoke around) (sub :: rest) m router).any asksReload then
            (router.reload around).2.rules
          else router.rules := by
      intro response after hinvoke hafter hasks
      rw [Bus.deliver_cons, trace, hinvoke]
      cases hstops : response.stops with
      | true => simp [hasks, hafter, hstops]
      | false =>
        have hreload := rules_reload hafter around
        simp [hasks, hstops, hrest, hafter, hreload]
    cases hhandler : sub.handler with
    | context c =>
      refine hpassed _ _ rfl ?_ ?_
      · rw [hhandler]
        exact rules_absorbAll _ _
      · rintro c' rfl - -
        rw [asksReload, hhandler]
    | listener l =>
      refine hpassed _ _ rfl ?_ ?_
      · rw [hhandler]
        exact rules_absorbAll router [.handler l.label m.name]
      · rintro c' rfl - -
        rw [asksReload, hhandler]
    | haltHook => exact absurd hhandler (hhalt sub List.mem_cons_self)
    | commandHook =>
      rcases router.onCommand_rules around m with ⟨hnot, hsame⟩ | ⟨hcommand, hstops, hrules⟩
      · refine hpassed ⟨m, none, none⟩ router ?_ rfl ?_
        · rw [hhandler]
          exact hsame
        · rintro c' rfl hgiven hbefore
          rw [asksReload, hhandler, hgiven, hbefore, hnot]
          rfl
      · rw [Bus.deliver_cons, trace, hhandler]
        have hinvoke : invoke around .commandHook m router = router.onCommand around m := rfl
        simp [hinvoke, hstops, hrules, asksReload, hhandler, hcommand]

end Router
end Switchboard
