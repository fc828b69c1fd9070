import Switchboard.Proofs.Bus.World
import Switchboard.Proofs.Router.FailedLoads

/-!
# What is kept on the side

The queue, the draws and the trail of a router are kept on the side of its rules. All that it does
commutes with putting messages in front of the queue and events in front of the trail
(`invoke_beside`): it adds to them, but does not look at what is there. So a message that someone
else puts into the queue while a delivery runs makes no difference to it.

Loading and unloading do not look at the draws either. What they make of the rules depends on the
rules alone (`rules_reload`).
-/

namespace Switchboard

theorem Bus.queue_install {H : Type} (bus : Bus H) (name : String) (handler? : Option H)
    (priority : Value) : (bus.install name handler? priority).2.queue = bus.queue := by
  cases handler? with
  | none => rfl
  | some handler => cases hpriority : priority.toInteger <;> simp [install, hpriority]

namespace Router

/-- What else is on the side of a router: messages in front of its queue, events in front of its
trail, and other draws. -/
structure Side where
  queue : List Message
  trail : List Event
  draws : Draws → Draws

def beside (side : Side) (router : Router) : Router :=
  { router with
    bus := { router.bus with queue := side.queue ++ router.bus.queue }
    trail := side.trail ++ router.trail
    draws := side.draws router.draws }

variable (side : Side) (router : Router)

/-! ## Taking in events -/

theorem absorb_beside (event : Event) :
    (router.beside side).absorb event = (router.absorb event).beside side := by
  cases event <;> simp [absorb, beside, Bus.enqueue]

theorem absorbAll_beside (events : List Event) :
    (router.beside side).absorbAll events = (router.absorbAll events).beside side := by
  induction events generalizing router with
  | nil => rfl
  | cons event rest ih =>
    calc
      (router.beside side).absorbAll (event :: rest)
          = ((router.absorb event).beside side).absorbAll rest := by
            rw [← absorb_beside]
            rfl
      _ = (router.absorbAll (event :: rest)).beside side := ih (router.absorb event)

/-! ## Loading and unloading -/

theorem install_beside (name : String) (handler? : Option Handler) (priority : Value) :
    (router.beside side).install name handler? priority =
      ((router.install name handler? priority).1,
        (router.install name handler? priority).2.beside side) := by
  cases handler? with
  | none => rfl
  | some handler =>
    cases hpriority : priority.toInteger with
    | error fault => simp [install, Bus.install, hpriority, beside, Bus.handlers]
    | ok number =>
      cases hnote : Bus.noteFault? priority <;>
        simp [install, Bus.install, hpriority, hnote, beside, Bus.handlers]

theorem unbind_foldl_beside (ds : List Directive) :
    ds.foldl unbind (router.beside side) = (ds.foldl unbind router).beside side := by
  induction ds generalizing router with
  | nil => rfl
  | cons d rest ih =>
    have hfirst : (router.beside side).unbind d = (router.unbind d).beside side := by
      simp only [unbind]
      rw [← absorb_beside]
      rfl
    rw [List.foldl_cons, hfirst, ih, List.foldl_cons]

theorem unload_beside : (router.beside side).unload = router.unload.beside side := by
  have hbindings : (router.beside side).bindings = router.bindings := rfl
  rw [unload, hbindings, unbind_foldl_beside]
  rfl

theorem bind_beside (d : Directive) :
    (router.beside side).bind d =
      ((router.bind d).1.map (beside side), (router.bind d).2.beside side) := by
  have hcontext : (router.beside side).context? = router.context? := rfl
  simp only [bind, hcontext, install_beside]
  cases router.context? d.contextName with
  | none => rfl
  | some c =>
    dsimp only
    rcases router.install d.messageName (some (.context c)) d.priority with ⟨result, installed⟩
    cases result with
    | error fault => rfl
    | ok _ =>
      simp only [Except.map]
      rw [← absorb_beside]
      rfl

theorem bindAll_beside (ds : List Directive) :
    (router.beside side).bindAll ds =
      ((router.bindAll ds).1, (router.bindAll ds).2.beside side) := by
  induction ds generalizing router with
  | nil => rfl
  | cons d rest ih =>
    rw [bindAll, bind_beside, bindAll]
    rcases router.bind d with ⟨result, bound⟩
    cases result with
    | error fault => rfl
    | ok bound => exact ih bound

theorem commit_beside (plan : Plan) (source : String) :
    (router.beside side).commit plan source =
      ((router.commit plan source).1, (router.commit plan source).2.beside side) := by
  have hready : ∀ router : Router,
      { router.beside side with
        sections := plan.sections, registry := plan.registry, serial := plan.registry.serial } =
      { router with
        sections := plan.sections, registry := plan.registry,
        serial := plan.registry.serial }.beside side := fun _ => rfl
  simp only [commit, unload_beside, hready, bindAll_beside]
  rcases bindAll { router.unload with
      sections := plan.sections, registry := plan.registry, serial := plan.registry.serial }
    plan.directives with ⟨fault?, bound⟩
  cases fault? with
  | some fault => rfl
  | none => exact congrArg (Prod.mk _) (absorb_beside side bound _)

theorem loadText_beside (text : List Char) (source : String) :
    (router.beside side).loadText text source =
      ((router.loadText text source).1, (router.loadText text source).2.beside side) := by
  have hprepare : (router.beside side).prepare text = router.prepare text := rfl
  rw [loadText, hprepare, loadText]
  rcases router.prepare text with ⟨events, result⟩
  cases result with
  | error fault => exact congrArg (Prod.mk _) (absorbAll_beside side router events)
  | ok plan =>
    simp only [absorbAll_beside]
    exact commit_beside side (router.absorbAll events) plan source

theorem load_beside (around : Surroundings) (path? : Option String) :
    (router.beside side).load around path? =
      ((router.load around path?).1, (router.load around path?).2.beside side) := by
  have hpath : (router.beside side).rulesPath path? = router.rulesPath path? := rfl
  rw [load, hpath, load]
  cases router.rulesPath path? with
  | error fault => rfl
  | ok path =>
    dsimp only
    cases readRules around path with
    | error fault => rfl
    | ok text => exact loadText_beside side router text path.string

theorem reload_beside (around : Surroundings) :
    (router.beside side).reload around =
      ((router.reload around).1, (router.reload around).2.beside side) := by
  rw [reload_eq, reload_eq]
  exact load_beside side router around router.reloadPath?

/-! ## Rules -/

/-- The router with nothing on its side. Two routers agree in this if they have the same settings,
rules, bindings and handlers. -/
def rules (router : Router) : Router :=
  { router with bus := { router.bus with queue := [] }, draws := Draws.start, trail := [] }

@[simp] theorem rules_beside : (router.beside side).rules = router.rules :=
  rfl

theorem rules_absorbAll (events : List Event) : (router.absorbAll events).rules = router.rules := by
  rcases router.absorbAll_eq events with ⟨queue, trail, hevents⟩
  rw [hevents]
  rfl

theorem eq_beside : router =
    router.rules.beside ⟨router.bus.queue, router.trail, fun _ => router.draws⟩ := by
  simp [rules, beside]

/-- What a reload makes of the rules depends on the rules alone. -/
theorem rules_reload {a b : Router} (h : a.rules = b.rules) (around : Surroundings) :
    (a.reload around).2.rules = (b.reload around).2.rules := by
  -- a reload does the same with nothing on the side
  have hside : ∀ router : Router,
      (router.reload around).2.rules = (router.rules.reload around).2.rules := by
    intro router
    calc
      (router.reload around).2.rules
          = ((router.rules.beside ⟨router.bus.queue, router.trail, fun _ => router.draws⟩).reload
              around).2.rules := by rw [← eq_beside]
      _ = (router.rules.reload around).2.rules := by rw [reload_beside, rules_beside]
  rw [hside a, hside b, h]

/-! ## Loading puts nothing into the queue -/

theorem queue_install (name : String) (handler? : Option Handler)
    (priority : Value) :
    (router.install name handler? priority).2.bus.queue = router.bus.queue := by
  rw [install_snd]
  exact Bus.queue_install router.bus name handler? priority

theorem queue_bind (router : Router) (d : Directive) :
    (router.bind d).2.bus.queue = router.bus.queue := by
  rcases router.bind_cases d with ⟨-, hbind⟩ | ⟨c, -, ⟨fault, -, hbind⟩ | hbind⟩
  · rw [hbind]
  · rw [hbind]
    exact queue_install router d.messageName (some (.context c)) d.priority
  · rw [hbind]
    exact Bus.queue_install router.bus d.messageName (some (.context c)) d.priority

theorem queue_unload (router : Router) : router.unload.bus.queue = router.bus.queue := by
  have hfold : ∀ (ds : List Directive) (router : Router),
      (ds.foldl unbind router).bus.queue = router.bus.queue := by
    intro ds
    induction ds with
    | nil => exact fun _ => rfl
    | cons d rest ih => exact fun router => ih (router.unbind d)
  exact hfold router.bindings router

theorem queue_loadText (router : Router) (text : List Char) (source : String) :
    (router.loadText text source).2.bus.queue = router.bus.queue := by
  have hwarns := router.prepare_warns text
  rcases hprepare : router.prepare text with ⟨events, result⟩
  rw [hprepare] at hwarns
  -- to prepare the rules only warns, and warnings are no messages
  have hwarned := absorbAll_of_warnings hwarns router
  cases result with
  | error fault => simp [loadText, hprepare, hwarned]
  | ok plan =>
    have hready : { (router.absorbAll events).unload with
        sections := plan.sections, registry := plan.registry,
        serial := plan.registry.serial }.bus.queue = router.bus.queue := by
      rw [hwarned]
      exact queue_unload { router with trail := router.trail ++ events }
    have hbound := bindAll_invariant (P := fun r => r.bus.queue = router.bus.queue)
      (fun r d h => (queue_bind r d).trans h) plan.directives hready
    simp only [loadText, hprepare, commit]
    rcases hall : bindAll { (router.absorbAll events).unload with
        sections := plan.sections, registry := plan.registry, serial := plan.registry.serial }
      plan.directives with ⟨fault?, bound⟩
    rw [hall] at hbound
    cases fault? <;> exact hbound

theorem queue_load (router : Router) (around : Surroundings) (path? : Option String) :
    (router.load around path?).2.bus.queue = router.bus.queue := by
  rcases router.load_cases around path? with ⟨-, hload⟩ | ⟨text, source, -, hload⟩
  · rw [hload]
  · rw [hload]
    exact queue_loadText router text source

theorem queue_startRules (router : Router) (around : Surroundings) :
    (router.startRules around).2.bus.queue = router.bus.queue := by
  have hload := router.queue_load around none
  rcases heq : router.load around none with ⟨result, loaded⟩
  rw [heq] at hload
  cases result with
  | ok sections =>
    simp only [startRules, heq]
    exact hload
  | error fault =>
    simp only [startRules, heq]
    split
    · exact hload
    · exact hload

theorem queue_startUp (router : Router) (around : Surroundings) :
    (router.startUp around).2.bus.queue = router.bus.queue := by
  rcases router.startUp_cases around with ⟨result, hooked, result', ready, hcommand, hhalt, hstart⟩
  have hhooked : hooked.bus.queue = router.bus.queue := by
    have hfirst := router.queue_install (messageName router.settings.commandMessage)
      (some .commandHook) router.settings.commandPriority
    rwa [hcommand] at hfirst
  have hready : ready.bus.queue = router.bus.queue := by
    have hsecond := hooked.queue_install (messageName router.settings.haltMessage)
      (some .haltHook) router.settings.commandPriority
    rw [hhalt] at hsecond
    exact hsecond.trans hhooked
  rcases hstart with ⟨fault, hstart⟩ | ⟨fault, hstart⟩ | ⟨-, -, hstart⟩
  · rw [hstart]
    exact hhooked
  · rw [hstart]
    exact hready
  · rw [hstart]
    exact (ready.queue_startRules around).trans hready

/-! ## Handlers -/

theorem reloadFailed_beside (m : Message) (fault : Fault) :
    (router.beside side).reloadFailed m fault =
      ((router.reloadFailed m fault).1, (router.reloadFailed m fault).2.beside side) := by
  cases hreported : fault.isReported with
  | true => simp [reloadFailed, hreported, absorbAll_beside]
  | false => simp [reloadFailed, hreported]

theorem onCommand_beside (around : Surroundings) (m : Message) :
    (router.beside side).onCommand around m =
      ((router.onCommand around m).1, (router.onCommand around m).2.beside side) := by
  have hcommand : (router.beside side).isReloadCommand m = router.isReloadCommand m := rfl
  have hanswer : (router.beside side).announceReload = router.announceReload := rfl
  rw [onCommand, hcommand, hanswer, onCommand]
  cases router.isReloadCommand m with
  | false => rfl
  | true =>
    cases hannounced : router.announceReload { m with handled := true } with
    | error fault => simp [hannounced]
    | ok answered =>
      simp only [if_true, hannounced, reload_beside]
      rcases router.reload around with ⟨result, loaded⟩
      cases result with
      | ok sections => rfl
      | error fault => exact reloadFailed_beside side loaded answered fault

/-- What waits in the queue, and what happened before. -/
def before (queue : List Message) (trail : List Event) : Side :=
  ⟨queue, trail, id⟩

variable (queue : List Message) (trail : List Event)

theorem takeOutcome_beside (outcome : Outcome) :
    (router.beside (before queue trail)).takeOutcome outcome =
      ((router.takeOutcome outcome).1,
        (router.takeOutcome outcome).2.beside (before queue trail)) :=
  congrArg (Prod.mk _) (absorbAll_beside (before queue trail)
    { router with draws := outcome.state.draws } outcome.events)

theorem invoke_beside (around : Surroundings) (handler : Handler) (m : Message) :
    invoke around handler m (router.beside (before queue trail)) =
      ((invoke around handler m router).1,
        (invoke around handler m router).2.beside (before queue trail)) := by
  cases handler with
  -- contexts draw, so that the side has no draws of its own
  | context c => exact takeOutcome_beside router queue trail _
  | commandHook => exact onCommand_beside _ router around m
  | haltHook => exact congrArg (Prod.mk _) (unload_beside _ router)
  | listener l => exact congrArg (Prod.mk _) (absorb_beside _ router _)

theorem onlyAdds_invoke (around : Surroundings) : world.OnlyAdds (invoke around) := by
  intro handler m router
  -- what waits is put in front of an empty queue
  let unqueued : Router := { router with bus := { router.bus with queue := [] } }
  have hframe : router = unqueued.beside (before router.bus.queue []) := by
    simp [unqueued, beside, before]
  refine ⟨world.queue (invoke around handler m unqueued).2, ?_⟩
  calc
    world.queue (invoke around handler m router).2
        = world.queue (invoke around handler m
            (unqueued.beside (before router.bus.queue []))).2 := by rw [← hframe]
    _ = world.queue router ++ world.queue (invoke around handler m unqueued).2 := by
          rw [invoke_beside]
          rfl

end Router
end Switchboard
