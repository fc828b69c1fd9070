import Switchboard.Proofs.Router.Operations

/-!
# What operations preserve

Deliveries, the queue and the worker do nothing to a router of their own: they run handlers, and a
handler loads or unloads rules, or changes what the router keeps on the side. So a property of
routers is preserved by all of them (`Stable.dispatch`, `Stable.process`, `Stable.work`) if it is
preserved by loading a text and by unloading, and does not depend on the queue, the draws and the
trail (`Stable`).

If the hooks may come and go too (`Steady`), it is preserved by all that the router does, and what
is left to show are the settings and the bus in the hands of other code (`Steady.run`). So every
operation acts on the bus by the four changes of a bus alone (`Operation.evolves`), and what these
preserve holds in every reachable state (`Reachable.invariant`).
-/

namespace Switchboard

open Bus (Evolves Change)

/-- What every handler preserves, a delivery preserves. -/
theorem Bus.deliver_invariant {H S : Type} {P : S → Prop} {invoke : Bus.Invoke H S}
    (preserved : ∀ handler m s, P s → P (invoke handler m s).2) (subs : List (Subscription H)) :
    ∀ received m s, P s → P (Bus.deliver invoke subs received m s).2 := by
  induction subs with
  | nil =>
    intro received m s hs
    exact hs
  | cons sub rest ih =>
    intro received m s hs
    have hafter := preserved sub.handler m s hs
    -- a fault ends the delivery, and so does handling, whether there is a reply or not
    simp only [Bus.deliver]
    split
    · exact hafter
    · split
      · split
        · exact hafter
        · exact ih _ _ _ hafter
      · split
        · exact hafter
        · exact ih _ _ _ hafter

/-- A property of routers that loading and unloading preserve and that does not depend on what is
kept on the side. -/
structure Stable (P : Router → Prop) : Prop where
  aside : ∀ router queue draws trail, P router →
    P { router with bus := { router.bus with queue := queue }, draws := draws, trail := trail }
  loadText : ∀ router text source, P router → P (router.loadText text source).2
  unload : ∀ router, P router → P router.unload

namespace Stable

variable {P : Router → Prop} (stable : Stable P)

include stable

/-! ## Loading -/

theorem absorb {router : Router} (event : Event) (h : P router) : P (router.absorb event) := by
  rcases router.absorb_eq event with ⟨queue, trail, hevent⟩
  rw [hevent]
  exact stable.aside router queue router.draws trail h

theorem absorbAll {router : Router} (events : List Event) (h : P router) :
    P (router.absorbAll events) := by
  rcases router.absorbAll_eq events with ⟨queue, trail, hevents⟩
  rw [hevents]
  exact stable.aside router queue router.draws trail h

theorem load {router : Router} (around : Surroundings) (path? : Option String) (h : P router) :
    P (router.load around path?).2 := by
  rcases router.load_cases around path? with ⟨-, hload⟩ | ⟨text, source, -, hload⟩
  · rw [hload]
    exact h
  · rw [hload]
    exact stable.loadText router text source h

theorem reload {router : Router} (around : Surroundings) (h : P router) :
    P (router.reload around).2 := by
  rw [router.reload_eq]
  exact stable.load around router.reloadPath? h

theorem command {router : Router} (around : Surroundings) (m : Message) (h : P router) :
    P (router.onCommand around m).2 := by
  rcases router.onCommand_cases around m with hsame | ⟨events, hevents⟩
  · rw [hsame]
    exact h
  · rw [hevents]
    exact stable.absorbAll events (stable.reload around h)

theorem rulesChange {router : Router} (around : Surroundings) (change : RulesChange)
    (h : P router) : P (change.run around router) := by
  cases change with
  | loadText text source => exact stable.loadText router text source h
  | load path? => exact stable.load around path? h
  | reload => exact stable.reload around h
  | unload => exact stable.unload router h
  | halt m => exact stable.unload router h

theorem startRules {router : Router} (around : Surroundings) (h : P router) :
    P (router.startRules around).2 := by
  have hload := stable.load around none h
  rcases heq : router.load around none with ⟨result, loaded⟩
  rw [heq] at hload
  cases result with
  | ok sections =>
    simp only [Router.startRules, heq]
    exact stable.absorb _ hload
  | error fault =>
    simp only [Router.startRules, heq]
    split
    · exact stable.absorbAll _ hload
    · exact hload

/-! ## Deliveries -/

theorem takeOutcome {router : Router} (outcome : Outcome) (h : P router) :
    P (router.takeOutcome outcome).2 := by
  have hdraws : P { router with draws := outcome.state.draws } :=
    stable.aside router router.bus.queue outcome.state.draws router.trail h
  exact stable.absorbAll outcome.events hdraws

theorem invoke (around : Surroundings) (handler : Handler) (m : Message) (router : Router)
    (h : P router) : P (Router.invoke around handler m router).2 := by
  cases handler with
  | context c => exact stable.takeOutcome _ h
  | commandHook => exact stable.command around m h
  | haltHook => exact stable.unload router h
  | listener l => exact stable.absorb (.handler l.label m.name) h

theorem dispatch {router : Router} (around : Surroundings) (m : Message) (h : P router) :
    P (router.dispatch around m).2 :=
  Bus.deliver_invariant (stable.invoke around) _ _ _ _ h

theorem processOne {router after : Router} {around : Surroundings} {delivery : Bus.Delivery}
    (hone : router.processOne around = some (delivery, after)) (h : P router) : P after := by
  cases hqueue : router.bus.queue with
  | nil => simp [Router.processOne, hqueue] at hone
  | cons m rest =>
    have htaken := stable.aside router rest router.draws router.trail h
    have hdispatch := stable.dispatch around m htaken
    simp only [Router.processOne, hqueue, Option.some.injEq, Prod.mk.injEq] at hone
    rw [← hone.2]
    exact stable.absorbAll _ hdispatch

theorem process (around : Surroundings) (limit : Nat) {router : Router} (h : P router) :
    P (router.processPending around limit).2 := by
  induction limit generalizing router with
  | zero => exact h
  | succ limit ih =>
    cases hone : router.processOne around with
    | none => simpa only [Router.processPending, hone] using h
    | some taken =>
      rcases taken with ⟨delivery, after⟩
      simp only [Router.processPending, hone]
      exact ih (stable.processOne hone h)

theorem deliverNow {router : Router} (around : Surroundings) (m : Message) (h : P router) :
    P (router.deliverNow around m).2 := by
  have hqueued : P { router with bus := router.bus.enqueue m } :=
    stable.aside router (router.bus.queue ++ [m]) router.draws router.trail h
  cases hone : { router with bus := router.bus.enqueue m }.processOne around with
  | none => simpa only [Router.deliverNow, hone] using hqueued
  | some taken =>
    rcases taken with ⟨delivery, after⟩
    simp only [Router.deliverNow, hone]
    exact stable.process around _ (stable.processOne hone hqueued)

theorem deliverEach (around : Surroundings) (messages : List Message) {router : Router}
    (h : P router) : P (router.deliverEach around messages).2 := by
  induction messages generalizing router with
  | nil => exact h
  | cons m rest ih => exact ih (stable.deliverNow around m h)

theorem work {router : Router} (around : Surroundings) (messages : List Message) (h : P router) :
    P (router.runWorker around messages).2 := by
  have hwaiting := stable.process around Router.unlimited h
  have hstarted := stable.absorb (Router.workerNote "started") hwaiting
  exact stable.absorb (Router.workerNote "stopped") (stable.deliverEach around messages hstarted)

end Stable

/-! ## Operations -/

/-- Whether a handler is a context. -/
def Handler.isContext : Handler → Bool
  | .context _ => true
  | _ => false

/-- A stable property that does not depend on the handlers that are no contexts. -/
structure Steady (P : Router → Prop) : Prop extends Stable P where
  install : ∀ router name handler priority, Handler.isContext handler = false → P router →
    P (router.install name (some handler) priority).2
  uninstall : ∀ router name handler, Handler.isContext handler = false → P router →
    P (router.uninstall name (some handler)).2

/-- The operations that leave the settings or the bus to other code. -/
def Operation.IsForeign : Operation → Prop
  | .configure _ => True
  | .install _ _ _ => True
  | .uninstall _ _ => True
  | _ => False

namespace Steady

variable {P : Router → Prop} (steady : Steady P)

include steady

/-- A start installs the hooks and loads the rules, or fails with what it has installed. -/
theorem startUp {router : Router} (around : Surroundings) (h : P router) :
    P (router.startUp around).2 := by
  rcases router.startUp_cases around with
    ⟨result, hooked, result', ready, hcommand, hhalt, hstart⟩
  have hhooked : P hooked := by
    have hfirst := steady.install router (Router.messageName router.settings.commandMessage)
      .commandHook router.settings.commandPriority rfl h
    rwa [hcommand] at hfirst
  have hready : P ready := by
    have hsecond := steady.install hooked (Router.messageName router.settings.haltMessage)
      .haltHook router.settings.commandPriority rfl hhooked
    rwa [hhalt] at hsecond
  rcases hstart with ⟨fault, hstart⟩ | ⟨fault, hstart⟩ | ⟨-, -, hstart⟩
  · rw [hstart]
    exact hhooked
  · rw [hstart]
    exact hready
  · rw [hstart]
    exact steady.startRules around hready

theorem shutDown {router : Router} (h : P router) : P router.shutDown := by
  have hcommand := steady.uninstall router.unload
    (Router.messageName router.unload.settings.commandMessage) .commandHook rfl
    (steady.unload router h)
  exact steady.uninstall _ _ .haltHook rfl hcommand

/-- An operation preserves the property, unless it leaves the router to other code. -/
theorem run {router : Router} (around : Surroundings) {operation : Operation}
    (foreign : operation.IsForeign → P (operation.run around router)) (h : P router) :
    P (operation.run around router) := by
  cases operation with
  | rules change => exact steady.rulesChange around change h
  | command m => exact steady.command around m h
  | startUp => exact steady.startUp around h
  | shutDown => exact steady.shutDown h
  | configure settings => exact foreign trivial
  | install name handler? priority => exact foreign trivial
  | uninstall name handler? => exact foreign trivial
  | absorb event => exact steady.absorb event h
  | dispatch m => exact steady.dispatch around m h
  | process limit => exact steady.process around limit h
  | work messages => exact steady.work around messages h
  | call context m => exact steady.takeOutcome _ h
  | evaluate context depth m => exact steady.takeOutcome _ h
  | takeTrail => exact steady.aside router router.bus.queue router.draws [] h

end Steady

/-! ## The bus of a router -/

theorem steady_evolves (bus : Bus Handler) :
    Steady fun router => Evolves (fun _ => True) bus router.bus where
  aside := fun router queue _ _ h => h.trans (Evolves.requeue router.bus queue)
  loadText := fun router text source h => h.trans (router.loadText_evolves text source)
  unload := fun router h => h.trans router.unload_evolves
  install := fun router name handler priority _ h =>
    h.trans (router.install_evolves name (some handler) priority).any
  uninstall := fun router name handler _ h =>
    h.trans (router.uninstall_evolves name (some handler))

/-- An operation changes the bus by changes of a bus. -/
theorem Operation.evolves (around : Surroundings) (router : Router) (operation : Operation) :
    Evolves (fun _ => True) router.bus (operation.run around router).bus := by
  refine (steady_evolves router.bus).run around ?_ (Evolves.refl _)
  intro hforeign
  cases operation with
  | configure settings => exact Evolves.refl _
  | install name handler? priority => exact (router.install_evolves name handler? priority).any
  | uninstall name handler? => exact router.uninstall_evolves name handler?
  | _ => exact hforeign.elim

/-- What the changes of a bus preserve holds of the bus in every reachable state. -/
theorem Reachable.invariant {P : Bus Handler → Prop} (hempty : P Bus.empty)
    (preserved : ∀ change bus, P bus → P (Change.apply change bus)) {router : Router}
    (h : Reachable router) : P router.bus := by
  induction h with
  | start settings => exact hempty
  | after around operation _ ih =>
    exact (operation.evolves around _).invariant (fun change bus _ => preserved change bus) ih

theorem Reachable.counted {router : Router} (h : Reachable router) : Bus.Counted router.bus :=
  h.invariant Bus.counted_empty (fun change _ => Bus.counted_apply change)

end Switchboard
