import Switchboard.Proofs.Bus.Changes
import Switchboard.Router.Delivery

/-!
# Operations of a router

Everything that can be done to a router and its bus from outside, as data (`Operation`), and the
states that are reached by it (`Reachable`). Operations on the rules are kept apart as
`RulesChange`.

Each step of an operation is told by its cases (`bind_cases`, `load_cases`, `onCommand_cases`,
`startUp_cases`), and what the steps do to the bus they do by the four changes of a bus.
-/

namespace Switchboard

open Bus (Evolves Change)

/-! ## Operations -/

/-- Loading and unloading rules. -/
inductive RulesChange
  | loadText (text : List Char) (source : String)
  | load (path? : Option String)
  | reload
  | unload
  | halt (m : Message)

/-- The router after rules were loaded or unloaded, also where that failed. -/
def RulesChange.run (around : Surroundings) (router : Router) : RulesChange → Router
  | .loadText text source => (router.loadText text source).2
  | .load path? => (router.load around path?).2
  | .reload => (router.reload around).2
  | .unload => router.unload
  | .halt m => (router.onHalt m).2

/-- What can be done to a router. Other code may change the settings, use the bus, call contexts
that it has kept, and take what the trail holds. -/
inductive Operation
  | rules (change : RulesChange)
  | command (m : Message)
  | startUp
  | shutDown
  | configure (settings : EngineSettings)
  | install (name : String) (handler? : Option Handler) (priority : Value)
  | uninstall (name : String) (handler? : Option Handler)
  | absorb (event : Event)
  | dispatch (m : Message)
  | process (limit : Nat)
  | work (messages : List Message)
  | call (context : Context) (m : Message)
  | evaluate (context : Context) (depth : Int) (m : Message)
  | takeTrail

/-- The router after an operation, also where that failed. -/
def Operation.run (around : Surroundings) (router : Router) : Operation → Router
  | .rules change => change.run around router
  | .command m => (router.onCommand around m).2
  | .startUp => (router.startUp around).2
  | .shutDown => router.shutDown
  | .configure settings => { router with settings := settings }
  | .install name handler? priority => (router.install name handler? priority).2
  | .uninstall name handler? => (router.uninstall name handler?).2
  | .absorb event => router.absorb event
  | .dispatch m => (router.dispatch around m).2
  | .process limit => (router.processPending around limit).2
  | .work messages => (router.runWorker around messages).2
  | .call context m => (router.callContext around context m).2
  | .evaluate context depth m => (router.evaluateContext around context depth m).2
  | .takeTrail => { router with trail := [] }

/-- The states of a router that operations lead to. The surroundings may be others every time. -/
inductive Reachable : Router → Prop
  | start (settings : EngineSettings) : Reachable (Router.start settings)
  | after {router : Router} (around : Surroundings) (operation : Operation) :
      Reachable router → Reachable (operation.run around router)

namespace Router

/-! ## Taking in events -/

/-- An event changes the queue and the trail at the most. -/
theorem absorb_eq (router : Router) (event : Event) :
    ∃ queue trail, router.absorb event =
      { router with bus := { router.bus with queue := queue }, trail := trail } := by
  cases event with
  | enqueue m => exact ⟨router.bus.queue ++ [m], router.trail, rfl⟩
  | log severity origin text => exact ⟨router.bus.queue, _, rfl⟩
  | raw text => exact ⟨router.bus.queue, _, rfl⟩
  | error args => exact ⟨router.bus.queue, _, rfl⟩
  | info args => exact ⟨router.bus.queue, _, rfl⟩
  | handler label name => exact ⟨router.bus.queue, _, rfl⟩

theorem absorbAll_eq (router : Router) (events : List Event) :
    ∃ queue trail, router.absorbAll events =
      { router with bus := { router.bus with queue := queue }, trail := trail } := by
  induction events generalizing router with
  | nil => exact ⟨router.bus.queue, router.trail, rfl⟩
  | cons event rest ih =>
    rcases absorb_eq router event with ⟨queue, trail, hfirst⟩
    rcases ih (router.absorb event) with ⟨queue', trail', hrest⟩
    refine ⟨queue', trail', ?_⟩
    have hcons : router.absorbAll (event :: rest) = (router.absorb event).absorbAll rest := rfl
    rw [hcons, hrest, hfirst]

theorem absorb_evolves (router : Router) (event : Event) :
    Evolves Change.Submits router.bus (router.absorb event).bus := by
  cases event with
  | enqueue m => exact Evolves.single (.enqueue m) trivial
  | log severity origin text => exact Evolves.refl _
  | raw text => exact Evolves.refl _
  | error args => exact Evolves.refl _
  | info args => exact Evolves.refl _
  | handler label name => exact Evolves.refl _

theorem absorbAll_evolves (router : Router) (events : List Event) :
    Evolves Change.Submits router.bus (router.absorbAll events).bus := by
  induction events generalizing router with
  | nil => exact Evolves.refl _
  | cons event rest ih => exact (absorb_evolves router event).trans (ih (router.absorb event))

/-! ## Installing and removing handlers -/

theorem install_snd (router : Router) (name : String) (handler? : Option Handler)
    (priority : Value) :
    (router.install name handler? priority).2 =
      { router with bus := (router.bus.install name handler? priority).2 } := by
  rcases hinstall : router.bus.install name handler? priority with ⟨fault?, bus⟩
  cases fault? with
  | none => simp [install, hinstall]
  | some fault => simp [install, hinstall]

theorem install_evolves (router : Router) (name : String) (handler? : Option Handler)
    (priority : Value) :
    Evolves Change.Adds router.bus (router.install name handler? priority).2.bus := by
  rw [install_snd]
  exact Evolves.single (.install name handler? priority) trivial

theorem uninstall_evolves (router : Router) (name : String) (handler? : Option Handler) :
    Evolves (fun _ => True) router.bus (router.uninstall name handler?).2.bus := by
  cases handler? with
  | none => exact Evolves.single (.uninstall name fun _ => true) trivial
  | some handler => exact Evolves.single (.uninstall name handler.isSame) trivial

/-! ## Unloading -/

theorem unbind_evolves (router : Router) (d : Directive) :
    Evolves (fun _ => True) router.bus (router.unbind d).bus :=
  Evolves.single (.uninstall d.messageName fun _ => true) trivial

theorem unload_evolves (router : Router) :
    Evolves (fun _ => True) router.bus router.unload.bus := by
  have hfold : ∀ (bindings : List Directive) (router : Router),
      Evolves (fun _ => True) router.bus (bindings.foldl unbind router).bus := by
    intro bindings
    induction bindings with
    | nil =>
      intro router
      exact Evolves.refl _
    | cons d rest ih =>
      intro router
      exact (unbind_evolves router d).trans (ih (router.unbind d))
  exact hfold router.bindings router

/-! ## Loading -/

/-- The router with a context on the bus for a binding, which is noted. -/
def withBinding (router : Router) (d : Directive) (c : Context) : Router :=
  { router with
    bus := (router.bus.install d.messageName (some (.context c)) d.priority).2
    bindings := router.bindings ++ [d] }.absorb (bindingNote "installed to context" d)

/-- A binding whose context does not exist is skipped. For any other one the context goes on the
bus, and the binding is noted unless the bus has a fault. -/
theorem bind_cases (router : Router) (d : Directive) :
    (router.context? d.contextName = none ∧ router.bind d = (.ok router, router)) ∨
    ∃ c, router.context? d.contextName = some c ∧
      ((∃ fault,
          (router.bus.install d.messageName (some (Handler.context c)) d.priority).1 = some fault ∧
          router.bind d = (.error fault,
            (router.install d.messageName (some (.context c)) d.priority).2)) ∨
        router.bind d = (.ok (router.withBinding d c), router.withBinding d c)) := by
  cases hcontext : router.context? d.contextName with
  | none => exact .inl ⟨rfl, by simp [bind, hcontext]⟩
  | some c =>
    refine .inr ⟨c, rfl, ?_⟩
    rcases hinstall : router.bus.install d.messageName (some (Handler.context c)) d.priority with
      ⟨fault?, bus⟩
    cases fault? with
    | some fault => exact .inl ⟨fault, rfl, by simp [bind, hcontext, install, hinstall]⟩
    | none => exact .inr (by simp [bind, hcontext, install, hinstall, withBinding])

theorem bind_evolves (router : Router) (d : Directive) :
    Evolves Change.Adds router.bus (router.bind d).2.bus := by
  rcases router.bind_cases d with ⟨-, hbind⟩ | ⟨c, -, ⟨fault, -, hbind⟩ | hbind⟩
  · rw [hbind]
    exact Evolves.refl _
  · rw [hbind]
    exact install_evolves router d.messageName (some (.context c)) d.priority
  · rw [hbind]
    exact Evolves.single (.install d.messageName (some (Handler.context c)) d.priority) trivial

/-- What every binding preserves, bindings preserve, also up to one that is refused. -/
theorem bindAll_invariant {P : Router → Prop}
    (preserved : ∀ router d, P router → P (router.bind d).2) (ds : List Directive)
    {router : Router} (h : P router) : P (router.bindAll ds).2 := by
  induction ds generalizing router with
  | nil => exact h
  | cons d rest ih =>
    have hbound := preserved router d h
    -- a binding that is put up gives the same router twice, and the rest goes on with it
    rcases router.bind_cases d with ⟨-, hbind⟩ | ⟨c, -, ⟨fault, -, hbind⟩ | hbind⟩
    · simpa only [bindAll, hbind] using ih h
    · rw [hbind] at hbound
      simpa only [bindAll, hbind] using hbound
    · rw [hbind] at hbound
      simpa only [bindAll, hbind] using ih hbound

/-- What bindings and records preserve, putting up prepared rules preserves. -/
theorem commit_invariant {P : Router → Prop}
    (preserved : ∀ router d, P router → P (router.bind d).2)
    (recorded : ∀ router event, P router → P (router.absorb event)) {router : Router} {plan : Plan}
    (h : P { router.unload with
      sections := plan.sections, registry := plan.registry, serial := plan.registry.serial })
    (source : String) : P (router.commit plan source).2 := by
  have hall := bindAll_invariant preserved plan.directives h
  rcases heq : bindAll { router.unload with
      sections := plan.sections, registry := plan.registry, serial := plan.registry.serial }
    plan.directives with ⟨fault?, bound⟩
  rw [heq] at hall
  cases fault? with
  | some fault => simpa only [commit, heq] using hall
  | none => simpa only [commit, heq] using recorded bound _ hall

/-- Prepared rules take the place of the loaded ones by additions alone, once these are unloaded. -/
theorem commit_evolves_of_unload (router : Router) (plan : Plan) (source : String) :
    Evolves Change.Adds router.unload.bus (router.commit plan source).2.bus := by
  refine commit_invariant
    (P := fun after : Router => Evolves Change.Adds router.unload.bus after.bus)
    ?_ ?_ (Evolves.refl _) source
  · intro after d hafter
    exact hafter.trans (bind_evolves after d)
  · intro after event hafter
    exact hafter.trans ((absorb_evolves after event).mono fun _ hsubmits => hsubmits.adds)

theorem commit_evolves (router : Router) (plan : Plan) (source : String) :
    Evolves (fun _ => True) router.bus (router.commit plan source).2.bus :=
  (unload_evolves router).trans (commit_evolves_of_unload router plan source).any

theorem loadText_evolves (router : Router) (text : List Char) (source : String) :
    Evolves (fun _ => True) router.bus (router.loadText text source).2.bus := by
  rcases hprepare : router.prepare text with ⟨events, result⟩
  have habsorb := (absorbAll_evolves router events).any
  cases result with
  | error fault => simpa [loadText, hprepare] using habsorb
  | ok plan =>
    simpa [loadText, hprepare] using habsorb.trans (commit_evolves _ plan source)

/-- The text of a rules file that can be read. -/
def rulesText? (router : Router) (around : Surroundings) (path? : Option String) :
    Option (List Char) :=
  match router.rulesPath path? with
  | .error _ => none
  | .ok path => (readRules around path).toOption

/-- The path that is given for a reload. -/
def reloadPath? (router : Router) : Option String :=
  match router.settings.rulesFile with
  | .text s => some s
  | _ => none

theorem reload_eq (router : Router) (around : Surroundings) :
    router.reload around = router.load around router.reloadPath? := by
  unfold reload reloadPath?
  cases router.settings.rulesFile <;> rfl

/-- Loading a file is loading its text; a file that cannot be read changes nothing. -/
theorem load_cases (router : Router) (around : Surroundings) (path? : Option String) :
    (router.rulesText? around path? = none ∧ (router.load around path?).2 = router) ∨
    ∃ text source, router.rulesText? around path? = some text ∧
      router.load around path? = router.loadText text source := by
  cases hpath : router.rulesPath path? with
  | error fault => exact .inl ⟨by simp [rulesText?, hpath], by simp [load, hpath]⟩
  | ok path =>
    cases hread : readRules around path with
    | error fault =>
      exact .inl ⟨by simp [rulesText?, hpath, hread, Except.toOption], by simp [load, hpath, hread]⟩
    | ok text =>
      exact .inr ⟨text, path.string, by simp [rulesText?, hpath, hread, Except.toOption],
        by simp [load, hpath, hread]⟩

/-! ## Hooks -/

/-- A command reloads the rules at the most, and then tells of what it did. -/
theorem onCommand_cases (router : Router) (around : Surroundings) (m : Message) :
    (router.onCommand around m).2 = router ∨
      ∃ events, (router.onCommand around m).2 = (router.reload around).2.absorbAll events := by
  by_cases hcommand : router.isReloadCommand m = true
  · cases hanswer : router.announceReload { m with handled := true } with
    | error fault => exact .inl (by simp [onCommand, hcommand, hanswer])
    | ok answered =>
      rcases hreload : router.reload around with ⟨result, loaded⟩
      cases result with
      | ok sections => exact .inr ⟨[], by simp [onCommand, hcommand, hanswer, hreload, absorbAll]⟩
      | error fault =>
        simp only [onCommand, hcommand, hanswer, hreload, if_true, reloadFailed]
        split
        · exact .inr ⟨_, rfl⟩
        · exact .inr ⟨[], rfl⟩
  · exact .inl (by simp [onCommand, hcommand])

/-- A start comes to the rules if both hooks can be installed, and fails otherwise; the first hook
stays installed if the second one cannot be. -/
theorem startUp_cases (router : Router) (around : Surroundings) :
    ∃ result hooked result' ready,
      router.install (messageName router.settings.commandMessage) (some .commandHook)
        router.settings.commandPriority = (result, hooked) ∧
      hooked.install (messageName router.settings.haltMessage) (some .haltHook)
        router.settings.commandPriority = (result', ready) ∧
      ((∃ fault, router.startUp around = (.error fault, hooked)) ∨
        (∃ fault, router.startUp around = (.error fault, ready)) ∨
        (result = .ok () ∧ result' = .ok () ∧
          router.startUp around = ready.startRules around)) := by
  rcases hcommand : router.install (messageName router.settings.commandMessage)
    (some .commandHook) router.settings.commandPriority with ⟨result, hooked⟩
  rcases hhalt : hooked.install (messageName router.settings.haltMessage) (some .haltHook)
    router.settings.commandPriority with ⟨result', ready⟩
  refine ⟨result, hooked, result', ready, rfl, hhalt, ?_⟩
  cases result with
  | error fault => exact .inl ⟨fault, by simp only [startUp, hcommand]⟩
  | ok _ =>
    cases result' with
    | error fault => exact .inr (.inl ⟨fault, by simp only [startUp, hcommand, hhalt]⟩)
    | ok _ => exact .inr (.inr ⟨rfl, rfl, by simp only [startUp, hcommand, hhalt]⟩)

end Router
end Switchboard
