import Switchboard.Proofs.Router.Hooks
import Switchboard.Proofs.Router.Routes

/-!
# What a stopped router leaves behind

A router that is stopped takes its rules and its hooks off the bus. It takes them off by name: the
rules by the names of its bindings, the hooks by the names in the settings. So nothing of its own
stays (`shutDown_leaves_listeners`) because nothing of its own is under another name. No context is
on the bus for a message name without a binding (`Noted`), and no hook is for another message than
that of the settings (`Hooked`); both hold after whatever was done before, also where it failed.

Other code may take handlers off the bus as it likes, since this leaves less to be removed. It must
not install contexts or hooks, and the settings have to stay as they are (`Outside`).

A default priority that cannot be written breaks the first of the two: the load fails between the
installation and the binding, and the context stays on the bus (`long_priority_outlives_router`).
-/

namespace Switchboard

/-! ## Contexts have bindings -/

/-- Every context on the bus is there for a message name that has a binding. The default priority
is an integer that can be written, which keeps it so when rules are loaded. -/
structure Noted (router : Router) : Prop where
  default : router.settings.defaultPriority.IsWritableInteger
  binds : ∀ name, ∀ s ∈ router.bus.handlers name, s.handler.isContext = true →
    router.binds name = true

namespace Noted

variable {a b : Router}

theorem start {settings : EngineSettings} (h : settings.defaultPriority.IsWritableInteger) :
    Noted (Router.start settings) where
  default := h
  binds := by simp [Router.start, Bus.handlers, Bus.empty, Entries.get?]

/-- Handlers may go, and handlers may come that are no contexts, or contexts for bound names. -/
theorem of_handlers (h : Noted a) (hsettings : b.settings = a.settings)
    (hbindings : ∀ name, a.binds name = true → b.binds name = true)
    (hhandlers : ∀ name, ∀ s ∈ b.bus.handlers name, s ∈ a.bus.handlers name ∨
      (s.handler.isContext = true → b.binds name = true)) : Noted b := by
  refine ⟨by rw [hsettings]; exact h.default, ?_⟩
  intro name s hs hcontext
  rcases hhandlers name s hs with hold | hnew
  · exact hbindings name (h.binds name s hold hcontext)
  · exact hnew hcontext

theorem aside (h : Noted a) (queue : List Message) (draws : Draws) (trail : List Event) :
    Noted { a with bus := { a.bus with queue := queue }, draws := draws, trail := trail } :=
  ⟨h.default, h.binds⟩

theorem absorb (h : Noted a) (event : Event) : Noted (a.absorb event) := by
  rcases a.absorb_eq event with ⟨queue, trail, hevent⟩
  rw [hevent]
  exact h.aside queue a.draws trail

/-- Unloading leaves no context on the bus. -/
theorem not_context_of_unload (h : Noted a) (name : String) :
    ∀ s ∈ a.unload.bus.handlers name, s.handler.isContext = false := by
  intro s hs
  rw [Router.handlers_unload] at hs
  cases hbinds : a.binds name with
  | true => simp [hbinds] at hs
  | false =>
    have hold : s ∈ a.bus.handlers name := by simpa [hbinds] using hs
    rw [Bool.eq_false_iff]
    intro hcontext
    rw [h.binds name s hold hcontext] at hbinds
    cases hbinds

/-- So any rules may take the place of those that were unloaded. -/
theorem unload (h : Noted a) (sections : Sections) (registry : Registry) (serial : Nat) :
    Noted { a.unload with sections := sections, registry := registry, serial := serial } := by
  have hnone := h.not_context_of_unload
  rcases a.unload_eq with ⟨bus, trail, hunload⟩
  rw [hunload] at hnone ⊢
  refine ⟨h.default, ?_⟩
  intro name s hs hcontext
  rw [hnone name s hs] at hcontext
  cases hcontext

/-- A binding notes the context that it puts on the bus. -/
theorem withBinding (h : Noted a) (d : Directive) (c : Context) : Noted (a.withBinding d c) := by
  have hnoted : Noted { a with
      bus := (a.bus.install d.messageName (some (.context c)) d.priority).2
      bindings := a.bindings ++ [d] } := by
    refine h.of_handlers rfl ?_ ?_
    · intro name hbinds
      have hany : a.bindings.any (fun e => e.messageName == name) = true := hbinds
      simp [Router.binds, hany]
    · intro name s hs
      rcases Bus.mem_handlers_install hs with hold | ⟨rfl, -⟩
      · exact .inl hold
      · exact .inr fun _ => by simp [Router.binds]
  exact hnoted.absorb (Router.bindingNote "installed to context" d)

theorem bindAll (h : Noted a) {ds : List Directive}
    (hds : ∀ d ∈ ds, d.priority.IsWritableInteger) : Noted (a.bindAll ds).2 := by
  induction ds generalizing a with
  | nil => exact h
  | cons d rest ih =>
    have hrest := fun e he => hds e (List.mem_cons_of_mem d he)
    rcases a.bind_of_writable (hds d List.mem_cons_self) with ⟨-, hbind⟩ | ⟨c, -, -, hbind⟩
    · simpa only [Router.bindAll, hbind] using ih h hrest
    · simpa only [Router.bindAll, hbind] using ih (h.withBinding d c) hrest

theorem loadText (h : Noted a) (text : List Char) (source : String) :
    Noted (a.loadText text source).2 := by
  rcases hprepare : a.prepare text with ⟨events, result⟩
  rcases a.absorbAll_eq events with ⟨queue, trail, hevents⟩
  have hwarned : Noted (a.absorbAll events) := by
    rw [hevents]
    exact h.aside queue a.draws trail
  cases result with
  | error fault => simpa only [Router.loadText, hprepare] using hwarned
  | ok plan =>
    have hwritable := Router.isWritableInteger_of_readDirectives h.default
      (Router.of_prepare hprepare).2
    have hall := (hwarned.unload plan.sections plan.registry plan.registry.serial).bindAll hwritable
    rcases heq : Router.bindAll { (a.absorbAll events).unload with
        sections := plan.sections, registry := plan.registry, serial := plan.registry.serial }
      plan.directives with ⟨fault?, bound⟩
    rw [heq] at hall
    cases fault? with
    | some fault => simpa only [Router.loadText, hprepare, Router.commit, heq] using hall
    | none =>
      simpa only [Router.loadText, hprepare, Router.commit, heq] using
        hall.absorb (bound.loadedRecord source)

theorem install (h : Noted a) (name : String) (handler? : Option Handler)
    (hkind : ∀ c, handler? ≠ some (.context c)) (priority : Value) :
    Noted (a.install name handler? priority).2 := by
  rw [Router.install_snd]
  refine h.of_handlers rfl (fun _ hbinds => hbinds) ?_
  intro other s hs
  rcases Bus.mem_handlers_install hs with hold | ⟨-, hinstalled⟩
  · exact .inl hold
  · refine .inr ?_
    intro hcontext
    cases hhandler : s.handler with
    | context c => exact absurd (hinstalled.trans (congrArg some hhandler)) (hkind c)
    | _ => simp [hhandler, Handler.isContext] at hcontext

theorem uninstall (h : Noted a) (name : String) (handler? : Option Handler) :
    Noted (a.uninstall name handler?).2 :=
  h.of_handlers rfl (fun _ hbinds => hbinds) fun _ _ hs =>
    .inl (Bus.mem_handlers_uninstall hs).1

theorem steady : Steady Noted where
  aside := fun _ queue draws trail h => h.aside queue draws trail
  loadText := fun _ text source h => h.loadText text source
  unload := fun a h => h.unload Sections.initial Registry.empty a.unload.serial
  install := by
    intro router name handler priority hkind h
    refine h.install name (some handler) ?_ priority
    rintro c ⟨⟩
    cases hkind
  uninstall := fun _ name handler _ h => h.uninstall name (some handler)

end Noted

/-! ## Runs in which the hooks and the contexts are the router's own -/

/-- What other code may do while the settings stay as they are: remove handlers, and install
handlers of its own. Everything else goes by way of the router. -/
def Operation.Outside : Operation → Prop
  | .configure _ => False
  | .install _ handler? _ => ∀ handler, handler? = some handler → ∃ l, handler = .listener l
  | _ => True

/-- The states that a router with given settings comes to if only the router itself installs
contexts and hooks. -/
inductive Sole (settings : EngineSettings) : Router → Prop
  | start : Sole settings (Router.start settings)
  | after {router : Router} (around : Surroundings) (operation : Operation) :
      operation.Outside → Sole settings router → Sole settings (operation.run around router)

theorem Noted.run {router : Router} (h : Noted router) (around : Surroundings)
    {operation : Operation} (hallowed : operation.Outside) :
    Noted (operation.run around router) := by
  refine Noted.steady.run around ?_ h
  intro hforeign
  cases operation with
  | configure settings => exact hallowed.elim
  | install name handler? priority =>
    refine h.install name handler? ?_ priority
    intro c hcontext
    obtain ⟨l, hlistener⟩ := hallowed _ hcontext
    cases hlistener
  | uninstall name handler? => exact h.uninstall name handler?
  | _ => exact hforeign.elim

namespace Hooked

variable {settings : EngineSettings} {router : Router}

theorem uninstall (h : Hooked settings router) (name : String) (handler? : Option Handler) :
    Hooked settings (router.uninstall name handler?).2 :=
  h.of_handlers rfl fun _ _ hs => .inl (Bus.mem_handlers_uninstall hs).1

theorem shutDown (h : Hooked settings router) : Hooked settings router.shutDown :=
  (h.unload.uninstall _ (some .commandHook)).uninstall _ (some .haltHook)

theorem run (h : Hooked settings router) (around : Surroundings) {operation : Operation}
    (hallowed : operation.Outside) : Hooked settings (operation.run around router) := by
  cases operation with
  | rules change => exact (stable settings).rulesChange around change h
  | command m => exact (stable settings).command around m h
  | startUp => exact h.startUp around
  | shutDown => exact h.shutDown
  | configure other => exact hallowed.elim
  | install name handler? priority =>
    cases handler? with
    | none => exact h
    | some handler =>
      rcases hallowed handler rfl with ⟨l, rfl⟩
      exact h.install name (.listener l) priority (by simp) (by simp)
  | uninstall name handler? => exact h.uninstall name handler?
  | absorb event => exact h.absorb event
  | dispatch m => exact (stable settings).dispatch around m h
  | process limit => exact (stable settings).process around limit h
  | work messages => exact (stable settings).work around messages h
  | call context m => exact (stable settings).takeOutcome _ h
  | evaluate context depth m => exact (stable settings).takeOutcome _ h
  | takeTrail => exact h.aside router.bus.queue router.draws []

end Hooked

theorem Sole.hooked {settings : EngineSettings} {router : Router} (h : Sole settings router) :
    Hooked settings router := by
  induction h with
  | start => exact .start settings
  | after around operation hallowed _ ih => exact ih.run around hallowed

theorem Sole.noted {settings : EngineSettings} {router : Router} (h : Sole settings router)
    (hdefault : settings.defaultPriority.IsWritableInteger) : Noted router := by
  induction h with
  | start => exact .start hdefault
  | after around operation hallowed _ ih => exact ih.run around hallowed

/-! ## Stopping -/

/-- A stop takes what unloading leaves off the bus where it is a hook for its message. -/
theorem Router.mem_handlers_shutDown {router : Router} {name : String}
    {s : Subscription Handler} (h : s ∈ router.shutDown.bus.handlers name) :
    s ∈ router.unload.bus.handlers name ∧
      (name = messageName router.settings.commandMessage → s.handler ≠ .commandHook) ∧
      (name = messageName router.settings.haltMessage → s.handler ≠ .haltHook) := by
  have hsettings : router.unload.settings = router.settings := by
    rcases router.unload_eq with ⟨bus, trail, hunload⟩
    rw [hunload]
  rcases Bus.mem_handlers_uninstall h with ⟨hmem, hhalt⟩
  rcases Bus.mem_handlers_uninstall hmem with ⟨hunload, hcommand⟩
  rw [← hsettings]
  refine ⟨hunload, ?_, ?_⟩
  · intro hname hhook
    have hkept := hcommand hname
    simp [hhook, Handler.isSame] at hkept
  · intro hname hhook
    have hkept := hhalt hname
    simp [hhook, Handler.isSame] at hkept

/-- Whatever was done to a router and however often it was started, once it is stopped all that is
on the bus are handlers of other code, and no rules are loaded. -/
theorem shutDown_leaves_listeners {settings : EngineSettings} {router : Router}
    (h : Sole settings router) (hdefault : settings.defaultPriority.IsWritableInteger) :
    (∀ name, ∀ s ∈ router.shutDown.bus.handlers name, ∃ l, s.handler = .listener l) ∧
    router.shutDown.registry = Registry.empty ∧
    router.shutDown.bindings = [] ∧
    router.shutDown.sections = Sections.initial := by
  have hhooked := h.hooked
  refine ⟨?_, rfl, rfl, rfl⟩
  intro name s hs
  rcases Router.mem_handlers_shutDown hs with ⟨hleft, hcommand, hhalt⟩
  rw [hhooked.settings_eq] at hcommand hhalt
  cases hhandler : s.handler with
  | context c =>
    have hnone := (h.noted hdefault).not_context_of_unload name s hleft
    simp [hhandler, Handler.isContext] at hnone
  | commandHook =>
    exact absurd hhandler (hcommand (hhooked.unload.command name s hleft hhandler))
  | haltHook => exact absurd hhandler (hhalt (hhooked.unload.halt name s hleft hhandler))
  | listener l => exact ⟨l, rfl⟩

/-- The settings of a router that reads its rules from a file. -/
def EngineSettings.ofFile : EngineSettings :=
  { EngineSettings.standard with rulesFile := .text "r" }

/-- A router that was started twice with rules that bind the message of one of its hooks, and with a
handler of other code beside the other hook. -/
def Router.startedTwice : Router :=
  Operation.run .selfBinding
    (Operation.run .selfBinding
      (Operation.run .selfBinding (Router.start .ofFile) .startUp)
      (.install "engine.halt" (some (.listener ⟨"probe", fun m => ⟨m, none, none⟩⟩)) (.int 5)))
    .startUp

theorem started_twice_leaves_listener :
    Sole .ofFile Router.startedTwice ∧
    ((Router.startedTwice.bus.handlers "engine.halt").map fun s => s.handler.label) =
      ["handler:probe", "hook:on_halt", "hook:on_halt"] ∧
    ((Router.startedTwice.bus.handlers "engine.command").map fun s => s.handler.label) =
      ["context:c"] ∧
    (∀ name, ∀ s ∈ Router.startedTwice.shutDown.bus.handlers name,
      ∃ l, s.handler = .listener l) ∧
    ((Router.startedTwice.shutDown.bus.handlers "engine.halt").map fun s => s.handler.label) =
      ["handler:probe"] := by
  have hlistener : (Operation.install "engine.halt"
      (some (.listener ⟨"probe", fun m => ⟨m, none, none⟩⟩)) (.int 5)).Outside := by
    rintro handler ⟨⟩
    exact ⟨_, rfl⟩
  have hsole : Sole .ofFile Router.startedTwice :=
    .after _ .startUp trivial (.after _ _ hlistener (.after _ .startUp trivial .start))
  have hhooks : ((Router.startedTwice.bus.handlers "engine.halt").map fun s => s.handler.label) =
      ["handler:probe", "hook:on_halt", "hook:on_halt"] := by decide +kernel
  have hbound : ((Router.startedTwice.bus.handlers "engine.command").map
      fun s => s.handler.label) = ["context:c"] := by decide +kernel
  have hleft : ((Router.startedTwice.shutDown.bus.handlers "engine.halt").map
      fun s => s.handler.label) = ["handler:probe"] := by decide +kernel
  have hlisteners := shutDown_leaves_listeners hsole ⟨100, rfl, by decide +kernel⟩
  exact ⟨hsole, hhooks, hbound, hlisteners.1, hleft⟩

/-- With a default priority that cannot be written a context outlives the router that installed
it. -/
theorem long_priority_outlives_router :
    ¬ ∀ settings router, Sole settings router →
      (∃ n, settings.defaultPriority = .int n) → (∃ n, settings.commandPriority = .int n) →
      ∀ name, ∀ s ∈ router.shutDown.bus.handlers name, ∀ c, s.handler ≠ .context c := by
  intro hgone
  have hsole : Sole { EngineSettings.standard with defaultPriority := .int (10 ^ 4300) }
      Router.ofLongPriority := .after _ _ trivial .start
  have hnone := hgone _ _ hsole ⟨10 ^ 4300, rfl⟩ ⟨100, rfl⟩ "m"
  have hcontexts : ((Router.ofLongPriority.shutDown.bus.handlers "m").map
      fun s => s.handler.isContext) = [true] := by decide +kernel
  cases hhandlers : Router.ofLongPriority.shutDown.bus.handlers "m" with
  | nil => simp [hhandlers] at hcontexts
  | cons s rest =>
    rw [hhandlers] at hnone hcontexts
    cases hhandler : s.handler with
    | context c => exact hnone s List.mem_cons_self c hhandler
    | _ => simp [hhandler, Handler.isContext] at hcontexts

end Switchboard
