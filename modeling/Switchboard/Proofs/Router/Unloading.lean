import Switchboard.Proofs.Evaluation.Commands
import Switchboard.Proofs.Router.Stability

/-!
# What unloading takes off the bus

Bindings are recorded by the names of their messages, and unloading clears these names: whatever
else is installed there goes with them, hooks and handlers of other code included. The
subscriptions of all other names stay where they are. Rules that cannot be read or compiled take
nothing down.

The effect of a single change of the rules is `rulesChange_keepsBut`; a run of changes adds up
what its changes take down.
-/

namespace Switchboard

open Bus (Change Counted Evolves KeepsBut survivors)

namespace Router

/-! ## Bound names -/

/-- Whether a loaded binding is one of a message name. -/
def binds (router : Router) (name : String) : Bool :=
  router.bindings.any fun d => d.messageName == name

theorem unbind_foldl_bus (ds : List Directive) (router : Router) :
    (ds.foldl unbind router).bus.sequence = router.bus.sequence ∧
      ∀ name, (ds.foldl unbind router).bus.handlers name =
        if ds.any (fun d => d.messageName == name) then [] else router.bus.handlers name := by
  induction ds generalizing router with
  | nil => exact ⟨rfl, fun name => rfl⟩
  | cons d rest ih =>
    rcases ih (router.unbind d) with ⟨hsequence, hhandlers⟩
    refine ⟨hsequence, ?_⟩
    intro name
    have hfirst : (router.unbind d).bus.handlers name =
        if name = d.messageName then [] else router.bus.handlers name :=
      Bus.handlers_uninstallAll router.bus d.messageName name
    -- a name that is cleared twice is cleared
    rw [List.foldl_cons, hhandlers, hfirst]
    by_cases hname : name = d.messageName
    · simp [hname]
    · have hne : (d.messageName == name) = false := by simpa using Ne.symm hname
      simp [hname, hne]

theorem handlers_unload (router : Router) (name : String) :
    router.unload.bus.handlers name =
      if router.binds name then [] else router.bus.handlers name :=
  (unbind_foldl_bus router.bindings router).2 name

@[simp] theorem sequence_unload (router : Router) :
    router.unload.bus.sequence = router.bus.sequence :=
  (unbind_foldl_bus router.bindings router).1

/-- Unloading takes everything off the bus that is installed for a bound name, and nothing else. -/
theorem unload_keepsBut {router : Router} (h : Counted router.bus) :
    KeepsBut router.binds router.bus router.unload.bus := by
  refine ⟨Nat.le_of_eq (sequence_unload router).symm, ?_⟩
  intro name
  rw [survivors, handlers_unload]
  cases router.binds name with
  | true => rfl
  | false => exact Bus.survivors_self h name

/-! ## Rules that take others down -/

/-- Whether rules can be compiled, so that they take the place of the loaded ones. -/
def prepares (router : Router) (text : List Char) : Bool :=
  (router.prepare text).2.toOption.isSome

theorem loadText_keepsBut {router : Router} (h : Counted router.bus) (text : List Char)
    (source : String) :
    KeepsBut (fun name => router.prepares text && router.binds name) router.bus
      (router.loadText text source).2.bus := by
  rcases hprepare : router.prepare text with ⟨events, result⟩
  cases result with
  | error fault =>
    -- nothing is unloaded; the warnings were given all the same
    have hprepares : router.prepares text = false := by
      simp [prepares, hprepare, Except.toOption]
    have hsubmits := absorbAll_evolves router events
    have hkeeps := (hsubmits.mono (fun _ h => h.adds)).keeps h
    simpa [loadText, hprepare, hprepares] using hkeeps
  | ok plan =>
    have hprepares : router.prepares text = true := by
      simp [prepares, hprepare, Except.toOption]
    -- the warnings change neither the subscriptions nor the bindings
    rcases absorbAll_eq router events with ⟨queue, trail, hwarned⟩
    have hcounted : Counted (router.absorbAll events).bus := by
      rw [hwarned]
      exact h
    have hunload := unload_keepsBut hcounted
    have hcommit := (commit_evolves_of_unload (router.absorbAll events) plan source).keeps
      ((unload_evolves _).counted hcounted)
    have hboth := hunload.trans hcommit
    rw [hwarned] at hboth
    simp only [loadText, hprepare, hwarned, hprepares, Bool.true_and]
    exact ⟨hboth.sequence_le, (hboth.congr fun name => Bool.or_false _).survivors_eq⟩

theorem load_keepsBut {router : Router} (h : Counted router.bus) (around : Surroundings)
    (path? : Option String) :
    KeepsBut (fun name => (router.rulesText? around path?).any router.prepares &&
      router.binds name) router.bus (router.load around path?).2.bus := by
  rcases load_cases router around path? with ⟨htext, hload⟩ | ⟨text, source, htext, hload⟩
  · rw [hload, htext]
    exact KeepsBut.refl h
  · rw [hload, htext]
    exact loadText_keepsBut h text source

end Router

/-! ## Changes of the rules -/

/-- Whether a change of the rules gets so far as to unload the loaded ones. -/
def RulesChange.takesDown (around : Surroundings) (router : Router) : RulesChange → Bool
  | .loadText text _ => router.prepares text
  | .load path? => (router.rulesText? around path?).any router.prepares
  | .reload => (router.rulesText? around router.reloadPath?).any router.prepares
  | .unload => true
  | .halt _ => true

theorem rulesChange_keepsBut {router : Router} (h : Counted router.bus) (around : Surroundings)
    (change : RulesChange) :
    KeepsBut (fun name => change.takesDown around router && router.binds name) router.bus
      (change.run around router).bus := by
  cases change with
  | loadText text source => exact router.loadText_keepsBut h text source
  | load path? => exact router.load_keepsBut h around path?
  | reload =>
    rw [RulesChange.run, Router.reload_eq]
    exact router.load_keepsBut h around router.reloadPath?
  | unload => exact router.unload_keepsBut h
  | halt m => exact router.unload_keepsBut h

/-- The router after changes of the rules, one after the other. -/
def runChanges : List (Surroundings × RulesChange) → Router → Router
  | [], router => router
  | (around, change) :: rest, router => runChanges rest (change.run around router)

/-- Whether one of the changes takes the subscriptions of a name down. -/
def takenDown : List (Surroundings × RulesChange) → Router → String → Bool
  | [], _, _ => false
  | (around, change) :: rest, router, name =>
    (change.takesDown around router && router.binds name) ||
      takenDown rest (change.run around router) name

theorem runChanges_keepsBut (changes : List (Surroundings × RulesChange)) {router : Router}
    (h : Counted router.bus) :
    KeepsBut (takenDown changes router) router.bus (runChanges changes router).bus := by
  induction changes generalizing router with
  | nil => exact KeepsBut.refl h
  | cons first rest ih =>
    rcases first with ⟨around, change⟩
    have hcounted := (Operation.evolves around router (.rules change)).counted h
    exact (rulesChange_keepsBut h around change).trans (ih hcounted)

/-! ## The hook for the reload command -/

/-- An installation that succeeds puts its handler on the bus and changes nothing else of the
router. -/
theorem Router.install_ok {router installed : Router} {name : String} {handler : Handler}
    {priority : Value}
    (h : router.install name (some handler) priority = (.ok (), installed)) :
    (∃ s ∈ installed.bus.handlers name, s.handler = handler) ∧
      installed.bindings = router.bindings := by
  have hsnd := router.install_snd name (some handler) priority
  rcases heq : router.bus.install name (some handler) priority with ⟨fault?, bus⟩
  rw [h, heq] at hsnd
  have hinstalled : installed = { router with bus := bus } := hsnd
  cases fault? with
  | some fault => simp [Router.install, heq] at h
  | none =>
    rcases Bus.install_cases router.bus name (some handler) priority with
      ⟨hfault, -, -⟩ | ⟨other, number, hother, -, -, -, hhandlers⟩
    · simp [heq] at hfault
    · cases hother
      refine ⟨⟨⟨number, router.bus.sequence + 1, name, handler⟩, ?_, rfl⟩, by rw [hinstalled]⟩
      have hname := hhandlers name
      rw [heq] at hname
      rw [hinstalled, hname]
      simp [Subscription.mem_insert]

/-- Loading the rules of a start takes no more down than what is bound. -/
theorem Router.startRules_keepsBut {router : Router} (h : Counted router.bus)
    (around : Surroundings) :
    ∃ reads : Bool, KeepsBut (fun name => reads && router.binds name) router.bus
      (router.startRules around).2.bus := by
  have hload := router.load_keepsBut h around none
  have hcounted : Counted (router.load around none).2.bus :=
    (Operation.evolves around router (.rules (.load none))).counted h
  refine ⟨(router.rulesText? around none).any router.prepares, ?_⟩
  rcases heq : router.load around none with ⟨result, after⟩
  rw [heq] at hload hcounted
  -- what follows the load is only told to the log
  have hreport : ∀ events, KeepsBut
      (fun name => (router.rulesText? around none).any router.prepares && router.binds name)
      router.bus (after.absorbAll events).bus := by
    intro events
    have hkeeps := ((after.absorbAll_evolves events).mono fun _ h => h.adds).keeps hcounted
    exact (hload.trans hkeeps).congr fun name => Bool.or_false _
  cases result with
  | ok sections =>
    simp only [startRules, heq]
    exact hreport [.info [.text "Regexp module started."]]
  | error fault =>
    simp only [startRules, heq]
    split
    · exact hreport _
    · exact hload

/-- A start leaves the hook for the reload command on the bus, unless its message was bound
before. -/
theorem Router.startUp_hook {router started : Router} {around : Surroundings} {loaded : Bool}
    (h : Counted router.bus) (hstart : router.startUp around = (.ok loaded, started))
    (hbinds : router.binds (messageName router.settings.commandMessage) = false) :
    ∃ s ∈ started.bus.handlers (messageName router.settings.commandMessage),
      s.handler = .commandHook := by
  rcases router.startUp_cases around with
    ⟨result, hooked, result', ready, hcommand, hhalt,
      ⟨fault, hfailed⟩ | ⟨fault, hfailed⟩ | ⟨rfl, rfl, hrules⟩⟩
  · simp [hfailed] at hstart
  · simp [hfailed] at hstart
  · have hfirst := (router.install_evolves (messageName router.settings.commandMessage)
      (some .commandHook) router.settings.commandPriority).counted h
    have hadds := hooked.install_evolves (messageName router.settings.haltMessage)
      (some .haltHook) router.settings.commandPriority
    rw [hcommand] at hfirst
    rw [hhalt] at hadds
    -- the hook is there, the second hook leaves it there, and so do the rules that are loaded
    rcases Router.install_ok hcommand with ⟨⟨s, hs, hhandler⟩, hbindings⟩
    rcases Router.install_ok hhalt with ⟨-, hbindings'⟩
    rcases ready.startRules_keepsBut (hadds.counted hfirst) around with ⟨reads, hkeeps⟩
    have hready : s ∈ ready.bus.handlers (messageName router.settings.commandMessage) :=
      (hadds.keeps hfirst).mem_handlers rfl hs
    have hunbound : ready.binds (messageName router.settings.commandMessage) = false := by
      rw [binds, hbindings', hbindings]
      exact hbinds
    have hstarted : (ready.startRules around).2 = started := by rw [← hrules, hstart]
    rw [← hstarted]
    exact ⟨s, hkeeps.mem_handlers (by simp [hunbound]) hready, hhandler⟩

/-- In every reachable state and over every run of changes of the rules, what is on the bus stays
where it is, but for the names that are bound when rules are taken down. So the hook for the
reload command stays on the bus of a router that was started, unless its message is such a name. -/
theorem changes_take_down_bound_names {router : Router} (h : Reachable router)
    (changes : List (Surroundings × RulesChange)) :
    KeepsBut (takenDown changes router) router.bus (runChanges changes router).bus ∧
    ∀ around loaded started, router.startUp around = (.ok loaded, started) →
      router.binds (Router.messageName router.settings.commandMessage) = false →
      takenDown changes started (Router.messageName router.settings.commandMessage) = false →
      ∃ s ∈ (runChanges changes started).bus.handlers
          (Router.messageName router.settings.commandMessage),
        s.handler = .commandHook := by
  refine ⟨runChanges_keepsBut changes h.counted, ?_⟩
  intro around loaded started hstart hbinds htaken
  have hcounted : Counted started.bus := by
    have hevolves := Operation.evolves around router .startUp
    rw [Operation.run, hstart] at hevolves
    exact hevolves.counted h.counted
  rcases Router.startUp_hook h.counted hstart hbinds with ⟨s, hs, hhandler⟩
  exact ⟨s, (runChanges_keepsBut changes hcounted).mem_handlers htaken hs, hhandler⟩

/-- Surroundings without files. -/
def Surroundings.empty : Surroundings :=
  ⟨.still, []⟩

/-- The text of rules that bind one message. -/
def greetingRules : List Char :=
  "[install]\nm=\n[m]\necho hi=return 1\n".toList

/-- Surroundings with such a rules file. -/
def Surroundings.greeting : Surroundings :=
  ⟨.still, [([['r']], .file (greetingRules.map fun c => UInt8.ofNat c.toNat))]⟩

/-- A handler of other code. -/
def Handler.probe : Handler :=
  .listener ⟨"probe", fun m => ⟨m, none, none⟩⟩

/-- A router that was started with this rules file, and then with a handler of other code beside the
binding and another beside the hook for the reload command. -/
def Router.attended : Router :=
  Operation.run .greeting
    (Operation.run .greeting
      (Operation.startUp.run .greeting
        (Router.start { EngineSettings.standard with rulesFile := .text "r" }))
      (.install "m" (some .probe) (.int 5)))
    (.install "engine.command" (some .probe) (.int 5))

/-- The rules file is loaded again and again, then it is gone, and then the rules are dropped. -/
def reloads : List (Surroundings × RulesChange) :=
  [(.greeting, .reload), (.greeting, .reload), (.empty, .reload), (.empty, .unload)]

theorem started_router_keeps_hook :
    Reachable Router.attended ∧
    ((Router.attended.bus.handlers "m").map fun s => s.handler.label) =
      ["handler:probe", "context:m"] ∧
    KeepsBut (takenDown reloads Router.attended) Router.attended.bus
      (runChanges reloads Router.attended).bus ∧
    takenDown reloads Router.attended "m" = true ∧
    ((runChanges reloads Router.attended).bus.handlers "engine.command").map
      (fun s => s.handler.label) = ["handler:probe", "hook:on_command"] ∧
    (Router.attended.startUp .greeting).1.isOk = true ∧
    ∃ s ∈ (runChanges reloads (Router.attended.startUp .greeting).2).bus.handlers "engine.command",
      s.handler = .commandHook := by
  have hreachable : Reachable Router.attended :=
    .after _ (.install _ _ _) (.after _ (.install _ _ _) (.after _ .startUp (.start _)))
  have hbound : ((Router.attended.bus.handlers "m").map fun s => s.handler.label) =
      ["handler:probe", "context:m"] := by decide +kernel
  have hcommand : ((runChanges reloads Router.attended).bus.handlers "engine.command").map
      (fun s => s.handler.label) = ["handler:probe", "hook:on_command"] := by decide +kernel
  have hok : (Router.attended.startUp .greeting).1.isOk = true := by decide +kernel
  have hstart : ∃ loaded, Router.attended.startUp .greeting =
      (.ok loaded, (Router.attended.startUp .greeting).2) := by
    cases hresult : (Router.attended.startUp .greeting).1 with
    | error fault => simp [hresult, Except.isOk, Except.toBool] at hok
    | ok loaded => exact ⟨loaded, by rw [← hresult]⟩
  rcases hstart with ⟨loaded, hstart⟩
  have hname : Router.messageName Router.attended.settings.commandMessage = "engine.command" := by
    decide +kernel
  have hkeeps := changes_take_down_bound_names hreachable reloads
  have hhook := hkeeps.2 .greeting loaded _ hstart (by decide +kernel) (by decide +kernel)
  rw [hname] at hhook
  exact ⟨hreachable, hbound, hkeeps.1, by decide +kernel, hcommand, hok, hhook⟩

/-- The text of rules that bind the message of the reload command. -/
def selfBindingRules : List Char :=
  ['[', 'i', 'n', 's', 't', 'a', 'l', 'l', ']', '\n', 'e', 'n', 'g', 'i', 'n', 'e', '.', 'c', 'o',
    'm', 'm', 'a', 'n', 'd', '=', ',', 'c', '\n', '[', 'c', ']', '\n']

/-- Surroundings with such a rules file. -/
def Surroundings.selfBinding : Surroundings :=
  ⟨.still, [([['r']], .file (selfBindingRules.map fun c => UInt8.ofNat c.toNat))]⟩

/-- A router that was started with this rules file. -/
def Router.selfBinding : Router :=
  Operation.startUp.run .selfBinding
    (Router.start { EngineSettings.standard with rulesFile := .text "r" })

/-- A reload takes the hook for the reload command down with the binding of its message. -/
theorem not_every_hook_survives_reload :
    ¬ ∀ router, Reachable router → ∀ (around : Surroundings) (change : RulesChange)
      (name : String) (s : Subscription Handler), s ∈ router.bus.handlers name →
      (∀ c, s.handler ≠ .context c) → s ∈ (change.run around router).bus.handlers name := by
  intro hstays
  have hreachable : Reachable Router.selfBinding := .after _ .startUp (.start _)
  have hhook : (Router.selfBinding.bus.handlers "engine.command").head? =
      some ⟨100, 1, "engine.command", .commandHook⟩ := by rfl
  -- the binding is installed anew, under the next number, and nothing else is left
  have hlater : ((RulesChange.reload.run .selfBinding Router.selfBinding).bus.handlers
      "engine.command").map (·.sequence) = [4] := by decide +kernel
  have hstill := hstays _ hreachable .selfBinding .reload "engine.command" _
    (List.mem_of_mem_head? hhook) (by simp)
  have hnumber := List.mem_map_of_mem (f := (·.sequence)) hstill
  rw [hlater] at hnumber
  simp at hnumber

end Switchboard
