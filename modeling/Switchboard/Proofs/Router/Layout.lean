import Mathlib.Data.List.Forall2
import Switchboard.Proofs.Evaluation.Edits
import Switchboard.Proofs.Router.Aside
import Switchboard.Proofs.Router.PublishedContexts
import Switchboard.Proofs.Rules.RefusedLines

/-!
# The layout of a rules file

The sections of a rules file can stand in any order, and a section can be split over several
headers. Two texts with the same lines for every section name are two layouts of the same rules.
A router that loads the one and a router that loads the other deliver alike
(`layout_does_not_show`).

The registries of the two have their contexts in different orders. A registry is looked at by name
only, though, and by name the two agree (`Registry.Alike`): contexts are compiled one by one, and
find each other when they are called, not when they are compiled. The buses have the same
subscriptions, with contexts of the one registry in the place of contexts of the other
(`Counterpart`), since the bindings are the lines of one section. All that happens from there on
keeps the two routers in step (`Parallel`).
-/

namespace Switchboard

/-! ## Registries that agree by name -/

namespace Registry

/-- Two registries with the same number, the same guards and the same rules under every name. -/
structure Alike (a b : Registry) : Prop where
  serial : b.serial = a.serial
  limits : b.limits = a.limits
  contexts : ∀ name, b.contexts.get? name = a.contexts.get? name

theorem Alike.refl (a : Registry) : a.Alike a :=
  ⟨rfl, rfl, fun _ => rfl⟩

/-- The rules under a name are those that the section of the name compiles to, wherever it stands. -/
theorem get?_of_compileSections {sections : Sections} {contexts : Entries (List Rule)}
    (h : (compileSections sections).2 = .ok contexts) (name : String) :
    contexts.get? name =
      if name = installSection then none
      else (sections.get? name).bind fun lines => (Rule.compileAll lines).2.toOption := by
  induction sections generalizing contexts with
  | nil =>
    cases h
    simp [Entries.get?]
  | cons first rest ih =>
    rcases first with ⟨other, lines⟩
    by_cases hinstall : other = installSection
    · -- the bindings are left out, and they are none of the other sections
      have hrest : (compileSections rest).2 = .ok contexts := by
        simpa [compileSections, hinstall] using h
      rw [ih hrest]
      by_cases hname : name = installSection
      · simp [hname]
      · have hne : ¬ other = name := fun heq => hname (heq ▸ hinstall)
        simp [hname, Entries.get?, hne]
    · rcases hcompile : Rule.compileAll lines with ⟨events, result⟩
      cases result with
      | error fault => simp [compileSections, hinstall, hcompile] at h
      | ok rules =>
        cases hrest : (compileSections rest).2 with
        | error fault => simp [compileSections, hinstall, hcompile, hrest, Except.map] at h
        | ok more =>
          have hcontexts : (other, rules) :: more = contexts := by
            simpa [compileSections, hinstall, hcompile, hrest, Except.map] using h
          rw [← hcontexts, Entries.get?, Entries.get?]
          by_cases hname : other = name
          · simp [← hname, hinstall, hcompile, Except.toOption]
          · simp [hname, ih hrest]

/-- A name is under neither of the two, or a context of each is under it. -/
theorem Alike.context? {a b : Registry} (h : a.Alike b) (name : String) :
    (a.context? name = none ∧ b.context? name = none) ∨
    ∃ c d, a.context? name = some c ∧ b.context? name = some d := by
  have hcontexts := h.contexts name
  cases hget : a.contexts.get? name with
  | none => exact .inl ⟨by simp [Registry.context?, hget], by simp [Registry.context?, hcontexts, hget]⟩
  | some rules =>
    exact .inr ⟨⟨name, rules, a⟩, ⟨name, rules, b⟩, by simp [Registry.context?, hget],
      by simp [Registry.context?, hcontexts, hget]⟩

/-- Contexts of one name come to the same, since calls look at names only. -/
theorem Alike.evaluate {a b : Registry} (h : a.Alike b) {name : String} {c d : Context}
    (hc : a.context? name = some c) (hd : b.context? name = some d) (source : Source) (host : Host)
    (depth : Int) (state : State) :
    d.evaluate source host depth state = c.evaluate source host depth state := by
  have hrules := (Registry.of_context? hc).2.2
  -- no context is edited, so the edit may be taken to be one of the context itself
  have hedits : Edits a.contexts b.contexts name [] [] c.rules :=
    ⟨fun other _ => h.contexts other, [], hrules, (h.contexts name).trans hrules⟩
  have hagrees : Edits.Agrees (a.scene source host) b.contexts name [] [] c.rules (fun _ => true)
      (c.start depth state) := fun _ _ _ => rfl
  have hseen := hedits.context_evaluate h.limits hc hd hagrees
  rwa [Outcome.seen_all, Outcome.seen_all] at hseen

theorem Alike.handle {a b : Registry} (h : a.Alike b) {name : String} {c d : Context}
    (hc : a.context? name = some c) (hd : b.context? name = some d) (source : Source) (host : Host)
    (state : State) : d.handle source host state = c.handle source host state := by
  have hname : d.name = c.name :=
    (Registry.of_context? hd).2.1.trans (Registry.of_context? hc).2.1.symm
  simp only [Context.handle, h.evaluate hc hd, Context.failureRecord, hname]

end Registry

/-! ## Routers that are in step -/

/-- What two loads have made: registries that agree by name, and what was told until then. -/
structure TwoLoads where
  registry : Registry
  registry' : Registry
  alike : registry.Alike registry'
  trail : List Event
  trail' : List Event

/-- Two subscriptions that were made by the same installation, each with the context of the same
name in its registry. -/
structure Counterpart (registry registry' : Registry) (s t : Subscription Handler) : Prop where
  priority : t.priority = s.priority
  sequence : t.sequence = s.sequence
  contexts : ∃ name c d, registry.context? name = some c ∧ registry'.context? name = some d ∧
    s.handler = .context c ∧ t.handler = .context d

/-- Two routers that differ in their registries alone, and in what was told while these were
loaded. -/
structure Parallel (loads : TwoLoads) (a b : Router) : Prop where
  registry : a.registry = loads.registry
  registry' : b.registry = loads.registry'
  bindings : b.bindings = a.bindings
  draws : b.draws = a.draws
  queue : b.bus.queue = a.bus.queue
  sequence : b.bus.sequence = a.bus.sequence
  handlers : ∀ name, List.Forall₂ (Counterpart loads.registry loads.registry')
    (a.bus.handlers name) (b.bus.handlers name)
  trail : ∃ events, a.trail = loads.trail ++ events ∧ b.trail = loads.trail' ++ events

theorem Counterpart.insert {registry registry' : Registry} {s t : Subscription Handler}
    {subs subs' : List (Subscription Handler)} (h : Counterpart registry registry' s t)
    (hsubs : List.Forall₂ (Counterpart registry registry') subs subs') :
    List.Forall₂ (Counterpart registry registry') (s.insert subs) (t.insert subs') := by
  induction hsubs with
  | nil => exact .cons h .nil
  | @cons first first' rest rest' hfirst hrest ih =>
    -- what comes first is told by priorities and numbers
    have hprecedes : t.precedes first' = s.precedes first := by
      rw [Subscription.precedes, Subscription.precedes, h.priority, h.sequence, hfirst.priority,
        hfirst.sequence]
    rw [Subscription.insert, Subscription.insert, hprecedes]
    split
    · exact .cons h (.cons hfirst hrest)
    · exact .cons hfirst ih

namespace Parallel

variable {loads : TwoLoads} {a b : Router}

theorem absorb (h : Parallel loads a b) (event : Event) :
    Parallel loads (a.absorb event) (b.absorb event) := by
  rcases h.trail with ⟨events, htrail, htrail'⟩
  -- an event is told by both, or goes into both queues
  have hnoted : ∀ told : Event, Parallel loads { a with trail := a.trail ++ [told] }
      { b with trail := b.trail ++ [told] } := fun told =>
    { h with trail := ⟨events ++ [told], by rw [htrail, List.append_assoc],
        by rw [htrail', List.append_assoc]⟩ }
  cases event with
  | enqueue m =>
    have hqueue : (b.bus.enqueue m).queue = (a.bus.enqueue m).queue := by
      rw [Bus.enqueue, Bus.enqueue, h.queue]
    exact { h with queue := hqueue }
  | error args => exact hnoted _
  | info args => exact hnoted _
  | log severity origin text => exact hnoted _
  | raw text => exact hnoted _
  | handler label name => exact hnoted _

theorem absorbAll (h : Parallel loads a b) (events : List Event) :
    Parallel loads (a.absorbAll events) (b.absorbAll events) := by
  induction events generalizing a b with
  | nil => exact h
  | cons event rest ih => exact ih (h.absorb event)

/-! ### Loading -/

theorem install (h : Parallel loads a b) (name : String) (priority : Value) {context : String}
    {c d : Context} (hc : loads.registry.context? context = some c)
    (hd : loads.registry'.context? context = some d) :
    (b.install name (some (.context d)) priority).1 =
        (a.install name (some (.context c)) priority).1 ∧
      Parallel loads (a.install name (some (.context c)) priority).2
        (b.install name (some (.context d)) priority).2 := by
  have hfault : (b.bus.install name (some (Handler.context d)) priority).1 =
      (a.bus.install name (some (Handler.context c)) priority).1 := by
    cases hpriority : priority.toInteger <;> simp [Bus.install, hpriority]
  refine ⟨?_, ?_⟩
  · rcases ha : a.bus.install name (some (Handler.context c)) priority with ⟨fault?, bus⟩
    rcases hb : b.bus.install name (some (Handler.context d)) priority with ⟨fault?', bus'⟩
    rw [ha, hb] at hfault
    cases hfault
    cases fault? <;> simp [Router.install, ha, hb]
  · rw [Router.install_snd, Router.install_snd]
    refine { h with queue := ?_, sequence := ?_, handlers := ?_ }
    · rw [Bus.queue_install, Bus.queue_install, h.queue]
    · rw [Bus.sequence_install, Bus.sequence_install, h.sequence]
    · intro other
      cases hpriority : priority.toInteger with
      | error fault =>
        rw [Bus.handlers_install_of_error _ _ _ _ hpriority,
          Bus.handlers_install_of_error _ _ _ _ hpriority]
        exact h.handlers other
      | ok number =>
        rw [Bus.handlers_install_of_ok _ _ _ _ hpriority,
          Bus.handlers_install_of_ok _ _ _ _ hpriority]
        split
        · refine Counterpart.insert ⟨rfl, ?_, context, c, d, hc, hd, rfl, rfl⟩ (h.handlers name)
          rw [h.sequence]
        · exact h.handlers other

theorem bindAll (h : Parallel loads a b) (ds : List Directive) :
    (b.bindAll ds).1 = (a.bindAll ds).1 ∧ Parallel loads (a.bindAll ds).2 (b.bindAll ds).2 := by
  induction ds generalizing a b with
  | nil => exact ⟨rfl, h⟩
  | cons first rest ih =>
    have ha : a.context? first.contextName = loads.registry.context? first.contextName := by
      rw [Router.context?, h.registry]
    have hb : b.context? first.contextName = loads.registry'.context? first.contextName := by
      rw [Router.context?, h.registry']
    rcases loads.alike.context? first.contextName with ⟨hc, hd⟩ | ⟨c, d, hc, hd⟩
    · simpa only [Router.bindAll, Router.bind, ha, hb, hc, hd] using ih h
    · rcases h.install first.messageName first.priority hc hd with ⟨hresult, hinstalled⟩
      rcases hia : a.install first.messageName (some (.context c)) first.priority with
        ⟨result, installed⟩
      rcases hib : b.install first.messageName (some (.context d)) first.priority with
        ⟨result', installed'⟩
      rw [hia, hib] at hresult hinstalled
      cases hresult
      cases result with
      | error fault =>
        simpa only [Router.bindAll, Router.bind, ha, hb, hc, hd, hia, hib, true_and] using hinstalled
      | ok _ =>
        have hbound : Parallel loads { installed with bindings := installed.bindings ++ [first] }
            { installed' with bindings := installed'.bindings ++ [first] } :=
          { hinstalled with bindings := by rw [hinstalled.bindings] }
        simpa only [Router.bindAll, Router.bind, ha, hb, hc, hd, hia, hib] using
          ih (hbound.absorb (Router.bindingNote "installed to context" first))

/-- What was told until now may be left out of account. -/
theorem retold (h : Parallel loads a b) (trail trail' : List Event) :
    Parallel { loads with trail := trail, trail' := trail' } { a with trail := trail }
      { b with trail := trail' } :=
  { h with trail := ⟨[], by simp, by simp⟩ }

/-- Rules with the same bindings are put up alike. -/
theorem commit {plan plan' : Router.Plan}
    (hready : Parallel loads
      { a.unload with
        sections := plan.sections, registry := plan.registry, serial := plan.registry.serial }
      { b.unload with
        sections := plan'.sections, registry := plan'.registry, serial := plan'.registry.serial })
    (hdirectives : plan'.directives = plan.directives) (source source' : String) :
    (a.commit plan source).1.isOk = (b.commit plan' source').1.isOk ∧
      ∃ after, after.trail = (a.commit plan source).2.trail ∧
        after.trail' = (b.commit plan' source').2.trail ∧
        Parallel after (a.commit plan source).2 (b.commit plan' source').2 := by
  rcases hready.bindAll plan.directives with ⟨hfault, hbound⟩
  rcases hall : Router.bindAll { a.unload with
      sections := plan.sections, registry := plan.registry, serial := plan.registry.serial }
    plan.directives with ⟨fault?, bound⟩
  rcases hall' : Router.bindAll { b.unload with
      sections := plan'.sections, registry := plan'.registry, serial := plan'.registry.serial }
    plan.directives with ⟨fault?', bound'⟩
  rw [hall, hall'] at hfault hbound
  cases hfault
  -- the records of the loads may differ, but nothing else does
  cases fault? with
  | some fault =>
    simp only [Router.commit, hdirectives, hall, hall']
    exact ⟨trivial, _, rfl, rfl, hbound.retold bound.trail bound'.trail⟩
  | none =>
    simp only [Router.commit, hdirectives, hall, hall']
    exact ⟨rfl, _, rfl, rfl, hbound.retold (bound.absorb (bound.loadedRecord source)).trail
      (bound'.absorb (bound'.loadedRecord source')).trail⟩

/-! ### Deliveries -/

theorem takeOutcome (h : Parallel loads a b) (outcome : Outcome) :
    Parallel loads (a.takeOutcome outcome).2 (b.takeOutcome outcome).2 := by
  have hdrawn : Parallel loads { a with draws := outcome.state.draws }
      { b with draws := outcome.state.draws } := { h with draws := rfl }
  exact hdrawn.absorbAll outcome.events

/-- Counterparts respond alike. -/
theorem invoke (h : Parallel loads a b) {name : String} {c d : Context}
    (hc : loads.registry.context? name = some c) (hd : loads.registry'.context? name = some d)
    (around : Surroundings) (m : Message) :
    (Router.invoke around (.context c) m a).1 = (Router.invoke around (.context d) m b).1 ∧
      Parallel loads (Router.invoke around (.context c) m a).2
        (Router.invoke around (.context d) m b).2 := by
  have houtcome : d.handle around.source Host.accepting ⟨m, b.draws⟩ =
      c.handle around.source Host.accepting ⟨m, a.draws⟩ := by
    rw [h.draws, loads.alike.handle hc hd]
  simp only [Router.invoke, Router.callContext, houtcome]
  exact ⟨rfl, h.takeOutcome _⟩

theorem dispatch (h : Parallel loads a b) (around : Surroundings) (m : Message) :
    (a.dispatch around m).1 = (b.dispatch around m).1 ∧
      Parallel loads (a.dispatch around m).2 (b.dispatch around m).2 := by
  refine Bus.deliver_related
    (Q := fun handler handler' => ∃ name c d, loads.registry.context? name = some c ∧
      loads.registry'.context? name = some d ∧ handler = .context c ∧ handler' = .context d)
    ?_ ((h.handlers m.name).imp fun _ _ hpair => hpair.contexts) none m a b h
  rintro _ _ m a b ⟨name, c, d, hc, hd, rfl, rfl⟩ hab
  exact hab.invoke hc hd around m

theorem processPending (h : Parallel loads a b) (around : Surroundings) (limit : Nat) :
    (a.processPending around limit).1 = (b.processPending around limit).1 ∧
      Parallel loads (a.processPending around limit).2 (b.processPending around limit).2 := by
  induction limit generalizing a b with
  | zero => exact ⟨rfl, h⟩
  | succ limit ih =>
    cases hqueue : a.bus.queue with
    | nil =>
      have hqueue' : b.bus.queue = [] := h.queue.trans hqueue
      simpa [Router.processPending, Router.processOne, hqueue, hqueue'] using h
    | cons m rest =>
      have hqueue' : b.bus.queue = m :: rest := h.queue.trans hqueue
      have htaken : Parallel loads { a with bus := { a.bus with queue := rest } }
          { b with bus := { b.bus with queue := rest } } := { h with queue := rfl }
      rcases htaken.dispatch around m with ⟨hdelivery, hafter⟩
      rcases ih (hafter.absorbAll (Router.dispatch _ around m).1.records) with ⟨hmessages, hrest⟩
      simp only [Router.processPending, Router.processOne, hqueue, hqueue', ← hdelivery]
      exact ⟨by rw [hmessages], hrest⟩

end Parallel

/-! ## Two layouts -/

/-- Two texts with the same lines for every section name. -/
def SameSections (text text' : List Char) : Prop :=
  ∀ name, (Sections.parse text').1.get? name = (Sections.parse text).1.get? name

namespace SameSections

variable {text text' : List Char}

theorem linesOf (h : SameSections text text') (name : String) :
    (Sections.parse text').1.linesOf name = (Sections.parse text).1.linesOf name := by
  rw [Sections.linesOf, h name, Sections.linesOf]

/-- A line that is refused is refused wherever it stands. -/
theorem isAccepted (h : SameSections text text') : IsAccepted text' ↔ IsAccepted text := by
  have hlines : ∀ name, Sections.contentOf (Text.lines text') name =
      Sections.contentOf (Text.lines text) name := by
    intro name
    rw [← Sections.linesOf_parse, ← Sections.linesOf_parse, h.linesOf]
  constructor
  · rintro ⟨hrules, hdirectives⟩
    simp only [hlines] at hrules hdirectives
    exact ⟨hrules, hdirectives⟩
  · rintro ⟨hrules, hdirectives⟩
    simp only [← hlines] at hrules hdirectives
    exact ⟨hrules, hdirectives⟩

theorem registries (h : SameSections text text') {serial : Nat} {limits : Limits}
    {registry registry' : Registry}
    (hbuild : (Registry.build serial limits (Sections.parse text).1).2 = .ok registry)
    (hbuild' : (Registry.build serial limits (Sections.parse text').1).2 = .ok registry') :
    registry.Alike registry' := by
  obtain ⟨hserial, hlimits, hcontexts⟩ := Registry.of_build hbuild
  obtain ⟨hserial', hlimits', hcontexts'⟩ := Registry.of_build hbuild'
  refine ⟨hserial'.trans hserial.symm, hlimits'.trans hlimits.symm, ?_⟩
  intro name
  rw [Registry.get?_of_compileSections hcontexts', h name,
    ← Registry.get?_of_compileSections hcontexts]

/-- Both texts are ready to be loaded, with registries that agree by name and the same bindings, or
none of them is. -/
theorem prepare (h : SameSections text text') (router : Router) :
    ((∃ fault, (router.prepare text).2 = .error fault) ∧
      ∃ fault', (router.prepare text').2 = .error fault') ∨
    ∃ plan plan', (router.prepare text).2 = .ok plan ∧ (router.prepare text').2 = .ok plan' ∧
      plan.registry.Alike plan'.registry ∧ plan'.directives = plan.directives := by
  have hready := @Router.prepare_isOk_iff router text
  have hready' := @Router.prepare_isOk_iff router text'
  rw [h.isAccepted, ← hready] at hready'
  rcases hprepare : router.prepare text with ⟨events, result⟩
  rcases hprepare' : router.prepare text' with ⟨events', result'⟩
  rw [hprepare, hprepare'] at hready'
  cases result with
  | error fault =>
    cases result' with
    | error fault' => exact .inl ⟨⟨fault, rfl⟩, fault', rfl⟩
    | ok plan' => simp at hready'
  | ok plan =>
    cases result' with
    | error fault' => simp at hready'
    | ok plan' =>
      obtain ⟨hbuild, hlines⟩ := Router.of_prepare hprepare
      obtain ⟨hbuild', hlines'⟩ := Router.of_prepare hprepare'
      rw [(Router.sections_of_prepare hprepare).1] at hbuild hlines
      rw [(Router.sections_of_prepare hprepare').1] at hbuild' hlines'
      rw [h.linesOf, hlines] at hlines'
      exact .inr ⟨plan, plan', rfl, rfl, h.registries hbuild hbuild',
        (Except.ok.inj hlines').symm⟩

end SameSections

/-- Routers that have nothing loaded are in step when they have loaded two layouts of the same rules,
also if both loads have failed. -/
theorem SameSections.loadText {text text' : List Char} (h : SameSections text text')
    {settings : EngineSettings} {source source' : String} {result result' : Except Fault Sections}
    {a b : Router} (ha : (Router.start settings).loadText text source = (result, a))
    (hb : (Router.start settings).loadText text' source' = (result', b)) :
    result.isOk = result'.isOk ∧
      ∃ loads, loads.trail = a.trail ∧ loads.trail' = b.trail ∧ Parallel loads a b := by
  have hwarns := (Router.start settings).prepare_warns text
  have hwarns' := (Router.start settings).prepare_warns text'
  have hprepared := h.prepare (Router.start settings)
  rcases hprepare : (Router.start settings).prepare text with ⟨events, prepared⟩
  rcases hprepare' : (Router.start settings).prepare text' with ⟨events', prepared'⟩
  rw [hprepare] at hwarns hprepared
  rw [hprepare'] at hwarns' hprepared
  have hwarned := Router.absorbAll_of_warnings hwarns (Router.start settings)
  have hwarned' := Router.absorbAll_of_warnings hwarns' (Router.start settings)
  rcases hprepared with ⟨⟨fault, hfault⟩, fault', hfault'⟩ |
    ⟨plan, plan', hplan, hplan', halike, hdirectives⟩
  · simp only at hfault hfault'
    simp only [Router.loadText, hprepare, hfault, hwarned, Prod.mk.injEq] at ha
    simp only [Router.loadText, hprepare', hfault', hwarned', Prod.mk.injEq] at hb
    rcases ha with ⟨rfl, rfl⟩
    rcases hb with ⟨rfl, rfl⟩
    exact ⟨rfl, ⟨Registry.empty, Registry.empty, .refl _, _, _⟩, rfl, rfl,
      rfl, rfl, rfl, rfl, rfl, rfl, fun _ => .nil, [], by simp, by simp⟩
  · simp only at hplan hplan'
    simp only [Router.loadText, hprepare, hplan] at ha
    simp only [Router.loadText, hprepare', hplan'] at hb
    -- there is nothing to unload, so the rules are put up on empty buses
    have hready : Parallel ⟨plan.registry, plan'.registry, halike, events, events'⟩
        { ((Router.start settings).absorbAll events).unload with
          sections := plan.sections, registry := plan.registry, serial := plan.registry.serial }
        { ((Router.start settings).absorbAll events').unload with
          sections := plan'.sections, registry := plan'.registry
          serial := plan'.registry.serial } := by
      rw [hwarned, hwarned']
      exact ⟨rfl, rfl, rfl, rfl, rfl, rfl, fun _ => .nil, [], (List.append_nil events).symm,
        (List.append_nil events').symm⟩
    have hcommit := hready.commit hdirectives source source'
    rw [ha, hb] at hcommit
    exact hcommit

/-! ## What can be seen of a layout -/

/-- What a router delivers: a message at once, or as many as are asked for of those that wait. -/
inductive Delivering
  | dispatch (m : Message)
  | process (limit : Nat)

/-- What comes of it. -/
inductive Delivered
  | dispatched (delivery : Bus.Delivery)
  | processed (messages : List Message)

def Delivering.run (around : Surroundings) (router : Router) : Delivering → Delivered × Router
  | .dispatch m =>
    let (delivery, router) := router.dispatch around m
    (.dispatched delivery, router)
  | .process limit =>
    let (messages, router) := router.processPending around limit
    (.processed messages, router)

def Delivering.runAll : List (Surroundings × Delivering) → Router → List Delivered × Router
  | [], router => ([], router)
  | (around, delivering) :: rest, router =>
    let (delivered, router) := delivering.run around router
    let (others, router) := runAll rest router
    (delivered :: others, router)

namespace Parallel

variable {loads : TwoLoads} {a b : Router}

theorem run (h : Parallel loads a b) (around : Surroundings) (delivering : Delivering) :
    (delivering.run around a).1 = (delivering.run around b).1 ∧
      Parallel loads (delivering.run around a).2 (delivering.run around b).2 := by
  cases delivering with
  | dispatch m =>
    rcases h.dispatch around m with ⟨hdelivery, hafter⟩
    exact ⟨congrArg Delivered.dispatched hdelivery, hafter⟩
  | process limit =>
    rcases h.processPending around limit with ⟨hmessages, hafter⟩
    exact ⟨congrArg Delivered.processed hmessages, hafter⟩

theorem runAll (h : Parallel loads a b) (deliveries : List (Surroundings × Delivering)) :
    (Delivering.runAll deliveries a).1 = (Delivering.runAll deliveries b).1 ∧
      Parallel loads (Delivering.runAll deliveries a).2 (Delivering.runAll deliveries b).2 := by
  induction deliveries generalizing a b with
  | nil => exact ⟨rfl, h⟩
  | cons first rest ih =>
    rcases first with ⟨around, delivering⟩
    rcases h.run around delivering with ⟨hdelivered, hafter⟩
    rcases ih hafter with ⟨hothers, hlast⟩
    simp only [Delivering.runAll]
    exact ⟨by rw [hdelivered, hothers], hlast⟩

end Parallel

/-- The context of a section is found in the registry of the sections, with the rules that its lines
compile to. -/
theorem Registry.context?_of_section {serial : Nat} {limits : Limits} {sections : Sections}
    {registry : Registry} (h : (build serial limits sections).2 = .ok registry) {name : String}
    {lines : List (List Char)} (hname : name ≠ installSection)
    (hlines : sections.get? name = some lines) :
    ∃ rules, (Rule.compileAll lines).2 = .ok rules ∧
      registry.context? name = some ⟨name, rules, registry⟩ := by
  obtain ⟨-, -, hcontexts⟩ := of_build h
  have haccepted := compileSections_isOk_iff.1 ⟨_, hcontexts⟩ (name, lines)
    (Entries.mem_of_get? hlines) hname
  obtain ⟨rules, hrules⟩ := Rule.compileAll_isOk_iff.2 haccepted
  have hget : registry.contexts.get? name = some rules := by
    simp [get?_of_compileSections hcontexts, hname, hlines, hrules, Except.toOption]
  exact ⟨rules, hrules, by rw [context?, hget, Option.map_some]⟩

/-- A load leaves the registry that there was, or puts up the one of its sections. -/
theorem Router.registry_loadText (router : Router) (text : List Char) (source : String) :
    (router.loadText text source).2.registry = router.registry ∨
      (Registry.build (router.serial + 1) router.limits (Sections.parse text).1).2 =
        .ok (router.loadText text source).2.registry := by
  rcases hprepare : router.prepare text with ⟨events, result⟩
  cases result with
  | error fault =>
    rcases router.absorbAll_eq events with ⟨queue, trail, hevents⟩
    exact .inl (by simp only [loadText, hprepare, hevents])
  | ok plan =>
    have hregistry : ((router.absorbAll events).commit plan source).2.registry = plan.registry :=
      congrArg Loaded.registry ((router.absorbAll events).loaded_commit plan source)
    have hbuild := (of_prepare hprepare).1
    rw [(sections_of_prepare hprepare).1, ← hregistry] at hbuild
    exact .inr (by simpa only [loadText, hprepare] using hbuild)

/-- Two texts with the same lines for every section name, loaded into new routers with the same
settings, cannot be told apart by deliveries: the messages are the same, and so is what waits in the
queue and what is told of them. In each of the two, a context on the bus finds the contexts of all
sections, wherever these stand in the text. -/
theorem layout_does_not_show {text text' : List Char} (h : SameSections text text')
    {settings : EngineSettings} {source source' : String} {result result' : Except Fault Sections}
    {a b : Router} (ha : (Router.start settings).loadText text source = (result, a))
    (hb : (Router.start settings).loadText text' source' = (result', b))
    (deliveries : List (Surroundings × Delivering)) :
    result.isOk = result'.isOk ∧
    (Delivering.runAll deliveries a).1 = (Delivering.runAll deliveries b).1 ∧
    (Delivering.runAll deliveries a).2.bus.queue = (Delivering.runAll deliveries b).2.bus.queue ∧
    (∃ events, (Delivering.runAll deliveries a).2.trail = a.trail ++ events ∧
      (Delivering.runAll deliveries b).2.trail = b.trail ++ events) ∧
    ∀ name, ∀ s ∈ a.bus.handlers name, ∃ c, s.handler = .context c ∧
      ∀ callee lines, callee ≠ installSection → (Sections.parse text).1.get? callee = some lines →
        ∃ rules, (Rule.compileAll lines).2 = .ok rules ∧
          c.registry.context? callee = some ⟨callee, rules, c.registry⟩ := by
  rcases h.loadText ha hb with ⟨hok, loads, htrail, htrail', hparallel⟩
  rcases hparallel.runAll deliveries with ⟨hdelivered, hafter⟩
  refine ⟨hok, hdelivered, hafter.queue.symm, by rw [← htrail, ← htrail']; exact hafter.trail, ?_⟩
  intro name s hs
  -- a router is in step with itself, so what is on its bus are contexts of its registry
  have hsame : SameSections text text := fun _ => rfl
  rcases hsame.loadText ha ha with ⟨-, loads, -, -, hself⟩
  obtain ⟨place, c, -, hc, -, hhandler, -⟩ :=
    (List.forall₂_same.1 (hself.handlers name) s hs).contexts
  have hregistry := (Registry.of_context? hc).1
  refine ⟨c, hhandler, ?_⟩
  intro callee lines hcallee hlines
  rcases (Router.start settings).registry_loadText text source with hempty | hbuild
  · rw [ha, hself.registry] at hempty
    simp [hempty, Router.start, Registry.context?, Registry.empty, Entries.get?] at hc
  · rw [ha, hself.registry, ← hregistry] at hbuild
    exact Registry.context?_of_section hbuild hcallee hlines

/-- The text of rules with a context that calls another one behind it. -/
def calleeBehind : List Char :=
  ['[', 'i', 'n', 's', 't', 'a', 'l', 'l', ']', '\n', 'm', '=', '\n', '[', 'm', ']', '\n', 'c', 'a',
    'l', 'l', ' ', 'a', '\n', 'r', 'e', 't', 'u', 'r', 'n', ' ', 'x', '\n', '[', 'a', ']', '\n',
    'e', 'c', 'h', 'o', ' ', 'h', 'i', '\n']

/-- The same rules in other places: the header of the called context stands in front, and all sections
are split. -/
def calleeInFront : List Char :=
  ['[', 'a', ']', '\n', '[', 'm', ']', '\n', 'c', 'a', 'l', 'l', ' ', 'a', '\n', '[', 'i', 'n', 's',
    't', 'a', 'l', 'l', ']', '\n', 'm', '=', '\n', '[', 'a', ']', '\n', 'e', 'c', 'h', 'o', ' ',
    'h', 'i', '\n', '[', 'm', ']', '\n', 'r', 'e', 't', 'u', 'r', 'n', ' ', 'x', '\n']

/-- The router that has loaded a text. -/
def Router.ofText (text : List Char) : Router :=
  ((Router.start .standard).loadText text "t").2

/-- The raw output of a delivery to a router with a text. -/
def outputOf (text : List Char) (delivery : Surroundings × Delivering) : List String :=
  (Delivering.runAll [delivery] (Router.ofText text)).2.trail.filterMap fun event =>
    match event with
    | .raw output => some output
    | _ => none

/-- A message that both texts bind. -/
def greeting : Surroundings × Delivering :=
  (.empty, .dispatch (.fresh "m" [] Source.still.now))

theorem place_of_callee_does_not_show :
    SameSections calleeBehind calleeInFront ∧
    outputOf calleeBehind greeting = ["hi"] ∧
    outputOf calleeInFront greeting = ["hi"] ∧
    (Delivering.runAll [greeting] (Router.ofText calleeBehind)).1 =
      (Delivering.runAll [greeting] (Router.ofText calleeInFront)).1 := by
  have hsame : SameSections calleeBehind calleeInFront := by
    have hbehind : (Sections.parse calleeBehind).1 = [("install", [['m', '=']]),
        ("m", [['c', 'a', 'l', 'l', ' ', 'a'], ['r', 'e', 't', 'u', 'r', 'n', ' ', 'x']]),
        ("a", [['e', 'c', 'h', 'o', ' ', 'h', 'i']])] := by decide +kernel
    have hinfront : (Sections.parse calleeInFront).1 = [("install", [['m', '=']]),
        ("a", [['e', 'c', 'h', 'o', ' ', 'h', 'i']]),
        ("m", [['c', 'a', 'l', 'l', ' ', 'a'], ['r', 'e', 't', 'u', 'r', 'n', ' ', 'x']])] := by
      decide +kernel
    intro name
    rw [hbehind, hinfront]
    by_cases ha : "a" = name
    · subst ha
      rfl
    · simp only [Entries.get?, if_neg ha]
  have houtput : outputOf calleeBehind greeting = ["hi"] := by decide +kernel
  have houtput' : outputOf calleeInFront greeting = ["hi"] := by decide +kernel
  have hbehind : (Router.start .standard).loadText calleeBehind "t" =
      (((Router.start .standard).loadText calleeBehind "t").1, Router.ofText calleeBehind) := rfl
  have hinfront : (Router.start .standard).loadText calleeInFront "t" =
      (((Router.start .standard).loadText calleeInFront "t").1, Router.ofText calleeInFront) := rfl
  exact ⟨hsame, houtput, houtput',
    (layout_does_not_show hsame hbehind hinfront [greeting]).2.1⟩

end Switchboard
