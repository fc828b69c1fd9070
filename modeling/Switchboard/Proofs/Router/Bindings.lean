import Switchboard.Proofs.Bus.Order
import Switchboard.Proofs.Router.Stability
import Switchboard.Proofs.Router.Unloading
import Switchboard.Proofs.Value.Writable

/-!
# Putting bindings on the bus

A router notes the bindings of its rules, and the bus holds a subscription for each. `Matches` says
that the two agree: a message name has the subscriptions of contexts that its bindings stand for,
one for one, in the order of priority and then in the order in which they were put up.

A binding that is put up adds one subscription, which goes behind its equals (`matches_install`).
All bindings of a load are put up in their order (`Router.bindAll_eq`), and none is refused if their
priorities are integers that can be written.
-/

namespace Switchboard

open Bus (Counted)

/-! ## What a binding stands for -/

/-- The subscriptions of contexts to a message name, in the order of delivery. -/
def Bus.routes (bus : Bus Handler) (name : String) : List (Subscription Handler) :=
  (bus.handlers name).filter fun s => s.handler.isContext

/-- The priority of a binding as a number. -/
def Directive.level (d : Directive) : Int :=
  match d.priority with
  | .int n => n
  | _ => 0

/-- The bindings of a message name by priority; those of one priority are in the order in which they
were put up. -/
def bindingsOf (bindings : List Directive) (name : String) : List Directive :=
  (bindings.filter fun d => d.messageName == name).insertionSort fun a b => a.level ≤ b.level

/-- A subscription does what a binding says: it is one of the message name at the priority, and its
handler is the context that the registry holds under the name of the context. -/
structure Carries (registry : Registry) (s : Subscription Handler) (d : Directive) : Prop where
  name : s.name = d.messageName
  priority : d.priority = .int s.priority
  context : ∃ c, registry.context? d.contextName = some c ∧ s.handler = .context c

/-- The contexts on the bus are those of the bindings, one for one and in the order of delivery. -/
def Matches (registry : Registry) (bindings : List Directive) (bus : Bus Handler) : Prop :=
  ∀ name, List.Forall₂ (Carries registry) (bus.routes name) (bindingsOf bindings name)

theorem Carries.level {registry : Registry} {s : Subscription Handler} {d : Directive}
    (h : Carries registry s d) : d.level = s.priority := by
  rw [Directive.level, h.priority]

/-- Every context on the bus is there for a binding. -/
theorem Matches.exists_binding {registry : Registry} {bindings : List Directive}
    {bus : Bus Handler} (h : Matches registry bindings bus) {name : String}
    {s : Subscription Handler} (hs : s ∈ bus.routes name) :
    ∃ d ∈ bindings, Carries registry s d := by
  have hcarried : ∀ {subs ds}, List.Forall₂ (Carries registry) subs ds → s ∈ subs →
      ∃ d ∈ ds, Carries registry s d := by
    intro subs ds hall hs
    induction hall with
    | nil => cases hs
    | cons hfirst _ ih =>
      rcases List.mem_cons.1 hs with rfl | hs
      · exact ⟨_, List.mem_cons_self, hfirst⟩
      · rcases ih hs with ⟨d, hd, hcarries⟩
        exact ⟨d, List.mem_cons_of_mem _ hd, hcarries⟩
  rcases hcarried (h name) hs with ⟨d, hd, hcarries⟩
  rw [bindingsOf, List.mem_insertionSort, List.mem_filter] at hd
  exact ⟨d, hd.1, hcarries⟩

/-- A subscription with the greatest number takes the place that its binding takes. -/
theorem forall₂_insert {registry : Registry} {s : Subscription Handler} {d : Directive}
    {subs : List (Subscription Handler)} {ds : List Directive} (hs : Carries registry s d)
    (h : List.Forall₂ (Carries registry) subs ds)
    (hnumber : ∀ t ∈ subs, t.sequence < s.sequence) :
    List.Forall₂ (Carries registry) (s.insert subs) (insertBehind Directive.level d ds) := by
  -- both go in front of the first of a greater priority: an equal one has the smaller number
  induction h with
  | nil => exact .cons hs .nil
  | @cons t e subs ds hfirst hrest ih =>
    have hprecedes := (Subscription.precedes_of_sequence_lt (hnumber t List.mem_cons_self)).1
    rw [← hs.level, ← hfirst.level] at hprecedes
    by_cases hlevel : d.level < e.level
    · rw [Subscription.insert, if_pos (hprecedes.2 hlevel), insertBehind, if_pos hlevel]
      exact .cons hs (.cons hfirst hrest)
    · rw [Subscription.insert, if_neg fun h => hlevel (hprecedes.1 h), insertBehind, if_neg hlevel]
      exact .cons hfirst (ih fun t ht => hnumber t (List.mem_cons_of_mem _ ht))

/-! ## Changes of the bus -/

namespace Bus

theorem handlers_install_int (bus : Bus Handler) (name other : String) (handler : Handler)
    (n : Int) :
    (bus.install name (some handler) (.int n)).2.handlers other =
      if other = name then
        Subscription.insert ⟨n, bus.sequence + 1, name, handler⟩ (bus.handlers name)
      else bus.handlers other :=
  handlers_install_of_ok bus name other handler rfl

theorem routes_install_of_not_context (bus : Bus Handler) (name other : String)
    {handler? : Option Handler} (h : ∀ c, handler? ≠ some (.context c)) (priority : Value) :
    (bus.install name handler? priority).2.routes other = bus.routes other := by
  rcases install_cases bus name handler? priority with
    ⟨-, -, hhandlers⟩ | ⟨handler, number, hhandler, -, -, -, hhandlers⟩
  · rw [routes, hhandlers, routes]
  · have hkind : handler.isContext = false := by
      cases handler with
      | context c => exact absurd hhandler (h c)
      | commandHook => rfl
      | haltHook => rfl
      | listener l => rfl
    rw [routes, hhandlers, routes]
    by_cases hother : other = name
    · simp only [hother, if_true]
      exact Subscription.filter_insert (by simpa using hkind) _
    · simp only [hother, if_false]

theorem routes_uninstall_of_not_context (bus : Bus Handler) (name other : String)
    {chosen : Handler → Bool} (h : ∀ c, chosen (.context c) = false) :
    (bus.uninstall name chosen).2.routes other = bus.routes other := by
  rw [routes, handlers_uninstall, routes]
  by_cases hother : other = name
  · simp only [hother, if_true, List.filter_filter]
    refine List.filter_congr ?_
    intro s _
    cases hhandler : s.handler with
    | context c => simp [Handler.isContext, h c]
    | commandHook => simp [Handler.isContext]
    | haltHook => simp [Handler.isContext]
    | listener l => simp [Handler.isContext]
  · simp only [hother, if_false]

end Bus

/-- A context that is installed for a binding goes where the binding goes. -/
theorem matches_install {registry : Registry} {bindings : List Directive} {bus : Bus Handler}
    {d : Directive} {n : Int} {c : Context} (hcounted : Counted bus) (hordered : bus.Ordered)
    (h : Matches registry bindings bus) (hpriority : d.priority = .int n)
    (hcontext : registry.context? d.contextName = some c) :
    Matches registry (bindings ++ [d])
      (bus.install d.messageName (some (.context c)) (.int n)).2 := by
  -- on either side only the message name of the binding changes
  intro name
  rw [Bus.routes, Bus.handlers_install_int, bindingsOf, List.filter_append]
  by_cases hname : name = d.messageName
  · subst hname
    have hcarries : Carries registry ⟨n, bus.sequence + 1, d.messageName, .context c⟩ d :=
      ⟨rfl, hpriority, c, hcontext, rfl⟩
    have hnumber : ∀ t ∈ bus.routes d.messageName, t.sequence < bus.sequence + 1 := by
      intro t ht
      exact Nat.lt_succ_of_le (hcounted d.messageName t (List.mem_filter.1 ht).1)
    have hlast : ([d].filter fun e => e.messageName == d.messageName) = [d] := by simp
    rw [if_pos rfl, Subscription.filter_insert_of_pos rfl (hordered d.messageName), hlast,
      insertionSort_concat]
    exact forall₂_insert hcarries (h d.messageName) hnumber
  · have hlast : ([d].filter fun e => e.messageName == name) = [] := by simpa using Ne.symm hname
    rw [if_neg hname, hlast, List.append_nil]
    exact h name

/-! ## Directives of install lines -/

theorem Directive.isWritableInteger_of_parse {default : Value} {line : List Char} {d : Directive}
    (hdefault : default.IsWritableInteger) (h : Directive.parse default line = .ok (some d)) :
    d.priority.IsWritableInteger := by
  have hread : ∀ digits priority, readPriority default digits = .ok priority →
      priority.IsWritableInteger := by
    intro digits priority hpriority
    unfold readPriority at hpriority
    split at hpriority
    · cases hpriority
      exact hdefault
    · split at hpriority
      case h_1 n hn =>
        cases hpriority
        exact ⟨n, rfl, Value.isWritable_of_readInteger hn⟩
      case h_2 => cases hpriority
  unfold parse at h
  simp only at h
  split at h
  · split at h
    · cases h
    · split at h
      · cases h
      · next digits context _ =>
        cases hpriority : readPriority default digits with
        | error fault => simp [hpriority, Except.map] at h
        | ok priority =>
          simp only [hpriority, Except.map, Except.ok.injEq, Option.some.injEq] at h
          rw [← h]
          exact hread digits priority hpriority
  · cases h

namespace Router

theorem isWritableInteger_of_readDirectives {default : Value}
    (hdefault : default.IsWritableInteger) {lines : List (List Char)} {ds : List Directive}
    (h : (readDirectives default lines).2 = .ok ds) :
    ∀ d ∈ ds, d.priority.IsWritableInteger := by
  induction lines generalizing ds with
  | nil =>
    cases h
    simp
  | cons line rest ih =>
    cases hparse : Directive.parse default line with
    | error fault => simp [readDirectives, hparse] at h
    | ok parsed =>
      cases parsed with
      | none => exact ih (by simpa [readDirectives, hparse] using h)
      | some d =>
        cases hrest : (readDirectives default rest).2 with
        | error fault => simp [readDirectives, hparse, hrest, Except.map] at h
        | ok tail =>
          have hds : d :: tail = ds := by
            simpa [readDirectives, hparse, hrest, Except.map] using h
          rw [← hds]
          intro e he
          rcases List.mem_cons.1 he with rfl | he
          · exact Directive.isWritableInteger_of_parse hdefault hparse
          · exact ih hrest e he

/-- Rules that are ready have a registry that was built for the router, and the directives of their
install lines. -/
theorem of_prepare {router : Router} {text : List Char} {events : List Event} {plan : Plan}
    (h : router.prepare text = (events, .ok plan)) :
    (Registry.build (router.serial + 1) router.limits plan.sections).2 = .ok plan.registry ∧
      (readDirectives router.settings.defaultPriority
        (plan.sections.linesOf installSection)).2 = .ok plan.directives := by
  rcases hparse : Sections.parse text with ⟨sections, strays⟩
  rcases hbuild : Registry.build (router.serial + 1) router.limits sections with
    ⟨warnings, result⟩
  cases result with
  | error fault => simp [prepare, hparse, hbuild] at h
  | ok registry =>
    rcases hlines : readDirectives router.settings.defaultPriority
      (sections.linesOf installSection) with ⟨more, result⟩
    cases result with
    | error fault => simp [prepare, hparse, hbuild, Except.map, hlines] at h
    | ok directives =>
      simp only [prepare, hparse, hbuild, Except.map, hlines, Prod.mk.injEq,
        Except.ok.injEq] at h
      rw [← h.2]
      exact ⟨by rw [hbuild], by rw [hlines]⟩

/-- They are made of the sections of the text, and the warnings about its install lines are among
those that are given. -/
theorem sections_of_prepare {router : Router} {text : List Char} {events : List Event} {plan : Plan}
    (h : router.prepare text = (events, .ok plan)) :
    plan.sections = (Sections.parse text).1 ∧
      ∀ event ∈ (readDirectives router.settings.defaultPriority
        (plan.sections.linesOf installSection)).1, event ∈ events := by
  rcases hparse : Sections.parse text with ⟨sections, strays⟩
  rcases hbuild : Registry.build (router.serial + 1) router.limits sections with
    ⟨warnings, result⟩
  cases result with
  | error fault => simp [prepare, hparse, hbuild] at h
  | ok registry =>
    rcases hlines : readDirectives router.settings.defaultPriority
      (sections.linesOf installSection) with ⟨more, result⟩
    cases result with
    | error fault => simp [prepare, hparse, hbuild, Except.map, hlines] at h
    | ok directives =>
      simp only [prepare, hparse, hbuild, Except.map, hlines, Prod.mk.injEq,
        Except.ok.injEq] at h
      rcases h with ⟨rfl, rfl⟩
      exact ⟨rfl, fun event hevent => List.mem_append_right _ (by simpa [hlines] using hevent)⟩

/-- A line is read as one of the directives, or it is warned about. -/
theorem readDirectives_of_mem {default : Value} {lines : List (List Char)} {ds : List Directive}
    (h : (readDirectives default lines).2 = .ok ds) {line : List Char} (hline : line ∈ lines) :
    (∃ d ∈ ds, Directive.parse default line = .ok (some d)) ∨
      Directive.parse default line = .ok none ∧
        malformedWarning line ∈ (readDirectives default lines).1 := by
  induction lines generalizing ds with
  | nil => cases hline
  | cons first rest ih =>
    cases hparse : Directive.parse default first with
    | error fault => simp [readDirectives, hparse] at h
    | ok parsed =>
      cases parsed with
      | none =>
        simp only [readDirectives, hparse] at h ⊢
        rcases List.mem_cons.1 hline with rfl | hrest
        · exact .inr ⟨hparse, List.mem_cons_self⟩
        · rcases ih h hrest with hread | ⟨hnone, hwarned⟩
          · exact .inl hread
          · exact .inr ⟨hnone, List.mem_cons_of_mem _ hwarned⟩
      | some d =>
        simp only [readDirectives, hparse] at h ⊢
        cases htail : (readDirectives default rest).2 with
        | error fault => simp [htail, Except.map] at h
        | ok tail =>
          have hds : d :: tail = ds := by simpa [htail, Except.map] using h
          rw [← hds]
          rcases List.mem_cons.1 hline with rfl | hrest
          · exact .inl ⟨d, List.mem_cons_self, hparse⟩
          · rcases ih htail hrest with ⟨e, he, hread⟩ | hwarned
            · exact .inl ⟨e, List.mem_cons_of_mem d he, hread⟩
            · exact .inr hwarned

/-! ## Putting bindings up -/

/-- Whether the loaded rules have the context of a binding. -/
def hasContextOf (router : Router) (d : Directive) : Bool :=
  (router.context? d.contextName).isSome

/-- A binding whose context does not exist is skipped. Any other one goes on the bus and is noted,
if its priority is an integer that can be written. -/
theorem bind_of_writable (router : Router) {d : Directive} (h : d.priority.IsWritableInteger) :
    (router.hasContextOf d = false ∧ router.bind d = (.ok router, router)) ∨
    ∃ c, router.registry.context? d.contextName = some c ∧ router.hasContextOf d = true ∧
      router.bind d = (.ok (router.withBinding d c), router.withBinding d c) := by
  rcases router.bind_cases d with ⟨hcontext, hbind⟩ | ⟨c, hcontext, ⟨fault, hfault, -⟩ | hbind⟩
  · exact .inl ⟨by simp [hasContextOf, hcontext], hbind⟩
  · -- the bus has no fault with such a priority
    rcases h with ⟨n, hpriority, hwritable⟩
    rw [hpriority] at hwritable hfault
    simp [Bus.install, Value.toInteger, Bus.noteFault?, hwritable] at hfault
  · exact .inr ⟨c, hcontext, by simp [hasContextOf, hcontext], hbind⟩

/-- No binding is refused for its priority if this is an integer that can be written. -/
theorem bindAll_ok {ds : List Directive} (hds : ∀ d ∈ ds, d.priority.IsWritableInteger)
    (router : Router) : (router.bindAll ds).1 = none := by
  induction ds generalizing router with
  | nil => rfl
  | cons d rest ih =>
    have hrest := fun e he => hds e (List.mem_cons_of_mem d he)
    rcases router.bind_of_writable (hds d List.mem_cons_self) with
      ⟨-, hbind⟩ | ⟨c, -, -, hbind⟩
    · simp only [bindAll, hbind]
      exact ih hrest router
    · simp only [bindAll, hbind]
      exact ih hrest (router.withBinding d c)

/-- All bindings whose contexts exist go on the bus, in their order, and are noted. -/
theorem bindAll_eq (router : Router) {ds : List Directive}
    (hds : ∀ d ∈ ds, d.priority.IsWritableInteger) (hcounted : Counted router.bus)
    (hordered : router.bus.Ordered)
    (h : Matches router.registry router.bindings router.bus) :
    ∃ bus trail,
      router.bindAll ds = (none,
        { router with
          bus := bus
          bindings := router.bindings ++ ds.filter router.hasContextOf
          trail := trail }) ∧
      Counted bus ∧ bus.Ordered ∧
      Matches router.registry (router.bindings ++ ds.filter router.hasContextOf) bus := by
  induction ds generalizing router with
  | nil =>
    refine ⟨router.bus, router.trail, ?_, hcounted, hordered, ?_⟩
    · simp [bindAll]
    · simpa using h
  | cons d rest ih =>
    have hrest := fun e he => hds e (List.mem_cons_of_mem d he)
    rcases router.bind_of_writable (hds d List.mem_cons_self) with
      ⟨hskipped, hbind⟩ | ⟨c, hcontext, hput, hbind⟩
    · rcases ih router hrest hcounted hordered h with ⟨bus, trail, hall, hinv⟩
      rw [List.filter_cons_of_neg (by simp [hskipped])]
      exact ⟨bus, trail, by simp only [bindAll, hbind, hall], hinv⟩
    · -- the rest is bound by a router that has the same registry and one binding more
      rcases hds d List.mem_cons_self with ⟨n, hpriority, -⟩
      have hmatches' : Matches (router.withBinding d c).registry (router.withBinding d c).bindings
          (router.withBinding d c).bus := by
        have hinstalled := matches_install hcounted hordered h hpriority hcontext
        rw [← hpriority] at hinstalled
        exact hinstalled
      have hcounted' : Counted (router.withBinding d c).bus :=
        Bus.counted_apply (.install d.messageName (some (Handler.context c)) d.priority) hcounted
      have hordered' : (router.withBinding d c).bus.Ordered :=
        Bus.ordered_apply (.install d.messageName (some (Handler.context c)) d.priority) hcounted
          hordered
      have hnext := ih (router.withBinding d c) hrest hcounted' hordered' hmatches'
      rcases hnext with ⟨bus, trail, hall, hinv⟩
      have happend : router.bindings ++ (d :: rest).filter router.hasContextOf =
          (router.withBinding d c).bindings ++ rest.filter router.hasContextOf := by
        have hbindings : (router.withBinding d c).bindings = router.bindings ++ [d] := rfl
        rw [List.filter_cons_of_pos hput, hbindings, List.append_assoc, List.singleton_append]
      rw [happend]
      refine ⟨bus, trail, ?_, hinv⟩
      simp only [bindAll, hbind]
      exact hall

end Router
end Switchboard
