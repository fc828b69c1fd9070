import Switchboard.Proofs.Router.Routes

/-!
# Loads that fail

A load reads, compiles and resolves everything before it takes the loaded rules down. So a load that
fails leaves the rules, the bindings, the bus and its queue as they were, and only the warnings
about the text are in the log (`failed_load_changes_nothing`).

What comes after the taking down is the putting up of the new bindings. It has to succeed, and it
does if the default priority is an integer that can be written (`Router.commit_ok`). With a longer
one the old rules are gone when the load fails (`long_priority_drops_rules`).
-/

namespace Switchboard

/-! ## Warnings -/

/-- A warning about a text of rules. -/
def Event.IsWarning : Event → Prop
  | .log .warning .rules _ => True
  | _ => False

theorem Sections.sortLines_warns (lines : List (List Char)) (number : Nat)
    (current : Option String) (sections : Sections) :
    ∀ event ∈ (sortLines number current sections lines).2, event.IsWarning := by
  induction lines generalizing number current sections with
  | nil => simp [sortLines]
  | cons line rest ih =>
    cases hkind : LineKind.ofLine line with
    | header name =>
      simp only [sortLines, hkind]
      exact ih (number + 1) (some name) (opened name sections)
    | skipped =>
      simp only [sortLines, hkind]
      exact ih (number + 1) current sections
    | content =>
      cases current with
      | some name =>
        simp only [sortLines, hkind]
        exact ih (number + 1) (some name) (append name line sections)
      | none =>
        simp only [sortLines, hkind]
        intro event hevent
        rcases List.mem_cons.1 hevent with rfl | hevent
        · trivial
        · exact ih (number + 1) none sections event hevent

namespace Rule

theorem compile_warns (line : List Char) : ∀ event ∈ (compile line).1, event.IsWarning := by
  have hpattern : ∀ command events, checkPattern command = .ok events →
      ∀ event ∈ events, event.IsWarning := by
    intro command events hcheck
    unfold checkPattern at hcheck
    split at hcheck
    · simp only at hcheck
      split at hcheck
      · cases hcheck
        simp
      · cases hcheck
        simp [patternWarning, Event.IsWarning]
      · cases hcheck
    · cases hcheck
      simp
  -- the line may fit no grammar, and its pattern may be none
  have hline : ∀ event ∈ (if Command.parse line = Command.empty && !Text.allBlank line
      then [misfitWarning line] else []), event.IsWarning := by
    intro event hevent
    split at hevent
    · rw [List.mem_singleton.1 hevent]
      trivial
    · cases hevent
  cases hcheck : checkPattern (complete (Command.parse line)) with
  | error fault => simpa only [compile, hcheck] using hline
  | ok more =>
    simp only [compile, hcheck]
    intro event hevent
    rcases List.mem_append.1 hevent with hevent | hevent
    · exact hline event hevent
    · exact hpattern _ _ hcheck event hevent

theorem compileAll_warns (lines : List (List Char)) :
    ∀ event ∈ (compileAll lines).1, event.IsWarning := by
  induction lines with
  | nil => simp [compileAll]
  | cons line rest ih =>
    have hline := compile_warns line
    rcases hcompile : compile line with ⟨events, result⟩
    rw [hcompile] at hline
    cases result with
    | error fault => simpa only [compileAll, hcompile] using hline
    | ok rule =>
      simp only [compileAll, hcompile]
      intro event hevent
      rcases List.mem_append.1 hevent with hevent | hevent
      · exact hline event hevent
      · exact ih event hevent

end Rule

theorem Registry.compileSections_warns (sections : Sections) :
    ∀ event ∈ (compileSections sections).1, event.IsWarning := by
  induction sections with
  | nil => simp [compileSections]
  | cons first rest ih =>
    rcases first with ⟨name, lines⟩
    by_cases hinstall : name = installSection
    · simpa only [compileSections, hinstall, if_true] using ih
    · have hrules := Rule.compileAll_warns lines
      rcases hcompile : Rule.compileAll lines with ⟨events, result⟩
      rw [hcompile] at hrules
      cases result with
      | error fault => simpa only [compileSections, hinstall, if_false, hcompile] using hrules
      | ok rules =>
        simp only [compileSections, hinstall, if_false, hcompile]
        intro event hevent
        rcases List.mem_append.1 hevent with hevent | hevent
        · exact hrules event hevent
        · exact ih event hevent

namespace Router

theorem readDirectives_warns (default : Value) (lines : List (List Char)) :
    ∀ event ∈ (readDirectives default lines).1, event.IsWarning := by
  induction lines with
  | nil => simp [readDirectives]
  | cons line rest ih =>
    rw [readDirectives]
    split
    · simp
    · intro event hevent
      rcases List.mem_cons.1 hevent with rfl | hevent
      · trivial
      · exact ih event hevent
    · exact ih

/-- Reading and compiling rules gives warnings about them, also where it fails. -/
theorem prepare_warns (router : Router) (text : List Char) :
    ∀ event ∈ (router.prepare text).1, event.IsWarning := by
  have hstrays : ∀ event ∈ (Sections.parse text).2, event.IsWarning :=
    Sections.sortLines_warns _ _ _ _
  have hrules := Registry.compileSections_warns (Sections.parse text).1
  have hlines := readDirectives_warns router.settings.defaultPriority
    ((Sections.parse text).1.linesOf installSection)
  rcases hcompile : Registry.compileSections (Sections.parse text).1 with ⟨warnings, result⟩
  rw [hcompile] at hrules
  intro event hevent
  cases result with
  | error fault =>
    simp only [prepare, Registry.build, hcompile, Except.map, List.mem_append] at hevent
    rcases hevent with hevent | hevent
    · exact hstrays event hevent
    · exact hrules event hevent
  | ok contexts =>
    simp only [prepare, Registry.build, hcompile, Except.map, List.mem_append] at hevent
    rcases hevent with (hevent | hevent) | hevent
    · exact hstrays event hevent
    · exact hrules event hevent
    · exact hlines event hevent

/-- Warnings go to the trail and nowhere else. -/
theorem absorbAll_of_warnings {events : List Event} (h : ∀ event ∈ events, event.IsWarning)
    (router : Router) :
    router.absorbAll events = { router with trail := router.trail ++ events } := by
  induction events generalizing router with
  | nil => simp [absorbAll]
  | cons event rest ih =>
    have hfirst : router.absorb event = { router with trail := router.trail ++ [event] } := by
      have hwarning := h event List.mem_cons_self
      cases event with
      | log severity origin text => rfl
      | raw text => exact hwarning.elim
      | enqueue m => exact hwarning.elim
      | error args => exact hwarning.elim
      | info args => exact hwarning.elim
      | handler label name => exact hwarning.elim
    have hcons : router.absorbAll (event :: rest) = (router.absorb event).absorbAll rest := rfl
    rw [hcons, hfirst, ih fun e he => h e (List.mem_cons_of_mem _ he), List.append_assoc,
      List.singleton_append]

/-! ## Where a load can fail -/

/-- Prepared rules whose priorities are integers that can be written are put up without fail. -/
theorem commit_ok (router : Router) {plan : Plan}
    (h : ∀ d ∈ plan.directives, d.priority.IsWritableInteger) (source : String) :
    (router.commit plan source).1 = .ok plan.sections := by
  have hnone := bindAll_ok h
    { router.unload with
      sections := plan.sections, registry := plan.registry, serial := plan.registry.serial }
  rcases hall : bindAll { router.unload with
      sections := plan.sections, registry := plan.registry, serial := plan.registry.serial }
    plan.directives with ⟨fault?, bound⟩
  rw [hall] at hnone
  have hnone : fault? = none := hnone
  simp only [commit, hall, hnone]

/-- A text that cannot be loaded leaves warnings in the log. -/
theorem loadText_error {router : Router} (hdefault : router.settings.defaultPriority.IsWritableInteger)
    {text : List Char} {source : String} {fault : Fault}
    (h : (router.loadText text source).1 = .error fault) :
    ∃ warnings : List Event, (∀ event ∈ warnings, event.IsWarning) ∧
      (router.loadText text source).2 = { router with trail := router.trail ++ warnings } := by
  have hwarns := router.prepare_warns text
  rcases hprepare : router.prepare text with ⟨events, result⟩
  rw [hprepare] at hwarns
  have hwarned := absorbAll_of_warnings hwarns router
  -- only preparing can fail, and it does not touch the router
  cases result with
  | error refused => exact ⟨events, hwarns, by simp only [loadText, hprepare, hwarned]⟩
  | ok plan =>
    -- the rules are ready, and what is ready is put up
    have hwritable := isWritableInteger_of_readDirectives hdefault
      (of_prepare hprepare).2
    have hok := (router.absorbAll events).commit_ok hwritable source
    simp [loadText, hprepare, hok] at h

/-- A file that cannot be loaded leaves warnings in the log. -/
theorem load_error {router : Router} (hdefault : router.settings.defaultPriority.IsWritableInteger)
    {around : Surroundings} {path? : Option String} {fault : Fault}
    (h : (router.load around path?).1 = .error fault) :
    ∃ warnings : List Event, (∀ event ∈ warnings, event.IsWarning) ∧
      (router.load around path?).2 = { router with trail := router.trail ++ warnings } := by
  rcases router.load_cases around path? with ⟨-, hload⟩ | ⟨text, source, -, hload⟩
  · exact ⟨[], by simp, by simpa using hload⟩
  · rw [hload] at h ⊢
    exact loadText_error hdefault h

end Router

/-- Why a change of the rules failed, if it did. Unloading does not fail. -/
def RulesChange.fault? (around : Surroundings) (router : Router) : RulesChange → Option Fault
  | .loadText text source => refusal? (router.loadText text source).1
  | .load path? => refusal? (router.load around path?).1
  | .reload => refusal? (router.reload around).1
  | .unload => none
  | .halt _ => none
where
  refusal? : Except Fault Sections → Option Fault
    | .ok _ => none
    | .error fault => some fault

/-- A change of the rules that fails leaves the settings, the rules, the bindings, the bus and its
queue as they were. Every context answers every message as before, at every depth. -/
theorem failed_load_changes_nothing {router : Router}
    (hdefault : router.settings.defaultPriority.IsWritableInteger) {around : Surroundings}
    {change : RulesChange} {fault : Fault} (h : change.fault? around router = some fault) :
    (∃ warnings : List Event, (∀ event ∈ warnings, event.IsWarning) ∧
      change.run around router = { router with trail := router.trail ++ warnings }) ∧
    ∀ later c m,
      ((change.run around router).callContext later c m).1 = (router.callContext later c m).1 ∧
      ∀ depth, ((change.run around router).evaluateContext later c depth m).1 =
        (router.evaluateContext later c depth m).1 := by
  have hrefused : ∀ result, RulesChange.fault?.refusal? result = some fault →
      result = .error fault := by
    intro result hresult
    cases result with
    | ok sections => cases hresult
    | error refused => rw [Option.some.inj hresult]
  have hrun : ∃ warnings : List Event, (∀ event ∈ warnings, event.IsWarning) ∧
      change.run around router = { router with trail := router.trail ++ warnings } := by
    cases change with
    | loadText text source => exact Router.loadText_error hdefault (hrefused _ h)
    | load path? => exact Router.load_error hdefault (hrefused _ h)
    | reload =>
      have herror := hrefused _ h
      rw [router.reload_eq] at herror
      rw [RulesChange.run, router.reload_eq]
      exact Router.load_error hdefault herror
    | unload => cases h
    | halt m => cases h
  refine ⟨hrun, ?_⟩
  rcases hrun with ⟨warnings, -, hrun⟩
  rw [hrun]
  exact fun later c m => ⟨rfl, fun depth => rfl⟩

/-- The text of a rule whose pattern repeats more often than can be counted. -/
def endlessPattern : List Char :=
  ['[', 'm', ']', '\n', 'i', 'f', ' ', 'a', '\x7b', '9', '9', '9', '9', '9', '9', '9', '9', '9', '9',
    '9', '\x7d', '=', 'r', 'e', 't', 'u', 'r', 'n', '\n']

theorem endless_pattern_changes_nothing :
    ∃ warnings : List Event, (∀ event ∈ warnings, event.IsWarning) ∧
      RulesChange.run .empty Router.ofThreeBindings (.loadText endlessPattern "t") =
        { Router.ofThreeBindings with trail := Router.ofThreeBindings.trail ++ warnings } := by
  have hfails : (RulesChange.fault? .empty Router.ofThreeBindings
      (.loadText endlessPattern "t")).isSome = true := by decide +kernel
  rcases Option.isSome_iff_exists.1 hfails with ⟨fault, hfault⟩
  exact (failed_load_changes_nothing ⟨100, rfl, by decide +kernel⟩ hfault).1

/-- The text of rules with one binding of a given priority. -/
def numberedBinding : List Char :=
  ['[', 'i', 'n', 's', 't', 'a', 'l', 'l', ']', '\n', 'm', '=', '5', '\n', '[', 'm', ']', '\n']

/-- A router whose default priority is the least integer that cannot be written, with rules that do
not use it. -/
def Router.ofUnusedPriority : Router :=
  Operation.run .empty
    (Router.start { EngineSettings.standard with defaultPriority := .int (10 ^ 4300) })
    (.rules (.loadText numberedBinding "t"))

/-- With a default priority that cannot be written a load that fails has taken the rules down. -/
theorem long_priority_drops_rules :
    ¬ ∀ router, Undisturbed (fun default => ∃ n, default = .int n) router →
      ∀ around change fault, RulesChange.fault? around router change = some fault →
        (change.run around router).registry = router.registry ∧
        (change.run around router).bindings = router.bindings ∧
        (change.run around router).bus = router.bus := by
  intro hkeeps
  have hundisturbed : Undisturbed (fun default => ∃ n, default = .int n)
      Router.ofUnusedPriority := .after _ _ trivial (.start _ ⟨10 ^ 4300, rfl⟩)
  have hfails : (RulesChange.fault? .empty Router.ofUnusedPriority
      (.loadText oneBinding "t")).isSome = true := by decide +kernel
  have hbefore : Router.ofUnusedPriority.bindings.length = 1 := by decide +kernel
  have hafter : (RulesChange.run .empty Router.ofUnusedPriority
      (.loadText oneBinding "t")).bindings.length = 0 := by decide +kernel
  rcases Option.isSome_iff_exists.1 hfails with ⟨fault, hfault⟩
  have hbindings := (hkeeps _ hundisturbed .empty _ fault hfault).2.1
  rw [hbindings, hbefore] at hafter
  cases hafter

end Switchboard
