import Switchboard.Proofs.Evaluation.Commands
import Switchboard.Proofs.Router.Bindings
import Switchboard.Proofs.Rules.Sections

/-!
# Lines that are refused

A text of rules is refused for two kinds of lines and nothing else (`Router.prepare_isOk_iff`): rules
with a pattern that cannot be handled, and bindings with a priority of too many digits. All other
flaws of a line are warned about, and the line is left out or never matches.

What is refused has a fault of the kind that a text brings about, which is none of the program's own
(`Router.prepare_fails`).
-/

namespace Switchboard

open Text

/-! ## Bindings -/

namespace Directive

/-- The message name, the digits of the priority and the context name in a line. -/
def parts? (line : List Char) : Option (List Char × List Char × List Char) :=
  let body := stripStart line
  let name := body.takeWhile isNameChar
  match body.dropWhile isNameChar with
  | '=' :: rest =>
    if name.isEmpty then none
    else (splitBinding? (stripStart rest)).map fun (digits, context) => (name, digits, context)
  | _ => none

theorem parse_eq (default : Value) (line : List Char) :
    parse default line =
      match parts? line with
      | none => .ok none
      | some (name, digits, context) =>
        (readPriority default digits).map fun priority =>
          some ⟨String.ofList name, priority,
            String.ofList (if context.isEmpty then name else context)⟩ := by
  unfold parse parts?
  simp only
  -- both look at what stands behind the name
  rcases (stripStart line).dropWhile isNameChar with _ | ⟨c, rest⟩
  · rfl
  · by_cases hequals : c = '='
    · subst hequals
      simp only
      split
      case isTrue => rfl
      case isFalse => cases splitBinding? (stripStart rest) <;> rfl
    · simp [hequals]

/-- The line is a binding with a priority of too many digits. -/
def IsRefused (line : List Char) : Prop :=
  ∃ name digits context, parts? line = some (name, digits, context) ∧
    Numeral.digitLimit < digits.length

/-- The digits of a binding are decimal digits. -/
theorem isDecimalDigit_of_splitBinding? {s digits context : List Char}
    (h : splitBinding? s = some (digits, context)) : ∀ c ∈ digits, isDecimalDigit c = true := by
  have hall : ∀ c ∈ s.takeWhile isDecimalDigit, isDecimalDigit c = true :=
    List.all_eq_true.1 List.all_takeWhile
  unfold splitBinding? at h
  simp only at h
  split at h
  · cases h
    exact hall
  · split at h
    · split at h
      · cases h
        exact fun c hc => hall c (List.mem_of_mem_dropLast hc)
      · cases h
    · cases h

theorem isDecimalDigit_of_parts? {line name digits context : List Char}
    (h : parts? line = some (name, digits, context)) : ∀ c ∈ digits, isDecimalDigit c = true := by
  unfold parts? at h
  simp only at h
  split at h
  · split at h
    · cases h
    · rcases Option.map_eq_some_iff.1 h with ⟨⟨found, rest⟩, hsplit, heq⟩
      cases heq
      exact isDecimalDigit_of_splitBinding? hsplit
  · cases h

/-- Reading a priority fails for too many digits alone. -/
theorem readPriority_error_iff {default : Value} {digits : List Char} {fault : Fault}
    (h : ∀ c ∈ digits, isDecimalDigit c = true) :
    readPriority default digits = .error fault ↔
      Numeral.digitLimit < digits.length ∧ fault = .tooManyDigits (some digits.length) := by
  by_cases hne : digits = []
  · simp [readPriority, hne]
  · have hread := Numeral.readInteger_decimal hne h (List.forall_mem_nil _)
    rw [List.append_nil] at hread
    by_cases hlong : Numeral.digitLimit < digits.length
    · rw [if_pos hlong] at hread
      simp only [readPriority, List.isEmpty_iff, hne, hread, Fault.ofIntegerFlaw, if_false,
        Except.error.injEq, hlong, true_and]
      exact eq_comm
    · rw [if_neg hlong] at hread
      simp [readPriority, hne, hread, hlong]

/-- Reading a line fails for a priority of too many digits alone. -/
theorem parse_error_iff {default : Value} {line : List Char} {fault : Fault} :
    parse default line = .error fault ↔
      ∃ name digits context, parts? line = some (name, digits, context) ∧
        Numeral.digitLimit < digits.length ∧ fault = .tooManyDigits (some digits.length) := by
  rw [parse_eq]
  cases hparts : parts? line with
  | none => simp
  | some parts =>
    rcases parts with ⟨name, digits, context⟩
    have hread := @readPriority_error_iff default digits fault (isDecimalDigit_of_parts? hparts)
    have hmap : ∀ (f : Value → Option Directive) (result : Except Fault Value),
        result.map f = .error fault ↔ result = .error fault := by
      intro f result
      cases result <;> simp [Except.map]
    simp only [hmap, hread, Option.some.injEq, Prod.mk.injEq]
    constructor
    · rintro ⟨hlong, hfault⟩
      exact ⟨name, digits, context, ⟨rfl, rfl, rfl⟩, hlong, hfault⟩
    · rintro ⟨_, _, _, ⟨-, rfl, -⟩, hlong, hfault⟩
      exact ⟨hlong, hfault⟩

theorem parse_isOk_iff {default : Value} {line : List Char} :
    (∃ parsed, parse default line = .ok parsed) ↔ ¬ IsRefused line := by
  cases hparse : parse default line with
  | error fault =>
    rcases parse_error_iff.1 hparse with ⟨name, digits, context, hparts, hlong, -⟩
    simpa using ⟨name, digits, context, hparts, hlong⟩
  | ok parsed =>
    simp only [Except.ok.injEq, exists_eq', true_iff]
    rintro ⟨name, digits, context, hparts, hlong⟩
    have herror := (@parse_error_iff default line _).2
      ⟨name, digits, context, hparts, hlong, rfl⟩
    rw [hparse] at herror
    cases herror

end Directive

/-! ## Rules -/

namespace Rule

/-- The line is a test with a pattern that cannot be handled: a count in it is too large or has too
many digits, its flags exclude each other, or its groups are nested too deep. -/
def IsRefused (line : List Char) : Prop :=
  let command := complete (Command.parse line)
  command.action = some .test ∧
    ∃ flaw, Pattern.Compiled.ofText (Condition.ofArgs command.args).pattern = .error flaw ∧
      flaw ≠ .malformed

theorem checkPattern_error_iff {command : Command} {fault : Fault} :
    checkPattern command = .error fault ↔
      command.action = some .test ∧
        ∃ flaw, Pattern.Compiled.ofText (Condition.ofArgs command.args).pattern = .error flaw ∧
          flaw ≠ .malformed ∧ fault = Fault.ofPatternFlaw flaw := by
  unfold checkPattern
  by_cases htest : command.action = some .test
  · simp only [htest, if_true, true_and]
    split
    case h_1 compiled hcompiled => simp [hcompiled]
    case h_2 hcompiled => simp [hcompiled]
    case h_3 flaw hflaw hcompiled =>
      simp only [hcompiled, Except.error.injEq]
      constructor
      · rintro rfl
        exact ⟨flaw, rfl, hflaw, rfl⟩
      · rintro ⟨_, rfl, -, rfl⟩
        rfl
  · simp [htest]

theorem compile_error_iff {line : List Char} {fault : Fault} :
    (compile line).2 = .error fault ↔
      checkPattern (complete (Command.parse line)) = .error fault := by
  cases hcheck : checkPattern (complete (Command.parse line)) with
  | error refused => simp [compile, hcheck]
  | ok more => simp [compile, hcheck]

theorem compile_isOk_iff {line : List Char} :
    (∃ rule, (compile line).2 = .ok rule) ↔ ¬ IsRefused line := by
  cases hcompile : (compile line).2 with
  | error fault =>
    rcases checkPattern_error_iff.1 (compile_error_iff.1 hcompile) with
      ⟨htest, flaw, hpattern, hflaw, -⟩
    simpa using ⟨htest, flaw, hpattern, hflaw⟩
  | ok rule =>
    simp only [Except.ok.injEq, exists_eq', true_iff]
    rintro ⟨htest, flaw, hpattern, hflaw⟩
    have herror := compile_error_iff.2
      (checkPattern_error_iff.2 ⟨htest, flaw, hpattern, hflaw, rfl⟩)
    rw [hcompile] at herror
    cases herror

theorem compileAll_isOk_iff {lines : List (List Char)} :
    (∃ rules, (compileAll lines).2 = .ok rules) ↔ ∀ line ∈ lines, ¬ IsRefused line := by
  induction lines with
  | nil => simp [compileAll]
  | cons line rest ih =>
    -- behind a line that is refused nothing is compiled
    rw [List.forall_mem_cons, ← ih, ← compile_isOk_iff]
    rcases hcompile : compile line with ⟨events, result⟩
    cases result with
    | error fault => simp [compileAll, hcompile]
    | ok rule =>
      rcases hrest : compileAll rest with ⟨more, rules⟩
      cases rules <;> simp [compileAll, hcompile, hrest, Except.map]

end Rule

namespace Registry

/-- Sections are compiled if no line of a context is refused. -/
theorem compileSections_isOk_iff {sections : Sections} :
    (∃ contexts, (compileSections sections).2 = .ok contexts) ↔
      ∀ entry ∈ sections, entry.1 ≠ installSection → ∀ line ∈ entry.2, ¬ Rule.IsRefused line := by
  induction sections with
  | nil => simp [compileSections]
  | cons first rest ih =>
    rcases first with ⟨name, lines⟩
    rw [List.forall_mem_cons, ← ih]
    by_cases hinstall : name = installSection
    · simp [compileSections, hinstall]
    · rw [← Rule.compileAll_isOk_iff]
      rcases hcompile : Rule.compileAll lines with ⟨events, result⟩
      cases result with
      | error fault => simp [compileSections, hinstall, hcompile]
      | ok rules =>
        rcases hrest : compileSections rest with ⟨more, contexts⟩
        cases contexts <;> simp [compileSections, hinstall, hcompile, hrest, Except.map]

end Registry

/-! ## Texts -/

namespace Router

theorem readDirectives_isOk_iff {default : Value} {lines : List (List Char)} :
    (∃ ds, (readDirectives default lines).2 = .ok ds) ↔
      ∀ line ∈ lines, ¬ Directive.IsRefused line := by
  induction lines with
  | nil => simp [readDirectives]
  | cons line rest ih =>
    rw [List.forall_mem_cons, ← ih, ← @Directive.parse_isOk_iff default]
    cases hparse : Directive.parse default line with
    | error fault => simp [readDirectives, hparse]
    | ok parsed =>
      rcases hrest : readDirectives default rest with ⟨more, ds⟩
      cases parsed with
      | none => simp [readDirectives, hparse, hrest]
      | some d => cases ds <;> simp [readDirectives, hparse, hrest, Except.map]

end Router

/-- No line of a text is refused: no rule of a context, and no binding. -/
structure IsAccepted (text : List Char) : Prop where
  rules : ∀ name, name ≠ installSection →
    ∀ line ∈ Sections.contentOf (lines text) name, ¬ Rule.IsRefused line
  directives : ∀ line ∈ Sections.contentOf (lines text) installSection, ¬ Directive.IsRefused line

namespace Router

/-- Contexts are compiled first, and then the bindings are read. -/
theorem prepare_snd (router : Router) (text : List Char) :
    (router.prepare text).2 =
      match (Registry.compileSections (Sections.parse text).1).2 with
      | .error fault => .error fault
      | .ok contexts =>
        (readDirectives router.settings.defaultPriority
          ((Sections.parse text).1.linesOf installSection)).2.map fun ds =>
            ⟨(Sections.parse text).1, ⟨router.serial + 1, router.limits, contexts⟩, ds⟩ := by
  rcases hcompile : Registry.compileSections (Sections.parse text).1 with ⟨warnings, result⟩
  cases result <;> simp [prepare, Registry.build, hcompile, Except.map]

/-- Rules are ready if no line of their text is refused, whatever the router is. -/
theorem prepare_isOk_iff {router : Router} {text : List Char} :
    (∃ plan, (router.prepare text).2 = .ok plan) ↔ IsAccepted text := by
  -- sections have names of their own, so a line of a name is one of an entry
  have hrules : (∃ contexts, (Registry.compileSections (Sections.parse text).1).2 = .ok contexts) ↔
      ∀ name, name ≠ installSection →
        ∀ line ∈ Sections.contentOf (lines text) name, ¬ Rule.IsRefused line := by
    rw [Registry.compileSections_isOk_iff]
    constructor
    · intro hentries name hname line hline
      rcases Sections.exists_of_mem_contentOf hline with ⟨ls, hentry, hmem⟩
      exact hentries (name, ls) hentry hname line hmem
    · intro hnames entry hentry hname line hline
      rw [Sections.mem_parse hentry] at hline
      exact hnames entry.1 hname line hline
  have hdirectives := @readDirectives_isOk_iff router.settings.defaultPriority
    ((Sections.parse text).1.linesOf installSection)
  rw [Sections.linesOf_parse] at hdirectives
  rw [prepare_snd, Sections.linesOf_parse]
  constructor
  · rintro ⟨plan, hplan⟩
    cases hcontexts : (Registry.compileSections (Sections.parse text).1).2 with
    | error fault => simp [hcontexts] at hplan
    | ok contexts =>
      refine ⟨hrules.1 ⟨contexts, hcontexts⟩, hdirectives.1 ?_⟩
      cases hread : (readDirectives router.settings.defaultPriority
          (Sections.contentOf (lines text) installSection)).2 with
      | error fault => simp [hcontexts, hread, Except.map] at hplan
      | ok ds => exact ⟨ds, rfl⟩
  · intro haccepted
    rcases hrules.2 haccepted.rules with ⟨contexts, hcontexts⟩
    rcases hdirectives.2 haccepted.directives with ⟨ds, hread⟩
    rw [hcontexts, hread]
    exact ⟨_, rfl⟩

end Router
end Switchboard
