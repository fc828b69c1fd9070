import Switchboard.Proofs.Router.Bindings
import Switchboard.Proofs.Rules.LineKinds

/-!
# Directives and names

A header takes every name, and so does a binding for the name of its message. As the context of a
binding a name is only taken without a dot in front and without an underscore behind its first
character (`isBindable`). A line that binds a context of any other name is malformed, and nothing is
bound (`Directive.parse_bindingLine`).
-/

namespace Switchboard

open Text

/-- Whether a name can be written as the context of a binding. -/
def isBindable (name : List Char) : Bool :=
  name.head? != some '.' && name.tail.all (· != '_')

/-! ## Characters of names -/

theorem isWordChar_of_isNameChar {c : Char} (h : isNameChar c = true) :
    isWordChar c = (c != '.') := by
  have hascii : c.toNat < 128 := by
    have hbounds := toNat_of_isNameChar h
    omega
  by_cases hdot : c = '.'
  · subst hdot
    decide
  · simp only [isNameChar, Bool.or_eq_true, beq_iff_eq, hdot, or_false] at h
    rcases h with halnum | rfl
    · simp [isWordChar, isLetterOrNumber, hascii, halnum, hdot]
    · decide

theorem isNameChar_of_isDigit {c : Char} (h : c.isDigit = true) : isNameChar c = true := by
  simp [isNameChar, Char.isAlphanum, h]

theorem isContextChar_of_isNameChar {c : Char} (h : isNameChar c = true) :
    Directive.isContextChar c = (c != '_') := by
  by_cases hline : c = '_'
  · subst hline
    decide
  · simp only [isNameChar, Bool.or_eq_true, beq_iff_eq, hline, or_false] at h
    rw [Directive.isContextChar, Bool.or_eq_true_iff.2 (by simpa using h)]
    simpa using hline

theorem allBlank_cons_of_isNameChar {c : Char} (h : isNameChar c = true) (rest : List Char) :
    allBlank (c :: rest) = false := by
  simp [allBlank, isBlank_of_isNameChar h]

theorem IsName.stripStart {name : List Char} (h : IsName name) (rest : List Char) :
    Text.stripStart (name ++ rest) = name ++ rest := by
  cases name with
  | nil => exact absurd rfl h.ne_nil
  | cons c more =>
    have hc := isBlank_of_isNameChar (h.chars c List.mem_cons_self)
    rw [Text.stripStart, List.cons_append, List.dropWhile_cons_of_neg (by simp [hc])]

namespace Directive

/-! ## The context of a binding -/

/-- A name is the context name that it makes up, if it can be one. -/
theorem contextName?_of_isName {name : List Char} (h : IsName name) :
    contextName? name = if isBindable name then some name else none := by
  cases name with
  | nil => exact absurd rfl h.ne_nil
  | cons c rest =>
    have hc := h.chars c List.mem_cons_self
    have hrest : ∀ d ∈ rest, isNameChar d = true := fun d hd =>
      h.chars d (List.mem_cons_of_mem c hd)
    have hall : ∀ d ∈ rest, isContextChar d = (d != '_') := fun d hd =>
      isContextChar_of_isNameChar (hrest d hd)
    rw [contextName?, isWordChar_of_isNameChar hc, allBlank_cons_of_isNameChar hc]
    by_cases hunderscore : rest.all (· != '_') = true
    · -- all of the name is taken
      have htake : ∀ d ∈ rest, isContextChar d = true := by
        intro d hd
        rw [hall d hd]
        exact List.all_eq_true.1 hunderscore d hd
      have hdrop := List.dropWhile_eq_nil_iff.2 htake
      have hkept := List.takeWhile_append_dropWhile (p := isContextChar) (l := rest)
      rw [hdrop, List.append_nil] at hkept
      by_cases hdot : c = '.' <;> simp [isBindable, hdot, hunderscore, hdrop, hkept, allBlank]
    · -- the name goes on behind what is taken, and that is no blank
      have hdrop : allBlank (rest.dropWhile isContextChar) = false := by
        cases hmore : rest.dropWhile isContextChar with
        | nil =>
          refine absurd (List.all_eq_true.2 fun d hd => ?_) hunderscore
          rw [← hall d hd]
          exact List.dropWhile_eq_nil_iff.1 hmore d hd
        | cons d more =>
          refine allBlank_cons_of_isNameChar (hrest d ?_) more
          exact (List.dropWhile_sublist isContextChar).subset (hmore ▸ List.mem_cons_self)
      simp [isBindable, hunderscore, hdrop]

/-- Digits, a comma and a name are a priority and a context, if the name can be one. A digit that is
given back has no context behind it. -/
theorem splitBinding?_of_isName {digits name : List Char}
    (hdigits : ∀ d ∈ digits, d.isDigit = true) (h : IsName name) :
    splitBinding? (digits ++ ',' :: name) =
      if isBindable name then some (digits, name) else none := by
  have hdecimal : ∀ d ∈ digits, isDecimalDigit d = true := fun d hd =>
    isDecimalDigit_of_isDigit (hdigits d hd)
  have hcomma : isDecimalDigit ',' = false := by decide
  have htake : (digits ++ ',' :: name).takeWhile isDecimalDigit = digits := by
    rw [List.takeWhile_append_of_pos hdecimal, List.takeWhile_cons_of_neg (by simp [hcomma]),
      List.append_nil]
  have hdrop : (digits ++ ',' :: name).dropWhile isDecimalDigit = ',' :: name := by
    rw [List.dropWhile_append_of_pos hdecimal, List.dropWhile_cons_of_neg (by simp [hcomma])]
  have hstrip : stripStart name = name := by simpa using h.stripStart []
  have hafter : afterPriority? (',' :: name) = contextName? name := by
    have hstart : stripStart (',' :: name) = ',' :: name := by
      rw [stripStart, List.dropWhile_cons_of_neg (by decide)]
    simp [afterPriority?, hstart, hstrip]
  have hgiven : ∀ last, last.isDigit = true → contextName? (last :: ',' :: name) = none := by
    intro last hlast
    have hstop : isContextChar ',' = false := by decide
    have hblank : allBlank (',' :: name) = false := by
      have hcomma : isBlank ',' = false := by decide
      simp [allBlank, hcomma]
    rw [contextName?, List.dropWhile_cons_of_neg (by simp [hstop]), hblank,
      allBlank_cons_of_isNameChar (isNameChar_of_isDigit hlast)]
    simp
  -- with a name that is no context the last digit is tried as the start of one
  simp only [splitBinding?, htake, hdrop, hafter, contextName?_of_isName h]
  cases hbindable : isBindable name with
  | true => rfl
  | false =>
    cases hlast : digits.getLast? with
    | none => rfl
    | some last => simp [hgiven last (hdigits last (List.mem_of_getLast? hlast))]

/-! ## Priorities -/

theorem readPriority_natText {n : Nat} (h : (natText n).length ≤ Numeral.digitLimit)
    (default : Value) : readPriority default (natText n) = .ok (.int n) := by
  have hne : natText n ≠ [] := Nat.toDigits_ne_nil
  have hread := Numeral.readInteger_digits hne (fun _ => isDigit_of_mem_natText)
    (List.forall_mem_nil _)
  rw [List.append_nil, if_neg (Nat.not_lt.2 h), ofDigitChars_natText] at hread
  simp [readPriority, hne, hread]

/-! ## Lines -/

/-- The line that binds a message to a context, with the digits of a priority. -/
def bindingLine (message digits context : List Char) : List Char :=
  message ++ '=' :: (digits ++ ',' :: context)

/-- A line that binds a message to a context is read if the name of the context can be written
there, and malformed if not. -/
theorem parse_bindingLine {message digits context : List Char} (hmessage : IsName message)
    (hdigits : ∀ d ∈ digits, d.isDigit = true) (hcontext : IsName context)
    {default priority : Value} (hpriority : readPriority default digits = .ok priority) :
    parse default (bindingLine message digits context) =
      .ok (if isBindable context then
        some ⟨String.ofList message, priority, String.ofList context⟩ else none) := by
  have hequals : ('=' :: (digits ++ ',' :: context)).head?.any isNameChar = false := by
    simp [isNameChar]
  rcases hmessage.takeWhile hequals with ⟨htake, hdrop⟩
  have hstart : stripStart (digits ++ ',' :: context) = digits ++ ',' :: context := by
    cases digits with
    | nil => rw [List.nil_append, stripStart, List.dropWhile_cons_of_neg (by decide)]
    | cons d more =>
      have hd := isBlank_of_isDigit (hdigits d List.mem_cons_self)
      rw [List.cons_append, stripStart, List.dropWhile_cons_of_neg (by simp [hd])]
  simp only [parse, bindingLine, hmessage.stripStart, htake, hdrop, hstart,
    splitBinding?_of_isName hdigits hcontext]
  cases hbindable : isBindable context with
  | true => simp [hmessage.ne_nil, hpriority, Except.map, hcontext.ne_nil]
  | false => simp [hmessage.ne_nil]

end Directive

/-- A section is bound by a line of its name, with or without a priority, if the name can be the
context of a binding; if not, the line is dropped with a warning, though the section is there. -/
theorem bindable_sections_are_bound {message context : List Char} (hmessage : IsName message)
    (hcontext : LineKind.ofLine ('[' :: (context ++ [']'])) = .header (String.ofList context))
    {n : Nat} (hn : (natText n).length ≤ Numeral.digitLimit) (default : Value) :
    ∀ digits priority,
      (digits, priority) = (natText n, .int n) ∨ (digits, priority) = ([], default) →
      Directive.parse default (Directive.bindingLine message digits context) =
        .ok (if isBindable context then
          some ⟨String.ofList message, priority, String.ofList context⟩ else none) ∧
      ∀ {router : Router} {text : List Char} {events : List Event} {plan : Router.Plan},
        router.settings.defaultPriority = default →
        router.prepare text = (events, .ok plan) →
        Directive.bindingLine message digits context ∈
          (Sections.parse text).1.linesOf installSection →
        if isBindable context then
          ⟨String.ofList message, priority, String.ofList context⟩ ∈ plan.directives
        else Router.malformedWarning (Directive.bindingLine message digits context) ∈ events := by
  intro digits priority hwritten
  have hdigits : ∀ d ∈ digits, d.isDigit = true := by
    intro d hd
    rcases hwritten with heq | heq
    · cases heq
      exact isDigit_of_mem_natText hd
    · cases heq
      cases hd
  have hpriority : Directive.readPriority default digits = .ok priority := by
    rcases hwritten with heq | heq
    · cases heq
      exact Directive.readPriority_natText hn default
    · cases heq
      rfl
  have hparse := Directive.parse_bindingLine hmessage hdigits
    (LineKind.ofLine_bracketed_iff.1 hcontext) hpriority
  -- a load reads the line with the same outcome, and keeps what it reads or warns
  refine ⟨hparse, ?_⟩
  intro router text events plan hdefault hprepare hline
  rcases Router.sections_of_prepare hprepare with ⟨hsections, hwarnings⟩
  have hread := (Router.of_prepare hprepare).2
  rw [hsections, hdefault] at hread hwarnings
  cases hbindable : isBindable context with
  | true =>
    rw [hbindable, if_pos rfl] at hparse
    rcases Router.readDirectives_of_mem hread hline with ⟨d, hd, hfound⟩ | ⟨hnone, -⟩
    · rw [hparse] at hfound
      cases hfound
      exact hd
    · rw [hparse] at hnone
      cases hnone
  | false =>
    rw [hbindable, if_neg Bool.false_ne_true] at hparse
    rcases Router.readDirectives_of_mem hread hline with ⟨d, -, hfound⟩ | ⟨-, hwarned⟩
    · rw [hparse] at hfound
      cases hfound
    · exact hwarnings _ hwarned

/-- The text of rules with a binding of a section whose name has a dot. -/
def dottedRules : List Char :=
  ['[', 'i', 'n', 's', 't', 'a', 'l', 'l', ']', '\n', 'm', '=', '5', ',', 'a', '.', 'b', '\n',
    '[', 'a', '.', 'b', ']', '\n']

theorem dotted_section_is_bound :
    LineKind.ofLine ['[', 'a', '.', 'b', ']'] = .header "a.b" ∧
    Directive.parse (.int 100) ['m', '=', '5', ',', 'a', '.', 'b'] =
      .ok (some ⟨"m", .int 5, "a.b"⟩) ∧
    Directive.parse (.int 100) ['m', '=', ',', 'a', '.', 'b'] =
      .ok (some ⟨"m", .int 100, "a.b"⟩) ∧
    ∃ events plan, (Router.start .standard).prepare dottedRules = (events, .ok plan) ∧
      ⟨"m", .int 5, "a.b"⟩ ∈ plan.directives := by
  have hname : IsName ['m'] := ⟨by decide, List.forall_mem_singleton.2 (by decide)⟩
  have hheader : LineKind.ofLine ('[' :: (['a', '.', 'b'] ++ [']'])) = .header "a.b" := by
    decide
  have hshort : (natText 5).length ≤ Numeral.digitLimit := by decide
  have hbound := @bindable_sections_are_bound _ ['a', '.', 'b'] hname hheader _ hshort (.int 100)
  rcases hbound _ _ (.inl rfl) with ⟨hparse, hload⟩
  refine ⟨hheader, hparse, (hbound _ _ (.inr rfl)).1, ?_⟩
  have hready : ((Router.start .standard).prepare dottedRules).2.toBool = true := by
    decide +kernel
  rcases hprepare : (Router.start .standard).prepare dottedRules with ⟨events, result⟩
  cases result with
  | error fault =>
    rw [hprepare] at hready
    cases hready
  | ok plan => exact ⟨events, plan, rfl, hload rfl hprepare (by decide +kernel)⟩

/-- The line [user_auth] is a header, but m=5,user_auth is malformed. -/
theorem underscored_section_is_not_bound :
    LineKind.ofLine ['[', 'u', 's', 'e', 'r', '_', 'a', 'u', 't', 'h', ']'] =
      .header "user_auth" ∧
    Directive.parse (.int 100)
      ['m', '=', '5', ',', 'u', 's', 'e', 'r', '_', 'a', 'u', 't', 'h'] = .ok none := by
  have hheader : LineKind.ofLine ['[', 'u', 's', 'e', 'r', '_', 'a', 'u', 't', 'h', ']'] =
      .header "user_auth" := by
    decide
  have hpriority : Directive.readPriority (.int 100) ['5'] = .ok (.int 5) :=
    @Directive.readPriority_natText 5 (by decide) (.int 100)
  have hmessage : IsName ['m'] := ⟨by decide, List.forall_mem_singleton.2 (by decide)⟩
  have hcontext : IsName ['u', 's', 'e', 'r', '_', 'a', 'u', 't', 'h'] :=
    LineKind.ofLine_bracketed_iff.1 hheader
  have hdigit : ∀ d ∈ ['5'], d.isDigit = true := List.forall_mem_singleton.2 (by decide)
  have hparse := Directive.parse_bindingLine hmessage hdigit hcontext hpriority
  exact ⟨hheader, hparse⟩

end Switchboard
