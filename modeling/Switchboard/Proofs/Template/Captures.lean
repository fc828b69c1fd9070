import Switchboard.Template.Captures

/-!
# Filling in captures

A template is made of captures, each a backslash with all the digits behind it, and of characters
that stand for themselves (`CapturePiece.Cuts`). It is cut in one way (`CapturePiece.Cuts.unique`),
and filling it in puts the texts of its pieces one behind the other (`fillCaptures_of_cuts`): what is
put in for one piece is not looked at again.

Two templates that no capture reaches across are cut one by one (`CapturePiece.Cuts.append`). So
what they are filled in with is put together in the same way (`fillCaptures_append`).
-/

namespace Switchboard

open Pattern Text

/-! ## Digits at the edges of a template -/

/-- A digit comes first. -/
def StartsDigit (s : List Char) : Prop :=
  ∃ d rest, s = d :: rest ∧ d.isDigit = true

/-- The text ends in a backslash with nothing but digits behind it, perhaps none. -/
def EndsCapture (s : List Char) : Prop :=
  ∃ before digits, s = before ++ '\\' :: digits ∧ ∀ d ∈ digits, d.isDigit = true

/-- Behind no backslash stand more digits than a number may have. -/
def ShortCaptures (template : List Char) : Prop :=
  ∀ before digits after, template = before ++ '\\' :: (digits ++ after) →
    (∀ d ∈ digits, d.isDigit = true) → digits.length ≤ Numeral.digitLimit

theorem not_startsDigit_nil : ¬ StartsDigit [] := by
  rintro ⟨d, rest, heq, -⟩
  cases heq

theorem startsDigit_cons {c : Char} {rest : List Char} :
    StartsDigit (c :: rest) ↔ c.isDigit = true := by
  constructor
  · rintro ⟨d, more, heq, hd⟩
    cases heq
    exact hd
  · exact fun hc => ⟨c, rest, rfl, hc⟩

theorem startsDigit_append {digits rest : List Char} (hne : digits ≠ [])
    (hdigits : ∀ d ∈ digits, d.isDigit = true) : StartsDigit (digits ++ rest) := by
  cases digits with
  | nil => exact absurd rfl hne
  | cons d more => exact ⟨d, more ++ rest, rfl, hdigits d List.mem_cons_self⟩

theorem not_startsDigit_append {s t : List Char} (hs : ¬ StartsDigit s)
    (ht : s = [] → ¬ StartsDigit t) : ¬ StartsDigit (s ++ t) := by
  cases s with
  | nil => exact ht rfl
  | cons c rest => exact fun h => hs (startsDigit_cons.2 (startsDigit_cons.1 h))

theorem EndsCapture.append_left {s : List Char} (h : EndsCapture s) (lead : List Char) :
    EndsCapture (lead ++ s) := by
  rcases h with ⟨before, digits, rfl, hdigits⟩
  exact ⟨lead ++ before, digits, by simp, hdigits⟩

/-- Digits end where no digit comes next. -/
theorem takeWhile_digits {digits rest : List Char} (hdigits : ∀ d ∈ digits, d.isDigit = true)
    (hrest : ¬ StartsDigit rest) : (digits ++ rest).takeWhile Char.isDigit = digits := by
  rw [List.takeWhile_append_of_pos hdigits]
  cases rest with
  | nil => simp
  | cons c more =>
    rw [startsDigit_cons] at hrest
    rw [List.takeWhile_cons_of_neg hrest, List.append_nil]

/-! ## Pieces -/

/-- A piece of a template: a character that stands for itself, or a backslash with the digits of a
capture. -/
inductive CapturePiece
  | kept (c : Char)
  | capture (digits : List Char)

/-- The text of a group by its number. It is empty if the match has no such group, and if the group
took no part in it. -/
def Pattern.Match.groupText (found : Match) (number : Nat) : List Char :=
  match found.groups[number]? with
  | some (some text) => text
  | _ => []

namespace CapturePiece

/-- The text that a piece stands for: a capture for that of the group with its decimal number. -/
def fill (found : Match) : CapturePiece → List Char
  | .kept c => [c]
  | .capture digits => found.groupText (Nat.ofDigitChars 10 digits 0)

/-- The pieces of a template from left to right. A backslash with a digit behind it is a capture with
all digits up to the next other character, and every other character stands for itself. -/
inductive Cuts : List Char → List CapturePiece → Prop
  | nil : Cuts [] []
  | kept {c : Char} {rest : List Char} {pieces : List CapturePiece} :
      (c = '\\' → ¬ StartsDigit rest) → Cuts rest pieces → Cuts (c :: rest) (.kept c :: pieces)
  | capture {digits rest : List Char} {pieces : List CapturePiece} :
      digits ≠ [] → (∀ d ∈ digits, d.isDigit = true) → ¬ StartsDigit rest → Cuts rest pieces →
      Cuts ('\\' :: (digits ++ rest)) (.capture digits :: pieces)

theorem exists_cuts (template : List Char) : ∃ pieces, Cuts template pieces := by
  induction hlength : template.length using Nat.strongRecOn generalizing template with
  | ind n ih =>
    cases template with
    | nil => exact ⟨[], .nil⟩
    | cons c rest =>
      by_cases hcapture : c = '\\' ∧ StartsDigit rest
      · rcases hcapture with ⟨rfl, d, more, rfl, hd⟩
        have hshorter : (more.dropWhile Char.isDigit).length < n := by
          have hle := (List.dropWhile_suffix (l := more) Char.isDigit).length_le
          rw [← hlength, List.length_cons, List.length_cons]
          omega
        rcases ih _ hshorter _ rfl with ⟨pieces, hcuts⟩
        -- the capture goes on as long as there are digits
        have hdigits : ∀ e ∈ d :: more.takeWhile Char.isDigit, e.isDigit = true := by
          intro e he
          rcases List.mem_cons.1 he with rfl | he
          · exact hd
          · exact List.all_eq_true.1 List.all_takeWhile e he
        have hends : ¬ StartsDigit (more.dropWhile Char.isDigit) := by
          rintro ⟨e, behind, heq, he⟩
          have hhead := List.head?_dropWhile_not Char.isDigit more
          rw [heq] at hhead
          simp [he] at hhead
        have hall := Cuts.capture (by simp) hdigits hends hcuts
        rw [List.cons_append, List.takeWhile_append_dropWhile] at hall
        exact ⟨_, hall⟩
      · rcases ih rest.length (by rw [← hlength]; exact Nat.lt_succ_self _) rest rfl with
          ⟨pieces, hcuts⟩
        exact ⟨_, .kept (fun hc hdigit => hcapture ⟨hc, hdigit⟩) hcuts⟩

namespace Cuts

variable {template a b : List Char} {pieces p q : List CapturePiece}

/-- There is one way to cut a template. -/
theorem unique (h : Cuts template p) (h' : Cuts template q) : p = q := by
  induction h generalizing q with
  | nil =>
    cases h'
    rfl
  | kept hc hrest ih =>
    cases h' with
    | kept hc' hrest' => rw [ih hrest']
    | capture hne hdigits hends hrest' =>
      exact absurd (startsDigit_append hne hdigits) (hc rfl)
  | @capture digits rest pieces hne hdigits hends hrest ih =>
    generalize hwhole : '\\' :: (digits ++ rest) = whole at h'
    cases h' with
    | nil => cases hwhole
    | kept hc hrest' =>
      cases hwhole
      exact absurd (startsDigit_append hne hdigits) (hc rfl)
    | @capture digits' rest' pieces' hne' hdigits' hends' hrest' =>
      have hbody : digits ++ rest = digits' ++ rest' := (List.cons.inj hwhole).2
      have hsame : digits = digits' := by
        rw [← takeWhile_digits hdigits hends, hbody, takeWhile_digits hdigits' hends']
      subst hsame
      cases List.append_cancel_left hbody
      rw [ih hrest']

/-- A capture has the digits behind a backslash of the template. -/
theorem split_of_mem (h : Cuts template pieces) {digits : List Char}
    (hmem : .capture digits ∈ pieces) :
    (∃ before after, template = before ++ '\\' :: (digits ++ after)) ∧
      ∀ d ∈ digits, d.isDigit = true := by
  induction h with
  | nil => cases hmem
  | @kept c rest pieces hc hrest ih =>
    rcases List.mem_cons.1 hmem with heq | hmem
    · cases heq
    · rcases ih hmem with ⟨⟨before, after, rfl⟩, hdigits⟩
      exact ⟨⟨c :: before, after, rfl⟩, hdigits⟩
  | @capture own rest pieces hne hown hends hrest ih =>
    rcases List.mem_cons.1 hmem with heq | hmem
    · cases heq
      exact ⟨⟨[], rest, rfl⟩, hown⟩
    · rcases ih hmem with ⟨⟨before, after, rfl⟩, hdigits⟩
      exact ⟨⟨'\\' :: (own ++ before), after, by simp⟩, hdigits⟩

/-- A template that no capture reaches out of is cut in front of another as it is on its own. -/
theorem append (ha : Cuts a p) (hb : Cuts b q) (hparted : ¬ EndsCapture a ∨ ¬ StartsDigit b) :
    Cuts (a ++ b) (p ++ q) := by
  induction ha with
  | nil => exact hb
  | @kept c rest pieces hc hrest ih =>
    have hbehind : c = '\\' → ¬ StartsDigit (rest ++ b) := by
      rintro rfl
      refine not_startsDigit_append (hc rfl) ?_
      rintro rfl
      exact hparted.resolve_left fun hends => hends ⟨[], [], rfl, by simp⟩
    exact .kept hbehind (ih (hparted.imp_left fun hends hrest => hends (hrest.append_left [c])))
  | @capture digits rest pieces hne hdigits hends hrest ih =>
    have hbehind : ¬ StartsDigit (rest ++ b) := by
      refine not_startsDigit_append hends ?_
      rintro rfl
      exact hparted.resolve_left fun hends => hends ⟨[], digits, by simp, hdigits⟩
    have hall := Cuts.capture hne hdigits hbehind
      (ih (hparted.imp_left fun hends hrest => hends (hrest.append_left ('\\' :: digits))))
    rwa [← List.append_assoc] at hall

end Cuts

/-! ## Filling in -/

/-- What a piece is filled in with, or why it cannot be. -/
def tryFill (found : Match) : CapturePiece → Except Fault (List Char)
  | .kept c => .ok [c]
  | .capture digits => captureText found digits

/-- What pieces are filled in with, one behind the other, up to the first that cannot be. -/
def tryFillAll (found : Match) : List CapturePiece → Except Fault (List Char)
  | [] => .ok []
  | piece :: rest => do
    let text ← piece.tryFill found
    let behind ← tryFillAll found rest
    return text ++ behind

theorem tryFillAll_append (found : Match) (p q : List CapturePiece) :
    tryFillAll found (p ++ q) = do
      let text ← tryFillAll found p
      let behind ← tryFillAll found q
      return text ++ behind := by
  induction p with
  | nil =>
    rw [List.nil_append, tryFillAll]
    cases tryFillAll found q <;> rfl
  | cons piece rest ih =>
    rw [List.cons_append, tryFillAll, tryFillAll, ih]
    cases piece.tryFill found with
    | error fault => rfl
    | ok text =>
      cases tryFillAll found rest with
      | error fault => rfl
      | ok more =>
        cases tryFillAll found q with
        | error fault => rfl
        | ok behind => exact congrArg Except.ok (List.append_assoc text more behind).symm

theorem captureText_eq (found : Match) {digits : List Char}
    (h : digits.length ≤ Numeral.digitLimit) :
    captureText found digits = .ok (found.groupText (Nat.ofDigitChars 10 digits 0)) := by
  have hgroup : ∀ n, (found.groups[n]?.getD none).getD [] = found.groupText n := by
    intro n
    rw [Match.groupText]
    rcases found.groups[n]? with _ | _ | text <;> rfl
  rw [captureText, if_neg (Nat.not_lt.2 h), ← hgroup]
  rfl

/-- Pieces whose captures have no more digits than a number may have are all filled in. -/
theorem tryFillAll_eq (found : Match) {pieces : List CapturePiece}
    (h : ∀ digits, .capture digits ∈ pieces → digits.length ≤ Numeral.digitLimit) :
    tryFillAll found pieces = .ok (pieces.flatMap (fill found)) := by
  induction pieces with
  | nil => rfl
  | cons piece rest ih =>
    have hfirst : piece.tryFill found = .ok (piece.fill found) := by
      cases piece with
      | kept c => rfl
      | capture digits => exact captureText_eq found (h digits List.mem_cons_self)
    rw [tryFillAll, hfirst, ih fun digits hmem => h digits (List.mem_cons_of_mem _ hmem)]
    rfl

end CapturePiece

/-! ## The scan -/

/-- A character that is no digit ends a capture, and what comes from it on is filled in as it is
anywhere else. -/
theorem fillCapturesFrom_of_not_startsDigit (found : Match) (digits : List Char) {rest : List Char}
    (h : ¬ StartsDigit rest) :
    fillCapturesFrom found (some digits) rest = do
      let head ← fillCapturesFrom found (some digits) []
      let tail ← fillCapturesFrom found none rest
      return head ++ tail := by
  cases rest with
  | nil =>
    cases hhead : fillCapturesFrom found (some digits) [] with
    | error fault => rfl
    | ok head => exact congrArg Except.ok (List.append_nil head).symm
  | cons c more =>
    rw [startsDigit_cons, Bool.not_eq_true] at h
    -- the tail is the same whether it starts a new capture or not
    cases digits with
    | nil => by_cases hslash : c = '\\' <;> simp [fillCapturesFrom, h, hslash]
    | cons d ds => by_cases hslash : c = '\\' <;> simp [fillCapturesFrom, h, hslash]

/-- Digits are kept until the capture ends. -/
theorem fillCapturesFrom_digits (found : Match) {digits : List Char}
    (hdigits : ∀ d ∈ digits, d.isDigit = true) (pending rest : List Char) :
    fillCapturesFrom found (some pending) (digits ++ rest) =
      fillCapturesFrom found (some (digits.reverse ++ pending)) rest := by
  induction digits generalizing pending with
  | nil => rfl
  | cons d more ih =>
    have hd := hdigits d List.mem_cons_self
    rw [List.cons_append, fillCapturesFrom, if_pos hd,
      ih fun e he => hdigits e (List.mem_cons_of_mem d he)]
    simp

/-- A template is filled in piece by piece. -/
theorem fillCaptures_of_cuts (found : Match) {template : List Char} {pieces : List CapturePiece}
    (h : CapturePiece.Cuts template pieces) :
    fillCaptures found template = CapturePiece.tryFillAll found pieces := by
  induction h with
  | nil => rfl
  | @kept c rest pieces hc hrest ih =>
    rw [fillCaptures] at ih ⊢
    rw [CapturePiece.tryFillAll, ← ih]
    by_cases hslash : c = '\\'
    · subst hslash
      rw [fillCapturesFrom, if_pos rfl, fillCapturesFrom_of_not_startsDigit found [] (hc rfl)]
      rfl
    · rw [fillCapturesFrom, if_neg hslash]
      cases fillCapturesFrom found none rest <;> rfl
  | @capture digits rest pieces hne hdigits hends hrest ih =>
    have hhead : fillCapturesFrom found (some digits.reverse) [] = captureText found digits := by
      cases hreverse : digits.reverse with
      | nil => exact absurd (List.reverse_eq_nil_iff.1 hreverse) hne
      | cons d ds => rw [fillCapturesFrom, ← hreverse, List.reverse_reverse]
    rw [fillCaptures] at ih ⊢
    rw [fillCapturesFrom, if_pos rfl, fillCapturesFrom_digits found hdigits, List.append_nil,
      fillCapturesFrom_of_not_startsDigit found _ hends, hhead, CapturePiece.tryFillAll, ← ih]
    rfl

/-- Templates that no capture reaches across are filled in one by one. -/
theorem fillCaptures_append (found : Match) {a b : List Char}
    (hparted : ¬ EndsCapture a ∨ ¬ StartsDigit b) :
    fillCaptures found (a ++ b) = do
      let text ← fillCaptures found a
      let behind ← fillCaptures found b
      return text ++ behind := by
  rcases CapturePiece.exists_cuts a with ⟨p, hp⟩
  rcases CapturePiece.exists_cuts b with ⟨q, hq⟩
  rw [fillCaptures_of_cuts found hp, fillCaptures_of_cuts found hq,
    fillCaptures_of_cuts found (hp.append hq hparted), CapturePiece.tryFillAll_append]

/-- A text without backslashes is filled in with nothing. -/
theorem fillCaptures_of_not_mem (found : Match) {s : List Char} (h : '\\' ∉ s) :
    fillCaptures found s = .ok s := by
  rw [fillCaptures]
  induction s with
  | nil => rfl
  | cons c rest ih =>
    rw [List.mem_cons, not_or] at h
    rw [fillCapturesFrom, if_neg (Ne.symm h.1), ih h.2]
    rfl

/-- A character in front of a text stays there. -/
theorem fillCaptures_cons_ok {found : Match} {c : Char} (hslash : c ≠ '\\')
    {s filled : List Char} (h : fillCaptures found (c :: s) = .ok filled) :
    ∃ rest, fillCaptures found s = .ok rest ∧ filled = c :: rest := by
  rw [fillCaptures, fillCapturesFrom, if_neg hslash] at h
  cases hrest : fillCapturesFrom found none s with
  | error fault => simp [hrest, Except.map] at h
  | ok rest => exact ⟨rest, hrest, by simpa [hrest, Except.map] using h.symm⟩

/-- Filling in a text with a character that belongs to no capture fills in both sides. -/
theorem fillCaptures_append_ok {found : Match} {c : Char} (hdigit : c.isDigit = false)
    (hslash : c ≠ '\\') {s t filled : List Char} (h : fillCaptures found (s ++ c :: t) = .ok filled) :
    ∃ before behind, fillCaptures found s = .ok before ∧ fillCaptures found t = .ok behind ∧
      filled = before ++ c :: behind := by
  rw [fillCaptures_append found (.inr (by simp [startsDigit_cons, hdigit]))] at h
  cases hbefore : fillCaptures found s with
  | error fault => simp [hbefore, bind, Except.bind] at h
  | ok before =>
    cases hmore : fillCaptures found (c :: t) with
    | error fault => simp [hbefore, hmore, bind, Except.bind] at h
    | ok more =>
      rcases fillCaptures_cons_ok hslash hmore with ⟨behind, hbehind, rfl⟩
      refine ⟨before, behind, rfl, hbehind, ?_⟩
      simpa [hbefore, hmore, bind, Except.bind, pure, Except.pure] using h.symm

/-! ## Filling in a match -/

/-- A match has the groups of its pattern and the whole of what was found. -/
theorem Pattern.size_groups_of_search {pattern : Compiled} {text : List Char} {found : Match}
    (h : pattern.search text = some found) : found.groups.size = pattern.groups + 1 := by
  have hfrom : ∀ tries position, searchFrom pattern text.toArray position tries = some found →
      found.groups.size = pattern.groups + 1 := by
    intro tries
    induction tries with
    | zero => simp [searchFrom]
    | succ tries ih =>
      intro position hfound
      simp only [searchFrom] at hfound
      split at hfound
      · cases hfound
        simp
      · exact ih _ hfound
  exact hfrom _ _ h

/-- A template is filled in with the first match in one pass, piece by piece: a backslash with digits
behind it stands for the group with their number, and all else for itself. Templates that no capture
reaches across are filled in one by one. Without a match there is nothing. -/
theorem captures_are_filled_in_one_pass (pattern : Compiled) (source : List Char) :
    (∀ found, pattern.search source = some found →
      found.groups.size = pattern.groups + 1 ∧
      (∀ template, ShortCaptures template → ∃ pieces, CapturePiece.Cuts template pieces ∧
        (∀ others, CapturePiece.Cuts template others → others = pieces) ∧
        applyCaptures pattern source template =
          .ok (pieces.flatMap (CapturePiece.fill found))) ∧
      ∀ a b, ¬ EndsCapture a ∨ ¬ StartsDigit b →
        applyCaptures pattern source (a ++ b) = do
          let text ← applyCaptures pattern source a
          let behind ← applyCaptures pattern source b
          return text ++ behind) ∧
    (pattern.search source = none → ∀ template, applyCaptures pattern source template = .ok []) := by
  refine ⟨?_, ?_⟩
  · intro found hfound
    have happly : ∀ template, applyCaptures pattern source template =
        fillCaptures found template := by
      intro template
      rw [applyCaptures, hfound]
    refine ⟨size_groups_of_search hfound, ?_, ?_⟩
    · intro template hshort
      rcases CapturePiece.exists_cuts template with ⟨pieces, hcuts⟩
      have hlimit : ∀ digits, .capture digits ∈ pieces → digits.length ≤ Numeral.digitLimit := by
        intro digits hmem
        rcases hcuts.split_of_mem hmem with ⟨⟨before, after, hsplit⟩, hdigits⟩
        exact hshort before digits after hsplit hdigits
      refine ⟨pieces, hcuts, fun others hothers => hothers.unique hcuts, ?_⟩
      rw [happly, fillCaptures_of_cuts found hcuts, CapturePiece.tryFillAll_eq found hlimit]
    · intro a b hparted
      rw [happly, happly, happly, fillCaptures_append found hparted]
  · intro hnone template
    rw [applyCaptures, hnone]

/-- A pattern with two groups, of which one takes part in a match. -/
def eitherLetter : List Char :=
  ['(', 'a', ')', '|', '(', 'b', ')']

/-- A template with a group that takes no part, one with a zero in front of its number, one that does
not exist, and backslashes that are no captures. -/
def numberedTemplate : List Char :=
  ['\\', '1', '\\', '0', '2', '\\', '\\', '7', '\\']

theorem numbered_template_is_filled :
    ∃ pattern found, compilePattern eitherLetter = .ok pattern ∧
      pattern.search ['b'] = some found ∧ ShortCaptures numberedTemplate ∧
      applyCaptures pattern ['b'] numberedTemplate = .ok ['b', '\\', '\\'] := by
  have hgroups : (compilePattern eitherLetter).toOption.bind
      (fun pattern => (pattern.search ['b']).map (·.groups)) =
        some #[some ['b'], none, some ['b']] := by decide +kernel
  have hshort : ShortCaptures numberedTemplate := by
    intro before digits after hsplit _
    have hlength := congrArg List.length hsplit
    simp only [numberedTemplate, List.length_append, List.length_cons, List.length_nil] at hlength
    have hlimit : 9 ≤ Numeral.digitLimit := by decide
    omega
  have hcuts : CapturePiece.Cuts numberedTemplate
      [.capture ['1'], .capture ['0', '2'], .kept '\\', .capture ['7'], .kept '\\'] := by
    have hslash : ∀ rest, ¬ StartsDigit ('\\' :: rest) := by
      intro rest
      rw [startsDigit_cons]
      decide
    have hlast : CapturePiece.Cuts ['\\'] [.kept '\\'] := .kept (fun _ => not_startsDigit_nil) .nil
    have hseven := @CapturePiece.Cuts.capture ['7'] _ _ (by decide) (List.all_eq_true.1 rfl)
      (hslash _) hlast
    have hkept := CapturePiece.Cuts.kept (fun (_ : '\\' = '\\') => hslash _) hseven
    have htwo := @CapturePiece.Cuts.capture ['0', '2'] _ _ (by decide) (List.all_eq_true.1 rfl)
      (hslash _) hkept
    exact @CapturePiece.Cuts.capture ['1'] _ _ (by decide) (List.all_eq_true.1 rfl) (hslash _) htwo
  rcases Option.bind_eq_some_iff.1 hgroups with ⟨pattern, hpattern, hmap⟩
  rcases Option.map_eq_some_iff.1 hmap with ⟨found, hfound, hfilled⟩
  have hcompiled : compilePattern eitherLetter = .ok pattern := by
    cases hcompile : compilePattern eitherLetter with
    | error fault => simp [hcompile, Except.toOption] at hpattern
    | ok other => simpa [hcompile, Except.toOption] using hpattern
  rcases ((captures_are_filled_in_one_pass pattern ['b']).1 found hfound).2.1 numberedTemplate
    hshort with ⟨pieces, -, hunique, happly⟩
  refine ⟨pattern, found, hcompiled, hfound, hshort, ?_⟩
  rw [happly, ← hunique _ hcuts]
  simp [CapturePiece.fill, Match.groupText, hfilled, Nat.ofDigitChars]

end Switchboard
