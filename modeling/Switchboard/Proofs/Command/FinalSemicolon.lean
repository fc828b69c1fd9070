import Switchboard.Proofs.Command.Rendering

/-!
# A semicolon at the end of a line

A semicolon behind the last parameter starts a group that has no key, so the line does not fit as it
stands. It is not always refused: the parameters are cut at their last equals sign, and what stands
behind that becomes the target with the semicolon, if a value was written at all
(`Group.tearLast?_spec`). Without any value a line that is opened by an equals sign is all target.
Only what is left is the empty command (`final_semicolon_cuts_parameters`).
-/

namespace Switchboard

open Text

/-- Of two ways to cut a text at its last separator both are the same. -/
theorem eq_of_last_separator {c : Char} {a b a' b' : List Char} (h : a ++ c :: b = a' ++ c :: b')
    (hb : c ∉ b) (hb' : c ∉ b') : a = a' ∧ b = b' := by
  rcases List.append_eq_append_iff.1 h with ⟨e, rfl, htail⟩ | ⟨e, rfl, htail⟩
  · cases e with
    | nil => simpa using htail
    | cons d e =>
      -- what is between the two separators would stand behind the first one
      rw [List.cons_append, List.cons.injEq] at htail
      exact absurd (htail.2 ▸ List.mem_append_right e List.mem_cons_self) hb
  · cases e with
    | nil => simpa [eq_comm] using htail
    | cons d e =>
      rw [List.cons_append, List.cons.injEq] at htail
      exact absurd (htail.2 ▸ List.mem_append_right e List.mem_cons_self) hb'

/-! ## Groups in front of a semicolon -/

namespace Group

theorem equals_notMem_text {g : Group} (hg : g.IsProper) (hvalue : g.value = none) :
    '=' ∉ g.text := by
  simpa [text, hvalue] using hg.key_plain.equals_notMem

/-- What is given up by groups is all behind the last equals sign of their text, if there is one. -/
theorem tearLast?_spec {groups : List Group} (hproper : ∀ g ∈ groups, g.IsProper) :
    (tearLast? groups = none ∧ '=' ∉ textOf groups) ∨
      ∃ kept tail, tearLast? groups = some (kept, tail) ∧
        textOf groups = textOf kept ++ '=' :: tail ∧ '=' ∉ tail := by
  induction groups with
  | nil => exact .inl ⟨rfl, by simp⟩
  | cons g groups ih =>
    have hg := hproper g List.mem_cons_self
    rw [tearLast?, textOf_cons]
    rcases ih fun g hg => hproper g (List.mem_cons_of_mem _ hg) with
      ⟨hnone, hequals⟩ | ⟨kept, tail, hsome, htext, htail⟩
    · rw [hnone]
      cases hvalue : g.value with
      | none =>
        refine .inl ⟨rfl, ?_⟩
        rw [List.mem_append, not_or]
        exact ⟨equals_notMem_text hg hvalue, hequals⟩
      | some value =>
        refine .inr ⟨[⟨g.key, none⟩], value ++ textOf groups, rfl, by simp [text, hvalue], ?_⟩
        rw [List.mem_append, not_or]
        exact ⟨(hg.value_plain value hvalue).equals_notMem, hequals⟩
    · rw [hsome]
      exact .inr ⟨g :: kept, tail, rfl, by rw [htext, textOf_cons, List.append_assoc], htail⟩

/-- What becomes of groups with a semicolon behind them. -/
theorem settleText?_textOf_semicolon {groups : List Group} (hproper : ∀ g ∈ groups, g.IsProper) :
    settleText? (textOf groups ++ [';']) =
      (tearLast? groups).map fun (kept, tail) => (kept, some (tail ++ [';'])) := by
  have hread := readAll_textOf_append hproper (atSeparator_semicolon []) rfl (by simp)
  rw [settleText?, hread, settle?_semicolon]

end Group

/-! ## The front of a longer line -/

namespace Action

/-- A text that does not end within a word shows its keyword, whatever is put behind it. -/
theorem readAmong_append {s : List Char} (h : ¬ PlainText s) (t : List Char)
    (actions : List Action) :
    readAmong actions (s ++ t) = ((readAmong actions s).1, (readAmong actions s).2 ++ t) := by
  induction actions with
  | nil => rfl
  | cons action actions ih =>
    have hplain := action.keyword_plain
    rw [readAmong, readAmong]
    cases hlead : dropLead? action.keyword s with
    | some rest =>
      have hs := dropLead?_eq_some.1 hlead
      have hlonger : dropLead? action.keyword (s ++ t) = some (rest ++ t) :=
        dropLead?_eq_some.2 (by rw [hs, List.append_assoc])
      -- the keyword is plain, so something stands behind it
      have hends : endsKeyword (rest ++ t) = endsKeyword rest := by
        cases rest with
        | nil => exact absurd (by rwa [hs, List.append_nil]) h
        | cons c rest => rfl
      simp only [hlonger, hends]
      by_cases hblank : endsKeyword rest = true
      · rw [if_pos hblank, if_pos hblank]
      · rw [if_neg hblank, if_neg hblank, ih]
    | none =>
      have hlonger : dropLead? action.keyword (s ++ t) = none := by
        cases hsome : dropLead? action.keyword (s ++ t) with
        | none => rfl
        | some rest =>
          rcases List.append_eq_append_iff.1 (dropLead?_eq_some.1 hsome) with
            ⟨e, hkeyword, -⟩ | ⟨e, hs, -⟩
          · -- the text would be part of the keyword
            refine absurd (fun c hc => hplain c ?_) h
            rw [hkeyword]
            exact List.mem_append_left e hc
          · rw [dropLead?_eq_some.2 hs] at hlead
            cases hlead
      simp only [hlonger, ih]

end Action

theorem AtSeparator.append_semicolon {s : List Char} (h : AtSeparator s) :
    AtSeparator (s ++ [';']) := by
  cases s with
  | nil => exact atSeparator_semicolon []
  | cons c rest =>
    intro d more heq
    cases heq
    exact h c rest rfl

namespace Command

/-- What stands behind the arguments starts at the first separator. -/
theorem cutArgs_snd (s : List Char) : (cutArgs s).2 = s.dropWhile isPlainChar := by
  rcases front_of_cutArgs s with ⟨blank, hfront, hs⟩
  conv_rhs => rw [hs, hfront.plain.dropWhile_append hfront.atSeparator]

theorem cutArgs_semicolon_snd (s : List Char) :
    (cutArgs (s ++ [';'])).2 = (cutArgs s).2 ++ [';'] := by
  rcases front_of_cutArgs s with ⟨blank, hfront, hs⟩
  conv_lhs =>
    rw [cutArgs_snd, hs, List.append_assoc,
      hfront.plain.dropWhile_append hfront.atSeparator.append_semicolon]

/-- A semicolon behind parameters changes neither the keyword nor the arguments. -/
theorem front_semicolon {s : List Char} (h : (cutArgs s).2 ≠ []) :
    (Action.read (s ++ [';'])).1 = (Action.read s).1 ∧
      (cutArgs (s ++ [';'])).1 = (cutArgs s).1 := by
  have hplain : ¬ PlainText s := by
    intro hall
    refine h ?_
    rw [cutArgs_snd, ← List.append_nil s, hall.dropWhile_append atSeparator_nil]
  have hread := Action.readAmong_append hplain [';'] Action.readable
  rw [← Action.read, ← Action.read] at hread
  refine ⟨by rw [hread], ?_⟩
  -- something stands behind the keyword, so the blank is the same
  have hblank : dropBlank ((Action.read s).2 ++ [';']) = dropBlank (Action.read s).2 ++ [';'] := by
    cases hrest : (Action.read s).2 with
    | nil => simp [cutArgs, hrest, dropBlank] at h
    | cons c rest =>
      rw [List.cons_append, dropBlank, dropBlank]
      by_cases hc : isBlank c = true
      · rw [if_pos hc, if_pos hc]
      · rw [if_neg hc, if_neg hc, List.cons_append]
  have hcut : (cutArgs s).1 ++ (cutArgs s).2 = dropBlank (Action.read s).2 :=
    List.takeWhile_append_dropWhile
  rcases front_of_cutArgs s with ⟨blank, hfront, -⟩
  calc
    (cutArgs (s ++ [';'])).1
        = (dropBlank (Action.read s).2 ++ [';']).takeWhile isPlainChar := by
          rw [cutArgs, hread, hblank]
    _ = ((cutArgs s).1 ++ ((cutArgs s).2 ++ [';'])).takeWhile isPlainChar := by
          rw [← List.append_assoc, hcut]
    _ = (cutArgs s).1 := hfront.args_plain.takeWhile_append hfront.atSeparator.append_semicolon

theorem stripStart_semicolon (line : List Char) :
    stripStart (line ++ [';']) = stripStart line ++ [';'] := by
  rw [stripStart, stripStart]
  induction line with
  | nil => rfl
  | cons c rest ih =>
    rw [List.cons_append, List.dropWhile_cons, List.dropWhile_cons]
    by_cases hc : isBlank c = true
    · rw [if_pos hc, if_pos hc, ih]
    · rw [if_neg hc, if_neg hc, List.cons_append]

/-- A semicolon behind a line stands behind its body. -/
theorem opening_semicolon (line : List Char) :
    isOpened (line ++ [';']) = isOpened line ∧ body (line ++ [';']) = body line ++ [';'] := by
  rw [isOpened, body, isOpened, body, stripStart_semicolon]
  rcases stripStart line with - | ⟨c, rest⟩
  · exact ⟨rfl, rfl⟩
  · rw [List.cons_append]
    unfold dropOpening
    split
    case h_1 heq =>
      cases heq
      exact ⟨rfl, rfl⟩
    case h_2 hne =>
      split
      case h_1 heq =>
        cases heq
        exact absurd rfl (hne _)
      case h_2 => exact ⟨rfl, rfl⟩

/-! ## The command of a line with a semicolon behind it -/

/-- A line that fits and has no target is read up to its end. -/
theorem settled_of_no_target {line : List Char} (hfits : ¬ Misfit line)
    (htarget : (parse line).target = none) :
    ∃ groups, (∀ g ∈ groups, g.IsProper) ∧ (cutArgs (body line)).2 = Group.textOf groups ∧
      parse line =
        ⟨(Action.read (body line)).1, (cutArgs (body line)).1, Group.textOf groups, none⟩ := by
  rcases front_of_cutArgs (body line) with ⟨blank, hfront, -⟩
  rw [misfit_iff, not_and_or] at hfits
  rw [parse_eq_settled] at htarget ⊢
  rcases hsettle : Group.settleText? (cutArgs (body line)).2 with - | ⟨kept, target⟩
  · -- all of an opened line would be target
    rcases hfits with hopened | hsome
    · rw [hsettle, settled, if_pos (by simpa using hopened)] at htarget
      cases htarget
    · exact absurd hsettle hsome
  · rcases Group.settleText?_spec hfront.atSeparator hsettle with ⟨hproper, htext⟩
    rw [hsettle, settled] at htarget
    subst htarget
    exact ⟨kept, hproper, by simpa [Group.targetText] using htext.symm, rfl⟩

/-- Action, arguments and parameters are the same. -/
def SameFront (c d : Command) : Prop :=
  c.action = d.action ∧ c.args = d.args ∧ c.params = d.params

/-- A semicolon behind a line without target, if the line has no value among its parameters, makes
all of it the target if it is opened, and else unfit. Otherwise it cuts the parameters at their last
equals sign: what stands in front of that is kept, and what stands behind it is the target with the
semicolon. So the line stays as it is but for its target, or does not fit, just if there is no value
among the parameters and nothing to lose in an opened line. -/
theorem final_semicolon_cuts_parameters {line : List Char} (hfits : ¬ Misfit line)
    (htarget : (parse line).target = none) :
    ('=' ∉ (parse line).params →
      parse (line ++ [';']) =
        if isOpened line then ⟨none, [], [], some (body line ++ [';'])⟩ else empty) ∧
    (∀ kept torn, (parse line).params = kept ++ '=' :: torn → '=' ∉ torn →
      parse (line ++ [';']) =
        ⟨(parse line).action, (parse line).args, kept, some (torn ++ [';'])⟩) ∧
    ((parse (line ++ [';']) = empty ∨ SameFront (parse line) (parse (line ++ [';']))) ↔
      '=' ∉ (parse line).params ∧
        (isOpened line = true → SameFront (parse line) empty)) := by
  rcases settled_of_no_target hfits htarget with ⟨groups, hproper, hrest, hline⟩
  rcases opening_semicolon line with ⟨hopened, hbody⟩
  have hparse : parse (line ++ [';']) = settled (isOpened line) (body line ++ [';'])
      (Action.read (body line ++ [';'])).1 (cutArgs (body line ++ [';'])).1
      ((Group.tearLast? groups).map fun (kept, tail) => (kept, some (tail ++ [';']))) := by
    rw [parse_eq_settled, hopened, hbody, cutArgs_semicolon_snd, hrest,
      Group.settleText?_textOf_semicolon hproper]
  rw [hline]
  rcases Group.tearLast?_spec hproper with ⟨hnone, hequals⟩ | ⟨kept, tail, hsome, htext, htail⟩
  · rw [hnone, Option.map_none, settled] at hparse
    refine ⟨fun _ => hparse, ?_, ?_⟩
    · intro kept torn (hsplit : Group.textOf groups = kept ++ '=' :: torn)
      exact absurd (hsplit ▸ List.mem_append_right kept List.mem_cons_self) hequals
    · rw [hparse]
      cases isOpened line with
      | true => simp [SameFront, empty, hequals]
      | false => simp [hequals]
  · have hmem : '=' ∈ Group.textOf groups := htext ▸ List.mem_append_right _ List.mem_cons_self
    -- where there is a value, there are parameters
    have hne : (cutArgs (body line)).2 ≠ [] := by
      rw [hrest]
      exact List.ne_nil_of_mem hmem
    rcases front_semicolon hne with ⟨haction, hargs⟩
    rw [hsome, Option.map_some, settled, haction, hargs] at hparse
    refine ⟨fun hequals => absurd hmem hequals, ?_, ?_⟩
    · intro kept' torn hsplit htorn
      rcases eq_of_last_separator (htext.symm.trans hsplit) htail htorn with ⟨rfl, rfl⟩
      exact hparse
    · refine iff_of_false ?_ fun h => h.1 hmem
      rw [hparse]
      rintro (hempty | ⟨-, -, hparams⟩)
      · simp [empty] at hempty
      · rw [htext] at hparams
        simp at hparams

/-- An answer with two parameters, of which one has a value: `return a;k=v;w`. -/
def valuedAnswer : List Char :=
  ['r', 'e', 't', 'u', 'r', 'n', ' ', 'a', ';', 'k', '=', 'v', ';', 'w']

theorem parse_valuedAnswer :
    parse valuedAnswer = ⟨some .answer, ['a'], [';', 'k', '=', 'v', ';', 'w'], none⟩ := by
  decide +kernel

theorem not_misfit_valuedAnswer : ¬ Misfit valuedAnswer := by
  intro hmisfit
  have hempty := (parse_of_misfit hmisfit).symm.trans parse_valuedAnswer
  simp [empty] at hempty

/-- The value of `k` and all behind it goes to the target. -/
theorem valued_answer_is_cut :
    (¬ Misfit valuedAnswer ∧ (parse valuedAnswer).target = none) ∧
    parse (valuedAnswer ++ [';']) =
      ⟨some .answer, ['a'], [';', 'k'], some ['v', ';', 'w', ';']⟩ := by
  have htarget : (parse valuedAnswer).target = none := by rw [parse_valuedAnswer]
  have hparams : (parse valuedAnswer).params = [';', 'k'] ++ '=' :: ['v', ';', 'w'] := by
    rw [parse_valuedAnswer]
    rfl
  have hcut := (final_semicolon_cuts_parameters not_misfit_valuedAnswer htarget).2.1 _ _ hparams
    (by decide)
  rw [parse_valuedAnswer] at hcut
  exact ⟨⟨not_misfit_valuedAnswer, htarget⟩, hcut⟩

/-- A semicolon at the end can take a value from a parameter. -/
theorem final_semicolon_tears_value :
    ¬ ∀ line : List Char, ¬ Misfit line → (parse line).target = none →
      parse (line ++ [';']) = empty ∨ SameFront (parse line) (parse (line ++ [';'])) := by
  intro h
  have htorn : parse (valuedAnswer ++ [';']) =
      ⟨some .answer, ['a'], [';', 'k'], some ['v', ';', 'w', ';']⟩ := by decide +kernel
  rcases h valuedAnswer not_misfit_valuedAnswer (by rw [parse_valuedAnswer]) with
    hempty | ⟨-, -, hparams⟩
  · rw [htorn] at hempty
    simp [empty] at hempty
  · rw [htorn, parse_valuedAnswer] at hparams
    simp at hparams

end Command
end Switchboard
