import Switchboard.Proofs.Command.Grammar

/-!
# The expression of command lines

The search for the pattern of command lines, with all that it tries and takes back, finds a match in
just the lines that are read, and the groups of the match are the parts that the reader cuts off
(`Command.expression_accounts_for_line`).
-/

namespace Switchboard

open Text Pattern Command

namespace Expression

/-! ## Lines -/

/-- The marks of a line that is read. -/
def markLine (line : List Char) (marks : Marks) : Marks :=
  match Group.settleText? (Command.cutArgs (Command.body line)).2 with
  | some (kept, target) => markBody line.toArray (Command.body line) kept target marks
  | none => markBody line.toArray (stripStart line) [] (some (Command.body line)) marks

theorem at_line (line : List Char) :
    At line.toArray 0 (line.takeWhile isBlank ++ stripStart line) := by
  rw [← line_eq]
  exact at_zero line

theorem at_stripStart (line : List Char) :
    At line.toArray (line.takeWhile isBlank).length (stripStart line) := by
  simpa using (at_line line).append

theorem root_run (line : List Char) (marks : Marks) :
    compiled.root.run line.toArray 0 marks done =
      (Node.many 0 blankSet).run line.toArray 0 marks fun next marks =>
        fromOpening.run line.toArray next marks done := by
  simp [compiled, Node.run_anchor, Anchor.holds]

/-- The blanks in front are all taken if this leads to a match. -/
theorem root_run_of_some {line : List Char} {marks : Marks} {found : Reached}
    (h : fromOpening.run line.toArray (line.takeWhile isBlank).length marks done = some found) :
    compiled.root.run line.toArray 0 marks done = some found := by
  rw [root_run]
  refine Node.run_many_of_some (at_line line) ?_ ?_ (Nat.zero_le _) ?_
  · simp
  · simpa [stripStart] using head?_any_dropWhile isBlank line
  · simpa using h

/-- A line that is read matches from its start to its end. -/
theorem root_run_of_fits {line : List Char} {marks : Marks}
    (h : isOpened line = true ∨ (Group.settleText? (cutArgs (body line)).2).isSome) :
    compiled.root.run line.toArray 0 marks done = some ⟨line.length, markLine line marks⟩ := by
  have hat := at_stripStart line
  refine root_run_of_some ?_
  rcases isOpened_cases line with ⟨-, hstrip⟩ | ⟨hopened, hstrip, hne⟩
  · rw [hstrip] at hat
    rw [run_fromOpening_of_opened hat, markLine, hstrip]
    rfl
  · rw [hopened] at h
    cases hsettle : Group.settleText? (cutArgs (body line)).2 with
    | none => simp [hsettle] at h
    | some settled =>
      rcases settled with ⟨kept, target⟩
      rw [run_fromOpening_of_ne hat hne, run_fromAction (hstrip ▸ hat) hsettle, markLine,
        hsettle]
      rfl

/-- A line that is not read does not match at its start. -/
theorem root_run_eq_none {line : List Char} {marks : Marks} (hopened : isOpened line = false)
    (hsettle : Group.settleText? (cutArgs (body line)).2 = none) :
    compiled.root.run line.toArray 0 marks done = none := by
  rcases exists_semicolon hsettle with ⟨t, more, hbody, ht, hmore⟩
  rcases isOpened_cases line with ⟨hopen, -⟩ | ⟨-, hstrip, -⟩
  · simp [hopened] at hopen
  · have hat := at_line line
    rw [hstrip, hbody, ← List.append_assoc] at hat
    have hplain : PlainText (line.takeWhile isBlank ++ t) :=
      (PlainText.of_isBlank (blanks_of_line line)).append ht
    -- nothing from the blanks to the keyword can read the semicolon
    rw [root_run]
    simp only [fromOpening, Node.run_seq]
    exact Node.rejects_of_avoids rfl (Node.rejects_of_avoids rfl (rejects_fromAction hmore)) _ 0
      marks (List.all_eq_true.2 hplain) hat

/-! ## What the groups show -/

/-- The command that the groups of the marks show. -/
def shown (text : Array Char) (marks : Marks) : Command where
  action := (marks.text? text 1).bind fun w => Action.readable.find? (·.keyword == w)
  args := (marks.text? text 2).getD []
  params := (marks.text? text 3).getD []
  target := (marks.text? text 4).map (·.drop 1)

theorem At.suffix {text : Array Char} {p : Nat} {s t : List Char} (hat : At text p (t ++ s)) :
    At text (text.size - s.length) s := by
  have hsize := hat.append.add_length
  have hplace : text.size - s.length = p + t.length := by omega
  rw [hplace]
  exact hat.append

/-- Before the search no group has matched. -/
def noMarks : Marks :=
  Array.replicate (2 * (compiled.groups + 1)) none

theorem text?_noMarks (text : Array Char) (number : Nat) :
    Marks.text? text noMarks number = none := by
  have hnone : ∀ place : Nat, noMarks[place]?.getD none = none := by
    intro place
    rw [noMarks, Array.getElem?_replicate]
    split <;> rfl
  simp [Marks.text?, Marks.group?, hnone]

theorem find?_keyword {action : Action} (h : action ∈ Action.readable) :
    Action.readable.find? (·.keyword == action.keyword) = some action := by
  revert action
  decide

/-- A group that takes part shows its text, unless it is empty. -/
def piece (s : List Char) : Option (List Char) :=
  if s.isEmpty then none else some s

theorem piece_getD (s : List Char) : (piece s).getD [] = s := by
  cases s <;> rfl

theorem piece_targetText (target : Option (List Char)) :
    (piece (Group.targetText target)).map (·.drop 1) = target := by
  cases target <;> rfl

theorem piece_word {action : Option Action} (h : ∀ a, action = some a → a ∈ Action.readable) :
    ((piece (Action.word action)).bind fun w => Action.readable.find? (·.keyword == w)) =
      action := by
  cases action with
  | none => rfl
  | some a =>
    have hpiece : piece (Action.word (some a)) = some a.keyword := by cases a <;> rfl
    rw [hpiece, Option.bind_some, find?_keyword (h a rfl)]

/-- The groups show the texts that they are recorded with. -/
theorem shown_recorded {text : Array Char} {action : Option Action} {args params : List Char}
    {target : Option (List Char)} {p₁ p₂ p₃ p₄ : Nat} {r₁ r₂ r₃ r₄ : List Char}
    (h₁ : At text p₁ (Action.word action ++ r₁)) (h₂ : At text p₂ (args ++ r₂))
    (h₃ : At text p₃ (params ++ r₃)) (h₄ : At text p₄ (Group.targetText target ++ r₄))
    (haction : ∀ a, action = some a → a ∈ Action.readable) :
    shown text (Marks.recordIf 4 p₄ (Group.targetText target) (Marks.recordIf 3 p₃ params
      (Marks.recordIf 2 p₂ args (Marks.recordIf 1 p₁ (Action.word action) noMarks)))) =
      ⟨action, args, params, target⟩ := by
  -- four numbers, so no later group overwrites what an earlier one shows
  have hself : ∀ {number p : Nat} {s r : List Char} {marks : Marks}, number ≤ 4 →
      At text p (s ++ r) → marks.size = 10 → marks.text? text number = none →
      (marks.recordIf number p s).text? text number = piece s := by
    intro number p s r marks hle hat hmarks hnone
    exact Marks.text?_recordIf_self (by omega) hat hnone
  have hne : ∀ {other number p : Nat} {s : List Char} {marks : Marks}, other ≠ number →
      (marks.recordIf number p s).text? text other = marks.text? text other :=
    fun h => Marks.text?_recordIf_of_ne h
  have hsize : noMarks.size = 10 := rfl
  rw [shown, hne (by decide), hne (by decide), hne (by decide),
    hself (by decide) h₁ hsize (text?_noMarks _ _),
    hne (by decide), hne (by decide), hself (by decide) h₂ (by simp [hsize])
      (by rw [hne (by decide), text?_noMarks]),
    hne (by decide), hself (by decide) h₃ (by simp [hsize])
      (by rw [hne (by decide), hne (by decide), text?_noMarks]),
    hself (by decide) h₄ (by simp [hsize])
      (by rw [hne (by decide), hne (by decide), hne (by decide), text?_noMarks]),
    piece_word haction, piece_getD, piece_getD, piece_targetText]

/-- The groups of a text show what the reader cuts off it. -/
theorem shown_markBody {text : Array Char} {p : Nat} {s : List Char} {kept : List Group}
    {target : Option (List Char)} (hat : At text p s)
    (hsettle : Group.settleText? (cutArgs s).2 = some (kept, target)) :
    shown text (markBody text s kept target noMarks) =
      ⟨(Action.read s).1, (cutArgs s).1, Group.textOf kept, target⟩ := by
  rcases Action.readAmong_spec Action.readable s with ⟨hword, haction⟩
  rw [← Action.read] at hword haction
  rcases dropBlank_spec (Action.read s).2 with ⟨blank, hblank, -⟩
  have htext : Group.textOf kept ++ Group.targetText target = (cutArgs s).2 :=
    (Group.settleText?_spec (atSeparator_dropWhile _) hsettle).2
  have hcut : (cutArgs s).1 ++ (cutArgs s).2 = dropBlank (Action.read s).2 :=
    List.takeWhile_append_dropWhile
  -- where each part of the text stands
  have hat₁ : At text (text.size - s.length)
      (Action.word (Action.read s).1 ++ (Action.read s).2) :=
    hword ▸ At.suffix (t := []) hat
  have hat₂ : At text (text.size - (dropBlank (Action.read s).2).length)
      ((cutArgs s).1 ++ (cutArgs s).2) := by
    have hbehind := hat₁.append
    rw [hblank] at hbehind
    rw [hcut]
    exact At.suffix hbehind
  have hat₃ := hat₂.append
  rw [← htext] at hat₃
  have hat₄ := hat₃.append
  rw [← List.append_nil (Group.targetText target)] at hat₄
  exact shown_recorded hat₁ hat₂ hat₃ hat₄ fun a ha => (haction a ha).1

/-- The groups of a line that is read show its command. -/
theorem shown_markLine {line : List Char}
    (h : isOpened line = true ∨ (Group.settleText? (cutArgs (body line)).2).isSome) :
    shown line.toArray (markLine line noMarks) = parse line := by
  have hat := at_stripStart line
  rw [parse_eq_settled, markLine]
  cases hsettle : Group.settleText? (cutArgs (body line)).2 with
  | some settled =>
    rcases settled with ⟨kept, target⟩
    rcases isOpened_cases line with ⟨-, hstrip⟩ | ⟨-, hstrip, -⟩
    · rw [hstrip] at hat
      exact shown_markBody hat.cons hsettle
    · rw [hstrip] at hat
      exact shown_markBody hat hsettle
  | none =>
    rcases isOpened_cases line with ⟨hopened, hstrip⟩ | ⟨hopened, -, -⟩
    · -- all behind the equals sign is target
      rw [hstrip] at hat
      simp only [hstrip, hopened, settled, if_true]
      exact shown_markBody hat (Group.settleText?_equals _)
    · simp [hopened, hsettle] at h

/-! ## The search -/

/-- The command that the groups of a match show. -/
def commandOf (found : Match) : Command where
  action := (found.groups[1]?.getD none).bind fun w => Action.readable.find? (·.keyword == w)
  args := (found.groups[2]?.getD none).getD []
  params := (found.groups[3]?.getD none).getD []
  target := (found.groups[4]?.getD none).map (·.drop 1)

/-- A search shows the command that the marks at the start of the line show. -/
theorem search_eq (line : List Char) :
    (compiled.search line).map commandOf =
      (compiled.root.run line.toArray 0 noMarks done).map fun found =>
        shown line.toArray found.marks := by
  have hsearch := search_of_textStart (.seq (.many 0 blankSet) fromOpening) 4 line
  rw [root_run, ← Node.run_seq, compiled, hsearch, Option.map_map]
  rfl

/-- The search finds nothing in the lines that do not fit. -/
theorem search_of_misfit {line : List Char} (h : Command.Misfit line) :
    compiled.search line = none := by
  rcases (misfit_iff line).1 h with ⟨hopened, hsettle⟩
  have hsearch := search_eq line
  rw [root_run_eq_none hopened hsettle] at hsearch
  exact Option.map_eq_none_iff.1 hsearch

/-- The search finds the command of every other line. -/
theorem search_of_fits {line : List Char} (h : ¬ Command.Misfit line) :
    (compiled.search line).map commandOf = some (parse line) := by
  have hfits : isOpened line = true ∨ (Group.settleText? (cutArgs (body line)).2).isSome := by
    rw [misfit_iff, not_and_or] at h
    simpa [Option.isSome_iff_ne_none] using h
  rw [search_eq, root_run_of_fits hfits, Option.map_some, shown_markLine hfits]

end Expression

namespace Command

open Expression

/-- The expression of command lines is one that is read, it finds a match in all lines but those
that do not fit, and the command of a line is what its groups show, or the empty one if there is no
match. So the command of a line that does not fit is empty, and every other line is all accounted
for by its command. -/
theorem expression_accounts_for_line (line : List Char) :
    ∃ expression, Compiled.ofText source = .ok expression ∧
      (expression.search line = none ↔ Misfit line) ∧
      parse line = ((expression.search line).map commandOf).getD empty ∧
      (Misfit line ∨ Parts line (parse line)) := by
  refine ⟨compiled, ofText_source, ?_, ?_, or_iff_not_imp_left.2 parts_of_fits⟩
  · refine ⟨?_, search_of_misfit⟩
    intro hnone
    by_contra hfits
    have hsearch := search_of_fits hfits
    simp [hnone] at hsearch
  · by_cases hfits : Misfit line
    · rw [search_of_misfit hfits, parse_of_misfit hfits]
      rfl
    · rw [search_of_fits hfits]
      rfl

end Command
end Switchboard
