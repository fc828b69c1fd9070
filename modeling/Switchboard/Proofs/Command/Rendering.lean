import Switchboard.Proofs.Command.Losslessness

/-!
# Writing a command and reading it again

`Command.render` writes an equals sign in front and a blank behind the keyword, so that nothing in
the arguments is taken for either. A command that can be written (`IsWritten`) is therefore read
back as it was. Commands that were read from a line need not be of this kind: where the last value
of the parameters went to the target, the line that is written is torn at the same place again.
-/

namespace Switchboard

open Text

/-! ## Groups -/

namespace Group

variable {left rest : List Char}

/-- A proper group is read off its text, unless what follows could be its value. -/
theorem readOne?_text {g : Group} (hg : g.IsProper) (hrest : AtSeparator rest)
    (hvalue : g.value = none → ∀ target, rest ≠ '=' :: target) :
    readOne? (g.text ++ rest) = some (g, rest) := by
  rcases g with ⟨key, - | value⟩
  · have hread : readValue rest = (none, rest) := by
      unfold readValue
      split
      case h_1 target => exact absurd rfl (hvalue rfl target)
      case h_2 => rfl
    simp [readOne?, text, hg.key_plain.takeWhile_append hrest, hg.key_plain.dropWhile_append hrest,
      hread, hg.key_ne_nil]
  · have hplain := hg.value_plain value rfl
    have hequals := atSeparator_equals (value ++ rest)
    simp [readOne?, text, hg.key_plain.takeWhile_append hequals,
      hg.key_plain.dropWhile_append hequals, hplain.takeWhile_append hrest,
      hplain.dropWhile_append hrest, hg.key_ne_nil]

theorem atSeparator_text (g : Group) (s : List Char) : AtSeparator (g.text ++ s) :=
  atSeparator_semicolon _

theorem atSeparator_targetText (target : Option (List Char)) :
    AtSeparator (targetText target) := by
  cases target with
  | none => exact atSeparator_nil
  | some target => exact atSeparator_equals target

/-- The last of the groups has a value, if there is a target behind them. -/
def ClosedBefore (groups : List Group) (target : Option (List Char)) : Prop :=
  target.isSome → ∀ g, groups.getLast? = some g → g.value ≠ none

/-- Groups are read off their text if what is left starts no group and is not the value of the
last one. -/
theorem readAll_textOf_append {groups : List Group} {left : List Char}
    (hproper : ∀ g ∈ groups, g.IsProper) (hleft : AtSeparator left) (hnone : readOne? left = none)
    (hclosed : ∀ target, left = '=' :: target →
      ∀ g, groups.getLast? = some g → g.value ≠ none) :
    readAll (textOf groups ++ left) = (groups, left) := by
  induction groups with
  | nil => exact readAll_of_none hnone
  | cons g groups ih =>
    have hmore : ∀ g ∈ groups, g.IsProper := fun g hg => hproper g (List.mem_cons_of_mem _ hg)
    -- behind the last group stands what is left, and behind any other one a semicolon
    have hrest : AtSeparator (textOf groups ++ left) ∧
        (g.value = none → ∀ more, textOf groups ++ left ≠ '=' :: more) := by
      cases groups with
      | nil => exact ⟨hleft, fun hvalue more heq => hclosed more heq g rfl hvalue⟩
      | cons next groups =>
        rw [textOf_cons, List.append_assoc]
        exact ⟨atSeparator_text next _, fun _ more heq => by cases heq⟩
    have hbehind : ∀ target, left = '=' :: target →
        ∀ g, groups.getLast? = some g → g.value ≠ none := by
      intro target heq last hlast
      refine hclosed target heq last ?_
      rw [List.getLast?_cons, hlast]
      rfl
    have hone := readOne?_text (hproper g List.mem_cons_self) hrest.1 hrest.2
    rw [textOf_cons, List.append_assoc, readAll_of_some hone, ih hmore hbehind]

/-- Groups in front of a target are read off their text. -/
theorem readAll_textOf {groups : List Group} {target : Option (List Char)}
    (hproper : ∀ g ∈ groups, g.IsProper) (hclosed : ClosedBefore groups target) :
    readAll (textOf groups ++ targetText target) = (groups, targetText target) := by
  cases target with
  | none => exact readAll_textOf_append hproper atSeparator_nil rfl (by simp [targetText])
  | some target =>
    exact readAll_textOf_append hproper (atSeparator_equals target) rfl fun _ _ => hclosed rfl

theorem settleText?_textOf {groups : List Group} {target : Option (List Char)}
    (hproper : ∀ g ∈ groups, g.IsProper) (hclosed : ClosedBefore groups target) :
    settleText? (textOf groups ++ targetText target) = some (groups, target) := by
  rw [settleText?, readAll_textOf hproper hclosed]
  cases target <;> rfl

end Group

/-! ## Keywords -/

/-- In front of a blank a keyword is read as such, and so is its absence. -/
theorem Action.read_word {action? : Option Action}
    (h : ∀ action, action? = some action → action ∈ Action.readable) (s : List Char) :
    Action.read (Action.word action? ++ ' ' :: s) = (action?, ' ' :: s) := by
  have hends : Action.endsKeyword (' ' :: s) = true := rfl
  cases action? with
  | none => rfl
  | some action =>
    cases action with
    -- there is no keyword for `dispatch`
    | dispatch => exact absurd (h .dispatch rfl) (by decide)
    | _ => simp [Action.read, Action.readable, Action.readAmong, Action.word, Action.keyword,
        dropLead?, hends]

namespace Command

/-! ## Lines that are written -/

theorem render_eq (c : Command) :
    c.render = '=' :: (Action.word c.action ++
      ' ' :: (c.args ++ (c.params ++ Group.targetText c.target))) := by
  rcases c with ⟨- | action, args, params, - | target⟩ <;>
    simp [render, Action.word, Group.targetText]

/-- A written line is cut where it was put together. -/
theorem parse_written {action? : Option Action} {args rest : List Char} {kept : List Group}
    {target : Option (List Char)} (haction : ∀ a, action? = some a → a ∈ Action.readable)
    (hargs : PlainText args) (hrest : AtSeparator rest)
    (hsettle : Group.settleText? rest = some (kept, target)) :
    parse ('=' :: (Action.word action? ++ ' ' :: (args ++ rest))) =
      ⟨action?, args, Group.textOf kept, target⟩ := by
  have hbody : body ('=' :: (Action.word action? ++ ' ' :: (args ++ rest))) =
      Action.word action? ++ ' ' :: (args ++ rest) := rfl
  have hread := Action.read_word haction (args ++ rest)
  have hcut : cutArgs (Action.word action? ++ ' ' :: (args ++ rest)) = (args, rest) := by
    have hblank : dropBlank (' ' :: (args ++ rest)) = args ++ rest := rfl
    rw [cutArgs, hread, hblank, hargs.takeWhile_append hrest, hargs.dropWhile_append hrest]
  rw [parse_eq_settled, hbody, hread, hcut, hsettle]
  rfl

/-- A command as it can be written: its action can be read, its arguments and groups hold no
separators of their own, and where a target follows parameters, the last of these has a value. -/
structure IsWritten (c : Command) : Prop where
  readable : ∀ a, c.action = some a → a ∈ Action.readable
  args_plain : PlainText c.args
  params_groups : ∃ groups, c.params = Group.textOf groups ∧ (∀ g ∈ groups, g.IsProper) ∧
    Group.ClosedBefore groups c.target

theorem IsWritten.parse_render {c : Command} (h : c.IsWritten) : parse c.render = c := by
  rcases c with ⟨action?, args, params, target⟩
  rcases h.params_groups with ⟨groups, hparams, hproper, hclosed⟩
  have hsettle := Group.settleText?_textOf hproper hclosed
  have hrest : AtSeparator (Group.textOf groups ++ Group.targetText target) := by
    cases groups with
    | nil => exact Group.atSeparator_targetText target
    | cons g groups =>
      rw [Group.textOf_cons, List.append_assoc]
      exact Group.atSeparator_text g _
  simp only at hparams
  rw [render_eq, hparams]
  exact parse_written h.readable h.args_plain hrest hsettle

/-- A command of nothing but a target, or of nothing at all, can be written. -/
theorem isWritten_target (target : Option (List Char)) : IsWritten ⟨none, [], [], target⟩ where
  readable := by
    intro a h
    cases h
  args_plain := .nil
  params_groups := by
    refine ⟨[], rfl, by simp, ?_⟩
    intro _ g hlast
    cases hlast

/-- Writing the command of a line gives a line of the same command. -/
theorem parse_render_parse (line : List Char) : parse (parse line).render = parse line := by
  rcases front_of_cutArgs (body line) with ⟨blank, hfront, -⟩
  rw [parse_eq_settled line]
  rcases hsettle : Group.settleText? (cutArgs (body line)).2 with - | ⟨kept, target⟩
  · rw [settled]
    split
    · exact (isWritten_target (some (body line))).parse_render
    · exact (isWritten_target none).parse_render
  · -- what is written behind the arguments is what stood there, torn or not
    have htext := (Group.settleText?_spec hfront.atSeparator hsettle).2
    rw [render_eq, settled, htext]
    exact parse_written hfront.readable hfront.args_plain hfront.atSeparator hsettle

/-- Reading gives back what was written: the command of every line, and every command that can be
written. -/
theorem render_is_read_back :
    (∀ line, parse (parse line).render = parse line) ∧
    ∀ c : Command, c.IsWritten → parse c.render = c :=
  ⟨parse_render_parse, fun _ h => h.parse_render⟩

/-- A command whose arguments look like a keyword, with parameters and a target that look like more
of them. -/
def guarded : Command :=
  ⟨none, [' ', 'i', 'f', ' '], [';', 'k', ';', 'v', '='], some [';', 'w', '=', ';']⟩

theorem guarded_is_read_back :
    guarded.IsWritten ∧ parse guarded.render = guarded ∧
      parse (parse [' ', 'a', ';', 'k', '=', 'v', ';']).render =
        parse [' ', 'a', ';', 'k', '=', 'v', ';'] := by
  have hwritten : guarded.IsWritten := by
    refine ⟨by simp [guarded], .of_all rfl, [⟨['k'], none⟩, ⟨['v'], some []⟩], rfl, ?_, ?_⟩
    · intro g hg
      rcases List.mem_cons.1 hg with rfl | hg
      · exact ⟨by decide, .of_all rfl, by simp⟩
      · rw [List.mem_singleton.1 hg]
        exact ⟨by decide, .of_all rfl, by simp [PlainText]⟩
    · intro _ g hlast
      cases hlast
      simp
  exact ⟨hwritten, render_is_read_back.2 guarded hwritten, render_is_read_back.1 _⟩

end Command
end Switchboard
