import Switchboard.Proofs.Command.Keyed
import Switchboard.Proofs.Evaluation.Commands

/-!
# The fields that a rule can write

A rule that answers, or that tests and then answers, names fields as keys of parameters. What a
message holds gets into the text of the rule twice: a test fills in what it captured before the
answer is parsed, and the answer fills in its placeholders before the parameters are cut. Neither is
quoted. As long as nothing that is put in has a semicolon, no field is written but those that the
rule names (`rule_writes_named_fields`). A text with a semicolon writes any field it likes
(`semicolon_writes_other_field`).
-/

namespace Switchboard

open Text

/-! ## Filling in parameters -/

/-- The placeholders of the parameters of a command put in no semicolon: neither a field has one,
nor what a call gives. -/
def PutsInNoSemicolon (source : Source) (m : Message) (command : Command) : Prop :=
  ∀ kind payload draws text, .place kind payload ∈ Segment.segments command.params →
    (segmentText source m draws (.place kind payload)).1 = .ok text → ';' ∉ text

/-- Text that is filled in without a semicolon keeps its known keys. -/
theorem Keyed.of_segmentsText {keys : List (List Char)} {source : Source} {m : Message}
    {segments : List Segment} {draws : Draws} {filled : List Char}
    (hliterals : ∀ text, .literal text ∈ segments → Keyed keys text)
    (hplaces : ∀ kind payload draws text, .place kind payload ∈ segments →
      (segmentText source m draws (.place kind payload)).1 = .ok text → ';' ∉ text)
    (h : (segmentsText source m segments draws).1 = .ok filled) : Keyed keys filled := by
  induction segments generalizing draws filled with
  | nil =>
    cases h
    exact .of_not_mem List.not_mem_nil
  | cons segment rest ih =>
    rcases hsegment : segmentText source m draws segment with ⟨result, after⟩
    cases result with
    | error fault => simp [segmentsText, hsegment] at h
    | ok head =>
      rcases hrest : segmentsText source m rest after with ⟨result', later⟩
      cases result' with
      | error fault => simp [segmentsText, hsegment, hrest] at h
      | ok tail =>
        have hfilled : head ++ tail = filled := by simpa [segmentsText, hsegment, hrest] using h
        have htail : Keyed keys tail := by
          refine ih (fun text ht => hliterals text (List.mem_cons_of_mem _ ht)) ?_
            (by rw [hrest])
          intro kind payload drawn text hmem
          exact hplaces kind payload drawn text (List.mem_cons_of_mem _ hmem)
        have hhead : Keyed keys head := by
          cases segment with
          | literal text =>
            have htext : text = head := by simpa [segmentText] using congrArg Prod.fst hsegment
            exact htext ▸ hliterals text List.mem_cons_self
          | place kind payload =>
            exact .of_not_mem (hplaces kind payload draws head List.mem_cons_self (by rw [hsegment]))
        rw [← hfilled]
        exact hhead.append htail

/-- Parameters with known keys are read as parameters with these keys once they are filled in. -/
theorem key_of_mem_filled {keys : List (List Char)} (hkeys : ∀ key ∈ keys, IsPlainKey key)
    {source : Source} {m : Message} {command : Command} {draws : Draws} {params : List Char}
    (hs : Keyed keys command.params)
    (hstart : command.params = [] ∨ ∃ rest, command.params = ';' :: rest)
    (hclean : PutsInNoSemicolon source m command)
    (h : (fillTemplate source m command.params draws).1 = .ok params)
    {pair : String × String} (hpair : pair ∈ parameters params) :
    ∃ key ∈ keys, pair.1 = String.ofList key := by
  have hliterals : ∀ text, .literal text ∈ Segment.segments command.params → Keyed keys text := by
    intro text htext
    exact keyed_of_mem_scan hkeys [] none command.params (by simpa [openText] using hs) htext
  have hkeyed : Keyed keys params := .of_segmentsText hliterals hclean h
  -- the first piece is text, and what it starts with stays in front
  have hfirst : params = [] ∨ ∃ rest, params = ';' :: rest := by
    rcases hstart with hempty | ⟨rest, hparams⟩
    · rw [hempty] at h
      cases h
      exact .inl rfl
    · have hscan : Segment.segments (';' :: rest) = Segment.scan [';'] none rest := by
        rw [Segment.segments, Segment.scan.eq_3 _ _ _ (by simp)]
      rcases scan_of_concat [';'] none rest ⟨[], rfl⟩ with ⟨text, segments, hsegments⟩
      rcases htail : segmentsText source m segments draws with ⟨result, after⟩
      rw [hparams, fillTemplate, hscan, hsegments] at h
      cases result with
      | error fault => simp [segmentsText, segmentText, htail] at h
      | ok tail =>
        have hfilled : ';' :: text ++ tail = params := by
          simpa [segmentsText, segmentText, htail] using h
        exact .inr ⟨text ++ tail, by simp [← hfilled]⟩
  exact key_of_mem_parameters hkeys hkeyed hfirst hpair

/-! ## Writing fields -/

/-- Parameters write the fields of their names. -/
theorem writeParameters_get? {pairs : Entries String} {name : String}
    (h : ∀ pair ∈ pairs, pair.1 ≠ name) (m : Message) :
    (writeParameters pairs m).1.fields.get? name = m.fields.get? name := by
  induction pairs generalizing m with
  | nil => rfl
  | cons pair rest ih =>
    rcases pair with ⟨key, text⟩
    have hkey : name ≠ key := Ne.symm (h (key, text) List.mem_cons_self)
    cases htext : Value.ofCommandText text with
    | error flaw => simp only [writeParameters, htext]
    | ok value =>
      simp only [writeParameters, htext]
      rw [ih fun pair hpair => h pair (List.mem_cons_of_mem _ hpair)]
      exact Entries.get?_set_of_ne hkey value m.fields

section

variable {scene : Scene} {enter : Enter} {keys : List (List Char)} {name : String}

/-- An answer whose parameters have known keys writes no other fields. -/
theorem runAnswer_get? (hkeys : ∀ key ∈ keys, IsPlainKey key)
    (hname : ∀ key ∈ keys, String.ofList key ≠ name) {command : Command} {state : State}
    (hs : Keyed keys command.params)
    (hstart : command.params = [] ∨ ∃ rest, command.params = ';' :: rest)
    (hclean : PutsInNoSemicolon scene.source state.message command) :
    (runAnswer scene command state).state.message.fields.get? name =
      state.message.fields.get? name := by
  rcases runAnswer_message scene command state with
    hsame | ⟨draws, args, params, hparams, hwritten⟩
  · rw [hsame]
  · rw [hwritten, writeAnswer_fields]
    refine writeParameters_get? ?_ state.message
    intro pair hpair
    rcases key_of_mem_filled hkeys hs hstart hclean hparams hpair with ⟨key, hkey, hpair⟩
    rw [hpair]
    exact hname key hkey

/-- A chain that starts with an answer ends with it. -/
theorem runChain_answer {command : Command} (haction : command.action = some .answer) (left : Nat)
    (state : State) :
    (runChain scene enter left command state).state = state ∨
      (runChain scene enter left command state).state =
        (runAnswer scene command (state.markReturned true)).state := by
  cases left with
  | zero => exact .inl rfl
  | succ left =>
    have hexecute : execute scene enter command state =
        runAnswer scene command (state.markReturned true) := by simp [execute, haction]
    refine .inr ?_
    rw [runChain_succ, hexecute]
    rcases runAnswer_cases scene command (state.markReturned true) with
      ⟨fault, fields, hnext, -⟩ | ⟨fields, hnext, -⟩ | ⟨value, fields, hnext, -⟩
    · simp [Step.outcome, hnext]
    · simp [Step.outcome, hnext]
    · simp [Step.outcome, hnext]

/-- A line of an answer with known keys writes no other fields. -/
theorem runChain_answer_get? (hkeys : ∀ key ∈ keys, IsPlainKey key)
    (hname : ∀ key ∈ keys, String.ofList key ≠ name) {s : List Char}
    (hends : Action.endsKeyword s = true) (hs : Keyed keys s) (left : Nat) {state : State}
    (hclean : PutsInNoSemicolon scene.source state.message
      (Command.parse (Action.answer.keyword ++ s))) :
    (runChain scene enter left (Command.parse (Action.answer.keyword ++ s))
      state).state.message.fields.get? name = state.message.fields.get? name := by
  rcases parse_answer_keyed hkeys hends hs with ⟨haction, hparams, hstart⟩
  rcases runChain_answer haction left state with hsame | hanswer
  · rw [hsame]
  · rw [hanswer]
    -- the mark of the return is no field
    have hmarked : PutsInNoSemicolon scene.source (state.markReturned true).message
        (Command.parse (Action.answer.keyword ++ s)) := hclean
    exact runAnswer_get? hkeys hname hparams hstart hmarked

/-- The empty line writes nothing. -/
theorem runChain_empty (left : Nat) (state : State) :
    (runChain scene enter left (Command.parse []) state).state.message.fields =
      state.message.fields := by
  have hparse : Command.parse [] = Command.empty := by decide +kernel
  rw [hparse]
  cases left with
  | zero => rfl
  | succ left => rfl

end

/-! ## Tests -/

/-- What the test of a command finds in a message. -/
def Finds (scene : Scene) (command : Command) (state : State) (found : Pattern.Match) : Prop :=
  ∃ text compiled,
    (state.fill scene (Condition.ofArgs command.args).source).1 = .ok text ∧
    Pattern.Compiled.ofText (Condition.ofArgs command.args).pattern = .ok compiled ∧
    compiled.search text = some found

/-- A test goes on with the empty line, or with its target, into which what it found is filled. -/
theorem testLine_line {pattern text target line : List Char}
    (h : (testLine pattern text target).2 = .line line) :
    line = [] ∨ ∃ compiled found, Pattern.Compiled.ofText pattern = .ok compiled ∧
      compiled.search text = some found ∧ fillCaptures found target = .ok line := by
  unfold testLine at h
  split at h
  case h_1 =>
    cases h
    exact .inl rfl
  case h_2 => cases h
  case h_3 compiled hcompiled =>
    split at h
    case h_1 => cases h
    case h_2 filled hfilled =>
      cases h
      unfold applyCaptures at hfilled
      split at hfilled
      case h_1 =>
        cases hfilled
        exact .inl rfl
      case h_2 found hfound => exact .inr ⟨compiled, found, hcompiled, hfound, hfilled⟩

/-- A test leaves the message as it is, and goes on with the empty line or with its target, into
which what it finds is filled. -/
theorem runTest_next {scene : Scene} {command : Command} {state : State} {line : List Char}
    (h : (runTest scene command state).next = .line line) :
    line = [] ∨ ∃ found, Finds scene command state found ∧
      fillCaptures found (command.target.getD []) = .ok line := by
  rcases hfill : state.fill scene (Condition.ofArgs command.args).source with ⟨result, after⟩
  cases result with
  | error fault => simp [runTest, hfill] at h
  | ok text =>
    have hline : (testLine (Condition.ofArgs command.args).pattern text
        (command.target.getD [])).2 = .line line := by simpa [runTest, hfill] using h
    rcases testLine_line hline with hempty | ⟨compiled, found, hcompiled, hfound, hfilled⟩
    · exact .inl hempty
    · exact .inr ⟨found, ⟨text, compiled, by rw [hfill], hcompiled, hfound⟩, hfilled⟩

/-! ## Rules -/

/-- The line of an answer: argument text, and parameters with their keys and values. -/
def answerLine (args : List Char) (pairs : List (List Char × List Char)) : List Char :=
  Action.answer.keyword ++ (args ++ parametersText pairs)

/-- Text without a backslash stays in front of what is filled in behind it. -/
theorem fillCaptures_lead {found : Pattern.Match} {lead s filled : List Char} (hlead : '\\' ∉ lead)
    (h : fillCaptures found (lead ++ s) = .ok filled) :
    ∃ rest, filled = lead ++ rest ∧ fillCaptures found s = .ok rest := by
  induction lead generalizing filled with
  | nil => exact ⟨filled, rfl, h⟩
  | cons c rest ih =>
    rw [List.mem_cons, not_or] at hlead
    rcases fillCaptures_cons_ok (Ne.symm hlead.1) h with ⟨more, hmore, rfl⟩
    rcases ih hlead.2 hmore with ⟨behind, rfl, hbehind⟩
    exact ⟨behind, rfl, hbehind⟩

/-- The keyword of an answer stays in front of what is filled in. -/
theorem fillCaptures_answerLine {found : Pattern.Match} {args line : List Char}
    {pairs : List (List Char × List Char)}
    (hends : Action.endsKeyword (args ++ parametersText pairs) = true)
    (h : fillCaptures found (answerLine args pairs) = .ok line) :
    ∃ filled, line = Action.answer.keyword ++ filled ∧
      fillCaptures found (args ++ parametersText pairs) = .ok filled ∧
      Action.endsKeyword filled = true := by
  have hkeyword : '\\' ∉ Action.answer.keyword := by decide
  rcases fillCaptures_lead hkeyword h with ⟨filled, hline, hfilled⟩
  refine ⟨filled, hline, hfilled, ?_⟩
  -- the blank or semicolon behind the keyword stays there, too
  cases hs : args ++ parametersText pairs with
  | nil => simp [hs, Action.endsKeyword] at hends
  | cons c rest =>
    rw [hs] at hends hfilled
    have hslash : c ≠ '\\' := by
      rintro rfl
      simp [Action.endsKeyword, isBlank] at hends
    rcases fillCaptures_cons_ok hslash hfilled with ⟨more, -, rfl⟩
    exact hends

/-- The line of a test with a target. -/
def testedLine (condition target : List Char) : List Char :=
  Action.test.keyword ++ (condition ++ '=' :: target)

/-- A condition without separators is what a test has in front of its target. -/
theorem parse_testedLine {condition : List Char} (hends : Action.endsKeyword condition = true)
    (hplain : ∀ c ∈ condition, isPlainChar c = true) (target : List Char) :
    Command.parse (testedLine condition target) =
      ⟨some .test, condition.tail, [], some target⟩ := by
  cases condition with
  | nil => cases hends
  | cons b rest =>
    have hblank : isBlank b = true := by
      have hb := hplain b List.mem_cons_self
      simp only [Action.endsKeyword, Bool.or_eq_true] at hends
      rcases hends with hblank | hsemicolon
      · exact hblank
      · rw [beq_iff_eq] at hsemicolon
        simp [hsemicolon, isPlainChar] at hb
    have hread : Action.read (testedLine (b :: rest) target) =
        (some .test, b :: rest ++ '=' :: target) := by
      simp [testedLine, Action.read, Action.readable, Action.readAmong, Action.keyword, dropLead?,
        Action.endsKeyword, hblank]
    have hopening : Command.dropOpening (stripStart (testedLine (b :: rest) target)) =
        (false, testedLine (b :: rest) target) := by
      simp [testedLine, Action.keyword, stripStart, isBlank, Command.dropOpening]
    have hrest : ∀ c ∈ rest, isPlainChar c = true := fun c hc => hplain c (List.mem_cons_of_mem b hc)
    have htake : (rest ++ '=' :: target).takeWhile isPlainChar = rest := by
      rw [List.takeWhile_append_of_pos hrest, List.takeWhile_cons_of_neg (by decide),
        List.append_nil]
    have hdrop : (rest ++ '=' :: target).dropWhile isPlainChar = '=' :: target := by
      rw [List.dropWhile_append_of_pos hrest, List.dropWhile_cons_of_neg (by decide)]
    have hgroups : Group.readAll ('=' :: target) = ([], '=' :: target) := by
      rw [Group.readAll]
      rfl
    simp [Command.parse, hopening, hread, Command.dropBlank, hblank, htake, hdrop, hgroups,
      Command.finish, Group.textOf]

/-- The command of a rule is that of its line, if the line names an action. -/
theorem command_of_compile {line : List Char} {rule : Rule} (h : (Rule.compile line).2 = .ok rule)
    {action : Action} (haction : (Command.parse line).action = some action) :
    rule.command = Command.parse line := by
  rw [Rule.command_eq_complete h, Rule.complete, haction]

theorem exists_rule_of_compile {line : List Char}
    (h : (Rule.compile line).2.toOption.isSome = true) :
    ∃ rule, (Rule.compile line).2 = .ok rule := by
  cases hrule : (Rule.compile line).2 with
  | error fault => simp [hrule, Except.toOption] at h
  | ok rule => exact ⟨rule, rfl⟩

/-- A rule that answers, or that tests a message and then answers, writes no fields but those that
it names, as long as what is put into its text has no semicolon: what the test captures and puts
into the arguments and the values, and what the placeholders of the parameters give. -/
theorem rule_writes_named_fields (scene : Scene) (depth : Int) (state : State)
    (args : List Char) (pairs : List (List Char × List Char)) (name : String)
    (hkeys : ∀ pair ∈ pairs, IsPlainKey pair.1) (hargs : ';' ∉ args)
    (hvalues : ∀ pair ∈ pairs, ';' ∉ pair.2)
    (hends : Action.endsKeyword (args ++ parametersText pairs) = true)
    (hname : ∀ pair ∈ pairs, String.ofList pair.1 ≠ name) :
    (∀ rule, (Rule.compile (answerLine args pairs)).2 = .ok rule →
      PutsInNoSemicolon scene.source state.message rule.command →
      (runAt scene depth rule.command state).state.message.fields.get? name =
        state.message.fields.get? name) ∧
    ∀ condition rule, Action.endsKeyword condition = true →
      (∀ c ∈ condition, isPlainChar c = true) →
      (Rule.compile (testedLine condition (answerLine args pairs))).2 = .ok rule →
      (∀ found, Finds scene rule.command state found →
        CapturesNoSemicolon found (args :: pairs.map (·.2)) ∧
        ∀ line, fillCaptures found (answerLine args pairs) = .ok line →
          PutsInNoSemicolon scene.source state.message (Command.parse line)) →
      (runAt scene depth rule.command state).state.message.fields.get? name =
        state.message.fields.get? name := by
  have hpairs : ∀ pair ∈ pairs, IsPlainKey pair.1 ∧ pair.1 ∈ pairs.map (·.1) := fun pair hpair =>
    ⟨hkeys pair hpair, List.mem_map_of_mem hpair⟩
  have hkeys' : ∀ key ∈ pairs.map (·.1), IsPlainKey key := by simpa using hkeys
  have hname' : ∀ key ∈ pairs.map (·.1), String.ofList key ≠ name := by simpa using hname
  refine ⟨?_, ?_⟩
  · intro rule hrule hclean
    have hkeyed := keyed_parametersText hpairs hargs hvalues
    have haction := (parse_answer_keyed hkeys' hends hkeyed).1
    have hcommand := command_of_compile hrule haction
    rw [hcommand] at hclean ⊢
    exact runChain_answer_get? hkeys' hname' hends hkeyed _ hclean
  · intro condition rule hblank hplain hrule hclean
    have hparse := parse_testedLine hblank hplain (answerLine args pairs)
    have hcommand := command_of_compile hrule (by rw [hparse])
    rw [hparse] at hcommand
    have hspares := runTest_spares scene rule.command state
    have hexecute : ∀ enter, execute scene enter rule.command state =
        runTest scene rule.command state := by
      intro enter
      simp [execute, hcommand]
    rw [runAt, runCommand]
    cases scene.limits.chain.count with
    | zero => rfl
    | succ left =>
      rw [runChain_succ, hexecute, Step.outcome]
      cases hnext : (runTest scene rule.command state).next with
      | done => simp only [hspares.message]
      | fault fault => simp only [hspares.message]
      | line line =>
        have hfields : (runTest scene rule.command state).state.message.fields =
            state.message.fields := by rw [hspares.message]
        rw [← hfields]
        rcases runTest_next hnext with rfl | ⟨found, hfound, hline⟩
        · simp only [Outcome.after, runChain_empty]
        · have htarget : rule.command.target.getD [] = answerLine args pairs := by
            rw [hcommand, Option.getD_some]
          rw [htarget] at hline
          rcases hclean found hfound with ⟨hcaptures, hplaces⟩
          have hplaces' := hplaces line hline
          rw [← hspares.message] at hplaces'
          rcases fillCaptures_answerLine hends hline with ⟨filled, rfl, hfilled, hends'⟩
          have hkeyed : Keyed (pairs.map (·.1)) filled := .of_fillCaptures hpairs hcaptures hfilled
          exact runChain_answer_get? hkeys' hname' hends' hkeyed left hplaces'

/-- A message with a text in a field, before anything is drawn. -/
def fieldState (text : String) : State :=
  ⟨.fresh "m" [("x", .text text)] Source.still.now, .start⟩

/-- A scene without contexts. -/
def Scene.plain : Scene :=
  ⟨.still, .accepting, [], ⟨.upTo 1000 (.int 1000), .upTo 64 (.int 64)⟩⟩

theorem isPlainKey_k : IsPlainKey ['k'] := by
  refine ⟨?_, ?_, ?_, ?_, ?_, ?_, ?_⟩ <;> decide

/-- A parameter that is filled with the field, as a rule that answers. -/
def copyPairs : List (List Char × List Char) :=
  [(['k'], ['$', '\x7b', 'x', '\x7d'])]

/-- A parameter that is filled with what a test captured. -/
def capturePairs : List (List Char × List Char) :=
  [(['k'], ['\\', '1'])]

/-- A test that captures all of the field. -/
def captureAll : List Char :=
  [' ', '$', '\x7b', 'x', '\x7d', '(', '.', '*', ')']

/-- The test finds the field as a whole, and as its group. -/
theorem found_of_captureAll {found : Pattern.Match}
    (h : Finds .plain ⟨some .test, captureAll.tail, [], some (answerLine [] capturePairs)⟩
      (fieldState "a") found) : found = ⟨#[some ['a'], some ['a']]⟩ := by
  rcases h with ⟨text, compiled, htext, hcompiled, hfound⟩
  have hfield : Except.ok ['a'] = (Except.ok text : Except Fault (List Char)) := htext
  cases hfield
  have hgroups : ((Pattern.Compiled.ofText (Condition.ofArgs captureAll.tail).pattern).toOption.bind
      fun compiled => (compiled.search ['a']).map fun found => found.groups) =
      some #[some ['a'], some ['a']] := by decide +kernel
  simp only [hcompiled, Except.toOption, Option.bind_some, hfound, Option.map_some,
    Option.some.injEq] at hgroups
  exact congrArg Pattern.Match.mk hgroups

theorem copies_write_named_field :
    (∃ rule, (Rule.compile (answerLine [] copyPairs)).2 = .ok rule ∧
      (runAt .plain 0 rule.command (fieldState "a")).state.message.fields.get? "evil" = none) ∧
    ∃ rule, (Rule.compile (testedLine captureAll (answerLine [] capturePairs))).2 = .ok rule ∧
      (runAt .plain 0 rule.command (fieldState "a")).state.message.fields.get? "evil" = none := by
  refine ⟨?_, ?_⟩
  · have hcompiles : (Rule.compile (answerLine [] copyPairs)).2.toOption.isSome = true := by
      decide +kernel
    have haction : (Command.parse (answerLine [] copyPairs)).action = some .answer := by
      decide +kernel
    have hsegments : Segment.segments (Command.parse (answerLine [] copyPairs)).params =
        [.literal [';', 'k', '='], .place .field ['x']] := by decide +kernel
    rcases exists_rule_of_compile hcompiles with ⟨rule, hrule⟩
    have hclean : PutsInNoSemicolon Scene.plain.source (fieldState "a").message rule.command := by
      intro kind payload draws text hmem htext
      rw [command_of_compile hrule haction, hsegments] at hmem
      have hplace : kind = .field ∧ payload = ['x'] := by simpa using hmem
      rcases hplace with ⟨rfl, rfl⟩
      have hfield : Except.ok ['a'] = (Except.ok text : Except Fault (List Char)) := htext
      cases hfield
      decide
    have hnames := rule_writes_named_fields .plain 0 (fieldState "a") [] copyPairs "evil"
      (by simpa [copyPairs] using isPlainKey_k) List.not_mem_nil (by decide) (by decide)
      (by decide)
    exact ⟨rule, hrule, hnames.1 rule hrule hclean⟩
  · have hcompiles : (Rule.compile (testedLine captureAll
        (answerLine [] capturePairs))).2.toOption.isSome = true := by decide +kernel
    have hblank : Action.endsKeyword captureAll = true := by decide
    have hplain : ∀ c ∈ captureAll, isPlainChar c = true := List.all_eq_true.mp (by decide +kernel)
    rcases exists_rule_of_compile hcompiles with ⟨rule, hrule⟩
    have hparse := parse_testedLine hblank hplain (answerLine [] capturePairs)
    have hcommand := command_of_compile hrule (by rw [hparse])
    have hnames := rule_writes_named_fields .plain 0 (fieldState "a") [] capturePairs "evil"
      (by simpa [capturePairs] using isPlainKey_k) List.not_mem_nil (by decide) (by decide)
      (by decide)
    refine ⟨rule, hrule, hnames.2 captureAll rule hblank hplain hrule ?_⟩
    intro found hfound
    rw [hcommand, hparse] at hfound
    rw [found_of_captureAll hfound]
    refine ⟨?_, ?_⟩
    · intro part hpart filled hfilled
      have hparts : part = [] ∨ part = ['\\', '1'] := by simpa [capturePairs] using hpart
      rcases hparts with rfl | rfl
      · cases hfilled
        exact List.not_mem_nil
      · cases hfilled
        decide
    · intro line hline kind payload draws text hmem
      have hfilled : fillCaptures ⟨#[some ['a'], some ['a']]⟩ (answerLine [] capturePairs) =
          .ok ['r', 'e', 't', 'u', 'r', 'n', ';', 'k', '=', 'a'] := by rfl
      rw [hfilled] at hline
      cases hline
      have hsegments : Segment.segments (Command.parse
          ['r', 'e', 't', 'u', 'r', 'n', ';', 'k', '=', 'a']).params =
          [.literal [';', 'k', '=', 'a']] := by decide +kernel
      simp [hsegments] at hmem

/-- A field with a semicolon writes a field that the rule does not name. -/
theorem semicolon_writes_other_field :
    ¬ ∀ (scene : Scene) (depth : Int) (state : State) (args : List Char)
      (pairs : List (List Char × List Char)) (rule : Rule) (name : String),
      (∀ pair ∈ pairs, IsPlainKey pair.1) → ';' ∉ args → '=' ∉ args →
      (∀ pair ∈ pairs, ';' ∉ pair.2 ∧ '=' ∉ pair.2) →
      Action.endsKeyword (args ++ parametersText pairs) = true →
      (∀ pair ∈ pairs, String.ofList pair.1 ≠ name) →
      (Rule.compile (answerLine args pairs)).2 = .ok rule →
      (runAt scene depth rule.command state).state.message.fields.get? name =
        state.message.fields.get? name := by
  intro hnames
  have haction : (Command.parse (answerLine [] copyPairs)).action = some .answer := by
    decide +kernel
  have hwrites : ((runAt .plain 0 (Command.parse (answerLine [] copyPairs))
      (fieldState "a;evil=1")).state.message.fields.get? "evil").isSome = true := by
    decide +kernel
  have hcompiles : (Rule.compile (answerLine [] copyPairs)).2.toOption.isSome = true := by
    decide +kernel
  rcases exists_rule_of_compile hcompiles with ⟨rule, hrule⟩
  have hsame := hnames .plain 0 (fieldState "a;evil=1") [] copyPairs rule "evil"
    (by simpa [copyPairs] using isPlainKey_k) List.not_mem_nil List.not_mem_nil (by decide)
    (by decide) (by decide) hrule
  rw [← command_of_compile hrule haction, hsame] at hwrites
  cases hwrites

end Switchboard
