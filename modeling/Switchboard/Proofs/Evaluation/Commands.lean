import Switchboard.Proofs.Value.Writable
import Switchboard.Rules.Evaluation

/-!
# What a single command does

One lemma per command says what it leaves behind: what becomes of the message, its flags and its
result, and the faults that it can end with. Proofs about chains and contexts cite these lemmas
and never open a command.

The faults of commands are few (`Fault.Arises`): a text has a number or a pattern that is refused,
or a field cannot be written. No command fails with a fault of the program's own; such faults come
from the guards alone.
-/

namespace Switchboard

open Text

/-! ## Commands in a chain -/

/-- What a step leaves behind when `rest` runs the line that it leads to. -/
def Step.outcome (rest : List Char → State → Outcome) (s : Step) : Outcome :=
  match s.next with
  | .done => ⟨s.state, s.events, none⟩
  | .fault fault => ⟨s.state, s.events, some fault⟩
  | .line line => (rest line s.state).after s.events

theorem runChain_succ (scene : Scene) (enter : Enter) (left : Nat) (command : Command)
    (state : State) :
    runChain scene enter (left + 1) command state =
      (execute scene enter command state).outcome
        (fun line => runChain scene enter left (Command.parse line)) :=
  rfl

/-! ## Rules of a context -/

section

variable {scene : Scene} {enter : Enter} {rule : Rule} {state : State}

/-- A rule that fails is the last one. -/
theorem runRules_of_fault {fault : Fault}
    (h : (runCommand scene enter rule.command state).fault = some fault) (rest : List Rule) :
    runRules scene enter (rule :: rest) state = runCommand scene enter rule.command state := by
  simp only [runRules, h]

/-- A rule that settles the message is the last one, and the mark does not leave the context. -/
theorem runRules_of_settled (h : (runCommand scene enter rule.command state).fault = none)
    (hsettled : (runCommand scene enter rule.command state).state.message.isSettled = true)
    (rest : List Rule) :
    runRules scene enter (rule :: rest) state =
      { runCommand scene enter rule.command state with
        state := (runCommand scene enter rule.command state).state.markReturned false } := by
  simp only [runRules, h, hsettled, if_true]

/-- Behind a rule that leaves the message unsettled the others are run. -/
theorem runRules_of_unsettled (h : (runCommand scene enter rule.command state).fault = none)
    (hopen : (runCommand scene enter rule.command state).state.message.isSettled = false)
    (rest : List Rule) :
    runRules scene enter (rule :: rest) state =
      (runRules scene enter rest (runCommand scene enter rule.command state).state).after
        (runCommand scene enter rule.command state).events := by
  simp only [runRules, h, hopen, Bool.false_eq_true, if_false]

end

/-! ## Faults of commands -/

/-- Every field can be written. -/
def Message.IsWritable (m : Message) : Prop :=
  ∀ key, (m.get key).isWritable = true

/-- The faults that a text brings about: a number of too many digits, and a pattern with a count
that is too large, with flags that exclude each other or with groups nested too deep. -/
def Fault.IsOfText : Fault → Prop
  | .tooManyDigits (some _) => True
  | .countTooLarge => True
  | .conflictingFlags => True
  | .tooDeep => True
  | _ => False

/-- The faults that commands can end with: those that a text brings about, and that of a field that
cannot be written. -/
def Fault.Arises (m : Message) (fault : Fault) : Prop :=
  fault.IsOfText ∨ fault = .tooManyDigits none ∧ ¬ m.IsWritable

theorem Fault.IsOfText.unreported {fault : Fault} (h : fault.IsOfText) :
    fault.isReported = false := by
  cases fault with
  | reported concern report => exact h.elim
  | _ => rfl

theorem Fault.Arises.unreported {m : Message} {fault : Fault} (h : fault.Arises m) :
    fault.isReported = false := by
  rcases h with htext | ⟨rfl, -⟩
  · exact htext.unreported
  · rfl

/-- A computation that fails with faults of a kind alone. -/
def FailsWith {α : Type} (kind : Fault → Prop) (result : Except Fault α) : Prop :=
  ∀ fault, result = .error fault → kind fault

namespace FailsWith

variable {α β : Type} {kind : Fault → Prop}

theorem ok (a : α) : FailsWith kind (.ok a) := by
  intro fault h
  cases h

theorem error {fault : Fault} (h : kind fault) :
    FailsWith kind (.error fault : Except Fault α) := by
  intro other hother
  cases hother
  exact h

theorem map {result : Except Fault α} (f : α → β) (h : FailsWith kind result) :
    FailsWith kind (result.map f) := by
  cases result with
  | ok a => exact ok (f a)
  | error fault => exact error (h fault rfl)

theorem bind {result : Except Fault α} {next : α → Except Fault β} (h : FailsWith kind result)
    (hnext : ∀ a, FailsWith kind (next a)) : FailsWith kind (result >>= next) := by
  cases result with
  | ok a => exact hnext a
  | error fault => exact error (h fault rfl)

end FailsWith

/-- A test does not fail with a text that is no pattern. -/
theorem Fault.isOfText_ofPatternFlaw {flaw : Pattern.Flaw} (h : flaw ≠ .malformed) :
    (Fault.ofPatternFlaw flaw).IsOfText := by
  cases flaw with
  | malformed => exact absurd rfl h
  | countTooLarge => trivial
  | countTooLong n => trivial
  | conflictingFlags => trivial
  | tooDeep => trivial

/-- Command text is refused for too many digits alone. -/
theorem Fault.isOfText_of_ofCommandText {s : String} {flaw : Numeral.IntegerFlaw}
    (h : Value.ofCommandText s = .error flaw) (digits : List Char) :
    (Fault.ofIntegerFlaw digits flaw).IsOfText := by
  rcases Value.ofCommandText_error h with ⟨n, rfl, -⟩
  trivial

/-! ## Filling templates -/

/-- A clock that stands still, and draws that all pick the first. -/
def Source.still : Source :=
  ⟨⟨2024, 1, 2, 3, 4, 5, 0, none⟩, fun _ => 0⟩

theorem fieldText_fails (m : Message) (name : List Char) :
    FailsWith (Fault.Arises m) (fieldText m name) := by
  simp only [fieldText]
  split
  case isTrue => exact FailsWith.ok _
  case isFalse hfield =>
    exact FailsWith.error (.inr ⟨rfl, fun hwritable => hfield (hwritable (String.ofList name))⟩)

theorem segmentText_fails (source : Source) (m : Message) (draws : Draws)
    (segment : Segment) : FailsWith (Fault.Arises m) (segmentText source m draws segment).1 := by
  cases segment with
  | literal text => exact FailsWith.ok text
  | place kind payload =>
    cases kind with
    | field => exact fieldText_fails m payload
    | call => exact FailsWith.ok _

theorem segmentsText_fails (source : Source) (m : Message) (segments : List Segment)
    (draws : Draws) : FailsWith (Fault.Arises m) (segmentsText source m segments draws).1 := by
  -- the draws move on from piece to piece, whatever the piece
  induction segments generalizing draws with
  | nil => exact FailsWith.ok []
  | cons segment rest ih =>
    have hsegment := segmentText_fails source m draws segment
    simp only [segmentsText]
    split
    case h_1 fault drawn heq =>
      rw [heq] at hsegment
      exact FailsWith.error (hsegment fault rfl)
    case h_2 head drawn heq =>
      have hrest := ih drawn
      split
      case h_1 fault later hlater =>
        rw [hlater] at hrest
        exact FailsWith.error (hrest fault rfl)
      case h_2 => exact FailsWith.ok _

/-- Filling reads no more of a message than its fields. -/
theorem segmentsText_congr (source : Source) {m m' : Message} (hfields : m.fields = m'.fields)
    (segments : List Segment) (draws : Draws) :
    segmentsText source m segments draws = segmentsText source m' segments draws := by
  have hget : ∀ key, m.get key = m'.get key := by
    intro key
    rw [Message.get, Message.get, hfields]
  have hsegment : ∀ draws segment,
      segmentText source m draws segment = segmentText source m' draws segment := by
    intro draws segment
    cases segment with
    | literal text => rfl
    | place kind payload =>
      cases kind with
      | field => simp only [segmentText, fieldText, hget]
      | call => rfl
  induction segments generalizing draws with
  | nil => rfl
  | cons segment rest ih => simp only [segmentsText, hsegment, ih]

theorem State.fill_markReturned (scene : Scene) (state : State) (mark : Bool)
    (template : List Char) :
    ((state.markReturned mark).fill scene template).1 = (state.fill scene template).1 := by
  have hfields : (state.markReturned mark).message.fields = state.message.fields := rfl
  have hsegments :=
    segmentsText_congr scene.source hfields (Segment.segments template) state.draws
  simp only [State.fill, fillTemplate]
  exact congrArg Prod.fst hsegments

/-- Filling a template gives a text, or a fault that commands can end with. Either way it leaves the
message as it is. -/
theorem State.fill_cases (scene : Scene) (state : State) (template : List Char) :
    (∃ fault after, state.fill scene template = (.error fault, after) ∧
      fault.Arises state.message ∧ after.message = state.message) ∨
    (∃ text after, state.fill scene template = (.ok text, after) ∧
      after.message = state.message) := by
  have hfault :=
    segmentsText_fails scene.source state.message (Segment.segments template) state.draws
  cases hfill : state.fill scene template with
  | mk result after =>
    have hresult : (fillTemplate scene.source state.message template state.draws).1 = result := by
      simpa [State.fill] using congrArg Prod.fst hfill
    have hmessage : after.message = state.message := by
      have hafter : (state.fill scene template).2 = after := by rw [hfill]
      rw [← hafter]
      rfl
    cases result with
    | error fault => exact .inl ⟨fault, after, rfl, hfault fault hresult, hmessage⟩
    | ok text => exact .inr ⟨text, after, rfl, hmessage⟩

/-! ## Tests -/

theorem captureText_fails (found : Pattern.Match) (digits : List Char) :
    FailsWith Fault.IsOfText (captureText found digits) := by
  simp only [captureText]
  split
  · exact FailsWith.error trivial
  · exact FailsWith.ok _

theorem fillCapturesFrom_fails (found : Pattern.Match) (pending : Option (List Char))
    (template : List Char) : FailsWith Fault.IsOfText (fillCapturesFrom found pending template) := by
  induction template generalizing pending with
  | nil =>
    match pending with
    | none => exact FailsWith.ok []
    | some [] => exact FailsWith.ok _
    | some (d :: ds) => exact captureText_fails found _
  | cons c rest ih =>
    cases pending with
    | none =>
      simp only [fillCapturesFrom]
      split
      · exact ih (some [])
      · exact (ih none).map _
    | some digits =>
      -- what comes behind a run of digits does not depend on the text of the run
      have htail : ∀ head : List Char, FailsWith Fault.IsOfText (if c = '\\' then do
          let tail ← fillCapturesFrom found (some []) rest
          pure (head ++ tail)
        else do
          let tail ← (fillCapturesFrom found none rest).map (c :: ·)
          pure (head ++ tail)) := by
        intro head
        split
        · exact (ih (some [])).bind fun tail => FailsWith.ok _
        · exact ((ih none).map _).bind fun tail => FailsWith.ok _
      simp only [fillCapturesFrom]
      split
      · exact ih _
      · split
        · exact (FailsWith.ok _).bind htail
        · exact (captureText_fails found _).bind htail

theorem applyCaptures_fails (pattern : Pattern.Compiled) (text template : List Char) :
    FailsWith Fault.IsOfText (applyCaptures pattern text template) := by
  simp only [applyCaptures]
  split
  · exact FailsWith.ok []
  · exact fillCapturesFrom_fails _ none template

/-! ## Writing answers -/

/-- Writing parameters changes fields alone, and may fail at a value that cannot be read. -/
theorem writeParameters_cases (pairs : Entries String) (m : Message) :
    ∃ fields fault?, writeParameters pairs m = ({ m with fields := fields }, fault?) ∧
      ∀ fault, fault? = some fault → fault.IsOfText := by
  induction pairs generalizing m with
  | nil => exact ⟨m.fields, none, rfl, by simp⟩
  | cons pair rest ih =>
    rcases pair with ⟨key, text⟩
    cases htext : Value.ofCommandText text with
    | error flaw =>
      refine ⟨m.fields, some (Fault.ofIntegerFlaw text.toList flaw), ?_, ?_⟩
      · simp [writeParameters, htext]
      · intro fault hfault
        cases hfault
        exact Fault.isOfText_of_ofCommandText htext text.toList
    | ok value =>
      rcases ih (m.set key value) with ⟨fields, fault?, hwrite, hfault⟩
      refine ⟨fields, fault?, ?_, hfault⟩
      simp only [writeParameters, htext, hwrite]
      rfl

/-- Writing a result changes the result and the flag of handling. It changes nothing if the text
is empty or cannot be read. -/
theorem writeResult_cases (args : List Char) (m : Message) :
    (∃ fault, writeResult args m = (m, some fault) ∧ fault.IsOfText) ∨
    (args = [] ∧ writeResult args m = (m, none)) ∨
    (∃ value, args ≠ [] ∧ Value.ofCommandText (String.ofList args) = .ok value ∧
      writeResult args m = ({ m with result := value, handled := true }, none)) := by
  by_cases hempty : args = []
  · subst hempty
    exact .inr (.inl ⟨rfl, rfl⟩)
  · have hshape : args.isEmpty = false := by simpa using hempty
    cases htext : Value.ofCommandText (String.ofList args) with
    | error flaw =>
      exact .inl ⟨Fault.ofIntegerFlaw args flaw, by simp [writeResult, hshape, htext],
        Fault.isOfText_of_ofCommandText htext args⟩
    | ok value => exact .inr (.inr ⟨value, hempty, rfl, by simp [writeResult, hshape, htext]⟩)

/-- How writing an answer can end: with a fault and no result, without a result, or with one. Apart
from that fields alone are written. -/
theorem writeAnswer_cases (args : List Char) (pairs : Entries String) (m : Message) :
    (∃ fault fields, writeAnswer args pairs m = ({ m with fields := fields }, some fault) ∧
      fault.IsOfText) ∨
    (∃ fields, args = [] ∧ writeAnswer args pairs m = ({ m with fields := fields }, none)) ∨
    (∃ value fields, args ≠ [] ∧ Value.ofCommandText (String.ofList args) = .ok value ∧
      writeAnswer args pairs m =
        ({ m with fields := fields, result := value, handled := true }, none)) := by
  -- the parameters come first: no result is written behind one that cannot be read
  rcases writeParameters_cases pairs m with ⟨fields, fault?, hwrite, hfault⟩
  cases fault? with
  | some fault => exact .inl ⟨fault, fields, by simp [writeAnswer, hwrite], hfault fault rfl⟩
  | none =>
    rcases writeResult_cases args { m with fields := fields } with
      ⟨fault, hresult, hfault⟩ | ⟨hempty, hresult⟩ | ⟨value, hne, hvalue, hresult⟩
    · exact .inl ⟨fault, fields, by simp [writeAnswer, hwrite, hresult], hfault⟩
    · exact .inr (.inl ⟨fields, hempty, by simp [writeAnswer, hwrite, hresult]⟩)
    · exact .inr (.inr ⟨value, fields, hne, hvalue, by simp [writeAnswer, hwrite, hresult]⟩)

/-- Without a text to write, an answer writes nothing. -/
theorem writeAnswer_nil (m : Message) : writeAnswer [] (parameters []) m = (m, none) := by
  have hparameters : parameters [] = [] := by decide +kernel
  rw [hparameters]
  rfl

/-- What a return-style command does to the message is writing the parameters that its filled-in
text has, and a result. If something cannot be filled in it does nothing. -/
theorem runAnswer_message (scene : Scene) (command : Command) (state : State) :
    (runAnswer scene command state).state.message = state.message ∨
    ∃ draws args params,
      (fillTemplate scene.source state.message command.params draws).1 = .ok params ∧
      (runAnswer scene command state).state.message =
        (writeAnswer args (parameters params) state.message).1 := by
  rcases state.fill_cases scene command.args with
    ⟨fault, after, hargs, -, hmessage⟩ | ⟨args, after, hargs, hmessage⟩
  · exact .inl (by simp [runAnswer, hargs, hmessage])
  rcases after.fill_cases scene command.params with
    ⟨fault, later, hparams, -, hmessage'⟩ | ⟨params, later, hparams, hmessage'⟩
  · exact .inl (by simp [runAnswer, hargs, hparams, hmessage, hmessage'])
  rw [hmessage] at hmessage'
  have hfilled : (fillTemplate scene.source state.message command.params after.draws).1 =
      .ok params := by
    rw [← hmessage]
    simpa [State.fill] using congrArg Prod.fst hparams
  refine .inr ⟨after.draws, strip args, params, hfilled, ?_⟩
  rcases hwrite : writeAnswer (strip args) (parameters params) state.message with ⟨written, fault?⟩
  cases fault? with
  | none => simp [runAnswer, hargs, hparams, hmessage', hwrite]
  | some fault => simp [runAnswer, hargs, hparams, hmessage', hwrite]

/-! ## Fields that can be written -/

theorem Message.get_set (m : Message) (key other : String) (value : Value) :
    (m.set key value).get other = if other = key then value else m.get other := by
  by_cases hother : other = key
  · simp [Message.get, Message.set, hother, Entries.get?_set_self]
  · simp [Message.get, Message.set, hother, Entries.get?_set_of_ne hother]

/-- What parameters are read as can be written. -/
theorem writeParameters_writable (pairs : Entries String) {m : Message} (h : m.IsWritable) :
    (writeParameters pairs m).1.IsWritable := by
  induction pairs generalizing m with
  | nil => exact h
  | cons pair rest ih =>
    rcases pair with ⟨key, text⟩
    cases htext : Value.ofCommandText text with
    | error flaw => simpa only [writeParameters, htext] using h
    | ok value =>
      have hset : (m.set key value).IsWritable := by
        intro other
        rw [Message.get_set]
        split
        · exact Value.isWritable_of_ofCommandText htext
        · exact h other
      simpa only [writeParameters, htext] using ih hset

theorem writeResult_fields (args : List Char) (m : Message) :
    (writeResult args m).1.fields = m.fields := by
  rcases writeResult_cases args m with
    ⟨fault, hresult, -⟩ | ⟨-, hresult⟩ | ⟨value, -, -, hresult⟩
  · rw [hresult]
  · rw [hresult]
  · rw [hresult]

/-- The result is no field. -/
theorem writeAnswer_fields (args : List Char) (pairs : Entries String) (m : Message) :
    (writeAnswer args pairs m).1.fields = (writeParameters pairs m).1.fields := by
  rcases hwrite : writeParameters pairs m with ⟨written, fault?⟩
  cases fault? with
  | some fault => simp [writeAnswer, hwrite]
  | none => simp [writeAnswer, hwrite, writeResult_fields]

theorem Message.isWritable_congr {m m' : Message} (hfields : m.fields = m'.fields) :
    m.IsWritable ↔ m'.IsWritable := by
  simp only [IsWritable, Message.get, hfields]

/-- If the fields can be written, they still can when a return-style command has run. -/
theorem runAnswer_writable (scene : Scene) (command : Command) {state : State}
    (h : state.message.IsWritable) :
    (runAnswer scene command state).state.message.IsWritable := by
  rcases runAnswer_message scene command state with hsame | ⟨draws, args, params, -, hwritten⟩
  · rw [hsame]
    exact h
  · rw [hwritten, Message.isWritable_congr (writeAnswer_fields args (parameters params) _)]
    exact writeParameters_writable (parameters params) h

/-! ## What an answer answers with -/

/-- A return-style command has nothing to answer with: its argument text, filled in and without
the blanks around it, is empty. -/
def AnswersNothing (scene : Scene) (command : Command) (state : State) : Prop :=
  ∃ args, (state.fill scene command.args).1 = .ok args ∧ strip args = []

/-- A return-style command answers with a value, that of its argument text, filled in and without
the blanks around it. -/
def AnswersWith (scene : Scene) (command : Command) (state : State) (value : Value) : Prop :=
  ∃ args, (state.fill scene command.args).1 = .ok args ∧ strip args ≠ [] ∧
    Value.ofCommandText (String.ofList (strip args)) = .ok value

@[simp] theorem answersWith_markReturned (scene : Scene) (command : Command) (state : State)
    (mark : Bool) (value : Value) :
    AnswersWith scene command (state.markReturned mark) value ↔
      AnswersWith scene command state value := by
  simp [AnswersWith, State.fill_markReturned]

/-- How a return-style command can end: with a fault and no result, without a result, or with one.
Apart from that fields alone are written. -/
theorem runAnswer_cases (scene : Scene) (command : Command) (state : State) :
    (∃ fault fields, (runAnswer scene command state).next = .fault fault ∧
      fault.Arises state.message ∧
      (runAnswer scene command state).state.message = { state.message with fields := fields }) ∨
    (∃ fields, (runAnswer scene command state).next = .done ∧
      AnswersNothing scene command state ∧
      (runAnswer scene command state).state.message = { state.message with fields := fields }) ∨
    (∃ value fields, (runAnswer scene command state).next = .done ∧
      AnswersWith scene command state value ∧
      (runAnswer scene command state).state.message =
        { state.message with fields := fields, result := value, handled := true }) := by
  rcases state.fill_cases scene command.args with
    ⟨fault, after, hargs, hfault, hmessage⟩ | ⟨args, after, hargs, hmessage⟩
  · exact .inl ⟨fault, state.message.fields, by simp [runAnswer, hargs], hfault,
      by simp [runAnswer, hargs, hmessage]⟩
  -- the parameters are filled in behind the arguments, with what these left to draw
  have hfill : (state.fill scene command.args).1 = .ok args := by rw [hargs]
  rcases after.fill_cases scene command.params with
    ⟨fault, later, hparams, hfault, hmessage'⟩ | ⟨params, later, hparams, hmessage'⟩
  · exact .inl ⟨fault, state.message.fields, by simp [runAnswer, hargs, hparams], hmessage ▸ hfault,
      by simp [runAnswer, hargs, hparams, hmessage, hmessage']⟩
  rw [hmessage] at hmessage'
  rcases writeAnswer_cases (strip args) (parameters params) state.message with
    ⟨fault, fields, hwrite, hfault⟩ | ⟨fields, hempty, hwrite⟩ |
      ⟨value, fields, hne, hvalue, hwrite⟩
  · exact .inl ⟨fault, fields, by simp [runAnswer, hargs, hparams, hmessage', hwrite], .inl hfault,
      by simp [runAnswer, hargs, hparams, hmessage', hwrite]⟩
  · exact .inr (.inl ⟨fields, by simp [runAnswer, hargs, hparams, hmessage', hwrite],
      ⟨args, hfill, hempty⟩, by simp [runAnswer, hargs, hparams, hmessage', hwrite]⟩)
  · exact .inr (.inr ⟨value, fields, by simp [runAnswer, hargs, hparams, hmessage', hwrite],
      ⟨args, hfill, hne, hvalue⟩, by simp [runAnswer, hargs, hparams, hmessage', hwrite]⟩)

/-! ## Commands that leave the message as it is -/

/-- A step that leaves a message as it is and fails with nothing but what commands can end with. -/
structure Step.Spares (s : Step) (m : Message) : Prop where
  message : s.state.message = m
  fault : ∀ fault, s.next = .fault fault → fault.Arises m

namespace Step.Spares

theorem failing {state : State} {events : List Event} {fault : Fault} {m : Message}
    (hmessage : state.message = m) (hfault : fault.Arises m) :
    (Step.mk state events (.fault fault)).Spares m := by
  refine ⟨hmessage, ?_⟩
  intro other hother
  cases hother
  exact hfault

theorem going {state : State} {events : List Event} {line : List Char} {m : Message}
    (hmessage : state.message = m) : (Step.mk state events (.line line)).Spares m := by
  refine ⟨hmessage, ?_⟩
  intro other hother
  cases hother

end Step.Spares

theorem chainTarget_spares (scene : Scene) (command : Command) (events : List Event)
    (state : State) : (chainTarget scene command events state).Spares state.message := by
  rcases state.fill_cases scene (command.target.getD []) with
    ⟨fault, after, hfill, hfault, hmessage⟩ | ⟨line, after, hfill, hmessage⟩
  · simpa [chainTarget, hfill] using Step.Spares.failing hmessage hfault
  · simpa [chainTarget, hfill] using Step.Spares.going hmessage

theorem testLine_fault {pattern text target : List Char} {fault : Fault}
    (h : (testLine pattern text target).2 = .fault fault) : fault.IsOfText := by
  unfold testLine at h
  split at h
  case h_1 => cases h
  case h_2 flaw hmalformed _ =>
    cases h
    exact Fault.isOfText_ofPatternFlaw hmalformed
  case h_3 compiled _ =>
    have hcaptures := applyCaptures_fails compiled text target
    split at h
    case h_1 other hother =>
      cases h
      exact hcaptures fault hother
    case h_2 => cases h

theorem runTest_spares (scene : Scene) (command : Command) (state : State) :
    (runTest scene command state).Spares state.message := by
  rcases state.fill_cases scene (Condition.ofArgs command.args).source with
    ⟨fault, after, hfill, hfault, hmessage⟩ | ⟨text, after, hfill, hmessage⟩
  · simpa [runTest, hfill] using Step.Spares.failing hmessage hfault
  · refine ⟨by simpa [runTest, hfill] using hmessage, ?_⟩
    intro fault hfault
    exact .inl (testLine_fault (by simpa [runTest, hfill] using hfault))

theorem runEcho_spares (scene : Scene) (command : Command) (state : State) :
    (runEcho scene command state).Spares state.message := by
  rcases state.fill_cases scene command.args with
    ⟨fault, after, hargs, hfault, hmessage⟩ | ⟨args, after, hargs, hmessage⟩
  · simpa [runEcho, hargs] using Step.Spares.failing hmessage hfault
  rcases after.fill_cases scene command.params with
    ⟨fault, later, hparams, hfault, hmessage'⟩ | ⟨params, later, hparams, hmessage'⟩
  · simpa [runEcho, hargs, hparams] using
      Step.Spares.failing (hmessage'.trans hmessage) (hmessage ▸ hfault)
  have hspares := chainTarget_spares scene command [.raw (String.ofList (args ++ params))] later
  rw [hmessage', hmessage] at hspares
  simpa [runEcho, hargs, hparams] using hspares

/-- Putting a submission together leaves the message as it is, whatever comes of it. -/
theorem submission_message (scene : Scene) (command : Command) (state : State) :
    (submission scene command state).2.message = state.message := by
  rcases state.fill_cases scene command.args with
    ⟨fault, after, hargs, -, hmessage⟩ | ⟨args, after, hargs, hmessage⟩
  · simpa [submission, hargs] using hmessage
  rcases after.fill_cases scene command.params with
    ⟨fault, later, hparams, -, hmessage'⟩ | ⟨params, later, hparams, hmessage'⟩
  · -- an empty name is refused before the parameters are filled in
    simp only [submission, hargs, hparams]
    split <;> simp [hmessage, hmessage']
  · simp only [submission, hargs, hparams]
    split
    · exact hmessage
    · split
      · exact hmessage'.trans hmessage
      · split <;> exact hmessage'.trans hmessage

/-- A submission that fails goes no further than the host: the command chains on all the same. -/
theorem runEnqueue_spares (scene : Scene) (command : Command) (state : State) :
    (runEnqueue scene command state).Spares state.message := by
  -- with or without a submission, what is left is the target
  have hmessage := submission_message scene command state
  cases hsubmission : submission scene command state with
  | mk result after =>
    rw [hsubmission] at hmessage
    cases result with
    | error fault =>
      have hspares := chainTarget_spares scene command (submissionFailed fault) after
      rw [hmessage] at hspares
      simpa [runEnqueue, hsubmission] using hspares
    | ok m =>
      have hspares := chainTarget_spares scene command [.enqueue m] after
      rw [hmessage] at hspares
      simpa [runEnqueue, hsubmission] using hspares

end Switchboard
