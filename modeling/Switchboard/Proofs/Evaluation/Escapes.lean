import Switchboard.Proofs.Evaluation.Guards

/-!
# Faults that leave a context

The bus calls a context as a handler. Faults of the program's own, which come from the guards, are
recorded on the message, and the handler returns. Any other fault leaves the handler with the
message as it is, the mark of a return included. `handle_returns_or_escapes` says which faults these
are: a text brings them about, by a number of too many digits or by a pattern that is refused. It is
about calls of contexts that the stack of the interpreter has room for.

That no other fault comes up rests on an invariant of the configurations of an evaluation (`Sound`):
fields that can be written stay so, since what is read from text can be written.
-/

namespace Switchboard

/-! ## Room for calls -/

namespace Limits

/-- How deep calls of contexts may be nested. Each takes three calls of the interpreter, which
allows a thousand. -/
def nestingRoom : Nat := 300

/-- The limits are those numbers, and there is room for calls that are nested so deep. -/
def Fit (limits : Limits) (chain depth : Nat) : Prop :=
  limits = ofNumbers chain depth ∧ depth ≤ nestingRoom

end Limits

/-! ## Scalar fields -/

/-- The value is a text, a truth value or a number that can be written. Lists and mappings have
values inside, and to write those takes calls of its own. -/
def Value.IsScalar : Value → Prop
  | .text _ | .bool _ | .float _ => True
  | .int n => (Value.int n).isWritable = true
  | _ => False

/-- All fields are scalars; a missing one is an empty text. -/
def Message.HasScalars (m : Message) : Prop :=
  ∀ key, (m.get key).IsScalar

theorem Message.HasScalars.isWritable {m : Message} (h : m.HasScalars) : m.IsWritable := by
  intro key
  have hscalar := h key
  generalize m.get key = value at hscalar
  cases value with
  | text _ | bool _ | float _ => rfl
  | int n => exact hscalar
  | none | calendar _ | list _ | dict _ => exact hscalar.elim

namespace Machine

/-! ## The faults of an evaluation -/

/-- The fields can be written, and a fault is the program's own or one that a text brought about. -/
structure Sound (c : Config) : Prop where
  writable : c.state.message.IsWritable
  fault : ∀ fault, c.control = .failed fault → fault.isReported = true ∨ fault.IsOfText

section

variable {scene : Scene} {chain depth : Nat} {a b c : Config}

theorem Sound.of_not_failed (hwritable : c.state.message.IsWritable)
    (hcontrol : ∀ fault, c.control ≠ .failed fault) : Sound c :=
  ⟨hwritable, fun fault hfailed => absurd hfailed (hcontrol fault)⟩

/-- A command that fails does so at its texts, if all fields can be written. -/
theorem sound_take {number : Nat} {s : Step} {m : Message} (hm : m.IsWritable)
    (hwritable : s.state.message.IsWritable)
    (hfault : ∀ fault, s.next = .fault fault → fault.Arises m) : Sound (take number s c) where
  writable := hwritable
  fault := by
    intro fault hfailed
    cases hnext : s.next with
    | done => simp [take, hnext] at hfailed
    | line line => simp [take, hnext] at hfailed
    | fault other =>
      have hsame : other = fault := by simpa [take, hnext] using hfailed
      rcases hfault other hnext with htext | ⟨-, hunwritable⟩
      · exact .inr (hsame ▸ htext)
      · exact absurd hm hunwritable

theorem sound_step (hlimits : scene.limits = Limits.ofNumbers chain depth) (h : Sound a)
    (hstep : step scene a = some b) : Sound b := by
  cases move_of_step hstep with
  | noRule hcontrol => exact .of_not_failed h.writable (by simp)
  | rule rule rest hcontrol => exact .of_not_failed h.writable (by simp)
  | chainRefused done command hcontrol hrefused =>
    refine ⟨h.writable, ?_⟩
    intro fault hfailed
    cases hfailed
    exact .inl (by rw [hlimits, Limits.ofNumbers_chainFault_isReported])
  | spare done command s hcontrol hadmitted hjump hanswer hspares =>
    have hwritable : s.state.message.IsWritable := by
      rw [hspares.message]
      exact h.writable
    exact sound_take h.writable hwritable hspares.fault
  | answer done command state hcontrol hadmitted hjump hanswer =>
    -- the mark of a return is no field
    rcases answering?_eq_some hanswer with ⟨mark, rfl⟩
    have hmarked : (a.state.markReturned mark).message.IsWritable := h.writable
    refine sound_take hmarked (runAnswer_writable scene command hmarked) ?_
    intro fault hnext
    rcases runAnswer_cases scene command (a.state.markReturned mark) with
      ⟨other, fields, hother, harises, -⟩ | ⟨fields, hdone, -⟩ | ⟨value, fields, hdone, -⟩
    · rw [hother] at hnext
      cases hnext
      exact harises
    · simp [hdone] at hnext
    · simp [hdone] at hnext
  | noContext done command jump hcontrol hadmitted hjump hcontext =>
    exact .of_not_failed h.writable (by simp)
  | nestingRefused done command jump rules hcontrol hadmitted hjump hcontext hrefused =>
    refine ⟨h.writable, ?_⟩
    intro fault hfailed
    cases hfailed
    exact .inl (by rw [hlimits, Limits.ofNumbers_nestingFault_isReported])
  | entry done command jump rules hcontrol hadmitted hjump hcontext hentered =>
    exact .of_not_failed h.writable (by simp)
  | settled rest stack hcontrol hstack hsettled => exact .of_not_failed h.writable (by simp)
  | unsettled rest stack hcontrol hstack hsettled => exact .of_not_failed h.writable (by simp)
  | comeback jump depth stack hcontrol hstack =>
    refine .of_not_failed ?_ (by simp)
    cases jump with
    | true => exact h.writable
    | false => exact h.writable

end

/-- An evaluation of a message whose fields can be written fails with a fault of the program's own,
or with one that a text brought about. -/
theorem evaluate_fault {c : Context} {chain depth : Nat}
    (hlimits : c.registry.limits = Limits.ofNumbers chain depth) {source : Source} {host : Host}
    {state : State} (hwritable : state.message.IsWritable) {level : Int} {fault : Fault}
    (h : (c.evaluate source host level state).fault = some fault) :
    fault.isReported = true ∨ fault.IsOfText := by
  rcases run_evaluate c source host level state with ⟨trail, last, hrun, houtcome⟩
  have hstart : Sound (Config.start c.rules level state) :=
    .of_not_failed hwritable (by simp [Config.start])
  -- the fault is that of the last configuration, which is sound as all before it are
  have hlast := (hrun.forall_mem (P := Sound)
    (fun a b hsound hstep => sound_step hlimits hsound hstep) hstart).2
  rcases (Config.outcome?_eq_some houtcome).2.2 with ⟨hnone, -⟩ | ⟨other, hsome, hcontrol⟩
  · simp [h] at hnone
  · rw [h] at hsome
    cases hsome
    exact hlast.fault fault hcontrol

end Machine

/-! ## The mark of a return -/

/-- Rules that do not fail leave no mark on the message, unless there are none. -/
theorem runRules_returned {scene : Scene} {enter : Enter} {rules : List Rule} {state : State}
    (h : (runRules scene enter rules state).fault = none) :
    (runRules scene enter rules state).state.message.returned = false ∨
      rules = [] ∧ runRules scene enter rules state = ⟨state, [], none⟩ := by
  induction rules generalizing state with
  | nil => exact .inr ⟨rfl, rfl⟩
  | cons rule rest ih =>
    refine .inl ?_
    have hfault : (runCommand scene enter rule.command state).fault = none := by
      cases hrule : (runCommand scene enter rule.command state).fault with
      | none => rfl
      | some fault => simp [runRules, hrule] at h
    simp only [runRules, hfault] at h ⊢
    split at h
    case isTrue hsettled =>
      rw [if_pos hsettled]
      rfl
    case isFalse hopen =>
      rw [if_neg hopen]
      -- the last rule that is run leaves the message unsettled
      have hreturned : (runCommand scene enter rule.command state).state.message.returned =
          false := by
        simp only [Message.isSettled, Bool.or_eq_true, not_or] at hopen
        simpa using hopen.2
      rcases ih h with hrest | ⟨-, hrest⟩
      · exact hrest
      · rw [hrest]
        exact hreturned

/-! ## Contexts as handlers -/

/-- A context that is called as a handler on scalar fields returns, with every failure recorded on
the message and without the mark of a return, or it fails with a fault that a text brought about, which is recorded
nowhere. A context without rules leaves a mark where it is. -/
theorem handle_returns_or_escapes {c : Context} {chain depth : Nat}
    (hlimits : c.registry.limits.Fit chain depth) (source : Source) (host : Host)
    {state : State} (hscalars : state.message.HasScalars) :
    ((c.handle source host state).fault = none ∧
      (∀ fault, (c.evaluate source host 0 state).fault = some fault →
        (c.handle source host state).state.message.error = some fault.text) ∧
      ((c.handle source host state).state.message.returned = false ∨
        c.rules = [] ∧ c.handle source host state = ⟨state, [], none⟩)) ∨
    ∃ fault, (c.handle source host state).fault = some fault ∧ fault.IsOfText ∧
      c.handle source host state = c.evaluate source host 0 state := by
  -- the handler changes the outcome of an evaluation only where this failed with a fault it takes
  cases hfault : (c.evaluate source host 0 state).fault with
  | none =>
    have hhandle : c.handle source host state = c.evaluate source host 0 state := by
      simp [Context.handle, hfault]
    refine .inl ⟨by rw [hhandle, hfault], by simp, ?_⟩
    rw [hhandle]
    exact runRules_returned hfault
  | some fault =>
    cases hreported : fault.isReported with
    | true =>
      have hhandle : (c.handle source host state).state =
          Context.recordFault fault (c.evaluate source host 0 state).state := by
        simp [Context.handle, hfault, hreported]
      refine .inl ⟨by simp [Context.handle, hfault, hreported], ?_, .inl ?_⟩
      · intro other hother
        cases hother
        rw [hhandle]
        rfl
      · rw [hhandle]
        rfl
    | false =>
      have hhandle : c.handle source host state = c.evaluate source host 0 state := by
        simp [Context.handle, hfault, hreported]
      refine .inr ⟨fault, by rw [hhandle, hfault], ?_, hhandle⟩
      rcases Machine.evaluate_fault hlimits.1 hscalars.isWritable hfault with hown | htext
      · simp [hreported] at hown
      · exact htext

/-! ## Digits in a field -/

section

variable {scene : Scene} {state after : State}

/-- An answer without parameters fails if its text cannot be read. -/
theorem runAnswer_of_refused {command : Command} {text : List Char} {flaw : Numeral.IntegerFlaw}
    (hparams : command.params = []) (hfill : state.fill scene command.args = (.ok text, after))
    (hne : Text.strip text ≠ [])
    (hrefused : Value.ofCommandText (String.ofList (Text.strip text)) = .error flaw) :
    runAnswer scene command state =
      ⟨after, [], .fault (Fault.ofIntegerFlaw (Text.strip text) flaw)⟩ := by
  have hempty : after.fill scene [] = (.ok [], after) := by rfl
  have hwrite : writeAnswer (Text.strip text) (parameters []) after.message =
      (after.message, some (Fault.ofIntegerFlaw (Text.strip text) flaw)) := by
    have hnone : parameters [] = [] := by rfl
    simp [hnone, writeAnswer, writeParameters, writeResult, hne, hrefused]
  simp only [runAnswer, hparams, hfill, hempty, hwrite]

/-- A rule whose answer fails ends the evaluation, and the mark of the return is kept. -/
theorem runRules_of_answer_fault {enter : Enter} {rule : Rule} {rest : List Rule} {fault : Fault}
    (haction : rule.command.action = some .answer) (hcount : scene.limits.chain.count ≠ 0)
    (hanswer : runAnswer scene rule.command (state.markReturned true) =
      ⟨after, [], .fault fault⟩) :
    runRules scene enter (rule :: rest) state = ⟨after, [], some fault⟩ := by
  have hexecute : execute scene enter rule.command state = ⟨after, [], .fault fault⟩ := by
    rw [execute, haction]
    exact hanswer
  have hcommand : runCommand scene enter rule.command state = ⟨after, [], some fault⟩ := by
    rcases Nat.exists_eq_succ_of_ne_zero hcount with ⟨left, hleft⟩
    rw [runCommand, hleft, runChain_succ, hexecute, Step.outcome]
  simp only [runRules, hcommand]

end

/-- The text of rules with one context, which answers with a field. -/
def copyText : List Char :=
  ['[', 'm', ']', '\n', 'r', 'e', 't', 'u', 'r', 'n', ' ', '$', '\x7b', 'x', '\x7d', '\n']

/-- The rule of that context. -/
def copyRule : Rule :=
  ⟨['r', 'e', 't', 'u', 'r', 'n', ' ', '$', '\x7b', 'x', '\x7d'],
    ⟨some .answer, ['$', '\x7b', 'x', '\x7d'], [], none⟩⟩

/-- The registry of the text. -/
def copyRegistry : Registry :=
  ⟨1, Limits.ofNumbers 1000 64, [("m", [copyRule])]⟩

/-- The context of the text. -/
def copying : Context :=
  ⟨"m", [copyRule], copyRegistry⟩

/-- A message with a text in the field. -/
def copyState (text : List Char) : State :=
  ⟨.fresh "m" [("x", .text (String.ofList text))] Source.still.now, .start⟩

theorem copyState_hasScalars (text : List Char) : (copyState text).message.HasScalars := by
  intro key
  by_cases hkey : "x" = key
  · simp [copyState, Message.fresh, Message.get, Entries.get?, hkey, Value.IsScalar]
  · simp [copyState, Message.fresh, Message.get, Entries.get?, hkey, Value.IsScalar]

theorem copying_returns :
    copying.registry.limits.Fit 1000 64 ∧ (copyState ['7']).message.HasScalars ∧
    (copying.handle .still .accepting (copyState ['7'])).state.message.returned = false := by
  have hlimits : copying.registry.limits.Fit 1000 64 := ⟨rfl, by decide⟩
  have hends := handle_returns_or_escapes hlimits .still .accepting (copyState_hasScalars ['7'])
  have hnone : (copying.handle .still .accepting (copyState ['7'])).fault = none := by rfl
  refine ⟨hlimits, copyState_hasScalars ['7'], ?_⟩
  rcases hends with ⟨-, -, hreturned | ⟨hrules, -⟩⟩ | ⟨fault, hsome, -⟩
  · exact hreturned
  · simp [copying] at hrules
  · simp [hnone] at hsome

/-- The rule is filled with the field as it is. -/
theorem fill_copyRule (scene : Scene) (text : List Char) :
    ((copyState text).markReturned true).fill scene copyRule.command.args =
      (.ok text, (copyState text).markReturned true) := by
  have hsegments : Segment.segments copyRule.command.args = [.place .field ['x']] := by rfl
  have hget : ((copyState text).markReturned true).message.get (String.ofList ['x']) =
      .text (String.ofList text) := by rfl
  simp [State.fill, fillTemplate, hsegments, segmentsText, segmentText, fieldText, hget,
    Value.isWritable, Value.commandText, Value.plain]

/-- Digits in the field that are too many for a number leave the handler, and the mark of the return
stays on the message. -/
theorem handle_copying_digits {body : List Char} (hbody : ∀ c ∈ body, c.isDigit = true)
    (hlong : Numeral.digitLimit < body.length) :
    copying.handle .still .accepting (copyState body) =
      ⟨(copyState body).markReturned true, [], some (.tooManyDigits (some body.length))⟩ := by
  have hne : body ≠ [] := by
    intro hempty
    simp [hempty] at hlong
  have hstrip : Text.strip body = body := by
    simpa using Text.strip_of_isDigit hbody (List.forall_mem_nil _)
  have hrefused : Value.ofCommandText (String.ofList (Text.strip body)) =
      .error (.tooLong body.length) := by
    rw [hstrip, Value.ofCommandText_digits hne hbody, if_pos hlong]
  have hanswer := runAnswer_of_refused (by rfl)
    (fill_copyRule (copyRegistry.scene .still .accepting) body) (by rwa [hstrip]) hrefused
  have hevaluate : copying.evaluate .still .accepting 0 (copyState body) =
      ⟨(copyState body).markReturned true, [], some (.tooManyDigits (some body.length))⟩ :=
    runRules_of_answer_fault (by rfl) (by decide) hanswer
  simp [Context.handle, hevaluate, Fault.isReported]

/-- A message with scalar fields can make a context fail as a handler, and so does the text of 4301
digits. -/
theorem long_number_escapes :
    ¬ ∀ (text : List Char) (serial chain depth : Nat) (registry : Registry) (name : String)
      (c : Context),
      (Registry.build serial (Limits.ofNumbers chain depth) (Sections.parse text).1).2 =
        .ok registry →
      registry.context? name = some c →
      ∀ source host state, state.message.HasScalars →
        (c.handle source host state).fault = none ∧
        (c.handle source host state).state.message.returned = false := by
  intro hreturns
  have hbuild : (Registry.build 1 (Limits.ofNumbers 1000 64) (Sections.parse copyText).1).2 =
      .ok copyRegistry := by with_unfolding_all rfl
  have hcontext : copyRegistry.context? "m" = some copying := by rfl
  have hdigits : ∀ c ∈ List.replicate 4301 '1', c.isDigit = true := by
    intro c hc
    rw [List.eq_of_mem_replicate hc]
    rfl
  have hlong : Numeral.digitLimit < (List.replicate 4301 '1').length := by
    rw [List.length_replicate]
    decide
  have hnone := (hreturns copyText 1 1000 64 copyRegistry "m" copying hbuild hcontext .still
    .accepting _ (copyState_hasScalars (List.replicate 4301 '1'))).1
  rw [handle_copying_digits hdigits hlong] at hnone
  cases hnone

end Switchboard
