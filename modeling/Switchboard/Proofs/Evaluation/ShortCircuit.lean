import Switchboard.Proofs.Evaluation.Agreement

/-!
# The first answer ends an evaluation

A message that comes in neither handled nor returned is so at the start of every rule that is run
on it, in the context itself and in those that it calls. At most one command writes a result, and
no return-style command comes behind it.

The invariant is one of a configuration and of the trail behind it: either no result has been
written, and the flags depend on what is to be done next (`Open`), or one has, and all that is
left are ends of chains and of contexts (`Closed`).
-/

namespace Switchboard
namespace Machine

/-! ## Writing the result -/

/-- The next step executes a return-style command. -/
def Answering (scene : Scene) (c : Config) : Prop :=
  ∃ done command state, c.control = .command done command ∧
    scene.limits.chain.admits done = true ∧ answering? command c.state = some state

/-- The next step executes a return-style command, and writes the value of its argument text,
filled in and without the blanks around it, as the result. -/
def Writes (scene : Scene) (c : Config) (value : Value) : Prop :=
  ∃ done command state, c.control = .command done command ∧
    scene.limits.chain.admits done = true ∧ answering? command c.state = some state ∧
    (runAnswer scene command state).next = .done ∧ AnswersWith scene command c.state value

theorem Writes.answering {scene : Scene} {c : Config} {value : Value} (h : Writes scene c value) :
    Answering scene c := by
  rcases h with ⟨done, command, state, hcontrol, hadmitted, hanswer, -, -⟩
  exact ⟨done, command, state, hcontrol, hadmitted, hanswer⟩

theorem not_answering_of_control {scene : Scene} {c : Config}
    (h : ∀ done command, c.control ≠ .command done command) : ¬ Answering scene c := by
  rintro ⟨done, command, state, hcontrol, -⟩
  exact h done command hcontrol

theorem not_writes_of_control {scene : Scene} {c : Config}
    (h : ∀ done command, c.control ≠ .command done command) (value : Value) :
    ¬ Writes scene c value := by
  intro hwrites
  exact not_answering_of_control h hwrites.answering

/-- Nothing on the trail wrote a result. -/
def Silent (scene : Scene) (result : Value) (trail : List Config) : Prop :=
  ∀ config ∈ trail, config.state.message.result = result ∧ ∀ value, ¬ Writes scene config value

/-- One configuration of the trail wrote the result, and it is the last one that executed a
return-style command. -/
def WroteOnce (scene : Scene) (result value : Value) (trail : List Config) : Prop :=
  ∃ front writer back, trail = front ++ writer :: back ∧ Silent scene result front ∧
    writer.state.message.result = result ∧ Writes scene writer value ∧
    ∀ config ∈ back, config.state.message.result = value ∧ ¬ Answering scene config

section

variable {scene : Scene} {result value : Value} {trail : List Config} {c : Config}

theorem Silent.append (h : Silent scene result trail) (hresult : c.state.message.result = result)
    (hwrites : ∀ value, ¬ Writes scene c value) : Silent scene result (trail ++ [c]) := by
  intro config hmem
  rcases List.mem_append.1 hmem with hmem | hmem
  · exact h config hmem
  · rw [List.mem_singleton.1 hmem]
    exact ⟨hresult, hwrites⟩

theorem Silent.wroteOnce (h : Silent scene result trail)
    (hresult : c.state.message.result = result) (hwrites : Writes scene c value) :
    WroteOnce scene result value (trail ++ [c]) :=
  ⟨trail, c, [], rfl, h, hresult, hwrites, by simp⟩

theorem WroteOnce.append (h : WroteOnce scene result value trail)
    (hresult : c.state.message.result = value) (hanswering : ¬ Answering scene c) :
    WroteOnce scene result value (trail ++ [c]) := by
  rcases h with ⟨front, writer, back, rfl, hfront, hwriter, hwrites, hback⟩
  refine ⟨front, writer, back ++ [c], by simp, hfront, hwriter, hwrites, ?_⟩
  intro config hmem
  rcases List.mem_append.1 hmem with hmem | hmem
  · exact hback config hmem
  · rw [List.mem_singleton.1 hmem]
    exact ⟨hresult, hanswering⟩

end

/-! ## The invariant -/

/-- Where the rest of the rules may be marked to be skipped: at the end of a chain, and behind a
fault that is not the program's own. -/
def Control.mayReturn : Control → Bool
  | .chainEnd => true
  | .failed fault => !fault.isReported
  | _ => false

/-- No result has been written. -/
structure Open (scene : Scene) (result : Value) (trail : List Config) (c : Config) : Prop where
  silent : Silent scene result trail
  result_eq : c.state.message.result = result
  handled : c.state.message.handled = false
  returned : c.control.mayReturn = false → c.state.message.returned = false

/-- A result has been written, and the evaluation is about to end. -/
structure Closed (scene : Scene) (result : Value) (trail : List Config) (c : Config) : Prop where
  written : WroteOnce scene result c.state.message.result trail
  handled : c.state.message.handled = true
  ending : c.control = .chainEnd ∨ c.control = .contextEnd ∧ c.state.message.returned = false

/-- Commands that leave the message as it is leave the evaluation open. -/
theorem Open.take_spares {scene : Scene} {result : Value} {trail : List Config} {c : Config}
    {done number : Nat} {command : Command} {s : Step} (h : Open scene result trail c)
    (hcontrol : c.control = .command done command) (hanswer : answering? command c.state = none)
    (hspares : s.Spares c.state.message) :
    Open scene result (trail ++ [c]) (take number s c) where
  silent := by
    -- the command is no answer, so that the step is no write
    refine h.silent.append h.result_eq ?_
    rintro value ⟨done', command', state, hcontrol', -, hanswer', -⟩
    rw [hcontrol] at hcontrol'
    cases hcontrol'
    simp [hanswer] at hanswer'
  result_eq := by simpa [take, hspares.message] using h.result_eq
  handled := by simpa [take, hspares.message] using h.handled
  returned := by
    intro _
    simpa [take, hspares.message] using h.returned (by rw [hcontrol]; rfl)

/-- A return-style command closes the evaluation if it writes a result, and fails or ends its
chain without one otherwise. -/
theorem Open.take_answer {scene : Scene} {result : Value} {trail : List Config} {c : Config}
    {done number : Nat} {command : Command} {state : State} (h : Open scene result trail c)
    (hcontrol : c.control = .command done command)
    (hadmitted : scene.limits.chain.admits done = true)
    (hanswer : answering? command c.state = some state) :
    Open scene result (trail ++ [c]) (take number (runAnswer scene command state) c) ∨
      Closed scene result (trail ++ [c]) (take number (runAnswer scene command state) c) := by
  rcases answering?_eq_some hanswer with ⟨mark, hmark⟩
  have hsame : state.message.handled = false ∧ state.message.result = result := by
    rw [hmark]
    exact ⟨h.handled, h.result_eq⟩
  -- the command is the one that is executed, so that a write is a write of this command
  have hwrites : ∀ value, Writes scene c value →
      (runAnswer scene command state).next = .done ∧ AnswersWith scene command state value := by
    rintro value ⟨done', command', state', hcontrol', -, hanswer', hdone, hwith⟩
    rw [hcontrol] at hcontrol'
    cases hcontrol'
    rw [hanswer] at hanswer'
    cases hanswer'
    exact ⟨hdone, by simpa [hmark] using hwith⟩
  rcases runAnswer_cases scene command state with
    ⟨fault, fields, hnext, harises, hmessage⟩ | ⟨fields, hnext, hnothing, hmessage⟩ |
      ⟨value, fields, hnext, hwith, hmessage⟩
  · refine .inl ⟨h.silent.append h.result_eq ?_, ?_, ?_, ?_⟩
    · intro value hvalue
      have hdone := (hwrites value hvalue).1
      simp [hnext] at hdone
    · simpa [take, hmessage] using hsame.2
    · simpa [take, hmessage] using hsame.1
    · simp [take, hnext, Control.mayReturn, harises.unreported]
  · refine .inl ⟨h.silent.append h.result_eq ?_, ?_, ?_, ?_⟩
    · intro value hvalue
      rcases (hwrites value hvalue).2 with ⟨args, hargs, hne, -⟩
      rcases hnothing with ⟨args', hargs', hempty⟩
      rw [hargs'] at hargs
      cases hargs
      exact hne hempty
    · simpa [take, hmessage] using hsame.2
    · simpa [take, hmessage] using hsame.1
    · simp [take, hnext, Control.mayReturn]
  · refine .inr ⟨?_, ?_, ?_⟩
    · have hvalue : Writes scene c value :=
        ⟨done, command, state, hcontrol, hadmitted, hanswer, hnext, by simpa [hmark] using hwith⟩
      simpa [take, hmessage] using h.silent.wroteOnce h.result_eq hvalue
    · simp [take, hmessage]
    · exact .inl (by simp [take, hnext])

theorem not_writes_of_answering? {scene : Scene} {c : Config} {done : Nat} {command : Command}
    (hcontrol : c.control = .command done command)
    (h : ∀ state, scene.limits.chain.admits done = true → answering? command c.state ≠ some state)
    (value : Value) : ¬ Writes scene c value := by
  rintro ⟨done', command', state, hcontrol', hadmitted, hanswer, -⟩
  rw [hcontrol] at hcontrol'
  cases hcontrol'
  exact h state hadmitted hanswer

/-- A command that calls a context does not answer. -/
theorem answering?_of_jumps? {command : Command} {jump : Bool} (h : jumps? command = some jump)
    (state marked : State) : answering? command state ≠ some marked := by
  unfold jumps? at h
  split at h
  case h_1 haction => simp [answering?, haction]
  case h_2 haction => simp [answering?, haction]
  case h_3 => cases h

theorem not_writes_of_jumps? {scene : Scene} {c : Config} {done : Nat} {command : Command}
    {jump : Bool} (hcontrol : c.control = .command done command)
    (hjump : jumps? command = some jump) (value : Value) : ¬ Writes scene c value := by
  refine not_writes_of_answering? hcontrol ?_ value
  intro state _
  exact answering?_of_jumps? hjump c.state state

/-- A step that changes neither handling nor result, and is no answer. -/
theorem Open.plain {scene : Scene} {result : Value} {trail : List Config} {a b : Config}
    (h : Open scene result trail a) (hwrites : ∀ value, ¬ Writes scene a value)
    (hresult : b.state.message.result = a.state.message.result)
    (hhandled : b.state.message.handled = a.state.message.handled)
    (hreturned : b.control.mayReturn = false → b.state.message.returned = false) :
    Open scene result (trail ++ [a]) b :=
  ⟨h.silent.append h.result_eq hwrites, hresult.trans h.result_eq, hhandled.trans h.handled,
    hreturned⟩

/-- A step that only decides what is done next. -/
theorem Open.unchanged {scene : Scene} {result : Value} {trail : List Config} {a b : Config}
    (h : Open scene result trail a) (hwrites : ∀ value, ¬ Writes scene a value)
    (hcontrol : a.control.mayReturn = false) (hstate : b.state = a.state) :
    Open scene result (trail ++ [a]) b := by
  refine h.plain hwrites (by rw [hstate]) (by rw [hstate]) ?_
  intro _
  rw [hstate]
  exact h.returned hcontrol

theorem Open.step {scene : Scene} {result : Value} {trail : List Config} {a b : Config}
    (h : Open scene result trail a) (hstep : step scene a = some b) :
    Open scene result (trail ++ [a]) b ∨ Closed scene result (trail ++ [a]) b := by
  cases move_of_step hstep with
  | noRule hcontrol =>
    have hwrites : ∀ value, ¬ Writes scene a value := not_writes_of_control (by simp [hcontrol])
    exact .inl (h.unchanged hwrites (by rw [hcontrol]; rfl) rfl)
  | rule rule rest hcontrol =>
    have hwrites : ∀ value, ¬ Writes scene a value := not_writes_of_control (by simp [hcontrol])
    exact .inl (h.unchanged hwrites (by rw [hcontrol]; rfl) rfl)
  | chainRefused done command hcontrol hrefused =>
    refine .inl (h.unchanged (not_writes_of_answering? hcontrol ?_) (by rw [hcontrol]; rfl) rfl)
    intro state hadmitted
    simp [hrefused] at hadmitted
  | spare done command s hcontrol hadmitted hjump hanswer hspares =>
    exact .inl (h.take_spares hcontrol hanswer hspares)
  | answer done command state hcontrol hadmitted hjump hanswer =>
    exact h.take_answer hcontrol hadmitted hanswer
  | noContext done command jump hcontrol hadmitted hjump hcontext =>
    exact .inl (h.unchanged (not_writes_of_jumps? hcontrol hjump) (by rw [hcontrol]; rfl) rfl)
  | nestingRefused done command jump rules hcontrol hadmitted hjump hcontext hrefused =>
    exact .inl (h.unchanged (not_writes_of_jumps? hcontrol hjump) (by rw [hcontrol]; rfl) rfl)
  | entry done command jump rules hcontrol hadmitted hjump hcontext hnesting =>
    -- the callee starts with the flags that its caller had
    exact .inl (h.unchanged (not_writes_of_jumps? hcontrol hjump) (by rw [hcontrol]; rfl) rfl)
  | settled rest stack hcontrol hstack hsettled =>
    -- nothing has been handled, so the rule only returned: the mark goes, and the context ends
    exact .inl (h.plain (not_writes_of_control (by simp [hcontrol])) rfl rfl (fun _ => rfl))
  | unsettled rest stack hcontrol hstack hsettled =>
    refine .inl (h.plain (not_writes_of_control (by simp [hcontrol])) rfl rfl ?_)
    intro _
    simp only [Message.isSettled, Bool.or_eq_false_iff] at hsettled
    exact hsettled.2
  | comeback jump depth stack hcontrol hstack =>
    -- a jump may mark the message; it is at the end of a chain that it does
    refine .inl (h.plain (not_writes_of_control (by simp [hcontrol])) ?_ ?_ ?_)
    · cases jump <;> rfl
    · cases jump <;> rfl
    · intro hreturn
      simp [Control.mayReturn] at hreturn

/-- What is left behind a result executes no command. -/
theorem Closed.step {scene : Scene} {result : Value} {trail : List Config} {a b : Config}
    (h : Closed scene result trail a) (hstep : step scene a = some b) :
    Closed scene result (trail ++ [a]) b := by
  -- only ends are left, and an end of a chain meets a message that is settled
  have hidle : ∀ done command, a.control ≠ .command done command := by
    intro done command
    rcases h.ending with hcontrol | ⟨hcontrol, -⟩ <;> simp [hcontrol]
  have hruleless : ∀ rules, a.control ≠ .rules rules := by
    intro rules
    rcases h.ending with hcontrol | ⟨hcontrol, -⟩ <;> simp [hcontrol]
  have hwritten := h.written.append rfl (not_answering_of_control hidle)
  cases move_of_step hstep with
  | noRule hcontrol => exact absurd hcontrol (hruleless _)
  | rule rule rest hcontrol => exact absurd hcontrol (hruleless _)
  | chainRefused done command hcontrol hrefused => exact absurd hcontrol (hidle done command)
  | spare done command s hcontrol hadmitted hjump hanswer hspares =>
    exact absurd hcontrol (hidle done command)
  | answer done command state hcontrol hadmitted hjump hanswer =>
    exact absurd hcontrol (hidle done command)
  | noContext done command jump hcontrol hadmitted hjump hcontext =>
    exact absurd hcontrol (hidle done command)
  | nestingRefused done command jump rules hcontrol hadmitted hjump hcontext hrefused =>
    exact absurd hcontrol (hidle done command)
  | entry done command jump rules hcontrol hadmitted hjump hcontext hnesting =>
    exact absurd hcontrol (hidle done command)
  | settled rest stack hcontrol hstack hsettled =>
    exact ⟨hwritten, h.handled, .inr ⟨rfl, rfl⟩⟩
  | unsettled rest stack hcontrol hstack hsettled =>
    simp [Message.isSettled, h.handled] at hsettled
  | comeback jump depth stack hcontrol hstack =>
    refine ⟨?_, ?_, .inl rfl⟩
    · cases jump <;> exact hwritten
    · cases jump <;> exact h.handled

/-- Every configuration on the way is open or closed. -/
theorem open_or_closed {scene : Scene} {rules : List Rule} {depth : Int} {state : State}
    {trail : List Config} {c : Config} (hhandled : state.message.handled = false)
    (hreturned : state.message.returned = false)
    (hrun : Run scene (Config.start rules depth state) trail c) :
    Open scene state.message.result trail c ∨ Closed scene state.message.result trail c := by
  have hstart : Open scene state.message.result [] (Config.start rules depth state) :=
    ⟨by simp [Silent], rfl, hhandled, fun _ => hreturned⟩
  -- the step lemmas are the two halves of one invariant
  refine hrun.invariant (P := fun trail c => Open scene state.message.result trail c ∨
    Closed scene state.message.result trail c) ?_ (.inl hstart)
  intro trail a b h hstep
  rcases h with hopen | hclosed
  · exact hopen.step hstep
  · exact .inr (hclosed.step hstep)

/-! ## What comes out -/

/-- What is kept on the way of an evaluation with an outcome, and by the outcome itself. -/
structure ShortCircuits (scene : Scene) (entry : Message) (trail : List Config) (o : Outcome) :
    Prop where
  /-- No rule is run on a message that is handled or returned. -/
  rules_start : ∀ config ∈ trail, ∀ rule rest, config.control = .rules (rule :: rest) →
    config.state.message.handled = false ∧ config.state.message.returned = false
  /-- An evaluation that does not fail answers once, or not at all. -/
  completed : o.fault = none → o.state.message.returned = false ∧
    (o.state.message.handled = false ∧ o.state.message.result = entry.result ∨
      o.state.message.handled = true ∧
        WroteOnce scene entry.result o.state.message.result trail)
  /-- One that fails with a fault of the program's own does not answer. -/
  reported : ∀ fault, o.fault = some fault → fault.isReported = true →
    o.state.message.handled = false ∧ o.state.message.returned = false ∧
      o.state.message.result = entry.result

theorem shortCircuits_of_run {scene : Scene} {rules : List Rule} {depth : Int} {state : State}
    {trail : List Config} {last : Config} {o : Outcome} (hhandled : state.message.handled = false)
    (hreturned : state.message.returned = false)
    (hrun : Run scene (Config.start rules depth state) trail last)
    (houtcome : last.outcome? = some o) : ShortCircuits scene state.message trail o := by
  rcases Config.outcome?_eq_some houtcome with ⟨hstate, -, hend⟩
  have hlast := open_or_closed hhandled hreturned hrun
  refine ⟨?_, ?_, ?_⟩
  · intro config hmem rule rest hcontrol
    -- the run gets to the configuration, so that the invariant holds there
    rcases List.append_of_mem hmem with ⟨front, back, rfl⟩
    rcases open_or_closed hhandled hreturned hrun.to_mem with hopen | hclosed
    · exact ⟨hopen.handled, hopen.returned (by rw [hcontrol]; rfl)⟩
    · rcases hclosed.ending with hending | ⟨hending, -⟩ <;> simp [hcontrol] at hending
  · intro hnone
    rw [hstate]
    rcases hend with ⟨-, hcontrol, -⟩ | ⟨fault, hsome, -⟩
    · rcases hlast with hopen | hclosed
      · exact ⟨hopen.returned (by rw [hcontrol]; rfl), .inl ⟨hopen.handled, hopen.result_eq⟩⟩
      · have hreturned' : last.state.message.returned = false := by
          rcases hclosed.ending with hending | ⟨-, hending⟩
          · simp [hcontrol] at hending
          · exact hending
        exact ⟨hreturned', .inr ⟨hclosed.handled, hclosed.written⟩⟩
    · simp [hnone] at hsome
  · intro fault hfault hreported
    rw [hstate]
    rcases hend with ⟨hnone, -, -⟩ | ⟨other, hsome, hcontrol⟩
    · simp [hnone] at hfault
    · rw [hfault] at hsome
      cases hsome
      rcases hlast with hopen | hclosed
      · refine ⟨hopen.handled, hopen.returned ?_, hopen.result_eq⟩
        simp [hcontrol, Control.mayReturn, hreported]
      · rcases hclosed.ending with hending | ⟨hending, -⟩ <;> simp [hcontrol] at hending

/-- An evaluation of a context on a message that is neither handled nor returned ends with its
first answer. -/
theorem evaluate_short_circuits (c : Context) (source : Source) (host : Host) (depth : Int)
    (state : State) (hhandled : state.message.handled = false)
    (hreturned : state.message.returned = false) :
    ∃ trail last,
      Run (c.registry.scene source host) (Config.start c.rules depth state) trail last ∧
      last.outcome? = some (c.evaluate source host depth state) ∧
      ShortCircuits (c.registry.scene source host) state.message trail
        (c.evaluate source host depth state) := by
  rcases run_evaluate c source host depth state with ⟨trail, last, hrun, houtcome⟩
  exact ⟨trail, last, hrun, houtcome, shortCircuits_of_run hhandled hreturned hrun houtcome⟩

/-- The sections of a context that tests, calls a context that returns without an answer, and jumps
to one that answers. -/
def agreeingSections : Sections :=
  [("m", ["if $\x7bx\x7db=return no".toList, "call silent".toList, "jump agree".toList,
      "return no".toList]),
    ("silent", ["return;seen=1".toList]),
    ("agree", ["return yes".toList])]

/-- The registry of the sections. -/
def agreeingRegistry : Registry :=
  ((Registry.build 1 ⟨.ofChainLimit (.int 10), .ofDepthLimit (.int 3)⟩
    agreeingSections).2.toOption).getD .empty

/-- The context. -/
def agreeing : Context :=
  (agreeingRegistry.context? "m").getD ⟨"m", [], .empty⟩

/-- A message that the test does not match. -/
def agreeingState : State :=
  ⟨.fresh "m" [("x", .text "a")] Source.still.now, .start⟩

theorem agreeing_short_circuits :
    agreeingState.message.handled = false ∧ agreeingState.message.returned = false ∧
    agreeing.rules.length = 4 ∧
    (agreeing.evaluate .still .accepting 0 agreeingState).state.message.result.isText "yes" ∧
    ∃ trail last,
      Run (agreeing.registry.scene .still .accepting)
        (Config.start agreeing.rules 0 agreeingState) trail last ∧
      last.outcome? = some (agreeing.evaluate .still .accepting 0 agreeingState) ∧
      ShortCircuits (agreeing.registry.scene .still .accepting) agreeingState.message trail
        (agreeing.evaluate .still .accepting 0 agreeingState) ∧
      WroteOnce (agreeing.registry.scene .still .accepting) .none
        (agreeing.evaluate .still .accepting 0 agreeingState).state.message.result trail := by
  have hanswer : (agreeing.evaluate .still .accepting 0 agreeingState).state.message.result.isText
      "yes" = true := by decide +kernel
  have hhandled : (agreeing.evaluate .still .accepting 0 agreeingState).state.message.handled =
      true := by decide +kernel
  have hnone : (agreeing.evaluate .still .accepting 0 agreeingState).fault = none := by
    have hfault : (agreeing.evaluate .still .accepting 0 agreeingState).fault.isNone = true := by
      decide +kernel
    exact Option.isNone_iff_eq_none.1 hfault
  rcases evaluate_short_circuits agreeing .still .accepting 0 agreeingState rfl rfl with
    ⟨trail, last, hrun, houtcome, hshort⟩
  have hwrote := ((hshort.completed hnone).2.resolve_left (by simp [hhandled])).2
  exact ⟨rfl, rfl, by decide +kernel, hanswer, trail, last, hrun, houtcome, hshort, hwrote⟩

end Machine
end Switchboard
