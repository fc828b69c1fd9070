import Switchboard.Proofs.Command.Rendering
import Switchboard.Proofs.Evaluation.Chaining
import Switchboard.Proofs.Evaluation.Edits

/-!
# Jumps

A call comes back to the rules behind it unless the message is settled, a jump ends the context that
it stands in. So a jump is a call with an empty answer behind it. The two get there in different
ways: a jump marks the message when the called context has already taken its own mark off, the
answer sets the same mark as a rule of its own, which is only run if the call did not settle the
message.
-/

namespace Switchboard

open Text Machine

/-! ## Lines with a keyword -/

/-- The line of a keyword with a text behind it. -/
def Action.line (action : Action) (text : List Char) : List Char :=
  action.keyword ++ ' ' :: text

namespace Command

/-- How a line with a keyword is read depends on the keyword in nothing but the action. -/
theorem parse_line {action : Action} (h : action ∈ Action.readable) (text : List Char) :
    parse (action.line text) = settled false [] (some action) (text.takeWhile isPlainChar)
      (Group.settleText? (text.dropWhile isPlainChar)) := by
  have hread : Action.read (action.line text) = (some action, ' ' :: text) := by
    show Action.read (Action.word (some action) ++ ' ' :: text) = (some action, ' ' :: text)
    refine Action.read_word ?_ text
    rintro _ ⟨⟩
    exact h
  have hopening : dropOpening (stripStart (action.line text)) = (false, action.line text) := by
    cases action <;> rfl
  have hbody : body (action.line text) = action.line text := by rw [body, hopening]
  have hopened : isOpened (action.line text) = false := by rw [isOpened, hopening]
  have hcut : cutArgs (action.line text) =
      (text.takeWhile isPlainChar, text.dropWhile isPlainChar) := by
    rw [cutArgs, hread]
    rfl
  rw [parse_eq_settled, hbody, hopened, hread, hcut]
  rcases Group.settleText? (text.dropWhile isPlainChar) with - | ⟨kept, target⟩ <;> rfl

/-- A line that is read as a jump would be read as a call with the other keyword; and if the one
does not fit, the other does not, either. -/
theorem parse_jump_call (text : List Char) :
    (parse (Action.jump.line text) = empty ∧ parse (Action.call.line text) = empty) ∨
    ∃ args params target, parse (Action.jump.line text) = ⟨some .jump, args, params, target⟩ ∧
      parse (Action.call.line text) = ⟨some .call, args, params, target⟩ := by
  rw [parse_line (by decide), parse_line (by decide)]
  rcases Group.settleText? (text.dropWhile isPlainChar) with - | ⟨kept, target⟩
  · exact .inl ⟨rfl, rfl⟩
  · exact .inr ⟨_, _, _, rfl, rfl⟩

/-- The answer without result and fields. -/
def blankAnswer : Command :=
  ⟨some .answer, [], [], none⟩

theorem parse_blankAnswer : parse (Action.answer.line []) = blankAnswer := by
  rw [parse_line (by decide), List.dropWhile_nil, Group.settleText?_nil]
  rfl

end Command

/-! ## Rules that end their context -/

section

variable {scene : Scene} {enter : Enter} {left : Nat}

/-- An empty answer marks the message, if it is executed at all. -/
theorem runCommand_blankAnswer (hcount : scene.limits.chain.count = left + 1) (state : State) :
    runCommand scene enter .blankAnswer state = ⟨state.markReturned true, [], none⟩ := by
  have hexecute : execute scene enter .blankAnswer state =
      runAnswer scene .blankAnswer (state.markReturned true) := rfl
  rw [runCommand, hcount, runChain_succ, hexecute, runAnswer_blank rfl rfl, Step.outcome]

/-- A call or jump to a context that is there comes to what the evaluation of the context comes to;
a jump marks the message, unless the evaluation fails. -/
theorem runCommand_of_jumps? (enter : Enter) (hcount : scene.limits.chain.count = left + 1)
    {command : Command} {jump : Bool} (hjump : jumps? command = some jump) {rules : List Rule}
    (hget : scene.contexts.get? (String.ofList (strip command.args)) = some rules)
    (state : State) :
    runCommand scene enter command state =
      match enter (String.ofList (strip command.args)) rules state with
      | ⟨after, events, none⟩ => ⟨if jump then after.markReturned true else after, events, none⟩
      | ⟨after, events, some fault⟩ => ⟨after, events, some fault⟩ := by
  rw [runCommand, hcount, runChain_succ, execute_of_jumps? hjump]
  simp only [runCall, hget]
  rcases enter (String.ofList (strip command.args)) rules state with ⟨after, events, - | fault⟩ <;>
    rfl

@[simp] theorem State.isSettled_markReturned (state : State) :
    (state.markReturned true).message.isSettled = true := by
  simp [State.markReturned, Message.isSettled]

@[simp] theorem State.markReturned_markReturned (state : State) (mark other : Bool) :
    (state.markReturned mark).markReturned other = state.markReturned other :=
  rfl

/-- The rules behind an empty answer are never run. -/
theorem runRules_blankAnswer (scene : Scene) (enter : Enter) {rule : Rule}
    (hrule : rule.command = .blankAnswer) (rest : List Rule) (state : State) :
    runRules scene enter (rule :: rest) state = runRules scene enter [rule] state := by
  cases hcount : scene.limits.chain.count with
  | zero =>
    have hfault : (runCommand scene enter rule.command state).fault =
        some (scene.limits.chainFault state.message.name) := by rw [runCommand, hcount, runChain]
    rw [runRules_of_fault hfault, runRules_of_fault hfault]
  | succ left =>
    have hrun : runCommand scene enter rule.command state = ⟨state.markReturned true, [], none⟩ := by
      rw [hrule, runCommand_blankAnswer hcount]
    have hdone : (runCommand scene enter rule.command state).fault = none := by rw [hrun]
    have hsettled : (runCommand scene enter rule.command state).state.message.isSettled = true := by
      rw [hrun, State.isSettled_markReturned]
    rw [runRules_of_settled hdone hsettled, runRules_of_settled hdone hsettled]

/-- Where a jump stands, a call with an empty answer behind it does the same, if the context that
they call is there. -/
theorem runRules_jump {jump call blank : Rule} (hjump : jumps? jump.command = some true)
    (hcall : jumps? call.command = some false) (hargs : call.command.args = jump.command.args)
    (hblank : blank.command = .blankAnswer) {rules : List Rule}
    (hget : scene.contexts.get? (String.ofList (strip jump.command.args)) = some rules)
    (after : List Rule) (state : State) :
    runRules scene enter (call :: blank :: after) state =
      runRules scene enter (jump :: after) state := by
  cases hcount : scene.limits.chain.count with
  -- a guard that lets no command pass refuses both
  | zero => simp [runRules, runCommand, hcount, runChain]
  | succ left =>
    have hget' : scene.contexts.get? (String.ofList (strip call.command.args)) = some rules := by
      rw [hargs]
      exact hget
    have hcalled := runCommand_of_jumps? enter hcount hcall hget' state
    have hjumped := runCommand_of_jumps? enter hcount hjump hget state
    simp only [runRules, hblank, hcalled, hjumped, hargs]
    rcases enter (String.ofList (strip jump.command.args)) rules state with
      ⟨reached, events, - | fault⟩
    · -- a context that settles the message ends both, else the answer does
      cases hsettled : reached.message.isSettled with
      | true => simp [hsettled]
      | false => simp [hsettled, runCommand_blankAnswer hcount, Outcome.after]
    · rfl

/-- The same for rules as they are written. A line that does not fit is no jump: it ends its
context, and so does that of the call. -/
theorem runRules_jump_line {text : List Char} {jump call blank : Rule}
    (hjump : (Rule.compile (Action.jump.line text)).2 = .ok jump)
    (hcall : (Rule.compile (Action.call.line text)).2 = .ok call)
    (hblank : (Rule.compile (Action.answer.line [])).2 = .ok blank)
    (hcallee : scene.contexts.has (String.ofList (strip jump.command.args)) = true)
    (after : List Rule) (state : State) :
    runRules scene enter (call :: blank :: after) state =
      runRules scene enter (jump :: after) state := by
  have hanswer : blank.command = .blankAnswer := by
    rw [Rule.command_eq_complete hblank, Command.parse_blankAnswer]
    rfl
  rcases Command.parse_jump_call text with
    ⟨hmisfit, hmisfit'⟩ | ⟨args, params, target, hparse, hparse'⟩
  · have hends : jump.command = .blankAnswer := by
      rw [Rule.command_eq_complete hjump, hmisfit]
      rfl
    have hends' : call.command = .blankAnswer := by
      rw [Rule.command_eq_complete hcall, hmisfit']
      rfl
    rw [runRules_blankAnswer scene enter hends, runRules_blankAnswer scene enter hends']
    simp only [runRules, hends, hends']
  · have hjumps : jump.command = ⟨some .jump, args, params, target⟩ := by
      rw [Rule.command_eq_complete hjump, hparse]
      rfl
    have hcalls : call.command = ⟨some .call, args, params, target⟩ := by
      rw [Rule.command_eq_complete hcall, hparse']
      rfl
    rw [Entries.has, Option.isSome_iff_exists] at hcallee
    rcases hcallee with ⟨rules, hget⟩
    exact runRules_jump (by rw [hjumps]; rfl) (by rw [hcalls]; rfl) (by rw [hcalls, hjumps])
      hanswer hget after state

end

/-! ## Contexts with jumps -/

/-- In a registry, a jump to a context that is there can be taken apart into a call and an empty
answer behind it: whichever context is evaluated, and whatever the message, the outcome is the same
one. -/
theorem jump_is_call_then_answer {registry : Registry} {name : String} {before after : List Rule}
    {text : List Char} {jump call blank : Rule}
    (hjump : (Rule.compile (Action.jump.line text)).2 = .ok jump)
    (hcall : (Rule.compile (Action.call.line text)).2 = .ok call)
    (hblank : (Rule.compile (Action.answer.line [])).2 = .ok blank)
    (hcallee : registry.contexts.has (String.ofList (strip jump.command.args)) = true)
    (hplace : registry.contexts.get? name = some (before ++ jump :: after))
    {caller : String} {c c' : Context} (hc : registry.context? caller = some c)
    (hc' : (registry.withRules name (before ++ call :: blank :: after)).context? caller = some c')
    (source : Source) (host : Host) (depth : Int) (state : State) :
    c'.evaluate source host depth state = c.evaluate source host depth state := by
  have hedits : Edits registry.contexts
      (registry.withRules name (before ++ call :: blank :: after)).contexts name
      [jump] [call, blank] after :=
    Edits.of_withRules [jump] [call, blank] hplace
  have hseen : (c'.evaluate source host depth state).seen (fun _ => true) =
      (c.evaluate source host depth state).seen fun _ => true := by
    refine hedits.context_evaluate rfl hc hc' ?_
    intro levels reached _
    have hthere := (hedits.has _).trans hcallee
    exact congrArg (Outcome.seen fun _ => true)
      (runRules_jump_line hjump hcall hblank hthere after reached)
  simpa only [Outcome.seen_all] using hseen

/-- The rule that writes a text. -/
def echoRule (text : List Char) : Rule :=
  ⟨Action.echo.line text, ⟨some .echo, text, [], none⟩⟩

/-- A context that jumps to another one, which writes a text, and would write one of its own behind
the jump. -/
def jumpingRegistry : Registry :=
  { Registry.empty with
    contexts :=
      [("main", [⟨Action.jump.line ['s'], ⟨some .jump, ['s'], [], none⟩⟩, echoRule ['n', 'o']]),
        ("s", [echoRule ['h', 'i']])] }

theorem jump_to_output_is_call_then_answer :
    ∃ jump call blank c c',
      (Rule.compile (Action.jump.line ['s'])).2 = .ok jump ∧
      (Rule.compile (Action.call.line ['s'])).2 = .ok call ∧
      (Rule.compile (Action.answer.line [])).2 = .ok blank ∧
      jumpingRegistry.contexts.has (String.ofList (strip jump.command.args)) = true ∧
      jumpingRegistry.contexts.get? "main" = some ([] ++ jump :: [echoRule ['n', 'o']]) ∧
      jumpingRegistry.context? "main" = some c ∧
      (jumpingRegistry.withRules "main" ([] ++ call :: blank :: [echoRule ['n', 'o']])).context?
        "main" = some c' ∧
      c'.evaluate .still .accepting 0 ⟨.fresh "m" [] Source.still.now, .start⟩ =
        c.evaluate .still .accepting 0 ⟨.fresh "m" [] Source.still.now, .start⟩ := by
  have hjump : (Rule.compile (Action.jump.line ['s'])).2 =
      .ok ⟨Action.jump.line ['s'], ⟨some .jump, ['s'], [], none⟩⟩ := by with_unfolding_all rfl
  have hcall : (Rule.compile (Action.call.line ['s'])).2 =
      .ok ⟨Action.call.line ['s'], ⟨some .call, ['s'], [], none⟩⟩ := by with_unfolding_all rfl
  have hblank : (Rule.compile (Action.answer.line [])).2 =
      .ok ⟨Action.answer.line [], .blankAnswer⟩ := by with_unfolding_all rfl
  have hcallee : jumpingRegistry.contexts.has "s" = true := by decide
  have hplace : jumpingRegistry.contexts.get? "main" =
      some ([] ++ ⟨Action.jump.line ['s'], ⟨some .jump, ['s'], [], none⟩⟩ ::
        [echoRule ['n', 'o']]) := rfl
  have hc' : (jumpingRegistry.withRules "main"
      ([] ++ ⟨Action.call.line ['s'], ⟨some .call, ['s'], [], none⟩⟩ ::
        ⟨Action.answer.line [], .blankAnswer⟩ :: [echoRule ['n', 'o']])).context? "main" =
      some _ := rfl
  exact ⟨_, _, _, _, _, hjump, hcall, hblank, hcallee, hplace, rfl, hc',
    jump_is_call_then_answer hjump hcall hblank hcallee hplace rfl hc' _ _ _ _⟩

end Switchboard
