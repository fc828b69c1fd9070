import Switchboard.Proofs.Evaluation.Machine
import Switchboard.Rules.Registry

/-!
# Evaluation under edited rules

Rules of a context are put in the place of others, and the context may be called from anywhere, also
from itself. `Edits.evaluate` says when this does not show: it is enough to compare the old and the
new rules where they stand, under one and the same registry, for each message that gets there.
`Visits` tells what gets where. It is the evaluator read as a relation between the places that it
comes to.

What is compared is the state that is left, the fault, and the events of a kind.
-/

namespace Switchboard

open Text Machine

/-! ## What is looked at -/

/-- The outcome as it is seen if one looks at the events of a kind alone. -/
def Outcome.seen (keep : Event → Bool) (o : Outcome) : Outcome :=
  { o with events := o.events.filter keep }

/-- What a command leaves behind, seen in the same way. -/
def Step.seen (keep : Event → Bool) (s : Step) : Step :=
  { s with events := s.events.filter keep }

section

variable {keep : Event → Bool}

theorem Outcome.seen_after (events : List Event) (o : Outcome) :
    (o.after events).seen keep = (o.seen keep).after (events.filter keep) := by
  simp [Outcome.seen, Outcome.after]

theorem Outcome.seen_all (o : Outcome) : o.seen (fun _ => true) = o := by
  rw [Outcome.seen, List.filter_eq_self.mpr fun _ _ => rfl]

theorem Outcome.seen_eq_iff {o o' : Outcome} :
    o'.seen keep = o.seen keep ↔
      o'.state = o.state ∧ o'.events.filter keep = o.events.filter keep ∧ o'.fault = o.fault := by
  simp [Outcome.seen]

theorem Step.seen_eq_iff {s s' : Step} :
    s'.seen keep = s.seen keep ↔
      s'.state = s.state ∧ s'.events.filter keep = s.events.filter keep ∧ s'.next = s.next := by
  simp [Step.seen]

/-- Two steps that are seen to be the same, and behind them the same chain. -/
theorem Step.seen_outcome {s s' : Step} {rest rest' : List Char → State → Outcome}
    (hs : s'.seen keep = s.seen keep)
    (hrest : ∀ line, s.next = .line line →
      (rest' line s.state).seen keep = (rest line s.state).seen keep) :
    (s'.outcome rest').seen keep = (s.outcome rest).seen keep := by
  obtain ⟨hstate, hevents, hnext⟩ := Step.seen_eq_iff.mp hs
  cases h : s.next with
  | done => simp [Step.outcome, Outcome.seen, hnext, h, hstate, hevents]
  | fault fault => simp [Step.outcome, Outcome.seen, hnext, h, hstate, hevents]
  | line line =>
    simp only [Step.outcome, hnext, h, hstate, Outcome.seen_after, hevents, hrest line h]

end

/-! ## The way of an evaluation -/

/-- The chain of a command comes to the execution of another one. -/
inductive Leads (scene : Scene) (enter : Enter) : Nat → Command → State → Command → State → Prop
  | here (left : Nat) (command : Command) (state : State) :
      Leads scene enter (left + 1) command state command state
  | on {left : Nat} {command last : Command} {state after : State} {line : List Char} :
      (execute scene enter command state).next = .line line →
      Leads scene enter left (Command.parse line) (execute scene enter command state).state
        last after →
      Leads scene enter (left + 1) command state last after

/-- A place in an evaluation: with so many levels left, what is left of the rules of a context is to
be run. -/
structure Visit where
  levels : Nat
  context : String
  rest : List Rule
  state : State

/-- The places that an evaluation comes to from a first one: behind a rule that leaves the message
unsettled the next one, and behind a call the first rule of the context. -/
inductive Visits (scene : Scene) (first : Visit) : Visit → Prop
  | first : Visits scene first first
  | next {levels : Nat} {context : String} {rule : Rule} {rest : List Rule} {state : State} :
      Visits scene first ⟨levels, context, rule :: rest, state⟩ →
      (runCommand scene (enterAt scene levels) rule.command state).fault = none →
      (runCommand scene (enterAt scene levels) rule.command state).state.message.isSettled =
        false →
      Visits scene first
        ⟨levels, context, rest, (runCommand scene (enterAt scene levels) rule.command state).state⟩
  | entry {levels : Nat} {context : String} {rule : Rule} {rest rules : List Rule}
      {state after : State} {command : Command} {jump : Bool} :
      Visits scene first ⟨levels + 1, context, rule :: rest, state⟩ →
      Leads scene (enterAt scene (levels + 1)) scene.limits.chain.count rule.command state
        command after →
      jumps? command = some jump →
      scene.contexts.get? (String.ofList (strip command.args)) = some rules →
      Visits scene first ⟨levels, String.ofList (strip command.args), rules, after⟩

theorem Leads.fault {scene : Scene} {enter : Enter} {left : Nat} {command last : Command}
    {state after : State} (h : Leads scene enter left command state last after) {fault : Fault}
    (hfault : (execute scene enter last after).next = .fault fault) :
    (runChain scene enter left command state).fault = some fault := by
  -- the induction is on the way to the command that fails, each step of which is a link of the chain
  induction h with
  | here left command state => simp [runChain_succ, Step.outcome, hfault]
  | on hline _ ih => simpa [runChain_succ, Step.outcome, hline, Outcome.after] using ih hfault

/-- A command that calls a context is a call. -/
theorem execute_of_jumps? {scene : Scene} {enter : Enter} {command : Command} {jump : Bool}
    (h : jumps? command = some jump) (state : State) :
    execute scene enter command state = runCall scene enter jump command.args state := by
  unfold jumps? at h
  split at h
  case h_1 haction =>
    cases h
    rw [execute, haction]
  case h_2 haction =>
    cases h
    rw [execute, haction]
  case h_3 => cases h

/-- A command that goes on with a line leaves the message as it is. -/
theorem execute_line_message {scene : Scene} {enter : Enter} {command : Command} {state : State}
    {line : List Char} (h : (execute scene enter command state).next = .line line) :
    (execute scene enter command state).state.message = state.message := by
  -- answers and calls end their chain, so they give no line
  have hanswer : ∀ state, (runAnswer scene command state).next ≠ .line line := by
    intro state hline
    rcases runAnswer_cases scene command state with
      ⟨fault, fields, hnext, -⟩ | ⟨fields, hnext, -⟩ | ⟨value, fields, hnext, -⟩ <;>
      simp [hnext] at hline
  have hcall : ∀ jump, (runCall scene enter jump command.args state).next ≠ .line line := by
    intro jump hline
    simp only [runCall] at hline
    split at hline
    case h_1 => cases hline
    case h_2 => split at hline <;> cases hline
  unfold execute at h ⊢
  cases haction : command.action with
  | none =>
    rw [haction] at h
    exact absurd h (hanswer state)
  | some action =>
    rw [haction] at h
    cases action with
    | call => exact absurd h (hcall false)
    | jump => exact absurd h (hcall true)
    | answer => exact absurd h (hanswer (state.markReturned true))
    | test => exact (runTest_spares scene command state).message
    | echo => exact (runEcho_spares scene command state).message
    | enqueue => exact (runEnqueue_spares scene command state).message
    | dispatch => rfl

theorem Leads.message {scene : Scene} {enter : Enter} {left : Nat} {command last : Command}
    {state after : State} (h : Leads scene enter left command state last after) :
    after.message = state.message := by
  induction h with
  | here left command state => rfl
  | on hline _ ih => exact ih.trans (execute_line_message hline)

namespace Visits

variable {scene : Scene} {first v : Visit}

/-- No place is come to with a settled message, if the first one is not. -/
theorem isSettled (h : Visits scene first v) (hfirst : first.state.message.isSettled = false) :
    v.state.message.isSettled = false := by
  induction h with
  | first => exact hfirst
  | next _ _ hopen _ => exact hopen
  | entry _ hleads _ _ ih =>
    rw [hleads.message]
    exact ih

/-- What fails at a place that is come to fails the evaluation. -/
theorem fault (h : Visits scene first v) {fault : Fault}
    (hfault : (runRules scene (enterAt scene v.levels) v.rest v.state).fault = some fault) :
    (runRules scene (enterAt scene first.levels) first.rest first.state).fault = some fault := by
  induction h with
  | first => exact hfault
  | next _ hdone hopen ih =>
    refine ih ?_
    rw [runRules_of_unsettled hdone hopen]
    exact hfault
  | @entry levels context rule rest rules state after command jump _ hleads hjump hget ih =>
    -- the context fails the call, the call its chain, and the chain the rules
    have hexecute : (execute scene (enterAt scene (levels + 1)) command after).next =
        .fault fault := by
      simp [execute_of_jumps? hjump, runCall, hget, enterAt, hfault]
    have hchain : (runCommand scene (enterAt scene (levels + 1)) rule.command state).fault =
        some fault := hleads.fault hexecute
    refine ih ?_
    rw [runRules_of_fault hchain]
    exact hchain

end Visits

/-! ## Other contexts -/

/-- The scene with other contexts. -/
def Scene.withContexts (scene : Scene) (contexts : Entries (List Rule)) : Scene :=
  { scene with contexts := contexts }

section

variable {scene : Scene} {contexts : Entries (List Rule)} {keep : Event → Bool}
  {enter enter' : Enter}

/-- Contexts show in the calls alone. -/
theorem execute_seen {command : Command} {state : State}
    (hcall : ∀ jump, jumps? command = some jump →
      (runCall (scene.withContexts contexts) enter' jump command.args state).seen keep =
        (runCall scene enter jump command.args state).seen keep) :
    (execute (scene.withContexts contexts) enter' command state).seen keep =
      (execute scene enter command state).seen keep := by
  unfold execute
  cases haction : command.action with
  | none => rfl
  | some action =>
    cases action with
    | call => exact hcall false (by simp [jumps?, haction])
    | jump => exact hcall true (by simp [jumps?, haction])
    | test => rfl
    | answer => rfl
    | echo => rfl
    | enqueue => rfl
    | dispatch => rfl

/-- A call of a context that is there is seen as its evaluation is. -/
theorem runCall_seen {args : List Char} {rules rules' : List Rule} {state : State}
    (hget : scene.contexts.get? (String.ofList (strip args)) = some rules)
    (hget' : contexts.get? (String.ofList (strip args)) = some rules')
    (henter : (enter' (String.ofList (strip args)) rules' state).seen keep =
      (enter (String.ofList (strip args)) rules state).seen keep) (jump : Bool) :
    (runCall (scene.withContexts contexts) enter' jump args state).seen keep =
      (runCall scene enter jump args state).seen keep := by
  have hcontext : (scene.withContexts contexts).contexts.get? (String.ofList (strip args)) =
      some rules' := hget'
  obtain ⟨hstate, hevents, hfault⟩ := Outcome.seen_eq_iff.mp henter
  cases h : (enter (String.ofList (strip args)) rules state).fault with
  | none => simp [runCall, hget, hcontext, hfault, h, Step.seen, hstate, hevents]
  | some fault => simp [runCall, hget, hcontext, hfault, h, Step.seen, hstate, hevents]

/-- A chain is seen as another one if all of its commands are. -/
theorem runChain_seen {left : Nat} {command : Command} {state : State}
    (hsteps : ∀ last after, Leads scene enter left command state last after →
      (execute (scene.withContexts contexts) enter' last after).seen keep =
        (execute scene enter last after).seen keep) :
    (runChain (scene.withContexts contexts) enter' left command state).seen keep =
      (runChain scene enter left command state).seen keep := by
  -- the commands of the rest of the chain are among those of the whole
  induction left generalizing command state with
  | zero => rfl
  | succ left ih =>
    rw [runChain_succ, runChain_succ]
    refine Step.seen_outcome (hsteps command state (.here left command state)) ?_
    intro line hline
    exact ih fun last after hleads => hsteps last after (.on hline hleads)

/-- Rules are seen as others if their first ones are and, where these leave the message unsettled,
the others, too. -/
theorem runRules_seen {rule : Rule} {rest rest' : List Rule} {state : State}
    (hrule : (runCommand (scene.withContexts contexts) enter' rule.command state).seen keep =
      (runCommand scene enter rule.command state).seen keep)
    (hrest : (runCommand scene enter rule.command state).fault = none →
      (runCommand scene enter rule.command state).state.message.isSettled = false →
      (runRules (scene.withContexts contexts) enter' rest'
          (runCommand scene enter rule.command state).state).seen keep =
        (runRules scene enter rest (runCommand scene enter rule.command state).state).seen keep) :
    (runRules (scene.withContexts contexts) enter' (rule :: rest') state).seen keep =
      (runRules scene enter (rule :: rest) state).seen keep := by
  obtain ⟨hstate, hevents, hfault⟩ := Outcome.seen_eq_iff.mp hrule
  have hsame : (runCommand (scene.withContexts contexts) enter' rule.command
      state).state.message.isSettled =
        (runCommand scene enter rule.command state).state.message.isSettled := by rw [hstate]
  cases h : (runCommand scene enter rule.command state).fault with
  | some fault =>
    rw [runRules_of_fault h, runRules_of_fault (hfault.trans h)]
    exact hrule
  | none =>
    have h' := hfault.trans h
    cases hsettled : (runCommand scene enter rule.command state).state.message.isSettled with
    | true =>
      rw [runRules_of_settled h hsettled, runRules_of_settled h' (hsame.trans hsettled)]
      simp [Outcome.seen, hevents, hstate, hfault]
    | false =>
      rw [runRules_of_unsettled h hsettled, runRules_of_unsettled h' (hsame.trans hsettled),
        hstate, Outcome.seen_after, Outcome.seen_after, hevents, hrest h hsettled]

end

/-! ## An edit of one context -/

/-- Contexts that differ in one place: there, in the rules of a context, some rules have come in the
place of others, in front of the same rules. -/
structure Edits (contexts contexts' : Entries (List Rule)) (name : String)
    (old new after : List Rule) : Prop where
  others : ∀ other, other ≠ name → contexts'.get? other = contexts.get? other
  place : ∃ before, contexts.get? name = some (before ++ (old ++ after)) ∧
    contexts'.get? name = some (before ++ (new ++ after))

namespace Edits

variable {scene : Scene} {contexts contexts' : Entries (List Rule)} {name : String}
  {old new after : List Rule} {keep : Event → Bool} {first : Visit}

theorem get? (h : Edits contexts contexts' name old new after) (callee : String) :
    (contexts.get? callee = none ∧ contexts'.get? callee = none) ∨
    (∃ rules, contexts.get? callee = some rules ∧ contexts'.get? callee = some rules) ∨
    ∃ before, callee = name ∧ contexts.get? callee = some (before ++ (old ++ after)) ∧
      contexts'.get? callee = some (before ++ (new ++ after)) := by
  by_cases hname : callee = name
  · rcases h.place with ⟨before, hold, hnew⟩
    exact .inr (.inr ⟨before, hname, hname ▸ hold, hname ▸ hnew⟩)
  · rw [h.others callee hname]
    cases contexts.get? callee with
    | none => exact .inl ⟨rfl, rfl⟩
    | some rules => exact .inr (.inl ⟨rules, rfl, rfl⟩)

theorem has (h : Edits contexts contexts' name old new after) (callee : String) :
    contexts'.has callee = contexts.has callee := by
  rcases h.get? callee with ⟨hget, hget'⟩ | ⟨rules, hget, hget'⟩ | ⟨before, -, hget, hget'⟩ <;>
    simp [Entries.has, hget, hget']

/-- An edit can be taken back. -/
theorem symm (h : Edits contexts contexts' name old new after) :
    Edits contexts' contexts name new old after where
  others := fun other hother => (h.others other hother).symm
  place := by
    rcases h.place with ⟨before, hold, hnew⟩
    exact ⟨before, hnew, hold⟩

/-- With so many levels left, contexts that the evaluation enters are seen in the same way before
and after the edit. -/
def Enters (scene : Scene) (contexts' : Entries (List Rule)) (keep : Event → Bool) (first : Visit)
    (levels : Nat) : Prop :=
  ∀ callee rules rules' state, scene.contexts.get? callee = some rules →
    contexts'.get? callee = some rules' →
    (∀ below, levels = below + 1 → Visits scene first ⟨below, callee, rules, state⟩) →
    (enterAt (scene.withContexts contexts') levels callee rules' state).seen keep =
      (enterAt scene levels callee rules state).seen keep

theorem runCommand {levels : Nat} (h : Edits scene.contexts contexts' name old new after)
    (henters : Enters scene contexts' keep first levels) {context : String} {rule : Rule}
    {rest : List Rule} {state : State}
    (hvisits : Visits scene first ⟨levels, context, rule :: rest, state⟩) :
    (runCommand (scene.withContexts contexts') (enterAt (scene.withContexts contexts') levels)
        rule.command state).seen keep =
      (runCommand scene (enterAt scene levels) rule.command state).seen keep := by
  refine runChain_seen fun command reached hleads => execute_seen fun jump hjump => ?_
  -- the command calls a context, which is there before and after the edit or is not there at all
  have hentry : ∀ rules rules',
      scene.contexts.get? (String.ofList (strip command.args)) = some rules →
      contexts'.get? (String.ofList (strip command.args)) = some rules' →
      (runCall (scene.withContexts contexts') (enterAt (scene.withContexts contexts') levels) jump
          command.args reached).seen keep =
        (runCall scene (enterAt scene levels) jump command.args reached).seen keep := by
    intro rules rules' hget hget'
    refine runCall_seen hget hget' (henters _ rules rules' reached hget hget' ?_) jump
    rintro below rfl
    exact hvisits.entry hleads hjump hget
  rcases h.get? (String.ofList (strip command.args)) with
    ⟨hget, hget'⟩ | ⟨rules, hget, hget'⟩ | ⟨before, -, hget, hget'⟩
  · have hcontext : (scene.withContexts contexts').contexts.get?
        (String.ofList (strip command.args)) = none := hget'
    simp [runCall, hget, hcontext]
  · exact hentry _ _ hget hget'
  · exact hentry _ _ hget hget'

/-- Rules that are the same before and after the edit. -/
theorem runRules_same {levels : Nat} (h : Edits scene.contexts contexts' name old new after)
    (henters : Enters scene contexts' keep first levels) {context : String} {rules : List Rule}
    {state : State} (hvisits : Visits scene first ⟨levels, context, rules, state⟩) :
    (runRules (scene.withContexts contexts') (enterAt (scene.withContexts contexts') levels) rules
        state).seen keep =
      (runRules scene (enterAt scene levels) rules state).seen keep := by
  induction rules generalizing state with
  | nil => rfl
  | cons rule rest ih =>
    exact runRules_seen (h.runCommand henters hvisits) fun hfault hopen =>
      ih (hvisits.next hfault hopen)

/-- Where the old rules stand, the new ones are seen in the same way under the edited contexts. -/
def Agrees (scene : Scene) (contexts' : Entries (List Rule)) (name : String)
    (old new after : List Rule) (keep : Event → Bool) (first : Visit) : Prop :=
  ∀ levels state, Visits scene first ⟨levels, name, old ++ after, state⟩ →
    (runRules (scene.withContexts contexts') (enterAt (scene.withContexts contexts') levels)
        (new ++ after) state).seen keep =
      (runRules (scene.withContexts contexts') (enterAt (scene.withContexts contexts') levels)
        (old ++ after) state).seen keep

/-- The rules of the context that is edited. -/
theorem runRules_edited {levels : Nat} (h : Edits scene.contexts contexts' name old new after)
    (hagrees : Agrees scene contexts' name old new after keep first)
    (henters : Enters scene contexts' keep first levels) {before : List Rule} {state : State}
    (hvisits : Visits scene first ⟨levels, name, before ++ (old ++ after), state⟩) :
    (runRules (scene.withContexts contexts') (enterAt (scene.withContexts contexts') levels)
        (before ++ (new ++ after)) state).seen keep =
      (runRules scene (enterAt scene levels) (before ++ (old ++ after)) state).seen keep := by
  -- in front of the edit the rules are the same; at the edit, the new rules are first exchanged for
  -- the old ones under the edited contexts, and then the contexts
  induction before generalizing state with
  | nil => exact (hagrees levels state hvisits).trans (h.runRules_same henters hvisits)
  | cons rule rest ih =>
    exact runRules_seen (h.runCommand henters hvisits) fun hfault hopen =>
      ih (hvisits.next hfault hopen)

theorem runRules_of_get? {levels : Nat} (h : Edits scene.contexts contexts' name old new after)
    (hagrees : Agrees scene contexts' name old new after keep first)
    (henters : Enters scene contexts' keep first levels) {callee : String}
    {rules rules' : List Rule} {state : State} (hget : scene.contexts.get? callee = some rules)
    (hget' : contexts'.get? callee = some rules')
    (hvisits : Visits scene first ⟨levels, callee, rules, state⟩) :
    (runRules (scene.withContexts contexts') (enterAt (scene.withContexts contexts') levels) rules'
        state).seen keep =
      (runRules scene (enterAt scene levels) rules state).seen keep := by
  rcases h.get? callee with ⟨hnone, -⟩ | ⟨same, hsame, hsame'⟩ | ⟨before, rfl, hold, hnew⟩
  · simp [hget] at hnone
  · rw [hget] at hsame
    rw [hget'] at hsame'
    cases hsame
    cases hsame'
    exact h.runRules_same henters hvisits
  · rw [hget] at hold
    rw [hget'] at hnew
    cases hold
    cases hnew
    exact h.runRules_edited hagrees henters hvisits

/-- Contexts are entered in the same way at every level: a context that is entered with one level
less is run as its rules are. -/
theorem enters (h : Edits scene.contexts contexts' name old new after)
    (hagrees : Agrees scene contexts' name old new after keep first) (levels : Nat) :
    Enters scene contexts' keep first levels := by
  induction levels with
  | zero =>
    -- both are refused with the same fault, which names the context and none of its rules
    intro callee rules rules' state hget hget' hvisits
    rfl
  | succ levels ih =>
    intro callee rules rules' state hget hget' hvisits
    exact h.runRules_of_get? hagrees ih hget hget' (hvisits levels rfl)

/-- An edit that does not show where it was made does not show in an evaluation. -/
theorem evaluate (h : Edits scene.contexts contexts' name old new after) {depth : Int}
    {caller : String} {rules rules' : List Rule} {state : State}
    (hget : scene.contexts.get? caller = some rules)
    (hget' : contexts'.get? caller = some rules')
    (hagrees : Agrees scene contexts' name old new after keep
      ⟨scene.limits.nesting.levelsAt depth, caller, rules, state⟩) :
    (evaluateRules (scene.withContexts contexts') depth rules' state).seen keep =
      (evaluateRules scene depth rules state).seen keep :=
  h.runRules_of_get? hagrees (h.enters hagrees _) hget hget' .first

end Edits

/-! ## Registries -/

/-- The registry with other rules in a context. -/
def Registry.withRules (registry : Registry) (name : String) (rules : List Rule) : Registry :=
  { registry with contexts := registry.contexts.set name rules }

/-- The place at which an evaluation of the context begins. -/
def Context.start (c : Context) (depth : Int) (state : State) : Visit :=
  ⟨c.registry.limits.nesting.levelsAt depth, c.name, c.rules, state⟩

namespace Edits

variable {registry registry' : Registry} {name : String} {before old new after : List Rule}
  {keep : Event → Bool}

theorem of_withRules (old new : List Rule)
    (hplace : registry.contexts.get? name = some (before ++ (old ++ after))) :
    Edits registry.contexts (registry.withRules name (before ++ (new ++ after))).contexts name
      old new after where
  others := fun _ hother => Entries.get?_set_of_ne hother _ _
  place := ⟨before, hplace, Entries.get?_set_self _ _ _⟩

/-- An edit that does not show where it was made shows in no context of the registry. -/
theorem context_evaluate (h : Edits registry.contexts registry'.contexts name old new after)
    (hlimits : registry'.limits = registry.limits) {caller : String} {c c' : Context}
    (hc : registry.context? caller = some c) (hc' : registry'.context? caller = some c')
    {source : Source} {host : Host} {depth : Int} {state : State}
    (hagrees : Agrees (registry.scene source host) registry'.contexts name old new after keep
      (c.start depth state)) :
    (c'.evaluate source host depth state).seen keep =
      (c.evaluate source host depth state).seen keep := by
  obtain ⟨hregistry, hname, hrules⟩ := Registry.of_context? hc
  obtain ⟨hregistry', -, hrules'⟩ := Registry.of_context? hc'
  have hscene : registry'.scene source host =
      (registry.scene source host).withContexts registry'.contexts := by
    rw [Registry.scene, hlimits]
    rfl
  rw [Context.start, hregistry, hname] at hagrees
  rw [Context.evaluate, Context.evaluate, hregistry, hregistry', hscene]
  exact Edits.evaluate h hrules hrules' hagrees

end Edits
end Switchboard
