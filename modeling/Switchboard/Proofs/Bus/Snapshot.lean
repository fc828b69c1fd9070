import Switchboard.Proofs.Bus.Order
import Switchboard.Proofs.Router.Aside
import Switchboard.Proofs.Router.Unloading

/-!
# Deliveries from a snapshot

A delivery asks the handlers that the name of the message had when it began, one after the other,
each with the message that the one before it left, up to the first that fails or leaves the message
handled (`IsFold`). The calls are written down by `trace`.

Which handlers are asked depends on their responses alone. A handler may install and remove
handlers, reload or unload the rules, or rename the message: the delivery goes on with the list that
it began with (`dispatch_is_fold`).
-/

namespace Switchboard
namespace Bus

variable {H S T : Type}

/-! ## Calls -/

/-- A call of a handler: the message and the world that it was given, and what became of them. -/
structure Call (H S : Type) where
  subscription : Subscription H
  given : Message
  before : S
  response : Response
  after : S

def trace (invoke : Invoke H S) : List (Subscription H) → Message → S → List (Call H S)
  | [], _, _ => []
  | sub :: rest, m, s =>
    let (response, after) := invoke sub.handler m s
    ⟨sub, m, s, response, after⟩ ::
      if response.stops then [] else trace invoke rest response.current after

/-- What can be seen of a call from outside. -/
def Call.seen (c : Call H S) : Subscription H × Message × Response :=
  (c.subscription, c.given, c.response)

/-- The first call is given `m` in the world `s`, and each other one what the call before it
left. -/
def Chained (invoke : Invoke H S) : Message → S → List (Call H S) → Prop
  | _, _, [] => True
  | m, s, c :: rest =>
    c.given = m ∧ c.before = s ∧
      (c.response, c.after) = invoke c.subscription.handler c.given c.before ∧
      Chained invoke c.response.current c.after rest

/-- A delivery of `m` is its calls: they follow on each other, in the order of the subscriptions and
without a gap, until there are none left or a call stops the delivery; what the last one left is
what comes out. `received` is what earlier handlers kept of the delivered message. -/
structure IsFold (invoke : Invoke H S) (subs : List (Subscription H)) (received : Option Message)
    (m : Message) (s : S) (calls : List (Call H S)) (result : Delivery × S) : Prop where
  chained : Chained invoke m s calls
  asked : calls.map (·.subscription) <+: subs
  passed : ∀ c ∈ calls.dropLast, c.response.fault = none ∧ c.response.current.handled = false
  ended : calls.map (·.subscription) = subs ∨ ∃ last ∈ calls.getLast?,
    last.response.fault.isSome ∨ last.response.current.handled = true
  fault : result.1.fault = calls.getLast?.bind (·.response.fault)
  message : result.1.fault = none →
    result.1.message = (calls.getLast?.map (·.response.current)).getD m
  received : result.1.received = (calls.foldl (fun kept c => c.response.keep kept) received).getD
    ((calls.getLast?.map (·.response.message)).getD m)
  world : result.2 = (calls.getLast?.map (·.after)).getD s

theorem Response.stops_iff (r : Response) :
    r.stops = true ↔ r.fault.isSome ∨ r.current.handled = true := by
  rw [stops, Bool.or_eq_true]

theorem Response.stops_eq_false (r : Response) :
    r.stops = false ↔ r.fault = none ∧ r.current.handled = false := by
  rw [stops, Bool.or_eq_false_iff, Option.isSome_eq_false_iff, Option.isNone_iff_eq_none]

/-- A delivery that ends with a response has what the response gives. -/
theorem Response.of_ending (r : Response) (received : Option Message) :
    (r.ending received).fault = r.fault ∧
      (r.fault = none → (r.ending received).message = r.current) ∧
      (r.ending received).received = (r.keep received).getD r.message := by
  rcases r with ⟨message, reply, fault⟩
  cases fault <;> cases reply <;> simp [ending, keep, current]

theorem IsFold.last {invoke : Invoke H S} {c : Call H S} (rest : List (Subscription H))
    (received : Option Message)
    (hcall : (c.response, c.after) = invoke c.subscription.handler c.given c.before)
    (hstops : c.response.stops = true) :
    IsFold invoke (c.subscription :: rest) received c.given c.before [c]
      (c.response.ending received, c.after) := by
  rcases c.response.of_ending received with ⟨hfault, hmessage, hreceived⟩
  refine ⟨⟨rfl, rfl, hcall, trivial⟩, ?_, by simp, .inr ?_, hfault, ?_, hreceived, rfl⟩
  · exact List.prefix_append [c.subscription] rest
  · exact ⟨c, rfl, c.response.stops_iff.1 hstops⟩
  · intro hnone
    exact hmessage (hfault.symm.trans hnone)

theorem Response.getD_keep (r : Response) (received : Option Message) :
    (r.keep received).getD r.current = (r.keep received).getD r.message := by
  rcases r with ⟨message, reply, fault⟩
  cases reply <;> rfl

/-- A call that does not stop a delivery goes before the calls of the rest. -/
theorem IsFold.cons {invoke : Invoke H S} {c : Call H S} {rest : List (Subscription H)}
    {received : Option Message} {calls : List (Call H S)} {result : Delivery × S}
    (hcall : (c.response, c.after) = invoke c.subscription.handler c.given c.before)
    (hpasses : c.response.stops = false)
    (h : IsFold invoke rest (c.response.keep received) c.response.current c.after calls result) :
    IsFold invoke (c.subscription :: rest) received c.given c.before (c :: calls) result := by
  have hpassed := c.response.stops_eq_false.1 hpasses
  have hchained : Chained invoke c.given c.before (c :: calls) := ⟨rfl, rfl, hcall, h.chained⟩
  have hasked : (c :: calls).map (·.subscription) <+: c.subscription :: rest :=
    List.prefix_cons_iff.2 (.inr ⟨_, rfl, h.asked⟩)
  cases hlast : calls.getLast? with
  | none =>
    -- nobody is left to be asked, so what this call left is what comes out
    obtain rfl := List.getLast?_eq_none_iff.1 hlast
    have hrest : rest = [] := by
      rcases h.ended with hall | ⟨last, hnone, -⟩
      · exact hall.symm
      · cases hnone
    refine ⟨hchained, hasked, by simp, .inl (by rw [hrest]; rfl), ?_, h.message, ?_, h.world⟩
    · exact h.fault.trans hpassed.1.symm
    · exact h.received.trans (c.response.getD_keep received)
  | some last =>
    have hends : (c :: calls).getLast? = some last := by
      rw [List.getLast?_cons, hlast]
      rfl
    have hne : calls ≠ [] := by
      rintro rfl
      cases hlast
    refine ⟨hchained, hasked, ?_, ?_, ?_, ?_, ?_, ?_⟩
    · intro c' hc'
      rw [List.dropLast_cons_of_ne_nil hne] at hc'
      rcases List.mem_cons.1 hc' with rfl | hc'
      · exact hpassed
      · exact h.passed c' hc'
    · rw [hends, ← hlast]
      exact h.ended.imp_left (congrArg (c.subscription :: ·))
    · rw [hends, ← hlast]
      exact h.fault
    -- from here on the last call counts, and not what it was all given
    · simpa [hends, hlast] using h.message
    · simpa [hends, hlast] using h.received
    · simpa [hends, hlast] using h.world

/-! ## Deliveries -/

/-- Every delivery is the calls that its trace holds. -/
theorem deliver_isFold (invoke : Invoke H S) (subs : List (Subscription H)) :
    ∀ received m s,
      IsFold invoke subs received m s (trace invoke subs m s)
        (deliver invoke subs received m s) := by
  induction subs with
  | nil =>
    intro received m s
    exact ⟨trivial, List.prefix_refl _, by simp [trace], .inl rfl, rfl, fun _ => rfl, rfl, rfl⟩
  | cons sub rest ih =>
    intro received m s
    rcases hinvoke : invoke sub.handler m s with ⟨response, after⟩
    -- the first call ends the delivery, or goes before the calls of the rest
    have hcall := hinvoke.symm
    rw [deliver_cons, trace, hinvoke]
    cases hstops : response.stops with
    | true =>
      simp only [hstops, if_true]
      exact IsFold.last (c := ⟨sub, m, s, response, after⟩) rest received hcall hstops
    | false =>
      simp only [hstops, Bool.false_eq_true, if_false]
      have hrest := ih (response.keep received) response.current after
      exact IsFold.cons (c := ⟨sub, m, s, response, after⟩) hcall hstops hrest

theorem trace_alike {R : S → T → Prop} {invoke : Invoke H S} {invoke' : Invoke H T}
    (halike : Alike R invoke invoke') (subs : List (Subscription H)) :
    ∀ m s t, R s t →
      (trace invoke' subs m t).map Call.seen = (trace invoke subs m s).map Call.seen := by
  induction subs with
  | nil =>
    intro m s t _
    rfl
  | cons sub rest ih =>
    intro m s t hst
    rcases halike sub.handler m s t hst with ⟨hresponse, hafter⟩
    rw [trace, trace]
    -- both traces stop here or go on with the same message
    simp only [List.map_cons, ← hresponse, Call.seen]
    cases (invoke sub.handler m s).1.stops with
    | true => rfl
    | false => exact congrArg (_ :: ·) (ih _ _ _ hafter)

/-- A delivery asks the handlers that the name of the message has when it begins, in ascending order
of priority and number, each with the message that the one before it left, up to the first that
fails or leaves the message handled. What the handlers do to the bus meanwhile makes no difference:
any other run, in any other world, in which they respond alike asks the same ones. -/
theorem dispatch_is_fold (w : World H S) (invoke : Invoke H S) (m : Message) (s : S)
    (hbus : Evolves (fun _ => True) empty (w.bus s)) :
    IsFold invoke ((w.bus s).handlers m.name) none m s
      (trace invoke ((w.bus s).handlers m.name) m s) (w.dispatch invoke m s) ∧
    (trace invoke ((w.bus s).handlers m.name) m s).Pairwise (fun a b =>
      a.subscription.priority < b.subscription.priority ∨
        a.subscription.priority = b.subscription.priority ∧
          a.subscription.sequence < b.subscription.sequence) ∧
    ∀ (T : Type) (w' : World H T) (invoke' : Invoke H T) (R : S → T → Prop) (t : T),
      Alike R invoke invoke' → R s t →
      (w'.bus t).handlers m.name = (w.bus s).handlers m.name →
      IsFold invoke' ((w.bus s).handlers m.name) none m t
        (trace invoke' ((w.bus s).handlers m.name) m t) (w'.dispatch invoke' m t) ∧
      (trace invoke' ((w.bus s).handlers m.name) m t).map Call.seen =
        (trace invoke ((w.bus s).handlers m.name) m s).map Call.seen := by
  have hfold := deliver_isFold invoke ((w.bus s).handlers m.name) none m s
  refine ⟨hfold, ?_, ?_⟩
  · -- the handlers of a name are in order, and so is every part of them
    have hordered := (hbus.ordered counted_empty ordered_empty) m.name
    have hasked := hordered.sublist hfold.asked.sublist
    rw [List.pairwise_map] at hasked
    exact hasked.imp fun hprecedes => (Subscription.precedes_iff _ _).1 hprecedes
  · intro T w' invoke' R t halike hst hsame
    refine ⟨?_, trace_alike halike _ m s t hst⟩
    rw [World.dispatch, hsame]
    exact deliver_isFold invoke' ((w.bus s).handlers m.name) none m t

end Bus

/-! ## A hook that removes what comes behind it -/

/-- Rules that bind the message at the end of the program, behind the hook for it. -/
def farewellRules : List Char :=
  "[install]\nengine.halt=200,c\n[c]\necho bye=return\n".toList

/-- Surroundings with such a rules file. -/
def Surroundings.farewell : Surroundings :=
  ⟨.still, [([['r']], .file (farewellRules.map fun c => UInt8.ofNat c.toNat))]⟩

/-- A router that was started with this rules file. -/
def Router.farewell : Router :=
  Operation.startUp.run .farewell
    (Router.start { EngineSettings.standard with rulesFile := .text "r" })

/-- The hook takes the context off the bus, and the delivery still comes to it. -/
theorem halt_asks_removed_context :
    Bus.Evolves (fun _ => True) Bus.empty Router.farewell.bus ∧
    Bus.IsFold (Router.invoke .farewell) (Router.farewell.bus.handlers "engine.halt") none
      (Message.fresh "engine.halt" [] Surroundings.farewell.source.now) Router.farewell
      (Bus.trace (Router.invoke .farewell) (Router.farewell.bus.handlers "engine.halt")
        (Message.fresh "engine.halt" [] Surroundings.farewell.source.now) Router.farewell)
      (Router.farewell.dispatch .farewell
        (Message.fresh "engine.halt" [] Surroundings.farewell.source.now)) ∧
    (Bus.trace (Router.invoke .farewell) (Router.farewell.bus.handlers "engine.halt")
      (Message.fresh "engine.halt" [] Surroundings.farewell.source.now) Router.farewell).map
        (fun c => (c.subscription.handler.label, (c.after.bus.handlers "engine.halt").length)) =
      [("hook:on_halt", 0), ("context:c", 0)] := by
  have hevolves : Bus.Evolves (fun _ => True) Bus.empty Router.farewell.bus :=
    Operation.evolves .farewell
      (Router.start { EngineSettings.standard with rulesFile := .text "r" }) .startUp
  have hfold := Bus.dispatch_is_fold Router.world (Router.invoke .farewell)
    (Message.fresh "engine.halt" [] Surroundings.farewell.source.now) Router.farewell hevolves
  refine ⟨hevolves, ?_, by decide +kernel⟩
  rw [Router.dispatch_eq]
  exact hfold.1

end Switchboard
