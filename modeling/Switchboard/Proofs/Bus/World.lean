import Mathlib.Data.List.Forall2
import Switchboard.Proofs.Router.Stability

/-!
# Worlds with a bus

Deliveries and the queue work in the same way for every program that owns a bus. `World` says what
is needed of such a program; its handlers may do anything else to it. A router is such a world, and
what it does with its queue is what every world does (`Router.processPending_eq`).

Two runs of handlers that respond alike are the same delivery, whatever else the handlers do
(`deliver_related`).
-/

namespace Switchboard
namespace Bus

variable {H S T : Type}

/-! ## Worlds -/

/-- A world that owns a bus. Its queue can be exchanged, and it takes in the record of a delivery
from the queue; neither touches anything else of the bus. -/
structure World (H S : Type) where
  bus : S → Bus H
  requeue : List Message → S → S
  record : Delivery → S → S
  bus_requeue : ∀ queue s, bus (requeue queue s) = { bus s with queue := queue }
  requeue_requeue : ∀ queue queue' s, requeue queue (requeue queue' s) = requeue queue s
  requeue_queue : ∀ s, requeue (bus s).queue s = s
  bus_record : ∀ d s, bus (record d s) = bus s

namespace World

variable (w : World H S) (invoke : Invoke H S)

def queue (s : S) : List Message :=
  (w.bus s).queue

def enqueue (m : Message) (s : S) : S :=
  w.requeue ((w.bus s).enqueue m).queue s

/-- Delivers a message to the handlers that its name has now. -/
def dispatch (m : Message) (s : S) : Delivery × S :=
  deliver invoke ((w.bus s).handlers m.name) none m s

/-- Delivers the first message of the queue, if there is one. -/
def processOne (s : S) : Option (Delivery × S) :=
  match w.queue s with
  | [] => none
  | m :: rest =>
    -- the message is off the queue before its handlers run
    let (delivery, s) := w.dispatch invoke m (w.requeue rest s)
    some (delivery, w.record delivery s)

/-- Delivers messages of the queue, also those that come in meanwhile, `limit` of them at the
most. -/
def processPending : Nat → S → List Message × S
  | 0, s => ([], s)
  | limit + 1, s =>
    match w.processOne invoke s with
    | none => ([], s)
    | some (delivery, s) =>
      let (messages, s) := processPending limit s
      (delivery.outcome :: messages, s)

/-- Handlers do nothing to the queue but put messages into it. -/
def OnlyAdds : Prop :=
  ∀ handler m s, ∃ added, w.queue (invoke handler m s).2 = w.queue s ++ added

@[simp] theorem queue_requeue (queue : List Message) (s : S) :
    w.queue (w.requeue queue s) = queue := by
  rw [World.queue, w.bus_requeue]

@[simp] theorem queue_enqueue (m : Message) (s : S) :
    w.queue (w.enqueue m s) = w.queue s ++ [m] := by
  rw [enqueue, queue_requeue]
  rfl

@[simp] theorem queue_record (d : Delivery) (s : S) : w.queue (w.record d s) = w.queue s := by
  rw [World.queue, w.bus_record]
  rfl

theorem requeue_self (s : S) : w.requeue (w.queue s) s = s :=
  w.requeue_queue s

theorem enqueue_requeue (m : Message) (queue : List Message) (s : S) :
    w.enqueue m (w.requeue queue s) = w.requeue (queue ++ [m]) s := by
  rw [enqueue, w.requeue_requeue, w.bus_requeue]
  rfl

variable {w invoke}

theorem processOne_nil {s : S} (h : w.queue s = []) : w.processOne invoke s = none := by
  simp only [processOne, h]

theorem processOne_cons {s : S} {m : Message} {rest : List Message} (h : w.queue s = m :: rest) :
    w.processOne invoke s =
      some ((w.dispatch invoke m (w.requeue rest s)).1,
        w.record (w.dispatch invoke m (w.requeue rest s)).1
          (w.dispatch invoke m (w.requeue rest s)).2) := by
  simp only [processOne, h]

end World

/-! ## One handler after the other -/

namespace Response

/-- The message that goes on to the next handler. -/
def current (r : Response) : Message :=
  r.reply.getD r.message

/-- Whether no handler runs after this response. -/
def stops (r : Response) : Bool :=
  r.fault.isSome || r.current.handled

/-- The delivered message, as the handler left it that replaced it first. -/
def keep (r : Response) (received : Option Message) : Option Message :=
  match r.reply with
  | none => received
  | some _ => some (received.getD r.message)

/-- The delivery that ends with a response. -/
def ending (r : Response) (received : Option Message) : Delivery :=
  match r.fault with
  -- the reply of a handler that fails does not come out
  | some fault => ⟨received.getD r.message, r.message, some fault⟩
  | none => ⟨(r.keep received).getD r.current, r.current, none⟩

end Response

theorem deliver_cons (invoke : Invoke H S) (sub : Subscription H) (rest : List (Subscription H))
    (received : Option Message) (m : Message) (s : S) :
    deliver invoke (sub :: rest) received m s =
      if (invoke sub.handler m s).1.stops then
        ((invoke sub.handler m s).1.ending received, (invoke sub.handler m s).2)
      else
        deliver invoke rest ((invoke sub.handler m s).1.keep received)
          (invoke sub.handler m s).1.current (invoke sub.handler m s).2 := by
  rcases hinvoke : invoke sub.handler m s with ⟨⟨message, reply, fault⟩, after⟩
  cases fault with
  | some fault => simp [deliver, hinvoke, Response.stops, Response.ending]
  | none =>
    cases reply with
    | none =>
      simp [deliver, hinvoke, Response.stops, Response.ending, Response.keep, Response.current]
    | some reply =>
      simp [deliver, hinvoke, Response.stops, Response.ending, Response.keep, Response.current]

/-- Handlers that respond alike in related worlds and leave them related make the same delivery. -/
theorem deliver_related {K : Type} {Q : H → K → Prop} {R : S → T → Prop} {invoke : Invoke H S}
    {invoke' : Invoke K T}
    (hrelated : ∀ handler handler' m s t, Q handler handler' → R s t →
      (invoke handler m s).1 = (invoke' handler' m t).1 ∧
        R (invoke handler m s).2 (invoke' handler' m t).2)
    {subs : List (Subscription H)} {subs' : List (Subscription K)}
    (hsubs : List.Forall₂ (fun sub sub' => Q sub.handler sub'.handler) subs subs') :
    ∀ received m s t, R s t →
      (deliver invoke subs received m s).1 = (deliver invoke' subs' received m t).1 ∧
        R (deliver invoke subs received m s).2 (deliver invoke' subs' received m t).2 := by
  induction hsubs with
  | nil =>
    intro received m s t hst
    exact ⟨rfl, hst⟩
  | cons hfirst _ ih =>
    intro received m s t hst
    rcases hrelated _ _ m s t hfirst hst with ⟨hresponse, hafter⟩
    -- the response alone decides whether the delivery goes on, and with which message
    rw [deliver_cons, deliver_cons, ← hresponse]
    split
    · exact ⟨rfl, hafter⟩
    · exact ih _ _ _ _ hafter

/-- Two ways to run handlers respond alike in related worlds, and leave them related. -/
def Alike (R : S → T → Prop) (invoke : Invoke H S) (invoke' : Invoke H T) : Prop :=
  ∀ handler m s t, R s t →
    (invoke handler m s).1 = (invoke' handler m t).1 ∧
      R (invoke handler m s).2 (invoke' handler m t).2

namespace World

variable {w : World H S} {invoke : Invoke H S}

/-- Delivering the first message of the queue leaves the others in their places, and what the
handlers added behind them. -/
theorem OnlyAdds.processOne (honly : w.OnlyAdds invoke) {s : S} {m : Message}
    {rest : List Message} (hqueue : w.queue s = m :: rest) :
    ∃ delivery after added, w.processOne invoke s = some (delivery, after) ∧
      w.queue after = rest ++ added := by
  have hdelivered : ∃ added,
      w.queue (w.dispatch invoke m (w.requeue rest s)).2 = rest ++ added := by
    -- each handler of the delivery adds behind what is there already
    refine deliver_invariant (P := fun s => ∃ added, w.queue s = rest ++ added) ?_ _ _ _ _
      ⟨[], by simp⟩
    rintro handler m s ⟨added, hadded⟩
    rcases honly handler m s with ⟨more, hmore⟩
    exact ⟨added ++ more, by rw [hmore, hadded, List.append_assoc]⟩
  rcases hdelivered with ⟨added, hadded⟩
  exact ⟨_, _, added, processOne_cons hqueue, by rw [queue_record, hadded]⟩

end World
end Bus

/-! ## Routers as worlds -/

namespace Router

theorem absorbAll_records (router : Router) (d : Bus.Delivery) :
    (router.absorbAll d.records).bus = router.bus := by
  rcases d with ⟨received, message, fault⟩
  cases fault <;> rfl

/-- A router owns a bus, and logs deliveries from the queue that failed. -/
def world : Bus.World Handler Router where
  bus := Router.bus
  requeue queue router := { router with bus := { router.bus with queue := queue } }
  record d router := router.absorbAll d.records
  bus_requeue _ _ := rfl
  requeue_requeue _ _ _ := rfl
  requeue_queue _ := rfl
  bus_record d router := router.absorbAll_records d

theorem enqueue_eq (router : Router) (m : Message) :
    { router with bus := router.bus.enqueue m } = world.enqueue m router :=
  rfl

theorem dispatch_eq (router : Router) (around : Surroundings) (m : Message) :
    router.dispatch around m = world.dispatch (invoke around) m router :=
  rfl

theorem processOne_eq (router : Router) (around : Surroundings) :
    router.processOne around = world.processOne (invoke around) router := by
  simp only [processOne, Bus.World.processOne]
  rfl

theorem processPending_eq (router : Router) (around : Surroundings) (limit : Nat) :
    router.processPending around limit = world.processPending (invoke around) limit router := by
  induction limit generalizing router with
  | zero => rfl
  | succ limit ih =>
    rw [processPending, Bus.World.processPending, processOne_eq]
    cases world.processOne (invoke around) router with
    | none => rfl
    | some taken =>
      rcases taken with ⟨delivery, after⟩
      simp only [ih]

/-- To deliver a message at once is to put it into the queue and to work that off. -/
theorem deliverNow_eq (router : Router) (around : Surroundings) (m : Message) :
    (router.deliverNow around m).2 =
      (world.processPending (invoke around) (unlimited + 1) (world.enqueue m router)).2 := by
  rw [← processPending_eq, processPending, ← enqueue_eq]
  simp only [deliverNow]
  cases { router with bus := router.bus.enqueue m }.processOne around with
  | none => rfl
  | some taken => rfl

end Router
end Switchboard
