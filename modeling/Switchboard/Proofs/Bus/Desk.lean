import Switchboard.Proofs.Router.Aside
import Switchboard.Proofs.Router.Unloading

/-!
# Working off the queue

The queue of a bus is worked off one message at a time, while messages keep coming in: from other
threads at any moment (`Deed.put`), and from the handlers of the message in work (`Deed.submit`). A
message is taken, its handlers run, what they submit goes into the queue, and then it is marked as
finished. `unfinished` is what a thread waits for that wants all messages to be finished.

The books always balance (`Accounts`): what came in is what was taken and what is in the queue; what
was taken is finished or in work; and what is unfinished is in the queue or in work. One step of any
party keeps the balance (`Accounts.step`), and so every interleaving of steps does
(`Accounts.run`). Calls to the bus one after the other are such steps
(`queue_loses_nothing`).
-/

namespace Switchboard
namespace Bus

variable {A H S : Type}

/-! ## Desks -/

/-- A message in work: the delivery that it leads to, and the messages that its handlers have still
to put into the queue. Handlers do not look at the queue, so that the delivery is known when the
message is taken, whatever comes in meanwhile. -/
structure Job where
  message : Message
  delivery : Delivery
  waiting : List Message

/-- A world whose queue is worked off, and the number of messages that are not finished. -/
structure Desk (S : Type) where
  world : S
  unfinished : Nat
  job : Option Job

/-- What is done at a desk. A message is taken in the surroundings of the worker; `before` is the
world without it, and `after` the world that its delivery leaves. -/
inductive Deed (A S : Type)
  | put (m : Message)
  | take (around : A) (m : Message) (before after : S)
  | submit (m : Message)
  | finish (m : Message) (delivery : Delivery)

namespace Desk

def inWork (desk : Desk S) : List Message :=
  (desk.job.map (·.message)).toList

/-- A desk with nothing in work. -/
def idle (w : World H S) (s : S) : Desk S :=
  ⟨s, (w.queue s).length, none⟩

variable (w : World H S) (invoke : A → Invoke H S)

/-- One deed. -/
inductive Step : Desk S → Deed A S → Desk S → Prop
  -- from outside, also while a message is in work
  | put (m : Message) (s : S) (n : Nat) (job : Option Job) :
      Step ⟨s, n, job⟩ (.put m) ⟨w.enqueue m s, n + 1, job⟩
  -- nothing is in work; what the handlers submit is held back from the queue
  | take {around : A} {m : Message} {rest added : List Message} {s after : S} {n : Nat}
      {delivery : Delivery} (hqueue : w.queue s = m :: rest)
      (hdelivered : w.processOne (invoke around) s = some (delivery, after))
      (hadded : w.queue after = rest ++ added) :
      Step ⟨s, n, none⟩ (.take around m (w.requeue rest s) after)
        ⟨w.requeue rest after, n, some ⟨m, delivery, added⟩⟩
  | submit (m first : Message) (waiting : List Message) (delivery : Delivery) (s : S) (n : Nat) :
      Step ⟨s, n, some ⟨m, delivery, first :: waiting⟩⟩ (.submit first)
        ⟨w.enqueue first s, n + 1, some ⟨m, delivery, waiting⟩⟩
  -- all that the handlers submitted is in the queue
  | finish (m : Message) (delivery : Delivery) (s : S) (n : Nat) :
      Step ⟨s, n + 1, some ⟨m, delivery, []⟩⟩ (.finish m delivery) ⟨s, n, none⟩

inductive Run : Desk S → List (Deed A S) → Desk S → Prop
  | nil (desk : Desk S) : Run desk [] desk
  | cons {a b c : Desk S} {deed : Deed A S} {deeds : List (Deed A S)} :
      Step w invoke a deed b → Run b deeds c → Run a (deed :: deeds) c

variable {w invoke}

theorem Step.put_idle (m : Message) (s : S) :
    Step w invoke (idle w s) (.put m) (idle w (w.enqueue m s)) := by
  have hidle : idle w (w.enqueue m s) = ⟨w.enqueue m s, (w.queue s).length + 1, none⟩ := by
    simp [idle]
  rw [hidle]
  exact .put m s (w.queue s).length none

theorem Run.single {a b : Desk S} {deed : Deed A S} (h : Step w invoke a deed b) :
    Run w invoke a [deed] b :=
  .cons h (.nil b)

theorem Run.append {a b c : Desk S} {deeds more : List (Deed A S)} (hab : Run w invoke a deeds b)
    (hbc : Run w invoke b more c) : Run w invoke a (deeds ++ more) c := by
  induction hab with
  | nil => exact hbc
  | cons hstep _ ih => exact .cons hstep (ih hbc)

end Desk

/-! ## The books -/

namespace Deed

def enqueued? : Deed A S → Option Message
  | .put m => some m
  | .submit m => some m
  | _ => none

/-- The message that comes in from outside. -/
def put? : Deed A S → Option Message
  | .put m => some m
  | _ => none

def taken? : Deed A S → Option Message
  | .take _ m _ _ => some m
  | _ => none

def finished? : Deed A S → Option Message
  | .finish m _ => some m
  | _ => none

/-- What becomes of a message that is finished. -/
def outcome? : Deed A S → Option Message
  | .finish _ delivery => some delivery.outcome
  | _ => none

end Deed

/-- The books of a desk after deeds; `first` is what was in the queue at the beginning. -/
structure Accounts (w : World H S) (first : List Message) (deeds : List (Deed A S))
    (desk : Desk S) : Prop where
  conserved : first ++ deeds.filterMap Deed.enqueued? =
    deeds.filterMap Deed.taken? ++ w.queue desk.world
  delivered : deeds.filterMap Deed.taken? = deeds.filterMap Deed.finished? ++ desk.inWork
  counted : desk.unfinished = (w.queue desk.world).length + desk.inWork.length

namespace Accounts

variable {w : World H S} {invoke : A → Invoke H S} {first : List Message}
  {deeds : List (Deed A S)} {desk : Desk S}

theorem idle (s : S) : Accounts w (w.queue s) ([] : List (Deed A S)) (Desk.idle w s) :=
  ⟨by simp [Desk.idle], rfl, rfl⟩

/-- A message that comes in is in the queue, and it is not finished. -/
theorem enqueue {desk' : Desk S} {deed : Deed A S} {m : Message}
    (h : Accounts w first deeds desk) (henqueued : deed.enqueued? = some m)
    (htaken : deed.taken? = none) (hfinished : deed.finished? = none)
    (hworld : desk'.world = w.enqueue m desk.world) (hwork : desk'.inWork = desk.inWork)
    (hcount : desk'.unfinished = desk.unfinished + 1) :
    Accounts w first (deeds ++ [deed]) desk' := by
  have hqueue : w.queue desk'.world = w.queue desk.world ++ [m] := by
    rw [hworld, World.queue_enqueue]
  refine ⟨?_, ?_, ?_⟩
  · calc
      first ++ (deeds ++ [deed]).filterMap Deed.enqueued?
          = (first ++ deeds.filterMap Deed.enqueued?) ++ [m] := by
            simp [henqueued]
      _ = (deeds.filterMap Deed.taken? ++ w.queue desk.world) ++ [m] := by rw [h.conserved]
      _ = (deeds ++ [deed]).filterMap Deed.taken? ++ w.queue desk'.world := by
            simp [htaken, hqueue]
  · simpa [htaken, hfinished, hwork] using h.delivered
  · have hcounted := h.counted
    rw [hcount, hqueue, hwork, List.length_append, List.length_singleton]
    omega

theorem step {desk' : Desk S} {deed : Deed A S} (h : Accounts w first deeds desk)
    (hstep : Desk.Step w invoke desk deed desk') : Accounts w first (deeds ++ [deed]) desk' := by
  cases hstep with
  | put m s n job => exact h.enqueue rfl rfl rfl rfl rfl rfl
  | submit m message waiting delivery s n => exact h.enqueue rfl rfl rfl rfl rfl rfl
  | @take around m rest added s after n delivery hqueue hprocessed hadded =>
    rcases h with ⟨hconserved, hdelivered, hcounted⟩
    refine ⟨?_, ?_, ?_⟩
    · -- the message goes over from the queue to what was taken
      calc
        first ++ (deeds ++ [Deed.take around m (w.requeue rest s) after]).filterMap Deed.enqueued?
            = first ++ deeds.filterMap Deed.enqueued? := by simp [Deed.enqueued?]
        _ = deeds.filterMap Deed.taken? ++ (m :: rest) := by rw [hconserved, hqueue]
        _ = (deeds ++ [Deed.take around m (w.requeue rest s) after]).filterMap Deed.taken? ++
              w.queue (w.requeue rest after) := by simp [Deed.taken?]
    · -- nothing was in work, so all that was taken before is finished
      simp only [Desk.inWork, Option.map_none, Option.toList_none, List.append_nil] at hdelivered
      simp [Deed.taken?, Deed.finished?, Desk.inWork, hdelivered]
    · simpa [Desk.inWork, hqueue] using hcounted
  | finish m delivery s n =>
    rcases h with ⟨hconserved, hdelivered, hcounted⟩
    refine ⟨?_, ?_, ?_⟩
    · simpa [List.filterMap_cons, Deed.enqueued?, Deed.taken?] using hconserved
    · -- what was in work is finished, and nothing else was
      simpa [List.filterMap_cons, Deed.taken?, Deed.finished?, Desk.inWork] using hdelivered
    · simpa [Desk.inWork] using hcounted

theorem run {desk' : Desk S} {more : List (Deed A S)} (h : Accounts w first deeds desk)
    (hrun : Desk.Run w invoke desk more desk') : Accounts w first (deeds ++ more) desk' := by
  induction hrun generalizing deeds with
  | nil => simpa using h
  | cons hstep _ ih => simpa using ih (h.step hstep)

/-- What came in is what was taken and what is left. -/
theorem pending_add (h : Accounts w first deeds desk) :
    (w.bus desk.world).pending + (deeds.filterMap Deed.taken?).length =
      first.length + (deeds.filterMap Deed.enqueued?).length := by
  have hlength := congrArg List.length h.conserved
  simp only [List.length_append] at hlength
  have hpending : (w.bus desk.world).pending = (w.queue desk.world).length := rfl
  omega

/-- Where nothing is unfinished, nothing is in the queue or in work. -/
theorem nothing_left (h : Accounts w first deeds desk) (hzero : desk.unfinished = 0) :
    w.queue desk.world = [] ∧ desk.job = none := by
  have hcounted := h.counted
  rw [hzero, eq_comm, Nat.add_eq_zero_iff, List.length_eq_zero_iff, List.length_eq_zero_iff]
    at hcounted
  refine ⟨hcounted.1, ?_⟩
  cases hjob : desk.job with
  | none => rfl
  | some job => simp [Desk.inWork, hjob] at hcounted

/-- Nothing is unfinished just when all that ever came in is finished, in the order in which it
came. -/
theorem unfinished_eq_zero (h : Accounts w first deeds desk) :
    desk.unfinished = 0 ↔
      deeds.filterMap Deed.finished? = first ++ deeds.filterMap Deed.enqueued? := by
  rw [h.conserved, h.delivered, List.append_assoc]
  constructor
  · intro hzero
    rcases h.nothing_left hzero with ⟨hqueue, hjob⟩
    simp [hqueue, hjob, Desk.inWork]
  · intro hall
    -- nothing comes behind what is finished
    have hnothing := List.self_eq_append_right.1 hall
    rw [List.append_eq_nil_iff] at hnothing
    rw [h.counted, hnothing.1, hnothing.2]
    rfl

/-- Where nothing is unfinished, there is nothing to do but to wait for a message from outside. -/
theorem put_of_finished (h : Accounts w first deeds desk) (hzero : desk.unfinished = 0)
    {deed : Deed A S} {desk' : Desk S} (hstep : Desk.Step w invoke desk deed desk') :
    deed.put? ≠ none := by
  rcases h.nothing_left hzero with ⟨hqueue, hjob⟩
  cases hstep with
  | put m s n job => simp [Deed.put?]
  | take hwaiting _ _ =>
    rw [hwaiting] at hqueue
    cases hqueue
  | submit m message waiting delivery s n => cases hjob
  | finish m delivery s n => cases hjob

/-- As long as something is unfinished there is a deed that brings it on, whatever handlers
failed. -/
theorem goes_on (h : Accounts w first deeds desk) (around : A)
    (honly : w.OnlyAdds (invoke around)) (hunfinished : desk.unfinished ≠ 0) :
    ∃ deed desk', Desk.Step w invoke desk deed desk' ∧ deed.put? = none := by
  rcases desk with ⟨s, n, job⟩
  have hcounted : n = (w.queue s).length + (Desk.inWork ⟨s, n, job⟩).length := h.counted
  rcases job with - | ⟨m, delivery, waiting⟩
  · cases hqueue : w.queue s with
    | nil => simp [hcounted, hqueue, Desk.inWork] at hunfinished
    | cons m rest =>
      rcases honly.processOne hqueue with ⟨delivery, after, added, hprocessed, hadded⟩
      exact ⟨_, _, .take hqueue hprocessed hadded, rfl⟩
  · cases waiting with
    | cons message waiting => exact ⟨_, _, .submit m message waiting delivery s n, rfl⟩
    | nil =>
      -- the message in work is counted, so it can be marked
      obtain ⟨n, rfl⟩ := Nat.exists_eq_succ_of_ne_zero hunfinished
      exact ⟨_, _, .finish m delivery s n, rfl⟩

end Accounts

/-! ## Working off on the calling thread -/

section Processing

variable (w : World H S) (invoke : A → Invoke H S)

/-- What the handlers of the message in work submit comes into the queue in order. -/
theorem run_submits (m : Message) (delivery : Delivery) (added : List Message) :
    ∀ (queue : List Message) (s : S) (n : Nat),
      Desk.Run w invoke ⟨w.requeue queue s, n, some ⟨m, delivery, added⟩⟩
        (added.map Deed.submit)
        ⟨w.requeue (queue ++ added) s, n + added.length, some ⟨m, delivery, []⟩⟩ := by
  induction added with
  | nil =>
    intro queue s n
    simpa using Desk.Run.nil _
  | cons first rest ih =>
    intro queue s n
    -- with the first message in the queue the rest follows behind it
    have hsubmit : Desk.Step w invoke ⟨w.requeue queue s, n, some ⟨m, delivery, first :: rest⟩⟩
        (.submit first) ⟨w.requeue (queue ++ [first]) s, n + 1, some ⟨m, delivery, rest⟩⟩ := by
      rw [← w.enqueue_requeue]
      exact .submit m first rest delivery (w.requeue queue s) n
    have hrest := ih (queue ++ [first]) s (n + 1)
    rw [List.append_assoc, List.singleton_append] at hrest
    have hcount : n + 1 + rest.length = n + (first :: rest).length := by
      rw [List.length_cons]
      omega
    rw [hcount] at hrest
    exact .cons hsubmit hrest

variable {w invoke}

def deedsOf (around : A) (m : Message) (before after : S) (delivery : Delivery)
    (added : List Message) : List (Deed A S) :=
  .take around m before after :: (added.map Deed.submit ++ [.finish m delivery])

theorem put_deedsOf (around : A) (m : Message) (before after : S) (delivery : Delivery)
    (added : List Message) :
    (deedsOf around m before after delivery added).filterMap Deed.put? = [] := by
  simp [deedsOf, List.filterMap_cons, Deed.put?, Function.comp_def]

theorem outcome_deedsOf (around : A) (m : Message) (before after : S) (delivery : Delivery)
    (added : List Message) :
    (deedsOf around m before after delivery added).filterMap Deed.outcome? =
      [delivery.outcome] := by
  simp [deedsOf, List.filterMap_cons, Deed.outcome?, Function.comp_def]

theorem run_processOne {around : A} (honly : w.OnlyAdds (invoke around)) {s : S} {m : Message}
    {rest : List Message} (hqueue : w.queue s = m :: rest) :
    ∃ delivery after added, w.processOne (invoke around) s = some (delivery, after) ∧
      Desk.Run w invoke (Desk.idle w s)
        (deedsOf around m (w.requeue rest s) after delivery added) (Desk.idle w after) := by
  rcases honly.processOne hqueue with ⟨delivery, after, added, hprocessed, hadded⟩
  refine ⟨delivery, after, added, hprocessed, .cons (.take hqueue hprocessed hadded) ?_⟩
  have hcount : (w.queue s).length + added.length = (w.queue after).length + 1 := by
    rw [hqueue, hadded, List.length_cons, List.length_append]
    omega
  -- what was held back comes in behind the rest, which gives the queue that the delivery left
  have hsubmits : Desk.Run w invoke
      ⟨w.requeue rest after, (w.queue s).length, some ⟨m, delivery, added⟩⟩ (added.map Deed.submit)
      ⟨after, (w.queue after).length + 1, some ⟨m, delivery, []⟩⟩ := by
    have hrun := run_submits w invoke m delivery added rest after (w.queue s).length
    rwa [← hadded, w.requeue_self, hcount] at hrun
  exact hsubmits.append (.single (.finish m delivery after _))

/-- Working off the queue is a run of deeds, none of them from outside. -/
theorem run_processPending {around : A} (honly : w.OnlyAdds (invoke around)) (limit : Nat) :
    ∀ s : S, ∃ deeds,
      Desk.Run w invoke (Desk.idle w s) deeds
        (Desk.idle w (w.processPending (invoke around) limit s).2) ∧
      deeds.filterMap Deed.put? = [] ∧
      deeds.filterMap Deed.outcome? = (w.processPending (invoke around) limit s).1 := by
  induction limit with
  | zero =>
    intro s
    exact ⟨[], .nil _, rfl, rfl⟩
  | succ limit ih =>
    intro s
    cases hqueue : w.queue s with
    | nil =>
      rw [World.processPending, World.processOne_nil hqueue]
      exact ⟨[], .nil _, rfl, rfl⟩
    | cons m rest =>
      rcases run_processOne honly hqueue with ⟨delivery, after, added, hprocessed, hone⟩
      rcases ih after with ⟨deeds, hrun, hputs, houtcomes⟩
      rw [World.processPending, hprocessed]
      refine ⟨_, hone.append hrun, ?_, ?_⟩
      · rw [List.filterMap_append, put_deedsOf, hputs]
        rfl
      · rw [List.filterMap_append, outcome_deedsOf, houtcomes]
        rfl

/-- No more messages are delivered than the limit says, and fewer only if the queue is empty. -/
theorem length_processPending (invoke : Invoke H S) (limit : Nat) :
    ∀ s : S, (w.processPending invoke limit s).1.length ≤ limit ∧
      ((w.processPending invoke limit s).1.length < limit →
        w.queue (w.processPending invoke limit s).2 = []) := by
  induction limit with
  | zero =>
    intro s
    exact ⟨Nat.le_refl 0, fun h => absurd h (Nat.lt_irrefl 0)⟩
  | succ limit ih =>
    intro s
    cases hqueue : w.queue s with
    | nil =>
      rw [World.processPending, World.processOne_nil hqueue]
      exact ⟨Nat.zero_le _, fun _ => hqueue⟩
    | cons m rest =>
      rcases ih (w.record (w.dispatch invoke m (w.requeue rest s)).1
        (w.dispatch invoke m (w.requeue rest s)).2) with ⟨hmost, hempty⟩
      rw [World.processPending, World.processOne_cons hqueue]
      exact ⟨Nat.succ_le_succ hmost, fun h => hempty (Nat.lt_of_succ_lt_succ h)⟩

end Processing

/-! ## Calls to the bus -/

/-- A call of a method of the queue. Without a limit a call comes back when the queue is empty. -/
inductive QueueCall
  | enqueue (m : Message)
  | process (limit : Option Int)

def QueueCall.put? : QueueCall → Option Message
  | .enqueue m => some m
  | .process _ => none

/-- What a call gives back, and the world that it leaves. -/
inductive Answers (w : World H S) (invoke : Invoke H S) :
    QueueCall → S → List Message → S → Prop
  | enqueue (m : Message) (s : S) : Answers w invoke (.enqueue m) s [] (w.enqueue m s)
  | limited (limit : Int) (s : S) :
      Answers w invoke (.process (some limit)) s (w.processPending invoke limit.toNat s).1
        (w.processPending invoke limit.toNat s).2
  | unlimited (rounds : Nat) (s : S)
      (hempty : w.queue (w.processPending invoke rounds s).2 = []) :
      Answers w invoke (.process none) s (w.processPending invoke rounds s).1
        (w.processPending invoke rounds s).2

/-- A call in its surroundings, and what it gave back. -/
structure Answered (A : Type) where
  around : A
  call : QueueCall
  results : List Message

inductive History (w : World H S) (invoke : A → Invoke H S) : S → List (Answered A) → S → Prop
  | nil (s : S) : History w invoke s [] s
  | cons {s s' s'' : S} {answered : Answered A} {rest : List (Answered A)} :
      Answers w (invoke answered.around) answered.call s answered.results s' →
      History w invoke s' rest s'' → History w invoke s (answered :: rest) s''

section Calls

variable {w : World H S} {invoke : A → Invoke H S}

theorem run_answers {around : A} (honly : w.OnlyAdds (invoke around)) {call : QueueCall} {s s' : S}
    {results : List Message} (h : Answers w (invoke around) call s results s') :
    ∃ deeds, Desk.Run w invoke (Desk.idle w s) deeds (Desk.idle w s') ∧
      deeds.filterMap Deed.put? = call.put?.toList ∧
      deeds.filterMap Deed.outcome? = results := by
  cases h with
  | enqueue m s => exact ⟨_, .single (.put_idle m s), rfl, rfl⟩
  | limited limit s => exact run_processPending honly limit.toNat s
  | unlimited rounds s _ => exact run_processPending honly rounds s

theorem run_history (honly : ∀ around, w.OnlyAdds (invoke around)) {s s' : S}
    {calls : List (Answered A)} (h : History w invoke s calls s') :
    ∃ deeds, Desk.Run w invoke (Desk.idle w s) deeds (Desk.idle w s') ∧
      deeds.filterMap Deed.put? = calls.filterMap (fun answered => answered.call.put?) ∧
      deeds.filterMap Deed.outcome? = calls.flatMap (fun answered => answered.results) := by
  induction h with
  | nil s => exact ⟨[], .nil _, rfl, rfl⟩
  | @cons s s' s'' answered rest hanswers _ ih =>
    rcases run_answers (honly answered.around) hanswers with ⟨deeds, hrun, hputs, houtcomes⟩
    rcases ih with ⟨more, hmore, hputs', houtcomes'⟩
    refine ⟨deeds ++ more, hrun.append hmore, ?_, ?_⟩
    · rw [List.filterMap_append, hputs, hputs', List.filterMap_cons]
      cases answered.call.put? <;> rfl
    · rw [List.filterMap_append, houtcomes, houtcomes', List.flatMap_cons]

end Calls

/-- No message is lost, delivered twice or moved. At every moment of every interleaving the books
balance: what was put into the queue is what was taken from it and delivered, in the same order,
and what is still there; and a thread that waits for all messages waits for exactly those that are
not finished. A message whose handlers fail is finished with the text of the fault, and work goes
on. A limit is kept to, and only an empty queue ends the work before. Calls one after the other are
such a run: what they put is what came in from outside, and what they give back is what became of
the messages that were finished. -/
theorem queue_loses_nothing (w : World H S) (invoke : A → Invoke H S)
    (honly : ∀ around, w.OnlyAdds (invoke around)) (s : S) :
    (∀ deeds desk, Desk.Run w invoke (Desk.idle w s) deeds desk →
      Accounts w (w.queue s) deeds desk ∧
      (w.bus desk.world).pending + (deeds.filterMap Deed.taken?).length =
        (w.queue s).length + (deeds.filterMap Deed.enqueued?).length ∧
      (desk.unfinished = 0 ↔
        deeds.filterMap Deed.finished? = w.queue s ++ deeds.filterMap Deed.enqueued?) ∧
      ∀ _ : A, desk.unfinished ≠ 0 →
        ∃ deed desk', Desk.Step w invoke desk deed desk' ∧ deed.put? = none) ∧
    (∀ (delivery : Delivery) (fault : Fault), delivery.fault = some fault →
      delivery.outcome = { delivery.received with error := some fault.text }) ∧
    (∀ around (limit : Int) (s : S),
      ((w.processPending (invoke around) limit.toNat s).1.length : Int) ≤ max limit 0 ∧
      (((w.processPending (invoke around) limit.toNat s).1.length : Int) < max limit 0 →
        w.queue (w.processPending (invoke around) limit.toNat s).2 = [])) ∧
    ∀ calls s', History w invoke s calls s' →
      ∃ deeds, Desk.Run w invoke (Desk.idle w s) deeds (Desk.idle w s') ∧
        deeds.filterMap Deed.put? = calls.filterMap (fun answered => answered.call.put?) ∧
        deeds.filterMap Deed.outcome? = calls.flatMap (fun answered => answered.results) := by
  refine ⟨?_, ?_, ?_, fun calls s' h => run_history honly h⟩
  · intro deeds desk hrun
    have haccounts : Accounts w (w.queue s) deeds desk := (Accounts.idle s).run hrun
    exact ⟨haccounts, haccounts.pending_add, haccounts.unfinished_eq_zero,
      fun around => haccounts.goes_on around (honly around)⟩
  · intro delivery fault hfault
    rw [Delivery.outcome, hfault]
  · intro around limit s
    rcases length_processPending (invoke around) limit.toNat s with ⟨hmost, hempty⟩
    have hlimit : ((limit.toNat : Nat) : Int) = max limit 0 := Int.toNat_eq_max limit
    exact ⟨by omega, fun hfewer => hempty (by omega)⟩

end Bus

/-! ## Handlers that submit and fail -/

/-- Rules that put a message into the queue. -/
def forwardingRules : List Char :=
  "[install]\nm=\n[m]\nenqueue n=return 1\n".toList

def brokenListener : Listener :=
  ⟨"broken", fun m => ⟨m, none, some (.handler "boom")⟩⟩

/-- A router with these rules and, at their other end, such a listener. -/
def Router.forwarding : Router :=
  (((Router.start .standard).loadText forwardingRules "r").2.install "n"
    (some (.listener brokenListener)) (.int 1)).2

/-- Two messages are put into the queue and worked off with limits and without one. One of them
submits another, and two fail. -/
theorem forwarding_loses_nothing :
    ∃ calls s', Bus.History Router.world Router.invoke Router.forwarding calls s' ∧
      (calls.flatMap (fun answered => answered.results)).map (fun m => (m.name, m.error)) =
        [("m", none), ("n", some "boom"), ("n", some "boom")] ∧
      ∃ deeds, Bus.Desk.Run Router.world Router.invoke
          (Bus.Desk.idle Router.world Router.forwarding) deeds (Bus.Desk.idle Router.world s') ∧
        (deeds.filterMap Bus.Deed.outcome?).length = 3 := by
  let around := Surroundings.empty
  let first := Message.fresh "m" [] around.source.now
  let second := Message.fresh "n" [] around.source.now
  let waiting := Router.world.enqueue second (Router.world.enqueue first Router.forwarding)
  let once := Router.world.processPending (Router.invoke around) 1 waiting
  let nothing := Router.world.processPending (Router.invoke around) 0 once.2
  let drained := Router.world.processPending (Router.invoke around) 5 nothing.2
  have hhistory : Bus.History Router.world Router.invoke Router.forwarding
      [⟨around, .enqueue first, []⟩, ⟨around, .enqueue second, []⟩,
        ⟨around, .process (some 1), once.1⟩, ⟨around, .process (some (-3)), nothing.1⟩,
        ⟨around, .process none, drained.1⟩] drained.2 := by
    have hempty : Router.world.queue drained.2 = [] := by
      have hlength : (Router.world.queue drained.2).length = 0 := by decide +kernel
      exact List.length_eq_zero_iff.1 hlength
    exact .cons (.enqueue first _) (.cons (.enqueue second _) (.cons (.limited 1 waiting)
      (.cons (.limited (-3) once.2) (.cons (.unlimited 5 nothing.2 hempty) (.nil _)))))
  have hresults : (once.1 ++ (nothing.1 ++ drained.1)).map (fun m => (m.name, m.error)) =
      [("m", none), ("n", some "boom"), ("n", some "boom")] := by decide +kernel
  have hconserved := Bus.queue_loses_nothing Router.world Router.invoke Router.onlyAdds_invoke
    Router.forwarding
  rcases hconserved.2.2.2 _ _ hhistory with ⟨deeds, hrun, -, houtcomes⟩
  refine ⟨_, _, hhistory, ?_, deeds, hrun, ?_⟩
  · simpa using hresults
  · rw [houtcomes]
    have hthree := congrArg List.length hresults
    simpa using hthree

end Switchboard
