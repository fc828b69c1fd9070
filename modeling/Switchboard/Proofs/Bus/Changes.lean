import Switchboard.Bus
import Switchboard.Proofs.Entries

/-!
# Changes of a bus

Whatever happens to a bus is made of four changes: an installation, a removal, and a message that
is put into the queue or taken out of it. `Evolves` relates two buses if changes of an allowed
kind lead from one to the other. What each change preserves, every evolution preserves.

An installation numbers what it adds. So the subscriptions that were there before can be told from
later ones (`survivors`), and changes that only add leave exactly the former in place.
-/

namespace Switchboard

namespace Subscription

variable {H : Type}

theorem mem_insert {s t : Subscription H} {subs : List (Subscription H)} :
    t ∈ s.insert subs ↔ t = s ∨ t ∈ subs := by
  induction subs with
  | nil => simp [insert]
  | cons first rest ih =>
    by_cases hprecedes : s.precedes first = true
    · simp [insert, hprecedes]
    · have hinsert : s.insert (first :: rest) = first :: s.insert rest := by
        simp [insert, hprecedes]
      rw [hinsert, List.mem_cons, ih, List.mem_cons, or_left_comm]

/-- An insertion does not move what was there. -/
theorem filter_insert {p : Subscription H → Bool} {s : Subscription H} (h : p s = false)
    (subs : List (Subscription H)) : (s.insert subs).filter p = subs.filter p := by
  induction subs with
  | nil => simp [insert, h]
  | cons first rest ih =>
    by_cases hprecedes : s.precedes first = true
    · simp [insert, hprecedes, h]
    · simp [insert, hprecedes, List.filter_cons, ih]

end Subscription

namespace Bus

variable {H : Type}

/-! ## What the operations do to the subscriptions of a name -/

theorem handlers_uninstall (bus : Bus H) (name other : String) (chosen : H → Bool) :
    (bus.uninstall name chosen).2.handlers other =
      if other = name then (bus.handlers name).filter fun s => !chosen s.handler
      else bus.handlers other := by
  cases hkept : (bus.handlers name).filter fun s => !chosen s.handler with
  | nil =>
    have hsubscriptions : (bus.uninstall name chosen).2.subscriptions =
        bus.subscriptions.erase name := by simp [uninstall, hkept]
    rw [handlers, hsubscriptions, Entries.get?_erase]
    by_cases hother : other = name
    · simp [hother]
    · simp [hother, handlers]
  | cons first rest =>
    have hsubscriptions : (bus.uninstall name chosen).2.subscriptions =
        bus.subscriptions.set name (first :: rest) := by simp [uninstall, hkept]
    rw [handlers, hsubscriptions]
    by_cases hother : other = name
    · simp [hother, Entries.get?_set_self]
    · simp [hother, Entries.get?_set_of_ne hother, handlers]

@[simp] theorem handlers_uninstallAll (bus : Bus H) (name other : String) :
    (bus.uninstallAll name).2.handlers other =
      if other = name then [] else bus.handlers other := by
  have hnone : ((bus.handlers name).filter fun _ => !true) = [] :=
    List.filter_eq_nil_iff.2 (by simp)
  rw [uninstallAll, handlers_uninstall, hnone]

@[simp] theorem sequence_uninstall (bus : Bus H) (name : String) (chosen : H → Bool) :
    (bus.uninstall name chosen).2.sequence = bus.sequence :=
  rfl

theorem get?_set_getD (bus : Bus H) (name other : String) (subs : List (Subscription H)) :
    ((bus.subscriptions.set name subs).get? other).getD [] =
      if other = name then subs else bus.handlers other := by
  by_cases hother : other = name
  · simp [hother, Entries.get?_set_self]
  · simp [hother, Entries.get?_set_of_ne hother, handlers]

/-- What an installation with an integer as priority puts on the bus. -/
theorem handlers_install_of_ok (bus : Bus H) (name other : String) (handler : H)
    {priority : Value} {number : Int} (h : priority.toInteger = .ok number) :
    (bus.install name (some handler) priority).2.handlers other =
      if other = name then
        Subscription.insert ⟨number, bus.sequence + 1, name, handler⟩ (bus.handlers name)
      else bus.handlers other := by
  simp only [install, h, handlers, get?_set_getD]

/-- A priority that is no integer leaves the subscriptions of every name alone. -/
theorem handlers_install_of_error (bus : Bus H) (name other : String) (handler : H)
    {priority : Value} {fault : Fault} (h : priority.toInteger = .error fault) :
    (bus.install name (some handler) priority).2.handlers other = bus.handlers other := by
  simp only [install, h, handlers, get?_set_getD]
  -- the name is set to the subscriptions that it had
  by_cases hother : other = name
  · rw [if_pos hother, hother]
  · rw [if_neg hother]

theorem sequence_install (bus : Bus H) (name : String) (handler : H) (priority : Value) :
    (bus.install name (some handler) priority).2.sequence = bus.sequence + 1 := by
  cases hpriority : priority.toInteger <;> simp [install, hpriority]

/-- An installation adds a subscription with the next number to its name, even if it cannot be
noted, or leaves all subscriptions as they are. -/
theorem install_cases (bus : Bus H) (name : String) (handler? : Option H) (priority : Value) :
    ((bus.install name handler? priority).1.isSome ∧
      bus.sequence ≤ (bus.install name handler? priority).2.sequence ∧
      ∀ other, (bus.install name handler? priority).2.handlers other = bus.handlers other) ∨
    (∃ handler number, handler? = some handler ∧ priority.toInteger = .ok number ∧
      (bus.install name handler? priority).1 = noteFault? priority ∧
      (bus.install name handler? priority).2.sequence = bus.sequence + 1 ∧
      ∀ other, (bus.install name handler? priority).2.handlers other =
        if other = name then
          Subscription.insert ⟨number, bus.sequence + 1, name, handler⟩ (bus.handlers name)
        else bus.handlers other) := by
  cases handler? with
  | none => exact .inl ⟨rfl, Nat.le_refl _, fun other => rfl⟩
  | some handler =>
    cases hpriority : priority.toInteger with
    | error fault =>
      refine .inl ⟨by simp [install, hpriority], ?_,
        fun other => handlers_install_of_error bus name other handler hpriority⟩
      rw [sequence_install]
      exact Nat.le_succ _
    | ok number =>
      exact .inr ⟨handler, number, rfl, rfl, by simp [install, hpriority],
        sequence_install bus name handler priority,
        fun other => handlers_install_of_ok bus name other handler hpriority⟩

/-- What is on the bus after an installation was there before, or is what was installed. -/
theorem mem_handlers_install {bus : Bus H} {name other : String} {handler? : Option H}
    {priority : Value} {s : Subscription H}
    (h : s ∈ (bus.install name handler? priority).2.handlers other) :
    s ∈ bus.handlers other ∨ other = name ∧ handler? = some s.handler := by
  rcases install_cases bus name handler? priority with
    ⟨-, -, hhandlers⟩ | ⟨handler, number, hhandler, -, -, -, hhandlers⟩
  · rw [hhandlers] at h
    exact .inl h
  · rw [hhandlers] at h
    by_cases hother : other = name
    · rw [if_pos hother, Subscription.mem_insert] at h
      rcases h with rfl | hold
      · exact .inr ⟨hother, hhandler⟩
      · rw [hother]
        exact .inl hold
    · rw [if_neg hother] at h
      exact .inl h

/-- What is on the bus after a removal was there before, and if it was removed from its name it was
not chosen. -/
theorem mem_handlers_uninstall {bus : Bus H} {name other : String} {chosen : H → Bool}
    {s : Subscription H} (h : s ∈ (bus.uninstall name chosen).2.handlers other) :
    s ∈ bus.handlers other ∧ (other = name → chosen s.handler = false) := by
  rw [handlers_uninstall] at h
  by_cases hother : other = name
  · rw [if_pos hother, List.mem_filter] at h
    rw [hother]
    exact ⟨h.1, fun _ => by simpa using h.2⟩
  · rw [if_neg hother] at h
    exact ⟨h, fun hname => absurd hname hother⟩

/-! ## Changes and evolutions -/

/-- A change of a bus. -/
inductive Change (H : Type)
  | install (name : String) (handler? : Option H) (priority : Value)
  | uninstall (name : String) (chosen : H → Bool)
  | enqueue (m : Message)
  | dequeue

namespace Change

def apply : Change H → Bus H → Bus H
  | .install name handler? priority, bus => (bus.install name handler? priority).2
  | .uninstall name chosen, bus => (bus.uninstall name chosen).2
  | .enqueue m, bus => bus.enqueue m
  | .dequeue, bus => { bus with queue := bus.queue.tail }

/-- The changes that put messages into the queue. -/
def Submits : Change H → Prop
  | .enqueue _ => True
  | _ => False

/-- The changes that take nothing away. -/
def Adds : Change H → Prop
  | .install _ _ _ => True
  | .enqueue _ => True
  | _ => False

theorem Submits.adds {change : Change H} (h : change.Submits) : change.Adds := by
  cases change with
  | enqueue m => trivial
  | install name handler? priority => exact h.elim
  | uninstall name chosen => exact h.elim
  | dequeue => exact h.elim

end Change

/-- Allowed changes lead from one bus to the other. -/
inductive Evolves (allowed : Change H → Prop) : Bus H → Bus H → Prop
  | refl (bus : Bus H) : Evolves allowed bus bus
  | step {a b : Bus H} (change : Change H) :
      allowed change → Evolves allowed (change.apply a) b → Evolves allowed a b

namespace Evolves

variable {allowed : Change H → Prop} {a b c : Bus H}

theorem single (change : Change H) (h : allowed change) : Evolves allowed a (change.apply a) :=
  .step change h (.refl _)

theorem trans (hab : Evolves allowed a b) (hbc : Evolves allowed b c) : Evolves allowed a c := by
  induction hab with
  | refl => exact hbc
  | step change hchange _ ih => exact .step change hchange (ih hbc)

/-- The queue can become any other one. -/
theorem requeue (bus : Bus H) (queue : List Message) :
    Evolves (fun _ => True) bus { bus with queue := queue } := by
  have hclear : ∀ (waiting : List Message) (bus : Bus H), bus.queue = waiting →
      Evolves (fun _ => True) bus { bus with queue := [] } := by
    intro waiting
    induction waiting with
    | nil =>
      intro bus hqueue
      rw [← hqueue]
      exact .refl bus
    | cons m rest ih =>
      intro bus hqueue
      exact .step .dequeue trivial (ih (Change.dequeue.apply bus) (by simp [Change.apply, hqueue]))
  have hfill : ∀ (queue : List Message) (bus : Bus H),
      Evolves (fun _ => True) bus { bus with queue := bus.queue ++ queue } := by
    intro queue
    induction queue with
    | nil =>
      intro bus
      rw [List.append_nil]
      exact .refl bus
    | cons m rest ih =>
      intro bus
      have hrest := ih (Change.apply (.enqueue m) bus)
      simp only [Change.apply, enqueue, List.append_assoc, List.singleton_append] at hrest
      exact .step (.enqueue m) trivial hrest
  exact (hclear bus.queue bus rfl).trans (hfill queue { bus with queue := [] })

theorem mono {more : Change H → Prop} (hmore : ∀ change, allowed change → more change)
    (h : Evolves allowed a b) : Evolves more a b := by
  induction h with
  | refl => exact .refl _
  | step change hchange _ ih => exact .step change (hmore change hchange) ih

theorem any (h : Evolves allowed a b) : Evolves (fun _ => True) a b :=
  h.mono (fun _ _ => trivial)

/-- What every allowed change preserves is preserved by an evolution. -/
theorem invariant {P : Bus H → Prop}
    (preserved : ∀ change bus, allowed change → P bus → P (change.apply bus))
    (h : Evolves allowed a b) (ha : P a) : P b := by
  induction h with
  | refl => exact ha
  | step change hchange _ ih => exact ih (preserved change _ hchange ha)

end Evolves

/-! ## Numbers of subscriptions -/

/-- No subscription has a number that the bus has not given out yet. -/
def Counted (bus : Bus H) : Prop :=
  ∀ name, ∀ s ∈ bus.handlers name, s.sequence ≤ bus.sequence

theorem counted_empty : Counted (Bus.empty : Bus H) := by
  intro name s hs
  simp [handlers, empty, Entries.get?] at hs

theorem counted_apply (change : Change H) {bus : Bus H} (h : Counted bus) :
    Counted (change.apply bus) := by
  intro other s hs
  cases change with
  | install name handler? priority =>
    rcases install_cases bus name handler? priority with
      ⟨-, hsequence, hhandlers⟩ | ⟨handler, number, -, -, -, hsequence, hhandlers⟩
    · rw [Change.apply, hhandlers] at hs
      exact Nat.le_trans (h other s hs) hsequence
    · -- the new subscription has the new number, and the others have lower ones
      rw [Change.apply, hhandlers] at hs
      rw [Change.apply, hsequence]
      by_cases hother : other = name
      · simp only [hother, if_true, Subscription.mem_insert] at hs
        rcases hs with rfl | hs
        · exact Nat.le_refl _
        · exact Nat.le_succ_of_le (h name s hs)
      · simp only [hother, if_false] at hs
        exact Nat.le_succ_of_le (h other s hs)
  | uninstall name chosen =>
    -- a removal takes no number back
    rw [Change.apply, handlers_uninstall] at hs
    by_cases hother : other = name
    · simp only [hother, if_true] at hs
      exact h name s (List.mem_filter.1 hs).1
    · simp only [hother, if_false] at hs
      exact h other s hs
  | enqueue m => exact h other s hs
  | dequeue => exact h other s hs

theorem Evolves.counted {allowed : Change H → Prop} {a b : Bus H} (h : Evolves allowed a b)
    (ha : Counted a) : Counted b :=
  h.invariant (fun change _ _ => counted_apply change) ha

/-! ## What stays in place -/

/-- The subscriptions of a name that were on the bus before, in the order of delivery. -/
def survivors (before after : Bus H) (name : String) : List (Subscription H) :=
  (after.handlers name).filter fun s => s.sequence ≤ before.sequence

/-- The subscriptions of some names are gone, and all others are still in place. -/
structure KeepsBut (gone : String → Bool) (before after : Bus H) : Prop where
  sequence_le : before.sequence ≤ after.sequence
  survivors_eq : ∀ name,
    survivors before after name = if gone name then [] else before.handlers name

theorem survivors_self {bus : Bus H} (h : Counted bus) (name : String) :
    survivors bus bus name = bus.handlers name :=
  List.filter_eq_self.2 (fun s hs => decide_eq_true (h name s hs))

theorem survivors_of_handlers_eq {before after other : Bus H} {name : String}
    (h : after.handlers name = other.handlers name) :
    survivors before after name = survivors before other name := by
  rw [survivors, h, survivors]

/-- Who survives one part of the way and then the other survives all of it. -/
theorem survivors_trans {a b c : Bus H} (h : a.sequence ≤ b.sequence) (name : String) :
    survivors a c name = (survivors b c name).filter fun s => s.sequence ≤ a.sequence := by
  -- a number that was given out by then was given out later on, too
  rw [survivors, survivors, List.filter_filter]
  refine List.filter_congr ?_
  intro s _
  by_cases hs : s.sequence ≤ a.sequence
  · simp [hs, Nat.le_trans hs h]
  · simp [hs]

namespace KeepsBut

theorem refl {bus : Bus H} (h : Counted bus) : KeepsBut (fun _ => false) bus bus :=
  ⟨Nat.le_refl _, survivors_self h⟩

theorem trans {gone gone' : String → Bool} {a b c : Bus H} (hab : KeepsBut gone a b)
    (hbc : KeepsBut gone' b c) : KeepsBut (fun name => gone name || gone' name) a c := by
  refine ⟨Nat.le_trans hab.sequence_le hbc.sequence_le, ?_⟩
  intro name
  rw [survivors_trans hab.sequence_le, hbc.survivors_eq]
  -- a name that is cleared on the second part has no survivors, whatever the first part did
  cases hgone' : gone' name with
  | true => simp
  | false =>
    calc
      ((if false = true then [] else b.handlers name).filter fun s => s.sequence ≤ a.sequence)
          = survivors a b name := by simp [survivors]
      _ = if gone name then [] else a.handlers name := hab.survivors_eq name
      _ = if gone name || false then [] else a.handlers name := by simp

theorem congr {gone gone' : String → Bool} {a b : Bus H} (h : KeepsBut gone a b)
    (hgone : ∀ name, gone name = gone' name) : KeepsBut gone' a b := by
  refine ⟨h.sequence_le, ?_⟩
  intro name
  rw [h.survivors_eq, hgone]

/-- A subscription of any other name stays on the bus. -/
theorem mem_handlers {gone : String → Bool} {a b : Bus H} (h : KeepsBut gone a b) {name : String}
    {s : Subscription H} (hgone : gone name = false) (hs : s ∈ a.handlers name) :
    s ∈ b.handlers name := by
  have hsurvivors : survivors a b name = a.handlers name := by
    simpa [hgone] using h.survivors_eq name
  rw [← hsurvivors, survivors] at hs
  exact (List.mem_filter.1 hs).1

end KeepsBut

theorem keeps_apply {change : Change H} {bus : Bus H} (hadds : change.Adds) (h : Counted bus) :
    KeepsBut (fun _ => false) bus (change.apply bus) := by
  cases change with
  | install name handler? priority =>
    rcases install_cases bus name handler? priority with
      ⟨-, hsequence, hhandlers⟩ | ⟨handler, number, -, -, -, hsequence, hhandlers⟩
    · refine ⟨hsequence, ?_⟩
      intro other
      have hsame : ((Change.install name handler? priority).apply bus).handlers other =
          bus.handlers other := hhandlers other
      simpa [survivors_of_handlers_eq hsame] using survivors_self h other
    · refine ⟨by rw [Change.apply, hsequence]; exact Nat.le_succ _, ?_⟩
      intro other
      simp only [Bool.false_eq_true, if_false]
      rw [Change.apply, survivors, hhandlers]
      by_cases hother : other = name
      · -- the number of the new subscription is greater than all before
        simp only [hother, if_true]
        rw [Subscription.filter_insert (by simp)]
        exact survivors_self h name
      · simp only [hother, if_false]
        exact survivors_self h other
  | uninstall name chosen => exact hadds.elim
  | enqueue m => exact ⟨Nat.le_refl _, survivors_self h⟩
  | dequeue => exact hadds.elim

/-- An evolution that only adds keeps all subscriptions in place. -/
theorem Evolves.keeps {a b : Bus H} (h : Evolves Change.Adds a b) (ha : Counted a) :
    KeepsBut (fun _ => false) a b := by
  induction h with
  | refl => exact KeepsBut.refl ha
  | step change hadds _ ih =>
    have hrest := ih (counted_apply change ha)
    exact ((keeps_apply hadds ha).trans hrest).congr (fun _ => rfl)

end Bus
end Switchboard
