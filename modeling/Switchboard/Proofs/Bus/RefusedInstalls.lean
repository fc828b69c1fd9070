import Switchboard.Proofs.Bus.LiveInstalls

/-!
# Refused installations

An installation that fails leaves the bus as it was if there is no handler. If the priority is no
integer it leaves the subscriptions alone, but it has been counted by then: the number is used up,
and the name is there, if only without subscriptions (`failed_install_uses_up_number`).

A bus that misses a number is the same as one that does not, with every later number one higher
(`Skips`). This is kept by each change (`Skips.apply`) and so by all that comes later
(`Skips.applyAll`); the order of delivery is the same, and so is every delivery
(`deliver_renumber`).
-/

namespace Switchboard

/-! ## Numbers that are one higher -/

namespace Subscription

variable {H : Type}

/-- The subscription with its number one higher, if that is beyond a bound. -/
def renumber (bound : Nat) (s : Subscription H) : Subscription H :=
  { s with sequence := if bound < s.sequence then s.sequence + 1 else s.sequence }

theorem renumber_of_le {bound : Nat} {s : Subscription H} (h : s.sequence ≤ bound) :
    s.renumber bound = s := by
  simp [renumber, Nat.not_lt.2 h]

theorem renumber_of_lt {bound : Nat} {s : Subscription H} (h : bound < s.sequence) :
    s.renumber bound = { s with sequence := s.sequence + 1 } := by
  simp [renumber, h]

/-- Numbers that are higher in this way are in the same order. -/
theorem precedes_renumber (bound : Nat) (s t : Subscription H) :
    (s.renumber bound).precedes (t.renumber bound) = s.precedes t := by
  have hless : ((s.renumber bound).sequence < (t.renumber bound).sequence) ↔
      s.sequence < t.sequence := by
    simp only [renumber]
    split <;> split <;> omega
  simp only [precedes, decide_eq_decide.2 hless]
  rfl

theorem insert_renumber (bound : Nat) (s : Subscription H) (subs : List (Subscription H)) :
    (s.renumber bound).insert (subs.map (renumber bound)) =
      (s.insert subs).map (renumber bound) := by
  induction subs with
  | nil => rfl
  | cons first rest ih =>
    rw [List.map_cons, insert, insert, precedes_renumber]
    by_cases hprecedes : s.precedes first = true
    · rw [if_pos hprecedes, if_pos hprecedes, List.map_cons, List.map_cons]
    · rw [if_neg hprecedes, if_neg hprecedes, List.map_cons, ih]

end Subscription

namespace Bus

variable {H S : Type}

open Subscription

/-- A delivery asks the handlers, whatever the numbers of the subscriptions are. -/
theorem deliver_renumber (invoke : Invoke H S) (bound : Nat) (subs : List (Subscription H))
    (received : Option Message) (m : Message) (s : S) :
    deliver invoke (subs.map (renumber bound)) received m s =
      deliver invoke subs received m s := by
  induction subs generalizing received m s with
  | nil => rfl
  | cons first rest ih =>
    have hhandler : (first.renumber bound).handler = first.handler := rfl
    rw [List.map_cons, deliver, deliver, hhandler]
    simp only [ih]

/-- A bus on which a number is missing: it is as the other one is, but every number beyond the
bound is one higher. -/
structure Skips (bound : Nat) (bus after : Bus H) : Prop where
  bound_le : bound ≤ bus.sequence
  sequence_eq : after.sequence = bus.sequence + 1
  handlers_eq : ∀ name, after.handlers name = (bus.handlers name).map (renumber bound)

namespace Skips

variable {bound : Nat} {bus after : Bus H}

/-- What is installed on either bus has a number beyond the bound. -/
theorem install (h : Skips bound bus after) (name : String) (handler : H) (priority : Value) :
    Skips bound (bus.install name (some handler) priority).2
      (after.install name (some handler) priority).2 := by
  refine ⟨?_, ?_, ?_⟩
  · rw [sequence_install]
    exact h.bound_le.trans (Nat.le_succ _)
  · rw [sequence_install, sequence_install, h.sequence_eq]
  · intro other
    cases hpriority : priority.toInteger with
    | error fault =>
      rw [handlers_install_of_error _ _ _ _ hpriority,
        handlers_install_of_error _ _ _ _ hpriority, h.handlers_eq]
    | ok number =>
      rw [handlers_install_of_ok _ _ _ _ hpriority, handlers_install_of_ok _ _ _ _ hpriority]
      have hnew : (⟨number, after.sequence + 1, name, handler⟩ : Subscription H) =
          renumber bound ⟨number, bus.sequence + 1, name, handler⟩ := by
        rw [renumber_of_lt (Nat.lt_succ_of_le h.bound_le), h.sequence_eq]
      by_cases hother : other = name
      · rw [if_pos hother, if_pos hother]
        calc
          Subscription.insert ⟨number, after.sequence + 1, name, handler⟩ (after.handlers name)
              = (renumber bound ⟨number, bus.sequence + 1, name, handler⟩).insert
                  ((bus.handlers name).map (renumber bound)) := by
                rw [hnew, h.handlers_eq]
          _ = (Subscription.insert ⟨number, bus.sequence + 1, name, handler⟩
                  (bus.handlers name)).map (renumber bound) :=
                insert_renumber bound _ _
      · rw [if_neg hother, if_neg hother]
        exact h.handlers_eq other

theorem uninstall (h : Skips bound bus after) (name : String) (chosen : H → Bool) :
    Skips bound (bus.uninstall name chosen).2 (after.uninstall name chosen).2 := by
  refine ⟨h.bound_le, h.sequence_eq, ?_⟩
  intro other
  rw [handlers_uninstall, handlers_uninstall, h.handlers_eq, h.handlers_eq]
  by_cases hother : other = name
  · -- which subscriptions go is not decided by their numbers
    rw [if_pos hother, if_pos hother, List.filter_map]
    rfl
  · rw [if_neg hother, if_neg hother]

theorem apply (h : Skips bound bus after) (change : Change H) :
    Skips bound (change.apply bus) (change.apply after) := by
  cases change with
  | install name handler? priority =>
    cases handler? with
    | none => exact h
    | some handler => exact h.install name handler priority
  | uninstall name chosen => exact h.uninstall name chosen
  | enqueue m => exact ⟨h.bound_le, h.sequence_eq, h.handlers_eq⟩
  | dequeue => exact ⟨h.bound_le, h.sequence_eq, h.handlers_eq⟩

theorem applyAll (h : Skips bound bus after) (later : List (Change H)) :
    Skips bound (Bus.applyAll later bus) (Bus.applyAll later after) := by
  induction later generalizing bus after with
  | nil => exact h
  | cons change rest ih => exact ih (h.apply change)

end Skips

/-- A priority that is no integer makes the bus miss a number. -/
theorem skips_install {bus : Bus H} (hcounted : Counted bus) (name : String) (handler : H)
    {priority : Value} {fault : Fault} (h : priority.toInteger = .error fault) :
    Skips bus.sequence bus (bus.install name (some handler) priority).2 where
  bound_le := Nat.le_refl _
  sequence_eq := sequence_install bus name handler priority
  handlers_eq := by
    intro other
    -- no number that was given out is beyond the bound
    have hkept : (bus.handlers other).map (renumber bus.sequence) = bus.handlers other := by
      rw [List.map_congr_left fun s hs => renumber_of_le (hcounted other s hs), List.map_id']
    rw [hkept, handlers_install_of_error bus name other handler h]

/-- The name of a refused installation is there afterwards. -/
theorem subscriptions_install_of_error (bus : Bus H) (name : String) (handler : H)
    {priority : Value} {fault : Fault} (h : priority.toInteger = .error fault) :
    (bus.install name (some handler) priority).2.subscriptions =
      if bus.subscriptions.has name then bus.subscriptions
      else bus.subscriptions ++ [(name, [])] := by
  have hset : (bus.install name (some handler) priority).2.subscriptions =
      bus.subscriptions.set name (bus.handlers name) := by simp [install, h]
  rw [hset, handlers, Entries.has]
  cases hname : bus.subscriptions.get? name with
  | none => simp [Entries.set_of_get?_none _ hname]
  | some subs => simp [Entries.set_of_get? hname]

/-- An installation fails for one of three reasons. Without a handler it leaves the bus as it was.
With a priority that is no integer it leaves the queue and the subscriptions of every name as they
were, but it uses up a number and puts the name on the bus: whatever happens later, numbers given
out from then on are one higher than without it, and nothing else is different, neither the order
of the subscriptions nor any delivery. With an integer that cannot be written as priority the
subscription is in place. -/
theorem failed_install_uses_up_number {bus : Bus H} {name : String} {handler? : Option H}
    {priority : Value} {fault : Fault}
    (hfails : (bus.install name handler? priority).1 = some fault) :
    (handler? = none ∧ fault = notCallable name ∧
      (bus.install name handler? priority).2 = bus) ∨
    (handler?.isSome ∧ priority.toInteger = .error fault ∧
      (bus.install name handler? priority).2.queue = bus.queue ∧
      (∀ other, (bus.install name handler? priority).2.handlers other = bus.handlers other) ∧
      (bus.install name handler? priority).2.sequence = bus.sequence + 1 ∧
      (bus.install name handler? priority).2.subscriptions =
        (if bus.subscriptions.has name then bus.subscriptions
        else bus.subscriptions ++ [(name, [])]) ∧
      (Counted bus → ∀ later,
        (applyAll later (bus.install name handler? priority).2).sequence =
          (applyAll later bus).sequence + 1 ∧
        ∀ other,
          (applyAll later (bus.install name handler? priority).2).handlers other =
            ((applyAll later bus).handlers other).map (renumber bus.sequence) ∧
          ∀ (S : Type) (invoke : Invoke H S) (m : Message) (s : S),
            deliver invoke
                ((applyAll later (bus.install name handler? priority).2).handlers other) none m s =
              deliver invoke ((applyAll later bus).handlers other) none m s)) ∨
    ∃ handler number, handler? = some handler ∧ priority.toInteger = .ok number ∧
      priority.isWritable = false ∧ fault = .tooManyDigits none ∧
      ∀ other, (bus.install name handler? priority).2.handlers other =
        if other = name then
          Subscription.insert ⟨number, bus.sequence + 1, name, handler⟩ (bus.handlers name)
        else bus.handlers other := by
  cases handler? with
  | none =>
    cases hfails
    exact .inl ⟨rfl, rfl, rfl⟩
  | some handler =>
    cases hpriority : priority.toInteger with
    | error refusal =>
      have hfault : refusal = fault := by simpa [install, hpriority] using hfails
      refine .inr (.inl ⟨rfl, by rw [hfault], by simp [install, hpriority],
        fun other => handlers_install_of_error bus name other handler hpriority,
        sequence_install bus name handler priority,
        subscriptions_install_of_error bus name handler hpriority, ?_⟩)
      intro hcounted later
      have hskips := (skips_install hcounted name handler hpriority).applyAll later
      refine ⟨hskips.sequence_eq, ?_⟩
      intro other
      refine ⟨hskips.handlers_eq other, ?_⟩
      intro S invoke m s
      rw [hskips.handlers_eq, deliver_renumber]
    | ok number =>
      have hnote : noteFault? priority = some fault := by simpa [install, hpriority] using hfails
      cases hwritable : priority.isWritable with
      | true => simp [noteFault?, hwritable] at hnote
      | false =>
        refine .inr (.inr ⟨handler, number, rfl, rfl, rfl, ?_,
          fun other => handlers_install_of_ok bus name other handler hpriority⟩)
        simpa [noteFault?, hwritable, eq_comm] using hnote

/-- A bus with one subscription. -/
def oneInstalled : Bus String :=
  applyAll [.install "m" (some "a") (.int 5)] empty

/-- A subscription behind a refused one has the number `3`, and would have `2` without it. -/
theorem text_priority_uses_up_number :
    ((oneInstalled.install "m" (some "b") (.text "soon")).1.isSome ∧ Counted oneInstalled) ∧
    (oneInstalled.install "m" (some "b") (.text "soon")).2.sequence = 2 ∧
    (((applyAll [.install "m" (some "c") (.int 5)]
        (oneInstalled.install "m" (some "b") (.text "soon")).2).handlers "m").map
      fun s => (s.sequence, s.handler)) = [(1, "a"), (3, "c")] := by
  have hrefused : ∃ fault, (Value.text "soon").toInteger = .error fault := ⟨_, rfl⟩
  rcases hrefused with ⟨refusal, hrefusal⟩
  have hfails : (oneInstalled.install "m" (some "b") (.text "soon")).1 = some refusal := by
    simp [install, hrefusal]
  have hcounted : Counted oneInstalled := (invariants_applyAll _).1
  have hbefore : (((applyAll [.install "m" (some "c") (.int 5)] oneInstalled).handlers "m").map
      fun s => ((s.renumber 1).sequence, s.handler)) = [(1, "a"), (3, "c")] := by decide +kernel
  rcases failed_install_uses_up_number hfails with
    ⟨hnone, -⟩ | ⟨-, -, -, -, hsequence, -, hlater⟩ | ⟨handler, number, -, hnumber, -⟩
  · cases hnone
  · refine ⟨⟨by rw [hfails]; rfl, hcounted⟩, hsequence, ?_⟩
    rw [((hlater hcounted _).2 "m").1, List.map_map]
    exact hbefore
  · rw [hrefusal] at hnumber
    cases hnumber

/-- A refused installation on a fresh bus takes the first number. -/
theorem refused_install_is_counted :
    ¬ ∀ (bus : Bus Unit) (name : String) (handler? : Option Unit) (priority : Value),
      (handler? = none ∨ ∃ fault, priority.toInteger = .error fault) →
      (bus.install name handler? priority).2.subscriptions = bus.subscriptions ∧
        (bus.install name handler? priority).2.sequence = bus.sequence := by
  intro h
  have hcounter := (h empty "m" (some ()) (.text "soon") (.inr ⟨_, rfl⟩)).2
  rw [sequence_install] at hcounter
  exact absurd hcounter (by decide)

end Bus
end Switchboard
