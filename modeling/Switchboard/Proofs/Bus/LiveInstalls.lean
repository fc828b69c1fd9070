import Mathlib.Data.List.Induction
import Switchboard.Proofs.Bus.Order
import Switchboard.Proofs.Value.Writable

/-!
# Live installations

A history of a bus is a list of changes. An installation of it is live if it succeeded and no later
removal took its subscription off again (`IsLive`). The subscriptions of a name are exactly the live
installations of that name, in the order of delivery (`handlers_are_live_installs`).

One change adds the subscription that it installs and takes away those that it removes
(`mem_handlers_apply`); the history follows by induction on its end. The numbers of subscriptions
come from the counter of the bus, which never goes back (`sequence_le_applyAll`).

An integer of too many digits cannot be written into the note about an installation, which then
fails with the subscription in place (`long_priority_stays_installed`).
-/

namespace Switchboard
namespace Bus

variable {H : Type}

/-! ## Histories -/

def applyAll (changes : List (Change H)) (bus : Bus H) : Bus H :=
  changes.foldl (fun bus change => change.apply bus) bus

theorem applyAll_append (changes more : List (Change H)) (bus : Bus H) :
    applyAll (changes ++ more) bus = applyAll more (applyAll changes bus) := by
  simp [applyAll]

theorem applyAll_concat (changes : List (Change H)) (last : Change H) (bus : Bus H) :
    applyAll (changes ++ [last]) bus = last.apply (applyAll changes bus) := by
  simp [applyAll]

namespace Change

/-- The change is an installation that succeeds on the bus, and `s` is what it puts there. -/
def Installs (bus : Bus H) (change : Change H) (s : Subscription H) : Prop :=
  ∃ priority, change = .install s.name (some s.handler) priority ∧
    (bus.install s.name (some s.handler) priority).1 = none ∧
    priority.toInteger = .ok s.priority ∧ s.sequence = bus.sequence + 1

/-- The change is a removal that chooses `s`. -/
def Removes (s : Subscription H) (change : Change H) : Prop :=
  ∃ chosen, change = .uninstall s.name chosen ∧ chosen s.handler = true

/-- A priority that is an integer can be written. -/
def IsNoted : Change H → Prop
  | .install _ (some _) priority =>
    ∀ number, priority.toInteger = .ok number → noteFault? priority = none
  | _ => True

end Change

/-- `s` comes from an installation of the history that succeeded, and no later change of the history
removes it. -/
def IsLive (changes : List (Change H)) (s : Subscription H) : Prop :=
  ∃ before change after, changes = before ++ change :: after ∧
    change.Installs (applyAll before empty) s ∧ ∀ later ∈ after, ¬ later.Removes s

/-- What is live after one more change is what it installs and what it does not remove. -/
theorem isLive_concat (changes : List (Change H)) (last : Change H) (s : Subscription H) :
    IsLive (changes ++ [last]) s ↔
      last.Installs (applyAll changes empty) s ∨ IsLive changes s ∧ ¬ last.Removes s := by
  constructor
  · rintro ⟨before, change, after, hsplit, hinstalls, hkept⟩
    rcases List.eq_nil_or_concat after with rfl | ⟨after, final, rfl⟩
    · -- the installation is the last change
      have hlast := List.append_inj' hsplit rfl
      rw [List.singleton_inj] at hlast
      rw [hlast.1, hlast.2]
      exact .inl hinstalls
    · have hends : changes ++ [last] = (before ++ change :: after) ++ [final] := by
        simpa using hsplit
      have hlast := List.append_inj' hends rfl
      rw [List.singleton_inj] at hlast
      refine .inr ⟨⟨before, change, after, hlast.1, hinstalls, ?_⟩, ?_⟩
      · intro later hlater
        exact hkept later (by simp [hlater])
      · rw [hlast.2]
        exact hkept final (by simp)
  · rintro (hinstalls | ⟨⟨before, change, after, rfl, hinstalls, hkept⟩, hlast⟩)
    · exact ⟨changes, last, [], rfl, hinstalls, by simp⟩
    · refine ⟨before, change, after ++ [last], by simp, hinstalls, ?_⟩
      intro later hlater
      rcases List.mem_append.1 hlater with hlater | hlater
      · exact hkept later hlater
      · rw [List.mem_singleton.1 hlater]
        exact hlast

/-! ## Names and numbers -/

/-- Every subscription is kept under its own name, and its number is its own. -/
structure Labelled (bus : Bus H) : Prop where
  named : ∀ name, ∀ s ∈ bus.handlers name, s.name = name
  numbered : ∀ name, ∀ s ∈ bus.handlers name, ∀ name', ∀ s' ∈ bus.handlers name',
    s.sequence = s'.sequence → s = s'

theorem labelled_empty : Labelled (empty : Bus H) where
  named := by simp [handlers, empty, Entries.get?]
  numbered := by simp [handlers, empty, Entries.get?]

theorem Labelled.of_subset {a b : Bus H} (h : Labelled a)
    (hsub : ∀ name, b.handlers name ⊆ a.handlers name) : Labelled b where
  named := fun name s hs => h.named name s (hsub name hs)
  numbered := fun name s hs name' s' hs' =>
    h.numbered name s (hsub name hs) name' s' (hsub name' hs')

theorem labelled_apply (change : Change H) {bus : Bus H} (hcounted : Counted bus)
    (h : Labelled bus) : Labelled (change.apply bus) := by
  cases change with
  | install name handler? priority =>
    rcases install_cases bus name handler? priority with
      ⟨-, -, hhandlers⟩ | ⟨handler, number, -, -, -, -, hhandlers⟩
    · exact h.of_subset fun other => by rw [Change.apply, hhandlers]; exact List.Subset.refl _
    · -- what is there is new, or it was there before
      have hmem : ∀ other s,
          s ∈ ((Change.install name handler? priority).apply bus).handlers other →
          (other = name ∧ s = ⟨number, bus.sequence + 1, name, handler⟩) ∨
            s ∈ bus.handlers other := by
        intro other s hs
        rw [Change.apply, hhandlers] at hs
        by_cases hother : other = name
        · rw [if_pos hother, Subscription.mem_insert] at hs
          rcases hs with hnew | hold
          · exact .inl ⟨hother, hnew⟩
          · rw [hother]
            exact .inr hold
        · rw [if_neg hother] at hs
          exact .inr hs
      refine ⟨?_, ?_⟩
      · intro other s hs
        rcases hmem other s hs with ⟨hother, rfl⟩ | hold
        · exact hother.symm
        · exact h.named other s hold
      · intro other s hs other' s' hs' hnumber
        -- the new number is greater than all that were given before
        rcases hmem other s hs with ⟨-, rfl⟩ | hold
        · rcases hmem other' s' hs' with ⟨-, rfl⟩ | hold'
          · rfl
          · have hle := hcounted other' s' hold'
            simp only at hnumber
            omega
        · rcases hmem other' s' hs' with ⟨-, rfl⟩ | hold'
          · have hle := hcounted other s hold
            simp only at hnumber
            omega
          · exact h.numbered other s hold other' s' hold' hnumber
  | uninstall name chosen =>
    refine h.of_subset fun other => ?_
    rw [Change.apply, handlers_uninstall]
    by_cases hother : other = name
    · rw [if_pos hother, hother]
      exact List.filter_subset_self _
    · rw [if_neg hother]
      exact List.Subset.refl _
  | enqueue m => exact h.of_subset fun other => List.Subset.refl _
  | dequeue => exact h.of_subset fun other => List.Subset.refl _

/-- The invariants of a history: numbers are counted and not shared, and lists are in order. -/
theorem invariants_applyAll (changes : List (Change H)) :
    Counted (applyAll changes empty) ∧ Ordered (applyAll changes empty) ∧
      Labelled (applyAll changes empty) := by
  induction changes using List.reverseRecOn with
  | nil => exact ⟨counted_empty, ordered_empty, labelled_empty⟩
  | append_singleton changes last ih =>
    rcases ih with ⟨hcounted, hordered, hlabelled⟩
    rw [applyAll_concat]
    exact ⟨counted_apply last hcounted, ordered_apply last hcounted hordered,
      labelled_apply last hcounted hlabelled⟩

theorem sequence_le_apply (change : Change H) (bus : Bus H) :
    bus.sequence ≤ (change.apply bus).sequence := by
  cases change with
  | install name handler? priority =>
    rcases install_cases bus name handler? priority with
      ⟨-, hsequence, -⟩ | ⟨handler, number, -, -, -, hsequence, -⟩
    · exact hsequence
    · rw [Change.apply, hsequence]
      exact Nat.le_succ _
  | uninstall name chosen => exact Nat.le_refl _
  | enqueue m => exact Nat.le_refl _
  | dequeue => exact Nat.le_refl _

theorem sequence_le_applyAll (changes : List (Change H)) (bus : Bus H) :
    bus.sequence ≤ (applyAll changes bus).sequence := by
  induction changes generalizing bus with
  | nil => exact Nat.le_refl _
  | cons change rest ih => exact (sequence_le_apply change bus).trans (ih (change.apply bus))

/-- An installation takes a number from the counter. -/
theorem Change.Installs.sequence_eq {bus : Bus H} {change : Change H} {s : Subscription H}
    (h : change.Installs bus s) : (change.apply bus).sequence = s.sequence := by
  rcases h with ⟨priority, rfl, hfault, -, hsequence⟩
  rcases install_cases bus s.name (some s.handler) priority with
    ⟨hsome, -, -⟩ | ⟨handler, number, -, -, -, hnext, -⟩
  · rw [hfault] at hsome
    cases hsome
  · rw [apply, hnext, hsequence]

/-! ## One change and a history of changes -/

theorem mem_handlers_apply {bus : Bus H} (hlabelled : Labelled bus) {change : Change H}
    (hnoted : change.IsNoted) (name : String) (s : Subscription H) :
    s ∈ (change.apply bus).handlers name ↔
      (s.name = name ∧ change.Installs bus s) ∨ (s ∈ bus.handlers name ∧ ¬ change.Removes s) := by
  cases change with
  | install other handler? priority =>
    have hstays : ¬ (Change.install other handler? priority).Removes s := by
      simp [Change.Removes]
    rcases install_cases bus other handler? priority with
      ⟨hfault, -, hhandlers⟩ | ⟨handler, number, rfl, hnumber, hfault, -, hhandlers⟩
    · -- a refused installation puts nothing on the bus
      have hnothing : ¬ (Change.install other handler? priority).Installs bus s := by
        rintro ⟨priority', hchange, hnone, -⟩
        cases hchange
        rw [hnone] at hfault
        cases hfault
      rw [Change.apply, hhandlers]
      simp [hnothing, hstays]
    · have hnone : (bus.install other (some handler) priority).1 = none := by
        rw [hfault]
        exact hnoted number hnumber
      have hinstalls : (Change.install other (some handler) priority).Installs bus s ↔
          s = ⟨number, bus.sequence + 1, other, handler⟩ := by
        constructor
        · rintro ⟨priority', hchange, -, hpriority, hsequence⟩
          cases hchange
          rw [hnumber, Except.ok.injEq] at hpriority
          rw [hpriority, ← hsequence]
        · rintro rfl
          exact ⟨priority, rfl, hnone, hnumber, rfl⟩
      rw [Change.apply, hhandlers, hinstalls]
      by_cases hname : name = other
      · rw [if_pos hname, Subscription.mem_insert, hname]
        constructor
        · rintro (rfl | hold)
          · exact .inl ⟨rfl, rfl⟩
          · exact .inr ⟨hold, hstays⟩
        · rintro (⟨-, rfl⟩ | ⟨hold, -⟩)
          · exact .inl rfl
          · exact .inr hold
      · rw [if_neg hname]
        constructor
        · exact fun hold => .inr ⟨hold, hstays⟩
        · rintro (⟨hself, rfl⟩ | ⟨hold, -⟩)
          · exact absurd hself.symm hname
          · exact hold
  | uninstall other chosen =>
    have hnothing : ¬ (Change.uninstall other chosen).Installs bus s := by
      simp [Change.Installs]
    rw [Change.apply, handlers_uninstall]
    by_cases hname : name = other
    · rw [if_pos hname, List.mem_filter, hname]
      constructor
      · rintro ⟨hold, hkept⟩
        refine .inr ⟨hold, ?_⟩
        rintro ⟨chosen', hchange, hchosen⟩
        cases hchange
        simp [hchosen] at hkept
      · rintro (⟨-, hinstalls⟩ | ⟨hold, hkept⟩)
        · exact absurd hinstalls hnothing
        · -- a subscription is kept under its own name, so the removal would concern it
          have hself := hlabelled.named other s hold
          have hchosen : ¬ chosen s.handler = true :=
            fun hchosen => hkept ⟨chosen, by rw [hself], hchosen⟩
          exact ⟨hold, by simpa using hchosen⟩
    · rw [if_neg hname]
      constructor
      · intro hold
        refine .inr ⟨hold, ?_⟩
        rintro ⟨chosen', hchange, -⟩
        cases hchange
        exact hname (hlabelled.named name s hold).symm
      · rintro (⟨-, hinstalls⟩ | ⟨hold, -⟩)
        · exact absurd hinstalls hnothing
        · exact hold
  | enqueue m => simp [Change.Installs, Change.Removes, Change.apply, enqueue, handlers]
  | dequeue => simp [Change.Installs, Change.Removes, Change.apply, handlers]

theorem mem_handlers_applyAll {changes : List (Change H)}
    (hnoted : ∀ change ∈ changes, change.IsNoted) (name : String) (s : Subscription H) :
    s ∈ (applyAll changes empty).handlers name ↔ s.name = name ∧ IsLive changes s := by
  induction changes using List.reverseRecOn with
  | nil =>
    constructor
    · intro hs
      simp [applyAll, handlers, empty, Entries.get?] at hs
    · rintro ⟨-, before, change, after, hsplit, -⟩
      simp at hsplit
  | append_singleton changes last ih =>
    -- the history before its last change left the live installations
    have hbefore := ih fun change hchange => hnoted change (by simp [hchange])
    have hlabelled := (invariants_applyAll changes).2.2
    rw [applyAll_concat, mem_handlers_apply hlabelled (hnoted last (by simp)), hbefore,
      isLive_concat]
    tauto

theorem fst_uninstall (bus : Bus H) (name : String) (chosen : H → Bool) :
    (bus.uninstall name chosen).1 = (bus.handlers name).countP fun s => chosen s.handler := by
  have hlength := List.length_eq_countP_add_countP (fun s => chosen s.handler)
    (l := bus.handlers name)
  have hkept : (bus.handlers name).countP (fun s => ! chosen s.handler) =
      ((bus.handlers name).filter fun s => ! chosen s.handler).length :=
    List.countP_eq_length_filter
  simp only [Bool.not_eq_true, Bool.decide_eq_false] at hlength
  simp only [uninstall]
  omega

/-- The subscriptions of a name are the installations of that name that succeeded and that no later
removal concerns, in the order of priority and number. No two of a bus have one number, and numbers
grow from one installation to the next. A removal tells how many it takes away, leaves the others of
its name in their order, and touches no other name. -/
theorem handlers_are_live_installs {changes : List (Change H)}
    (hnoted : ∀ change ∈ changes, change.IsNoted) :
    (∀ name s, s ∈ (applyAll changes empty).handlers name ↔ s.name = name ∧ IsLive changes s) ∧
    (∀ name, ((applyAll changes empty).handlers name).Pairwise fun a b =>
      a.priority < b.priority ∨ a.priority = b.priority ∧ a.sequence < b.sequence) ∧
    (∀ s s', IsLive changes s → IsLive changes s' → s.sequence = s'.sequence → s = s') ∧
    (∀ before earlier between later after s s',
      changes = before ++ earlier :: between ++ later :: after →
      earlier.Installs (applyAll before empty) s →
      later.Installs (applyAll (before ++ earlier :: between) empty) s' →
      s.sequence < s'.sequence) ∧
    ∀ name chosen,
      ((applyAll changes empty).uninstall name chosen).1 =
        ((applyAll changes empty).handlers name).countP (fun s => chosen s.handler) ∧
      ∀ other, ((applyAll changes empty).uninstall name chosen).2.handlers other =
        if other = name then
          ((applyAll changes empty).handlers name).filter fun s => !chosen s.handler
        else (applyAll changes empty).handlers other := by
  have hlive := mem_handlers_applyAll hnoted
  rcases invariants_applyAll changes with ⟨-, hordered, hlabelled⟩
  refine ⟨hlive, ?_, ?_, ?_, ?_⟩
  · intro name
    exact (hordered name).imp fun hprecedes => (Subscription.precedes_iff _ _).1 hprecedes
  · intro s s' hs hs' hnumber
    have hmem := (hlive s.name s).2 ⟨rfl, hs⟩
    have hmem' := (hlive s'.name s').2 ⟨rfl, hs'⟩
    exact hlabelled.numbered s.name s hmem s'.name s' hmem' hnumber
  · intro before earlier between later after s s' _ hearlier hlater
    -- between the two the counter only grows
    have hgrows := sequence_le_applyAll between (earlier.apply (applyAll before empty))
    have hsplit : applyAll between (earlier.apply (applyAll before empty)) =
        applyAll (before ++ earlier :: between) empty := by
      rw [applyAll_append]
      rfl
    rcases hlater with ⟨priority, -, -, -, hnext⟩
    calc
      s.sequence = (earlier.apply (applyAll before empty)).sequence := hearlier.sequence_eq.symm
      _ ≤ (applyAll (before ++ earlier :: between) empty).sequence := hsplit ▸ hgrows
      _ < s'.sequence := by rw [hnext]; exact Nat.lt_succ_self _
  · intro name chosen
    exact ⟨fst_uninstall _ name chosen,
      fun other => handlers_uninstall (applyAll changes empty) name other chosen⟩

/-- Installations at equal and at other priorities, of which one is refused and two are removed. -/
def mixedHistory : List (Change String) :=
  [.install "m" (some "a") (.int 5), .install "m" (some "b") (.text "3"),
    .install "n" (some "b") (.int 1), .install "m" (some "c") (.text "x"),
    .install "m" none (.int 2), .install "m" (some "a") (.int 4),
    .uninstall "m" fun handler => handler == "b", .install "m" (some "b") (.int 5),
    .uninstall "n" fun _ => true, .install "m" (some "a") (.bool true)]

theorem mixed_history_is_live :
    (∀ change ∈ mixedHistory, change.IsNoted) ∧
    ((applyAll mixedHistory empty).handlers "m").map (fun s => (s.sequence, s.handler)) =
      [(7, "a"), (5, "a"), (1, "a"), (6, "b")] ∧
    IsLive mixedHistory ⟨5, 6, "m", "b"⟩ ∧ ¬ IsLive mixedHistory ⟨3, 2, "m", "b"⟩ := by
  have hnoted : ∀ change ∈ mixedHistory, change.IsNoted := by
    have hshort : ∀ n : Int, n ∈ [5, 1, 4] → noteFault? (.int n) = none := by decide +kernel
    have htext : ∀ text : String, noteFault? (.text text) = none := fun _ => rfl
    have hbool : ∀ b : Bool, noteFault? (.bool b) = none := fun _ => rfl
    simp [mixedHistory, Change.IsNoted, hshort, htext, hbool]
  have hlive := (handlers_are_live_installs hnoted).1
  have hhandlers : ((applyAll mixedHistory empty).handlers "m").map
      (fun s => (s.sequence, s.handler)) = [(7, "a"), (5, "a"), (1, "a"), (6, "b")] := by
    decide +kernel
  have hlast : ((applyAll mixedHistory empty).handlers "m")[3]? = some ⟨5, 6, "m", "b"⟩ := by rfl
  refine ⟨hnoted, hhandlers, ((hlive "m" _).1 (List.mem_of_getElem? hlast)).2, ?_⟩
  intro hremoved
  have hmem := List.mem_map_of_mem (f := fun s => (s.sequence, s.handler))
    ((hlive "m" _).2 ⟨rfl, hremoved⟩)
  rw [hhandlers] at hmem
  simp at hmem

/-- With a priority that cannot be written a subscription is on the bus whose installation
failed. -/
theorem long_priority_stays_installed :
    ¬ ∀ (changes : List (Change Unit)) (name : String) (s : Subscription Unit),
      s ∈ (applyAll changes empty).handlers name ↔ s.name = name ∧ IsLive changes s := by
  intro hlive
  have hlong : noteFault? (.int (10 ^ 4300)) = some (.tooManyDigits none) := by
    have hwritable : (Value.int (10 ^ 4300)).isWritable = false := by
      rw [← Bool.not_eq_true, Value.isWritable_int]
      decide +kernel
    rw [noteFault?, hwritable]
    rfl
  -- the subscription is in place whether the note can be written or not
  have hmem : ∀ n : Int, (⟨n, 1, "m", ()⟩ : Subscription Unit) ∈
      (applyAll [Change.install "m" (some ()) (.int n)] empty).handlers "m" :=
    fun n => List.mem_singleton.2 rfl
  have hfault : ∀ (bus : Bus Unit) (n : Int),
      (bus.install "m" (some ()) (.int n)).1 = noteFault? (.int n) := fun bus n => rfl
  rcases ((hlive _ _ _).1 (hmem (10 ^ 4300))).2 with
    ⟨before, change, after, hsplit, ⟨priority, rfl, hnone, -⟩, -⟩
  -- the only installation of the history is the one that fails
  have honly : Change.install "m" (some ()) priority ∈
      [Change.install "m" (some ()) (.int (10 ^ 4300))] := by
    rw [hsplit]
    exact List.mem_append_right _ List.mem_cons_self
  rcases Change.install.inj (List.mem_singleton.1 honly) with ⟨-, -, rfl⟩
  have hnone' := (hfault _ _).symm.trans hnone
  rw [hlong] at hnone'
  cases hnone'

end Bus
end Switchboard
