import Mathlib.Data.List.Sort
import Switchboard.Proofs.Bus.Changes

/-!
# The order of delivery

The subscriptions of a name are kept by priority and, within a priority, by number (`Ordered`). A
new subscription has the greatest number of all, so it goes behind those of its priority. What else
is installed for the name does not matter for that: among the subscriptions of one kind an
installation is an insertion into these alone (`Subscription.filter_insert_of_pos`).

Elements that come in one after the other and go behind their equals make up the sorted list of
these elements (`insertionSort_concat`), in which equals keep their order (`filter_insertionSort`).
-/

namespace Switchboard

/-! ## Sorting from the front and from the back -/

section Sorting

variable {α β : Type} [LinearOrder β] (key : α → β)

/-- Inserts an element behind those whose keys are not greater. -/
def insertBehind (a : α) : List α → List α
  | [] => [a]
  | b :: rest => if key a < key b then a :: b :: rest else b :: insertBehind a rest

theorem orderedInsert_insertBehind (a b : α) (l : List α) :
    (insertBehind key a l).orderedInsert (fun x y => key x ≤ key y) b =
      insertBehind key a (l.orderedInsert (fun x y => key x ≤ key y) b) := by
  induction l with
  | nil =>
    by_cases hba : key b ≤ key a
    · simp [insertBehind, hba]
    · simp [insertBehind, hba, lt_of_not_ge hba]
  | cons c rest ih =>
    -- `b` goes before the first that is not less, and `a` before the first that is greater
    by_cases hac : key a < key c
    · by_cases hbc : key b ≤ key c
      · by_cases hba : key b ≤ key a
        · simp [insertBehind, hac, hbc, hba, not_lt_of_ge hba]
        · simp [insertBehind, hac, hbc, hba, lt_of_not_ge hba]
      · have hba : ¬ key b ≤ key a := fun h => hbc (h.trans hac.le)
        simp [insertBehind, hac, hbc, hba]
    · by_cases hbc : key b ≤ key c
      · have hba : ¬ key a < key b := fun h => hac (h.trans_le hbc)
        simp [insertBehind, hac, hbc, hba]
      · simp [insertBehind, hac, hbc, ih]

/-- Sorting a list with one more element at its end is inserting that element behind its equals. -/
theorem insertionSort_concat (l : List α) (a : α) :
    (l ++ [a]).insertionSort (fun x y => key x ≤ key y) =
      insertBehind key a (l.insertionSort fun x y => key x ≤ key y) := by
  induction l with
  | nil => simp [insertBehind]
  | cons b rest ih =>
    rw [List.cons_append, List.insertionSort_cons, ih, orderedInsert_insertBehind,
      List.insertionSort_cons]

theorem filter_orderedInsert (k : β) (a : α) (l : List α) :
    (l.orderedInsert (fun x y => key x ≤ key y) a).filter (fun a => key a = k) =
      (a :: l).filter fun a => key a = k := by
  induction l with
  | nil => rfl
  | cons b rest ih =>
    by_cases hab : key a ≤ key b
    · rw [List.orderedInsert_cons_of_le _ rest hab]
    · rw [List.orderedInsert_cons, if_neg hab, List.filter_cons, ih]
      -- what the element goes behind has another key
      by_cases ha : key a = k
      · have hb : key b ≠ k := fun hb => hab (ha.trans hb.symm).le
        simp [ha, hb]
      · simp [ha, List.filter_cons]

/-- Sorting leaves the elements of one key in their order. -/
theorem filter_insertionSort (k : β) (l : List α) :
    (l.insertionSort fun x y => key x ≤ key y).filter (fun a => key a = k) =
      l.filter fun a => key a = k := by
  induction l with
  | nil => rfl
  | cons a rest ih =>
    rw [List.insertionSort_cons, filter_orderedInsert, List.filter_cons, List.filter_cons, ih]

end Sorting

/-! ## Subscriptions in order -/

namespace Subscription

variable {H : Type}

theorem precedes_iff (a b : Subscription H) :
    a.precedes b = true ↔
      a.priority < b.priority ∨ a.priority = b.priority ∧ a.sequence < b.sequence := by
  simp [precedes]

theorem precedes_trans {a b c : Subscription H} (hab : a.precedes b = true)
    (hbc : b.precedes c = true) : a.precedes c = true := by
  rw [precedes_iff] at hab hbc ⊢
  omega

/-- Of two subscriptions the one with the lower number comes first, unless it has the greater
priority. -/
theorem precedes_of_sequence_lt {s t : Subscription H} (h : t.sequence < s.sequence) :
    (s.precedes t = true ↔ s.priority < t.priority) ∧
      (s.precedes t = false → t.precedes s = true) := by
  refine ⟨?_, ?_⟩
  · rw [precedes_iff]
    omega
  · intro hnot
    have hpriority : ¬ (s.priority < t.priority ∨
        s.priority = t.priority ∧ s.sequence < t.sequence) := by
      rw [← precedes_iff, hnot]
      simp
    rw [precedes_iff]
    omega

/-- A list in which each subscription comes before all behind it. -/
def Ordered (subs : List (Subscription H)) : Prop :=
  subs.Pairwise fun a b => a.precedes b = true

theorem ordered_insert {s : Subscription H} {subs : List (Subscription H)} (h : Ordered subs)
    (hs : ∀ t ∈ subs, t.sequence < s.sequence) : Ordered (s.insert subs) := by
  induction subs with
  | nil => simp [Ordered, insert]
  | cons first rest ih =>
    rcases List.pairwise_cons.1 h with ⟨hfirst, hrest⟩
    have hnumber := hs first List.mem_cons_self
    cases hprecedes : s.precedes first with
    | true =>
      -- what comes behind the first comes behind the new one
      have hall : ∀ t ∈ first :: rest, s.precedes t = true := by
        intro t ht
        rcases List.mem_cons.1 ht with rfl | ht
        · exact hprecedes
        · exact precedes_trans hprecedes (hfirst t ht)
      rw [insert, if_pos hprecedes]
      exact List.pairwise_cons.2 ⟨hall, h⟩
    | false =>
      have hinsert : s.insert (first :: rest) = first :: s.insert rest := by
        simp [insert, hprecedes]
      have hbefore := (precedes_of_sequence_lt hnumber).2 hprecedes
      rw [hinsert]
      refine List.pairwise_cons.2 ⟨?_, ih hrest fun t ht => hs t (List.mem_cons_of_mem _ ht)⟩
      intro t ht
      rcases mem_insert.1 ht with rfl | ht
      · exact hbefore
      · exact hfirst t ht

/-- An insertion puts a subscription where it would come among those of its kind alone. -/
theorem filter_insert_of_pos {p : Subscription H → Bool} {s : Subscription H}
    {subs : List (Subscription H)} (hp : p s = true) (h : Ordered subs) :
    (s.insert subs).filter p = s.insert (subs.filter p) := by
  induction subs with
  | nil => simp [insert, hp]
  | cons first rest ih =>
    rcases List.pairwise_cons.1 h with ⟨hfirst, hrest⟩
    cases hprecedes : s.precedes first with
    | true =>
      have hhead : ∀ l : List (Subscription H), (∀ t ∈ l, s.precedes t = true) →
          s.insert l = s :: l := by
        intro l hl
        cases l with
        | nil => rfl
        | cons t l => rw [insert, if_pos (hl t List.mem_cons_self)]
      -- it comes before all of the list, and so before all of its kind
      have hall : ∀ t ∈ (first :: rest).filter p, s.precedes t = true := by
        intro t ht
        rcases List.mem_cons.1 (List.mem_filter.1 ht).1 with rfl | ht
        · exact hprecedes
        · exact precedes_trans hprecedes (hfirst t ht)
      rw [hhead _ hall, insert, if_pos hprecedes, List.filter_cons_of_pos hp]
    | false =>
      have hinsert : s.insert (first :: rest) = first :: s.insert rest := by
        simp [insert, hprecedes]
      rw [hinsert]
      cases hkind : p first with
      | true =>
        rw [List.filter_cons_of_pos hkind, List.filter_cons_of_pos hkind, ih hrest]
        simp [insert, hprecedes]
      | false =>
        rw [List.filter_cons_of_neg (by simp [hkind]), List.filter_cons_of_neg (by simp [hkind]),
          ih hrest]

end Subscription

namespace Bus

variable {H : Type}

/-- The subscriptions of every name are in the order of delivery. -/
def Ordered (bus : Bus H) : Prop :=
  ∀ name, Subscription.Ordered (bus.handlers name)

theorem ordered_empty : Ordered (Bus.empty : Bus H) := by
  intro name
  simp [handlers, empty, Entries.get?, Subscription.Ordered]

theorem ordered_apply (change : Change H) {bus : Bus H} (hcounted : Counted bus)
    (h : Ordered bus) : Ordered (change.apply bus) := by
  intro other
  cases change with
  | install name handler? priority =>
    rcases install_cases bus name handler? priority with
      ⟨-, -, hhandlers⟩ | ⟨handler, number, -, -, -, -, hhandlers⟩
    · rw [Change.apply, hhandlers]
      exact h other
    · rw [Change.apply, hhandlers]
      by_cases hother : other = name
      · simp only [hother, if_true]
        exact Subscription.ordered_insert (h name)
          fun t ht => Nat.lt_succ_of_le (hcounted name t ht)
      · simp only [hother, if_false]
        exact h other
  | uninstall name chosen =>
    rw [Change.apply, handlers_uninstall]
    by_cases hother : other = name
    · simp only [hother, if_true]
      exact (h name).filter _
    · simp only [hother, if_false]
      exact h other
  | enqueue m => exact h other
  | dequeue => exact h other

/-- An evolution keeps the subscriptions counted and in order. -/
theorem Evolves.ordered {allowed : Change H → Prop} {a b : Bus H} (h : Evolves allowed a b)
    (hcounted : Counted a) (ha : Ordered a) : Ordered b := by
  have hboth : Counted b ∧ Ordered b :=
    h.invariant (P := fun bus => Counted bus ∧ Ordered bus)
      (fun change _ _ hbus => ⟨counted_apply change hbus.1, ordered_apply change hbus.1 hbus.2⟩)
      ⟨hcounted, ha⟩
  exact hboth.2

end Bus
end Switchboard
