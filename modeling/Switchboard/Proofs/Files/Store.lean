import Switchboard.Files
import Switchboard.Proofs.Text.Utf8

/-!
# Files that are written

A file that is written is the file that is read at its path from then on
(`FileStore.readBytes_of_writeBytes`), and its text is read as it was written unless it has carriage
returns (`FileStore.readText_of_writeBytes`). A path goes through directories alone, and a file is
never written where one is: so the path leads to the same place before and after.
-/

namespace Switchboard
namespace FileStore

open Text

variable {store : FileStore} {parts here : List (List Char)} {node : FileNode}

/-! ## Setting what is at a place -/

/-- The entry of a place with a new node; every other entry stays. -/
def replaced (parts : List (List Char)) (node : FileNode) :
    List (List Char) × FileNode → List (List Char) × FileNode :=
  fun (k, old) => if k = parts then (k, node) else (k, old)

theorem find?_map_replaced_self (hany : store.any (·.1 == parts) = true) :
    (store.map (replaced parts node)).find? (·.1 == parts) = some (parts, node) := by
  induction store with
  | nil => cases hany
  | cons entry rest ih =>
    rcases entry with ⟨k, old⟩
    by_cases hk : k = parts
    · simp [replaced, hk]
    · have hrest : rest.any (·.1 == parts) = true := by simpa [hk] using hany
      simpa [replaced, hk] using ih hrest

theorem find?_map_replaced_of_ne (h : here ≠ parts) :
    (store.map (replaced parts node)).find? (·.1 == here) = store.find? (·.1 == here) := by
  induction store with
  | nil => rfl
  | cons entry rest ih =>
    rcases entry with ⟨k, old⟩
    by_cases hk : k = parts
    · have hother : (k == here) = false := beq_eq_false_iff_ne.2 (hk ▸ Ne.symm h)
      simpa [replaced, hk, List.find?_cons, hk ▸ hother] using ih
    · simp [replaced, hk, List.find?_cons, ih]

theorem find?_setNode_self (store : FileStore) (parts : List (List Char)) (node : FileNode) :
    (store.setNode parts node).find? (·.1 == parts) = some (parts, node) := by
  unfold setNode
  split
  case isTrue hany => exact find?_map_replaced_self hany
  case isFalse hnone =>
    have hmiss : store.find? (·.1 == parts) = none := by
      rw [List.find?_eq_none]
      exact fun entry hentry hsame => hnone (List.any_eq_true.2 ⟨entry, hentry, hsame⟩)
    simp [List.find?_append, hmiss]

theorem find?_setNode_of_ne (h : here ≠ parts) :
    (store.setNode parts node).find? (·.1 == here) = store.find? (·.1 == here) := by
  have hother : (parts == here) = false := beq_eq_false_iff_ne.2 (Ne.symm h)
  unfold setNode
  split
  case isTrue => exact find?_map_replaced_of_ne h
  case isFalse => simp [List.find?_append, hother]

theorem nodeAt?_setNode_self (h : parts ≠ []) :
    (store.setNode parts node).nodeAt? parts = some node := by
  rw [nodeAt?, if_neg (by simpa using h), find?_setNode_self]

theorem nodeAt?_setNode_of_ne (h : here ≠ parts) :
    (store.setNode parts node).nodeAt? here = store.nodeAt? here := by
  rw [nodeAt?, nodeAt?, find?_setNode_of_ne h]

/-! ## Following a path -/

/-- Outside of the working directory no path leads back into it. -/
theorem follow_above (store : FileStore) (path : List (List Char)) {place : Place}
    (h : store.follow .above path = .ok place) : place = .above := by
  induction path with
  | nil => cases h; rfl
  | cons part rest ih =>
    rw [follow] at h
    split at h
    · exact ih h
    · cases h

/-- There is a directory, in which names can be looked up. -/
def Leads (store : FileStore) (parts : List (List Char)) : Prop :=
  ∃ name, lookupFlaw? name (store.nodeAt? parts) = none

/-- A path that leads to a place leads there still when something is put at it, unless it was a
directory. -/
theorem follow_setNode (hnode : ¬ store.Leads parts) {place : Place}
    {path : List (List Char)} (h : store.follow place path = .ok (.inside parts)) :
    (store.setNode parts node).follow place path = .ok (.inside parts) := by
  induction path generalizing place with
  | nil => exact h
  | cons part rest ih =>
    cases place with
    | above => cases follow_above store _ h
    | inside here =>
      rw [follow] at h ⊢
      cases hflaw : lookupFlaw? part (store.nodeAt? here) with
      | some flaw => simp [hflaw] at h
      | none =>
        -- a directory is not where the change is
        have hne : here ≠ parts := by
          rintro rfl
          exact hnode ⟨part, hflaw⟩
        simp only [hflaw] at h
        simp only [nodeAt?_setNode_of_ne hne, hflaw]
        split
        case isTrue hdots =>
          rw [if_pos hdots] at h
          exact ih h
        case isFalse hdots =>
          rw [if_neg hdots] at h
          exact ih h

theorem place_eq_ok_iff {p : Path} {place : Place} :
    store.place p = .ok place ↔
      p.hasNull = false ∧ (encode p.text).length ≤ pathLimit ∧
        store.follow (store.startOf p) p.parts = .ok place := by
  unfold FileStore.place
  cases p.hasNull with
  | true => simp
  | false =>
    simp only [Bool.false_eq_true, if_false, true_and]
    split
    case isTrue hlong => simp [Nat.not_le.2 hlong]
    case isFalse hshort => simp [Nat.not_lt.1 hshort]

/-- The start of a path that leads to a place is the same after a change there. -/
theorem startOf_setNode {p : Path} (h : store.place p = .ok (.inside parts)) :
    (store.setNode parts node).startOf p = store.startOf p := by
  unfold startOf
  split
  case isTrue => rfl
  case isFalse hroot =>
    by_cases hparts : rootParts = parts
    · -- the root is there: else the path would lead out of the working directory
      have hthere : (store.nodeAt? rootParts).isSome = true := by
        cases hroot' : (store.nodeAt? rootParts).isSome with
        | true => rfl
        | false =>
          have hfollow := (place_eq_ok_iff.1 h).2.2
          simp only [startOf, hroot, hroot', if_false, Bool.false_eq_true] at hfollow
          cases follow_above store _ hfollow
      have hset : ((store.setNode parts node).nodeAt? rootParts).isSome = true := by
        rw [← hparts, nodeAt?_setNode_self (by decide)]
        rfl
      rw [if_pos hthere, if_pos hset]
    · rw [nodeAt?_setNode_of_ne hparts]

theorem place_setNode (hnode : ¬ store.Leads parts) {p : Path}
    (h : store.place p = .ok (.inside parts)) :
    (store.setNode parts node).place p = .ok (.inside parts) := by
  obtain ⟨hnull, hshort, hfollow⟩ := place_eq_ok_iff.1 h
  refine place_eq_ok_iff.2 ⟨hnull, hshort, ?_⟩
  rw [startOf_setNode h]
  exact follow_setNode hnode hfollow

/-! ## Writing and reading -/

/-- What a write does: it puts the bytes where the path leads, if no directory is there. -/
theorem writeBytes_eq_ok {saved : FileStore} {p : Path} {bytes : List UInt8}
    (h : store.writeBytes p bytes = .ok saved) :
    ∃ parts, store.place p = .ok (.inside parts) ∧ ¬ store.Leads parts ∧
      saved = store.setNode parts (.file bytes) := by
  unfold writeBytes at h
  split at h
  case h_1 => cases h
  case h_2 => cases h
  case h_3 parts hplace =>
    split at h
    case h_1 hnode =>
      unfold make at h
      split at h <;> cases h
      exact ⟨parts, hplace, fun ⟨name, hname⟩ => by simp [hnode, lookupFlaw?] at hname, rfl⟩
    case h_2 old hnode =>
      cases h
      exact ⟨parts, hplace, fun ⟨name, hname⟩ => by simp [hnode, lookupFlaw?] at hname, rfl⟩
    case h_3 => cases h
    case h_4 => cases h

/-- A file that is written is read back. -/
theorem readBytes_of_writeBytes {saved : FileStore} {p : Path} {bytes : List UInt8}
    (h : store.writeBytes p bytes = .ok saved) : saved.readBytes p = .ok bytes := by
  obtain ⟨parts, hplace, hnode, rfl⟩ := writeBytes_eq_ok h
  have hparts : parts ≠ [] := by
    rintro rfl
    exact hnode ⟨[], rfl⟩
  rw [readBytes, node, place_setNode hnode hplace]
  simp only [nodeAt?_setNode_self hparts]

theorem unifyLineBreaks_of_not_mem {s : List Char} (h : '\r' ∉ s) : unifyLineBreaks s = s := by
  induction s with
  | nil => rfl
  | cons c rest ih =>
    have hc : c ≠ '\r' := fun hc => h (hc ▸ List.mem_cons_self)
    rw [unifyLineBreaks, ih fun hrest => h (List.mem_cons_of_mem c hrest)]
    · rintro tail rfl -
      exact hc rfl
    · exact hc

/-- A text without carriage returns is read back. -/
theorem readText_of_writeBytes {saved : FileStore} {p : Path} {s : List Char} (hs : '\r' ∉ s)
    (h : store.writeBytes p (encode s) = .ok saved) : saved.readText p = .ok s := by
  rw [readText, readBytes_of_writeBytes h]
  simp only [decode_encode, unifyLineBreaks_of_not_mem hs]

/-! ## Reading by place -/

theorem node_congr {p q : Path} (h : store.place p = store.place q) :
    store.node p = store.node q := by
  rw [node, h, node]

/-- What is read at a path is what is read at any path to the same place. -/
theorem readText_congr {p q : Path} (h : store.place p = store.place q) :
    store.readText p = store.readText q := by
  rw [readText, readText, readBytes, readBytes, node_congr h]

theorem has_of_readText {p : Path} {s : List Char} (h : store.readText p = .ok s) :
    store.has p = .ok true := by
  unfold has
  cases hnode : store.node p with
  | ok found => rfl
  | error flaw => simp [readText, readBytes, hnode] at h

/-! ## Making directories -/

end FileStore
end Switchboard
