import Mathlib.Data.List.Induction
import Switchboard.Entries

/-!
# Entries from pairs

Of pairs with one name the first says where the name stands and the last what it holds
(`Entries.keys_ofPairs`, `Entries.get?_ofPairs`), and putting pairs into entries one by one is
the same as making entries of them first (`Entries.setAll_ofPairs`). Pairs with names of their own
are their own entries (`Entries.ofPairs_of_nodup`).
-/

namespace Switchboard
namespace Entries

variable {α : Type}

/-! ## Names and contents -/

theorem set_append_of_not_mem {key : String} {entries : Entries α} (h : key ∉ entries.keys)
    (content : α) (more : Entries α) :
    (entries ++ more).set key content = entries ++ more.set key content := by
  induction entries with
  | nil => rfl
  | cons entry rest ih =>
    rcases entry with ⟨k, v⟩
    rw [keys, List.map_cons, List.mem_cons, not_or] at h
    rw [List.cons_append, set, if_neg (Ne.symm h.1), ih h.2, List.cons_append]

theorem get?_append_of_not_mem {key : String} {entries : Entries α} (h : key ∉ entries.keys)
    (more : Entries α) : (entries ++ more).get? key = more.get? key := by
  induction entries with
  | nil => rfl
  | cons entry rest ih =>
    rcases entry with ⟨k, v⟩
    rw [keys, List.map_cons, List.mem_cons, not_or] at h
    rw [List.cons_append, get?, if_neg (Ne.symm h.1), ih h.2]

theorem get?_of_mem {entries : Entries α} (hnodup : entries.keys.Nodup) {key : String}
    {content : α} (h : (key, content) ∈ entries) : entries.get? key = some content := by
  induction entries with
  | nil => cases h
  | cons entry rest ih =>
    rcases entry with ⟨k, v⟩
    rw [keys, List.map_cons, List.nodup_cons] at hnodup
    rcases List.mem_cons.1 h with heq | hrest
    · cases heq
      rw [get?, if_pos rfl]
    · have hne : k ≠ key := by
        rintro rfl
        exact hnodup.1 (List.mem_map.2 ⟨(k, content), hrest, rfl⟩)
      rw [get?, if_neg hne, ih hnodup.2 hrest]

theorem mem_of_get? {key : String} {content : α} {entries : Entries α}
    (h : entries.get? key = some content) : (key, content) ∈ entries := by
  induction entries with
  | nil => cases h
  | cons entry rest ih =>
    rcases entry with ⟨k, v⟩
    by_cases hk : k = key
    · rw [get?, if_pos hk] at h
      cases h
      rw [hk]
      exact List.mem_cons_self
    · rw [get?, if_neg hk] at h
      exact List.mem_cons_of_mem _ (ih h)

theorem has_eq_true_iff {key : String} {entries : Entries α} :
    entries.has key = true ↔ key ∈ entries.keys := by
  induction entries with
  | nil => simp [has, get?, keys]
  | cons entry rest ih =>
    rcases entry with ⟨k, v⟩
    rw [has] at ih ⊢
    by_cases hk : k = key
    · simp [get?, keys, hk]
    · rw [get?, if_neg hk, ih, keys, keys, List.map_cons, List.mem_cons]
      simp [Ne.symm hk]

theorem get?_eq_none {key : String} {entries : Entries α} (h : key ∉ entries.keys) :
    get? key entries = none := by
  rw [← has_eq_true_iff, has] at h
  simpa using h

theorem get?_erase (key other : String) (entries : Entries α) :
    get? other (erase key entries) =
      if other = key then none else get? other entries := by
  induction entries with
  | nil => simp [erase, get?]
  | cons pair rest ih =>
    rcases pair with ⟨k, v⟩
    by_cases hk : k = key
    · have herase : erase key ((k, v) :: rest) = erase key rest := by
        simp [erase, hk]
      rw [herase, ih]
      by_cases hother : other = key
      · simp [hother]
      · have hne : k ≠ other := fun heq => hother (heq ▸ hk)
        simp [get?, hother, hne]
    · have herase : erase key ((k, v) :: rest) = (k, v) :: erase key rest := by
        simp [erase, hk]
      rw [herase, get?, get?, ih]
      by_cases hother : k = other
      · have hne : other ≠ key := fun heq => hk (hother.trans heq)
        simp [hother, hne]
      · simp [hother]

/-! ## Setting a name -/

theorem set_of_get? {key : String} {content : α} {entries : Entries α}
    (h : get? key entries = some content) : set key content entries = entries := by
  induction entries with
  | nil => cases h
  | cons pair rest ih =>
    rcases pair with ⟨k, v⟩
    by_cases hk : k = key
    · have hv : v = content := by simpa [get?, hk] using h
      rw [set, if_pos hk, hv]
    · rw [get?, if_neg hk] at h
      rw [set, if_neg hk, ih h]

theorem set_of_get?_none {key : String} (content : α) {entries : Entries α}
    (h : get? key entries = none) : set key content entries = entries ++ [(key, content)] := by
  induction entries with
  | nil => rfl
  | cons pair rest ih =>
    rcases pair with ⟨k, v⟩
    by_cases hk : k = key
    · simp [get?, hk] at h
    · rw [get?, if_neg hk] at h
      rw [set, if_neg hk, ih h, List.cons_append]

theorem keys_prefix_set (key : String) (content : α) (entries : Entries α) :
    keys entries <+: keys (set key content entries) := by
  rw [keys_set]
  split
  case isTrue => exact List.prefix_refl _
  case isFalse => exact List.prefix_append _ _

/-! ## Setting pairs -/

theorem setAll_cons (pair : String × α) (pairs : List (String × α)) (entries : Entries α) :
    setAll (pair :: pairs) entries = setAll pairs (set pair.1 pair.2 entries) :=
  rfl

theorem setAll_append (pairs more : List (String × α)) (entries : Entries α) :
    setAll (pairs ++ more) entries = setAll more (setAll pairs entries) :=
  List.foldl_append

/-- The names of the pairs come behind those that are there, each once and when it is first seen. -/
theorem keys_setAll (pairs : List (String × α)) (entries : Entries α) :
    keys (setAll pairs entries) =
      keys entries ++ ((pairs.map (·.1)).filter fun key => key ∉ keys entries).eraseDups := by
  induction pairs generalizing entries with
  | nil => simp [setAll]
  | cons pair rest ih =>
    rw [setAll_cons, ih, keys_set, List.map_cons]
    by_cases hkey : pair.1 ∈ keys entries
    · rw [if_pos hkey, List.filter_cons_of_neg (by simpa using hkey)]
    · -- a new name takes its further occurrences away
      have hrest : ((rest.map (·.1)).filter fun key => key ∉ keys entries ++ [pair.1]) =
          ((rest.map (·.1)).filter fun key => key ∉ keys entries).filter
            fun key => !key == pair.1 := by
        rw [List.filter_filter]
        refine List.filter_congr ?_
        intro key _
        by_cases hsame : key = pair.1 <;> simp [hsame]
      rw [if_neg hkey, List.filter_cons_of_pos (by simpa using hkey), List.eraseDups_cons, hrest,
        List.append_assoc, List.singleton_append]

theorem mem_keys_setAll {pairs : List (String × α)} {entries : Entries α} {name : String}
    (h : name ∈ keys (setAll pairs entries)) :
    name ∈ keys entries ∨ ∃ pair ∈ pairs, pair.1 = name := by
  rw [keys_setAll, List.mem_append, List.mem_eraseDups, List.mem_filter] at h
  exact h.imp_right fun hnew => List.mem_map.1 hnew.1

/-- The last pair of a name says what the name holds. -/
theorem get?_setAll (key : String) (pairs : List (String × α)) (entries : Entries α) :
    get? key (setAll pairs entries) = (pairs.reverse.lookup key).or (get? key entries) := by
  induction pairs generalizing entries with
  | nil => rfl
  | cons pair rest ih =>
    rw [setAll_cons, ih, List.reverse_cons, List.lookup_append, Option.or_assoc]
    by_cases hkey : key = pair.1
    · rw [hkey, get?_set_self, List.lookup_cons_self, Option.some_or]
    · have hother : (key == pair.1) = false := by simpa using hkey
      rw [get?_set_of_ne hkey, List.lookup_cons, hother, List.lookup_nil, Option.none_or]

theorem keys_ofPairs (pairs : List (String × α)) :
    keys (ofPairs pairs) = (pairs.map (·.1)).eraseDups := by
  rw [ofPairs, keys_setAll, List.filter_eq_self.2 (by simp [keys])]
  rfl

theorem get?_ofPairs (key : String) (pairs : List (String × α)) :
    get? key (ofPairs pairs) = pairs.reverse.lookup key := by
  rw [ofPairs, get?_setAll, get?, Option.or_none]

/-! ### Setting a name twice -/

theorem set_set_self (key : String) (first second : α) (entries : Entries α) :
    set key second (set key first entries) = set key second entries := by
  induction entries with
  | nil => simp [set]
  | cons entry rest ih =>
    rcases entry with ⟨k, v⟩
    by_cases hk : k = key
    · simp [set, hk]
    · simp [set, hk, ih]

/-- A name that is there keeps its place, so that another one may be set before or after it. -/
theorem set_comm_of_mem {key other : String} (hne : other ≠ key) {entries : Entries α}
    (hkey : key ∈ keys entries) (content content' : α) :
    set key content (set other content' entries) =
      set other content' (set key content entries) := by
  induction entries with
  | nil => cases hkey
  | cons entry rest ih =>
    rcases entry with ⟨k, v⟩
    rw [keys, List.map_cons, List.mem_cons] at hkey
    by_cases hk : k = key
    · subst hk
      simp [set, Ne.symm hne]
    · have hrest : key ∈ keys rest := hkey.resolve_left (Ne.symm hk)
      by_cases ho : k = other
      · simp [set, ho, hne]
      · simp [set, hk, ho, ih hrest]

theorem set_setAll_of_mem {key : String} {pairs : List (String × α)}
    (hpairs : key ∉ pairs.map (·.1)) {entries : Entries α} (hkey : key ∈ keys entries)
    (content : α) :
    set key content (setAll pairs entries) = setAll pairs (set key content entries) := by
  induction pairs generalizing entries with
  | nil => rfl
  | cons pair rest ih =>
    rw [List.map_cons, List.mem_cons, not_or] at hpairs
    have hkept : key ∈ keys (set pair.1 pair.2 entries) := by
      rw [keys_set]
      split
      · exact hkey
      · exact List.mem_append_left _ hkey
    rw [setAll_cons, ih hpairs.2 hkept, setAll_cons, set_comm_of_mem (Ne.symm hpairs.1) hkey]

/-- Setting a name among pairs with names of their own is setting it behind them. -/
theorem setAll_set {pairs : Entries α} (hnodup : (keys pairs).Nodup) (key : String) (content : α)
    (entries : Entries α) :
    setAll (set key content pairs) entries = set key content (setAll pairs entries) := by
  induction pairs generalizing entries with
  | nil => rfl
  | cons pair rest ih =>
    rcases pair with ⟨k, v⟩
    rw [keys, List.map_cons, List.nodup_cons] at hnodup
    by_cases hk : k = key
    · subst hk
      have hthere : k ∈ keys (set k v entries) := by
        rw [keys_set]
        split
        · assumption
        · exact List.mem_append_right _ List.mem_cons_self
      rw [set, if_pos rfl, setAll_cons, setAll_cons, set_setAll_of_mem hnodup.1 hthere,
        set_set_self]
    · rw [set, if_neg hk, setAll_cons, setAll_cons]
      exact ih hnodup.2 _

theorem nodup_keys_set {entries : Entries α} (h : (keys entries).Nodup) (key : String)
    (content : α) : (keys (set key content entries)).Nodup := by
  rw [keys_set]
  split
  case isTrue => exact h
  case isFalse hkey =>
    rw [List.nodup_append]
    refine ⟨h, by simp, ?_⟩
    intro other hother last hlast heq
    rw [List.mem_singleton.1 hlast] at heq
    exact hkey (heq ▸ hother)

theorem nodup_keys_setAll (pairs : List (String × α)) {entries : Entries α}
    (h : (keys entries).Nodup) : (keys (setAll pairs entries)).Nodup := by
  induction pairs generalizing entries with
  | nil => exact h
  | cons pair rest ih => exact ih (nodup_keys_set h pair.1 pair.2)

/-- Putting pairs into entries is putting in the entries that they make. -/
theorem setAll_ofPairs (pairs : List (String × α)) (entries : Entries α) :
    setAll (ofPairs pairs) entries = setAll pairs entries := by
  -- the last pair is set behind the others on either side
  induction pairs using List.reverseRecOn with
  | nil => rfl
  | append_singleton pairs pair ih =>
    have hlast : ofPairs (pairs ++ [pair]) = set pair.1 pair.2 (ofPairs pairs) :=
      setAll_append pairs [pair] []
    have hnodup : (keys (ofPairs pairs)).Nodup := nodup_keys_setAll pairs List.nodup_nil
    rw [hlast, setAll_set hnodup, ih, setAll_append]
    rfl

/-- Pairs with names of their own come behind what is there as they are. -/
theorem setAll_of_nodup {pairs : List (String × α)} {entries : Entries α}
    (h : (keys (entries ++ pairs)).Nodup) : setAll pairs entries = entries ++ pairs := by
  induction pairs generalizing entries with
  | nil => exact (List.append_nil _).symm
  | cons pair rest ih =>
    rcases pair with ⟨key, content⟩
    have hnew : key ∉ keys entries := by
      rw [keys, List.map_append, List.map_cons] at h
      exact fun hkey => (List.nodup_append.1 h).2.2 key hkey key List.mem_cons_self rfl
    have hset : set key content entries = entries ++ [(key, content)] := by
      have hend := set_append_of_not_mem hnew content []
      rwa [List.append_nil] at hend
    rw [List.append_cons] at h
    rw [setAll_cons, hset, ih h, ← List.append_cons]

theorem ofPairs_of_nodup {pairs : List (String × α)} (h : (keys pairs).Nodup) :
    ofPairs pairs = pairs :=
  setAll_of_nodup h

/-! ### Replacing a content -/

/-- Sets a name that is there; one that is not is not added. -/
def replace (key : String) (content : α) (entries : Entries α) : Entries α :=
  entries.map fun entry => if entry.1 = key then (entry.1, content) else entry

theorem get?_replace (key other : String) (content : α) (entries : Entries α) :
    get? other (replace key content entries) =
      if other = key then (get? other entries).map fun _ => content else get? other entries := by
  induction entries with
  | nil => simp [replace, get?]
  | cons entry rest ih =>
    rcases entry with ⟨k, v⟩
    simp only [replace] at ih
    by_cases hk : k = key
    · subst hk
      by_cases ho : k = other
      · simp [replace, get?, ho]
      · simp [replace, get?, ho, Ne.symm ho, ih]
    · by_cases ho : k = other
      · subst ho
        simp [replace, get?, hk]
      · simp [replace, get?, hk, ho, ih]

/-- Entries with the same names in the same order are told by what is at each of them. -/
theorem ext_get? {entries other : Entries α} (hnodup : (keys entries).Nodup)
    (hkeys : keys entries = keys other) (h : ∀ key, get? key entries = get? key other) :
    entries = other := by
  induction entries generalizing other with
  | nil => exact (List.map_eq_nil_iff.1 hkeys.symm).symm
  | cons entry rest ih =>
    rcases entry with ⟨k, v⟩
    cases other with
    | nil => cases hkeys
    | cons entry' rest' =>
      rcases entry' with ⟨k', v'⟩
      obtain ⟨hk, hrest⟩ : k = k' ∧ keys rest = keys rest' := List.cons.inj hkeys
      subst hk
      have hnodup' := List.nodup_cons.1 hnodup
      have hvalue : v = v' := by
        have hhere := h k
        simp only [get?, if_true] at hhere
        exact Option.some.inj hhere
      have hothers : rest = rest' := by
        refine ih hnodup'.2 hrest fun key => ?_
        by_cases hkey : key = k
        · subst hkey
          rw [get?_eq_none hnodup'.1, get?_eq_none (hrest ▸ hnodup'.1)]
        · have hhere := h key
          simpa [get?, Ne.symm hkey] using hhere
      rw [hvalue, hothers]

end Entries
end Switchboard
