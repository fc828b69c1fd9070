import Switchboard.Value.Basic

/-!
# Entries

Names with contents, each name once, in the order in which the names were first set. Setting a
name again keeps its place. The fields of a message are entries of values.
-/

namespace Switchboard

/-- Names with contents, each name once, in the order of first setting. -/
abbrev Entries (α : Type) := List (String × α)

abbrev Fields := Entries Value

namespace Entries

variable {α β : Type}

def get? (key : String) : Entries α → Option α
  | [] => none
  | (k, v) :: rest => if k = key then some v else get? key rest

/-- Sets a name: an existing one keeps its place, a new one goes to the end. -/
def set (key : String) (content : α) : Entries α → Entries α
  | [] => [(key, content)]
  | (k, v) :: rest => if k = key then (k, content) :: rest else (k, v) :: set key content rest

def has (key : String) (entries : Entries α) : Bool :=
  (get? key entries).isSome

def keys (entries : Entries α) : List String :=
  entries.map (·.1)

def setAll (pairs : List (String × α)) (entries : Entries α) : Entries α :=
  pairs.foldl (fun entries pair => set pair.1 pair.2 entries) entries

/-- The entries of a list of pairs; of pairs with one name the last content counts. -/
def ofPairs (pairs : List (String × α)) : Entries α :=
  setAll pairs []

def erase (key : String) (entries : Entries α) : Entries α :=
  entries.filter fun (k, _) => k != key

def toValue (fields : Fields) : Value :=
  .dict (fields.map fun (k, v) => (.text k, v))

theorem get?_set_self (key : String) (content : α) (entries : Entries α) :
    get? key (set key content entries) = some content := by
  induction entries with
  | nil => simp [set, get?]
  | cons pair rest ih =>
    obtain ⟨k, v⟩ := pair
    by_cases h : k = key <;> simp [set, get?, h, ih]

theorem get?_set_of_ne {key other : String} (h : other ≠ key) (content : α)
    (entries : Entries α) : get? other (set key content entries) = get? other entries := by
  induction entries with
  | nil => simp [set, get?, Ne.symm h]
  | cons pair rest ih =>
    obtain ⟨k, v⟩ := pair
    by_cases hk : k = key
    · subst hk
      simp [set, get?, Ne.symm h]
    · rw [set, if_neg hk]
      by_cases ho : k = other
      · simp [get?, ho]
      · simp [get?, ho, ih]

/-- Setting a name keeps the names before it and adds at most one at the end. -/
theorem keys_set (key : String) (content : α) (entries : Entries α) :
    keys (set key content entries) =
      if key ∈ keys entries then keys entries else keys entries ++ [key] := by
  induction entries with
  | nil => simp [set, keys]
  | cons pair rest ih =>
    obtain ⟨k, v⟩ := pair
    by_cases h : k = key
    · subst h
      simp [set, keys]
    · have hk : ¬ key = k := fun e => h e.symm
      simp only [set, if_neg h, keys, List.map_cons, List.mem_cons, hk, false_or] at ih ⊢
      rw [ih]
      split <;> simp_all

end Entries
end Switchboard
