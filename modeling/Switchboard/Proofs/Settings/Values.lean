import Switchboard.Proofs.Entries
import Switchboard.Settings.Basic

/-!
# Values of settings

A setting is told by its section and its name. Setting one sets that one and no other
(`Settings.value?_assignIn`), so of a row of assignments each setting keeps the last of its own
(`Settings.value?_assignAll_of_mem`). Settings that have the same values are the same
(`Settings.ext_value?`).
-/

namespace Switchboard

/-! ## Entries by name -/

namespace EngineSettings

theorem entries_assign (s : EngineSettings) (name : String) (value : Value) :
    (s.assign name value).entries = s.entries.replace name value := by
  unfold assign
  split <;> simp_all [entries, Entries.replace, eq_comm]

theorem entries_injective {s t : EngineSettings} (h : s.entries = t.entries) : s = t := by
  cases s
  cases t
  simpa [entries] using h

end EngineSettings

namespace LogSettings

theorem entries_assign (s : LogSettings) (name : String) (value : Value) :
    (s.assign name value).entries = s.entries.replace name value := by
  unfold assign
  split <;> simp_all [entries, Entries.replace, eq_comm]

theorem entries_injective {s t : LogSettings} (h : s.entries = t.entries) : s = t := by
  cases s
  cases t
  simpa [entries] using h

end LogSettings

namespace Settings

/-- The settings outside of the sections by name. -/
def topEntries (s : Settings) : Entries Value :=
  [("app_name", s.appName), ("version", s.version), ("debug", s.debug)]

theorem topEntries_assign (s : Settings) (name : String) (value : Value) :
    (s.assign name value).topEntries = s.topEntries.replace name value := by
  unfold assign
  split <;> simp_all [topEntries, Entries.replace, eq_comm]

/-- The settings of a section by name, or those outside of the sections. -/
def entriesIn (s : Settings) (sectionName? : Option String) : Entries Value :=
  match sectionName? with
  | none => s.topEntries
  | some "engine" => s.engine.entries
  | some "logging" => s.logging.entries
  | some _ => []

/-- The value of a setting, told by its section and name. -/
def value? (s : Settings) (sectionName? : Option String) (name : String) : Option Value :=
  (s.entriesIn sectionName?).get? name

theorem engine_assign (s : Settings) (name : String) (value : Value) :
    (s.assign name value).engine = s.engine := by
  unfold assign
  split <;> rfl

theorem logging_assign (s : Settings) (name : String) (value : Value) :
    (s.assign name value).logging = s.logging := by
  unfold assign
  split <;> rfl

/-- Setting a setting replaces it where it is and leaves the other sections as they are. -/
theorem entriesIn_assignIn (s : Settings) (sectionName? other : Option String) (name : String)
    (value : Value) :
    (s.assignIn sectionName? name value).entriesIn other =
      if other = sectionName? then (s.entriesIn other).replace name value
      else s.entriesIn other := by
  unfold assignIn
  split
  case h_1 =>
    unfold entriesIn
    split <;> simp [topEntries_assign, engine_assign, logging_assign]
  case h_2 =>
    unfold entriesIn
    split <;> simp_all [EngineSettings.entries_assign, topEntries]
  case h_3 =>
    unfold entriesIn
    split <;> simp_all [LogSettings.entries_assign, topEntries]
  case h_4 sectionName hengine hlogging =>
    have hengine' : "engine" ≠ sectionName := fun h => hengine h.symm
    have hlogging' : "logging" ≠ sectionName := fun h => hlogging h.symm
    unfold entriesIn
    split <;> simp [hengine', hlogging', Entries.replace]

theorem keys_entriesIn (s t : Settings) (sectionName? : Option String) :
    (s.entriesIn sectionName?).keys = (t.entriesIn sectionName?).keys := by
  unfold entriesIn
  split <;> rfl

theorem nodup_keys_entriesIn (s : Settings) (sectionName? : Option String) :
    (s.entriesIn sectionName?).keys.Nodup := by
  rw [keys_entriesIn s standard]
  unfold entriesIn
  split <;> decide

/-- Settings are told by their values and the directory of the settings file. -/
theorem ext_value? {s t : Settings}
    (h : ∀ sectionName? name, s.value? sectionName? name = t.value? sectionName? name)
    (hdirectory : s.directory = t.directory) : s = t := by
  have hentries : ∀ sectionName?, s.entriesIn sectionName? = t.entriesIn sectionName? :=
    fun sectionName? => Entries.ext_get? (nodup_keys_entriesIn s sectionName?)
      (keys_entriesIn s t sectionName?) (h sectionName?)
  have htop : s.topEntries = t.topEntries := hentries none
  have hengine : s.engine = t.engine := EngineSettings.entries_injective (hentries (some "engine"))
  have hlogging : s.logging = t.logging :=
    LogSettings.entries_injective (hentries (some "logging"))
  cases s
  cases t
  simp_all [topEntries]

/-- Whether there is a setting of a name in a section. -/
def IsSetting (sectionName? : Option String) (name : String) : Prop :=
  (standard.value? sectionName? name).isSome = true

theorem value?_eq_none {sectionName? : Option String} {name : String}
    (h : ¬ IsSetting sectionName? name) (s : Settings) : s.value? sectionName? name = none := by
  rw [IsSetting, value?, ← Entries.has, Entries.has_eq_true_iff, keys_entriesIn standard s] at h
  exact Entries.get?_eq_none h

theorem exists_value? {sectionName? : Option String} {name : String}
    (h : IsSetting sectionName? name) (s : Settings) :
    ∃ value, s.value? sectionName? name = some value := by
  rw [IsSetting, value?, ← Entries.has, Entries.has_eq_true_iff, keys_entriesIn standard s,
    ← Entries.has_eq_true_iff] at h
  exact Option.isSome_iff_exists.1 h

/-! ## Assignments -/

/-- Setting a setting sets that one and no other; a name that is none of theirs has no effect. -/
theorem value?_assignIn (s : Settings) (sectionName? other? : Option String) (name other : String)
    (value : Value) :
    (s.assignIn sectionName? name value).value? other? other =
      if other? = sectionName? ∧ other = name then (s.value? other? other).map fun _ => value
      else s.value? other? other := by
  rw [value?, value?, entriesIn_assignIn]
  by_cases hsection : other? = sectionName?
  · rw [if_pos hsection, Entries.get?_replace]
    simp only [hsection, true_and]
  · rw [if_neg hsection, if_neg fun h => hsection h.1]

theorem directory_assignIn (s : Settings) (sectionName? : Option String) (name : String)
    (value : Value) : (s.assignIn sectionName? name value).directory = s.directory := by
  unfold assignIn assign
  split
  · split <;> rfl
  · rfl
  · rfl
  · rfl

/-- A setting, told by its section and name, and the value that it is set to. -/
structure Assignment where
  sectionName? : Option String
  name : String
  value : Value

/-- Sets settings one by one. -/
def assignAll (s : Settings) (assignments : List Assignment) : Settings :=
  assignments.foldl (fun s a => s.assignIn a.sectionName? a.name a.value) s

theorem assignAll_append (s : Settings) (first more : List Assignment) :
    s.assignAll (first ++ more) = (s.assignAll first).assignAll more :=
  List.foldl_append

theorem directory_assignAll (s : Settings) (assignments : List Assignment) :
    (s.assignAll assignments).directory = s.directory := by
  induction assignments generalizing s with
  | nil => rfl
  | cons a rest ih => exact (ih _).trans (directory_assignIn s _ _ _)

/-- What no assignment is about stays. -/
theorem value?_assignAll_of_not_mem {assignments : List Assignment} {sectionName? : Option String}
    {name : String} (h : ∀ value, ⟨sectionName?, name, value⟩ ∉ assignments) (s : Settings) :
    (s.assignAll assignments).value? sectionName? name = s.value? sectionName? name := by
  induction assignments generalizing s with
  | nil => rfl
  | cons a rest ih =>
    have hrest := ih (fun value hmem => h value (List.mem_cons_of_mem _ hmem))
      (s.assignIn a.sectionName? a.name a.value)
    have hother : ¬ (sectionName? = a.sectionName? ∧ name = a.name) := by
      rintro ⟨rfl, rfl⟩
      exact h a.value List.mem_cons_self
    rw [assignAll, List.foldl_cons]
    rw [assignAll] at hrest
    rw [hrest, value?_assignIn, if_neg hother]

/-- A setting has the value that it is set to, if it is set to no other. -/
theorem value?_assignAll_of_mem {assignments : List Assignment} {sectionName? : Option String}
    {name : String} {value : Value} (hsetting : IsSetting sectionName? name)
    (hmem : ⟨sectionName?, name, value⟩ ∈ assignments)
    (hsole : ∀ other, ⟨sectionName?, name, other⟩ ∈ assignments → other = value) (s : Settings) :
    (s.assignAll assignments).value? sectionName? name = some value := by
  -- the last of the assignments is about this setting or it is not
  induction assignments using List.reverseRecOn with
  | nil => cases hmem
  | append_singleton rest a ih =>
    rw [assignAll_append]
    show ((s.assignAll rest).assignIn a.sectionName? a.name a.value).value? _ _ = _
    rw [value?_assignIn]
    split
    case isTrue hsame =>
      obtain ⟨old, hold⟩ := exists_value? hsetting (s.assignAll rest)
      obtain ⟨rfl, rfl⟩ := hsame
      rw [hold, hsole a.value (List.mem_append_right _ List.mem_cons_self)]
      rfl
    case isFalse hother =>
      refine ih ?_ fun other hothers => hsole other (List.mem_append_left _ hothers)
      rcases List.mem_append.1 hmem with hrest | hlast
      · exact hrest
      · cases List.mem_singleton.1 hlast
        exact absurd ⟨rfl, rfl⟩ hother

/-- Only which value each setting is set to counts. -/
theorem assignAll_congr {first second : List Assignment}
    (h : ∀ sectionName? name value, IsSetting sectionName? name →
      (⟨sectionName?, name, value⟩ ∈ first ↔ ⟨sectionName?, name, value⟩ ∈ second))
    (hsole : ∀ sectionName? name value other, IsSetting sectionName? name →
      ⟨sectionName?, name, value⟩ ∈ second → ⟨sectionName?, name, other⟩ ∈ second → other = value)
    (s : Settings) : s.assignAll first = s.assignAll second := by
  refine ext_value? (fun sectionName? name => ?_)
    ((directory_assignAll s first).trans (directory_assignAll s second).symm)
  by_cases hsetting : IsSetting sectionName? name
  · by_cases hset : ∃ value, ⟨sectionName?, name, value⟩ ∈ second
    · obtain ⟨value, hvalue⟩ := hset
      have hothers := fun other => hsole sectionName? name value other hsetting hvalue
      rw [value?_assignAll_of_mem hsetting hvalue hothers,
        value?_assignAll_of_mem hsetting ((h _ _ _ hsetting).2 hvalue) fun other hother =>
          hothers other ((h _ _ _ hsetting).1 hother)]
    · have hnone := not_exists.1 hset
      rw [value?_assignAll_of_not_mem hnone, value?_assignAll_of_not_mem fun value hvalue =>
        hnone value ((h _ _ _ hsetting).1 hvalue)]
  · rw [value?_eq_none hsetting, value?_eq_none hsetting]

/-! ## The directory of the settings file -/

/-- The settings with a directory of the settings file. -/
def inDirectory (s : Settings) (directory : String) : Settings :=
  { s with directory := directory }

theorem value?_inDirectory (s : Settings) (directory : String) (sectionName? : Option String)
    (name : String) :
    (s.inDirectory directory).value? sectionName? name = s.value? sectionName? name := by
  unfold value? entriesIn
  split <;> rfl

theorem assignIn_inDirectory (s : Settings) (directory : String) (sectionName? : Option String)
    (name : String) (value : Value) :
    (s.inDirectory directory).assignIn sectionName? name value =
      (s.assignIn sectionName? name value).inDirectory directory := by
  unfold assignIn assign
  split
  · split <;> rfl
  · rfl
  · rfl
  · rfl

theorem assignAll_inDirectory (s : Settings) (directory : String) (assignments : List Assignment) :
    (s.inDirectory directory).assignAll assignments =
      (s.assignAll assignments).inDirectory directory := by
  induction assignments generalizing s with
  | nil => rfl
  | cons a rest ih =>
    rw [assignAll, List.foldl_cons, assignIn_inDirectory]
    exact ih _

end Settings
end Switchboard
