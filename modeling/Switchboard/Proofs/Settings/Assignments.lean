import Switchboard.Proofs.Except
import Switchboard.Proofs.Settings.Values
import Switchboard.Proofs.Yaml.Mappings
import Switchboard.Settings.Load

/-!
# Layers as assignments

A document whose sections are plain is a row of assignments, one for each setting that it gives a
value to (`Settings.exists_assignments`). So is the environment, where all of its variables of
settings can be read (`Settings.applyEnvironment_eq_ok`).
-/

namespace Switchboard
namespace Settings

/-! ## What a document gives -/

/-- The names that a section has beside its settings. -/
def ownNames : List String := [checkName, kindName, referencesName, contentsName]

/-- All keys are texts, and none of them is one of a section's own names. -/
def HasPlainKeys (entries : List (Value × Value)) : Prop :=
  ∀ entry ∈ entries, ∃ key, entry.1 = .text key ∧ key ∉ ownNames

/-- The section is missing or empty, or a mapping with plain keys. -/
def HasPlainSection (document : List (Value × Value)) (sectionName : String) : Prop :=
  ∀ value, (.text sectionName, value) ∈ document →
    value.isTruthy = false ∨ ∃ entries, value = .dict entries ∧ HasPlainKeys entries

/-- The document has a value at a name in a section, or outside of the sections. -/
inductive Gives (document : List (Value × Value)) : Option String → String → Value → Prop
  | top {name : String} {value : Value} (h : (.text name, value) ∈ document) :
    Gives document none name value
  | inSection {sectionName name : String} {value : Value} {entries : List (Value × Value)}
    (hsection : (.text sectionName, .dict entries) ∈ document)
    (h : (.text name, value) ∈ entries) : Gives document (some sectionName) name value

/-! ## The document as assignments -/

/-- The assignments of a section. -/
def sectionAssignments (sectionName : String) (entries : List (Value × Value)) : List Assignment :=
  entries.filterMap fun entry =>
    match entry.1 with
    | .text key => some ⟨some sectionName, key, entry.2⟩
    | _ => none

/-- The assignments of names outside of the sections. -/
def topAssignments (names : List String) (document : List (Value × Value)) : List Assignment :=
  names.filterMap fun name =>
    (Value.lookupText? name document).map fun value => ⟨none, name, value⟩

variable {document entries : List (Value × Value)} {sectionName : String}

/-- The entries of a section are those of a mapping in the document. -/
theorem mem_of_sectionEntries (h : sectionEntries sectionName document = .ok entries) :
    entries = [] ∨ (.text sectionName, .dict entries) ∈ document := by
  unfold sectionEntries at h
  split at h
  case h_1 =>
    cases h
    exact .inl rfl
  case h_2 hlookup =>
    cases h
    exact .inr (Value.mem_of_lookupText? hlookup)
  case h_3 =>
    split at h <;> cases h
    exact .inl rfl

theorem mem_document_of_sectionEntries (h : sectionEntries sectionName document = .ok entries)
    {entry : Value × Value} (hmem : entry ∈ entries) :
    (.text sectionName, .dict entries) ∈ document :=
  (mem_of_sectionEntries h).resolve_left (List.ne_nil_of_mem hmem)

theorem sectionEntries_of_plain (h : HasPlainSection document sectionName) :
    ∃ entries, sectionEntries sectionName document = .ok entries ∧ HasPlainKeys entries := by
  have hnil : HasPlainKeys [] := fun _ hmem => absurd hmem List.not_mem_nil
  unfold sectionEntries
  split
  case h_1 => exact ⟨[], rfl, hnil⟩
  case h_2 entries hlookup =>
    rcases h _ (Value.mem_of_lookupText? hlookup) with hempty | ⟨_, hsame, hplain⟩
    · have hentries : entries = [] := by simpa [Value.isTruthy] using hempty
      exact ⟨entries, rfl, hentries ▸ hnil⟩
    · cases hsame
      exact ⟨entries, rfl, hplain⟩
  case h_3 value hnodict hlookup =>
    rcases h _ (Value.mem_of_lookupText? hlookup) with hempty | ⟨entries, hdict, -⟩
    · exact ⟨[], by simp [hempty], hnil⟩
    · exact absurd hdict (hnodict entries)

/-- A plain section sets its settings one by one. -/
theorem foldlM_assignEntry (hplain : HasPlainKeys entries) (s : Settings) :
    entries.foldlM (assignEntry sectionName) s =
      .ok (s.assignAll (sectionAssignments sectionName entries)) := by
  induction entries generalizing s with
  | nil => rfl
  | cons entry rest ih =>
    rcases entry with ⟨k, value⟩
    obtain ⟨key, rfl, hown⟩ := hplain _ List.mem_cons_self
    simp only [ownNames, List.mem_cons, List.not_mem_nil, or_false, not_or] at hown
    obtain ⟨-, hkind, hreferences, hcontents⟩ := hown
    have hstep : assignEntry sectionName s (.text key, value) =
        .ok (s.assignIn (some sectionName) key value) := by
      simp only [assignEntry, if_neg hkind, if_neg hreferences, if_neg hcontents]
    rw [List.foldlM_cons, hstep]
    exact ih (fun other hother => hplain other (List.mem_cons_of_mem _ hother)) _

theorem applySection_of_plain (hentries : sectionEntries sectionName document = .ok entries)
    (hplain : HasPlainKeys entries) (s : Settings) :
    applySection document s sectionName =
      .ok (s.assignAll (sectionAssignments sectionName entries)) := by
  rw [applySection, hentries]
  exact foldlM_assignEntry hplain s

theorem sectionEntries_of_mem (hdistinct : Value.HasDistinctTexts document)
    (h : (.text sectionName, .dict entries) ∈ document) :
    sectionEntries sectionName document = .ok entries := by
  rw [sectionEntries, (Value.lookupText?_eq_some_iff hdistinct).2 h]

theorem mem_sectionAssignments {sectionName? : Option String} {name : String} {value : Value} :
    ⟨sectionName?, name, value⟩ ∈ sectionAssignments sectionName entries ↔
      sectionName? = some sectionName ∧ (.text name, value) ∈ entries := by
  simp only [sectionAssignments, List.mem_filterMap]
  constructor
  · rintro ⟨⟨k, v⟩, hmem, hentry⟩
    split at hentry
    case h_1 key hk =>
      cases hentry
      cases hk
      exact ⟨rfl, hmem⟩
    case h_2 => cases hentry
  · rintro ⟨rfl, hmem⟩
    exact ⟨_, hmem, rfl⟩

theorem foldl_applyTop (names : List String) (s : Settings) :
    names.foldl (applyTop document) s = s.assignAll (topAssignments names document) := by
  induction names generalizing s with
  | nil => rfl
  | cons name rest ih =>
    simp only [List.foldl_cons, ih, topAssignments, List.filterMap_cons, applyTop]
    cases Value.lookupText? name document with
    | none => rfl
    | some value => rfl

theorem mem_topAssignments (hdistinct : Value.HasDistinctTexts document) {names : List String}
    {sectionName? : Option String} {name : String} {value : Value} :
    ⟨sectionName?, name, value⟩ ∈ topAssignments names document ↔
      sectionName? = none ∧ name ∈ names ∧ (.text name, value) ∈ document := by
  simp only [topAssignments, List.mem_filterMap, Option.map_eq_some_iff]
  constructor
  · rintro ⟨key, hkey, found, hfound, hentry⟩
    cases hentry
    exact ⟨rfl, hkey, (Value.lookupText?_eq_some_iff hdistinct).1 hfound⟩
  · rintro ⟨rfl, hname, hmem⟩
    exact ⟨name, hname, value, (Value.lookupText?_eq_some_iff hdistinct).2 hmem, rfl⟩

theorem isSetting_none_iff {name : String} :
    IsSetting none name ↔ name ∈ ["app_name", "version", "debug"] := by
  rw [IsSetting, value?, ← Entries.has, Entries.has_eq_true_iff]
  rfl

theorem eq_of_isSetting_some {name : String} (h : IsSetting (some sectionName) name) :
    sectionName = "engine" ∨ sectionName = "logging" := by
  by_contra hother
  rw [not_or] at hother
  have hnone : standard.entriesIn (some sectionName) = [] := by
    unfold entriesIn
    split <;> simp_all
  rw [IsSetting, value?, hnone] at h
  cases h

/-- A document with plain sections is a row of assignments, one for each setting that it gives a
value to. -/
theorem exists_assignments (hdistinct : Value.HasDistinctTexts document)
    (hengine : HasPlainSection document "engine") (hlogging : HasPlainSection document "logging") :
    ∃ assignments, (∀ s : Settings, s.applyDocument document = .ok (s.assignAll assignments)) ∧
      ∀ sectionName? name value, IsSetting sectionName? name →
        (⟨sectionName?, name, value⟩ ∈ assignments ↔ Gives document sectionName? name value) := by
  obtain ⟨engine, hengineEntries, henginePlain⟩ := sectionEntries_of_plain hengine
  obtain ⟨logging, hloggingEntries, hloggingPlain⟩ := sectionEntries_of_plain hlogging
  refine ⟨topAssignments ["app_name", "version", "debug"] document ++
    sectionAssignments "engine" engine ++ sectionAssignments "logging" logging, fun s => ?_, ?_⟩
  · rw [applyDocument, foldl_applyTop, assignAll_append, assignAll_append]
    rw [List.foldlM_cons, applySection_of_plain hengineEntries henginePlain]
    simp only [bind, Except.bind, List.foldlM_cons, List.foldlM_nil,
      applySection_of_plain hloggingEntries hloggingPlain]
    rfl
  · intro sectionName? name value hsetting
    simp only [List.mem_append, mem_topAssignments hdistinct, mem_sectionAssignments]
    constructor
    · rintro ((⟨rfl, -, hmem⟩ | ⟨rfl, hmem⟩) | ⟨rfl, hmem⟩)
      · exact .top hmem
      · exact .inSection (mem_document_of_sectionEntries hengineEntries hmem) hmem
      · exact .inSection (mem_document_of_sectionEntries hloggingEntries hmem) hmem
    · rintro (hmem | ⟨hsection, hmem⟩)
      · exact .inl (.inl ⟨rfl, isSetting_none_iff.1 hsetting, hmem⟩)
      · have hentries := sectionEntries_of_mem hdistinct hsection
        rcases eq_of_isSetting_some hsetting with rfl | rfl
        · cases hengineEntries.symm.trans hentries
          exact .inl (.inr ⟨rfl, hmem⟩)
        · cases hloggingEntries.symm.trans hentries
          exact .inr ⟨rfl, hmem⟩

/-- A document gives at most one value to a setting. -/
theorem Gives.unique (hkeyed : (Value.dict document).IsWellKeyed) {sectionName? : Option String}
    {name : String} {value other : Value} (h : Gives document sectionName? name value)
    (hother : Gives document sectionName? name other) : value = other := by
  cases h with
  | top h =>
    cases hother with
    | top h' => exact hkeyed.distinct.unique h h'
  | inSection hsection h =>
    cases hother with
    | inSection hsection' h' =>
      cases hkeyed.distinct.unique hsection hsection'
      exact (hkeyed.value_of_mem hsection).distinct.unique h h'

/-! ## The environment as assignments -/

/-- Every variable of a setting that the environment has can be read. -/
def IsReadable (env : Environment) : Prop :=
  ∀ v ∈ Variable.all, ∀ content, env.get? v.name = some content →
    ∃ value, v.read content = .ok value

/-- The assignments of variables. -/
def variableAssignments (env : Environment) (vs : List Variable) : List Assignment :=
  vs.filterMap fun v =>
    (env.get? v.name).bind fun content =>
      (v.read content).toOption.map fun value => ⟨v.sectionName?, v.setting, value⟩

variable {env : Environment}

theorem mem_variableAssignments {vs : List Variable} {sectionName? : Option String}
    {name : String} {value : Value} :
    ⟨sectionName?, name, value⟩ ∈ variableAssignments env vs ↔
      ∃ v ∈ vs, ∃ content, env.get? v.name = some content ∧ v.read content = .ok value ∧
        v.sectionName? = sectionName? ∧ v.setting = name := by
  simp only [variableAssignments, List.mem_filterMap, Option.bind_eq_some_iff,
    Option.map_eq_some_iff, Except.toOption_eq_some, Assignment.mk.injEq]
  constructor
  · rintro ⟨v, hv, content, hcontent, found, hfound, hsection, hname, rfl⟩
    exact ⟨v, hv, content, hcontent, hfound, hsection, hname⟩
  · rintro ⟨v, hv, content, hcontent, hfound, hsection, hname⟩
    exact ⟨v, hv, content, hcontent, value, hfound, hsection, hname, rfl⟩

theorem foldlM_assignVariable {vs : List Variable} {s t : Settings} :
    vs.foldlM (assignVariable env) s = .ok t ↔
      (∀ v ∈ vs, ∀ content, env.get? v.name = some content →
        ∃ value, v.read content = .ok value) ∧
      t = s.assignAll (variableAssignments env vs) := by
  induction vs generalizing s with
  | nil =>
    simp only [List.foldlM_nil, List.not_mem_nil, false_implies, implies_true, true_and]
    exact ⟨fun h => (Except.ok.inj h).symm, fun h => h ▸ rfl⟩
  | cons v rest ih =>
    rw [List.foldlM_cons, Except.bind_eq_ok]
    simp only [ih, List.forall_mem_cons, assignVariable, variableAssignments, List.filterMap_cons]
    cases henv : env.get? v.name with
    | none => simp
    | some content =>
      cases hread : v.read content with
      | error fault => simp [hread, Except.map]
      | ok value =>
        simp only [hread, Except.map, Except.toOption, Option.bind_some, Option.map_some,
          Option.some.injEq, Except.ok.injEq, exists_eq_left', forall_eq', exists_eq', true_and]
        exact Iff.rfl

theorem applyEnvironment_eq_ok {s t : Settings} :
    s.applyEnvironment env = .ok t ↔
      IsReadable env ∧ t = s.assignAll (variableAssignments env Variable.all) :=
  foldlM_assignVariable

/-! ### The variables of settings -/

theorem isSetting_of_mem_all {v : Variable} (h : v ∈ Variable.all) :
    IsSetting v.sectionName? v.setting := by
  have hall : ∀ v ∈ Variable.all, (standard.value? v.sectionName? v.setting).isSome = true := by
    decide
  exact hall v h

/-- No two variables set one setting. -/
theorem eq_of_mem_all {v other : Variable} (h : v ∈ Variable.all) (hother : other ∈ Variable.all)
    (hsection : other.sectionName? = v.sectionName?) (hname : other.setting = v.setting) :
    other = v := by
  have hall : ∀ v ∈ Variable.all, ∀ other ∈ Variable.all, other.sectionName? = v.sectionName? →
      other.setting = v.setting → other = v := by
    decide
  exact hall v h other hother hsection hname

theorem applyEnvironment_inDirectory (s : Settings) (directory : String) (env : Environment) :
    (s.inDirectory directory).applyEnvironment env =
      (s.applyEnvironment env).map (·.inDirectory directory) := by
  unfold applyEnvironment
  induction Variable.all generalizing s with
  | nil => rfl
  | cons v rest ih =>
    have hstep : (s.inDirectory directory).assignVariable env v =
        (s.assignVariable env v).map (·.inDirectory directory) := by
      unfold assignVariable
      cases env.get? v.name with
      | none => rfl
      | some content =>
        cases hread : v.read content with
        | error fault => simp [hread, Except.map]
        | ok value => simp [hread, Except.map, assignIn_inDirectory]
    rw [List.foldlM_cons, List.foldlM_cons, hstep]
    cases s.assignVariable env v with
    | error fault => rfl
    | ok next => exact ih next

/-- Only the variables that are gone through count. -/
theorem foldlM_assignVariable_congr {env env' : Environment} {vs : List Variable}
    (h : ∀ v ∈ vs, env'.get? v.name = env.get? v.name) (s : Settings) :
    vs.foldlM (assignVariable env') s = vs.foldlM (assignVariable env) s := by
  induction vs generalizing s with
  | nil => rfl
  | cons v rest ih =>
    have hstep : s.assignVariable env' v = s.assignVariable env v := by
      rw [assignVariable, h v List.mem_cons_self, assignVariable]
    rw [List.foldlM_cons, List.foldlM_cons, hstep]
    cases s.assignVariable env v with
    | error fault => rfl
    | ok next => exact ih (fun w hw => h w (List.mem_cons_of_mem _ hw)) next

/-- Only the variables of settings count. -/
theorem applyEnvironment_congr {env env' : Environment}
    (h : ∀ v ∈ Variable.all, env'.get? v.name = env.get? v.name) (s : Settings) :
    s.applyEnvironment env' = s.applyEnvironment env :=
  foldlM_assignVariable_congr h s

end Settings
end Switchboard
