import Switchboard.Proofs.Settings.Assignments
import Switchboard.Proofs.Value.Equality

/-!
# Layers of settings

Of the standard settings, those of the file and those of the environment the last one that is there
counts, for each setting on its own (`Settings.load_layers_settings`): a layer is a row of
assignments, and no assignment is about two settings. The settings are checked when all layers are
there.
-/

namespace Switchboard
namespace Settings

variable {document entries : List (Value × Value)} {sectionName : String} {env : Environment}

/-! ## Layers -/

/-- The environment has a variable of the setting. -/
def IsOverridden (env : Environment) (sectionName? : Option String) (name : String) : Prop :=
  ∃ v ∈ Variable.all, v.sectionName? = sectionName? ∧ v.setting = name ∧
    ∃ content, env.get? v.name = some content

/-- Each setting has the value that its variable is read as, or else that which the document gives
to it, or else the standard one. -/
structure IsLayered (env : Environment) (document : List (Value × Value)) (s : Settings) :
    Prop where
  ofVariable : ∀ v ∈ Variable.all, ∀ content, env.get? v.name = some content →
    ∃ value, v.read content = .ok value ∧ s.value? v.sectionName? v.setting = some value
  ofDocument : ∀ sectionName? name value, IsSetting sectionName? name →
    ¬ IsOverridden env sectionName? name → Gives document sectionName? name value →
    s.value? sectionName? name = some value
  ofStandard : ∀ sectionName? name, IsSetting sectionName? name →
    ¬ IsOverridden env sectionName? name → (∀ value, ¬ Gives document sectionName? name value) →
    s.value? sectionName? name = standard.value? sectionName? name

/-- There is one way to layer settings. -/
theorem IsLayered.unique {s t : Settings} (hs : IsLayered env document s)
    (ht : IsLayered env document t) (hdirectory : s.directory = t.directory) : s = t := by
  refine ext_value? (fun sectionName? name => ?_) hdirectory
  by_cases hsetting : IsSetting sectionName? name
  · by_cases hoverridden : IsOverridden env sectionName? name
    · obtain ⟨v, hv, rfl, rfl, content, hcontent⟩ := hoverridden
      obtain ⟨value, hread, hvalue⟩ := hs.ofVariable v hv content hcontent
      obtain ⟨other, hother, hvalue'⟩ := ht.ofVariable v hv content hcontent
      cases hread.symm.trans hother
      rw [hvalue, hvalue']
    · by_cases hgiven : ∃ value, Gives document sectionName? name value
      · obtain ⟨value, hvalue⟩ := hgiven
        rw [hs.ofDocument _ _ value hsetting hoverridden hvalue,
          ht.ofDocument _ _ value hsetting hoverridden hvalue]
      · rw [hs.ofStandard _ _ hsetting hoverridden (not_exists.1 hgiven),
          ht.ofStandard _ _ hsetting hoverridden (not_exists.1 hgiven)]
  · rw [value?_eq_none hsetting, value?_eq_none hsetting]

theorem IsLayered.inDirectory {s : Settings} (h : IsLayered env document s) (directory : String) :
    IsLayered env document (s.inDirectory directory) := by
  constructor
  case ofVariable =>
    simpa only [value?_inDirectory] using h.ofVariable
  case ofDocument =>
    simpa only [value?_inDirectory] using h.ofDocument
  case ofStandard =>
    simpa only [value?_inDirectory] using h.ofStandard

/-- The assignments of a document and then those of variables make layers. -/
theorem isLayered_assignAll {assignments : List Assignment}
    (hkeyed : (Value.dict document).IsWellKeyed)
    (hgiven : ∀ sectionName? name value, IsSetting sectionName? name →
      (⟨sectionName?, name, value⟩ ∈ assignments ↔ Gives document sectionName? name value))
    (hreadable : IsReadable env) :
    IsLayered env document
      ((standard.assignAll assignments).assignAll (variableAssignments env Variable.all)) := by
  -- what no variable sets is as the document leaves it
  have hkept : ∀ {sectionName? name}, ¬ IsOverridden env sectionName? name →
      ((standard.assignAll assignments).assignAll (variableAssignments env Variable.all)).value?
        sectionName? name = (standard.assignAll assignments).value? sectionName? name := by
    intro sectionName? name hfree
    refine value?_assignAll_of_not_mem (fun value hmem => hfree ?_) _
    obtain ⟨v, hv, content, hcontent, -, hsection, hname⟩ := mem_variableAssignments.1 hmem
    exact ⟨v, hv, hsection, hname, content, hcontent⟩
  constructor
  case ofVariable =>
    intro v hv content hcontent
    obtain ⟨value, hread⟩ := hreadable v hv content hcontent
    have hmem := mem_variableAssignments.2 ⟨v, hv, content, hcontent, hread, rfl, rfl⟩
    refine ⟨value, hread, value?_assignAll_of_mem (isSetting_of_mem_all hv) hmem ?_ _⟩
    intro other hother
    obtain ⟨w, hw, content', hcontent', hread', hsection, hname⟩ :=
      mem_variableAssignments.1 hother
    cases eq_of_mem_all hv hw hsection hname
    cases hcontent.symm.trans hcontent'
    exact (Except.ok.inj (hread.symm.trans hread')).symm
  case ofDocument =>
    intro sectionName? name value hsetting hfree hvalue
    rw [hkept hfree]
    exact value?_assignAll_of_mem hsetting ((hgiven _ _ _ hsetting).2 hvalue)
      (fun other hother => ((hgiven _ _ _ hsetting).1 hother).unique hkeyed hvalue) _
  case ofStandard =>
    intro sectionName? name hsetting hfree hnone
    rw [hkept hfree, value?_assignAll_of_not_mem fun value hmem =>
      hnone value ((hgiven _ _ _ hsetting).1 hmem)]

/-! ## Checks -/

theorem foldl_ownValue? (hplain : HasPlainKeys entries) :
    entries.foldl (ownValue? checkName) none = none := by
  induction entries with
  | nil => rfl
  | cons entry rest ih =>
    rcases entry with ⟨k, value⟩
    obtain ⟨key, rfl, hown⟩ := hplain _ List.mem_cons_self
    simp only [ownNames, List.mem_cons, List.not_mem_nil, or_false, not_or] at hown
    obtain ⟨hcheck, -, -, hcontents⟩ := hown
    have hstep : ownValue? checkName none (.text key, value) = none := by
      simp only [ownValue?, if_neg hcheck, if_neg hcontents]
    rw [List.foldl_cons, hstep]
    exact ih fun other hother => hplain other (List.mem_cons_of_mem _ hother)

theorem checkable_of_plain (h : HasPlainSection document sectionName) :
    checkable document sectionName = .ok () := by
  obtain ⟨entries, hentries, hplain⟩ := sectionEntries_of_plain h
  rw [checkable, ownIn?, hentries]
  simp only [foldl_ownValue? hplain, Option.isSome_none, Bool.false_eq_true, if_false]

theorem checkWith_of_plain (hengine : HasPlainSection document "engine")
    (hlogging : HasPlainSection document "logging") (s : Settings) :
    s.checkWith document = s.check := by
  rw [checkWith, checkable_of_plain hengine, checkable_of_plain hlogging]
  rfl

/-! ## Loading -/

/-- The variables that count. -/
def countedVariables (env : Environment) (usesEnvironment : Bool) : Environment :=
  if usesEnvironment then env else []

theorem applyEnvironment_countedVariables (env : Environment) (usesEnvironment : Bool)
    (s : Settings) :
    s.applyEnvironment (countedVariables env usesEnvironment) =
      if usesEnvironment then s.applyEnvironment env else pure s := by
  cases usesEnvironment <;> rfl

/-- The settings of all layers are known before they are checked. -/
theorem ofDocument_eq_bind (env : Environment) (usesEnvironment : Bool)
    (document : List (Value × Value)) :
    ofDocument env usesEnvironment document =
      ((standard.inDirectory env.settingsDirectory.string).applyDocument document >>=
        (applyEnvironment · (countedVariables env usesEnvironment))) >>=
          fun s => (s.checkWith document).map fun _ => s := by
  have hchecked : ∀ s : Settings,
      (do s.checkWith document; pure s : Except Fault Settings) =
        (s.checkWith document).map fun _ => s := by
    intro s
    cases s.checkWith document <;> rfl
  simp only [ofDocument, inDirectory, applyEnvironment_countedVariables, hchecked, bind_assoc]
  cases usesEnvironment <;> rfl

/-- With plain sections the settings are assigned layer by layer and then checked. The directory of
the settings file does not bear on them. -/
theorem ofDocument_eq (hengine : HasPlainSection document "engine")
    (hlogging : HasPlainSection document "logging") (env : Environment) (usesEnvironment : Bool)
    {assignments : List Assignment}
    (happly : ∀ s : Settings, s.applyDocument document = .ok (s.assignAll assignments)) :
    ofDocument env usesEnvironment document =
      ((standard.assignAll assignments).applyEnvironment (countedVariables env usesEnvironment) >>=
        fun s => s.check.map fun _ => s).map (·.inDirectory env.settingsDirectory.string) := by
  have hassigned : (standard.inDirectory env.settingsDirectory.string).applyDocument document =
      .ok ((standard.assignAll assignments).inDirectory env.settingsDirectory.string) := by
    rw [happly, assignAll_inDirectory]
  rw [ofDocument_eq_bind, hassigned]
  simp only [checkWith_of_plain hengine hlogging, bind, Except.bind, applyEnvironment_inDirectory]
  cases (standard.assignAll assignments).applyEnvironment
    (countedVariables env usesEnvironment) with
  | error fault => rfl
  | ok s =>
    show (s.check.map fun _ => s.inDirectory env.settingsDirectory.string) =
      (s.check.map fun _ => s).map (·.inDirectory env.settingsDirectory.string)
    cases s.check <;> rfl

theorem ofDocument_eq_ok_iff (hkeyed : (Value.dict document).IsWellKeyed)
    (hengine : HasPlainSection document "engine") (hlogging : HasPlainSection document "logging")
    {usesEnvironment : Bool} {s : Settings} :
    ofDocument env usesEnvironment document = .ok s ↔
      IsLayered (countedVariables env usesEnvironment) document s ∧
        s.directory = env.settingsDirectory.string ∧ s.check = .ok () := by
  obtain ⟨assignments, happly, hgiven⟩ := exists_assignments hkeyed.distinct hengine hlogging
  rw [ofDocument_eq hengine hlogging env usesEnvironment happly, Except.map_eq_ok]
  simp only [Except.bind_eq_ok, Except.map_eq_ok, applyEnvironment_eq_ok]
  constructor
  · rintro ⟨_, ⟨_, ⟨hreadable, rfl⟩, ⟨⟩, hcheck, rfl⟩, rfl⟩
    exact ⟨(isLayered_assignAll hkeyed hgiven hreadable).inDirectory _, rfl, hcheck⟩
  · rintro ⟨hs, hdirectory, hcheck⟩
    have hreadable : IsReadable (countedVariables env usesEnvironment) :=
      fun v hv content hcontent => (hs.ofVariable v hv content hcontent).imp fun _ => And.left
    obtain rfl := hs.unique
      ((isLayered_assignAll hkeyed hgiven hreadable).inDirectory env.settingsDirectory.string)
      hdirectory
    exact ⟨_, ⟨_, ⟨hreadable, rfl⟩, (), hcheck, rfl⟩, rfl⟩

/-- A document that is found has distinct texts among the keys of each mapping. -/
theorem isWellKeyed_of_findDocument {store : FileStore} {path? : Option String}
    (h : findDocument env store path? = .ok document) : (Value.dict document).IsWellKeyed := by
  have hempty : (Value.dict []).IsWellKeyed := .dict .nil (by simp)
  obtain ⟨found?, -, h⟩ := Except.bind_eq_ok.1 h
  split at h
  case h_1 path =>
    obtain ⟨text, -, h⟩ := Except.bind_eq_ok.1 h
    obtain ⟨value, hvalue, h⟩ := Except.bind_eq_ok.1 h
    split at h
    · cases h
      exact Yaml.isWellKeyed_of_load (Except.mapError_eq_ok.1 hvalue)
    · split at h <;> cases h
      exact hempty
  case h_2 =>
    cases h
    exact hempty

theorem load_of_findDocument {store : FileStore} {path? : Option String}
    (h : findDocument env store path? = .ok document) (usesEnvironment : Bool) :
    load env store path? usesEnvironment = ofDocument env usesEnvironment document := by
  rw [load, h]
  rfl

/-- Settings are loaded as their layers say, if every variable can be read and the outcome passes
its checks. Nothing but the variables of settings and the values at their names counts. -/
theorem load_layers_settings {store : FileStore} {path? : Option String} {usesEnvironment : Bool}
    (hdocument : findDocument env store path? = .ok document)
    (hengine : HasPlainSection document "engine") (hlogging : HasPlainSection document "logging") :
    (∀ s, load env store path? usesEnvironment = .ok s ↔
      IsLayered (countedVariables env usesEnvironment) document s ∧
        s.directory = env.settingsDirectory.string ∧ s.check = .ok ()) ∧
    ∀ env' store' path?' document', findDocument env' store' path?' = .ok document' →
      HasPlainSection document' "engine" → HasPlainSection document' "logging" →
      (∀ v ∈ Variable.all, env'.get? v.name = env.get? v.name) →
      (∀ sectionName? name value, IsSetting sectionName? name →
        (Gives document' sectionName? name value ↔ Gives document sectionName? name value)) →
      load env' store' path?' usesEnvironment =
        (load env store path? usesEnvironment).map
          (·.inDirectory env'.settingsDirectory.string) := by
  have hkeyed := isWellKeyed_of_findDocument hdocument
  refine ⟨fun s => ?_, ?_⟩
  · rw [load_of_findDocument hdocument]
    exact ofDocument_eq_ok_iff hkeyed hengine hlogging
  · intro env' store' path?' document' hdocument' hengine' hlogging' hvariables hgives
    obtain ⟨assignments, happly, hgiven⟩ := exists_assignments hkeyed.distinct hengine hlogging
    obtain ⟨assignments', happly', hgiven'⟩ := exists_assignments
      (isWellKeyed_of_findDocument hdocument').distinct hengine' hlogging'
    have hsame : standard.assignAll assignments' = standard.assignAll assignments := by
      refine assignAll_congr (fun sectionName? name value hsetting => ?_)
        (fun sectionName? name value other hsetting hvalue hother => ?_) standard
      · rw [hgiven' _ _ _ hsetting, hgives _ _ _ hsetting, hgiven _ _ _ hsetting]
      · rw [hgiven _ _ _ hsetting] at hvalue hother
        exact hother.unique hkeyed hvalue
    have hcounted : ∀ v ∈ Variable.all, (countedVariables env' usesEnvironment).get? v.name =
        (countedVariables env usesEnvironment).get? v.name := by
      intro v hv
      cases usesEnvironment
      · rfl
      · exact hvariables v hv
    rw [load_of_findDocument hdocument, load_of_findDocument hdocument',
      ofDocument_eq hengine hlogging _ _ happly, ofDocument_eq hengine' hlogging' _ _ happly',
      hsame, applyEnvironment_congr hcounted]
    cases (standard.assignAll assignments).applyEnvironment
      (countedVariables env usesEnvironment) >>= fun s => s.check.map fun _ => s <;> rfl

/-- The text of a settings file with a depth that cannot be used and a name of no setting. -/
def shallowText : String :=
  "version: 2\nengine:\n  colour: blue\n  max_call_depth: 0\n  max_chain_length: 5\nlogging:\n"

/-- What the file has. -/
def shallowDocument : List (Value × Value) :=
  [(.text "version", .int 2),
    (.text "engine", .dict [(.text "colour", .text "blue"), (.text "max_call_depth", .int 0),
      (.text "max_chain_length", .int 5)]),
    (.text "logging", .none)]

/-- An environment with a depth that can be used. -/
def deepEnvironment : Environment := [("REGEXP_HANDLER_MAX_CALL_DEPTH", "7")]

theorem overridden_depth_is_accepted :
    ∃ s, load deepEnvironment [(["c".toList], .file (Text.encode shallowText.toList))] (some "c")
        true = .ok s ∧
      IsLayered deepEnvironment shallowDocument s ∧
      s.engine.maxCallDepth = .int 7 ∧ s.engine.maxChainLength = .int 5 := by
  have hdocument : findDocument deepEnvironment
      [(["c".toList], .file (Text.encode shallowText.toList))] (some "c") = .ok shallowDocument :=
    Except.toOption_eq_some.1 (by decide +kernel)
  have hengine : HasPlainSection shallowDocument "engine" := by
    intro value hmem
    have hvalue : value = .dict [(.text "colour", .text "blue"), (.text "max_call_depth", .int 0),
        (.text "max_chain_length", .int 5)] := by simpa [shallowDocument] using hmem
    exact .inr ⟨_, hvalue,
      by simp [HasPlainKeys, ownNames, checkName, kindName, referencesName, contentsName]⟩
  have hlogging : HasPlainSection shallowDocument "logging" := by
    intro value hmem
    have hvalue : value = .none := by simpa [shallowDocument] using hmem
    exact .inl (hvalue ▸ rfl)
  have hload := load_of_findDocument hdocument true
  exact ⟨_, hload, (((load_layers_settings hdocument hengine hlogging).1 _).1 hload).1, rfl, rfl⟩

end Settings
end Switchboard
