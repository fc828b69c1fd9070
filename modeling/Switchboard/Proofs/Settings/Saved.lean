import Switchboard.Proofs.Files.Store
import Switchboard.Proofs.Settings.Layers
import Switchboard.Proofs.Yaml.Writing
import Switchboard.Settings.Save

/-!
# Saved settings

Settings that are saved and loaded again are the same, in all but the directory of the settings file
(`Settings.saved_settings_load_back`). The two halves meet at the record of the settings: what is
written is its text, which is read as it was written, and as a document the record gives each
setting its value (`Settings.gives_toRecord_iff`).
-/

namespace Switchboard
namespace Settings

/-! ## The record as a document -/

/-- Entries as entries of a mapping have their names and contents. -/
theorem mem_map_text {entries : Entries Value} {name : String} {value : Value} :
    (Value.text name, value) ∈ entries.map (fun (k, v) => (Value.text k, v)) ↔
      (name, value) ∈ entries := by
  simp [List.mem_map]

/-- A section of the record has the settings of the section. -/
theorem mem_toRecord_iff {s : Settings} {sectionName : String} {value : Value}
    (h : sectionName = "engine" ∨ sectionName = "logging") :
    (.text sectionName, value) ∈ s.toRecord ↔
      value = (s.entriesIn (some sectionName)).toValue := by
  rcases h with rfl | rfl <;> simp [toRecord, entriesIn]

theorem mem_toRecord_top {s : Settings} {name : String} {value : Value}
    (h : IsSetting none name) :
    (.text name, value) ∈ s.toRecord ↔ (name, value) ∈ s.topEntries := by
  have hname := isSetting_none_iff.1 h
  simp only [List.mem_cons, List.not_mem_nil, or_false] at hname
  rcases hname with rfl | rfl | rfl <;> simp [toRecord, topEntries]

theorem value?_eq_some_iff {s : Settings} {sectionName? : Option String} {name : String}
    {value : Value} :
    s.value? sectionName? name = some value ↔ (name, value) ∈ s.entriesIn sectionName? :=
  ⟨Entries.mem_of_get?, Entries.get?_of_mem (nodup_keys_entriesIn s sectionName?)⟩

/-- As a document the record of settings gives each setting its value. -/
theorem gives_toRecord_iff {s : Settings} {sectionName? : Option String} {name : String}
    {value : Value} (h : IsSetting sectionName? name) :
    Gives s.toRecord sectionName? name value ↔ s.value? sectionName? name = some value := by
  rw [value?_eq_some_iff]
  cases sectionName? with
  | none =>
    constructor
    · rintro (hmem | _)
      exact (mem_toRecord_top h).1 hmem
    · exact fun hmem => .top ((mem_toRecord_top h).2 hmem)
  | some sectionName =>
    have hsection := eq_of_isSetting_some h
    constructor
    · rintro (_ | ⟨hrecord, hmem⟩)
      cases (mem_toRecord_iff hsection).1 hrecord
      exact mem_map_text.1 hmem
    · exact fun hmem => .inSection ((mem_toRecord_iff hsection).2 rfl) (mem_map_text.2 hmem)

theorem hasPlainSection_toRecord (s : Settings) {sectionName : String}
    (h : sectionName = "engine" ∨ sectionName = "logging") :
    HasPlainSection s.toRecord sectionName := by
  intro value hmem
  refine .inr ⟨_, (mem_toRecord_iff h).1 hmem, ?_⟩
  have hnames : ∀ name ∈ (s.entriesIn (some sectionName)).keys, name ∉ ownNames := by
    rw [keys_entriesIn s standard]
    rcases h with rfl | rfl <;> decide
  intro entry hentry
  obtain ⟨⟨name, value⟩, hin, rfl⟩ := List.mem_map.1 hentry
  exact ⟨name, rfl, hnames name (List.mem_map.2 ⟨_, hin, rfl⟩)⟩

/-- Where no variable is set the settings themselves are the layers of their record. -/
theorem isLayered_toRecord (s : Settings) {env : Environment}
    (henv : ∀ v ∈ Variable.all, env.get? v.name = none) : IsLayered env s.toRecord s := by
  constructor
  case ofVariable =>
    intro v hv content hcontent
    cases (henv v hv).symm.trans hcontent
  case ofDocument => exact fun _ _ _ hsetting _ hgiven => (gives_toRecord_iff hsetting).1 hgiven
  case ofStandard =>
    intro sectionName? name hsetting _ hnone
    obtain ⟨value, hvalue⟩ := exists_value? hsetting s
    exact absurd ((gives_toRecord_iff hsetting).2 hvalue) (hnone value)

/-! ## The file -/

theorem isThere_of_has {store : FileStore} {path : Path} {there : Bool}
    (h : store.has path = .ok there) : isThere store path = .ok there := by
  rw [isThere, h]
  rfl

theorem findFile_of_has {env : Environment} {store : FileStore} {path? : Option String}
    (h : store.has (loadPath env path?) = .ok true) :
    findFile env store path? = .ok (some (loadPath env path?)) := by
  simp only [findFile, isThere_of_has h]
  rfl

/-- What is saved is a file with the text of the record. -/
theorem readText_of_saveRecord {record : Except Fault (List (Value × Value))}
    {store saved : FileStore} {path : Path} (h : saveRecord record store path = .ok saved) :
    ∃ entries, record = .ok entries ∧ saved.readText path = .ok (Yaml.document entries) := by
  unfold saveRecord at h
  obtain ⟨⟨⟩, -, h⟩ := Except.bind_eq_ok.1 h
  obtain ⟨made, -, h⟩ := Except.bind_eq_ok.1 h
  obtain ⟨⟨⟩, -, h⟩ := Except.bind_eq_ok.1 h
  obtain ⟨opened, -, h⟩ := Except.bind_eq_ok.1 h
  obtain ⟨entries, hentries, h⟩ := Except.bind_eq_ok.1 h
  refine ⟨entries, hentries, ?_⟩
  cases hwrite : (Value.dict entries).writeFault? writtenLevels with
  | some fault =>
    rw [hwrite] at h
    cases h
  | none =>
    rw [hwrite] at h
    exact FileStore.readText_of_writeBytes (Yaml.carriageReturn_not_mem_document _)
      (Except.mapError_eq_ok.1 h)

theorem readText_of_save {s : Settings} {store saved : FileStore} {path? : Option String}
    (h : s.save store path? = .ok saved) :
    saved.readText (s.savePath path?) = .ok s.fileText := by
  obtain ⟨_, ⟨⟩, hread⟩ := readText_of_saveRecord h
  exact hread

/-- Settings that pass their checks are loaded from the file that they are saved to, whatever path
leads to it, if no variable is set and the text of their record stands for the record. -/
theorem saved_settings_load_back {s : Settings} {env : Environment} {store saved : FileStore}
    {path? savedTo? : Option String} {usesEnvironment : Bool} (hcheck : s.check = .ok ())
    (henv : ∀ v ∈ Variable.all, env.get? v.name = none)
    (hsaved : s.save store savedTo? = .ok saved)
    (hplace : saved.place (loadPath env path?) = saved.place (s.savePath savedTo?))
    (hyaml : Yaml.load s.fileText = .ok (.dict s.toRecord)) :
    ∃ loaded, load env saved path? usesEnvironment = .ok loaded ∧ loaded.toRecord = s.toRecord ∧
      loaded.directory = env.settingsDirectory.string := by
  have hread : saved.readText (loadPath env path?) = .ok s.fileText := by
    rw [FileStore.readText_congr hplace]
    exact readText_of_save hsaved
  have hdocument : findDocument env saved path? = .ok s.toRecord := by
    rw [findDocument, findFile_of_has (FileStore.has_of_readText hread)]
    show readDocument saved (loadPath env path?) = _
    rw [readDocument, hread]
    show ((Yaml.load s.fileText).mapError Yaml.Flaw.fault >>= _) = _
    rw [hyaml]
    rfl
  have hcounted : ∀ v ∈ Variable.all,
      (countedVariables env usesEnvironment).get? v.name = none := by
    intro v hv
    cases usesEnvironment
    · rfl
    · exact henv v hv
  have hlayered := isLayered_toRecord (s.inDirectory env.settingsDirectory.string) hcounted
  refine ⟨s.inDirectory env.settingsDirectory.string, ?_, rfl, rfl⟩
  rw [load, hdocument]
  exact (ofDocument_eq_ok_iff (Yaml.isWellKeyed_of_load hyaml)
    (hasPlainSection_toRecord s (.inl rfl)) (hasPlainSection_toRecord s (.inr rfl))).2
    ⟨hlayered, rfl, hcheck⟩

/-- Settings with texts that cannot be written as they are, and a large number. -/
def unusual : Settings :=
  { standard with
    appName := .text "It's \"#1\": a\\b\n  - c"
    version := .text "1.0"
    debug := .bool true
    engine := { EngineSettings.standard with
      rulesFile := .text "no"
      defaultPriority := .int 340282366920938463463374607431768211456
      commandMessage := .text ""
      haltMessage := .text " ~é\u2028 " }
    logging := { LogSettings.standard with
      level := .text "debug"
      directory := .text "2024-01-02" } }

/-- The files after they are saved. -/
def unusualSaved : FileStore :=
  [(["d".toList], .directory), (["d".toList, "c".toList], .file (Text.encode unusual.fileText))]

theorem save_unusual : unusual.save [] (some "./d/c") = .ok unusualSaved := by
  rfl

theorem unusual_settings_load_back :
    ∃ loaded, load [("HOME", "/")] unusualSaved (some "d/../d//c") true = .ok loaded ∧
      loaded.toRecord = unusual.toRecord ∧ loaded.directory = "/.config/regexp-handler" :=
  saved_settings_load_back (by rfl) (by decide) save_unusual (by rfl)
    (Except.toOption_eq_some.1 (by decide +kernel))

end Settings
end Switchboard
