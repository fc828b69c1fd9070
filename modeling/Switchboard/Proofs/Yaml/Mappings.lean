import Switchboard.Proofs.Except
import Switchboard.Yaml.Load

/-!
# Mappings of loaded documents

A mapping of a document has each text once among its keys, however often the document writes it and
whatever it takes in from other mappings (`Yaml.isWellKeyed_of_load`). So what a mapping has at a
text does not depend on the order of its entries (`Value.lookupText?_eq_some_iff`).
-/

namespace Switchboard

namespace Value

/-! ## Texts among the keys -/

/-- No text is the key of two entries. -/
def HasDistinctTexts (entries : List (Value × Value)) : Prop :=
  entries.Pairwise fun a b => ∀ s, a.1 = .text s → b.1 ≠ .text s

theorem isText_iff {value : Value} {s : String} : value.isText s = true ↔ value = .text s := by
  cases value <;> simp [isText]

/-- What a mapping has at a text is in it. -/
theorem mem_of_lookupText? {entries : List (Value × Value)} {name : String} {value : Value}
    (h : lookupText? name entries = some value) : (.text name, value) ∈ entries := by
  induction entries with
  | nil => cases h
  | cons entry rest ih =>
    rcases entry with ⟨k, v⟩
    rw [lookupText?] at h
    split at h
    case isTrue hk =>
      cases h
      rw [isText_iff.1 hk]
      exact List.mem_cons_self
    case isFalse => exact List.mem_cons_of_mem _ (ih h)

/-- With distinct texts the order of the entries does not matter to what is at a text. -/
theorem lookupText?_eq_some_iff {entries : List (Value × Value)} (h : HasDistinctTexts entries)
    {name : String} {value : Value} :
    lookupText? name entries = some value ↔ (.text name, value) ∈ entries := by
  refine ⟨mem_of_lookupText?, fun hmem => ?_⟩
  induction entries with
  | nil => cases hmem
  | cons entry rest ih =>
    rcases entry with ⟨k, v⟩
    have hdistinct := List.pairwise_cons.1 h
    rw [lookupText?]
    rcases List.mem_cons.1 hmem with hhere | hrest
    · cases hhere
      rw [if_pos (isText_iff.2 rfl)]
    · have hk : ¬ k.isText name = true := fun hk =>
        hdistinct.1 _ hrest name (isText_iff.1 hk) rfl
      rw [if_neg hk]
      exact ih hdistinct.2 hrest

theorem HasDistinctTexts.unique {entries : List (Value × Value)} (h : HasDistinctTexts entries)
    {name : String} {value other : Value} (hvalue : (.text name, value) ∈ entries)
    (hother : (.text name, other) ∈ entries) : value = other := by
  rw [← lookupText?_eq_some_iff h] at hvalue hother
  exact Option.some.inj (hvalue.symm.trans hother)

/-! ## Setting a key -/

/-- An entry of a mapping with a key set has a key from before, or the one that is set. Its content
is from before too, or what is set. -/
theorem mem_setEntry {key value : Value} {entries : List (Value × Value)} {entry : Value × Value}
    (h : entry ∈ setEntry key value entries) :
    (entry.1 = key ∨ ∃ old, (entry.1, old) ∈ entries) ∧ (entry.2 = value ∨ entry ∈ entries) := by
  induction entries with
  | nil =>
    rw [List.mem_singleton.1 h]
    exact ⟨.inl rfl, .inl rfl⟩
  | cons first rest ih =>
    rcases first with ⟨k, v⟩
    rw [setEntry] at h
    split at h
    case isTrue =>
      rcases List.mem_cons.1 h with rfl | hrest
      · exact ⟨.inr ⟨v, List.mem_cons_self⟩, .inl rfl⟩
      · exact ⟨.inr ⟨_, List.mem_cons_of_mem _ hrest⟩, .inr (List.mem_cons_of_mem _ hrest)⟩
    case isFalse =>
      rcases List.mem_cons.1 h with rfl | hrest
      · exact ⟨.inr ⟨v, List.mem_cons_self⟩, .inr List.mem_cons_self⟩
      · obtain ⟨hkey, hvalue⟩ := ih hrest
        exact ⟨hkey.imp_right fun ⟨old, hold⟩ => ⟨old, List.mem_cons_of_mem _ hold⟩,
          hvalue.imp_right (List.mem_cons_of_mem _)⟩

theorem hasDistinctTexts_setEntry {entries : List (Value × Value)} (h : HasDistinctTexts entries)
    (key value : Value) : HasDistinctTexts (setEntry key value entries) := by
  induction entries with
  | nil => exact List.pairwise_singleton _ _
  | cons first rest ih =>
    rcases first with ⟨k, v⟩
    obtain ⟨hfirst, hrest⟩ := List.pairwise_cons.1 h
    rw [setEntry]
    split
    case isTrue => exact List.pairwise_cons.2 ⟨hfirst, hrest⟩
    case isFalse hother =>
      refine List.pairwise_cons.2 ⟨fun entry hentry s hk hs => ?_, ih hrest⟩
      rcases (mem_setEntry hentry).1 with hkey | ⟨old, hold⟩
      · -- two equal texts are the same key
        have hks : k = .text s := hk
        rw [← hkey, hs, hks] at hother
        exact hother (by simp [sameKey])
      · exact hfirst _ hold s hk hs

/-! ## Values all of whose mappings have distinct texts -/

/-- In every mapping of the value no text is the key of two entries. -/
inductive IsWellKeyed : Value → Prop
  | single {value : Value} (h : value.isKey = true) : IsWellKeyed value
  | list {items : List Value} (h : ∀ item ∈ items, IsWellKeyed item) : IsWellKeyed (.list items)
  | dict {entries : List (Value × Value)} (h : HasDistinctTexts entries)
      (hvalues : ∀ entry ∈ entries, IsWellKeyed entry.2) : IsWellKeyed (.dict entries)

theorem IsWellKeyed.distinct {entries : List (Value × Value)}
    (h : (Value.dict entries).IsWellKeyed) : HasDistinctTexts entries := by
  cases h with
  | single hkey => cases hkey
  | dict hdistinct _ => exact hdistinct

theorem IsWellKeyed.value_of_mem {entries : List (Value × Value)}
    (h : (Value.dict entries).IsWellKeyed) {entry : Value × Value} (hmem : entry ∈ entries) :
    entry.2.IsWellKeyed := by
  cases h with
  | single hkey => cases hkey
  | dict _ hvalues => exact hvalues entry hmem

end Value

namespace Yaml

open Value

/-! ## Values of nodes -/

theorem isKey_of_read {kind : Kind} {s : List Char} {value : Value} (h : kind.read s = .ok value) :
    value.isKey = true := by
  have hmap : ∀ {α : Type} {x : Except Flaw α} {f : α → Value}, (∀ a, (f a).isKey = true) →
      x.map f = .ok value → value.isKey = true := by
    intro α x f hf hx
    cases x with
    | error flaw => cases hx
    | ok a =>
      cases hx
      exact hf a
  unfold Kind.read at h
  split at h
  case h_1 => cases h; rfl
  case h_2 => exact hmap (fun _ => rfl) h
  case h_3 => exact hmap (fun _ => rfl) h
  case h_4 => exact hmap (fun _ => rfl) h
  case h_5 => cases h; rfl
  case h_6 =>
    split at h
    · unfold Stamp.toValue at h
      simp only at h
      split at h
      · split at h <;> cases h <;> rfl
      · cases h
    · cases h
  case h_7 =>
    split at h <;> cases h
    rfl
  case h_8 => cases h

/-- The values of entries are well keyed. -/
def AreWellKeyed (entries : ValueEntries) : Prop :=
  ∀ entry ∈ entries, entry.2.IsWellKeyed

theorem AreWellKeyed.nil : AreWellKeyed [] := by
  intro entry hmem
  cases hmem

theorem AreWellKeyed.append {entries more : ValueEntries} (h : AreWellKeyed entries)
    (hmore : AreWellKeyed more) : AreWellKeyed (entries ++ more) := by
  intro entry hmem
  exact (List.mem_append.1 hmem).elim (h entry) (hmore entry)

theorem AreWellKeyed.insert {entries more : ValueEntries} (h : AreWellKeyed (entries ++ more))
    {entry : Value × Value} (hentry : entry.2.IsWellKeyed) :
    AreWellKeyed (entries ++ entry :: more) := by
  have hsplit := List.forall_mem_append.1 h
  exact List.forall_mem_append.2 ⟨hsplit.1, List.forall_mem_cons.2 ⟨hentry, hsplit.2⟩⟩

/-- Setting keys one by one makes a mapping with distinct texts. -/
theorem isWellKeyed_toMapping {p : Parts} (h : AreWellKeyed p.all) :
    (Value.dict p.toMapping).IsWellKeyed := by
  have hset : ∀ (entries start : ValueEntries), AreWellKeyed entries → HasDistinctTexts start →
      AreWellKeyed start →
      (Value.dict (entries.foldl (fun entries entry => setEntry entry.1 entry.2 entries)
        start)).IsWellKeyed := by
    intro entries
    induction entries with
    | nil => exact fun start _ hdistinct hstart => .dict hdistinct hstart
    | cons entry rest ih =>
      intro start hentries hdistinct hstart
      refine ih _ (fun other hother => hentries other (List.mem_cons_of_mem _ hother))
        (hasDistinctTexts_setEntry hdistinct _ _) (fun other hother => ?_)
      rcases (mem_setEntry hother).2 with hvalue | hold
      · rw [hvalue]
        exact hentries entry List.mem_cons_self
      · exact hstart other hold
  exact hset p.all [] h .nil .nil

namespace Node

/-- What an entry of a mapping's own adds. -/
theorem exists_of_ownEntry {key node : Node} {entries : List (Node × Node)} {parts : Parts}
    (hkey : ¬ key.isMerge = true) (h : entryValues ((key, node) :: entries) = .ok parts) :
    ∃ keyValue value rest, node.toValue = .ok value ∧ entryValues entries = .ok rest ∧
      parts = { rest with own := (keyValue, value) :: rest.own } := by
  rw [entryValues, if_neg hkey] at h
  -- the two ways to the value of the key go on alike
  simp only at h
  split at h
  all_goals
    obtain ⟨keyValue, -, h⟩ := Except.bind_eq_ok.1 h
    split at h
    · cases h
    · obtain ⟨value, hvalue, h⟩ := Except.bind_eq_ok.1 h
      obtain ⟨rest, hentries, h⟩ := Except.bind_eq_ok.1 h
      cases h
      exact ⟨keyValue, value, rest, hvalue, hentries, rfl⟩

mutual

theorem isWellKeyed_toValue (node : Node) {value : Value} (h : node.toValue = .ok value) :
    value.IsWellKeyed := by
  have hempty : (Value.list []).IsWellKeyed := .list (by simp)
  match node with
  | .scalar kind s => exact .single (isKey_of_read h)
  | .sequence kind items =>
    unfold toValue at h
    split at h
    case h_1 =>
      obtain ⟨values, hitems, hreturn⟩ := Except.bind_eq_ok.1 h
      cases hreturn
      exact .list (isWellKeyed_itemValues items hitems)
    case h_2 =>
      obtain ⟨⟨⟩, -, hreturn⟩ := Except.bind_eq_ok.1 h
      cases hreturn
      exact hempty
    case h_3 => cases h
  | .mapping kind entries =>
    unfold toValue at h
    split at h
    case h_1 =>
      obtain ⟨parts, hentries, hreturn⟩ := Except.bind_eq_ok.1 h
      cases hreturn
      exact isWellKeyed_toMapping (areWellKeyed_entryValues entries hentries)
    case h_2 =>
      obtain ⟨parts, -, hreturn⟩ := Except.bind_eq_ok.1 h
      cases hreturn
      exact hempty
    case h_3 =>
      split at h
      case h_1 =>
        split at h
        case isTrue => cases h
        case isFalse => exact .single (isKey_of_read h)
      case h_2 => cases h
  | .itself =>
    cases h
    exact hempty

theorem isWellKeyed_itemValues (items : List Node) {values : List Value}
    (h : itemValues items = .ok values) : ∀ value ∈ values, value.IsWellKeyed := by
  match items with
  | [] =>
    cases h
    simp
  | item :: items =>
    rw [itemValues] at h
    obtain ⟨value, hitem, h⟩ := Except.bind_eq_ok.1 h
    obtain ⟨rest, hitems, h⟩ := Except.bind_eq_ok.1 h
    cases h
    exact List.forall_mem_cons.2
      ⟨isWellKeyed_toValue item hitem, isWellKeyed_itemValues items hitems⟩

theorem areWellKeyed_givenEntries (node : Node) {given : ValueEntries}
    (h : node.givenEntries = .ok given) : AreWellKeyed given := by
  match node with
  | .scalar _ _ => cases h
  | .itself =>
    cases h
    exact .nil
  | .sequence _ items => exact areWellKeyed_givenByItems items h
  | .mapping _ entries =>
    rw [givenEntries] at h
    obtain ⟨parts, hentries, h⟩ := Except.bind_eq_ok.1 h
    cases h
    exact areWellKeyed_entryValues entries hentries

theorem areWellKeyed_givenByItems (items : List Node) {given : ValueEntries}
    (h : givenByItems items = .ok given) : AreWellKeyed given := by
  match items with
  | [] =>
    cases h
    exact .nil
  | .scalar _ _ :: _ => cases h
  | .sequence _ _ :: _ => cases h
  | .itself :: items => exact areWellKeyed_givenByItems items h
  | .mapping _ entries :: items =>
    rw [givenByItems] at h
    obtain ⟨parts, hentries, h⟩ := Except.bind_eq_ok.1 h
    obtain ⟨more, hitems, h⟩ := Except.bind_eq_ok.1 h
    cases h
    exact (areWellKeyed_givenByItems items hitems).append
      (areWellKeyed_entryValues entries hentries)

theorem areWellKeyed_entryValues (entries : List (Node × Node)) {parts : Parts}
    (h : entryValues entries = .ok parts) : AreWellKeyed parts.all := by
  match entries with
  | [] =>
    cases h
    exact .nil
  | (key, node) :: entries =>
    by_cases hmerge : key.isMerge = true
    · rw [entryValues, if_pos hmerge] at h
      obtain ⟨given, hgiven, h⟩ := Except.bind_eq_ok.1 h
      obtain ⟨rest, hentries, h⟩ := Except.bind_eq_ok.1 h
      cases h
      rw [Parts.all, List.append_assoc]
      exact (areWellKeyed_givenEntries node hgiven).append
        (areWellKeyed_entryValues entries hentries)
    · obtain ⟨keyValue, value, rest, hvalue, hentries, rfl⟩ := exists_of_ownEntry hmerge h
      exact (areWellKeyed_entryValues entries hentries).insert
        (isWellKeyed_toValue node hvalue)

end

end Node

/-- In the value that a text stands for each mapping has distinct texts among its keys. -/
theorem isWellKeyed_of_load {s : List Char} {value : Value} (h : load s = .ok value) :
    value.IsWellKeyed := by
  obtain ⟨node?, -, h⟩ := Except.bind_eq_ok.1 h
  split at h
  · cases h
    exact .single rfl
  · obtain ⟨found, hfound, hplain⟩ := Except.bind_eq_ok.1 h
    split at hplain <;> cases hplain
    exact Node.isWellKeyed_toValue _ hfound

end Yaml
end Switchboard
