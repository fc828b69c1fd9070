import Switchboard.Proofs.Command.Keyed
import Switchboard.Proofs.Entries
import Switchboard.Proofs.Text.PercentCoding

/-!
# Reading parameters

Parameters are pairs, written with semicolons between them and percent coding inside of them. What is
read from such a text are these pairs (`pairs_join`), since percent coding leaves neither semicolons
nor equals signs nor plus signs; empty groups count for nothing.

Of pairs with one name the first says where the name stands and the last what it holds
(`Entries.keys_ofPairs`, `Entries.get?_ofPairs`), and putting pairs into entries one by one is
the same as making entries of them first (`Entries.setAll_ofPairs`). So a text behind a semicolon
updates what is read from the text in front of it (`parameters_append`).
-/

namespace Switchboard

open Text

/-! ## Groups -/

/-- The pairs that a text is cut into, also those with one name. -/
def pairsOf (s : List Char) : List (String × String) :=
  ((splitAll ';' s).filter fun group => !group.isEmpty).map readParameter

theorem parameters_eq (s : List Char) : parameters s = Entries.ofPairs (pairsOf s) :=
  rfl

theorem splitAll_append (sep : Char) (s t : List Char) :
    splitAll sep (s ++ sep :: t) = splitAll sep s ++ splitAll sep t := by
  induction s with
  | nil => simp [splitAll]
  | cons c rest ih =>
    by_cases hc : c = sep
    · simp [splitAll, hc, ih]
    · cases hrest : splitAll sep rest with
      | nil => exact absurd hrest (splitAll_ne_nil sep rest)
      | cons piece pieces => simp [splitAll, hc, ih, hrest]

theorem splitAll_of_not_mem {sep : Char} {s : List Char} (h : sep ∉ s) :
    splitAll sep s = [s] := by
  rcases splitAll_append_of_not_mem h [] with ⟨piece, pieces, hnil, hs⟩
  rw [splitAll, List.cons.injEq] at hnil
  rw [List.append_nil] at hs
  rw [hs, ← hnil.1, ← hnil.2, List.append_nil]

theorem pairsOf_append (s t : List Char) : pairsOf (s ++ ';' :: t) = pairsOf s ++ pairsOf t := by
  rw [pairsOf, splitAll_append, List.filter_append, List.map_append]
  rfl

/-- What stands behind a semicolon updates what is read from the text in front of it. -/
theorem parameters_append (s t : List Char) :
    parameters (s ++ ';' :: t) = Entries.setAll (parameters t) (parameters s) := by
  rw [parameters_eq, pairsOf_append, Entries.ofPairs, Entries.setAll_append, parameters_eq t,
    Entries.setAll_ofPairs]
  rfl

/-! ## Written pairs -/

/-- A text writes a pair, if percent coding of its name and value is on either side of an equals
sign; an empty text writes nothing. -/
def Writes : Option (String × String) → List Char → Prop
  | none, text => text = []
  | some (name, value), text => ∃ left right, text = left ++ '=' :: right ∧
      Escapes (encode name.toList) left ∧ Escapes (encode value.toList) right

theorem Writes.not_mem {pair? : Option (String × String)} {text : List Char}
    (h : Writes pair? text) : ';' ∉ text := by
  cases pair? with
  | none =>
    rw [show text = [] from h]
    exact List.not_mem_nil
  | some pair =>
    rcases h with ⟨left, right, rfl, hleft, hright⟩
    simp [hleft.not_mem (c := ';') (by decide) (by decide),
      hright.not_mem (c := ';') (by decide) (by decide)]

theorem decodeComponent_of_escapes {s : String} {text : List Char}
    (h : Escapes (encode s.toList) text) : decodeComponent text = s := by
  rw [decodeComponent, replaceChar_of_not_mem (h.not_mem (by decide) (by decide)),
    h.percentDecode_eq, String.ofList_toList]

/-- The only pair of a written group is the one that was written. -/
theorem pairsOf_of_writes {pair? : Option (String × String)} {text : List Char}
    (h : Writes pair? text) : pairsOf text = pair?.toList := by
  rw [pairsOf, splitAll_of_not_mem h.not_mem]
  cases pair? with
  | none =>
    rw [show text = [] from h]
    rfl
  | some pair =>
    rcases h with ⟨left, right, rfl, hleft, hright⟩
    have hread : readParameter (left ++ '=' :: right) = pair := by
      rw [readParameter, cut?_append_of_not_mem (hleft.not_mem (by decide) (by decide))]
      simp only [decodeComponent_of_escapes hleft, decodeComponent_of_escapes hright]
    simp [hread]

/-- Groups with semicolons between them are read as the pairs that were written. -/
theorem pairsOf_join {groups : List (Option (String × String))} {texts : List (List Char)}
    (h : List.Forall₂ Writes groups texts) :
    pairsOf (join [';'] texts) = groups.filterMap id := by
  induction h with
  | nil => rfl
  | @cons pair? text groups texts hfirst hrest ih =>
    have hpair := pairsOf_of_writes hfirst
    have hgroups : (pair? :: groups).filterMap id = pair?.toList ++ groups.filterMap id := by
      cases pair? <;> rfl
    cases texts with
    | nil =>
      cases hrest
      rw [hgroups, join, hpair, List.filterMap_nil, List.append_nil]
    | cons next texts =>
      rw [join, List.append_assoc, List.singleton_append, pairsOf_append, hpair, ih, hgroups]
      simp

/-- Percent coding writes every pair. Reading gives back what was written: the names in the order of
their first pairs, each with the value of its last pair, whatever empty groups stand between. Texts
that are put together are read one after the other. -/
theorem parameters_read_written_pairs :
    (∀ name value, Writes (some (name, value))
      (percentEncode name.toList ++ '=' :: percentEncode value.toList)) ∧
    (∀ (groups : List (Option (String × String))) (texts : List (List Char)),
      List.Forall₂ Writes groups texts →
      (parameters (join [';'] texts)).keys = ((groups.filterMap id).map (·.1)).eraseDups ∧
      ∀ name, (parameters (join [';'] texts)).get? name =
        (groups.filterMap id).reverse.lookup name) ∧
    ∀ s t, parameters (s ++ ';' :: t) = Entries.setAll (parameters t) (parameters s) := by
  refine ⟨?_, ?_, parameters_append⟩
  · intro name value
    exact ⟨_, _, rfl, escapes_percentEncode _, escapes_percentEncode _⟩
  · intro groups texts h
    rw [parameters_eq, pairsOf_join h]
    exact ⟨Entries.keys_ofPairs _, fun name => Entries.get?_ofPairs name _⟩

/-- Groups with a name that occurs twice, and an empty group in front and between. -/
def repeatedName : List (Option (String × String)) :=
  [none, some ("ä;", "=%+"), none, some ("k", ""), some ("ä;", "2")]

/-- A text for each of them. The name that occurs twice is written with capital and with small
digits. -/
def repeatedTexts : List (List Char) :=
  [[], percentEncode ['ä', ';'] ++ '=' :: percentEncode ['=', '%', '+'], [], ['k', '='],
    ['%', 'c', '3', '%', 'a', '4', '%', '3', 'b', '=', '2']]

theorem repeated_name_is_read :
    List.Forall₂ Writes repeatedName repeatedTexts ∧
    (parameters (join [';'] repeatedTexts)).keys = ["ä;", "k"] ∧
    (parameters (join [';'] repeatedTexts)).get? "ä;" = some "2" ∧
    (parameters (join [';'] repeatedTexts)).get? "k" = some "" := by
  have hsmall : Escapes (encode "ä;".toList) ['%', 'c', '3', '%', 'a', '4', '%', '3', 'b'] := by
    have hbytes : encode "ä;".toList = [0xc3, 0xa4, 0x3b] := by decide
    rw [hbytes]
    exact .escape rfl rfl (.escape rfl rfl (.escape rfl rfl .nil))
  have hwrites : List.Forall₂ Writes repeatedName repeatedTexts :=
    .cons rfl <| .cons ⟨_, _, rfl, escapes_percentEncode _, escapes_percentEncode _⟩ <| .cons rfl <|
      .cons ⟨['k'], [], rfl, escapes_percentEncode ['k'], .nil⟩ <|
      .cons ⟨_, ['2'], rfl, hsmall, escapes_percentEncode ['2']⟩ .nil
  rcases parameters_read_written_pairs.2.1 repeatedName repeatedTexts hwrites with ⟨hkeys, hget⟩
  refine ⟨hwrites, ?_, ?_, ?_⟩
  · rw [hkeys]
    decide
  · rw [hget]
    decide
  · rw [hget]
    decide

end Switchboard
