import Switchboard.Message
import Switchboard.Proofs.Calendar.IsoText
import Switchboard.Proofs.Entries

/-!
# Messages as records

A message that is written as a record and read back is the same message, with its fields in their
order and the mark of a return gone (`Message.copy_keeps_message`). The moment goes through its ISO
text, and so an offset of less than a second is the one thing that a copy loses
(`Message.copy_loses_fraction_of_offset`).
-/

namespace Switchboard
namespace Message

open Calendar

/-! ## Parts of a record -/

theorem plainString_text (s : String) : (Value.text s).plainString = s :=
  String.ofList_toList

/-- Fields with names of their own are read back in their order. -/
theorem fieldsOf_toValue {fields : Fields} (h : fields.keys.Nodup) :
    fieldsOf fields.toValue = .ok fields := by
  have hpairs : (fields.map fun pair => (Value.text pair.1, pair.2)).map
      (fun pair => (pair.1.plainString, pair.2)) = fields := by
    rw [List.map_map]
    refine List.map_id'' (fun pair => ?_) fields
    simp [plainString_text]
  show Except.ok (Entries.ofPairs ((fields.map fun pair => (Value.text pair.1, pair.2)).map
    fun pair => (pair.1.plainString, pair.2))) = _
  rw [hpairs, Entries.ofPairs_of_nodup h]

theorem timestampOf_isoText {moment : Moment} (h : moment.IsProper) (now : Moment) :
    timestampOf now (some (.text (String.ofList moment.isoText))) =
      .ok { moment with offset := moment.offset.map Moment.readBack } := by
  simp only [timestampOf, String.toList_ofList, Moment.ofIsoText?_isoText h]

/-! ## Copies -/

/-- What a message is read back as. -/
theorem copy_eq {m : Message} (hfields : m.fields.keys.Nodup) (htime : m.timestamp.IsProper)
    (now : Moment) :
    m.copy now = .ok { m with
      returned := false
      timestamp := { m.timestamp with offset := m.timestamp.offset.map Moment.readBack } } := by
  have hname : Value.lookupText? "name" m.toRecord = some (.text m.name) := rfl
  have hentries : Value.lookupText? "fields" m.toRecord = some m.fields.toValue := rfl
  have hhandled : Value.lookupText? "handled" m.toRecord = some (.bool m.handled) := rfl
  have hresult : Value.lookupText? "result" m.toRecord = some m.result := rfl
  have herror : Value.lookupText? "error" m.toRecord = some m.errorValue := rfl
  have htimestamp : Value.lookupText? "timestamp" m.toRecord =
      some (.text (String.ofList m.timestamp.isoText)) := rfl
  rw [copy, ofRecord, hname, hentries, hhandled, hresult, herror, htimestamp,
    timestampOf_isoText htime]
  cases hnone : m.error with
  | none =>
    have hvalue : m.errorValue = .none := by simp [errorValue, hnone]
    simp [hvalue, fieldsOf_toValue hfields, plainString_text, Value.isTruthy, bind, Except.bind,
      pure, Except.pure]
  | some text =>
    have hvalue : m.errorValue = .text text := by simp [errorValue, hnone]
    simp [hvalue, fieldsOf_toValue hfields, plainString_text, Value.isTruthy, bind, Except.bind,
      pure, Except.pure]

/-- A copy is the message itself, without the mark of a return; only an offset of less than a second
becomes none from universal time. -/
theorem copy_keeps_message {m : Message} (hfields : m.fields.keys.Nodup)
    (htime : m.timestamp.IsProper) (now : Moment) :
    ∃ copied, m.copy now = .ok copied ∧
      (¬ m.timestamp.HasFractionOffset →
        copied = { m with returned := false } ∧ copied.toRecord = m.toRecord) ∧
      (m.timestamp.HasFractionOffset →
        copied = { m with
          returned := false, timestamp := { m.timestamp with offset := some 0 } }) := by
  refine ⟨_, copy_eq hfields htime now, fun hwhole => ?_, fun hfraction => ?_⟩
  · rw [Moment.map_readBack hwhole]
    exact ⟨rfl, rfl⟩
  · rw [Moment.map_readBack_of_fraction hfraction]

/-- A message whose moment lies in the first year, with an offset that has a fraction. -/
def early : Message :=
  { name := "call.route"
    fields := [("called", .text "100"), ("a", .int 1), ("", .list [.none, .bool true])]
    handled := true
    result := .dict [(.int 1, .float (.zero true))]
    error := some ""
    returned := true
    timestamp := ⟨1, 2, 28, 23, 59, 0, 7, some (-1500000)⟩ }

theorem early_comes_back :
    early.fields.keys.Nodup ∧ early.timestamp.IsProper ∧ ¬ early.timestamp.HasFractionOffset ∧
      ∃ copied, early.copy early.timestamp = .ok copied ∧
        copied = { early with returned := false } ∧ copied.toRecord = early.toRecord := by
  have hfields : early.fields.keys.Nodup := by decide
  have htime : early.timestamp.IsProper :=
    ⟨by decide, by decide, by decide, by decide, by decide, fun offset h => by cases h; decide⟩
  have hwhole : ¬ early.timestamp.HasFractionOffset := by
    rintro ⟨offset, hoffset, -, hsmall⟩
    cases hoffset
    exact absurd hsmall (by decide)
  obtain ⟨copied, hcopy, hsame, -⟩ := copy_keeps_message hfields htime early.timestamp
  exact ⟨hfields, htime, hwhole, copied, hcopy, hsame hwhole⟩

/-- A message whose moment is a millionth of a second off universal time. -/
def askew : Message :=
  .fresh "n" [] ⟨2024, 1, 2, 3, 4, 5, 0, some 1⟩

/-- Such a moment is read back as one of universal time. -/
theorem copy_loses_fraction_of_offset :
    ¬ ∀ (m : Message) (now : Moment), m.fields.keys.Nodup → m.timestamp.IsProper →
      m.copy now = .ok { m with returned := false } := by
  intro hall
  have htime : askew.timestamp.IsProper :=
    ⟨by decide, by decide, by decide, by decide, by decide, fun offset h => by cases h; decide⟩
  have hfields : askew.fields.keys.Nodup := List.nodup_nil
  have hsame := hall askew askew.timestamp hfields htime
  rw [copy_eq hfields htime] at hsame
  have hoffset := congrArg (fun r : Except Fault Message =>
    r.toOption.bind fun m => m.timestamp.offset) hsame
  exact absurd hoffset (by decide)

end Message
end Switchboard
