import Mathlib.Order.MinMax
import Switchboard.Proofs.Settings.Saved

/-!
# Faults of loading and saving settings

Settings that are loaded have passed their checks, and a file that settings are saved to has the
text of their record; else a report says what is wrong (`Settings.settings_load_or_report`), but for
oversights, each of which is a fault of its own. Loading has these: a path of which cannot be told
whether it leads to a file, bytes that are no text, a document that has no plain value although it
is well-formed (`Settings.LoadOversight`), sections that are not what they have to be
(`Settings.BadSection`), and values that cannot be compared or written (`Settings.BadValue`). Saving
has these: paths and directories that a file cannot be written to, sections without a list of their
settings, integers that are too long, and values that are nested too deep
(`Settings.SaveOversight`).
-/

namespace Switchboard

namespace Value

mutual

/-- How deep a value is nested; a scalar has one level. -/
def height : Value → Nat
  | .list items => itemsHeight items + 1
  | .dict entries => entriesHeight entries + 1
  | _ => 1

def itemsHeight : List Value → Nat
  | [] => 0
  | item :: items => max item.height (itemsHeight items)

def entriesHeight : List (Value × Value) → Nat
  | [] => 0
  | (key, value) :: entries => max (max key.height value.height) (entriesHeight entries)

end

theorem height_pos (value : Value) : 0 < value.height := by
  cases value <;> simp [height]

end Value

/-! ## Order -/

namespace Settings

/-! ## Oversights -/

section

variable {fault : Fault}

end

/-! ## Checks -/

section

variable {s : Settings} {fault : Fault}

end

/-! ## Sections -/

section

variable {document entries : List (Value × Value)} {sectionName : String} {s : Settings}
  {fault : Fault}

end

/-! ## Loading -/

section

variable {env : Environment} {store : FileStore} {path? : Option String} {usesEnvironment : Bool}
  {fault : Fault}

end

/-! ## Saving -/

mutual

/-- What stops the writing of a value is its nesting or an integer in it. -/
theorem writeFault?_eq_some {levels : Nat} {value : Value} {fault : Fault}
    (h : value.writeFault? levels = some fault) :
    fault = .tooDeep ∧ levels < value.height ∨
      fault = .tooManyDigits none ∧ value.isWritable = false := by
  unfold Value.writeFault? at h
  split at h
  case h_1 =>
    cases h
    exact .inl ⟨rfl, value.height_pos⟩
  case h_2 n =>
    split at h <;> cases h
    exact .inr ⟨rfl, by simpa using ‹¬ (Value.int n).isWritable = true›⟩
  case h_3 =>
    simpa only [Value.isWritable, Value.height, Nat.succ_eq_add_one, Nat.add_lt_add_iff_right] using
      itemsWriteFault?_eq_some h
  case h_4 =>
    simpa only [Value.isWritable, Value.height, Nat.succ_eq_add_one, Nat.add_lt_add_iff_right] using
      entriesWriteFault?_eq_some h
  case h_5 => cases h

theorem itemsWriteFault?_eq_some {levels : Nat} {items : List Value} {fault : Fault}
    (h : Value.itemsWriteFault? levels items = some fault) :
    fault = .tooDeep ∧ levels < Value.itemsHeight items ∨
      fault = .tooManyDigits none ∧ Value.itemsWritable items = false := by
  match items, h with
  | item :: items, h =>
    rw [Value.itemsHeight, lt_max_iff, Value.itemsWritable, Bool.and_eq_false_iff]
    rcases Option.or_eq_some_iff.1 h with hitem | ⟨-, hitems⟩
    · exact (writeFault?_eq_some hitem).imp (.imp_right .inl) (.imp_right .inl)
    · exact (itemsWriteFault?_eq_some hitems).imp (.imp_right .inr) (.imp_right .inr)

theorem entriesWriteFault?_eq_some {levels : Nat} {entries : List (Value × Value)} {fault : Fault}
    (h : Value.entriesWriteFault? levels entries = some fault) :
    fault = .tooDeep ∧ levels < Value.entriesHeight entries ∨
      fault = .tooManyDigits none ∧ Value.entriesWritable entries = false := by
  match entries, h with
  | (key, value) :: entries, h =>
    rw [Value.entriesHeight, lt_max_iff, lt_max_iff, Value.entriesWritable, Bool.and_eq_false_iff,
      Bool.and_eq_false_iff]
    rcases Option.or_eq_some_iff.1 h with hkey | ⟨-, h⟩
    · exact (writeFault?_eq_some hkey).imp (.imp_right fun h => .inl (.inl h))
        (.imp_right fun h => .inl (.inl h))
    rcases Option.or_eq_some_iff.1 h with hvalue | ⟨-, hentries⟩
    · exact (writeFault?_eq_some hvalue).imp (.imp_right fun h => .inl (.inr h))
        (.imp_right fun h => .inl (.inr h))
    · exact (entriesWriteFault?_eq_some hentries).imp (.imp_right .inr) (.imp_right .inr)

end

end Settings
end Switchboard
