import Mathlib.Data.List.Basic
import Mathlib.Data.List.TakeWhile
import Switchboard.Calendar.Moment
import Switchboard.Proofs.Value.Writable

/-!
# Reading ISO text back

The ISO text of a moment is read as the moment again (`Moment.ofIsoText?_isoText`): every part of it
has a fixed number of digits, the date ends at its tenth character, and the offset begins at the
first sign behind the time of day.

One thing is not read back. An offset of less than a second is written with its fraction, but read
as none from universal time (`Moment.readBack`, `Moment.HasFractionOffset`).
-/

namespace Switchboard

open Text

/-! ## Numbers with a fixed number of digits -/

namespace Text

variable {width n : Nat}

theorem length_paddedNat (width : Nat) (h : n < 10 ^ width) (hwidth : 0 < width) :
    (paddedNat width n).length = width := by
  have hle : (natText n).length ≤ width :=
    (Nat.length_toDigits_le_iff (by decide) hwidth).2 h
  simp only [paddedNat, padStart, List.length_append, List.length_replicate]
  omega

theorem isDigit_of_mem_paddedNat {c : Char} (h : c ∈ paddedNat width n) : c.isDigit = true := by
  rcases List.mem_append.1 h with hzero | hdigit
  · rw [List.eq_of_mem_replicate hzero]
    decide
  · exact isDigit_of_mem_natText hdigit

/-- Zeros in front do not count. -/
theorem ofDigitChars_paddedNat (width n : Nat) : Nat.ofDigitChars 10 (paddedNat width n) 0 = n := by
  have hzeros : ∀ count, Nat.ofDigitChars 10 (List.replicate count '0') 0 = 0 := by
    intro count
    induction count with
    | zero => rfl
    | succ count ih => rw [List.replicate_succ, Nat.ofDigitChars_cons]; exact ih
  rw [paddedNat, padStart, Nat.ofDigitChars_append, hzeros, ofDigitChars_natText]

/-- Two digits in a row, to see single characters of a text. -/
theorem exists_paddedNat_two (h : n < 100) :
    ∃ tens ones, paddedNat 2 n = [tens, ones] ∧ tens.isDigit = true ∧ ones.isDigit = true := by
  rcases List.length_eq_two.1 (length_paddedNat 2 h (by decide)) with ⟨a, b, hab⟩
  have hdigit : ∀ c ∈ [a, b], c.isDigit = true :=
    fun c hc => isDigit_of_mem_paddedNat (hab ▸ hc)
  exact ⟨a, b, hab, hdigit a (by simp), hdigit b (by simp)⟩

end Text

namespace Calendar
namespace Moment

theorem takeDigits?_paddedNat (width : Nat) {n : Nat} (h : n < 10 ^ width) (hwidth : 0 < width)
    (rest : List Char) : takeDigits? width (paddedNat width n ++ rest) = some (n, rest) := by
  have hlength := length_paddedNat width h hwidth
  have hdigits : (paddedNat width n).all Char.isDigit = true :=
    List.all_eq_true.2 fun _ => isDigit_of_mem_paddedNat
  have hvalue : (paddedNat width n).foldl (fun n c => 10 * n + (c.toNat - 0x30)) 0 = n :=
    ofDigitChars_paddedNat width n
  simp only [takeDigits?, List.take_left' hlength, List.drop_left' hlength, hlength, hdigits,
    hvalue, and_self, if_true]

theorem takeDigits?_two {n : Nat} (h : n < 100) (rest : List Char) :
    takeDigits? 2 (paddedNat 2 n ++ rest) = some (n, rest) :=
  takeDigits?_paddedNat _ h (by decide) rest

/-! ## Times of day -/

/-- The fraction of a second, which is not written if there is none. -/
def fractionText (micro : Nat) : List Char :=
  if micro = 0 then [] else '.' :: paddedNat 6 micro

/-- Hours, minutes, seconds and the fraction of a second. -/
def clockText (c : Clock) : List Char :=
  paddedNat 2 c.hour ++ ':' :: (paddedNat 2 c.minute ++ ':' :: (paddedNat 2 c.second ++
    fractionText c.micro))

section

variable {n micro fields : Nat} {colon : Option Bool} {got : List Nat}

theorem readFraction?_paddedNat (h : micro < 1000000) :
    readFraction? (paddedNat 6 micro) = some (micro, []) := by
  have hlength : (paddedNat 6 micro).length = 6 := length_paddedNat _ h (by decide)
  have hread := takeDigits?_paddedNat 6 h (by decide) []
  rw [List.append_nil] at hread
  simp [readFraction?, hlength, hread]

/-- The last part ends the text. -/
theorem readParts?_last (h : n < 100) :
    readParts? colon (fields + 1) got (paddedNat 2 n) = some (got ++ [n], 0, false) := by
  have hread := takeDigits?_two h []
  rw [List.append_nil] at hread
  simp [readParts?, hread]

/-- A colon leads on to the next part. -/
theorem readParts?_colon (h : n < 100) (hcolon : colon.getD true = true) {rest : List Char}
    (hrest : rest ≠ []) :
    readParts? colon (fields + 1) got (paddedNat 2 n ++ ':' :: rest) =
      readParts? (some true) fields (got ++ [n]) rest := by
  simp [readParts?, takeDigits?_two h, hcolon, hrest]

/-- A point leads on to the fraction. -/
theorem readParts?_fraction (h : n < 100) (hmicro : micro < 1000000) :
    readParts? (some true) (fields + 1) got (paddedNat 2 n ++ '.' :: paddedNat 6 micro) =
      some (got ++ [n], micro, false) := by
  have hne : paddedNat 6 micro ≠ [] := by
    rw [← List.length_pos_iff, length_paddedNat 6 hmicro (by decide)]
    decide
  simp [readParts?, takeDigits?_two h, readFraction?_paddedNat hmicro, hne]

end

theorem readClock?_minutes {hour minute : Nat} (hhour : hour < 100) (hminute : minute < 100) :
    readClock? (paddedNat 2 hour ++ ':' :: paddedNat 2 minute) =
      some (⟨hour, minute, 0, 0⟩, false) := by
  obtain ⟨a, b, hab, -, -⟩ := exists_paddedNat_two hminute
  have hne : paddedNat 2 minute ≠ [] := by simp [hab]
  rw [readClock?, readParts?_colon hhour rfl hne, readParts?_last hminute]
  rfl

theorem readClock?_clockText {c : Clock} (hhour : c.hour < 100) (hminute : c.minute < 100)
    (hsecond : c.second < 100) (hmicro : c.micro < 1000000) :
    readClock? (clockText c) = some (c, false) := by
  obtain ⟨a, b, hab, -, -⟩ := exists_paddedNat_two hminute
  obtain ⟨d, e, hde, -, -⟩ := exists_paddedNat_two hsecond
  rw [readClock?, clockText, readParts?_colon hhour rfl (by simp [hab]),
    readParts?_colon hminute rfl (by simp [hde])]
  by_cases hzero : c.micro = 0
  · obtain ⟨hour, minute, second, micro⟩ := c
    rw [fractionText, if_pos hzero, List.append_nil, readParts?_last hsecond]
    cases hzero
    rfl
  · rw [fractionText, if_neg hzero, readParts?_fraction hsecond hmicro]
    rfl

/-- No character of a time of day starts an offset. -/
theorem startsOffset_of_mem_clockText {c : Clock} {char : Char} (h : char ∈ clockText c) :
    startsOffset char = false := by
  have hdigit : ∀ {width n : Nat}, char ∈ paddedNat width n → startsOffset char = false := by
    intro width n hmem
    have hchar := isDigit_of_mem_paddedNat hmem
    simp only [startsOffset, Bool.or_eq_false_iff, beq_eq_false_iff_ne]
    refine ⟨⟨?_, ?_⟩, ?_⟩ <;> rintro rfl <;> exact absurd hchar (by decide)
  simp only [clockText, fractionText, List.mem_append, List.mem_cons] at h
  rcases h with hhour | rfl | hminute | rfl | hsecond | hfraction
  · exact hdigit hhour
  · rfl
  · exact hdigit hminute
  · rfl
  · exact hdigit hsecond
  · split at hfraction
    · cases hfraction
    · rcases List.mem_cons.1 hfraction with rfl | hmicro
      · rfl
      · exact hdigit hmicro

/-! ## Offsets -/

/-- The offset that is read for an offset: one of less than a second is dropped. -/
def readBack (offset : Int) : Int :=
  if offset.natAbs < 1000000 then 0 else offset

/-- The sign of an offset. -/
def signOf (offset : Int) : Char :=
  if offset < 0 then '-' else '+'

/-- The parts of an offset. -/
def clockOf (offset : Int) : Clock :=
  let seconds := offset.natAbs / 1000000
  ⟨seconds / 3600, seconds / 60 % 60, seconds % 60, offset.natAbs % 1000000⟩

theorem readClock?_offsetText {offset : Int} (h : offset.natAbs < 86400000000) :
    ∃ rest, offsetText offset = signOf offset :: rest ∧
      readClock? rest = some (clockOf offset, false) := by
  have hhour : (clockOf offset).hour < 100 := by simp only [clockOf]; omega
  have hminute : (clockOf offset).minute < 100 := by simp only [clockOf]; omega
  have hsecond : (clockOf offset).second < 100 := by simp only [clockOf]; omega
  have hmicro : (clockOf offset).micro < 1000000 := by simp only [clockOf]; omega
  by_cases hwhole : (clockOf offset).second = 0 ∧ (clockOf offset).micro = 0
  · refine ⟨paddedNat 2 (clockOf offset).hour ++ ':' :: paddedNat 2 (clockOf offset).minute,
      ?_, ?_⟩
    · simp only [clockOf] at hwhole
      simp [offsetText, clockOf, signOf, hwhole]
    · rw [readClock?_minutes hhour hminute]
      simp only [clockOf] at hwhole
      simp [clockOf, hwhole]
  · refine ⟨clockText (clockOf offset), ?_, readClock?_clockText hhour hminute hsecond hmicro⟩
    simp only [clockOf] at hwhole
    rw [offsetText, if_neg hwhole]
    simp only [clockText, fractionText, clockOf, signOf, List.append_assoc, List.cons_append]
    rfl

theorem readOffset?_offsetText {offset : Int} (h : offset.natAbs < 86400000000) :
    readOffset? (offsetText offset) = some (readBack offset) := by
  obtain ⟨rest, htext, hclock⟩ := readClock?_offsetText h
  have hsign : signOf offset ≠ 'Z' := by
    rw [signOf]
    split <;> decide
  -- the parts sum up to the offset again
  have hseconds : (clockOf offset).hour * 3600 + (clockOf offset).minute * 60 +
      (clockOf offset).second = offset.natAbs / 1000000 := by
    simp only [clockOf]
    omega
  have hmicros : offset.natAbs / 1000000 * 1000000 + (clockOf offset).micro = offset.natAbs :=
    Nat.div_add_mod' _ _
  have hday : ¬ dayMicros ≤ (offset.natAbs : Int) := by
    rw [dayMicros]
    omega
  rw [htext, readOffset?]
  · simp only [hsign, if_false, hclock, Option.bind_eq_bind, Option.bind_some, Bool.false_eq_true,
      hseconds, hmicros, hday, readBack]
    by_cases hfraction : offset.natAbs < 1000000
    · rw [if_pos (Nat.div_eq_of_lt hfraction), if_pos hfraction]
    · have hsome : ¬ offset.natAbs / 1000000 = 0 := by omega
      rw [if_neg hsome, if_neg hfraction, signOf]
      by_cases hnegative : offset < 0
      · simp only [if_pos hnegative, if_true, Option.some.injEq]
        omega
      · have hplus : ¬ '+' = '-' := by decide
        simp only [if_neg hnegative, if_neg hplus, Option.some.injEq]
        omega
  · exact fun hzulu => absurd hzulu hsign

/-- The moment has an offset that is not read back. -/
def HasFractionOffset (m : Moment) : Prop :=
  ∃ offset, m.offset = some offset ∧ offset ≠ 0 ∧ offset.natAbs < 1000000

theorem map_readBack {m : Moment} (h : ¬ m.HasFractionOffset) :
    m.offset.map readBack = m.offset := by
  cases hoffset : m.offset with
  | none => rfl
  | some offset =>
    have hread : readBack offset = offset := by
      rw [readBack]
      split
      case isTrue hsmall =>
        by_contra hne
        exact h ⟨offset, hoffset, Ne.symm hne, hsmall⟩
      case isFalse => rfl
    rw [Option.map_some, hread]

theorem map_readBack_of_fraction {m : Moment} (h : m.HasFractionOffset) :
    m.offset.map readBack = some 0 := by
  obtain ⟨offset, hoffset, -, hsmall⟩ := h
  rw [hoffset, Option.map_some, readBack, if_pos hsmall]

/-! ## Moments -/

/-- What every moment of the calendar has: a day, a time of day, and an offset of less than a
day. -/
structure IsProper (m : Moment) : Prop where
  date : isDate m.year m.month m.day = true
  hour : m.hour < 24
  minute : m.minute < 60
  second : m.second < 60
  micro : m.micro < 1000000
  offset : ∀ offset, m.offset = some offset → offset.natAbs < 86400000000

/-- The date of a moment as text. -/
def dateText (m : Moment) : List Char :=
  paddedNat 4 m.year ++ '-' :: (paddedNat 2 m.month ++ '-' :: paddedNat 2 m.day)

/-- The time of day of a moment. -/
def clock (m : Moment) : Clock :=
  ⟨m.hour, m.minute, m.second, m.micro⟩

variable {m : Moment}

theorem isoText_eq (m : Moment) :
    m.isoText = m.dateText ++ 'T' :: (clockText m.clock ++ (m.offset.map offsetText).getD []) := by
  simp only [isoText, dateTimeText, dateText, clockText, fractionText, clock, List.append_assoc,
    List.cons_append]
  rfl

theorem lt_of_isDate {year month day : Nat} (h : isDate year month day = true) :
    year < 10000 ∧ month < 100 ∧ day < 100 := by
  have hdays : daysInMonth year month ≤ 31 := by
    unfold daysInMonth
    split <;> try decide
    split <;> decide
  simp only [isDate, Bool.and_eq_true, decide_eq_true_eq] at h
  omega

theorem length_dateText (h : m.IsProper) : m.dateText.length = 10 := by
  obtain ⟨hyear, hmonth, hday⟩ := lt_of_isDate h.date
  simp [dateText, length_paddedNat 4 hyear, length_paddedNat 2 hmonth,
    length_paddedNat 2 hday]

theorem readDate?_dateText (h : m.IsProper) :
    readDate? m.dateText = some (m.year, m.month, m.day) := by
  obtain ⟨hyear, hmonth, hday⟩ := lt_of_isDate h.date
  obtain ⟨a, b, hab, ha, -⟩ := exists_paddedNat_two hmonth
  have hread := takeDigits?_two hday []
  rw [List.append_nil] at hread
  have hweek : ¬ (paddedNat 2 m.month ++ '-' :: paddedNat 2 m.day).head? = some 'W' := by
    rw [hab]
    intro hw
    cases hw
    exact absurd ha (by decide)
  simp only [readDate?, dateText, takeDigits?_paddedNat 4 hyear (by decide),
    Option.bind_eq_bind, Option.bind_some, List.head?_cons, if_true, List.drop_one, List.tail_cons,
    hweek, if_false, takeDigits?_two hmonth, ne_eq, not_true_eq_false, and_false, hread]

/-- A dash behind the year and none of the letters of week dates: the date has ten characters. -/
theorem dateLength?_isoText (h : m.IsProper) : dateLength? m.isoText = some 10 := by
  obtain ⟨hyear, hmonth, -⟩ := lt_of_isDate h.date
  obtain ⟨a, b, hab, ha, -⟩ := exists_paddedNat_two hmonth
  have hfour : (paddedNat 4 m.year).length = 4 := length_paddedNat _ hyear (by decide)
  obtain ⟨more, hmore⟩ : ∃ more, m.isoText = paddedNat 4 m.year ++ '-' :: a :: more := by
    rw [isoText_eq, dateText, hab, List.append_assoc]
    exact ⟨_, rfl⟩
  have hdash : m.isoText[4]? = some '-' := by
    rw [hmore, List.getElem?_append_right (by omega), hfour]
    rfl
  have hdigit : m.isoText[5]? = some a := by
    rw [hmore, List.getElem?_append_right (by omega), hfour]
    rfl
  have hweek : ¬ some a = some 'W' := by
    intro hw
    cases hw
    exact absurd ha (by decide)
  have hlong : ¬ m.isoText.length < 7 ∧ ¬ m.isoText.length = 7 := by
    rw [isoText_eq, List.length_append, length_dateText h, List.length_cons]
    omega
  simp only [dateLength?, hlong, hdash, hdigit, hweek, if_true, if_false]

theorem readTime?_clockText (h : m.IsProper) :
    readTime? (clockText m.clock ++ (m.offset.map offsetText).getD []) =
      some (m.clock, m.offset.map readBack) := by
  have hclock : readClock? (clockText m.clock) = some (m.clock, false) :=
    readClock?_clockText (Nat.lt_of_lt_of_le h.hour (by decide))
      (Nat.lt_of_lt_of_le h.minute (by decide)) (Nat.lt_of_lt_of_le h.second (by decide)) h.micro
  have hbody : ∀ c ∈ clockText m.clock, (!startsOffset c) = true := by
    intro c hc
    rw [startsOffset_of_mem_clockText hc]
    rfl
  cases hoffset : m.offset with
  | none =>
    have htake : (clockText m.clock).takeWhile (fun c => !startsOffset c) = clockText m.clock :=
      List.takeWhile_eq_self_iff.2 hbody
    have hdrop : (clockText m.clock).dropWhile (fun c => !startsOffset c) = [] :=
      List.dropWhile_eq_nil_iff.2 hbody
    simp [readTime?, htake, hdrop, hclock]
  | some offset =>
    have hproper := h.offset offset hoffset
    obtain ⟨rest, htext, -⟩ := readClock?_offsetText hproper
    have hsign : startsOffset (signOf offset) = true := by
      rw [signOf]
      split <;> rfl
    have htake : (clockText m.clock ++ offsetText offset).takeWhile (fun c => !startsOffset c) =
        clockText m.clock := by
      rw [List.takeWhile_append_of_pos hbody, htext]
      simp [hsign]
    have hdrop : (clockText m.clock ++ offsetText offset).dropWhile (fun c => !startsOffset c) =
        offsetText offset := by
      rw [List.dropWhile_append_of_pos hbody, htext]
      simp [hsign]
    have hsome : (offsetText offset).isEmpty = false := by rw [htext]; rfl
    simp [readTime?, htake, hdrop, hclock, hsome, readOffset?_offsetText hproper]

/-- The ISO text of a moment is read as the moment, but for an offset of less than a second. -/
theorem ofIsoText?_isoText (h : m.IsProper) :
    ofIsoText? m.isoText = some { m with offset := m.offset.map readBack } := by
  have hlength := length_dateText h
  have hdate : m.isoText.take 10 = m.dateText := by
    rw [isoText_eq, List.take_left' hlength]
  have hrest : m.isoText.drop 11 = clockText m.clock ++ (m.offset.map offsetText).getD [] := by
    rw [isoText_eq, List.append_cons, List.drop_left' (by simp [hlength])]
  have hsome : (clockText m.clock ++ (m.offset.map offsetText).getD []).isEmpty = false := by
    rw [List.isEmpty_eq_false_iff]
    simp [clockText]
  simp only [ofIsoText?, dateLength?_isoText h, Option.bind_eq_bind, Option.bind_some, hdate,
    readDate?_dateText h, hrest, hsome, readTime?_clockText h]
  simp [h.date, clock, h.hour, h.minute, h.second]

end Moment
end Calendar
end Switchboard
