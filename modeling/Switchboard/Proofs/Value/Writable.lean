import Mathlib.Algebra.Group.Nat.Defs
import Switchboard.Value.Text

/-!
# Values that can be written

An integer of more than `Numeral.digitLimit` digits has no text. Integers that are read from text
never are so long (`isWritable_of_readInteger`), nor is any value of command text
(`isWritable_of_ofCommandText`): reading refuses as many digits as writing does.

Command text that looks like a whole number is refused for its length alone
(`ofCommandText_error`).
-/

namespace Switchboard

open Text

/-! ## Digits -/

theorem Text.digitValue?_lt_ten {c : Char} {d : Nat} (h : digitValue? c = some d) : d < 10 := by
  unfold digitValue? at h
  split at h
  case isTrue hascii =>
    split at h
    case isTrue hdigit =>
      have hle : c.toNat ≤ 57 := by
        simp only [Char.isDigit, Bool.and_eq_true, decide_eq_true_eq] at hdigit
        exact hdigit.2
      simp only [Option.some.injEq] at h
      omega
    case isFalse => cases h
  case isFalse hscript =>
    split at h
    · cases h
    · simp only at h
      split at h
      case isTrue hlt =>
        simp only [Option.some.injEq] at h
        omega
      case isFalse => cases h

namespace Numeral

theorem digitsFrom_lt_ten (after : Bool) (s : List Char) : ∀ d ∈ (digitsFrom after s).1, d < 10 := by
  induction s generalizing after with
  | nil => simp [digitsFrom]
  | cons c rest ih =>
    intro d hd
    cases hc : digitValue? c with
    | some value =>
      simp only [digitsFrom, hc, List.mem_cons] at hd
      rcases hd with rfl | hd
      · exact digitValue?_lt_ten hc
      · exact ih true d hd
    | none =>
      -- an underscore is skipped, and anything else ends the run
      simp only [digitsFrom, hc] at hd
      split at hd
      · exact ih false d hd
      · simp at hd

/-- The digits come behind what has been read of the number so far. -/
theorem foldl_digits_lt {ds : List Nat} (h : ∀ d ∈ ds, d < 10) {n k : Nat} (hn : n < 10 ^ k) :
    ds.foldl (fun n d => 10 * n + d) n < 10 ^ (k + ds.length) := by
  induction ds generalizing n k with
  | nil => simpa using hn
  | cons d rest ih =>
    have hd : d < 10 := h d List.mem_cons_self
    have hnext : 10 * n + d < 10 ^ (k + 1) := by
      rw [Nat.pow_succ]
      omega
    have hrest := ih (fun d hd => h d (List.mem_cons_of_mem _ hd)) hnext
    simpa [Nat.add_assoc, Nat.add_comm 1] using hrest

theorem ofDigits_lt {ds : List Nat} (h : ∀ d ∈ ds, d < 10) : ofDigits ds < 10 ^ ds.length := by
  have hzero : 0 < 10 ^ 0 := by decide
  simpa [ofDigits] using foldl_digits_lt h hzero

/-- An integer that is read has no more digits than the limit allows. -/
theorem natAbs_lt_of_readInteger {s : List Char} {n : Int} (h : readInteger s = .ok n) :
    n.natAbs < 10 ^ digitLimit := by
  unfold readInteger at h
  simp only at h
  split at h
  case h_1 => cases h
  case h_2 ds rest _ hrun =>
    have hdigits : ∀ d ∈ ds, d < 10 := by
      have hall := digitsFrom_lt_ten false (splitSign (strip s)).2
      rw [digitRun] at hrun
      rw [hrun] at hall
      exact hall
    split at h
    case isTrue => cases h
    case isFalse hshort =>
      have hlt : ofDigits ds < 10 ^ digitLimit :=
        Nat.lt_of_lt_of_le (ofDigits_lt hdigits)
          (Nat.pow_le_pow_right (by decide) (Nat.le_of_not_lt hshort))
      split at h
      case isTrue =>
        -- the sign does not count
        split at h
        · cases h
          simpa using hlt
        · cases h
          simpa using hlt
      case isFalse => cases h

end Numeral

namespace Value

theorem isWritable_int (n : Int) :
    (Value.int n).isWritable = true ↔ n.natAbs < 10 ^ Numeral.digitLimit := by
  have hlength := Nat.length_toDigits_le_iff (b := 10) (n := n.natAbs) (k := Numeral.digitLimit)
    (by decide) (by decide)
  rw [isWritable, decide_eq_true_iff]
  exact hlength

/-- The value is an integer that can be written. -/
def IsWritableInteger (value : Value) : Prop :=
  ∃ n : Int, value = .int n ∧ value.isWritable = true

theorem isWritable_of_readInteger {s : List Char} {n : Int} (h : Numeral.readInteger s = .ok n) :
    (Value.int n).isWritable = true :=
  (isWritable_int n).2 (Numeral.natAbs_lt_of_readInteger h)

/-- What command text stands for can be written as command text. -/
theorem isWritable_of_ofCommandText {s : String} {value : Value} (h : ofCommandText s = .ok value) :
    value.isWritable = true := by
  unfold ofCommandText at h
  split at h
  case h_1 =>
    cases hread : Numeral.readInteger s.toList with
    | error flaw => simp [hread, Except.map] at h
    | ok n =>
      have hvalue : Value.int n = value := by simpa [hread, Except.map] using h
      rw [← hvalue]
      exact isWritable_of_readInteger hread
  case h_2 =>
    split at h <;> (cases h; rfl)
  case h_3 =>
    split at h
    · cases h
      rfl
    · split at h <;> (cases h; rfl)

end Value

/-! ## Whole numbers -/

theorem Text.isDigit_of_mem_natText {n : Nat} {c : Char} (h : c ∈ natText n) : c.isDigit = true :=
  Nat.isDigit_of_mem_toDigits (by decide) (by decide) h

theorem Text.ofDigitChars_natText (n : Nat) : Nat.ofDigitChars 10 (natText n) 0 = n :=
  Nat.ofDigitChars_ten_toDigits

theorem Text.digitValue?_of_isDigit {c : Char} (h : c.isDigit = true) :
    digitValue? c = some (c.toNat - 0x30) := by
  have hle : c.toNat ≤ 57 := by
    simp only [Char.isDigit, Bool.and_eq_true, decide_eq_true_eq] at h
    exact h.2
  have hascii : c.toNat < 128 := by omega
  simp [digitValue?, hascii, h]

theorem Text.isDecimalDigit_of_isDigit {c : Char} (h : c.isDigit = true) :
    isDecimalDigit c = true := by
  rw [isDecimalDigit, digitValue?_of_isDigit h]
  rfl

theorem Text.isBlank_of_isDigit {c : Char} (h : c.isDigit = true) : isBlank c = false := by
  have hbounds : 48 ≤ c.toNat ∧ c.toNat ≤ 57 := by
    simp only [Char.isDigit, Bool.and_eq_true, decide_eq_true_eq] at h
    exact h
  simp only [isBlank, Bool.or_eq_false_iff, Bool.and_eq_false_iff, decide_eq_false_iff_not,
    beq_eq_false_iff_ne]
  omega

/-- What is found by bisection starts at or before the code point. -/
theorem Text.countStarted_spec (start : Nat → Nat) (code : Nat) {lo hi : Nat} (h : lo ≤ hi) :
    lo ≤ countStarted start code lo hi ∧
      (countStarted start code lo hi = lo ∨
        start (countStarted start code lo hi - 1) ≤ code) := by
  fun_induction countStarted start code lo hi with
  | case1 lo hi hlt mid hstart ih =>
    -- the middle one starts at or before the code point, so it counts
    rcases ih (by omega) with ⟨hle, heq | hbefore⟩
    · refine ⟨by omega, .inr ?_⟩
      rw [heq, Nat.add_sub_cancel]
      exact hstart
    · exact ⟨by omega, .inr hbefore⟩
  | case2 lo hi hlt mid hstart ih => exact ih (by omega)
  | case3 lo hi hge => exact ⟨Nat.le_refl lo, .inl rfl⟩

/-- A digit beyond ASCII is one of ten behind a zero. -/
theorem Text.exists_zero_of_isDecimalDigit {c : Char} (h : isDecimalDigit c = true)
    (hscript : 128 ≤ c.toNat) :
    ∃ base ∈ digitZeros.toList, base ≤ c.toNat ∧ c.toNat < base + 10 := by
  rw [isDecimalDigit, digitValue?, if_neg (Nat.not_lt.2 hscript)] at h
  have hspec := (countStarted_spec (fun i => digitZeros[i]?.getD 0) c.toNat
    (Nat.zero_le digitZeros.size)).2
  cases hcount : countStarted (fun i => digitZeros[i]?.getD 0) c.toNat 0 digitZeros.size with
  | zero => simp [hcount] at h
  | succ n =>
    rw [hcount] at hspec
    simp only [hcount] at h
    have hbefore : digitZeros[n]?.getD 0 ≤ c.toNat := by simpa using hspec
    have hbehind : c.toNat < digitZeros[n]?.getD 0 + 10 := by
      split at h
      case isTrue hlt => exact hlt
      case isFalse => cases h
    cases hzero : digitZeros[n]? with
    | none =>
      rw [hzero, Option.getD_none] at hbehind
      omega
    | some base =>
      rw [hzero, Option.getD_some] at hbefore hbehind
      exact ⟨base, Array.mem_toList_iff.2 (Array.mem_of_getElem? hzero), hbefore, hbehind⟩

/-- The blanks beyond ASCII. -/
def Text.scriptBlanks : List Nat :=
  [0x85, 0xa0, 0x1680, 0x2000, 0x2001, 0x2002, 0x2003, 0x2004, 0x2005, 0x2006, 0x2007, 0x2008,
    0x2009, 0x200a, 0x2028, 0x2029, 0x202f, 0x205f, 0x3000]

theorem Text.isBlank_of_isDecimalDigit {c : Char} (h : isDecimalDigit c = true) :
    isBlank c = false := by
  by_cases hscript : 128 ≤ c.toNat
  · rcases exists_zero_of_isDecimalDigit h hscript with ⟨base, hbase, hbounds⟩
    have hapart : ∀ base ∈ digitZeros.toList, ∀ code ∈ scriptBlanks,
        ¬ (base ≤ code ∧ code < base + 10) := by decide +kernel
    cases hblank : isBlank c with
    | false => rfl
    | true =>
      have hcode : c.toNat ∈ scriptBlanks := by
        simp only [isBlank, Bool.or_eq_true, Bool.and_eq_true, decide_eq_true_eq,
          beq_iff_eq] at hblank
        simp only [scriptBlanks, List.mem_cons, List.not_mem_nil, or_false]
        omega
      exact absurd hbounds (hapart base hbase c.toNat hcode)
  · rw [isDecimalDigit, digitValue?, if_pos (by omega)] at h
    split at h
    case isTrue hdigit => exact isBlank_of_isDigit hdigit
    case isFalse => cases h

/-- Blanks behind what has none are taken off, and nothing else is. -/
theorem Text.strip_append_of_isBlank {body blanks : List Char}
    (hbody : ∀ c ∈ body, isBlank c = false) (hblanks : ∀ c ∈ blanks, isBlank c = true) :
    strip (body ++ blanks) = body := by
  have hkept : ∀ {s : List Char}, (∀ c ∈ s, isBlank c = false) → s.dropWhile isBlank = s := by
    intro s hs
    cases s with
    | nil => rfl
    | cons c rest => rw [List.dropWhile_cons_of_neg (by simp [hs c List.mem_cons_self])]
  have hlast : (blanks.reverse ++ body.reverse).dropWhile isBlank = body.reverse := by
    rw [List.dropWhile_append_of_pos (by simpa using hblanks),
      hkept fun c hc => hbody c (List.mem_reverse.1 hc)]
  cases body with
  | nil =>
    have hnone : (blanks ++ []).dropWhile isBlank = [] := List.dropWhile_append_of_pos hblanks
    rw [List.append_nil] at hnone
    rw [List.nil_append, strip, stripStart, hnone]
    rfl
  | cons c rest =>
    have hstart : stripStart (c :: rest ++ blanks) = c :: rest ++ blanks := by
      rw [stripStart, List.cons_append,
        List.dropWhile_cons_of_neg (by simp [hbody c List.mem_cons_self])]
    rw [strip, hstart, stripEnd, List.reverse_append, hlast, List.reverse_reverse]

theorem Text.strip_of_isDigit {body blanks : List Char} (hbody : ∀ c ∈ body, c.isDigit = true)
    (hblanks : ∀ c ∈ blanks, isBlank c = true) : strip (body ++ blanks) = body :=
  strip_append_of_isBlank (fun c hc => isBlank_of_isDigit (hbody c hc)) hblanks

namespace Numeral

/-- A run of digits is read up to what is none of it. -/
theorem digitsFrom_append {s rest : List Char} (h : ∀ c ∈ s, isDecimalDigit c = true)
    (hrest : ∀ after, digitsFrom after rest = ([], rest)) (after : Bool) :
    digitsFrom after (s ++ rest) = (s.map fun c => (digitValue? c).getD 0, rest) := by
  induction s generalizing after with
  | nil => exact hrest after
  | cons c more ih =>
    have hmore := ih (fun d hd => h d (List.mem_cons_of_mem c hd)) true
    rcases Option.isSome_iff_exists.1 (h c List.mem_cons_self) with ⟨value, hc⟩
    simp [digitsFrom, hc, hmore]

/-- A run of digits is read to its end. -/
theorem digitRun_of_isDecimalDigit {s : List Char} (h : ∀ c ∈ s, isDecimalDigit c = true) :
    digitRun s = (s.map fun c => (digitValue? c).getD 0, []) := by
  have hread : digitsFrom false (s ++ []) = (s.map fun c => (digitValue? c).getD 0, []) :=
    digitsFrom_append h (fun _ => rfl) false
  rwa [List.append_nil] at hread

theorem ofDigits_of_isDigit {s : List Char} (h : ∀ c ∈ s, c.isDigit = true) :
    ofDigits (s.map fun c => (digitValue? c).getD 0) = Nat.ofDigitChars 10 s 0 := by
  have hvalues : (s.map fun c => (digitValue? c).getD 0) = s.map fun c => c.toNat - '0'.toNat := by
    refine List.map_congr_left fun c hc => ?_
    rw [digitValue?_of_isDigit (h c hc), Option.getD_some]
    rfl
  rw [hvalues, ofDigits, List.foldl_map, Nat.ofDigitChars_eq_foldl]

theorem splitSign_of_isDecimalDigit {s : List Char} (h : ∀ c ∈ s, isDecimalDigit c = true) :
    splitSign s = (false, s) := by
  unfold splitSign
  split
  · exact absurd (h '-' List.mem_cons_self) (by decide)
  · exact absurd (h '+' List.mem_cons_self) (by decide)
  · rfl

/-- Digits of any scripts with blanks behind them are an integer, unless they are too many. -/
theorem readInteger_decimal {body blanks : List Char} (hne : body ≠ [])
    (hbody : ∀ c ∈ body, isDecimalDigit c = true) (hblanks : ∀ c ∈ blanks, isBlank c = true) :
    readInteger (body ++ blanks) =
      if digitLimit < body.length then .error (.tooLong body.length)
      else .ok (ofDigits (body.map fun c => (digitValue? c).getD 0) : Nat) := by
  have hrun := digitRun_of_isDecimalDigit hbody
  have hstrip : strip (body ++ blanks) = body :=
    strip_append_of_isBlank (fun c hc => isBlank_of_isDecimalDigit (hbody c hc)) hblanks
  rw [readInteger, hstrip, splitSign_of_isDecimalDigit hbody]
  cases body with
  | nil => exact absurd rfl hne
  | cons c rest => simp [hrun]

theorem readInteger_digits {body blanks : List Char} (hne : body ≠ [])
    (hbody : ∀ c ∈ body, c.isDigit = true) (hblanks : ∀ c ∈ blanks, isBlank c = true) :
    readInteger (body ++ blanks) =
      if digitLimit < body.length then .error (.tooLong body.length)
      else .ok (Nat.ofDigitChars 10 body 0 : Nat) := by
  have hdecimal : ∀ c ∈ body, isDecimalDigit c = true := fun c hc =>
    isDecimalDigit_of_isDigit (hbody c hc)
  rw [readInteger_decimal hne hdecimal hblanks, ofDigits_of_isDigit hbody]

end Numeral

/-- A text without the separator cannot be cut. -/
theorem Text.cut?_of_not_mem {sep : Char} {s : List Char} (h : sep ∉ s) : cut? sep s = none := by
  induction s with
  | nil => rfl
  | cons c rest ih =>
    rw [List.mem_cons, not_or] at h
    rw [cut?, if_neg (Ne.symm h.1), ih h.2, Option.map_none]

/-- A text is cut at the first separator. -/
theorem Text.cut?_append_of_not_mem {sep : Char} {lead : List Char} (h : sep ∉ lead)
    (behind : List Char) : cut? sep (lead ++ sep :: behind) = some (lead, behind) := by
  induction lead with
  | nil => simp [cut?]
  | cons c rest ih =>
    rw [List.mem_cons, not_or] at h
    rw [List.cons_append, cut?, if_neg (Ne.symm h.1), ih h.2, Option.map_some]

/-- Nothing is lost by a cut but the separator. -/
theorem Text.eq_append_of_cut? {sep : Char} {s before behind : List Char}
    (h : cut? sep s = some (before, behind)) : s = before ++ sep :: behind := by
  induction s generalizing before with
  | nil => cases h
  | cons c rest ih =>
    rw [cut?] at h
    split at h
    case isTrue hsep =>
      cases h
      rw [hsep, List.nil_append]
    case isFalse =>
      rcases Option.map_eq_some_iff.1 h with ⟨⟨front, tail⟩, hrest, heq⟩
      cases heq
      rw [ih hrest, List.cons_append]

namespace Value

theorem dropFinalLineFeed_of_not_mem {s : List Char} (h : '\n' ∉ s) : dropFinalLineFeed s = s := by
  rw [dropFinalLineFeed, if_neg fun hlast => h (List.mem_of_getLast? hlast)]

/-- What does not count at the end of a number is blank. -/
theorem exists_blanks_dropFinalLineFeed (s : List Char) :
    ∃ blanks, s = dropFinalLineFeed s ++ blanks ∧ ∀ c ∈ blanks, isBlank c = true := by
  by_cases hlast : s.getLast? = some '\n'
  · rcases List.getLast?_eq_some_iff.1 hlast with ⟨before, hs⟩
    refine ⟨['\n'], ?_, by simp [isBlank]⟩
    simp [dropFinalLineFeed, hs]
  · refine ⟨[], ?_, by simp⟩
    simp [dropFinalLineFeed, hlast]

/-- A whole number in command text is ASCII digits, perhaps with a line feed behind them. -/
theorem digits_of_numberShape? {s : List Char} (h : numberShape? s = some .whole) :
    ∃ body blanks, s = body ++ blanks ∧ body ≠ [] ∧ (∀ c ∈ body, c.isDigit = true) ∧
      ∀ c ∈ blanks, isBlank c = true := by
  have hbody : dropFinalLineFeed s ≠ [] ∧ ∀ c ∈ dropFinalLineFeed s, c.isDigit = true := by
    simp only [numberShape?] at h
    split at h
    · split at h
      case isTrue hdigits => simpa [allDigits] using hdigits
      case isFalse => cases h
    · split at h <;> cases h
  rcases exists_blanks_dropFinalLineFeed s with ⟨blanks, hs, hblanks⟩
  exact ⟨dropFinalLineFeed s, blanks, hs, hbody.1, hbody.2, hblanks⟩

/-- ASCII digits are a whole number in command text, unless they are too many. -/
theorem ofCommandText_digits {body : List Char} (hne : body ≠ [])
    (hbody : ∀ c ∈ body, c.isDigit = true) :
    ofCommandText (String.ofList body) =
      if Numeral.digitLimit < body.length then .error (.tooLong body.length)
      else .ok (.int (Nat.ofDigitChars 10 body 0 : Nat)) := by
  have hnot : ∀ c, c.isDigit = false → c ∉ body := by
    intro c hc hmem
    simp [hbody c hmem] at hc
  have hkept : dropFinalLineFeed body = body :=
    dropFinalLineFeed_of_not_mem (hnot '\n' (by decide))
  have hpoint : cut? '.' body = Option.none := Text.cut?_of_not_mem (hnot '.' (by decide))
  have hshape : numberShape? body = some .whole := by
    have hdigits : allDigits body = true := by simpa [allDigits] using hbody
    simp [numberShape?, hkept, hpoint, hne, hdigits]
  have hread := Numeral.readInteger_digits hne hbody (List.forall_mem_nil _)
  rw [List.append_nil] at hread
  simp only [ofCommandText, String.toList_ofList, hshape, hread]
  split <;> rfl

/-- Command text is refused for nothing but too many digits. -/
theorem ofCommandText_error {s : String} {flaw : Numeral.IntegerFlaw}
    (h : ofCommandText s = .error flaw) :
    ∃ n, flaw = .tooLong n ∧ Numeral.digitLimit < n := by
  unfold ofCommandText at h
  split at h
  case h_1 hshape =>
    rcases digits_of_numberShape? hshape with ⟨body, blanks, hs, hne, hbody, hblanks⟩
    rw [hs, Numeral.readInteger_digits hne hbody hblanks] at h
    split at h
    case isTrue hlong =>
      cases h
      exact ⟨body.length, rfl, hlong⟩
    case isFalse => cases h
  case h_2 => split at h <;> cases h
  case h_3 =>
    split at h
    · cases h
    · split at h <;> cases h

end Value
end Switchboard
