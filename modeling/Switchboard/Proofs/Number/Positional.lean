import Switchboard.Proofs.Number.Decimals
import Switchboard.Proofs.Value.Writable

/-!
# Digits with a point

Digits with a point among them read as the decimal that has these digits and an exponent for every
digit behind the point (`readBinary?_of_isPointed`). The positional layout of a decimal is such a text,
and its digits come to the same value wherever the point stands and however many zeros are filled in
(`exists_isPointed_positional`).

Numbers that are neither very large nor very small are written in this layout (`IsPlain`); all others
have an exponent behind their digits (`exponent_mem_finiteText`).
-/

namespace Switchboard

open Text

/-- ASCII digits in front of a point and behind it, and at least one behind it. -/
structure IsPointed (whole fraction : List Char) : Prop where
  digits_whole : ∀ c ∈ whole, c.isDigit = true
  digits_fraction : ∀ c ∈ fraction, c.isDigit = true
  ne_nil : fraction ≠ []

namespace IsPointed

variable {whole fraction : List Char}

theorem point_not_mem (h : IsPointed whole fraction) : '.' ∉ whole :=
  fun hmem => absurd (h.digits_whole '.' hmem) (by decide)

theorem isBlank (h : IsPointed whole fraction) :
    ∀ c ∈ whole ++ '.' :: fraction, Text.isBlank c = false := by
  intro c hc
  rcases List.mem_append.1 hc with hwhole | hrest
  · exact isBlank_of_isDigit (h.digits_whole c hwhole)
  · rcases List.mem_cons.1 hrest with rfl | hfraction
    · decide
    · exact isBlank_of_isDigit (h.digits_fraction c hfraction)

/-- The value of the digits, with the point where it stands. -/
def value (whole fraction : List Char) : ℚ :=
  (Nat.ofDigitChars 10 (whole ++ fraction) 0 : ℕ) * 10 ^ (-fraction.length : ℤ)

theorem value_nonneg (whole fraction : List Char) : 0 ≤ value whole fraction := by
  rw [value]
  positivity

end IsPointed

/-! ## Reading -/

namespace Numeral

theorem splitSign_of_isPointed {whole fraction : List Char} (h : IsPointed whole fraction) :
    splitSign (whole ++ '.' :: fraction) = (false, whole ++ '.' :: fraction) := by
  cases whole with
  | nil => rfl
  | cons c rest =>
    have hdigit := h.digits_whole c List.mem_cons_self
    unfold splitSign
    split
    case h_1 heq =>
      cases heq
      exact absurd hdigit (by decide)
    case h_2 heq =>
      cases heq
      exact absurd hdigit (by decide)
    case h_3 => rfl

/-- Digits with a point among them read as what is nearest to their value. -/
theorem readBinary?_of_isPointed {whole fraction blanks : List Char} (h : IsPointed whole fraction)
    (hblanks : ∀ c ∈ blanks, isBlank c = true) :
    readBinary? (whole ++ '.' :: fraction ++ blanks) =
      some (Binary64.nearest false (IsPointed.value whole fraction)) := by
  have hpoint : '.' ∈ lowered (whole ++ '.' :: fraction) :=
    List.mem_map.2 ⟨'.', by simp, by decide⟩
  have hwhole : digitRun (whole ++ '.' :: fraction) =
      (whole.map fun c => (digitValue? c).getD 0, '.' :: fraction) := by
    refine digitsFrom_append (fun c hc => isDecimalDigit_of_isDigit (h.digits_whole c hc)) ?_ false
    intro after
    simp [digitsFrom, show digitValue? '.' = none by decide]
  have hfraction := digitRun_of_isDecimalDigit fun c hc =>
    isDecimalDigit_of_isDigit (h.digits_fraction c hc)
  have hdigits := ofDigits_of_isDigit (s := whole ++ fraction) fun c hc =>
    (List.mem_append.1 hc).elim (h.digits_whole c) (h.digits_fraction c)
  rw [List.map_append] at hdigits
  rw [readBinary?, strip_append_of_isBlank h.isBlank hblanks, splitSign_of_isPointed h]
  simp only
  split
  case h_1 hname => simp [hname] at hpoint
  case h_2 hname => simp [hname] at hpoint
  case h_3 hname => simp [hname] at hpoint
  case h_4 =>
    simp [hwhole, hfraction, hdigits, h.ne_nil, readExponent?, Binary64.ofDecimal_eq_nearest,
      IsPointed.value]

end Numeral

/-! ## Layout -/

namespace IsPointed

variable {digits : List Char}

theorem value_padEnd {n : ℕ} (h : digits.length ≤ n) :
    value (padEnd '0' n digits) ['0'] =
      (Nat.ofDigitChars 10 digits 0 : ℕ) * 10 ^ (n - digits.length : ℤ) := by
  have hvalue : Nat.ofDigitChars 10 (padEnd '0' n digits ++ ['0']) 0 =
      10 ^ (n - digits.length) * Nat.ofDigitChars 10 digits 0 * 10 := by
    simp [padEnd, Nat.ofDigitChars_append, Nat.ofDigitChars_cons, mul_comm]
  rw [value, hvalue, ← Nat.cast_sub h, zpow_natCast]
  push_cast
  rw [List.length_singleton, Nat.cast_one, zpow_neg_one, mul_inv_cancel_right₀ (by norm_num),
    mul_comm]

theorem value_take_drop {n : ℕ} (h : n ≤ digits.length) :
    value (digits.take n) (digits.drop n) =
      (Nat.ofDigitChars 10 digits 0 : ℕ) * 10 ^ (n - digits.length : ℤ) := by
  rw [value, List.take_append_drop, List.length_drop, Nat.cast_sub h, neg_sub]

theorem value_replicate (n : ℕ) :
    value ['0'] (List.replicate n '0' ++ digits) =
      (Nat.ofDigitChars 10 digits 0 : ℕ) * 10 ^ (-n - digits.length : ℤ) := by
  have hvalue : Nat.ofDigitChars 10 (['0'] ++ (List.replicate n '0' ++ digits)) 0 =
      Nat.ofDigitChars 10 digits 0 := by
    simp [Nat.ofDigitChars_append, Nat.ofDigitChars_cons]
  rw [value, hvalue, List.length_append, List.length_replicate, Nat.cast_add, neg_add']

end IsPointed

namespace Binary64

/-- A point can be put behind any number of digits, with zeros filled in on either side. -/
theorem exists_isPointed_positional {digits : List Char} (hdigits : ∀ c ∈ digits, c.isDigit = true)
    (hne : digits ≠ []) (before : ℤ) :
    ∃ whole fraction, positional digits before = whole ++ '.' :: fraction ∧
      IsPointed whole fraction ∧
      IsPointed.value whole fraction =
        (Nat.ofDigitChars 10 digits 0 : ℕ) * 10 ^ (before - digits.length) := by
  have hzeros : ∀ n, ∀ c ∈ List.replicate n '0', c.isDigit = true := by
    intro n c hc
    rw [List.eq_of_mem_replicate hc]
    decide
  unfold positional
  split
  case h_1 n =>
    split
    case isTrue hshort =>
      refine ⟨padEnd '0' (n + 1) digits, ['0'], rfl, ⟨?_, hzeros 1, by decide⟩,
        IsPointed.value_padEnd hshort⟩
      exact fun c hc => (List.mem_append.1 hc).elim (hdigits c) (hzeros _ c)
    case isFalse hlong =>
      refine ⟨digits.take (n + 1), digits.drop (n + 1), rfl, ⟨?_, ?_, ?_⟩,
        IsPointed.value_take_drop (Nat.le_of_not_le hlong)⟩
      · exact fun c hc => hdigits c (List.mem_of_mem_take hc)
      · exact fun c hc => hdigits c (List.mem_of_mem_drop hc)
      · rw [Ne, List.drop_eq_nil_iff]
        exact hlong
  case h_2 hsmall =>
    have hbefore : before = -((-before).toNat : ℤ) := by
      cases before with
      | ofNat n =>
        cases n with
        | zero => rfl
        | succ n => exact (hsmall n rfl).elim
      | negSucc n => rfl
    refine ⟨['0'], List.replicate (-before).toNat '0' ++ digits, rfl, ⟨hzeros 1, ?_, ?_⟩, ?_⟩
    · exact fun c hc => (List.mem_append.1 hc).elim (hzeros _ c) (hdigits c)
    · exact List.append_ne_nil_of_right_ne_nil _ hne
    · rw [IsPointed.value_replicate, ← hbefore]

/-! ## The text of a number -/

/-- Numbers that are written without an exponent: zero, and from `10 ^ -4` up to below `10 ^ 16`. -/
def IsPlain : Binary64 → Prop
  | .finite _ m e => m = 0 ∨ (10 : ℚ) ^ (-4 : ℤ) ≤ m * 2 ^ e ∧ (m : ℚ) * 2 ^ e < 10 ^ (16 : ℤ)
  | _ => False

section

variable {m : ℕ} {e : ℤ}

/-- The text of a plain number is digits with a point, to the value of which the number is nearest. -/
theorem exists_isPointed_finiteText (h : IsCanonical m e) (hplain : IsPlain (.finite false m e)) :
    ∃ whole fraction, finiteText false m e = whole ++ '.' :: fraction ∧ IsPointed whole fraction ∧
      nearest false (IsPointed.value whole fraction) = .finite false m e := by
  by_cases hm : m = 0
  · have he : e = minExponent := by
      have hnormal := h.normal
      omega
    refine ⟨['0'], ['0'], by simp [finiteText, hm], ⟨by simp, by simp, by simp⟩, ?_⟩
    simp [IsPointed.value, Nat.ofDigitChars_cons, nearest, zero, hm, he]
  · have hplaces := (shortest_is_positional_iff hm h).2 (hplain.resolve_left hm)
    have hdigits : ∀ c ∈ natText (shortest false m e).digits, c.isDigit = true :=
      fun _ => isDigit_of_mem_natText
    obtain ⟨whole, fraction, htext, hpointed, hvalue⟩ :=
      exists_isPointed_positional hdigits Nat.toDigits_ne_nil (shortest false m e).places
    refine ⟨whole, fraction, ?_, hpointed, ?_⟩
    · rw [← htext, finiteText]
      simp only [hm, if_false, Bool.false_eq_true]
      exact if_pos hplaces
    · rw [hvalue, ofDigitChars_natText, Decimal.places, add_sub_cancel_left]
      exact shortest_reads_back false hm h

/-- The text of any other number has a digit and the letter of an exponent. -/
theorem exponent_mem_finiteText (h : IsCanonical m e) (hbeyond : ¬ IsPlain (.finite false m e)) :
    'e' ∈ finiteText false m e ∧ ∃ c ∈ finiteText false m e, c.isDigit = true := by
  rw [IsPlain, not_or] at hbeyond
  obtain ⟨hm, hrange⟩ := hbeyond
  have hplaces := mt (shortest_is_positional_iff hm h).1 hrange
  have htext : finiteText false m e =
      scientific (natText (shortest false m e).digits) ((shortest false m e).places - 1) := by
    rw [finiteText]
    simp only [hm, if_false, Bool.false_eq_true]
    exact if_neg hplaces
  rw [htext]
  cases hnat : natText (shortest false m e).digits with
  | nil => exact absurd hnat Nat.toDigits_ne_nil
  | cons d rest =>
    have hd : d.isDigit = true := isDigit_of_mem_natText (by rw [hnat]; exact List.mem_cons_self)
    cases rest <;> exact ⟨by simp [scientific], d, by simp [scientific], hd⟩

end

end Binary64
end Switchboard
