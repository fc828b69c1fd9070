import Mathlib.Tactic.FieldSimp
import Switchboard.Number.Shortest
import Switchboard.Proofs.Number.Rounding

/-!
# Decimals of double-precision numbers

A decimal reads as the number that is nearest to its value (`Decimal.toBinary_eq`), also where its
exponent is answered without computing the power. The shortest decimal of a number reads back as this
number (`shortest_reads_back`).

How many digits such a decimal has in front of its point tells how large the number is: more than 16
from `10 ^ 16` on, and with four or more zeros behind the point below `10 ^ -4`
(`shortest_is_positional_iff`). The two bounds are numbers with short decimals themselves, and rounding
does not pass them.
-/

namespace Switchboard
namespace Binary64

open Text

/-! ## The value of a decimal -/

/-- The value of a decimal. -/
def Decimal.value (d : Decimal) : ℚ :=
  d.digits * 10 ^ d.exponent

/-- The powers beyond which decimals are answered at once are out of reach. -/
theorem two_zpow_le_ten_zpow : (2 : ℚ) ^ (1200 : ℤ) ≤ 10 ^ (400 : ℤ) := by
  calc
    (2 : ℚ) ^ (1200 : ℤ) = (2 ^ (3 : ℤ)) ^ (400 : ℤ) := by rw [← zpow_mul]; rfl
    _ ≤ 10 ^ (400 : ℤ) := zpow_le_zpow_left₀ (by decide) (by positivity) (by norm_num)

theorem ofDecimal_eq_nearest (negative : Bool) (digits : ℕ) (exponent : ℤ) :
    ofDecimal negative digits exponent = nearest negative (digits * 10 ^ exponent) := by
  unfold ofDecimal
  split_ifs with hzero hlarge hsmall
  · simp [nearest, hzero]
  · have hdigits : (1 : ℚ) ≤ digits := by exact_mod_cast Nat.pos_of_ne_zero hzero
    refine (nearest_of_large negative ?_).symm
    calc
      (2 : ℚ) ^ (1024 : ℤ) ≤ 2 ^ (1200 : ℤ) := zpow_le_zpow_right₀ (by norm_num) (by decide)
      _ ≤ 10 ^ (400 : ℤ) := two_zpow_le_ten_zpow
      _ ≤ 10 ^ exponent := zpow_le_zpow_right₀ (by norm_num) hlarge.le
      _ ≤ digits * 10 ^ exponent := le_mul_of_one_le_left (by positivity) hdigits
  · refine (nearest_of_small negative (by positivity) ?_).symm
    have hdigits : (digits : ℚ) < 10 ^ (digits.log2 + 1 : ℤ) := by
      have hpower : digits < 10 ^ (digits.log2 + 1) :=
        Nat.lt_log2_self.trans_le (Nat.pow_le_pow_left (by decide) _)
      exact_mod_cast hpower
    calc
      (digits : ℚ) * 10 ^ exponent
          < 10 ^ (digits.log2 + 1 : ℤ) * 10 ^ exponent := by gcongr
      _ = 10 ^ (digits.log2 + 1 + exponent : ℤ) := (zpow_add₀ (by norm_num) _ _).symm
      _ ≤ 10 ^ (-400 : ℤ) := zpow_le_zpow_right₀ (by norm_num) (by omega)
      _ ≤ 2 ^ (-1200 : ℤ) := by
        rw [zpow_neg, zpow_neg]
        exact inv_anti₀ (by positivity) two_zpow_le_ten_zpow
      _ ≤ 2 ^ (-1075 : ℤ) := zpow_le_zpow_right₀ (by norm_num) (by decide)
  · cases exponent with
    | ofNat k =>
      have hread := ofRatio_eq_nearest negative (digits * 10 ^ k) one_ne_zero
      simpa using hread
    | negSucc k =>
      have hread := ofRatio_eq_nearest negative digits (pow_ne_zero (k + 1) (by decide : 10 ≠ 0))
      simpa [zpow_negSucc, div_eq_mul_inv] using hread

namespace Decimal

theorem toBinary_eq (negative : Bool) (d : Decimal) :
    d.toBinary negative = nearest negative d.value :=
  ofDecimal_eq_nearest negative d.digits d.exponent

theorem value_trimFrom (fuel : ℕ) (d : Decimal) : (trimFrom fuel d).value = d.value := by
  induction fuel generalizing d with
  | zero => rfl
  | succ fuel ih =>
    rw [trimFrom]
    split
    case isTrue hten =>
      have hdigits : (d.digits : ℚ) = 10 * (d.digits / 10 : ℕ) := by
        exact_mod_cast (Nat.mul_div_cancel' (Nat.dvd_of_mod_eq_zero hten.2)).symm
      rw [ih, value, value, hdigits, zpow_add_one₀ (by norm_num)]
      ring
    case isFalse => rfl

theorem value_trim (d : Decimal) : d.trim.value = d.value :=
  value_trimFrom _ d

end Decimal

/-! ## The shortest decimal -/

theorem toBinary_of_gridHit? {x : Binary64} {negative : Bool} {num den : ℕ} {exponent : ℤ}
    {d : Decimal} (h : gridHit? x negative num den exponent = some d) :
    d.toBinary negative = x := by
  -- a neighbour is taken only if it reads back
  simp only [gridHit?] at h
  split_ifs at h with hboth _ _ _ hbelow habove
  · exact Option.some.inj h ▸ hboth.1.2
  · exact Option.some.inj h ▸ hboth.2
  · exact Option.some.inj h ▸ hboth.1.2
  · exact Option.some.inj h ▸ hboth.2
  · exact Option.some.inj h ▸ hbelow.2
  · exact Option.some.inj h ▸ habove

theorem toBinary_of_firstHit? {x : Binary64} {negative : Bool} {num den : ℕ} {count : ℕ}
    {exponent : ℤ} {d : Decimal} (h : firstHit? x negative num den count exponent = some d) :
    d.toBinary negative = x := by
  induction count generalizing exponent with
  | zero => cases h
  | succ count ih =>
    rw [firstHit?] at h
    split at h
    case h_1 found hfound =>
      cases h
      exact toBinary_of_gridHit? hfound
    case h_2 => exact ih h

theorem value_exactDecimal (m : ℕ) (e : ℤ) : (exactDecimal m e).value = m * 2 ^ e := by
  cases e with
  | ofNat k => simp [exactDecimal, Decimal.value]
  | negSucc k =>
    simp only [exactDecimal, Decimal.value, Nat.pow_eq, zpow_negSucc]
    push_cast
    rw [show (10 : ℚ) = 5 * 2 by norm_num, mul_pow]
    field_simp

/-- The shortest decimal of a number reads back as the number. -/
theorem shortest_reads_back (negative : Bool) {m : ℕ} {e : ℤ} (hm : m ≠ 0) (h : IsCanonical m e) :
    nearest negative (shortest negative m e).value = .finite negative m e := by
  rw [shortest, if_neg hm]
  simp only
  split
  case h_1 d hfound =>
    rw [Decimal.value_trim, ← Decimal.toBinary_eq]
    exact toBinary_of_firstHit? hfound
  case h_2 => rw [value_exactDecimal, nearest_of_isCanonical negative hm h]

/-! ## How many digits are in front of the point -/

theorem natText_bounds {n : ℕ} (hn : n ≠ 0) :
    10 ^ ((natText n).length - 1) ≤ n ∧ n < 10 ^ (natText n).length := by
  have hlength : 0 < (natText n).length := List.length_pos_iff.2 Nat.toDigits_ne_nil
  refine ⟨?_, (Nat.length_toDigits_le_iff (by decide) hlength).1 le_rfl⟩
  by_cases hone : (natText n).length - 1 = 0
  · rw [hone]
    exact Nat.pos_of_ne_zero hn
  · -- with fewer digits it would have a shorter text
    have hfewer := Nat.length_toDigits_le_iff (b := 10) (n := n) (by decide)
      (Nat.pos_of_ne_zero hone)
    rw [← not_lt, ← hfewer]
    change ¬ (natText n).length ≤ (natText n).length - 1
    omega

/-- The number of digits in front of the point; it is negative if zeros stand behind the point. -/
def Decimal.places (d : Decimal) : ℤ :=
  (natText d.digits).length + d.exponent

/-- It tells between which powers of ten a decimal lies. -/
theorem Decimal.zpow_le_value_iff {d : Decimal} (hd : d.digits ≠ 0) (k : ℤ) :
    10 ^ k ≤ d.value ↔ k < d.places := by
  obtain ⟨hlow, hhigh⟩ := natText_bounds hd
  have hlength : 0 < (natText d.digits).length := List.length_pos_iff.2 Nat.toDigits_ne_nil
  constructor
  · intro hle
    have hvalue : d.value < 10 ^ d.places := by
      rw [places, value, zpow_add₀ (by norm_num)]
      gcongr
      exact_mod_cast hhigh
    exact (zpow_lt_zpow_iff_right₀ (by norm_num)).1 (hle.trans_lt hvalue)
  · intro hlt
    have hdigits : (10 : ℚ) ^ (((natText d.digits).length - 1 : ℕ) : ℤ) ≤ d.digits := by
      exact_mod_cast hlow
    rw [places] at hlt
    calc
      (10 : ℚ) ^ k ≤ 10 ^ ((((natText d.digits).length - 1 : ℕ) : ℤ) + d.exponent) :=
        zpow_le_zpow_right₀ (by norm_num) (by omega)
      _ = 10 ^ (((natText d.digits).length - 1 : ℕ) : ℤ) * 10 ^ d.exponent :=
        zpow_add₀ (by norm_num) _ _
      _ ≤ d.value := by
        rw [value]
        gcongr

/-- The number nearest to `10 ^ -4`, which is a little greater. -/
theorem nearest_low : nearest false (10 ^ (-4 : ℤ)) = .finite false 7378697629483821 (-66) := by
  have hread := ofRatio_eq_nearest false 1 (pow_ne_zero 4 (by decide : 10 ≠ 0))
  have hnumber : ofRatio false 1 (10 ^ 4) = .finite false 7378697629483821 (-66) := by
    decide +kernel
  rw [← hnumber, hread]
  norm_num

/-- The number `10 ^ 16`. -/
theorem nearest_high : nearest false (10 ^ (16 : ℤ)) = .finite false 5000000000000000 1 := by
  have hread := ofRatio_eq_nearest false (10 ^ 16) one_ne_zero
  have hnumber : ofRatio false (10 ^ 16) 1 = .finite false 5000000000000000 1 := by decide +kernel
  rw [← hnumber, hread]
  norm_num

section

variable {m : ℕ} {e : ℤ}

theorem digits_shortest_ne_zero (hm : m ≠ 0) (h : IsCanonical m e) :
    (shortest false m e).digits ≠ 0 := by
  intro hzero
  have hread := shortest_reads_back false hm h
  rw [Decimal.value, hzero, Nat.cast_zero, zero_mul, nearest, if_pos rfl, zero] at hread
  cases hread
  exact hm rfl

theorem rounded_shortest (hm : m ≠ 0) (h : IsCanonical m e) :
    rounded (shortest false m e).value = m * 2 ^ e := by
  have hvalue : 0 ≤ (shortest false m e).value := by
    rw [Decimal.value]
    positivity
  exact (of_nearest hvalue (shortest_reads_back false hm h)).2.2.symm

/-- Numbers from a power of ten on have shortest decimals from this power on, if the number nearest to
the power has. -/
theorem lt_places_shortest_iff {k : ℤ} {mk : ℕ} {ek : ℤ}
    (hbound : nearest false (10 ^ k) = .finite false mk ek) (hle : (10 : ℚ) ^ k ≤ mk * 2 ^ ek)
    (hplaces : k < (shortest false mk ek).places) (hm : m ≠ 0) (h : IsCanonical m e) :
    k < (shortest false m e).places ↔ (10 : ℚ) ^ k ≤ m * 2 ^ e := by
  have hpower : (0 : ℚ) < 10 ^ k := by positivity
  obtain ⟨-, hcanonical, hvalue⟩ := of_nearest hpower.le hbound
  have hdigits := digits_shortest_ne_zero hm h
  rw [← Decimal.zpow_le_value_iff hdigits]
  constructor
  · intro habove
    calc
      (10 : ℚ) ^ k ≤ rounded (10 ^ k) := by rwa [← hvalue]
      _ ≤ rounded (shortest false m e).value := rounded_mono hpower habove
      _ = m * 2 ^ e := rounded_shortest hm h
  · intro habove
    by_contra hbelow
    have hpositive : 0 < (shortest false m e).value := by
      have hone : (0 : ℚ) < (shortest false m e).digits := by
        exact_mod_cast Nat.pos_of_ne_zero hdigits
      rw [Decimal.value]
      positivity
    -- rounding does not pass the bound, so the number is the bound itself
    have hsame : (m : ℚ) * 2 ^ e = mk * 2 ^ ek := by
      refine le_antisymm ?_ ?_
      · rw [← rounded_shortest hm h, hvalue]
        exact rounded_mono hpositive (not_le.1 hbelow).le
      · rw [hvalue, ← rounded_of_isCanonical hm h]
        exact rounded_mono hpower habove
    have hmk : mk ≠ 0 := by
      rintro rfl
      rw [Nat.cast_zero, zero_mul] at hle
      exact absurd hpower (not_lt.2 hle)
    have hnumber := nearest_of_isCanonical false hm h
    rw [hsame, nearest_of_isCanonical false hmk hcanonical, Binary64.finite.injEq] at hnumber
    obtain ⟨-, rfl, rfl⟩ := hnumber
    exact hbelow ((Decimal.zpow_le_value_iff hdigits k).2 hplaces)

/-- The shortest decimal of a number has between -3 and 16 digits in front of its point if the number
is one from `10 ^ -4` up to below `10 ^ 16`. -/
theorem shortest_is_positional_iff (hm : m ≠ 0) (h : IsCanonical m e) :
    (-4 < (shortest false m e).places ∧ (shortest false m e).places ≤ 16) ↔
      (10 : ℚ) ^ (-4 : ℤ) ≤ m * 2 ^ e ∧ (m : ℚ) * 2 ^ e < 10 ^ (16 : ℤ) := by
  have hlow := lt_places_shortest_iff nearest_low (by norm_num) (by decide +kernel) hm h
  have hhigh := lt_places_shortest_iff nearest_high (by norm_num) (by decide +kernel) hm h
  exact and_congr hlow (by rw [← not_lt, hhigh, not_le])

end

end Binary64
end Switchboard
