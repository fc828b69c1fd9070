import Mathlib.Algebra.Order.Field.Power
import Mathlib.Algebra.Order.Floor.Semifield
import Mathlib.Data.Int.Log
import Mathlib.Data.Rat.Floor
import Mathlib.Tactic.GCongr
import Mathlib.Tactic.Linarith
import Mathlib.Tactic.NormNum
import Mathlib.Tactic.Positivity
import Switchboard.Number.Binary64

/-!
# Rounding to double precision

What a fraction is rounded to depends on its value alone (`ofRatio_eq_nearest`): the exponent is that
of the greatest power of two at or below the value, and the significand is the value in units of that
exponent, rounded to an integer (`nearest`).

Rounding is monotone (`nearest_mono`), and a number in canonical form is rounded to itself
(`nearest_of_isCanonical`). All that is needed to compare numbers with decimals follows from these
two.
-/

namespace Switchboard
namespace Binary64

/-! ## Rounding to an integer -/

/-- The integer nearest to a value that is not negative, a tie to the even one. -/
def roundEven (r : ℚ) : ℕ :=
  if 2 * (r - ⌊r⌋₊) < 1 then ⌊r⌋₊
  else if 1 < 2 * (r - ⌊r⌋₊) then ⌊r⌋₊ + 1
  else if ⌊r⌋₊ % 2 = 0 then ⌊r⌋₊ else ⌊r⌋₊ + 1

theorem roundDiv_eq (num : ℕ) {den : ℕ} (hden : den ≠ 0) :
    roundDiv num den = roundEven ((num : ℚ) / den) := by
  have hpos : (0 : ℚ) < den := by exact_mod_cast Nat.pos_of_ne_zero hden
  have hfloor : ⌊(num : ℚ) / den⌋₊ = num / den := Nat.floor_div_eq_div num den
  -- the fraction that is cut off is the remainder in units of the divisor
  have hrest : (num : ℚ) / den - (num / den : ℕ) = (num % den : ℕ) / den := by
    have hdiv : (num : ℚ) = den * (num / den : ℕ) + (num % den : ℕ) := by
      exact_mod_cast (Nat.div_add_mod num den).symm
    rw [eq_div_iff hpos.ne', sub_mul, div_mul_cancel₀ _ hpos.ne']
    linarith
  have hbelow : 2 * ((num % den : ℕ) / den : ℚ) < 1 ↔ 2 * (num % den) < den := by
    rw [← mul_div_assoc, div_lt_one hpos]
    exact_mod_cast Iff.rfl
  have habove : 1 < 2 * ((num % den : ℕ) / den : ℚ) ↔ den < 2 * (num % den) := by
    rw [← mul_div_assoc, one_lt_div hpos]
    exact_mod_cast Iff.rfl
  simp only [roundDiv, roundEven, hfloor, hrest, hbelow, habove]

theorem roundEven_natCast (m : ℕ) : roundEven m = m := by
  simp [roundEven, Nat.floor_natCast]

theorem floor_le_roundEven (r : ℚ) : ⌊r⌋₊ ≤ roundEven r := by
  unfold roundEven
  split_ifs <;> omega

theorem roundEven_le_floor_succ (r : ℚ) : roundEven r ≤ ⌊r⌋₊ + 1 := by
  unfold roundEven
  split_ifs <;> omega

theorem roundEven_mono {r s : ℚ} (h : r ≤ s) : roundEven r ≤ roundEven s := by
  rcases (Nat.floor_mono h).lt_or_eq with hlt | heq
  · -- an integer lies between them
    exact (roundEven_le_floor_succ r).trans (hlt.trans_le (floor_le_roundEven s))
  · unfold roundEven
    rw [← heq]
    split_ifs <;> first | omega | linarith

theorem roundEven_le {r : ℚ} {m : ℕ} (h : r ≤ m) : roundEven r ≤ m := by
  have hmono := roundEven_mono h
  rwa [roundEven_natCast] at hmono

theorem le_roundEven {r : ℚ} {m : ℕ} (h : (m : ℚ) ≤ r) : m ≤ roundEven r := by
  have hmono := roundEven_mono h
  rwa [roundEven_natCast] at hmono

theorem roundEven_eq_zero {r : ℚ} (h : 2 * r < 1) : roundEven r = 0 := by
  have hfloor : ⌊r⌋₊ = 0 := Nat.floor_eq_zero.2 (by linarith)
  simp [roundEven, hfloor, h]

/-! ## Rounding to a significand -/

/-- The exponent of the unit in which a value is rounded. -/
def unitOf (q : ℚ) : ℤ :=
  max minExponent (Int.log 2 q - 52)

/-- The value in these units, rounded to an integer. -/
def steps (q : ℚ) : ℕ :=
  roundEven (q / 2 ^ unitOf q)

/-- What the value comes to by this. -/
def rounded (q : ℚ) : ℚ :=
  steps q * 2 ^ unitOf q

/-- A number with a significand and an exponent, unless the exponent is too large. -/
def bounded (negative : Bool) (m : ℕ) (e : ℤ) : Binary64 :=
  if maxExponent < e then .infinite negative else .finite negative m e

/-- The number nearest to a value that is not negative, with a sign. -/
def nearest (negative : Bool) (q : ℚ) : Binary64 :=
  if q = 0 then zero negative
  else if steps q < 2 ^ 53 then bounded negative (steps q) (unitOf q)
  else bounded negative (2 ^ 52) (unitOf q + 1)

section

variable {q : ℚ}

theorem unitOf_ge (q : ℚ) : minExponent ≤ unitOf q :=
  le_max_left _ _

theorem lt_zpow_unitOf (q : ℚ) : q < 2 ^ (unitOf q + 53) := by
  have hlog := Int.lt_zpow_succ_log_self (b := 2) (by decide) q
  push_cast at hlog
  have hunit : Int.log 2 q + 1 ≤ unitOf q + 53 := by
    have := le_max_right minExponent (Int.log 2 q - 52)
    rw [unitOf]
    omega
  exact hlog.trans_le (zpow_le_zpow_right₀ (by norm_num) hunit)

theorem zpow_unitOf_le (hq : 0 < q) (hunit : minExponent < unitOf q) :
    2 ^ (unitOf q + 52) ≤ q := by
  have hlog := Int.zpow_log_le_self (b := 2) (by decide) hq
  push_cast at hlog
  have heq : unitOf q + 52 = Int.log 2 q := by
    rw [unitOf] at hunit ⊢
    omega
  rwa [heq]

theorem steps_le (q : ℚ) : steps q ≤ 2 ^ 53 := by
  refine roundEven_le ?_
  have hpos : (0 : ℚ) < 2 ^ unitOf q := by positivity
  have hlt := (lt_zpow_unitOf q).le
  rw [zpow_add₀ (by norm_num), mul_comm] at hlt
  rw [div_le_iff₀ hpos]
  exact_mod_cast hlt

theorem le_steps (hq : 0 < q) (hunit : minExponent < unitOf q) : 2 ^ 52 ≤ steps q := by
  refine le_roundEven ?_
  have hpos : (0 : ℚ) < 2 ^ unitOf q := by positivity
  have hle := zpow_unitOf_le hq hunit
  rw [zpow_add₀ (by norm_num), mul_comm] at hle
  rw [le_div_iff₀ hpos]
  exact_mod_cast hle

theorem unitOf_mono {r : ℚ} (hq : 0 < q) (h : q ≤ r) : unitOf q ≤ unitOf r :=
  max_le_max le_rfl (Int.sub_le_sub_right (Int.log_mono_right hq h) 52)

end

/-! ## Canonical numbers -/

/-- The significand has 53 bits, or the exponent is the least one; neither is too large. -/
structure IsCanonical (m : ℕ) (e : ℤ) : Prop where
  lt : m < 2 ^ 53
  normal : 2 ^ 52 ≤ m ∨ e = minExponent
  ge : minExponent ≤ e
  le : e ≤ maxExponent

theorem of_bounded {negative sign : Bool} {m k : ℕ} {e f : ℤ}
    (h : bounded negative k f = .finite sign m e) :
    sign = negative ∧ m = k ∧ e = f ∧ f ≤ maxExponent := by
  unfold bounded at h
  split at h
  case isTrue => cases h
  case isFalse hle =>
    cases h
    exact ⟨rfl, rfl, rfl, not_lt.1 hle⟩

/-- What is rounded to a finite number has its value. -/
theorem of_nearest {negative sign : Bool} {q : ℚ} (hq : 0 ≤ q) {m : ℕ} {e : ℤ}
    (h : nearest negative q = .finite sign m e) :
    sign = negative ∧ IsCanonical m e ∧ (m : ℚ) * 2 ^ e = rounded q := by
  by_cases hzero : q = 0
  · rw [nearest, if_pos hzero, zero, Binary64.finite.injEq] at h
    rcases h with ⟨rfl, rfl, rfl⟩
    have hsteps : steps 0 = 0 := by rw [steps, zero_div]; exact roundEven_natCast 0
    exact ⟨rfl, ⟨by norm_num, .inr rfl, le_rfl, by decide⟩, by simp [rounded, hzero, hsteps]⟩
  · have hpos : 0 < q := lt_of_le_of_ne hq (Ne.symm hzero)
    have hge := unitOf_ge q
    rw [nearest, if_neg hzero] at h
    split at h
    case isTrue hsmall =>
      obtain ⟨rfl, rfl, rfl, hle⟩ := of_bounded h
      refine ⟨rfl, ⟨hsmall, ?_, hge, hle⟩, rfl⟩
      rcases hge.lt_or_eq with hunit | hunit
      · exact .inl (le_steps hpos hunit)
      · exact .inr hunit.symm
    case isFalse hlarge =>
      -- the next power of two has one bit more, and is told by the next exponent
      obtain ⟨rfl, rfl, rfl, hle⟩ := of_bounded h
      have hsteps : steps q = 2 ^ 53 := le_antisymm (steps_le q) (not_lt.1 hlarge)
      refine ⟨rfl, ⟨by norm_num, .inl le_rfl, by omega, hle⟩, ?_⟩
      rw [rounded, hsteps, zpow_add_one₀ (by norm_num)]
      push_cast
      ring

/-- Rounding gives a number or infinity. -/
theorem nearest_eq_infinite_or_finite (negative : Bool) (q : ℚ) :
    nearest negative q = .infinite negative ∨ ∃ m e, nearest negative q = .finite negative m e := by
  unfold nearest bounded zero
  split_ifs <;> simp

/-! ## Order -/

theorem rounded_mono {q r : ℚ} (hq : 0 < q) (h : q ≤ r) : rounded q ≤ rounded r := by
  have hr : 0 < r := hq.trans_le h
  rcases (unitOf_mono hq h).lt_or_eq with hlt | heq
  · -- a power of two lies between them
    have hunit : minExponent < unitOf r := (unitOf_ge q).trans_lt hlt
    calc
      rounded q ≤ (2 ^ 53 : ℕ) * 2 ^ unitOf q := by
        rw [rounded]
        gcongr
        exact steps_le q
      _ = 2 ^ (unitOf q + 53) := by
        rw [zpow_add₀ (by norm_num), mul_comm]
        norm_cast
      _ ≤ 2 ^ (unitOf r + 52) := zpow_le_zpow_right₀ (by norm_num) (by omega)
      _ = (2 ^ 52 : ℕ) * 2 ^ unitOf r := by
        rw [zpow_add₀ (by norm_num), mul_comm]
        norm_cast
      _ ≤ rounded r := by
        rw [rounded]
        gcongr
        exact le_steps hr hunit
  · rw [rounded, rounded, steps, steps, ← heq]
    gcongr
    exact roundEven_mono (by gcongr)

/-- A number in canonical form is rounded to itself. -/
theorem nearest_of_isCanonical (negative : Bool) {m : ℕ} {e : ℤ} (hm : m ≠ 0)
    (h : IsCanonical m e) : nearest negative (m * 2 ^ e) = .finite negative m e := by
  have hpos : (0 : ℚ) < m := by exact_mod_cast Nat.pos_of_ne_zero hm
  have hvalue : (0 : ℚ) < m * 2 ^ e := by positivity
  have hbelow : Int.log 2 ((m : ℚ) * 2 ^ e) < e + 53 := by
    rw [← Int.lt_zpow_iff_log_lt (by decide) hvalue]
    push_cast
    rw [zpow_add₀ (by norm_num), mul_comm]
    gcongr
    exact_mod_cast h.lt
  have hunit : unitOf (m * 2 ^ e) = e := by
    rcases h.normal with hnormal | rfl
    · have habove : e + 52 ≤ Int.log 2 ((m : ℚ) * 2 ^ e) := by
        rw [← Int.zpow_le_iff_le_log (by decide) hvalue]
        push_cast
        rw [zpow_add₀ (by norm_num), mul_comm]
        gcongr
        exact_mod_cast hnormal
      have hge := h.ge
      rw [unitOf]
      omega
    · rw [unitOf]
      omega
  have hsteps : steps (m * 2 ^ e) = m := by
    rw [steps, hunit, mul_div_cancel_right₀ _ (by positivity)]
    exact roundEven_natCast m
  rw [nearest, if_neg hvalue.ne', hsteps, if_pos h.lt, hunit, bounded, if_neg (not_lt.2 h.le)]

theorem rounded_of_isCanonical {m : ℕ} {e : ℤ} (hm : m ≠ 0) (h : IsCanonical m e) :
    rounded (m * 2 ^ e) = m * 2 ^ e :=
  (of_nearest (by positivity) (nearest_of_isCanonical false hm h)).2.2.symm

/-! ## Values that are out of reach -/

theorem nearest_of_large (negative : Bool) {q : ℚ} (h : 2 ^ (1024 : ℤ) ≤ q) :
    nearest negative q = .infinite negative := by
  have hpos : 0 < q := lt_of_lt_of_le (by positivity) h
  have hunit : maxExponent < unitOf q := by
    have hlog : 1024 ≤ Int.log 2 q := by
      rw [← Int.zpow_le_iff_le_log (by decide) hpos]
      exact_mod_cast h
    rw [unitOf, maxExponent]
    omega
  have hnext : maxExponent < unitOf q + 1 := hunit.trans (Int.lt_succ _)
  rw [nearest, if_neg hpos.ne', bounded, bounded, if_pos hunit, if_pos hnext, ite_self]

theorem nearest_of_small (negative : Bool) {q : ℚ} (hq : 0 ≤ q) (h : q < 2 ^ (-1075 : ℤ)) :
    nearest negative q = zero negative := by
  by_cases hzero : q = 0
  · rw [nearest, if_pos hzero]
  · have hpos : 0 < q := lt_of_le_of_ne hq (Ne.symm hzero)
    have hunit : unitOf q = minExponent := by
      have hlog : Int.log 2 q < -1075 := by
        rw [← Int.lt_zpow_iff_log_lt (by decide) hpos]
        exact_mod_cast h
      rw [unitOf, minExponent]
      omega
    have hsteps : steps q = 0 := by
      refine roundEven_eq_zero ?_
      have hstep : (0 : ℚ) < 2 ^ minExponent := by positivity
      rw [hunit, ← mul_div_assoc, div_lt_one hstep]
      calc
        2 * q < 2 * 2 ^ (-1075 : ℤ) := by gcongr
        _ = 2 ^ minExponent := by
          rw [minExponent, ← zpow_one_add₀ (by norm_num)]
          norm_num
    rw [nearest, if_neg hzero, hsteps, hunit]
    rfl

/-! ## Fractions -/

/-- A fraction in units of a power of two is a fraction of the value in these units. -/
theorem scaled_ratio (num : ℕ) {den : ℕ} (hden : den ≠ 0) (e : ℤ) :
    (scaled num den e).2 ≠ 0 ∧
      ((scaled num den e).1 : ℚ) / (scaled num den e).2 = num / den / 2 ^ e := by
  cases e with
  | ofNat k =>
    refine ⟨Nat.mul_ne_zero hden (by simp), ?_⟩
    simp only [scaled, Nat.pow_eq, Int.ofNat_eq_natCast, zpow_natCast]
    push_cast
    rw [div_div]
  | negSucc k =>
    refine ⟨hden, ?_⟩
    simp only [scaled, Nat.pow_eq, zpow_negSucc, div_inv_eq_mul]
    push_cast
    rw [div_mul_eq_mul_div]

/-- The binary logarithm of a fraction from those of its parts. -/
theorem log_ratio_bounds {num den : ℕ} (hnum : num ≠ 0) (hden : den ≠ 0) :
    (num.log2 : ℤ) - den.log2 - 1 ≤ Int.log 2 ((num : ℚ) / den) ∧
      Int.log 2 ((num : ℚ) / den) ≤ num.log2 - den.log2 := by
  have hnumpos : (0 : ℚ) < num := by exact_mod_cast Nat.pos_of_ne_zero hnum
  have hdenpos : (0 : ℚ) < den := by exact_mod_cast Nat.pos_of_ne_zero hden
  have hquotient : (0 : ℚ) < num / den := by positivity
  have hnumle : (2 : ℚ) ^ (num.log2 : ℤ) ≤ num := by exact_mod_cast Nat.log2_self_le hnum
  have hnumlt : (num : ℚ) < 2 ^ (num.log2 + 1 : ℤ) := by exact_mod_cast Nat.lt_log2_self
  have hdenle : (2 : ℚ) ^ (den.log2 : ℤ) ≤ den := by exact_mod_cast Nat.log2_self_le hden
  have hdenlt : (den : ℚ) < 2 ^ (den.log2 + 1 : ℤ) := by exact_mod_cast Nat.lt_log2_self
  constructor
  · rw [← Int.zpow_le_iff_le_log (by decide) hquotient]
    push_cast
    rw [le_div_iff₀ hdenpos]
    calc
      (2 : ℚ) ^ ((num.log2 : ℤ) - den.log2 - 1) * den
          ≤ 2 ^ ((num.log2 : ℤ) - den.log2 - 1) * 2 ^ (den.log2 + 1 : ℤ) := by gcongr
      _ = 2 ^ (num.log2 : ℤ) := by
        rw [← zpow_add₀ (by norm_num)]
        congr 1
        ring
      _ ≤ num := hnumle
  · rw [← Int.lt_add_one_iff, ← Int.lt_zpow_iff_log_lt (by decide) hquotient]
    push_cast
    rw [div_lt_iff₀ hdenpos]
    calc
      (num : ℚ) < 2 ^ (num.log2 + 1 : ℤ) := hnumlt
      _ = 2 ^ ((num.log2 : ℤ) - den.log2 + 1) * 2 ^ (den.log2 : ℤ) := by
        rw [← zpow_add₀ (by norm_num)]
        congr 1
        ring
      _ ≤ 2 ^ ((num.log2 : ℤ) - den.log2 + 1) * den := by gcongr

theorem exponentFor_eq {num den : ℕ} (hnum : num ≠ 0) (hden : den ≠ 0) :
    exponentFor num den = unitOf (num / den) := by
  have hnumpos : (0 : ℚ) < num := by exact_mod_cast Nat.pos_of_ne_zero hnum
  have hdenpos : (0 : ℚ) < den := by exact_mod_cast Nat.pos_of_ne_zero hden
  have hquotient : (0 : ℚ) < num / den := by positivity
  obtain ⟨hlow, hhigh⟩ := log_ratio_bounds hnum hden
  obtain ⟨hpart, hratio⟩ := scaled_ratio num hden ((num.log2 : ℤ) - den.log2 - 53)
  -- the guess is right or one too low, and the quotient tells which
  have hguess : (scaled num den ((num.log2 : ℤ) - den.log2 - 53)).1 /
        (scaled num den ((num.log2 : ℤ) - den.log2 - 53)).2 < 2 ^ 53 ↔
      Int.log 2 ((num : ℚ) / den) < num.log2 - den.log2 := by
    have hstep : (0 : ℚ) < 2 ^ ((num.log2 : ℤ) - den.log2 - 53) := by positivity
    rw [← Nat.floor_div_eq_div (K := ℚ), hratio, Nat.floor_lt (by positivity), div_lt_iff₀ hstep,
      ← Int.lt_zpow_iff_log_lt (by decide) hquotient]
    have hpower : ((2 ^ 53 : ℕ) : ℚ) * 2 ^ ((num.log2 : ℤ) - den.log2 - 53) =
        ((2 : ℕ) : ℚ) ^ ((num.log2 : ℤ) - den.log2) := by
      calc
        ((2 ^ 53 : ℕ) : ℚ) * 2 ^ ((num.log2 : ℤ) - den.log2 - 53)
            = 2 ^ (53 : ℤ) * 2 ^ ((num.log2 : ℤ) - den.log2 - 53) := by norm_cast
        _ = ((2 : ℕ) : ℚ) ^ ((num.log2 : ℤ) - den.log2) := by
          rw [← zpow_add₀ (by norm_num), Nat.cast_ofNat]
          congr 1
          ring
    rw [hpower]
  simp only [exponentFor, Nat.pow_eq, hguess, unitOf]
  split_ifs <;> omega

/-- What a fraction is rounded to depends on its value alone. -/
theorem ofRatio_eq_nearest (negative : Bool) (num : ℕ) {den : ℕ} (hden : den ≠ 0) :
    ofRatio negative num den = nearest negative (num / den) := by
  by_cases hnum : num = 0
  · simp [ofRatio, nearest, hnum]
  · have hzero : (num : ℚ) / den ≠ 0 := by positivity
    obtain ⟨hpart, hratio⟩ := scaled_ratio num hden (unitOf (num / den))
    have hsteps : roundDiv (scaled num den (unitOf (num / den))).1
        (scaled num den (unitOf (num / den))).2 = steps (num / den) := by
      rw [roundDiv_eq _ hpart, hratio, steps]
    simp only [ofRatio, if_neg hnum, exponentFor_eq hnum hden, hsteps, Nat.pow_eq, nearest,
      if_neg hzero, bounded]
    split <;> rfl

end Binary64
end Switchboard
