import Switchboard.Proofs.Text.Utf8
import Switchboard.Text.Percent

/-!
# Percent coding reads back

Bytes may be written in many ways: a letter or digit as itself or as an escape, any other byte as an
escape, and an escape with small or capital digits. `Escapes` says which texts stand for which
bytes, and `percentEncode` writes one of them (`escapes_percentEncode`).

Reading takes such a text to the bytes (`Escapes.percentBytes_eq`) and these to characters
(`decodeLossy_encode`). So every text that stands for the bytes of a text is read as this text
(`Escapes.percentDecode_eq`).
-/

namespace Switchboard
namespace Text

/-! ## Escapes -/

/-- A text stands for bytes: ASCII letters and digits for themselves, and a percent sign with two
hexadecimal digits for any byte. -/
inductive Escapes : List UInt8 → List Char → Prop
  | nil : Escapes [] []
  | plain {c : Char} {bytes : List UInt8} {text : List Char} :
      c.isAlphanum = true → Escapes bytes text → Escapes (c.toUInt8 :: bytes) (c :: text)
  | escape {b : UInt8} {high low : Char} {bytes : List UInt8} {text : List Char} :
      hexValue? high = some (b.toNat / 16) → hexValue? low = some (b.toNat % 16) →
      Escapes bytes text → Escapes (b :: bytes) ('%' :: high :: low :: text)

theorem isAlphanum_iff_toNat {c : Char} :
    c.isAlphanum = true ↔ 0x41 ≤ c.toNat ∧ c.toNat ≤ 0x5a ∨ 0x61 ≤ c.toNat ∧ c.toNat ≤ 0x7a ∨
      0x30 ≤ c.toNat ∧ c.toNat ≤ 0x39 := by
  have hupper : c.isUpper = true ↔ 0x41 ≤ c.toNat ∧ c.toNat ≤ 0x5a := decide_eq_true_iff
  have hlower : c.isLower = true ↔ 0x61 ≤ c.toNat ∧ c.toNat ≤ 0x7a := by
    change (decide _ && decide _) = true ↔ _
    rw [Bool.and_eq_true, decide_eq_true_iff, decide_eq_true_iff]
    exact Iff.rfl
  have hdigit : c.isDigit = true ↔ 0x30 ≤ c.toNat ∧ c.toNat ≤ 0x39 := by
    change (decide _ && decide _) = true ↔ _
    rw [Bool.and_eq_true, decide_eq_true_iff, decide_eq_true_iff]
    exact Iff.rfl
  have halpha : c.isAlpha = (c.isUpper || c.isLower) := rfl
  simp only [Char.isAlphanum, halpha, Bool.or_eq_true, hupper, hlower, hdigit, or_assoc]

/-- A hexadecimal digit is a letter or digit. -/
theorem isAlphanum_of_hexValue? {c : Char} {n : Nat} (h : hexValue? c = some n) :
    c.isAlphanum = true := by
  rw [isAlphanum_iff_toNat]
  grind [hexValue?]

namespace Escapes

variable {bytes : List UInt8} {text : List Char}

theorem append {bytes' : List UInt8} {text' : List Char} (h : Escapes bytes text)
    (h' : Escapes bytes' text') : Escapes (bytes ++ bytes') (text ++ text') := by
  induction h with
  | nil => exact h'
  | plain hc _ ih => exact .plain hc ih
  | escape hhigh hlow _ ih => exact .escape hhigh hlow ih

/-- The characters of such a text are letters, digits and percent signs. -/
theorem forall_mem (h : Escapes bytes text) : ∀ c ∈ text, c = '%' ∨ c.isAlphanum = true := by
  induction h with
  | nil => simp
  | plain hc _ ih => simpa [hc] using ih
  | escape hhigh hlow _ ih =>
    simpa [isAlphanum_of_hexValue? hhigh, isAlphanum_of_hexValue? hlow] using ih

theorem not_mem (h : Escapes bytes text) {c : Char} (hpercent : c ≠ '%')
    (halphanum : c.isAlphanum = false) : c ∉ text := by
  intro hc
  rcases h.forall_mem c hc with heq | hplain
  · exact hpercent heq
  · rw [halphanum] at hplain
    cases hplain

theorem isAscii (h : Escapes bytes text) : ∀ c ∈ text, c.toNat < 128 := by
  intro c hc
  rcases h.forall_mem c hc with rfl | hplain
  · decide
  · rw [isAlphanum_iff_toNat] at hplain
    omega

/-- Reading gives the bytes back. -/
theorem percentBytes_eq (h : Escapes bytes text) : percentBytes text = bytes := by
  induction h with
  | nil => rfl
  | plain hc _ ih =>
    rw [percentBytes.eq_3 _ _ (by rintro a b more rfl; cases hc), ih]
  | @escape b high low bytes text hhigh hlow _ ih =>
    have hbyte : UInt8.ofNat (b.toNat / 16 * 16 + b.toNat % 16) = b := by
      rw [Nat.div_add_mod' b.toNat 16, UInt8.ofNat_toNat]
    simp only [percentBytes, hhigh, hlow, hbyte, ih]

end Escapes

/-- An ASCII text is decoded as a whole. -/
theorem percentDecodeFrom_of_isAscii {s : List Char} (h : ∀ c ∈ s, c.toNat < 128)
    (run : List Char) :
    percentDecodeFrom run s = decodeLossy (percentBytes (run.reverse ++ s)) := by
  induction s generalizing run with
  | nil => rw [percentDecodeFrom, List.append_nil]
  | cons c rest ih =>
    rw [percentDecodeFrom, if_pos (h c List.mem_cons_self),
      ih fun d hd => h d (List.mem_cons_of_mem c hd)]
    simp

/-- A text that stands for the bytes of a text is read as this text. -/
theorem Escapes.percentDecode_eq {s text : List Char} (h : Escapes (encode s) text) :
    percentDecode text = s := by
  rw [percentDecode, percentDecodeFrom_of_isAscii h.isAscii, List.reverse_nil, List.nil_append,
    h.percentBytes_eq, decodeLossy_encode]

/-! ## Writing -/

theorem hexValue?_hexDigit {n : Nat} (h : n < 16) : hexValue? (hexDigit n) = some n := by
  have hall : ∀ k : Fin 16, hexValue? (hexDigit k) = some k.val := by decide
  exact hall ⟨n, h⟩

theorem escapes_percentByte (b : UInt8) : Escapes [b] (percentByte b) := by
  have hb := b.toNat_lt
  exact .escape (hexValue?_hexDigit (by omega)) (hexValue?_hexDigit (by omega)) .nil

theorem escapes_flatMap_percentByte (bytes : List UInt8) :
    Escapes bytes (bytes.flatMap percentByte) := by
  induction bytes with
  | nil => exact .nil
  | cons b rest ih => exact (escapes_percentByte b).append ih

/-- Percent coding stands for the bytes of the text. -/
theorem escapes_percentEncode (s : List Char) : Escapes (encode s) (percentEncode s) := by
  induction s with
  | nil => exact .nil
  | cons c rest ih =>
    by_cases hc : c.isAlphanum = true
    · -- the only byte of a letter or digit is its number
      have hbytes : encodeChar c = [c.toUInt8] := by
        have hascii := isAlphanum_iff_toNat.1 hc
        simp only [encodeChar]
        rw [if_pos (by omega)]
        rfl
      have hencode : encode (c :: rest) = c.toUInt8 :: encode rest := by
        rw [encode, List.flatMap_cons, hbytes]
        rfl
      have htext : percentEncode (c :: rest) = c :: percentEncode rest := by
        rw [percentEncode, List.flatMap_cons, if_pos hc]
        rfl
      rw [hencode, htext]
      exact .plain hc ih
    · have htext : percentEncode (c :: rest) =
          (encodeChar c).flatMap percentByte ++ percentEncode rest := by
        rw [percentEncode, List.flatMap_cons, if_neg hc]
        rfl
      rw [htext]
      exact (escapes_flatMap_percentByte (encodeChar c)).append ih

end Text
end Switchboard
