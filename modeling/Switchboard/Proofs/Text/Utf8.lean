import Switchboard.Text.Utf8

/-!
# UTF-8 reads back

The bytes of a text are decoded to the text, with replacement of flaws (`decodeLossy_encode`) and
without (`decode_encode`), since the lead byte of a character says how many bytes follow it and all
of them keep their payload.
-/

namespace Switchboard
namespace Text

/-! ## Decoding one character -/

section

variable {lead b c d : UInt8}

theorem decodeOne_one (h : lead.toNat < 0x80) (more : List UInt8) :
    decodeOne lead more = .char (Char.ofNat lead.toNat) 1 := by
  rw [decodeOne.eq_def]
  simp only [UInt8.lt_iff_toNat_lt, UInt8.reduceToNat]
  rw [if_pos h]

theorem decodeOne_two (hlow : 0xc2 ≤ lead.toNat) (hhigh : lead.toNat < 0xe0)
    (hb : isContinuation b = true) (more : List UInt8) :
    decodeOne lead (b :: more) = .char (Char.ofNat (lead.toNat % 32 * 64 + payload b)) 2 := by
  rw [decodeOne.eq_def]
  simp only [UInt8.lt_iff_toNat_lt, UInt8.reduceToNat]
  rw [if_neg (by omega), if_neg (by omega), if_pos hhigh, if_pos hb]

theorem decodeOne_three (hlow : 0xe0 ≤ lead.toNat) (hhigh : lead.toNat < 0xf0)
    (hb : allowsSecond lead b = true) (hc : isContinuation c = true) (more : List UInt8) :
    decodeOne lead (b :: c :: more) =
      .char (Char.ofNat (lead.toNat % 16 * 4096 + payload b * 64 + payload c)) 3 := by
  rw [decodeOne.eq_def]
  simp only [UInt8.lt_iff_toNat_lt, UInt8.reduceToNat]
  rw [if_neg (by omega), if_neg (by omega), if_neg (by omega), if_pos hhigh, if_neg (by simp [hb]),
    if_pos hc]

theorem decodeOne_four (hlow : 0xf0 ≤ lead.toNat) (hhigh : lead.toNat < 0xf5)
    (hb : allowsSecond lead b = true) (hc : isContinuation c = true)
    (hd : isContinuation d = true) (more : List UInt8) :
    decodeOne lead (b :: c :: d :: more) =
      .char (Char.ofNat
        (lead.toNat % 8 * 262144 + payload b * 4096 + payload c * 64 + payload d)) 4 := by
  rw [decodeOne.eq_def]
  simp only [UInt8.lt_iff_toNat_lt, UInt8.reduceToNat]
  rw [if_neg (by omega), if_neg (by omega), if_neg (by omega), if_neg (by omega), if_pos hhigh,
    if_neg (by simp [hb]), if_neg (by simp [hc]), if_pos hd]

/-- What may follow a lead byte, in numbers. -/
theorem allowsSecond_of_toNat (hlow : 0x80 ≤ b.toNat) (hhigh : b.toNat ≤ 0xbf)
    (he0 : lead.toNat = 0xe0 → 0xa0 ≤ b.toNat) (hed : lead.toNat = 0xed → b.toNat < 0xa0)
    (hf0 : lead.toNat = 0xf0 → 0x90 ≤ b.toNat) (hf4 : lead.toNat = 0xf4 → b.toNat < 0x90) :
    allowsSecond lead b = true := by
  simp only [allowsSecond, isContinuation, UInt8.lt_iff_toNat_lt, UInt8.le_iff_toNat_le,
    beq_eq_false_iff_ne, ne_eq, ← UInt8.toNat_inj, UInt8.reduceToNat, Bool.and_eq_true,
    Bool.not_eq_true', decide_eq_true_eq, Bool.and_eq_false_iff, decide_eq_false_iff_not]
  omega

end

theorem toNat_ofNat_of_lt {n : Nat} (h : n < 256) : (UInt8.ofNat n).toNat = n := by
  rw [UInt8.toNat_ofNat', Nat.mod_eq_of_lt h]

/-- A byte that continues a character carries six bits of its number. -/
theorem toNat_continuation (k : Nat) : (UInt8.ofNat (0x80 + k % 64)).toNat = 0x80 + k % 64 :=
  toNat_ofNat_of_lt (by omega)

theorem isContinuation_continuation (k : Nat) :
    isContinuation (UInt8.ofNat (0x80 + k % 64)) = true := by
  simp only [isContinuation, UInt8.le_iff_toNat_le, toNat_continuation, UInt8.reduceToNat,
    Bool.and_eq_true, decide_eq_true_eq]
  omega

theorem payload_continuation (k : Nat) : payload (UInt8.ofNat (0x80 + k % 64)) = k % 64 := by
  rw [payload, toNat_continuation]
  omega

/-- The lead byte of a character and the bytes behind it are decoded to the character, whatever
follows. -/
theorem exists_decodeOne_encodeChar (c : Char) (more : List UInt8) :
    ∃ lead rest, encodeChar c = lead :: rest ∧
      decodeOne lead (rest ++ more) = .char c (rest.length + 1) := by
  have hvalid : c.toNat < 0xd800 ∨ 0xdfff < c.toNat ∧ c.toNat < 0x110000 := c.valid
  have hchar : ∀ n, n = c.toNat → Char.ofNat n = c := by
    rintro n rfl
    exact Char.ofNat_toNat c
  -- one case for each number of bytes; the numbers that are left out are those of no character
  unfold encodeChar
  simp only
  split
  case isTrue hone =>
    have hlead := toNat_ofNat_of_lt (n := c.toNat) (by omega)
    refine ⟨_, [], rfl, ?_⟩
    rw [decodeOne_one (by omega), hlead, hchar _ rfl]
    rfl
  case isFalse hone =>
    split
    case isTrue htwo =>
      have hlead := toNat_ofNat_of_lt (n := 0xc0 + c.toNat / 64) (by omega)
      refine ⟨_, _, rfl, ?_⟩
      rw [List.singleton_append,
        decodeOne_two (by omega) (by omega) (isContinuation_continuation _), payload_continuation,
        hlead, hchar _ (by omega)]
      rfl
    case isFalse htwo =>
      split
      case isTrue hthree =>
        have hlead := toNat_ofNat_of_lt (n := 0xe0 + c.toNat / 4096) (by omega)
        have hsecond := toNat_continuation (c.toNat / 64)
        refine ⟨_, _, rfl, ?_⟩
        rw [List.cons_append, List.singleton_append,
          decodeOne_three (by omega) (by omega)
            (allowsSecond_of_toNat (by omega) (by omega) (by omega) (by omega) (by omega)
              (by omega))
            (isContinuation_continuation _),
          payload_continuation, payload_continuation, hlead, hchar _ (by omega)]
        rfl
      case isFalse hthree =>
        have hlead := toNat_ofNat_of_lt (n := 0xf0 + c.toNat / 262144) (by omega)
        have hsecond := toNat_continuation (c.toNat / 4096)
        refine ⟨_, _, rfl, ?_⟩
        rw [List.cons_append, List.cons_append, List.singleton_append,
          decodeOne_four (by omega) (by omega)
            (allowsSecond_of_toNat (by omega) (by omega) (by omega) (by omega) (by omega)
              (by omega))
            (isContinuation_continuation _) (isContinuation_continuation _),
          payload_continuation, payload_continuation, payload_continuation, hlead,
          hchar _ (by omega)]
        rfl

/-! ## Decoding a text -/

/-- Bytes that belong to the step before are passed over. -/
theorem decodeLossyFrom_append (bytes more : List UInt8) :
    decodeLossyFrom bytes.length (bytes ++ more) = decodeLossy more := by
  induction bytes with
  | nil => rfl
  | cons b rest ih => exact ih

theorem decodeLossy_encodeChar_append (c : Char) (more : List UInt8) :
    decodeLossy (encodeChar c ++ more) = c :: decodeLossy more := by
  rcases exists_decodeOne_encodeChar c more with ⟨lead, rest, hbytes, hdecoded⟩
  rw [hbytes, List.cons_append, decodeLossy, decodeLossyFrom]
  simp only [hdecoded, Nat.add_sub_cancel]
  rw [decodeLossyFrom_append]

/-- The bytes of a text are decoded to the text. -/
theorem decodeLossy_encode (s : List Char) : decodeLossy (encode s) = s := by
  induction s with
  | nil => rfl
  | cons c rest ih =>
    have hbytes : encode (c :: rest) = encodeChar c ++ encode rest := rfl
    rw [hbytes, decodeLossy_encodeChar_append, ih]

/-! ### Without loss -/

theorem decodeFrom_append (position : Nat) (bytes more : List UInt8) :
    decodeFrom position bytes.length (bytes ++ more) =
      decodeFrom (position + bytes.length) 0 more := by
  induction bytes generalizing position with
  | nil => rfl
  | cons b rest ih =>
    have hnext : position + (b :: rest).length = position + 1 + rest.length := by
      rw [List.length_cons]
      omega
    rw [hnext]
    exact ih (position + 1)

theorem decodeFrom_encode (position : Nat) (s : List Char) :
    decodeFrom position 0 (encode s) = .ok s := by
  induction s generalizing position with
  | nil => rfl
  | cons c rest ih =>
    have hbytes : encode (c :: rest) = encodeChar c ++ encode rest := rfl
    rcases exists_decodeOne_encodeChar c (encode rest) with ⟨lead, tail, hlead, hdecoded⟩
    rw [hbytes, hlead, List.cons_append, decodeFrom]
    simp only [hdecoded, Nat.add_sub_cancel]
    rw [decodeFrom_append, ih]
    rfl

/-- What is written as bytes is read without a flaw. -/
theorem decode_encode (s : List Char) : decode (encode s) = .ok s :=
  decodeFrom_encode 0 s

end Text
end Switchboard
