/-!
# UTF-8

Encoding to bytes and decoding from bytes. Decoding stops at the first byte sequence that no
text encodes and says where and why (`Flaw`); `decodeLossy` puts the replacement character in
its place and goes on behind it.
-/

namespace Switchboard
namespace Text

/-! ## Encoding -/

def encodeChar (c : Char) : List UInt8 :=
  let n := c.toNat
  let tail (k : Nat) : UInt8 := UInt8.ofNat (0x80 + k % 64)
  if n < 0x80 then [UInt8.ofNat n]
  else if n < 0x800 then [UInt8.ofNat (0xc0 + n / 64), tail n]
  else if n < 0x10000 then [UInt8.ofNat (0xe0 + n / 4096), tail (n / 64), tail n]
  else [UInt8.ofNat (0xf0 + n / 262144), tail (n / 4096), tail (n / 64), tail n]

def encode (s : List Char) : List UInt8 :=
  s.flatMap encodeChar

/-! ## Decoding -/

/-- Why a byte sequence encodes no text. -/
inductive FlawKind
  | badStart
  | badContinuation
  | truncated
  deriving DecidableEq, Repr

/-- A byte sequence that no text encodes: its first byte, position, length and the reason. -/
structure Flaw where
  byte : UInt8
  position : Nat
  length : Nat
  kind : FlawKind
  deriving DecidableEq, Repr

/-- The first step of decoding: a character and its length in bytes, or a flaw. -/
inductive Decoded
  | char (c : Char) (length : Nat)
  | flaw (length : Nat) (kind : FlawKind)
  deriving DecidableEq, Repr

def isContinuation (b : UInt8) : Bool :=
  0x80 ≤ b && b ≤ 0xbf

def payload (b : UInt8) : Nat :=
  b.toNat % 64

/-- Whether `second` may follow the lead byte of a character of three or four bytes: no
overlong form, no surrogate, nothing beyond the last code point. -/
def allowsSecond (lead second : UInt8) : Bool :=
  isContinuation second &&
    !(lead == 0xe0 && second < 0xa0) && !(lead == 0xed && 0xa0 ≤ second) &&
    !(lead == 0xf0 && second < 0x90) && !(lead == 0xf4 && 0x90 ≤ second)

def decodeOne (lead : UInt8) (rest : List UInt8) : Decoded :=
  if lead < 0x80 then .char (Char.ofNat lead.toNat) 1
  else if lead < 0xc2 then .flaw 1 .badStart
  else if lead < 0xe0 then
    match rest with
    | [] => .flaw 1 .truncated
    | b :: _ =>
      if isContinuation b then .char (Char.ofNat (lead.toNat % 32 * 64 + payload b)) 2
      else .flaw 1 .badContinuation
  else if lead < 0xf0 then
    match rest with
    | [] => .flaw 1 .truncated
    | b :: rest =>
      if !allowsSecond lead b then .flaw 1 .badContinuation
      else
        match rest with
        | [] => .flaw 2 .truncated
        | c :: _ =>
          if isContinuation c then
            .char (Char.ofNat (lead.toNat % 16 * 4096 + payload b * 64 + payload c)) 3
          else .flaw 2 .badContinuation
  else if lead < 0xf5 then
    match rest with
    | [] => .flaw 1 .truncated
    | b :: rest =>
      if !allowsSecond lead b then .flaw 1 .badContinuation
      else
        match rest with
        | [] => .flaw 2 .truncated
        | c :: rest =>
          if !isContinuation c then .flaw 2 .badContinuation
          else
            match rest with
            | [] => .flaw 3 .truncated
            | d :: _ =>
              if isContinuation d then
                .char (Char.ofNat
                  (lead.toNat % 8 * 262144 + payload b * 4096 + payload c * 64 + payload d)) 4
              else .flaw 3 .badContinuation
  else .flaw 1 .badStart

/-- Decodes the bytes from `position` on, `skip` of which belong to the step before. -/
def decodeFrom (position skip : Nat) : List UInt8 → Except Flaw (List Char)
  | [] => .ok []
  | b :: rest =>
    match skip with
    | k + 1 => decodeFrom (position + 1) k rest
    | 0 =>
      match decodeOne b rest with
      | .char c length => (decodeFrom (position + 1) (length - 1) rest).map (c :: ·)
      | .flaw length kind => .error ⟨b, position, length, kind⟩

/-- The text that the bytes encode, or the first flaw. -/
def decode (bytes : List UInt8) : Except Flaw (List Char) :=
  decodeFrom 0 0 bytes

/-- Decodes with the replacement character for every flaw; `skip` bytes belong to the step
before. -/
def decodeLossyFrom (skip : Nat) : List UInt8 → List Char
  | [] => []
  | b :: rest =>
    match skip with
    | k + 1 => decodeLossyFrom k rest
    | 0 =>
      match decodeOne b rest with
      | .char c length => c :: decodeLossyFrom (length - 1) rest
      | .flaw length _ => '\ufffd' :: decodeLossyFrom (length - 1) rest

/-- The text that the bytes encode, with the replacement character for every flaw. -/
def decodeLossy (bytes : List UInt8) : List Char :=
  decodeLossyFrom 0 bytes

end Text
end Switchboard
