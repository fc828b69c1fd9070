import Switchboard.Text.Ranges

/-!
# Decimal digits

Every script that writes decimal numbers has ten consecutive digits, so the table holds the
zeros alone. `digitValue?` gives a digit's value in any script.
-/

namespace Switchboard
namespace Text

/-- The code points of the digits zero. -/
def digitZeros : Array Nat := #[
  0x30, 0x660, 0x6f0, 0x7c0, 0x966, 0x9e6, 0xa66, 0xae6, 0xb66, 0xbe6,
  0xc66, 0xce6, 0xd66, 0xde6, 0xe50, 0xed0, 0xf20, 0x1040, 0x1090, 0x17e0,
  0x1810, 0x1946, 0x19d0, 0x1a80, 0x1a90, 0x1b50, 0x1bb0, 0x1c40, 0x1c50, 0xa620,
  0xa8d0, 0xa900, 0xa9d0, 0xa9f0, 0xaa50, 0xabf0, 0xff10, 0x104a0, 0x10d30, 0x11066,
  0x110f0, 0x11136, 0x111d0, 0x112f0, 0x11450, 0x114d0, 0x11650, 0x116c0, 0x11730, 0x118e0,
  0x11950, 0x11c50, 0x11d50, 0x11da0, 0x16a60, 0x16ac0, 0x16b50, 0x1d7ce, 0x1d7d8, 0x1d7e2,
  0x1d7ec, 0x1d7f6, 0x1e140, 0x1e2f0, 0x1e950, 0x1fbf0]

/-- The value of a decimal digit of any script. -/
def digitValue? (c : Char) : Option Nat :=
  if c.toNat < 128 then
    if c.isDigit then some (c.toNat - 0x30) else none
  else
    match countStarted (fun i => digitZeros[i]?.getD 0) c.toNat 0 digitZeros.size with
    | 0 => none
    | n + 1 =>
      let base := digitZeros[n]?.getD 0
      if c.toNat < base + 10 then some (c.toNat - base) else none

def isDecimalDigit (c : Char) : Bool :=
  (digitValue? c).isSome

def hexValue? (c : Char) : Option Nat :=
  let n := c.toNat
  if 0x30 ≤ n ∧ n ≤ 0x39 then some (n - 0x30)
  else if 0x41 ≤ n ∧ n ≤ 0x46 then some (n - 0x37)
  else if 0x61 ≤ n ∧ n ≤ 0x66 then some (n - 0x57)
  else none

/-- The digit for a value below sixteen, with capitals from ten on. -/
def hexDigit (n : Nat) : Char :=
  Char.ofNat (if n < 10 then 0x30 + n else 0x37 + n)

/-- The digit for a value below sixteen, with small letters from ten on. -/
def hexDigitSmall (n : Nat) : Char :=
  Char.ofNat (if n < 10 then 0x30 + n else 0x57 + n)

/-- `n` in exactly `width` hexadecimal digits, the high ones dropped if they do not fit. -/
def hexText (digit : Nat → Char) : Nat → Nat → List Char
  | 0, _ => []
  | width + 1, n => hexText digit width (n / 16) ++ [digit (n % 16)]

end Text
end Switchboard
