import Switchboard.Text.Digit
import Switchboard.Text.Utf8

/-!
# Percent coding

A percent sign and two hexadecimal digits stand for a byte, and bytes for characters as UTF-8
has it. Only what stands among ASCII characters is decoded together: a character beyond ASCII
ends a run of bytes.
-/

namespace Switchboard
namespace Text

/-- The bytes of an ASCII text with its percent escapes; a percent sign without two hexadecimal
digits stands for itself. -/
def percentBytes : List Char → List UInt8
  | [] => []
  | '%' :: a :: b :: rest =>
    match hexValue? a, hexValue? b with
    | some high, some low => UInt8.ofNat (high * 16 + low) :: percentBytes rest
    | _, _ => '%'.toUInt8 :: percentBytes (a :: b :: rest)
  | c :: rest => c.toUInt8 :: percentBytes rest

/-- Decodes percent escapes, the ASCII characters before the cursor in reverse order. -/
def percentDecodeFrom (run : List Char) : List Char → List Char
  | [] => decodeLossy (percentBytes run.reverse)
  | c :: rest =>
    if c.toNat < 128 then percentDecodeFrom (c :: run) rest
    else decodeLossy (percentBytes run.reverse) ++ c :: percentDecodeFrom [] rest

def percentDecode (s : List Char) : List Char :=
  percentDecodeFrom [] s

/-- A byte as a percent sign and two hexadecimal digits. -/
def percentByte (b : UInt8) : List Char :=
  ['%', hexDigit (b.toNat / 16), hexDigit (b.toNat % 16)]

/-- Text with every character but ASCII letters and digits written as percent escapes. -/
def percentEncode (s : List Char) : List Char :=
  s.flatMap fun c => if c.isAlphanum then [c] else (encodeChar c).flatMap percentByte

end Text
end Switchboard
