import Switchboard.Text.Digit
import Switchboard.Text.Printable

/-!
# Quoted text

Text in quotes, on one line and with printable characters only. Single quotes are used unless
the text holds single quotes and no double one.
-/

namespace Switchboard
namespace Text

def quoteFor (s : List Char) : Char :=
  if s.contains '\'' && !s.contains '"' then '"' else '\''

def quotedChar (quote c : Char) : List Char :=
  if c = quote || c = '\\' then ['\\', c]
  else if c = '\n' then ['\\', 'n']
  else if c = '\r' then ['\\', 'r']
  else if c = '\t' then ['\\', 't']
  else if isPrintable c then [c]
  else if c.toNat < 0x100 then '\\' :: 'x' :: hexText hexDigitSmall 2 c.toNat
  else if c.toNat < 0x10000 then '\\' :: 'u' :: hexText hexDigitSmall 4 c.toNat
  else '\\' :: 'U' :: hexText hexDigitSmall 8 c.toNat

def quoted (s : List Char) : List Char :=
  let quote := quoteFor s
  quote :: s.flatMap (quotedChar quote) ++ [quote]

def quotedString (s : String) : String :=
  String.ofList (quoted s.toList)

end Text
end Switchboard
