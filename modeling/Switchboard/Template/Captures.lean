import Switchboard.Fault
import Switchboard.Pattern.Read
import Switchboard.Pattern.Search

/-!
# Captures

A backslash with digits behind it stands for a group of a match. `fillCaptures` fills a template
in one pass; a backslash without digits is kept.
-/

namespace Switchboard

open Pattern Text

/-- The text of a group by its written number. A group that does not exist or took no part is
empty; a number of too many digits is refused. -/
def captureText (found : Match) (digits : List Char) : Except Fault (List Char) :=
  if Numeral.digitLimit < digits.length then .error (.tooManyDigits (some digits.length))
  else
    let number := digits.foldl (fun n d => 10 * n + (d.toNat - 48)) 0
    .ok ((found.groups[number]?.getD none).getD [])

/-- Fills a template; behind a backslash, the digits read so far are kept in reverse order. -/
def fillCapturesFrom (found : Match) : Option (List Char) → List Char → Except Fault (List Char)
  | none, [] => .ok []
  | none, c :: rest =>
    if c = '\\' then fillCapturesFrom found (some []) rest
    else (fillCapturesFrom found none rest).map (c :: ·)
  | some [], [] => .ok ['\\']
  | some (d :: ds), [] => captureText found (d :: ds).reverse
  | some digits, c :: rest =>
    if c.isDigit then fillCapturesFrom found (some (c :: digits)) rest
    else do
      -- the digits end here; the character behind them may start another capture
      let head ← if digits.isEmpty then .ok ['\\'] else captureText found digits.reverse
      let tail ←
        if c = '\\' then fillCapturesFrom found (some []) rest
        else (fillCapturesFrom found none rest).map (c :: ·)
      return head ++ tail

def fillCaptures (found : Match) (template : List Char) : Except Fault (List Char) :=
  fillCapturesFrom found none template

def compilePattern (pattern : List Char) : Except Fault Compiled :=
  (Compiled.ofText pattern).mapError Fault.ofPatternFlaw

/-- The template filled with the first match of a pattern in a text, or nothing if there is no
match. -/
def applyCaptures (pattern : Compiled) (text template : List Char) : Except Fault (List Char) :=
  match pattern.search text with
  | none => .ok []
  | some found => fillCaptures found template

end Switchboard
