import Switchboard.Text.Blank
import Switchboard.Text.CaseMap
import Switchboard.Text.Digit
import Switchboard.Text.WordChar

/-!
# Character sets of patterns

A set holds code points, ranges and categories, perhaps negated. When case does not count, the
character is folded to lower case first and a member counts with all its case forms.
-/

namespace Switchboard
namespace Pattern

open Text

/-- How characters are compared: as they are, or without regard to the case of ASCII letters or
of letters of all scripts. -/
inductive Fold
  | exact
  | ascii
  | unicode
  deriving DecidableEq, Repr

namespace Fold

def apply : Fold → Nat → Nat
  | .exact, code => code
  | .ascii, code => asciiLowerCode code
  | .unicode, code => lowerCode code

end Fold

/-- The categories that an escape names. -/
inductive Category
  | digit
  | blank
  | word
  deriving DecidableEq, Repr

namespace Category

/-- Whether `c` is of the category, among ASCII characters alone or all. -/
def holds (ascii : Bool) (category : Category) (c : Char) : Bool :=
  match category, ascii with
  | .digit, true => c.isDigit
  | .digit, false => isDecimalDigit c
  | .blank, true => isAsciiBlank c
  | .blank, false => isBlank c
  | .word, true => isAsciiWordChar c
  | .word, false => isWordChar c

end Category

inductive Member
  | code (n : Nat)
  | range (low high : Nat)
  | category (negated ascii : Bool) (category : Category)
  deriving DecidableEq, Repr

structure CharSet where
  negated : Bool
  fold : Fold
  members : List Member
  deriving DecidableEq, Repr

/-- The last code point of the basic plane. -/
def lastBasic : Nat := 0xffff

/-- The code points below `0x10000` that a run of the case table takes to `code`. -/
def runSource? (run : CaseRun) (code : Nat) : Option Nat :=
  let source := ((code : Int) - run.shift).toNat
  if run.first ≤ source ∧ source ≤ run.last ∧ (source - run.first) % run.step = 0 then some source
  else none

/-- The code points whose lower case form is `code`. -/
def lowerSources (code : Nat) : List Nat :=
  let own := if lowerCode code = code then [code] else []
  let ascii := if 0x61 ≤ code ∧ code ≤ 0x7a then [code - 32] else []
  own ++ ascii ++ lowerRuns.toList.filterMap (runSource? · code)

namespace Member

/-- Whether the folded code point is a case form of one in the range. Beyond the basic plane
the range is asked for the code point itself and its upper case form. -/
def foldedRange (fold : Fold) (low high code : Nat) : Bool :=
  let inBasic (n : Nat) : Bool := low ≤ n && n ≤ min high lastBasic
  let basic :=
    match fold with
    | .exact => inBasic code
    | .ascii => inBasic code || (0x61 ≤ code && code ≤ 0x7a && inBasic (code - 32))
    | .unicode => (code :: siblings code).any fun small => (lowerSources small).any inBasic
  let beyond :=
    lastBasic < high &&
      ((low ≤ code && code ≤ high) || (low ≤ upperCode code && upperCode code ≤ high))
  basic || beyond

/-- Whether the folded code point is a case form of the member's code point. Beyond the basic
plane the code point is taken as it stands. -/
def foldedCode (fold : Fold) (n code : Nat) : Bool :=
  let small := fold.apply n
  if lastBasic < small then code == n
  else code == small || (fold == .unicode && (siblings small).contains code)

def holds (fold : Fold) (code : Nat) : Member → Bool
  | .code n => if fold = .exact then code == n else foldedCode fold n code
  | .range low high =>
    if fold = .exact then low ≤ code && code ≤ high else foldedRange fold low high code
  | .category negated ascii kind => kind.holds ascii (Char.ofNat code) != negated

end Member

namespace CharSet

def holds (set : CharSet) (c : Char) : Bool :=
  let code := set.fold.apply c.toNat
  set.members.any (Member.holds set.fold code) != set.negated

def single (fold : Fold) (n : Nat) : CharSet :=
  ⟨false, fold, [.code (fold.apply n)]⟩

end CharSet
end Pattern
end Switchboard
