/-!
# Cutting and joining text

Text is cut on a list of characters: at every occurrence of a separator (`splitAll`) or at the
first one (`cut?`). `join` puts pieces together again, so that `join sep (splitAll sep s) = s`.
-/

namespace Switchboard
namespace Text

/-- The pieces between the separators; there is one more piece than there are separators. -/
def splitAll (sep : Char) : List Char → List (List Char)
  | [] => [[]]
  | c :: rest =>
    if c = sep then [] :: splitAll sep rest
    else
      match splitAll sep rest with
      | [] => [[c]]
      | piece :: pieces => (c :: piece) :: pieces

/-- What stands before and after the first separator, or nothing when there is none. -/
def cut? (sep : Char) : List Char → Option (List Char × List Char)
  | [] => none
  | c :: rest =>
    if c = sep then some ([], rest)
    else (cut? sep rest).map fun (before, after) => (c :: before, after)

/-- The pieces with the separator text between them. -/
def join (sep : List Char) : List (List Char) → List Char
  | [] => []
  | [piece] => piece
  | piece :: pieces => piece ++ sep ++ join sep pieces

def joinWith (sep : String) (pieces : List String) : String :=
  String.ofList (join sep.toList (pieces.map (·.toList)))

/-- The rest of the text behind `lead`, if the text starts with it. -/
def dropLead? : List Char → List Char → Option (List Char)
  | [], rest => some rest
  | _ :: _, [] => none
  | c :: lead, d :: rest => if c = d then dropLead? lead rest else none

def replaceChar (old new : Char) (s : List Char) : List Char :=
  s.map fun c => if c = old then new else c

/-- `s` behind as many fill characters as make it `width` characters wide. -/
def padStart (fill : Char) (width : Nat) (s : List Char) : List Char :=
  List.replicate (width - s.length) fill ++ s

/-- `s` before as many fill characters as make it `width` characters wide. -/
def padEnd (fill : Char) (width : Nat) (s : List Char) : List Char :=
  s ++ List.replicate (width - s.length) fill

def natText (n : Nat) : List Char :=
  Nat.toDigits 10 n

/-- The decimal digits of a number, with zeros in front up to `width` digits. -/
def paddedNat (width n : Nat) : List Char :=
  padStart '0' width (natText n)

/-- The decimal digits of an integer, behind a minus sign if it is negative. -/
def intText : Int → List Char
  | .ofNat n => natText n
  | .negSucc n => '-' :: natText (n + 1)

theorem splitAll_ne_nil (sep : Char) (s : List Char) : splitAll sep s ≠ [] := by
  cases s with
  | nil => simp [splitAll]
  | cons c rest =>
    unfold splitAll
    split
    · simp
    · split <;> simp

end Text
end Switchboard
