import Switchboard.Pattern.Basic

/-!
# Searching

Matching by trial in a fixed order: the first alternative first, a greedy repetition as often as
it can. What is to follow is passed along, so that a choice is taken back when the rest does not
match. The answer is the first match in that order at the first position that has one.

A repetition whose round matched nothing is not tried again at that place; this is what bounds
the search.
-/

namespace Switchboard
namespace Pattern

/-- Where groups start and end: the start of group `n` at place `2 * n`, its end behind it. -/
abbrev Marks := Array (Option Nat)

/-- A position in the text with the groups so far. -/
structure Reached where
  position : Nat
  marks : Marks
  deriving Repr, Inhabited

/-- What is to follow: whether and where it ends, from a position on. -/
abbrev Rest := Nat → Marks → Option Reached

/-- A matcher: tries to match from a position on and hands on to what is to follow. -/
abbrev Matcher := Nat → Marks → Rest → Option Reached

def Marks.group? (marks : Marks) (number : Nat) : Option (Nat × Nat) :=
  match marks[2 * number]?.getD none, marks[2 * number + 1]?.getD none with
  | some start, some stop => if start ≤ stop then some (start, stop) else none
  | _, _ => none

/-! ## Single characters and places -/

/-- Whether the character at a position is in the set. -/
def holdsAt (text : Array Char) (test : Char → Bool) (position : Nat) : Bool :=
  match text[position]? with
  | some c => test c
  | none => false

def wordAt (ascii : Bool) (text : Array Char) (position : Nat) : Bool :=
  holdsAt text (Category.word.holds ascii) position

def atWordEdge (ascii : Bool) (text : Array Char) (position : Nat) : Bool :=
  (position != 0 && wordAt ascii text (position - 1)) != wordAt ascii text position

/-- Whether a place is at a position. In an empty text no position is at or off a word edge. -/
def Anchor.holds (text : Array Char) (position : Nat) : Anchor → Bool
  | .textStart => position == 0
  | .textEnd => position == text.size
  | .textEndOrFinalBreak =>
    position == text.size || (position + 1 == text.size && holdsAt text (· == '\n') position)
  | .lineStart => position == 0 || holdsAt text (· == '\n') (position - 1)
  | .lineEnd => position == text.size || holdsAt text (· == '\n') position
  | .wordEdge ascii => text.size != 0 && atWordEdge ascii text position
  | .notWordEdge ascii => text.size != 0 && !atWordEdge ascii text position

def sameText (fold : Fold) (text : Array Char) (position : Nat) : Nat → Nat → Bool
  | _, 0 => true
  | start, count + 1 =>
    match text[start]?, text[position]? with
    | some a, some b =>
      fold.apply a.toNat == fold.apply b.toNat && sameText fold text (position + 1) (start + 1) count
    | _, _ => false

/-! ## Repetition -/

/-- How many characters from a position on pass the test, `most` at the most. -/
def countWhile (text : Array Char) (test : Char → Bool) (position : Nat) : Nat → Nat
  | 0 => 0
  | most + 1 =>
    if holdsAt text test position then countWhile text test (position + 1) most + 1 else 0

/-- Goes on behind `least + extra`, …, `least` characters, in this order. -/
def tryLonger (least position : Nat) (marks : Marks) (rest : Rest) : Nat → Option Reached
  | 0 => rest (position + least) marks
  | extra + 1 =>
    match rest (position + least + (extra + 1)) marks with
    | some found => some found
    | none => tryLonger least position marks rest extra

/-- Goes on behind `done`, …, `done + extra` characters, in this order. -/
def tryShorter (position : Nat) (marks : Marks) (rest : Rest) : Nat → Nat → Option Reached
  | done, 0 => rest (position + done) marks
  | done, extra + 1 =>
    match rest (position + done) marks with
    | some found => some found
    | none => tryShorter position marks rest (done + 1) extra

def repeatOne (text : Array Char) (test : Char → Bool) (appetite : Appetite) (least : Nat)
    (most : Option Nat) : Matcher := fun position marks rest =>
  let room := text.size - position
  let count := countWhile text test position (min room (most.getD room))
  if count < least then none
  else
    match appetite with
    | .greedy => tryLonger least position marks rest (count - least)
    | .lazy => tryShorter position marks rest least (count - least)
    | .possessive => rest (position + count) marks

/-- Whether one more round is allowed behind `rounds` rounds. -/
def mayRepeat (most : Option Nat) (rounds : Nat) : Bool :=
  match most with
  | none => true
  | some n => rounds < n

/-- As many rounds as possible, then the rest. -/
def greedyRounds (size : Nat) (body : Matcher) (most : Option Nat) (rest : Rest)
    (rounds position : Nat) (marks : Marks) : Option Reached :=
  if mayRepeat most rounds then
    match body position marks fun next marks =>
        -- a round that took no text is the last one
        if _h : position < next ∧ next ≤ size then
          greedyRounds size body most rest (rounds + 1) next marks
        else rest next marks with
    | some found => some found
    | none => rest position marks
  else rest position marks
termination_by size - position

/-- As few rounds as possible, then the rest. -/
def lazyRounds (size : Nat) (body : Matcher) (most : Option Nat) (rest : Rest)
    (rounds position : Nat) (marks : Marks) : Option Reached :=
  match rest position marks with
  | some found => some found
  | none =>
    if mayRepeat most rounds then
      body position marks fun next marks =>
        if _h : position < next ∧ next ≤ size then
          lazyRounds size body most rest (rounds + 1) next marks
        else rest next marks
    else none
termination_by size - position

/-- As many rounds as possible, none of them taken back, then the rest. -/
def possessiveRounds (size : Nat) (body : Matcher) (most : Option Nat) (rest : Rest)
    (rounds position : Nat) (marks : Marks) : Option Reached :=
  if mayRepeat most rounds then
    match body position marks fun next marks => some ⟨next, marks⟩ with
    | some found =>
      if _h : position < found.position ∧ found.position ≤ size then
        possessiveRounds size body most rest (rounds + 1) found.position found.marks
      else rest found.position found.marks
    | none => rest position marks
  else rest position marks
termination_by size - position

/-- `count` rounds, then the rest. -/
def requiredRounds (body : Matcher) (rest : Rest) : Nat → Rest
  | 0, position, marks => rest position marks
  | count + 1, position, marks => body position marks (requiredRounds body rest count)

/-- `count` rounds, none of them taken back, then the rest. -/
def requiredRoundsKept (body : Matcher) (rest : Rest) : Nat → Rest
  | 0, position, marks => rest position marks
  | count + 1, position, marks =>
    match body position marks fun next marks => some ⟨next, marks⟩ with
    | some found => requiredRoundsKept body rest count found.position found.marks
    | none => none

def repeatBody (size : Nat) (body : Matcher) (appetite : Appetite) (least : Nat)
    (most : Option Nat) : Matcher := fun position marks rest =>
  match appetite with
  | .greedy => requiredRounds body (greedyRounds size body most rest least) least position marks
  | .lazy => requiredRounds body (lazyRounds size body most rest least) least position marks
  | .possessive =>
    requiredRoundsKept body (possessiveRounds size body most rest least) least position marks

/-! ## Matching -/

/-- The match of a node from a position on, followed by the rest. -/
def Node.run (text : Array Char) : Node → Matcher
  | .empty => fun position marks rest => rest position marks
  | .one set => fun position marks rest =>
    if holdsAt text set.holds position then rest (position + 1) marks else none
  | .anyChar lineBreaks => fun position marks rest =>
    if holdsAt text (fun c => lineBreaks || c != '\n') position then rest (position + 1) marks
    else none
  | .anchor place => fun position marks rest =>
    if place.holds text position then rest position marks else none
  | .seq a b => fun position marks rest =>
    a.run text position marks fun next marks => b.run text next marks rest
  | .alt a b => fun position marks rest =>
    match a.run text position marks rest with
    | some found => some found
    | none => b.run text position marks rest
  | .loop appetite least most (.one set) => repeatOne text set.holds appetite least most
  | .loop appetite least most (.anyChar lineBreaks) =>
    repeatOne text (fun c => lineBreaks || c != '\n') appetite least most
  | .loop appetite least most body => repeatBody text.size (body.run text) appetite least most
  | .group number body => fun position marks rest =>
    body.run text position (marks.setIfInBounds (2 * number) (some position)) fun next marks =>
      rest next (marks.setIfInBounds (2 * number + 1) (some next))
  | .backref number fold => fun position marks rest =>
    match marks.group? number with
    | none => none
    | some (start, stop) =>
      if sameText fold text position start (stop - start) then
        rest (position + (stop - start)) marks
      else none
  | .look direction negative body => fun position marks rest =>
    let back := match direction with
      | .ahead => 0
      | .behind length _ => length
    let found? :=
      if position < back then none
      else body.run text (position - back) marks fun next marks => some ⟨next, marks⟩
    -- groups that matched inside are kept, but the position is not
    match found?, negative with
    | some found, false => rest position found.marks
    | none, true => rest position marks
    | _, _ => none
  | .atomic body => fun position marks rest =>
    match body.run text position marks fun next marks => some ⟨next, marks⟩ with
    | some found => rest found.position found.marks
    | none => none
  | .cond number present absent => fun position marks rest =>
    match marks.group? number with
    | some _ => present.run text position marks rest
    | none => absent.run text position marks rest

/-- What a search found: the whole match and the groups, each with its text if it took part. -/
structure Match where
  groups : Array (Option (List Char))
  deriving Repr, Inhabited

def slice (text : Array Char) (start stop : Nat) : List Char :=
  (text.extract start stop).toList

/-- The first match from a position on, `tries` positions being left. -/
def searchFrom (pattern : Compiled) (text : Array Char) (position : Nat) : Nat → Option Match
  | 0 => none
  | tries + 1 =>
    let marks : Marks := Array.replicate (2 * (pattern.groups + 1)) none
    match pattern.root.run text position marks fun next marks => some ⟨next, marks⟩ with
    | some found =>
      let whole := some (slice text position found.position)
      let group (i : Nat) : Option (List Char) :=
        (found.marks.group? (i + 1)).map fun (start, stop) => slice text start stop
      some ⟨((List.range pattern.groups).map group |>.cons whole).toArray⟩
    | none => searchFrom pattern text (position + 1) tries

/-- The first match of a pattern in a text. -/
def Compiled.search (pattern : Compiled) (text : List Char) : Option Match :=
  let text := text.toArray
  searchFrom pattern text 0 (text.size + 1)

end Pattern
end Switchboard
