import Switchboard.Pattern.CharSet

/-!
# Patterns

The syntax tree of a pattern, the length of the texts that it matches, and the reasons why a
text is no pattern.
-/

namespace Switchboard

/-- How many calls may be under way inside of what goes into a text, a path or a value. What else is
under way when this begins counts as twenty calls of the thousand that the interpreter allows,
wherever it begins. -/
def callRoom : Nat := 980

namespace Pattern

/-- A place between characters. -/
inductive Anchor
  | textStart
  | textEnd
  | textEndOrFinalBreak
  | lineStart
  | lineEnd
  | wordEdge (ascii : Bool)
  | notWordEdge (ascii : Bool)
  deriving DecidableEq, Repr

/-- Whether a repetition takes as much as it can, as little as it can, or as much as it can
without giving anything back. -/
inductive Appetite
  | greedy
  | lazy
  | possessive
  deriving DecidableEq, Repr

/-- Where a look-around looks: ahead, or behind over texts of the given lengths. -/
inductive Direction
  | ahead
  | behind (shortest longest : Nat)
  deriving DecidableEq, Repr

/-- The syntax tree of a pattern. Groups are numbered from 1. -/
inductive Node
  | empty
  | one (set : CharSet)
  | anyChar (lineBreaks : Bool)
  | anchor (place : Anchor)
  | seq (first second : Node)
  | alt (first second : Node)
  | loop (appetite : Appetite) (least : Nat) (most : Option Nat) (body : Node)
  | group (number : Nat) (body : Node)
  | backref (number : Nat) (fold : Fold)
  | look (direction : Direction) (negative : Bool) (body : Node)
  | atomic (body : Node)
  | cond (number : Nat) (present absent : Node)
  deriving Repr, Inhabited

/-- A pattern with the number of its groups. -/
structure Compiled where
  root : Node
  groups : Nat
  deriving Repr, Inhabited

/-- Why a text is no pattern: it breaks the grammar, a repetition count is out of range or has
too many digits, it asks for ASCII and for all scripts at once, or it is nested too deep. -/
inductive Flaw
  | malformed
  | countTooLarge
  | countTooLong (digits : Nat)
  | conflictingFlags
  | tooDeep
  deriving DecidableEq, Repr

/-! ## Lengths -/

/-- The greatest length that is told apart. -/
def lengthLimit : Nat := Nat.pow 2 64

/-- The least count that no repetition may have. -/
def countLimit : Nat := Nat.pow 2 32 - 1

/-- The shortest and the longest text that a node matches. -/
structure Lengths where
  shortest : Nat
  longest : Nat
  deriving DecidableEq, Repr, Inhabited

namespace Lengths

/-- Both lengths cut off at the limit. -/
def clamp (l : Lengths) : Lengths :=
  ⟨min l.shortest lengthLimit, min l.longest lengthLimit⟩

/-- One text after the other. -/
def both (a b : Lengths) : Lengths :=
  clamp ⟨a.shortest + b.shortest, a.longest + b.longest⟩

/-- One text or the other. -/
def either (a b : Lengths) : Lengths :=
  ⟨min a.shortest b.shortest, max a.longest b.longest⟩

end Lengths

namespace Node

/-- The lengths of the texts that a node matches, given those of the groups. -/
def lengths (group : Nat → Lengths) : Node → Lengths
  | .empty => ⟨0, 0⟩
  | .one _ => ⟨1, 1⟩
  | .anyChar _ => ⟨1, 1⟩
  | .anchor _ => ⟨0, 0⟩
  | .seq a b => .both (a.lengths group) (b.lengths group)
  | .alt a b => .either (a.lengths group) (b.lengths group)
  | .loop _ least most body =>
    let l := body.lengths group
    let longest :=
      match most with
      | some n => l.longest * n
      | none => if l.longest = 0 then 0 else lengthLimit
    Lengths.clamp ⟨l.shortest * least, longest⟩
  | .group _ body => body.lengths group
  | .backref n _ => group n
  | .look _ _ _ => ⟨0, 0⟩
  | .atomic body => body.lengths group
  | .cond _ present absent => .either (present.lengths group) (absent.lengths group)

def isAlt : Node → Bool
  | .alt _ _ => true
  | _ => false

/-- What shows one call further inside, if there is room for the call. -/
def within (room : Nat) (flaw? : Nat → Option Flaw) : Option Flaw :=
  match room with
  | 0 => some .tooDeep
  | room + 1 => flaw? room

/-- The first flaw that shows when a node is compiled with room for so many calls: a repetition in
a template, a look-behind over texts of different lengths or too long ones, or nesting that takes
more calls. All the alternatives of a choice are one call further inside, also if they are many. -/
def flaw? (isTemplate : Bool) (room : Nat) : Node → Option Flaw
  | .seq a b => (a.flaw? isTemplate room).or (b.flaw? isTemplate room)
  | .alt a b => within room fun inner =>
    (a.flaw? isTemplate inner).or (b.flaw? isTemplate (if b.isAlt then room else inner))
  | .loop _ _ _ body =>
    if isTemplate then some .malformed else within room fun inner => body.flaw? isTemplate inner
  | .group _ body => within room fun inner => body.flaw? isTemplate inner
  | .look (.behind shortest longest) _ body =>
    if shortest != longest || Nat.pow 2 32 ≤ shortest then some .malformed
    else within room fun inner => body.flaw? isTemplate inner
  | .look .ahead _ body => within room fun inner => body.flaw? isTemplate inner
  | .atomic body => within room fun inner => body.flaw? isTemplate inner
  | .cond _ present absent => within room fun inner =>
    (present.flaw? isTemplate inner).or (absent.flaw? isTemplate inner)
  | _ => none

end Node
end Pattern
end Switchboard
