import Switchboard.Pattern.Basic

/-!
# Items of patterns

While a pattern is read, its parts are items that still show whether they can be repeated and
whether alternatives made of them are one character set. `itemsNode` is the syntax tree of a
list of items.
-/

namespace Switchboard
namespace Pattern

/-! ## Flags -/

/-- The flags in force at a place of a pattern. -/
structure Flags where
  ignoreCase : Bool := false
  multiline : Bool := false
  dotAll : Bool := false
  verbose : Bool := false
  ascii : Bool := false
  unicode : Bool := false
  template : Bool := false
  deriving DecidableEq, Repr, Inhabited

namespace Flags

def ofLetter? : Char → Option Flags
  | 'i' => some { ignoreCase := true }
  | 'm' => some { multiline := true }
  | 's' => some { dotAll := true }
  | 'x' => some { verbose := true }
  | 'a' => some { ascii := true }
  | 'u' => some { unicode := true }
  | 't' => some { template := true }
  | _ => none

def union (f g : Flags) : Flags :=
  ⟨f.ignoreCase || g.ignoreCase, f.multiline || g.multiline, f.dotAll || g.dotAll,
    f.verbose || g.verbose, f.ascii || g.ascii, f.unicode || g.unicode, f.template || g.template⟩

def without (f g : Flags) : Flags :=
  ⟨f.ignoreCase && !g.ignoreCase, f.multiline && !g.multiline, f.dotAll && !g.dotAll,
    f.verbose && !g.verbose, f.ascii && !g.ascii, f.unicode && !g.unicode,
    f.template && !g.template⟩

/-- Whether the flags name the characters that letters are compared among. -/
def namesScript (f : Flags) : Bool :=
  f.ascii || f.unicode

/-- Whether the flags ask for ASCII and for all scripts. -/
def conflict (f : Flags) : Bool :=
  f.ascii && f.unicode

def disjoint (f g : Flags) : Bool :=
  f.without g == f

/-- The flags inside a group that adds and removes some. -/
def inside (f added removed : Flags) : Flags :=
  let outer := if added.namesScript then { f with ascii := false, unicode := false } else f
  (outer.union added).without removed

/-- How characters are compared under the flags. -/
def fold (f : Flags) : Fold :=
  if !f.ignoreCase then .exact else if f.ascii then .ascii else .unicode

end Flags

/-! ## Items -/

/-- A part of a pattern: a character, a set, a place, a group that only holds items together, a
repetition, or anything else. -/
inductive Item
  | literal (fold : Fold) (code : Nat)
  | set (set : CharSet)
  | place (anchor : Anchor)
  | plain (items : List Item)
  | repetition (node : Node)
  | other (node : Node)
  deriving Repr, Inhabited

def sequence : List Node → Node
  | [] => .empty
  | [node] => node
  | node :: nodes => .seq node (sequence nodes)

/-- The first node that matches. -/
def choice : List Node → Node
  | [] => .empty
  | [node] => node
  | node :: nodes => .alt node (choice nodes)

mutual

def Item.node : Item → Node
  | .literal fold code => .one (.single fold code)
  | .set set => .one set
  | .place anchor => .anchor anchor
  | .plain items => sequence (itemNodes items)
  | .repetition node => node
  | .other node => node

def itemNodes : List Item → List Node
  | [] => []
  | item :: items => item.node :: itemNodes items

end

def itemsNode (items : List Item) : Node :=
  sequence (itemNodes items)

/-- The items with those of plain groups in the place of the groups. -/
def flatten (items : List Item) : List Item :=
  items.flatMap fun item =>
    match item with
    | .plain inner => inner
    | item => [item]

/-- The members of an alternative that is one set, and how it compares characters. -/
def setAlternative? : List Item → Option (Fold × List Member)
  | [.literal fold code] => some (fold, [.code code])
  | [.set set] => if set.negated then none else some (set.fold, set.members)
  | _ => none

/-- The set of alternatives that are one set each. -/
def mergedSet? (alternatives : List (List Item)) : Option CharSet := do
  let sets ← alternatives.mapM setAlternative?
  let (fold, _) ← sets.head?
  some ⟨false, fold, sets.flatMap (·.2)⟩

/-- The items of alternatives: those of the only one, one set, or a choice. -/
def alternativeItems : List (List Item) → List Item
  | [items] => items
  | alternatives =>
    match mergedSet? alternatives with
    | some set => [.set set]
    | none => [.other (choice (alternatives.map itemsNode))]

/-- The items of a character class; a class of one character is that character. -/
def classItem (negated : Bool) (fold : Fold) (members : List Member) : Item :=
  match members.eraseDups, negated with
  | [.code n], false => .literal fold n
  | [.code n], true => .set { CharSet.single fold n with negated := true }
  | members, _ => .set ⟨negated, fold, members⟩

/-- The body of a repetition of an item; places and repetitions cannot be repeated. -/
def Item.repeatable? : Item → Option Node
  | .place _ => none
  | .repetition _ => none
  | item => some item.node

end Pattern
end Switchboard
