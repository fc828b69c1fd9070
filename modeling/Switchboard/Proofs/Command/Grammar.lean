import Switchboard.Pattern.Read
import Switchboard.Proofs.Command.Losslessness
import Switchboard.Proofs.Pattern.Matching

/-!
# The grammar of command lines as a pattern

Command lines have a grammar that can be written as one pattern (`Expression.source`), a chain of
optional parts. Each section below says what the search for it does from one of the parts on, the
last part first: which marks it ends with (`run_fromAction`, `run_fromOpening_of_opened`), or that
it fails (`rejects_fromAction`).

Text behind the arguments that does not fit starts with a semicolon, and no part in front of the
parameters can read one: this settles what is taken back before them (`Node.rejects_of_avoids`).
-/

namespace Switchboard

open Text Pattern Command

namespace Expression

/-! ## The pattern -/

/-- The pattern of command lines. Its groups are action, arguments, parameters and target:

    (?s)^\s*=?(?P<action>(?:if|echo|return|enqueue|call|jump)(?=\s|;))?\s?(?P<args>[^;=]+)?
      (?P<params>(?:;[^;=]+=?[^;=]*)+)?(?P<target>=.*)?$
-/
def source : List Char :=
  ['(', '?', 's', ')', '^', '\\', 's', '*', '=', '?'] ++
    ['(', '?', 'P', '<', 'a', 'c', 't', 'i', 'o', 'n', '>', '(', '?', ':'] ++
    ['i', 'f', '|', 'e', 'c', 'h', 'o', '|', 'r', 'e', 't', 'u', 'r', 'n', '|'] ++
    ['e', 'n', 'q', 'u', 'e', 'u', 'e', '|', 'c', 'a', 'l', 'l', '|', 'j', 'u', 'm', 'p'] ++
    [')', '(', '?', '=', '\\', 's', '|', ';', ')', ')', '?'] ++
    ['\\', 's', '?'] ++
    ['(', '?', 'P', '<', 'a', 'r', 'g', 's', '>', '[', '^', ';', '=', ']', '+', ')', '?'] ++
    ['(', '?', 'P', '<', 'p', 'a', 'r', 'a', 'm', 's', '>', '(', '?', ':'] ++
    [';', '[', '^', ';', '=', ']', '+', '=', '?', '[', '^', ';', '=', ']', '*', ')', '+', ')', '?'] ++
    ['(', '?', 'P', '<', 't', 'a', 'r', 'g', 'e', 't', '>', '=', '.', '*', ')', '?', '$']

def charSet (c : Char) : CharSet :=
  ⟨false, .exact, [.code c.toNat]⟩

def blankSet : CharSet :=
  ⟨false, .exact, [.category false false .blank]⟩

def plainSet : CharSet :=
  ⟨true, .exact, [.code ';'.toNat, .code '='.toNat]⟩

def endSet : CharSet :=
  ⟨false, .exact, [.category false false .blank, .code ';'.toNat]⟩

/-- The characters of a word, one behind the other. -/
def word : List Char → Node
  | [] => .empty
  | [c] => .one (charSet c)
  | c :: rest => .seq (.one (charSet c)) (word rest)

/-- One of the keywords. -/
def anyOf : List Action → Node
  | [] => .empty
  | [action] => word action.keyword
  | action :: rest => .alt (word action.keyword) (anyOf rest)

def actionNode : Node :=
  .group 1 (.seq (anyOf Action.readable) (.look .ahead false (.one endSet)))

def argsNode : Node :=
  .group 2 (.many 1 plainSet)

def groupNode : Node :=
  .seq (.one (charSet ';'))
    (.seq (.many 1 plainSet) (.seq (.optional (.one (charSet '='))) (.many 0 plainSet)))

def paramsNode : Node :=
  .group 3 (.loop .greedy 1 none groupNode)

def targetNode : Node :=
  .group 4 (.seq (.one (charSet '=')) (.loop .greedy 0 none (.anyChar true)))

def fromTarget : Node :=
  .seq (.optional targetNode) (.anchor .textEndOrFinalBreak)

def fromParams : Node :=
  .seq (.optional paramsNode) fromTarget

def fromArgs : Node :=
  .seq (.optional argsNode) fromParams

def fromBlank : Node :=
  .seq (.optional (.one blankSet)) fromArgs

def fromAction : Node :=
  .seq (.optional actionNode) fromBlank

def fromOpening : Node :=
  .seq (.optional (.one (charSet '='))) fromAction

def compiled : Compiled :=
  ⟨.seq (.anchor .textStart) (.seq (.many 0 blankSet) fromOpening), 4⟩

deriving instance DecidableEq for Node, Compiled

theorem ofText_source : Compiled.ofText source = .ok compiled := by
  have h : (Compiled.ofText source).toOption = some compiled := by decide +kernel
  cases hread : Compiled.ofText source with
  | error flaw => simp [hread, Except.toOption] at h
  | ok read => simpa [hread, Except.toOption] using h

/-! ## Sets of characters -/

theorem toNat_beq (c d : Char) : (c.toNat == d.toNat) = (c == d) := by
  rw [Bool.eq_iff_iff, beq_iff_eq, beq_iff_eq, Char.toNat_inj]

@[simp] theorem charSet_holds (c : Char) : (charSet c).holds = (· == c) := by
  funext d
  simp [CharSet.holds, charSet, Member.holds, Fold.apply, toNat_beq]

@[simp] theorem blankSet_holds : blankSet.holds = isBlank := by
  funext c
  simp [CharSet.holds, blankSet, Member.holds, Fold.apply, Category.holds]

@[simp] theorem plainSet_holds : plainSet.holds = isPlainChar := by
  funext c
  simp [-Char.reduceToNat, CharSet.holds, plainSet, Member.holds, Fold.apply, toNat_beq,
    isPlainChar, bne]

@[simp] theorem endSet_holds : endSet.holds = fun c => isBlank c || c == ';' := by
  funext c
  simp [-Char.reduceToNat, CharSet.holds, endSet, Member.holds, Fold.apply, Category.holds,
    toNat_beq]

section Search

variable {text : Array Char} {p : Nat} {s rest : List Char} {marks : Marks} {k : Rest}

theorem run_char_cons {c : Char} (hat : At text p (c :: s)) :
    (Node.one (charSet c)).run text p marks k = k (p + 1) marks := by
  simp [Node.run_one, hat.holdsAt]

theorem run_char_of_ne {c : Char} (hat : At text p s) (hc : s.head? ≠ some c) :
    (Node.one (charSet c)).run text p marks k = none := by
  rw [Node.run_one, hat.holdsAt]
  cases s with
  | nil => rfl
  | cons d rest =>
    have hne : d ≠ c := by simpa using hc
    simp [hne]

/-- Plain characters are taken up to a separator. -/
theorem run_plain_of_some {least : Nat} {found : Reached} (hat : At text p (s ++ rest))
    (hs : PlainText s) (hrest : AtSeparator rest) (hleast : least ≤ s.length)
    (hk : k (p + s.length) marks = some found) :
    (Node.many least plainSet).run text p marks k = some found := by
  refine Node.run_many_of_some hat ?_ ?_ hleast hk
  · simpa [PlainText, List.all_eq_true] using hs
  · rcases hrest.cases with rfl | ⟨more, rfl⟩ | ⟨more, rfl⟩ <;> simp [isPlainChar]

theorem run_plain_none (hat : At text p s) (hs : AtSeparator s) :
    (Node.many 1 plainSet).run text p marks k = none := by
  refine Node.run_many_of_lt hat ?_
  rcases hs.cases with rfl | ⟨more, rfl⟩ | ⟨more, rfl⟩ <;> simp [isPlainChar]

theorem run_plain_zero (hat : At text p s) (hs : AtSeparator s) :
    (Node.many 0 plainSet).run text p marks k = k p marks := by
  refine Node.run_many_zero hat ?_
  rcases hs.cases with rfl | ⟨more, rfl⟩ | ⟨more, rfl⟩ <;> simp [isPlainChar]

/-! ## From the target on -/

/-- The end of the search. -/
def done : Rest := fun position marks =>
  some ⟨position, marks⟩

/-- What is left of a text is a target or nothing: the search ends there. -/
theorem run_fromTarget (target : Option (List Char))
    (hat : At text p (Group.targetText target)) :
    fromTarget.run text p marks done =
      some ⟨text.size, marks.recordIf 4 p (Group.targetText target)⟩ := by
  have hsize := hat.add_length
  simp only [fromTarget, targetNode, Node.run_seq, Node.run_optional, Node.run_group]
  cases target with
  | none =>
    have hend : p = text.size := hsize
    rw [run_char_of_ne hat (by simp [Group.targetText]), Option.none_or]
    simp [Node.run_anchor, Anchor.holds, hend, done, Marks.recordIf, Group.targetText]
  | some s =>
    have hend : p + 1 + s.length = text.size := hat.cons.add_length
    have htake : s.takeWhile (fun c => true || c != '\n') = s := by simp
    -- every character passes, so the first try comes to the end of the text
    rw [run_char_cons hat]
    simp only [Node.run_loop_anyChar, repeatOne_greedy hat.cons, htake, Nat.not_lt_zero, if_false]
    rw [tryLonger_of_some ⟨text.size, marks.record 4 p text.size⟩, Option.some_or]
    · simp [Marks.recordIf, Group.targetText, ← hend, Nat.add_assoc, Nat.add_comm 1]
    · simp [Node.run_anchor, hend, Anchor.holds, done, Marks.record]

theorem rejects_fromTarget :
    Rejects text isPlainChar (';' :: s) fun p marks => fromTarget.run text p marks done := by
  intro t p marks ht hat
  have hsize : p + (t.length + (s.length + 1)) = text.size := by
    simpa using hat.add_length
  simp only [fromTarget, targetNode, Node.run_seq, Node.run_optional, Node.run_group]
  have hequals : (t ++ ';' :: s).head? ≠ some '=' := by
    cases t with
    | nil => simp
    | cons c t =>
      rintro h
      cases h
      simp [isPlainChar] at ht
  -- the place is not the end, and a single character left is the semicolon and no line break
  have hanchor : Anchor.textEndOrFinalBreak.holds text p = false := by
    have hne : p ≠ text.size := by omega
    by_cases hlast : p + 1 = text.size
    · have ht : t = [] := List.length_eq_zero_iff.1 (by omega)
      simp [Anchor.holds, hat.holdsAt, hne, ht]
    · simp [Anchor.holds, hne, hlast]
  rw [run_char_of_ne hat hequals, Option.none_or]
  simp [Node.run_anchor, hanchor]

/-! ## From the parameters on -/

/-- What follows the last group: the group of the parameters is closed, and the target comes. -/
def afterGroups (text : Array Char) : Rest := fun position marks =>
  fromTarget.run text position (marks.setIfInBounds (2 * 3 + 1) (some position)) done

/-- More groups, as many as possible, then the target. -/
def moreGroups (text : Array Char) : Nat → Rest :=
  greedyRounds text.size (groupNode.run text) none (afterGroups text)

/-- Where the search ends behind groups; the target is what is left of the text. -/
def closing (text : Array Char) (marks : Marks) :
    Option (List Group × Option (List Char)) → Option Reached
  | none => none
  | some (_, target) =>
    let start := text.size - (Group.targetText target).length
    some ⟨text.size, Marks.recordIf 4 start (Group.targetText target)
      (marks.setIfInBounds (2 * 3 + 1) (some start))⟩

theorem run_group_of_none (hat : At text p s) (hnone : Group.readOne? s = none) :
    groupNode.run text p marks k = none := by
  simp only [groupNode, Node.run_seq]
  cases s with
  | nil => exact run_char_of_ne hat (by simp)
  | cons c s =>
    by_cases hc : c = ';'
    · subst hc
      rw [run_char_cons hat]
      exact run_plain_none hat.cons ((Group.readOne?_eq_none_iff s).1 hnone)
    · exact run_char_of_ne hat (by simpa using hc)

theorem readOne?_of_ne {c : Char} (hc : c ≠ ';') : Group.readOne? (c :: s) = none := by
  unfold Group.readOne?
  split
  case h_1 heq => exact absurd (List.cons.inj heq).1 hc
  case h_2 => rfl

/-- No group starts with a plain character. -/
theorem readOne?_of_plain {c : Char} {t : List Char} (ht : (c :: t).all isPlainChar = true) :
    Group.readOne? (c :: (t ++ s)) = none := by
  refine readOne?_of_ne ?_
  rintro rfl
  simp [isPlainChar] at ht

/-- What follows a group does what `Group.settleText?` says of the text that is left, or of a target
that the group gives up its value to. -/
structure Settles (text : Array Char) (p : Nat) (rest : List Char) (k : Rest) : Prop where
  left : ∀ q marks, p < q → At text q rest →
    k q marks = closing text marks (Group.settleText? rest)
  target : ∀ q marks target, p < q → At text q ('=' :: target) →
    k q marks = closing text marks (some ([], some target))
  rejects : Group.settleText? rest = none → Rejects text isPlainChar rest k

theorem run_group_without_value {key : List Char}
    (hat : At text p (';' :: (key ++ rest))) (hkey : 1 ≤ key.length) (hplain : PlainText key)
    (hrest : AtSeparator rest) (hequals : ∀ target, rest ≠ '=' :: target)
    (hk : Settles text p rest k) :
    groupNode.run text p marks k = closing text marks (Group.settleText? rest) := by
  have hbehind : At text (p + 1 + key.length) rest := hat.cons.append
  simp only [groupNode, Node.run_seq, Node.run_optional]
  rw [run_char_cons hat]
  cases hsettle : Group.settleText? rest with
  | some settled =>
    have hne : rest.head? ≠ some '=' := by
      rcases hrest.cases with rfl | ⟨more, rfl⟩ | ⟨more, rfl⟩
      · simp
      · simp
      · exact absurd rfl (hequals more)
    refine run_plain_of_some hat.cons hplain hrest hkey ?_
    rw [run_char_of_ne hbehind hne, Option.none_or, run_plain_zero hbehind hrest,
      hk.left _ _ (by omega) hbehind, hsettle]
    rfl
  | none =>
    -- no part of a group can read the semicolon behind the key
    rcases hrest.cases with rfl | ⟨more, rfl⟩ | ⟨more, rfl⟩
    · simp at hsettle
    · have hgroup : (Node.seq (.many 1 plainSet) (.seq (.optional (.one (charSet '=')))
          (.many 0 plainSet))).run text (p + 1) marks k = none :=
        Node.rejects_of_avoids rfl (hk.rejects hsettle) key (p + 1) marks
          (List.all_eq_true.2 hplain) hat.cons
      simpa only [Node.run_seq, Node.run_optional, closing] using hgroup
    · simp at hsettle

theorem run_group_with_value {key value : List Char}
    (hat : At text p (';' :: (key ++ '=' :: (value ++ rest)))) (hkey : 1 ≤ key.length)
    (hplain : PlainText key) (hvalue : PlainText value) (hrest : AtSeparator rest)
    (hk : Settles text p rest k) :
    groupNode.run text p marks k =
      closing text marks ((Group.settleText? rest).or (some ([], some (value ++ rest)))) := by
  have hbehind : At text (p + 1 + key.length) ('=' :: (value ++ rest)) := hat.cons.append
  simp only [groupNode, Node.run_seq, Node.run_optional]
  rw [run_char_cons hat]
  cases hsettle : Group.settleText? rest with
  | some settled =>
    have hend := hk.left _ marks (by omega) hbehind.cons.append
    rw [hsettle] at hend
    refine run_plain_of_some hat.cons hplain (atSeparator_equals _) hkey ?_
    rw [run_char_cons hbehind,
      run_plain_of_some hbehind.cons hvalue hrest (Nat.zero_le _) hend, Option.some_or]
  | none =>
    -- the value is given up, and the target starts at its equals sign
    refine run_plain_of_some hat.cons hplain (atSeparator_equals _) hkey ?_
    rcases hrest.cases with rfl | ⟨more, rfl⟩ | ⟨more, rfl⟩
    · simp at hsettle
    · have hkept : (Node.many 0 plainSet).run text (p + 1 + key.length + 1) marks k = none :=
        Node.rejects_of_avoids rfl (hk.rejects hsettle) value _ marks
          (List.all_eq_true.2 hvalue) hbehind.cons
      rw [run_char_cons hbehind, hkept, Option.none_or,
        run_plain_zero hbehind (atSeparator_equals _), hk.target _ _ _ (by omega) hbehind]
      rfl
    · simp at hsettle

/-- What one more group does is what `Group.settleText?` says, if this holds for what follows. -/
theorem run_group_of_some {g : Group} (hat : At text p s)
    (hsome : Group.readOne? s = some (g, rest)) (hk : Settles text p rest k) :
    groupNode.run text p marks k = closing text marks (Group.settleText? s) := by
  rcases Group.readOne?_eq_some hsome with ⟨hproper, rfl, hrest, hequals⟩
  have hkey : 1 ≤ g.key.length := List.length_pos_iff.2 hproper.key_ne_nil
  rw [Group.settleText?_of_some hsome]
  cases hvalue : g.value with
  | none =>
    have htext : g.text ++ rest = ';' :: (g.key ++ rest) := by simp [Group.text, hvalue]
    rw [htext] at hat
    rw [run_group_without_value hat hkey hproper.key_plain hrest (hequals hvalue) hk]
    cases Group.settleText? rest <;> rfl
  | some value =>
    have htext : g.text ++ rest = ';' :: (g.key ++ '=' :: (value ++ rest)) := by
      simp [Group.text, hvalue]
    rw [htext] at hat
    rw [run_group_with_value hat hkey hproper.key_plain (hproper.value_plain value hvalue) hrest hk]
    cases Group.settleText? rest <;> rfl

theorem moreGroups_of_none (hat : At text p s) (hnone : Group.readOne? s = none) (rounds : Nat) :
    moreGroups text rounds p marks = afterGroups text p marks := by
  rw [moreGroups, greedyRounds_eq, run_group_of_none hat hnone]
  simp [mayRepeat]

theorem afterGroups_eq (target : Option (List Char))
    (hat : At text p (Group.targetText target)) :
    afterGroups text p marks = closing text marks (some ([], target)) := by
  have hstart : p = text.size - (Group.targetText target).length := by
    have := hat.add_length
    omega
  rw [afterGroups, run_fromTarget target hat]
  simp only [closing, ← hstart]

theorem rejects_afterGroups : Rejects text isPlainChar (';' :: s) (afterGroups text) :=
  fun t p _ ht hat => rejects_fromTarget t p _ ht hat

theorem semicolon_of_settleText?_none (hs : AtSeparator s) (h : Group.settleText? s = none) :
    ∃ more, s = ';' :: more := by
  rcases hs.cases with rfl | ⟨more, rfl⟩ | ⟨more, rfl⟩
  · simp at h
  · exact ⟨more, rfl⟩
  · simp at h

theorem settles_moreGroups {rounds : Nat} (hrest : AtSeparator rest)
    (hleft : ∀ q marks, At text q rest →
      moreGroups text rounds q marks = closing text marks (Group.settleText? rest)) :
    Settles text p rest (moreGroups text rounds) where
  left := fun q marks _ hat => hleft q marks hat
  target := by
    intro q marks target _ hat
    rw [moreGroups_of_none hat (readOne?_of_ne (by decide)), afterGroups_eq (some _) hat]
  rejects := by
    intro hnone t q marks ht hat
    rcases semicolon_of_settleText?_none hrest hnone with ⟨more, rfl⟩
    cases t with
    | nil => rw [hleft q marks hat, hnone, closing]
    | cons c t =>
      rw [moreGroups_of_none hat (readOne?_of_plain ht)]
      exact rejects_afterGroups (c :: t) q marks ht hat

/-- A round that has taken text may be followed by another one. -/
theorem Settles.guard (hrest : AtSeparator rest) (hk : Settles text p rest k) :
    Settles text p rest fun next marks =>
      if p < next ∧ next ≤ text.size then k next marks else afterGroups text next marks where
  left := by
    intro q marks hlt hat
    have hle : q ≤ text.size := Nat.le.intro hat.add_length
    rw [if_pos ⟨hlt, hle⟩, hk.left q marks hlt hat]
  target := by
    intro q marks target hlt hat
    have hle : q ≤ text.size := Nat.le.intro hat.add_length
    rw [if_pos ⟨hlt, hle⟩, hk.target q marks target hlt hat]
  rejects := by
    intro hnone t q marks ht hat
    rcases semicolon_of_settleText?_none hrest hnone with ⟨more, rfl⟩
    simp only
    split
    case isTrue => exact hk.rejects hnone t q marks ht hat
    case isFalse => exact rejects_afterGroups t q marks ht hat

/-- As many groups as possible are read, but a value is given up if else no match comes about. -/
theorem moreGroups_eq (hat : At text p s) (hs : AtSeparator s) (rounds : Nat) :
    moreGroups text rounds p marks = closing text marks (Group.settleText? s) := by
  induction s using Group.readAll.induct generalizing p marks rounds with
  | case1 s hnone =>
    rw [moreGroups_of_none hat hnone]
    rcases hs.cases with rfl | ⟨more, rfl⟩ | ⟨more, rfl⟩
    · rw [afterGroups_eq none hat, Group.settleText?_nil]
    · rw [Group.settleText?_of_none hnone]
      exact rejects_afterGroups [] p marks rfl hat
    · rw [afterGroups_eq (some _) hat, Group.settleText?_equals]
  | case2 s g rest hsome groups left hleft ih =>
    have hrest : AtSeparator rest := (Group.readOne?_eq_some hsome).2.2.1
    -- the groups behind the first one do what is said of the rest, and the round has taken text
    have hk := (settles_moreGroups (p := p) hrest
      fun q marks hat => ih hat hrest (rounds + 1)).guard hrest
    rw [moreGroups, greedyRounds_eq]
    simp only [mayRepeat, if_true]
    have hround : groupNode.run text p marks _ = _ := run_group_of_some hat hsome hk
    rw [moreGroups] at hround
    rw [hround]
    cases hsettle : Group.settleText? s with
    | some settled => rfl
    | none =>
      rcases semicolon_of_settleText?_none hs hsettle with ⟨more, rfl⟩
      exact rejects_afterGroups [] p marks rfl hat

/-- The marks with the kept groups from a position on and the target behind them. -/
def markSettled (p : Nat) (kept : List Group) (target : Option (List Char))
    (marks : Marks) : Marks :=
  (marks.recordIf 3 p (Group.textOf kept)).recordIf 4 (p + (Group.textOf kept).length)
    (Group.targetText target)

theorem run_paramsNode :
    (paramsNode.run text p marks fun next marks => fromTarget.run text next marks done) =
      groupNode.run text p (marks.setIfInBounds (2 * 3) (some p)) (moreGroups text 1) := by
  rfl

theorem run_firstGroup {g : Group} (hat : At text p s)
    (hsome : Group.readOne? s = some (g, rest)) :
    groupNode.run text p marks (moreGroups text 1) =
      closing text marks (Group.settleText? s) := by
  have hrest : AtSeparator rest := (Group.readOne?_eq_some hsome).2.2.1
  exact run_group_of_some hat hsome
    (settles_moreGroups hrest fun q marks hat => moreGroups_eq hat hrest 1)

/-- From the parameters on the groups and the target are found that `Group.settleText?` gives. -/
theorem run_fromParams {kept : List Group} {target : Option (List Char)} (hat : At text p s)
    (hs : AtSeparator s) (hsettle : Group.settleText? s = some (kept, target)) :
    fromParams.run text p marks done =
      some ⟨text.size, markSettled p kept target marks⟩ := by
  rw [fromParams, Node.run_seq, Node.run_optional, run_paramsNode]
  cases hone : Group.readOne? s with
  | none =>
    rw [run_group_of_none hat hone, Option.none_or]
    rcases hs.cases with rfl | ⟨more, rfl⟩ | ⟨more, rfl⟩
    · cases (Group.settleText?_nil).symm.trans hsettle
      exact run_fromTarget none hat
    · cases (Group.settleText?_of_none hone).symm.trans hsettle
    · cases (Group.settleText?_equals more).symm.trans hsettle
      exact run_fromTarget (some _) hat
  | some first =>
    rcases first with ⟨g, rest⟩
    have htext := (Group.settleText?_spec hs hsettle).2
    -- the text starts with a group, so at least one is kept and the group of groups is recorded
    have hnonempty : (Group.textOf kept).isEmpty = false := by
      have hsemicolon : s = ';' :: s.tail := by
        rw [(Group.readOne?_eq_some hone).2.1]
        rfl
      rw [hsemicolon] at htext
      cases hkept : Group.textOf kept with
      | nil => cases target <;> simp [hkept, Group.targetText] at htext
      | cons => rfl
    have hstart : text.size - (Group.targetText target).length =
        p + (Group.textOf kept).length := by
      have hsize := hat.add_length
      rw [← htext, List.length_append] at hsize
      omega
    rw [run_firstGroup hat hone, hsettle]
    simp only [closing, hstart, Option.some_or, markSettled, Marks.recordIf, Marks.record,
      hnonempty, Bool.false_eq_true, if_false]

theorem rejects_fromParams (hsettle : Group.settleText? (';' :: s) = none) :
    Rejects text isPlainChar (';' :: s) fun p marks => fromParams.run text p marks done := by
  intro t p marks ht hat
  simp only [fromParams, Node.run_seq, Node.run_optional, run_paramsNode,
    rejects_fromTarget t p marks ht hat, Option.or_none]
  cases hone : Group.readOne? (t ++ ';' :: s) with
  | none => exact run_group_of_none hat hone
  | some first =>
    rcases first with ⟨g, rest⟩
    have ht : t = [] := by
      cases t with
      | nil => rfl
      | cons c t => cases (readOne?_of_plain ht).symm.trans hone
    subst ht
    rw [run_firstGroup hat hone]
    simp only [List.nil_append, hsettle, closing]

/-! ## From the arguments on -/

theorem run_fromArgs {args : List Char} {kept : List Group} {target : Option (List Char)}
    (hat : At text p (args ++ rest)) (hargs : PlainText args) (hrest : AtSeparator rest)
    (hsettle : Group.settleText? rest = some (kept, target)) :
    fromArgs.run text p marks done =
      some ⟨text.size, markSettled (p + args.length) kept target
        (marks.recordIf 2 p args)⟩ := by
  simp only [fromArgs, argsNode, Node.run_seq, Node.run_optional, Node.run_group]
  cases args with
  | nil =>
    rw [run_plain_none hat hrest, Option.none_or]
    exact run_fromParams hat hrest hsettle
  | cons c args =>
    rw [run_plain_of_some (k := fun next marks =>
        fromParams.run text next (marks.setIfInBounds (2 * 2 + 1) (some next)) done)
      hat hargs hrest (Nat.le_add_left 1 _) (run_fromParams hat.append hrest hsettle)]
    rfl

/-- The marks with arguments, groups and target of the text that is left of the whole one. -/
def markCut (text : Array Char) (s : List Char) (kept : List Group) (target : Option (List Char))
    (marks : Marks) : Marks :=
  let start := text.size - s.length
  let args := s.takeWhile isPlainChar
  markSettled (start + args.length) kept target (marks.recordIf 2 start args)

theorem run_fromArgs_cut {kept : List Group} {target : Option (List Char)} (hat : At text p s)
    (hsettle : Group.settleText? (s.dropWhile isPlainChar) = some (kept, target)) :
    fromArgs.run text p marks done = some ⟨text.size, markCut text s kept target marks⟩ := by
  have hstart : text.size - s.length = p := by
    have := hat.add_length
    omega
  rw [← List.takeWhile_append_dropWhile (p := isPlainChar) (l := s)] at hat
  rw [run_fromArgs hat (.takeWhile s) (atSeparator_dropWhile s) hsettle, markCut, hstart]

theorem run_fromBlank {kept : List Group} {target : Option (List Char)} (hat : At text p s)
    (hsettle : Group.settleText? ((Command.dropBlank s).dropWhile isPlainChar) =
      some (kept, target)) :
    fromBlank.run text p marks done =
      some ⟨text.size, markCut text (Command.dropBlank s) kept target marks⟩ := by
  simp only [fromBlank, Node.run_seq, Node.run_optional, Node.run_one, hat.holdsAt, blankSet_holds]
  cases s with
  | nil => exact run_fromArgs_cut hat hsettle
  | cons c s =>
    by_cases hc : isBlank c = true
    · simp only [Command.dropBlank, hc, if_true] at hsettle ⊢
      simp [hc, run_fromArgs_cut hat.cons hsettle]
    · simp only [Command.dropBlank, hc, Bool.false_eq_true, if_false] at hsettle ⊢
      simp [hc, run_fromArgs_cut hat hsettle]

/-! ## From the keyword on -/

theorem run_word (hat : At text p s) (w : List Char) :
    (word w).run text p marks k =
      (dropLead? w s).bind fun _ => k (p + w.length) marks := by
  induction w using word.induct generalizing p s with
  | case1 => rfl
  | case2 c =>
    rw [word, Node.run_one, hat.holdsAt, charSet_holds]
    cases s with
    | nil => rfl
    | cons d s =>
      rcases eq_or_ne d c with rfl | hc
      · simp [dropLead?]
      · simp [dropLead?, hc, hc.symm]
  | case3 c rest hrest ih =>
    rw [word, Node.run_seq, Node.run_one, hat.holdsAt, charSet_holds]
    · cases s with
      | nil => rfl
      | cons d s =>
        have hlength : p + 1 + rest.length = p + (rest.length + 1) := by omega
        rcases eq_or_ne d c with rfl | hc
        · simp [dropLead?, ih hat.cons, hlength]
        · simp [dropLead?, hc, hc.symm]
    · exact hrest

theorem run_look (hat : At text p s) :
    (Node.look .ahead false (.one endSet)).run text p marks k =
      if Action.endsKeyword s then k p marks else none := by
  rw [Node.run_look_ahead, Node.run_one, hat.holdsAt, endSet_holds]
  cases s with
  | nil => rfl
  | cons c s =>
    by_cases hc : (isBlank c || c == ';') = true
    · simp [Action.endsKeyword, hc]
    · simp [Action.endsKeyword, hc]

/-- What follows a keyword fails unless the keyword ends there. -/
def NeedsEnd (text : Array Char) (k : Rest) : Prop :=
  ∀ q marks s, At text q s → Action.endsKeyword s = false → k q marks = none

/-- Whether a keyword stands at the start of a text and ends there. -/
def startsWith (action : Action) (s : List Char) : Bool :=
  (dropLead? action.keyword s).any Action.endsKeyword

theorem readAmong_cons (action : Action) (actions : List Action) (s : List Char) :
    (Action.readAmong (action :: actions) s).1 =
      if startsWith action s then some action else (Action.readAmong actions s).1 := by
  rw [Action.readAmong, startsWith]
  cases dropLead? action.keyword s with
  | none => rfl
  | some rest => cases hends : Action.endsKeyword rest <;> simp [hends]

theorem run_keyword (hat : At text p s) (hk : NeedsEnd text k) (action : Action) :
    (word action.keyword).run text p marks k =
      if startsWith action s then k (p + action.keyword.length) marks else none := by
  rw [run_word hat, startsWith]
  cases hlead : dropLead? action.keyword s with
  | none => rfl
  | some rest =>
    rw [Action.dropLead?_eq_some.1 hlead] at hat
    cases hends : Action.endsKeyword rest with
    | true => simp [hends]
    | false => simp [hends, hk _ marks rest hat.append hends]

/-- The first keyword that stands at the start of a text is found. -/
theorem run_anyOf_of_some {actions : List Action} {action : Action} {found : Reached}
    (hat : At text p s) (hk : NeedsEnd text k)
    (hread : (Action.readAmong actions s).1 = some action)
    (hfound : k (p + action.keyword.length) marks = some found) :
    (anyOf actions).run text p marks k = some found := by
  induction actions using anyOf.induct with
  | case1 => cases hread
  | case2 first =>
    rw [anyOf, run_keyword hat hk]
    rw [readAmong_cons] at hread
    split at hread
    case isTrue hstarts =>
      cases hread
      rw [if_pos hstarts, hfound]
    case isFalse => cases hread
  | case3 first rest hrest ih =>
    rw [anyOf, Node.run_alt, run_keyword hat hk]
    · rw [readAmong_cons] at hread
      split at hread
      case isTrue hstarts =>
        cases hread
        rw [if_pos hstarts, hfound, Option.some_or]
      case isFalse hstarts => rw [if_neg hstarts, Option.none_or, ih hread]
    · exact hrest

theorem run_anyOf_none {actions : List Action} (hne : actions ≠ []) (hat : At text p s)
    (hk : NeedsEnd text k) (hread : (Action.readAmong actions s).1 = none) :
    (anyOf actions).run text p marks k = none := by
  induction actions using anyOf.induct with
  | case1 => exact absurd rfl hne
  | case2 first =>
    rw [anyOf, run_keyword hat hk]
    rw [readAmong_cons] at hread
    split at hread
    case isTrue => cases hread
    case isFalse hstarts => rw [if_neg hstarts]
  | case3 first rest hrest ih =>
    rw [anyOf, Node.run_alt, run_keyword hat hk]
    · rw [readAmong_cons] at hread
      split at hread
      case isTrue => cases hread
      case isFalse hstarts => rw [if_neg hstarts, Option.none_or, ih hrest hread]
    · exact hrest

/-- The marks with the keyword at the start of a text and all that is read behind it. -/
def markBody (text : Array Char) (s : List Char) (kept : List Group)
    (target : Option (List Char)) (marks : Marks) : Marks :=
  markCut text (Command.dropBlank (Action.read s).2) kept target
    (marks.recordIf 1 (text.size - s.length) (Action.word (Action.read s).1))

theorem run_fromAction {kept : List Group} {target : Option (List Char)} (hat : At text p s)
    (hsettle : Group.settleText? (Command.cutArgs s).2 = some (kept, target)) :
    fromAction.run text p marks done = some ⟨text.size, markBody text s kept target marks⟩ := by
  have hstart : text.size - s.length = p := by
    have := hat.add_length
    omega
  simp only [fromAction, actionNode, Node.run_seq, Node.run_optional, Node.run_group]
  have hneeds : NeedsEnd text fun next marks' =>
      (Node.look .ahead false (.one endSet)).run text next marks' fun next marks' =>
        fromBlank.run text next (marks'.setIfInBounds (2 * 1 + 1) (some next)) done := by
    intro q marks' u hu hends
    simp [run_look hu, hends]
  rcases Action.readAmong_spec Action.readable s with ⟨hword, haction⟩
  rw [← Action.read] at hword haction
  rw [markBody, hstart]
  cases hread : (Action.read s).1 with
  | none =>
    rw [hread, Action.word, List.nil_append] at hword
    rw [run_anyOf_none (by decide) hat hneeds hread, Option.none_or, Action.word, ← hword]
    rw [Command.cutArgs, ← hword] at hsettle
    exact run_fromBlank hat hsettle
  | some action =>
    rw [hread, Action.word] at hword
    rw [hword] at hat
    have hbehind : At text (p + action.keyword.length) (Action.read s).2 := hat.append
    rw [run_anyOf_of_some (hword ▸ hat) hneeds hread, Option.some_or]
    rw [run_look hbehind, if_pos (haction action hread).2, run_fromBlank hbehind hsettle]
    cases action <;> rfl

theorem rejects_fromAction (hsettle : Group.settleText? (';' :: s) = none) :
    Rejects text isPlainChar (';' :: s) fun p marks => fromAction.run text p marks done := by
  simp only [fromAction, fromBlank, fromArgs, Node.run_seq]
  refine Node.rejects_of_avoids rfl ?_
  refine Node.rejects_of_avoids rfl ?_
  exact Node.rejects_of_avoids rfl (rejects_fromParams hsettle)

/-! ## From the start on -/

/-- A text that does not fit has a semicolon behind plain text where this shows. -/
theorem exists_semicolon (hsettle : Group.settleText? (Command.cutArgs s).2 = none) :
    ∃ t more, s = t ++ ';' :: more ∧ PlainText t ∧ Group.settleText? (';' :: more) = none := by
  rcases Command.front_of_cutArgs s with ⟨blank, hfront, hs⟩
  rcases semicolon_of_settleText?_none hfront.atSeparator hsettle with ⟨more, hmore⟩
  rw [hmore] at hs hsettle
  exact ⟨_, more, hs, hfront.plain, hsettle⟩

theorem run_fromAction_none (hat : At text p s)
    (hsettle : Group.settleText? (Command.cutArgs s).2 = none) :
    fromAction.run text p marks done = none := by
  rcases exists_semicolon hsettle with ⟨t, more, rfl, ht, hmore⟩
  exact rejects_fromAction hmore t p marks (List.all_eq_true.2 ht) hat

/-- Behind an equals sign the text is read as in any line if it fits, and else it is all target. -/
theorem run_fromOpening_of_opened (hat : At text p ('=' :: s)) :
    fromOpening.run text p marks done = some ⟨text.size,
      match Group.settleText? (Command.cutArgs s).2 with
      | some (kept, target) => markBody text s kept target marks
      | none => markBody text ('=' :: s) [] (some s) marks⟩ := by
  simp only [fromOpening, Node.run_seq, Node.run_optional]
  rw [run_char_cons hat]
  cases hsettle : Group.settleText? (Command.cutArgs s).2 with
  | some settled => rw [run_fromAction hat.cons hsettle, Option.some_or]
  | none =>
    have hwhole : Group.settleText? (Command.cutArgs ('=' :: s)).2 = some ([], some s) :=
      Group.settleText?_equals s
    rw [run_fromAction_none hat.cons hsettle, Option.none_or, run_fromAction hat hwhole]

theorem run_fromOpening_of_ne (hat : At text p s) (hne : ∀ rest, s ≠ '=' :: rest) :
    fromOpening.run text p marks done = fromAction.run text p marks done := by
  have hhead : s.head? ≠ some '=' := by
    intro h
    exact hne s.tail (List.eq_cons_of_mem_head? h)
  simp only [fromOpening, Node.run_seq, Node.run_optional]
  rw [run_char_of_ne hat hhead, Option.none_or]

end Search

end Expression
end Switchboard
