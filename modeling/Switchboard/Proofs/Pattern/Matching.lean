import Mathlib.Data.List.TakeWhile
import Switchboard.Pattern.Search

/-!
# How patterns match at a place

The engine goes through positions of an array and hands on what is to follow. Here its steps are
said for the text that stands at a position (`At`): what a repetition of single characters takes,
what an optional node tries, and what a group shows of the text it has taken.

A node that cannot read a character never gets past it. So what is rejected in front of the
character and at it stays rejected, whatever such nodes try before (`Node.rejects_of_avoids`); this
settles backtracking without going through its cases.
-/

namespace Switchboard
namespace Pattern

/-! ## Places -/

/-- At the position stands `s`, up to the end of the text. -/
def At (text : Array Char) (position : Nat) (s : List Char) : Prop :=
  ∃ before, text.toList = before ++ s ∧ before.length = position

section Places

variable {text : Array Char} {p : Nat} {s t : List Char}

theorem at_zero (s : List Char) : At s.toArray 0 s :=
  ⟨[], by simp, rfl⟩

theorem At.append (h : At text p (t ++ s)) : At text (p + t.length) s := by
  rcases h with ⟨before, htext, rfl⟩
  exact ⟨before ++ t, by simp [htext], by simp⟩

theorem At.cons {c : Char} (h : At text p (c :: s)) : At text (p + 1) s :=
  At.append (t := [c]) h

theorem At.add_length (h : At text p s) : p + s.length = text.size := by
  rcases h with ⟨before, htext, rfl⟩
  rw [← Array.length_toList, htext, List.length_append]

theorem At.getElem? (h : At text p s) : text[p]? = s.head? := by
  rcases h with ⟨before, htext, rfl⟩
  rw [← Array.getElem?_toList, htext, List.getElem?_append_right (Nat.le_refl _), Nat.sub_self]
  cases s <;> rfl

theorem At.holdsAt (h : At text p s) (test : Char → Bool) :
    holdsAt text test p = s.head?.any test := by
  rw [Pattern.holdsAt, h.getElem?]
  cases s <;> rfl

theorem At.slice (h : At text p (t ++ s)) : slice text p (p + t.length) = t := by
  rcases h with ⟨before, htext, rfl⟩
  rw [Pattern.slice, Array.toList_extract, htext, List.extract_eq_take_drop]
  simp

end Places

/-- What is left behind the characters that pass starts with none of them. -/
theorem head?_any_dropWhile (test : Char → Bool) (s : List Char) :
    (s.dropWhile test).head?.any test = false := by
  have h := List.head?_dropWhile_not test s
  cases hhead : (s.dropWhile test).head? with
  | none => rfl
  | some c => simpa [hhead] using h

/-! ## Groups -/

namespace Marks

/-- The text of a group that has matched. -/
def text? (text : Array Char) (marks : Marks) (number : Nat) : Option (List Char) :=
  (marks.group? number).map fun (start, stop) => slice text start stop

/-- The marks with start and end of one more group. -/
def record (number start stop : Nat) (marks : Marks) : Marks :=
  (marks.setIfInBounds (2 * number) (some start)).setIfInBounds (2 * number + 1) (some stop)

/-- The marks with one more group, if it has taken any text. -/
def recordIf (number start : Nat) (s : List Char) (marks : Marks) : Marks :=
  if s.isEmpty then marks else marks.record number start (start + s.length)

variable {text : Array Char} {marks : Marks} {number other start stop : Nat} {s t : List Char}

@[simp] theorem size_record : (marks.record number start stop).size = marks.size := by
  simp [record]

@[simp] theorem size_recordIf : (marks.recordIf number start s).size = marks.size := by
  unfold recordIf
  split <;> simp

theorem group?_record_self (hsize : 2 * number + 1 < marks.size) (hle : start ≤ stop) :
    (marks.record number start stop).group? number = some (start, stop) := by
  have hstart : 2 * number < marks.size := by omega
  have hne : 2 * number ≠ 2 * number + 1 := by omega
  simp [group?, record, hsize, hstart, hle]

theorem group?_record_of_ne (hne : other ≠ number) :
    (marks.record number start stop).group? other = marks.group? other := by
  have h₁ : 2 * number ≠ 2 * other := by omega
  have h₂ : 2 * number + 1 ≠ 2 * other := by omega
  have h₃ : 2 * number ≠ 2 * other + 1 := by omega
  simp [group?, record, h₁, h₂, h₃]

/-- A group that is recorded shows its text. -/
theorem text?_record_self (hsize : 2 * number + 1 < marks.size) (hat : At text start (s ++ t)) :
    (marks.record number start (start + s.length)).text? text number = some s := by
  simp [text?, group?_record_self hsize, hat.slice]

theorem text?_record_of_ne (hne : other ≠ number) :
    (marks.record number start stop).text? text other = marks.text? text other := by
  simp [text?, group?_record_of_ne hne]

theorem text?_recordIf_of_ne (hne : other ≠ number) :
    (marks.recordIf number start s).text? text other = marks.text? text other := by
  unfold recordIf
  split
  · rfl
  · exact text?_record_of_ne hne

/-- A group that had not matched shows the text that it is recorded with. -/
theorem text?_recordIf_self (hsize : 2 * number + 1 < marks.size) (hat : At text start (s ++ t))
    (hnone : marks.text? text number = none) :
    (marks.recordIf number start s).text? text number = if s.isEmpty then none else some s := by
  unfold recordIf
  split
  · exact hnone
  · exact text?_record_self hsize hat

end Marks

/-! ## Repetitions -/

section Repetitions

variable {text : Array Char} {test : Char → Bool} {p : Nat} {s t : List Char} {marks : Marks}
  {k : Rest}

theorem countWhile_eq (h : At text p s) (most : Nat) :
    countWhile text test p most = min most (s.takeWhile test).length := by
  induction most generalizing p s with
  | zero => simp [countWhile]
  | succ most ih =>
    rw [countWhile, h.holdsAt]
    cases s with
    | nil => simp
    | cons c rest =>
      by_cases hc : test c = true
      · simp [hc, ih h.cons, Nat.succ_min_succ]
      · simp [hc]

theorem tryLonger_of_some {least extra : Nat} (found : Reached)
    (h : k (p + least + extra) marks = some found) :
    tryLonger least p marks k extra = some found := by
  cases extra with
  | zero => exact h
  | succ extra => rw [tryLonger, h]

theorem tryLonger_eq_none {least extra : Nat}
    (h : ∀ n ≤ extra, k (p + least + n) marks = none) :
    tryLonger least p marks k extra = none := by
  induction extra with
  | zero => exact h 0 (Nat.le_refl _)
  | succ extra ih =>
    rw [tryLonger, h (extra + 1) (Nat.le_refl _)]
    exact ih fun n hn => h n (Nat.le_succ_of_le hn)

/-- A greedy repetition without upper bound counts the characters at the place that pass. -/
theorem repeatOne_greedy (h : At text p s) (least : Nat) :
    repeatOne text test .greedy least none p marks k =
      if (s.takeWhile test).length < least then none
      else tryLonger least p marks k ((s.takeWhile test).length - least) := by
  have hroom : text.size - p = s.length := by
    have := h.add_length
    omega
  have hcount : countWhile text test p s.length = (s.takeWhile test).length := by
    rw [countWhile_eq h]
    exact Nat.min_eq_right (List.takeWhile_prefix test).length_le
  simp [repeatOne, hroom, hcount]

/-- One more round if it is allowed and leads to a match, else the rest. -/
theorem greedyRounds_eq (body : Matcher) (most : Option Nat) (rounds : Nat) :
    greedyRounds text.size body most k rounds p marks =
      if mayRepeat most rounds then
        (body p marks fun next marks =>
          if p < next ∧ next ≤ text.size then
            greedyRounds text.size body most k (rounds + 1) next marks
          else k next marks).or (k p marks)
      else k p marks := by
  rw [greedyRounds]
  simp only [dite_eq_ite]
  split
  · split <;> simp_all
  · rfl

theorem greedyRounds_once (body : Matcher) :
    greedyRounds text.size body (some 1) k 0 p marks = (body p marks k).or (k p marks) := by
  -- no second round is allowed, so the rest comes behind the first one
  have hlast : ∀ next marks, greedyRounds text.size body (some 1) k 1 next marks =
      k next marks :=
    fun next marks => greedyRounds_eq body (some 1) 1
  rw [greedyRounds_eq]
  simp only [mayRepeat, Nat.zero_lt_one, decide_true, if_true, Nat.zero_add, hlast, ite_self]

theorem repeatOne_once (test : Char → Bool) :
    repeatOne text test .greedy 0 (some 1) p marks k =
      (if holdsAt text test p then k (p + 1) marks else none).or (k p marks) := by
  by_cases hp : p < text.size
  · have hroom : min (text.size - p) 1 = 1 := by omega
    by_cases hholds : holdsAt text test p = true
    · simp only [repeatOne, Option.getD_some, hroom, countWhile, hholds, if_true, Nat.sub_zero,
        Nat.not_lt_zero, if_false, tryLonger, Nat.add_zero]
      cases k (p + 1) marks <;> rfl
    · simp [repeatOne, hroom, countWhile, hholds, tryLonger]
  · -- at the end of the text there is no character to take
    have hroom : text.size - p = 0 := by omega
    have hholds : holdsAt text test p = false := by
      simp [holdsAt, Array.getElem?_eq_none (Nat.le_of_not_lt hp)]
    simp [repeatOne, hroom, countWhile, hholds, tryLonger]

end Repetitions

/-! ## Nodes -/

namespace Node

/-- A node that is tried once, and passed over if it does not lead to a match. -/
def optional (body : Node) : Node :=
  .loop .greedy 0 (some 1) body

/-- As many characters of a set as there are, `least` of them at least. -/
def many (least : Nat) (set : CharSet) : Node :=
  .loop .greedy least none (.one set)

variable {text : Array Char} {p : Nat} {s t : List Char} {marks : Marks} {k : Rest}

theorem run_one (set : CharSet) :
    (one set).run text p marks k =
      if holdsAt text set.holds p then k (p + 1) marks else none :=
  rfl

theorem run_anchor (place : Anchor) :
    (anchor place).run text p marks k = if place.holds text p then k p marks else none :=
  rfl

@[simp] theorem run_seq (a b : Node) :
    (seq a b).run text p marks k =
      a.run text p marks fun next marks => b.run text next marks k :=
  rfl

@[simp] theorem run_alt (a b : Node) :
    (alt a b).run text p marks k = (a.run text p marks k).or (b.run text p marks k) := by
  simp only [run]
  cases a.run text p marks k <;> rfl

@[simp] theorem run_group (number : Nat) (body : Node) :
    (group number body).run text p marks k =
      body.run text p (marks.setIfInBounds (2 * number) (some p)) fun next marks =>
        k next (marks.setIfInBounds (2 * number + 1) (some next)) :=
  rfl

theorem run_loop_one (appetite : Appetite) (least : Nat) (most : Option Nat) (set : CharSet) :
    (loop appetite least most (.one set)).run text p marks k =
      repeatOne text set.holds appetite least most p marks k :=
  rfl

theorem run_loop_anyChar (appetite : Appetite) (least : Nat) (most : Option Nat)
    (lineBreaks : Bool) :
    (loop appetite least most (.anyChar lineBreaks)).run text p marks k =
      repeatOne text (fun c => lineBreaks || c != '\n') appetite least most p marks k :=
  rfl

/-- A look ahead goes on where it started. -/
theorem run_look_ahead (body : Node) :
    (look .ahead false body).run text p marks k =
      (body.run text p marks fun next marks => some ⟨next, marks⟩).bind fun found =>
        k p found.marks := by
  simp only [run, Nat.not_lt_zero, if_false, Nat.sub_zero]
  cases body.run text p marks fun next marks => some ⟨next, marks⟩ <;> rfl

/-- An optional node is tried first. -/
@[simp] theorem run_optional (body : Node) :
    (optional body).run text p marks k = (body.run text p marks k).or (k p marks) := by
  unfold optional
  -- single characters are repeated by counting, all other nodes round by round
  cases body
  case one set => exact repeatOne_once set.holds
  case anyChar lineBreaks => exact repeatOne_once _
  all_goals exact greedyRounds_once _

/-- A repetition takes all the characters of the set if this leads to a match. -/
theorem run_many_of_some {least : Nat} {set : CharSet} {found : Reached}
    (hat : At text p (t ++ s)) (ht : t.all set.holds = true)
    (hs : s.head?.any set.holds = false) (hleast : least ≤ t.length)
    (hk : k (p + t.length) marks = some found) :
    (many least set).run text p marks k = some found := by
  have htake : (t ++ s).takeWhile set.holds = t := by
    rw [List.takeWhile_append_of_pos (List.all_eq_true.1 ht)]
    cases s with
    | nil => simp
    | cons c rest => simp_all
  rw [many, run_loop_one, repeatOne_greedy hat, htake, if_neg (by omega)]
  refine tryLonger_of_some found ?_
  rwa [Nat.add_assoc, Nat.add_sub_cancel' hleast]

/-- A repetition fails if there are too few characters of the set. -/
theorem run_many_of_lt {least : Nat} {set : CharSet} (hat : At text p s)
    (hlt : (s.takeWhile set.holds).length < least) :
    (many least set).run text p marks k = none := by
  rw [many, run_loop_one, repeatOne_greedy hat, if_pos hlt]

/-- A repetition fails if what follows fails behind all the characters of the set that it can take. -/
theorem run_many_eq_none {least : Nat} {set : CharSet} (hat : At text p (t ++ s))
    (ht : t.all set.holds = true) (hs : s.head?.any set.holds = false)
    (hk : ∀ u v, t = u ++ v → least ≤ u.length → k (p + u.length) marks = none) :
    (many least set).run text p marks k = none := by
  have htake : (t ++ s).takeWhile set.holds = t := by
    rw [List.takeWhile_append_of_pos (List.all_eq_true.1 ht)]
    cases s with
    | nil => simp
    | cons c rest => simp_all
  rw [many, run_loop_one, repeatOne_greedy hat, htake]
  split
  case isTrue => rfl
  case isFalse hle =>
    refine tryLonger_eq_none fun n hn => ?_
    have hlength : (t.take (least + n)).length = least + n := by
      rw [List.length_take]
      omega
    have hfails := hk (t.take (least + n)) (t.drop (least + n))
      (List.take_append_drop _ t).symm (by omega)
    rwa [hlength, ← Nat.add_assoc] at hfails

/-- A repetition that may be empty is passed over where no character of the set stands. -/
theorem run_many_zero {set : CharSet} (hat : At text p s)
    (hs : s.head?.any set.holds = false) :
    (many 0 set).run text p marks k = k p marks := by
  have htake : s.takeWhile set.holds = [] := by
    cases s with
    | nil => rfl
    | cons c rest => simp_all
  rw [many, run_loop_one, repeatOne_greedy hat, htake]
  simp [tryLonger]

end Node

/-! ## Searches at the start of a text -/

/-- The match that is made of the marks at the end of a search. -/
def Match.ofReached (groups : Nat) (text : Array Char) (found : Reached) : Match :=
  ⟨(some (slice text 0 found.position) ::
    (List.range groups).map fun i => found.marks.text? text (i + 1)).toArray⟩

/-- A pattern that starts with the start of the text does not match anywhere else. -/
theorem searchFrom_of_textStart (node : Node) (groups : Nat) (text : Array Char) {p : Nat}
    (hp : p ≠ 0) (tries : Nat) :
    searchFrom ⟨.seq (.anchor .textStart) node, groups⟩ text p tries = none := by
  induction tries generalizing p with
  | zero => rfl
  | succ tries ih =>
    have hstart : Anchor.textStart.holds text p = false := by simpa [Anchor.holds] using hp
    simp only [searchFrom, Node.run_seq, Node.run_anchor, hstart, Bool.false_eq_true, if_false]
    exact ih (Nat.succ_ne_zero p)

/-- The search for such a pattern is one try. -/
theorem search_of_textStart (node : Node) (groups : Nat) (line : List Char) :
    Compiled.search ⟨.seq (.anchor .textStart) node, groups⟩ line =
      (node.run line.toArray 0 (Array.replicate (2 * (groups + 1)) none) fun next marks =>
        some ⟨next, marks⟩).map (Match.ofReached groups line.toArray) := by
  have hstart : Anchor.textStart.holds line.toArray 0 = true := rfl
  simp only [Compiled.search, searchFrom, Node.run_seq, Node.run_anchor, hstart, if_true]
  cases node.run line.toArray 0 (Array.replicate (2 * (groups + 1)) none) fun next marks =>
      some ⟨next, marks⟩ with
  | none => exact searchFrom_of_textStart node groups _ (Nat.succ_ne_zero 0) _
  | some found => rfl

/-! ## Nodes that cannot read a character -/

/-- What is to follow fails at `s`, and where only characters that pass the test stand before it. -/
def Rejects (text : Array Char) (test : Char → Bool) (s : List Char) (k : Rest) : Prop :=
  ∀ t p marks, t.all test = true → At text p (t ++ s) → k p marks = none

namespace Node

/-- Whether the node is made of parts that cannot read the character. Only nodes that hand on to
what follows, and take nothing back from it, are looked into. -/
def avoids (c : Char) : Node → Bool
  | .empty => true
  | .one set => !set.holds c
  | .anyChar lineBreaks => !(lineBreaks || c != '\n')
  | .anchor _ => true
  | .seq a b => a.avoids c && b.avoids c
  | .alt a b => a.avoids c && b.avoids c
  | .loop .greedy _ _ body => body.avoids c
  | .loop _ _ _ _ => false
  | .group _ body => body.avoids c
  | .backref _ _ => false
  | .look _ _ _ => true
  | .atomic _ => false
  | .cond _ present absent => present.avoids c && absent.avoids c

end Node

section Rejection

variable {text : Array Char} {test : Char → Bool} {c : Char} {s : List Char} {k : Rest}

/-- One character in front is taken or not; the character itself is not. -/
theorem Rejects.step {set : Char → Bool} (hk : Rejects text test (c :: s) k)
    (hc : set c = false) :
    Rejects text test (c :: s) fun p marks =>
      if holdsAt text set p then k (p + 1) marks else none := by
  intro t p marks ht hat
  simp only [hat.holdsAt]
  cases t with
  | nil => simp [hc]
  | cons d t =>
    simp only [List.all_cons, Bool.and_eq_true] at ht
    split
    case isTrue => exact hk t (p + 1) marks ht.2 hat.cons
    case isFalse => rfl

theorem Rejects.repeatOne {set : Char → Bool} (hk : Rejects text test (c :: s) k)
    (hc : set c = false) (least : Nat) (most : Option Nat) :
    Rejects text test (c :: s) fun p marks =>
      repeatOne text set .greedy least most p marks k := by
  intro t p marks ht hat
  -- what is taken lies in front of the character, and so does every shorter try
  have hcount : ∀ room, countWhile text set p room ≤ t.length := by
    intro room
    rw [countWhile_eq hat]
    refine (Nat.min_le_right _ _).trans ?_
    rw [List.takeWhile_append]
    split
    case isTrue => simp [hc]
    case isFalse => exact (List.takeWhile_prefix set).length_le
  simp only [Pattern.repeatOne]
  split
  case isTrue => rfl
  case isFalse hlt =>
    refine tryLonger_eq_none fun n hn => ?_
    have hle : least + n ≤ t.length := by
      have := hcount (min (text.size - p) (most.getD (text.size - p)))
      omega
    rw [← List.take_append_drop (least + n) t, List.append_assoc] at hat
    have := hat.append
    rw [List.length_take, Nat.min_eq_left hle, ← Nat.add_assoc] at this
    refine hk _ _ marks ?_ this
    rw [List.all_eq_true] at ht ⊢
    exact fun d hd => ht d (List.mem_of_mem_drop hd)

theorem Rejects.requiredRounds {body : Matcher} {r : List Char}
    (hbody : ∀ k, Rejects text test r k → Rejects text test r fun p marks => body p marks k)
    (hk : Rejects text test r k) (count : Nat) :
    Rejects text test r (requiredRounds body k count) := by
  induction count with
  | zero => exact hk
  | succ count ih => exact hbody _ ih

theorem Rejects.greedyRounds {body : Matcher} {r : List Char}
    (hbody : ∀ k, Rejects text test r k → Rejects text test r fun p marks => body p marks k)
    (hk : Rejects text test r k) (most : Option Nat) (rounds : Nat) :
    Rejects text test r (greedyRounds text.size body most k rounds) := by
  intro t p marks ht hat
  -- a round may take no text, but then it is the last one
  induction hleft : text.size - p using Nat.strong_induction_on generalizing rounds t p marks with
  | _ left ih =>
    rw [greedyRounds_eq]
    split
    case isFalse => exact hk t p marks ht hat
    case isTrue =>
      -- a further round starts behind this one, where fewer characters are left
      have hnext : Rejects text test r fun next marks =>
          if p < next ∧ next ≤ text.size then
            Pattern.greedyRounds text.size body most k (rounds + 1) next marks
          else k next marks := by
        intro t' next marks' ht' hat'
        simp only
        split
        case isTrue hlt => exact ih _ (by omega) (rounds + 1) t' next marks' ht' hat' rfl
        case isFalse => exact hk t' next marks' ht' hat'
      simp only [hbody _ hnext t p marks ht hat, Option.none_or]
      exact hk t p marks ht hat

/-- A node that cannot read a character does not get past it. -/
theorem Node.rejects_of_avoids {node : Node} (hc : node.avoids c = true)
    (hk : Rejects text test (c :: s) k) :
    Rejects text test (c :: s) fun p marks => node.run text p marks k := by
  induction node generalizing k with
  | empty => exact hk
  | one set => exact hk.step (by simpa [avoids] using hc)
  | anyChar lineBreaks => exact hk.step (by simpa [avoids] using hc)
  | anchor place =>
    intro t p marks ht hat
    simp only [run_anchor, hk t p marks ht hat, ite_self]
  | seq a b iha ihb =>
    simp only [avoids, Bool.and_eq_true] at hc
    exact iha hc.1 (ihb hc.2 hk)
  | alt a b iha ihb =>
    simp only [avoids, Bool.and_eq_true] at hc
    intro t p marks ht hat
    simp only [run_alt, iha hc.1 hk t p marks ht hat, ihb hc.2 hk t p marks ht hat, Option.or_none]
  | loop appetite least most body ih =>
    cases appetite with
    | lazy => cases hc
    | possessive => cases hc
    | greedy =>
      have hbody : ∀ k, Rejects text test (c :: s) k →
          Rejects text test (c :: s) fun p marks => body.run text p marks k :=
        fun k hk => ih hc hk
      cases body
      case one set => exact hk.repeatOne (by simpa [avoids] using hc) least most
      case anyChar lineBreaks => exact hk.repeatOne (by simpa [avoids] using hc) least most
      all_goals exact (hk.greedyRounds hbody most least).requiredRounds hbody least
  | group number body ih =>
    -- the group only changes the marks, and what follows fails with any marks
    intro t p marks ht hat
    exact ih hc (fun t next marks ht hat => hk t next _ ht hat) t p _ ht hat
  | backref number fold => cases hc
  | look direction negative body ih =>
    intro t p marks ht hat
    -- wherever it looks, it goes on from the same place or fails
    simp only [run]
    split
    · exact hk t p _ ht hat
    · exact hk t p _ ht hat
    · rfl
  | atomic body ih => cases hc
  | cond number present absent ihp iha =>
    simp only [avoids, Bool.and_eq_true] at hc
    intro t p marks ht hat
    simp only [run]
    split
    · exact ihp hc.1 hk t p marks ht hat
    · exact iha hc.2 hk t p marks ht hat

end Rejection

end Pattern
end Switchboard
