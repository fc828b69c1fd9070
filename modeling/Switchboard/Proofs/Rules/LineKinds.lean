import Switchboard.Proofs.Command.Expression
import Switchboard.Proofs.Template.Captures
import Switchboard.Proofs.Text.PercentCoding
import Switchboard.Rules.Sections

/-!
# Kinds of lines

What a line of a rules file is, is told by two patterns: one of headers, and one of lines that do not
count (`LineKind.ofLine_eq_bySearch`). Either starts with blanks, of which the search takes back some
when what is behind them does not fit; but no header and no comment starts with a blank.

`IsName` says of which characters names are made; these are the names that can stand in a header
(`LineKind.ofLine_bracketed_iff`).
-/

namespace Switchboard

open Text Pattern
open Expression (charSet blankSet done run_char_cons run_char_of_ne at_line at_stripStart)

/-! ## Names -/

/-- A name of sections and messages. -/
structure IsName (s : List Char) : Prop where
  ne_nil : s ≠ []
  chars : ∀ c ∈ s, isNameChar c = true

theorem isNameChar_iff {c : Char} :
    isNameChar c = true ↔
      ((65 ≤ c.toNat ∧ c.toNat ≤ 90 ∨ 97 ≤ c.toNat ∧ c.toNat ≤ 122) ∨
        48 ≤ c.toNat ∧ c.toNat ≤ 57) ∨ c = '.' ∨ c = '_' := by
  simp only [isNameChar, Bool.or_eq_true, isAlphanum_iff_toNat, beq_iff_eq, or_assoc]

theorem toNat_of_isNameChar {c : Char} (h : isNameChar c = true) :
    46 ≤ c.toNat ∧ c.toNat ≤ 122 := by
  rcases isNameChar_iff.1 h with halnum | rfl | rfl
  · omega
  · decide
  · decide

theorem isBlank_of_isNameChar {c : Char} (h : isNameChar c = true) : isBlank c = false := by
  have hbounds := toNat_of_isNameChar h
  simp only [isBlank, Bool.or_eq_false_iff, Bool.and_eq_false_iff, decide_eq_false_iff_not,
    beq_eq_false_iff_ne]
  omega

theorem isLineBreak_of_isNameChar {c : Char} (h : isNameChar c = true) :
    isLineBreak c = false := by
  have hbounds := toNat_of_isNameChar h
  simp only [isLineBreak, Bool.or_eq_false_iff, Bool.and_eq_false_iff, decide_eq_false_iff_not,
    beq_eq_false_iff_ne]
  omega

theorem IsName.takeWhile {name rest : List Char} (h : IsName name)
    (hrest : rest.head?.any isNameChar = false) :
    (name ++ rest).takeWhile isNameChar = name ∧ (name ++ rest).dropWhile isNameChar = rest := by
  rw [List.takeWhile_append_of_pos h.chars, List.dropWhile_append_of_pos h.chars]
  cases rest with
  | nil => simp
  | cons c more => simp_all

namespace LineKind

theorem headerName?_eq_some_iff {body : List Char} {n : String} :
    headerName? body = some n ↔
      ∃ name rest, IsName name ∧ body = '[' :: (name ++ ']' :: rest) ∧ n = String.ofList name := by
  constructor
  · intro h
    unfold headerName? at h
    split at h
    case h_2 => cases h
    case h_1 more =>
      simp only at h
      split at h
      case h_2 => cases h
      case h_1 rest hrest =>
        split at h
        case isTrue => cases h
        case isFalse hne =>
          cases h
          refine ⟨more.takeWhile isNameChar, rest, ⟨by simpa using hne, ?_⟩, ?_, rfl⟩
          · exact List.all_eq_true.1 List.all_takeWhile
          · rw [← hrest, List.takeWhile_append_dropWhile]
  · rintro ⟨name, rest, hname, rfl, rfl⟩
    have hbracket : (']' :: rest).head?.any isNameChar = false := by simp [isNameChar]
    rcases hname.takeWhile hbracket with ⟨htake, hdrop⟩
    simp [headerName?, htake, hdrop, hname.ne_nil]

theorem ofLine_eq_header_iff {line : List Char} {n : String} :
    ofLine line = .header n ↔ headerName? (stripStart line) = some n := by
  unfold ofLine
  simp only
  split
  case h_1 name hname => simp [hname]
  case h_2 hnone =>
    rw [hnone]
    split <;> simp

theorem ofLine_bracketed_iff {name : List Char} :
    ofLine ('[' :: (name ++ [']'])) = .header (String.ofList name) ↔ IsName name := by
  have hstrip : stripStart ('[' :: (name ++ [']'])) = '[' :: (name ++ [']']) := by
    rw [stripStart, List.dropWhile_cons_of_neg (by decide)]
  rw [ofLine_eq_header_iff, hstrip, headerName?_eq_some_iff]
  constructor
  · rintro ⟨other, rest, hother, -, heq⟩
    rwa [String.ofList_inj.1 heq]
  · exact fun h => ⟨name, [], h, rfl, rfl⟩

/-! ## The pattern of headers -/

/-- The pattern of headers. Its group is the name:

    ^\s*\[(?P<name>[a-zA-Z0-9._]+)\]
-/
def headerSource : List Char :=
  ['^', '\\', 's', '*', '\\', '[', '(', '?', 'P', '<', 'n', 'a', 'm', 'e', '>'] ++
    ['[', 'a', '-', 'z', 'A', '-', 'Z', '0', '-', '9', '.', '_', ']', '+', ')', '\\', ']']

def nameSet : CharSet :=
  ⟨false, .exact, [.range 97 122, .range 65 90, .range 48 57, .code 46, .code 95]⟩

/-- The pattern behind the blanks. -/
def headerNode : Node :=
  .seq (.one (charSet '[')) (.seq (.group 1 (.many 1 nameSet)) (.one (charSet ']')))

def headerPattern : Compiled :=
  ⟨.seq (.anchor .textStart) (.seq (.many 0 blankSet) headerNode), 1⟩

theorem ofText_headerSource : Compiled.ofText headerSource = .ok headerPattern := by
  have h : (Compiled.ofText headerSource).toOption = some headerPattern := by decide +kernel
  cases hread : Compiled.ofText headerSource with
  | error flaw => simp [hread, Except.toOption] at h
  | ok read => simpa [hread, Except.toOption] using h

@[simp] theorem nameSet_holds : nameSet.holds = isNameChar := by
  funext c
  rw [Bool.eq_iff_iff, isNameChar_iff]
  simp only [CharSet.holds, nameSet, Member.holds, Fold.apply, if_true, List.any_cons, List.any_nil,
    Bool.or_false, bne_iff_ne, ne_eq, Bool.not_eq_false, Bool.or_eq_true, Bool.and_eq_true,
    decide_eq_true_eq, beq_iff_eq, ← Char.toNat_inj]
  simp
  omega

section Search

variable {text : Array Char} {p : Nat} {s : List Char} {marks : Marks} {k : Rest}

/-- The name is recorded, and the search ends behind the closing bracket. -/
theorem run_headerNode_of_name {name rest : List Char} (marks : Marks) (hname : IsName name)
    (hat : At text p ('[' :: (name ++ ']' :: rest))) :
    headerNode.run text p marks done =
      some ⟨p + 1 + name.length + 1, marks.record 1 (p + 1) (p + 1 + name.length)⟩ := by
  have hbracket : (']' :: rest).head?.any nameSet.holds = false := by simp [isNameChar]
  have hall : name.all nameSet.holds = true := by
    rw [nameSet_holds]
    exact List.all_eq_true.2 hname.chars
  simp only [headerNode, Node.run_seq, Node.run_group]
  rw [run_char_cons hat]
  refine Node.run_many_of_some hat.cons hall hbracket (List.length_pos_iff.2 hname.ne_nil) ?_
  rw [run_char_cons hat.cons.append]
  rfl

theorem run_headerNode_of_none (hat : At text p s) (h : headerName? s = none) :
    headerNode.run text p marks k = none := by
  simp only [headerNode, Node.run_seq, Node.run_group]
  cases s with
  | nil => exact run_char_of_ne hat (by simp)
  | cons c more =>
    by_cases hc : c = '['
    · subst hc
      have hmore : At text (p + 1)
          (more.takeWhile isNameChar ++ more.dropWhile isNameChar) := by
        rw [List.takeWhile_append_dropWhile]
        exact hat.cons
      have hchars : ∀ c ∈ more.takeWhile isNameChar, isNameChar c = true :=
        List.all_eq_true.1 List.all_takeWhile
      -- the closing bracket is missing behind the name
      have hopen : more.takeWhile isNameChar ≠ [] →
          (more.dropWhile isNameChar).head? ≠ some ']' := by
        intro hne hhead
        rcases List.head?_eq_some_iff.1 hhead with ⟨rest, hrest⟩
        have hsplit : '[' :: more = '[' :: (more.takeWhile isNameChar ++ ']' :: rest) := by
          rw [← hrest, List.takeWhile_append_dropWhile]
        rw [headerName?_eq_some_iff.2 ⟨_, rest, ⟨hne, hchars⟩, hsplit, rfl⟩] at h
        cases h
      rw [run_char_cons hat]
      refine Node.run_many_eq_none hmore ?_ ?_ ?_
      · simp
      · rw [nameSet_holds]
        exact head?_any_dropWhile isNameChar more
      · intro u v hsplit hu
        rw [hsplit, List.append_assoc] at hmore
        refine run_char_of_ne hmore.append ?_
        cases v with
        | nil =>
          refine hopen ?_
          rw [hsplit, List.append_nil]
          exact List.length_pos_iff.1 hu
        | cons d v =>
          -- a shorter name is taken, and what stands behind it is no bracket either
          have hd : isNameChar d = true := hchars d (by simp [hsplit])
          rintro ⟨⟩
          simp [isNameChar] at hd
    · exact run_char_of_ne hat (by simpa using hc)

/-! ## The pattern of lines that do not count -/

end Search

/-- The pattern of blank lines and comments:

    ^\s*(?:[;#]|$)
-/
def skipSource : List Char :=
  ['^', '\\', 's', '*', '(', '?', ':', '[', ';', '#', ']', '|', '$', ')']

def commentSet : CharSet :=
  ⟨false, .exact, [.code ';'.toNat, .code '#'.toNat]⟩

/-- The pattern behind the blanks. -/
def skipNode : Node :=
  .alt (.one commentSet) (.anchor .textEndOrFinalBreak)

def skipPattern : Compiled :=
  ⟨.seq (.anchor .textStart) (.seq (.many 0 blankSet) skipNode), 0⟩

theorem ofText_skipSource : Compiled.ofText skipSource = .ok skipPattern := by
  have h : (Compiled.ofText skipSource).toOption = some skipPattern := by decide +kernel
  cases hread : Compiled.ofText skipSource with
  | error flaw => simp [hread, Except.toOption] at h
  | ok read => simpa [hread, Except.toOption] using h

@[simp] theorem commentSet_holds : commentSet.holds = fun c => c == ';' || c == '#' := by
  funext c
  simp [-Char.reduceToNat, CharSet.holds, commentSet, Member.holds, Fold.apply,
    Expression.toNat_beq]

section Search

variable {text : Array Char} {p : Nat} {s : List Char} {marks : Marks} {k : Rest}

/-- A comment or the end of the line is found at once. -/
theorem run_skipNode_of_skipped (marks : Marks) (hat : At text p s) (h : isSkipped s = true) :
    ∃ found, skipNode.run text p marks done = some found := by
  cases s with
  | nil =>
    have hend : p = text.size := hat.add_length
    have hplace : Anchor.textEndOrFinalBreak.holds text p = true := by simp [Anchor.holds, hend]
    refine ⟨⟨p, marks⟩, ?_⟩
    simp [skipNode, Node.run_one, hat.holdsAt, Node.run_anchor, hplace, done]
  | cons c rest =>
    have hc : (c == ';' || c == '#') = true := h
    refine ⟨⟨p + 1, marks⟩, ?_⟩
    simp [skipNode, Node.run_one, hat.holdsAt, hc, done]

/-- Before any other character no line ends, unless a line feed is the last one. -/
theorem run_skipNode_of_not_skipped {c : Char} {rest : List Char} (hat : At text p (c :: rest))
    (hc : (c == ';' || c == '#') = false) (hlast : rest = [] → c ≠ '\n') :
    skipNode.run text p marks k = none := by
  have hsize := hat.add_length
  rw [List.length_cons] at hsize
  have hplace : Anchor.textEndOrFinalBreak.holds text p = false := by
    have hne : p ≠ text.size := by omega
    by_cases hrest : rest = []
    · simp [Anchor.holds, hne, hat.holdsAt, hlast hrest]
    · have hlength := List.length_pos_iff.2 hrest
      have hne' : p + 1 ≠ text.size := by omega
      simp [Anchor.holds, hne, hne']
  simp [skipNode, Node.run_one, hat.holdsAt, hc, Node.run_anchor, hplace]

end Search

/-! ## Searching a line -/

/-- The marks in front of a search. -/
def noMarks (groups : Nat) : Marks :=
  Array.replicate (2 * (groups + 1)) none

/-- A pattern that starts with blanks is tried behind all of them. -/
theorem search_of_some {node : Node} {groups : Nat} {line : List Char} {found : Reached}
    (h : node.run line.toArray (line.takeWhile isBlank).length (noMarks groups) done =
      some found) :
    Compiled.search ⟨.seq (.anchor .textStart) (.seq (.many 0 blankSet) node), groups⟩ line =
      some (Match.ofReached groups line.toArray found) := by
  rw [search_of_textStart, Node.run_seq, Node.run_many_of_some (at_line line)]
  · rfl
  · simp
  · simpa [stripStart] using head?_any_dropWhile isBlank line
  · exact Nat.zero_le _
  · rw [Nat.zero_add]
    exact h

theorem search_eq_none {node : Node} {groups : Nat} {line : List Char}
    (h : ∀ p marks, At line.toArray p (stripStart line) →
      node.run line.toArray p marks done = none)
    (hblank : ∀ c rest p marks, isBlank c = true → (rest = [] → stripStart line = []) →
      At line.toArray p (c :: rest) → node.run line.toArray p marks done = none) :
    Compiled.search ⟨.seq (.anchor .textStart) (.seq (.many 0 blankSet) node), groups⟩ line =
      none := by
  rw [search_of_textStart, Node.run_seq, Node.run_many_eq_none (at_line line)]
  · rfl
  · simp
  · simpa [stripStart] using head?_any_dropWhile isBlank line
  · intro u v hsplit _
    have hat := at_line line
    rw [hsplit, List.append_assoc] at hat
    cases v with
    | nil => exact h _ _ hat.append
    | cons c v =>
      have hc : isBlank c = true :=
        List.all_eq_true.1 (List.all_takeWhile (p := isBlank) (l := line)) c (by simp [hsplit])
      refine hblank c (v ++ stripStart line) _ _ hc ?_ hat.append
      exact fun hnil => (List.append_eq_nil_iff.1 hnil).2

/-- The kind of a line by two patterns: that of headers, and that of lines that do not count. -/
def bySearch (header skip : Compiled) (line : List Char) : LineKind :=
  match header.search line with
  | some found => .header (String.ofList (found.groupText 1))
  | none => if (skip.search line).isSome then .skipped else .content

/-- The search for the header finds the name. -/
theorem groupText_of_record {line name rest : List Char} {p stop : Nat}
    (hat : At line.toArray p (name ++ rest)) :
    (Match.ofReached 1 line.toArray
      ⟨stop, (noMarks 1).record 1 p (p + name.length)⟩).groupText 1 = name := by
  have hsize : 2 * 1 + 1 < (noMarks 1).size := by decide
  simp [Match.ofReached, Match.groupText, Marks.text?_record_self hsize hat]

theorem headerName?_of_isBlank {c : Char} (h : isBlank c = true) (rest : List Char) :
    headerName? (c :: rest) = none := by
  cases hname : headerName? (c :: rest) with
  | none => rfl
  | some n =>
    rcases headerName?_eq_some_iff.1 hname with ⟨name, more, -, heq, -⟩
    have hbracket : c = '[' := (List.cons.inj heq).1
    rw [hbracket] at h
    exact absurd h (by decide)

/-- The kind of a line is what the two patterns say of it. -/
theorem ofLine_eq_bySearch (line : List Char) :
    ofLine line = bySearch headerPattern skipPattern line := by
  have hat := at_stripStart line
  cases hheader : headerName? (stripStart line) with
  | some n =>
    rcases headerName?_eq_some_iff.1 hheader with ⟨name, rest, hname, hbody, rfl⟩
    rw [hbody] at hat
    have hrun := run_headerNode_of_name (noMarks 1) hname hat
    have hsearch := search_of_some hrun
    simp only [ofLine, hheader, bySearch, headerPattern, hsearch, groupText_of_record hat.cons]
  | none =>
    have hsearch : headerPattern.search line = none :=
      search_eq_none (fun p marks hat => run_headerNode_of_none hat hheader)
        fun c rest p marks hc _ hat => run_headerNode_of_none hat (headerName?_of_isBlank hc rest)
    simp only [ofLine, hheader, bySearch, hsearch]
    cases hskip : isSkipped (stripStart line) with
    | true =>
      rcases run_skipNode_of_skipped (noMarks 0) hat hskip with ⟨found, hfound⟩
      simp [skipPattern, search_of_some hfound]
    | false =>
      cases hbody : stripStart line with
      | nil => simp [hbody, isSkipped] at hskip
      | cons c rest =>
        rw [hbody] at hskip
        have hstart := head?_any_dropWhile isBlank line
        rw [← stripStart, hbody] at hstart
        have hnone : skipPattern.search line = none := by
          refine search_eq_none ?_ ?_
          · intro p marks hat
            rw [hbody] at hat
            refine run_skipNode_of_not_skipped hat hskip ?_
            rintro - rfl
            have hfeed : isBlank '\n' = false := hstart
            exact absurd hfeed (by decide)
          · -- a blank is no comment, and something stands behind it
            intro d more p marks hd hmore hat
            refine run_skipNode_of_not_skipped hat ?_ ?_
            · rw [Bool.or_eq_false_iff, beq_eq_false_iff_ne, beq_eq_false_iff_ne]
              refine ⟨?_, ?_⟩
              · rintro rfl
                exact absurd hd (by decide)
              · rintro rfl
                exact absurd hd (by decide)
            · intro hnil
              rw [hmore hnil] at hbody
              cases hbody
        simp [hnone]

end LineKind
end Switchboard
