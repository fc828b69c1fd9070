import Mathlib.Data.List.Infix
import Switchboard.Proofs.Command.Keyed

/-!
# What a command keeps of its line

Reading a line loses nothing: the line is the blanks in front, perhaps an equals sign, the keyword,
at most one blank, the arguments, the parameters and the target, one behind the other (`Parts`).
The lines that do not fit (`Misfit`) are told by what stands before their first equals sign.

The text behind the arguments decides whether a line fits. `Group.settleText?` says what becomes
of this text; `Group.settleText?_spec` and `Group.settleText?_eq_none_iff` are what later modules
cite of the groups, and `Command.parse_eq_settled` with `Command.front_of_cutArgs` what they cite of
a line.
-/

namespace Switchboard

open Text

/-! ## Plain text -/

/-- Text with neither semicolons nor equals signs. -/
def PlainText (s : List Char) : Prop :=
  ∀ c ∈ s, isPlainChar c = true

namespace PlainText

variable {s t : List Char}

theorem of_all (h : s.all isPlainChar = true) : PlainText s :=
  List.all_eq_true.1 h

theorem nil : PlainText [] :=
  of_all rfl

theorem append (hs : PlainText s) (ht : PlainText t) : PlainText (s ++ t) := by
  intro c hc
  rcases List.mem_append.1 hc with hc | hc
  · exact hs c hc
  · exact ht c hc

theorem of_isBlank (h : ∀ c ∈ s, isBlank c = true) : PlainText s := by
  intro c hc
  have hblank := h c hc
  have hne : ∀ d, isBlank d = false → c ≠ d := by
    rintro d hd rfl
    simp [hblank] at hd
  simp [isPlainChar, hne ';' (by decide), hne '=' (by decide)]

theorem takeWhile (s : List Char) : PlainText (s.takeWhile isPlainChar) :=
  of_all List.all_takeWhile

theorem semicolon_notMem (h : PlainText s) : ';' ∉ s := by
  intro hmem
  exact absurd (h ';' hmem) (by decide)

theorem equals_notMem (h : PlainText s) : '=' ∉ s := by
  intro hmem
  exact absurd (h '=' hmem) (by decide)

/-- Plain text in front of a separator is cut off there. -/
theorem takeWhile_append (hs : PlainText s) (ht : AtSeparator t) :
    (s ++ t).takeWhile isPlainChar = s := by
  rw [List.takeWhile_append_of_pos hs]
  cases t with
  | nil => simp
  | cons c rest => simp [ht c rest rfl]

theorem dropWhile_append (hs : PlainText s) (ht : AtSeparator t) :
    (s ++ t).dropWhile isPlainChar = t := by
  rw [List.dropWhile_append_of_pos hs]
  cases t with
  | nil => rfl
  | cons c rest => simp [ht c rest rfl]

end PlainText

theorem atSeparator_nil : AtSeparator [] := by
  intro c rest h
  cases h

theorem atSeparator_semicolon (s : List Char) : AtSeparator (';' :: s) := by
  intro c rest h
  cases h
  rfl

theorem atSeparator_equals (s : List Char) : AtSeparator ('=' :: s) := by
  intro c rest h
  cases h
  rfl

/-! ## Groups -/

namespace Group

/-- A group as it can be written: it has a key, and neither key nor value holds a separator. -/
structure IsProper (g : Group) : Prop where
  key_ne_nil : g.key ≠ []
  key_plain : PlainText g.key
  value_plain : ∀ value, g.value = some value → PlainText value

theorem readAll_of_none {s : List Char} (h : readOne? s = none) : readAll s = ([], s) := by
  rw [readAll]
  split <;> simp_all

theorem readAll_of_some {s rest : List Char} {g : Group} (h : readOne? s = some (g, rest)) :
    readAll s = (g :: (readAll rest).1, (readAll rest).2) := by
  rw [readAll]
  split <;> simp_all

@[simp] theorem readAll_nil : readAll [] = ([], []) :=
  readAll_of_none rfl

@[simp] theorem readAll_equals (s : List Char) : readAll ('=' :: s) = ([], '=' :: s) :=
  readAll_of_none rfl

@[simp] theorem textOf_nil : textOf [] = [] :=
  rfl

@[simp] theorem textOf_cons (g : Group) (groups : List Group) :
    textOf (g :: groups) = g.text ++ textOf groups :=
  rfl

@[simp] theorem readValue_nil : readValue [] = (none, []) :=
  rfl

@[simp] theorem readValue_semicolon (s : List Char) : readValue (';' :: s) = (none, ';' :: s) :=
  rfl

@[simp] theorem readValue_equals (s : List Char) :
    readValue ('=' :: s) = (some (s.takeWhile isPlainChar), s.dropWhile isPlainChar) :=
  rfl

/-- A semicolon starts no group if no key follows it. -/
theorem readOne?_eq_none_iff (s : List Char) :
    readOne? (';' :: s) = none ↔ AtSeparator s := by
  cases s with
  | nil => exact iff_of_true rfl atSeparator_nil
  | cons c rest =>
    simp only [readOne?, AtSeparator]
    by_cases hc : isPlainChar c = true
    · simp [hc]
    · simp [hc]

/-- A group that is read is a proper one and stands at the start of the text. An equals sign never
follows it, unless it has a value. -/
theorem readOne?_eq_some {s rest : List Char} {g : Group} (h : readOne? s = some (g, rest)) :
    g.IsProper ∧ s = g.text ++ rest ∧ AtSeparator rest ∧
      (g.value = none → ∀ target, rest ≠ '=' :: target) := by
  unfold readOne? at h
  split at h
  case h_2 => cases h
  case h_1 body =>
    simp only at h
    split at h
    case isTrue => cases h
    case isFalse hkey =>
      have hkey : body.takeWhile isPlainChar ≠ [] := by simpa using hkey
      have hbody := List.takeWhile_append_dropWhile (p := isPlainChar) (l := body)
      rcases (atSeparator_dropWhile body).cases with hrest | ⟨more, hrest⟩ | ⟨more, hrest⟩
      · rw [hrest] at h
        cases h
        refine ⟨⟨hkey, .takeWhile body, by simp⟩, ?_, atSeparator_nil, by simp⟩
        simpa [text, hrest] using hbody.symm
      · rw [hrest] at h
        cases h
        refine ⟨⟨hkey, .takeWhile body, by simp⟩, ?_, atSeparator_semicolon more, by simp⟩
        simpa [text, hrest] using hbody.symm
      · -- an equals sign behind the key takes the value with it
        rw [hrest] at h hbody
        cases h
        refine ⟨⟨hkey, .takeWhile body, ?_⟩, ?_, atSeparator_dropWhile more, by simp⟩
        · intro value hvalue
          cases hvalue
          exact .takeWhile more
        · have hmore := List.takeWhile_append_dropWhile (p := isPlainChar) (l := more)
          simpa [text, hmore] using hbody.symm

/-- Groups that are read are proper, and with what is left they are the text. -/
theorem readAll_spec (s : List Char) :
    (∀ g ∈ (readAll s).1, g.IsProper) ∧ textOf (readAll s).1 ++ (readAll s).2 = s := by
  induction s using readAll.induct with
  | case1 s hnone => simp [readAll_of_none hnone]
  | case2 s g rest hsome groups left hrest ih =>
    rcases readOne?_eq_some hsome with ⟨hproper, htext, -, -⟩
    rw [readAll_of_some hsome]
    refine ⟨?_, ?_⟩
    · intro other hother
      rcases List.mem_cons.1 hother with rfl | hother
      · exact hproper
      · exact ih.1 other hother
    · rw [textOf_cons, List.append_assoc, ih.2, htext]

/-! ## What becomes of the text behind the arguments -/

/-- The groups that are kept of a text and the target, if the text fits: all groups if nothing or an
equals sign is left behind them, and else those before the last value, which goes to the target. -/
def settle? (groups : List Group) : List Char → Option (List Group × Option (List Char))
  | [] => some (groups, none)
  | '=' :: target => some (groups, some target)
  | left => (tearLast? groups).map fun (kept, tail) => (kept, some (tail ++ left))

theorem settle?_of_left (groups : List Group) {left : List Char} (hnil : left ≠ [])
    (hequals : ∀ target, left ≠ '=' :: target) :
    settle? groups left =
      (tearLast? groups).map fun (kept, tail) => (kept, some (tail ++ left)) := by
  unfold settle?
  split
  case h_1 => exact absurd rfl hnil
  case h_2 target => exact absurd rfl (hequals target)
  case h_3 => rfl

theorem settle?_semicolon (groups : List Group) (s : List Char) :
    settle? groups (';' :: s) =
      (tearLast? groups).map fun (kept, tail) => (kept, some (tail ++ ';' :: s)) :=
  rfl

/-- The text of a target with its equals sign. -/
def targetText : Option (List Char) → List Char
  | none => []
  | some target => '=' :: target

/-- One group more is kept if the groups behind it fit; otherwise it gives up its value. -/
theorem settle?_cons (g : Group) (groups : List Group) {left : List Char}
    (hleft : AtSeparator left) :
    settle? (g :: groups) left =
      match settle? groups left, g.value with
      | some (kept, target), _ => some (g :: kept, target)
      | none, some value => some ([⟨g.key, none⟩], some (value ++ textOf groups ++ left))
      | none, none => none := by
  -- only in front of a semicolon is a value given up at all
  rcases hleft.cases with rfl | ⟨rest, rfl⟩ | ⟨rest, rfl⟩
  · rfl
  · rw [settle?_semicolon, settle?_semicolon, tearLast?]
    rcases tearLast? groups with - | ⟨kept, tail⟩
    · cases g.value <;> simp
    · cases g.value <;> simp
  · rfl

/-- Groups and target are the text, whether a value was given up or not. -/
theorem textOf_settle? {groups kept : List Group} {left : List Char} {target : Option (List Char)}
    (hproper : ∀ g ∈ groups, g.IsProper) (hleft : AtSeparator left)
    (h : settle? groups left = some (kept, target)) :
    (∀ g ∈ kept, g.IsProper) ∧ textOf kept ++ targetText target = textOf groups ++ left := by
  induction groups generalizing kept target with
  | nil =>
    rcases hleft.cases with rfl | ⟨rest, rfl⟩ | ⟨rest, rfl⟩
    · cases h
      simp [targetText]
    · cases h
    · cases h
      simp [targetText]
  | cons g rest ih =>
    have hfirst := hproper g List.mem_cons_self
    have hrest : ∀ g ∈ rest, g.IsProper := fun g hg => hproper g (List.mem_cons_of_mem _ hg)
    rw [settle?_cons g rest hleft] at h
    rcases hsettle : settle? rest left with - | ⟨kept', target'⟩
    · -- the first group gives up its value, and all behind it goes to the target
      rw [hsettle] at h
      cases hvalue : g.value with
      | none => simp [hvalue] at h
      | some value =>
        rw [hvalue] at h
        cases h
        refine ⟨?_, by simp [text, hvalue, targetText]⟩
        intro other hother
        rw [List.mem_singleton.1 hother]
        exact ⟨hfirst.key_ne_nil, hfirst.key_plain, by simp⟩
    · rw [hsettle] at h
      cases h
      rcases ih hrest hsettle with ⟨hkept, htext⟩
      refine ⟨?_, by simp [htext]⟩
      intro other hother
      rcases List.mem_cons.1 hother with rfl | hother
      · exact hfirst
      · exact hkept other hother

/-- What is left behind the groups of a text at a separator is at a separator. -/
theorem atSeparator_readAll {s : List Char} (h : AtSeparator s) : AtSeparator (readAll s).2 := by
  induction s using readAll.induct with
  | case1 s hnone => simpa [readAll_of_none hnone] using h
  | case2 s g rest hsome groups left hrest ih =>
    rw [readAll_of_some hsome]
    exact ih (readOne?_eq_some hsome).2.2.1

/-- What becomes of a text at a separator. -/
def settleText? (s : List Char) : Option (List Group × Option (List Char)) :=
  settle? (readAll s).1 (readAll s).2

/-- The groups that are kept of a text and the target are the text. -/
theorem settleText?_spec {s : List Char} (hs : AtSeparator s) {kept : List Group}
    {target : Option (List Char)} (h : settleText? s = some (kept, target)) :
    (∀ g ∈ kept, g.IsProper) ∧ textOf kept ++ targetText target = s := by
  rcases readAll_spec s with ⟨hproper, htext⟩
  rcases textOf_settle? hproper (atSeparator_readAll hs) h with ⟨hkept, hsettled⟩
  exact ⟨hkept, hsettled.trans htext⟩

/-- What becomes of a text that starts with a group. -/
theorem settleText?_of_some {s rest : List Char} {g : Group} (h : readOne? s = some (g, rest)) :
    settleText? s =
      match settleText? rest, g.value with
      | some (kept, target), _ => some (g :: kept, target)
      | none, some value => some ([⟨g.key, none⟩], some (value ++ rest))
      | none, none => none := by
  have hrest := (readOne?_eq_some h).2.2.1
  rw [settleText?, readAll_of_some h, settle?_cons g _ (atSeparator_readAll hrest), settleText?]
  rcases settle? (readAll rest).1 (readAll rest).2 with - | ⟨kept, target⟩
  · cases g.value with
    | none => rfl
    | some value => simp [List.append_assoc, (readAll_spec rest).2]
  · rfl

@[simp] theorem settleText?_nil : settleText? [] = some ([], none) := by
  simp [settleText?, settle?]

@[simp] theorem settleText?_equals (s : List Char) :
    settleText? ('=' :: s) = some ([], some s) := by
  simp [settleText?, settle?]

/-- A semicolon that starts no group makes a text unfit. -/
theorem settleText?_of_none {s : List Char} (h : readOne? (';' :: s) = none) :
    settleText? (';' :: s) = none := by
  simp [settleText?, readAll_of_none h, settle?_semicolon, tearLast?]

end Group

/-! ## Lines that do not fit -/

/-- A semicolon without a key: one behind another, or one at the end. -/
def Dangles (s : List Char) : Prop :=
  [';', ';'] <:+: s ∨ [';'] <:+ s

theorem dangles_cons (c : Char) (s : List Char) :
    Dangles (c :: s) ↔ (c = ';' ∧ (s = [] ∨ ∃ rest, s = ';' :: rest)) ∨ Dangles s := by
  simp only [Dangles, List.infix_cons_iff, List.suffix_cons_iff, List.cons_prefix_cons]
  constructor
  · rintro ((⟨hc, hs⟩ | hinfix) | (heq | hsuffix))
    · rcases hs with ⟨rest, rfl⟩
      exact .inl ⟨hc.symm, .inr ⟨rest, rfl⟩⟩
    · exact .inr (.inl hinfix)
    · cases heq
      exact .inl ⟨rfl, .inl rfl⟩
    · exact .inr (.inr hsuffix)
  · rintro (⟨rfl, rfl | ⟨rest, rfl⟩⟩ | hinfix | hsuffix)
    · exact .inr (.inl rfl)
    · exact .inl (.inl ⟨rfl, rest, rfl⟩)
    · exact .inl (.inr hinfix)
    · exact .inr (.inr hsuffix)

theorem not_dangles_nil : ¬ Dangles [] := by
  simp [Dangles]

/-- Plain text in front leaves no semicolon without a key, and takes none away. -/
theorem dangles_append {s : List Char} (hs : PlainText s) (t : List Char) :
    Dangles (s ++ t) ↔ Dangles t := by
  induction s with
  | nil => rfl
  | cons c rest ih =>
    have hc : c ≠ ';' := by
      rintro rfl
      exact hs.semicolon_notMem List.mem_cons_self
    rw [List.cons_append, dangles_cons, ih fun d hd => hs d (List.mem_cons_of_mem c hd)]
    simp [hc]

/-- The part of a text before its first equals sign. -/
def lead (s : List Char) : List Char :=
  s.takeWhile (· != '=')

@[simp] theorem lead_equals (s : List Char) : lead ('=' :: s) = [] :=
  rfl

theorem lead_append {s : List Char} (hs : '=' ∉ s) (t : List Char) :
    lead (s ++ t) = s ++ lead t := by
  refine List.takeWhile_append_of_pos ?_
  intro c hc
  have hne : c ≠ '=' := fun h => hs (h ▸ hc)
  simpa using hne

namespace Group

/-- Text at a separator is unfit just if a semicolon without a key stands before its first equals
sign. -/
theorem settleText?_eq_none_iff {s : List Char} (hs : AtSeparator s) :
    settleText? s = none ↔ Dangles (lead s) := by
  induction s using readAll.induct with
  | case1 s hnone =>
    rcases hs.cases with rfl | ⟨rest, rfl⟩ | ⟨rest, rfl⟩
    · exact iff_of_false (by simp) not_dangles_nil
    · -- what follows the semicolon is no key, so it is the end or another separator
      refine iff_of_true (settleText?_of_none hnone) ?_
      rw [← List.singleton_append, lead_append (by decide), List.singleton_append, dangles_cons]
      refine .inl ⟨rfl, ?_⟩
      rcases ((readOne?_eq_none_iff rest).1 hnone).cases with rfl | ⟨more, rfl⟩ | ⟨more, rfl⟩
      · exact .inl rfl
      · exact .inr ⟨lead more, rfl⟩
      · exact .inl rfl
    · exact iff_of_false (by simp) not_dangles_nil
  | case2 s g rest hsome groups left hrest ih =>
    rcases readOne?_eq_some hsome with ⟨hproper, htext, hat, hequals⟩
    -- the key of the group keeps its semicolon from the next one
    have hkey : ∀ t, Dangles (';' :: (g.key ++ t)) ↔ Dangles t := by
      intro t
      rw [dangles_cons, dangles_append hproper.key_plain]
      rcases List.exists_cons_of_ne_nil hproper.key_ne_nil with ⟨c, more, hcons⟩
      have hc : c ≠ ';' := by
        rintro rfl
        exact hproper.key_plain.semicolon_notMem (hcons ▸ List.mem_cons_self)
      simp [hcons, hc]
    have hsemicolon : '=' ∉ ';' :: g.key := by
      simpa using hproper.key_plain.equals_notMem
    rw [settleText?_of_some hsome, htext]
    cases hvalue : g.value with
    | none =>
      have hlead : lead (g.text ++ rest) = ';' :: (g.key ++ lead rest) := by
        rw [text, hvalue, List.append_nil, lead_append hsemicolon, List.cons_append]
      rw [hlead, hkey, ← ih hat]
      rcases settleText? rest with - | ⟨kept, target⟩ <;> simp
    | some value =>
      -- the equals sign of the value comes first
      have hlead : lead (g.text ++ rest) = ';' :: (g.key ++ []) := by
        rw [text, hvalue, List.append_assoc, lead_append hsemicolon, List.cons_append]
        rfl
      rw [hlead, hkey]
      refine iff_of_false ?_ not_dangles_nil
      rcases settleText? rest with - | ⟨kept, target⟩ <;> simp

end Group

namespace Command

/-- A line that does not fit: it does not open with an equals sign, and a semicolon without a key
stands before its first one. -/
def Misfit (line : List Char) : Prop :=
  (∀ rest, stripStart line ≠ '=' :: rest) ∧ Dangles (lead line)

end Command

/-! ## The front of a line -/

namespace Action

/-- The keyword of an action, if there is one. -/
def word : Option Action → List Char
  | none => []
  | some action => action.keyword

theorem keyword_plain (action : Action) : PlainText action.keyword := by
  refine .of_all ?_
  cases action <;> rfl

theorem word_plain (action? : Option Action) : PlainText (word action?) := by
  cases action? with
  | none => exact .nil
  | some action => exact action.keyword_plain

theorem dropLead?_eq_some {lead s rest : List Char} :
    dropLead? lead s = some rest ↔ s = lead ++ rest := by
  induction lead generalizing s with
  | nil => simp [dropLead?, eq_comm]
  | cons c lead ih =>
    cases s with
    | nil => simp [dropLead?]
    | cons d s =>
      rw [dropLead?]
      split
      case isTrue hcd => simp [hcd, ih]
      case isFalse hcd => simp [Ne.symm hcd]

/-- An action is read off its keyword, which ends at a blank or a semicolon. -/
theorem readAmong_spec (actions : List Action) (s : List Char) :
    s = word (readAmong actions s).1 ++ (readAmong actions s).2 ∧
      ∀ action, (readAmong actions s).1 = some action →
        action ∈ actions ∧ endsKeyword (readAmong actions s).2 = true := by
  induction actions with
  | nil => exact ⟨rfl, by simp [readAmong]⟩
  | cons first actions ih =>
    have hrest : ∀ action, (readAmong actions s).1 = some action →
        action ∈ first :: actions ∧ endsKeyword (readAmong actions s).2 = true := by
      intro action haction
      rcases ih.2 action haction with ⟨hmem, hends⟩
      exact ⟨List.mem_cons_of_mem first hmem, hends⟩
    rw [readAmong]
    cases hlead : dropLead? first.keyword s with
    | none => exact ⟨ih.1, hrest⟩
    | some rest =>
      simp only
      split
      case isTrue hends =>
        refine ⟨dropLead?_eq_some.1 hlead, ?_⟩
        intro action haction
        cases haction
        exact ⟨List.mem_cons_self, hends⟩
      case isFalse => exact ⟨ih.1, hrest⟩

end Action

namespace Command

/-- How the text of a line up to its parameters is cut: a keyword that ends at a blank or a
semicolon, at most one blank, and plain arguments. -/
structure Front (action : Option Action) (blank args rest : List Char) : Prop where
  readable : ∀ a, action = some a → a ∈ Action.readable
  ends : ∀ a, action = some a → Action.endsKeyword (blank ++ args ++ rest) = true
  blank_le_one : blank = [] ∨ ∃ c, blank = [c] ∧ isBlank c = true
  args_plain : PlainText args
  atSeparator : AtSeparator rest

theorem Front.plain {action : Option Action} {blank args rest : List Char}
    (h : Front action blank args rest) : PlainText (Action.word action ++ blank ++ args) := by
  have hblank : PlainText blank := by
    rcases h.blank_le_one with rfl | ⟨c, rfl, hc⟩
    · exact .nil
    · exact .of_isBlank (by simpa using hc)
  exact ((Action.word_plain action).append hblank).append h.args_plain

theorem dropBlank_spec (s : List Char) :
    ∃ blank, s = blank ++ dropBlank s ∧ (blank = [] ∨ ∃ c, blank = [c] ∧ isBlank c = true) := by
  cases s with
  | nil => exact ⟨[], rfl, .inl rfl⟩
  | cons c rest =>
    rw [dropBlank]
    split
    case isTrue hc => exact ⟨[c], rfl, .inr ⟨c, rfl, hc⟩⟩
    case isFalse => exact ⟨[], rfl, .inl rfl⟩

/-- What is left of a line that has an equals sign at its start, and of one that has none. -/
def body (line : List Char) : List Char :=
  (dropOpening (stripStart line)).2

/-- Whether a line has an equals sign at its start. -/
def isOpened (line : List Char) : Bool :=
  (dropOpening (stripStart line)).1

theorem isOpened_cases (line : List Char) :
    (isOpened line = true ∧ stripStart line = '=' :: body line) ∨
      (isOpened line = false ∧ stripStart line = body line ∧
        ∀ rest, stripStart line ≠ '=' :: rest) := by
  unfold isOpened body
  rcases hstrip : stripStart line with - | ⟨c, rest⟩
  · exact .inr ⟨rfl, rfl, by simp⟩
  · by_cases hc : c = '='
    · subst hc
      exact .inl ⟨rfl, rfl⟩
    · have hopening : dropOpening (c :: rest) = (false, c :: rest) := by
        unfold dropOpening
        split
        case h_1 heq => exact absurd (List.cons.inj heq).1 hc
        case h_2 => rfl
      rw [hopening]
      exact .inr ⟨rfl, rfl, by simp [hc]⟩

/-- The arguments at the start of what stands behind the keyword of a text, and the rest. -/
def cutArgs (s : List Char) : List Char × List Char :=
  ((dropBlank (Action.read s).2).takeWhile isPlainChar,
    (dropBlank (Action.read s).2).dropWhile isPlainChar)

/-- The command of a line whose text behind the arguments fits or not. -/
def settled (opened : Bool) (body : List Char) (action : Option Action) (args : List Char) :
    Option (List Group × Option (List Char)) → Command
  | some (kept, target) => ⟨action, args, Group.textOf kept, target⟩
  | none => if opened then ⟨none, [], [], some body⟩ else empty

theorem finish_eq_settled (opened : Bool) (body : List Char) (action : Option Action)
    (args : List Char) (groups : List Group) (left : List Char) :
    finish opened body action args groups left =
      settled opened body action args (Group.settle? groups left) := by
  unfold finish
  split
  case h_1 => rfl
  case h_2 => rfl
  case h_3 hnil hequals =>
    rw [Group.settle?_of_left groups hnil hequals]
    rcases Group.tearLast? groups with - | ⟨kept, tail⟩ <;> rfl

/-- What becomes of the text behind the arguments decides about the command of a line. -/
theorem parse_eq_settled (line : List Char) :
    parse line = settled (isOpened line) (body line) (Action.read (body line)).1
      (cutArgs (body line)).1 (Group.settleText? (cutArgs (body line)).2) :=
  finish_eq_settled _ _ _ _ _ _

/-- A text is cut at its keyword, at one blank and at the end of its arguments. -/
theorem front_of_cutArgs (s : List Char) :
    ∃ blank, Front (Action.read s).1 blank (cutArgs s).1 (cutArgs s).2 ∧
      s = Action.word (Action.read s).1 ++ blank ++ (cutArgs s).1 ++ (cutArgs s).2 := by
  rcases Action.readAmong_spec Action.readable s with ⟨hword, haction⟩
  rcases dropBlank_spec (Action.read s).2 with ⟨blank, hblank, hone⟩
  have hcut : (cutArgs s).1 ++ (cutArgs s).2 = dropBlank (Action.read s).2 :=
    List.takeWhile_append_dropWhile
  refine ⟨blank, ⟨fun a ha => (haction a ha).1, ?_, hone, .takeWhile _,
    atSeparator_dropWhile _⟩, ?_⟩
  · intro a ha
    rw [List.append_assoc, hcut, ← hblank]
    exact (haction a ha).2
  · calc
      s = Action.word (Action.read s).1 ++ (Action.read s).2 := hword
      _ = Action.word (Action.read s).1 ++ (blank ++ dropBlank (Action.read s).2) := by
        rw [← hblank]
      _ = _ := by simp [← hcut]

/-! ## What a line is made of -/

/-- The parts that a command was read from, one behind the other, are all of the line. -/
structure Parts (line : List Char) (c : Command) : Prop where
  whole : ∃ blanks opening blank,
    line = blanks ++ opening ++ Action.word c.action ++ blank ++ c.args ++ c.params ++
      Group.targetText c.target ∧
    (∀ b ∈ blanks, isBlank b = true) ∧
    (opening = [] ∨ opening = ['=']) ∧
    (blank = [] ∨ ∃ b, blank = [b] ∧ isBlank b = true) ∧
    ∀ a, c.action = some a →
      a ∈ Action.readable ∧
        Action.endsKeyword (blank ++ c.args ++ c.params ++ Group.targetText c.target) = true
  args_plain : PlainText c.args
  params_groups : ∃ groups, c.params = Group.textOf groups ∧ ∀ g ∈ groups, g.IsProper

theorem line_eq (line : List Char) : line = line.takeWhile isBlank ++ stripStart line :=
  List.takeWhile_append_dropWhile.symm

theorem blanks_of_line (line : List Char) : ∀ b ∈ line.takeWhile isBlank, isBlank b = true :=
  List.all_eq_true.1 List.all_takeWhile

/-- A line does not fit just if it is not opened and the text behind its arguments does not. -/
theorem misfit_iff (line : List Char) :
    Misfit line ↔ isOpened line = false ∧ Group.settleText? (cutArgs (body line)).2 = none := by
  rcases isOpened_cases line with ⟨hopened, hstrip⟩ | ⟨hopened, hstrip, hne⟩
  · refine iff_of_false (fun h => h.1 _ hstrip) ?_
    simp [hopened]
  · rcases front_of_cutArgs (body line) with ⟨blank, hfront, hbody⟩
    have hplain := (PlainText.of_isBlank (blanks_of_line line)).append hfront.plain
    have hline : line = line.takeWhile isBlank ++ (Action.word (Action.read (body line)).1 ++
        blank ++ (cutArgs (body line)).1) ++ (cutArgs (body line)).2 := by
      rw [List.append_assoc, ← hbody, ← hstrip]
      exact line_eq line
    -- all in front of the parameters is plain, so semicolons are those behind the arguments
    have hlead : Dangles (lead line) ↔ Dangles (lead (cutArgs (body line)).2) := by
      rw [hline, lead_append hplain.equals_notMem, dangles_append hplain, ← hline]
    rw [Group.settleText?_eq_none_iff hfront.atSeparator, ← hlead]
    exact ⟨fun h => ⟨hopened, h.2⟩, fun h => ⟨hne, h.2⟩⟩

/-- What a line is made of if the text behind its arguments fits. -/
theorem parts_of_settled {line : List Char} {kept : List Group} {target : Option (List Char)}
    (hsettle : Group.settleText? (cutArgs (body line)).2 = some (kept, target)) :
    Parts line (parse line) := by
  rcases front_of_cutArgs (body line) with ⟨blank, hfront, hbody⟩
  rcases Group.settleText?_spec hfront.atSeparator hsettle with ⟨hproper, htext⟩
  rw [parse_eq_settled, hsettle, settled]
  have hends : ∀ a, (Action.read (body line)).1 = some a → a ∈ Action.readable ∧
      Action.endsKeyword (blank ++ (cutArgs (body line)).1 ++ Group.textOf kept ++
        Group.targetText target) = true := by
    intro a ha
    rw [List.append_assoc _ (Group.textOf kept), htext]
    exact ⟨hfront.readable a ha, hfront.ends a ha⟩
  have hwhole : Action.word (Action.read (body line)).1 ++ (blank ++ ((cutArgs (body line)).1 ++
      (Group.textOf kept ++ Group.targetText target))) = body line := by
    rw [htext]
    simpa using hbody.symm
  refine ⟨?_, hfront.args_plain, kept, rfl, hproper⟩
  rcases isOpened_cases line with ⟨-, hstrip⟩ | ⟨-, hstrip, -⟩
  · refine ⟨line.takeWhile isBlank, ['='], blank, ?_, blanks_of_line line, .inr rfl,
      hfront.blank_le_one, hends⟩
    calc
      line = line.takeWhile isBlank ++ '=' :: body line := hstrip ▸ line_eq line
      _ = _ := by simp [hwhole]
  · refine ⟨line.takeWhile isBlank, [], blank, ?_, blanks_of_line line, .inl rfl,
      hfront.blank_le_one, hends⟩
    calc
      line = line.takeWhile isBlank ++ body line := hstrip ▸ line_eq line
      _ = _ := by simp [hwhole]

/-- A line that does not fit gives the empty command. -/
theorem parse_of_misfit {line : List Char} (h : Misfit line) : parse line = empty := by
  rcases (misfit_iff line).1 h with ⟨hopened, hsettle⟩
  rw [parse_eq_settled, hsettle, settled, hopened]
  rfl

/-- Every line that fits is all accounted for. -/
theorem parts_of_fits {line : List Char} (h : ¬ Misfit line) : Parts line (parse line) := by
  cases hsettle : Group.settleText? (cutArgs (body line)).2 with
  | some settled => exact parts_of_settled hsettle
  | none =>
    rcases isOpened_cases line with ⟨hopened, hstrip⟩ | ⟨hopened, -, -⟩
    · -- all of an opened line is target
      rw [parse_eq_settled, hsettle, settled, hopened]
      refine ⟨⟨line.takeWhile isBlank, [], [], ?_, blanks_of_line line, .inl rfl, .inl rfl,
        by simp⟩, .nil, [], rfl, by simp⟩
      simpa [Action.word, Group.targetText, ← hstrip] using line_eq line
    · exact absurd ((misfit_iff line).2 ⟨hopened, hsettle⟩) h

end Command
end Switchboard
