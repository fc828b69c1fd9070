import Switchboard.Yaml.Write

/-!
# Characters of written documents

A document is written with line feeds and printable ASCII characters alone
(`Yaml.isSimpleText_document`): a scalar that holds any other character is put in double quotes,
with an escape in its place. So a document is the same for a reader that takes the line breaks of
other systems as line feeds.
-/

namespace Switchboard
namespace Yaml

open Text

/-! ## Simple texts -/

/-- A text of line feeds and printable ASCII characters. -/
def IsSimpleText (s : List Char) : Prop :=
  ∀ c ∈ s, isSimple c = true

namespace IsSimpleText

theorem nil : IsSimpleText [] := by
  intro c h
  cases h

theorem append {s t : List Char} (hs : IsSimpleText s) (ht : IsSimpleText t) :
    IsSimpleText (s ++ t) := by
  intro c h
  exact (List.mem_append.1 h).elim (hs c) (ht c)

theorem cons {c : Char} {s : List Char} (hc : isSimple c = true) (hs : IsSimpleText s) :
    IsSimpleText (c :: s) := by
  intro d h
  rcases List.mem_cons.1 h with rfl | hmem
  · exact hc
  · exact hs d hmem

theorem reverse {s : List Char} (hs : IsSimpleText s) : IsSimpleText s.reverse := by
  intro c h
  exact hs c (List.mem_reverse.1 h)

theorem replicate (n : Nat) {c : Char} (hc : isSimple c = true) :
    IsSimpleText (List.replicate n c) := by
  intro d h
  rwa [List.eq_of_mem_replicate h]

end IsSimpleText

/-! ## Simple sheets -/

namespace Sheet

/-- What is written on the sheet is simple. -/
def IsSimple (sheet : Sheet) : Prop :=
  IsSimpleText sheet.written

namespace IsSimple

variable {sheet : Sheet} {s : List Char}

theorem empty : Sheet.empty.IsSimple := IsSimpleText.nil

theorem put (h : sheet.IsSimple) (hs : IsSimpleText s) : (sheet.put s).IsSimple :=
  hs.reverse.append h

theorem breakLine (h : sheet.IsSimple) : sheet.breakLine.IsSimple :=
  IsSimpleText.cons (by decide) h

theorem breakLines (h : sheet.IsSimple) (breaks : List Unit) :
    (breaks.foldl (fun sheet _ => sheet.breakLine) sheet).IsSimple := by
  induction breaks generalizing sheet with
  | nil => exact h
  | cons _ rest ih => exact ih h.breakLine

theorem indentTo (h : sheet.IsSimple) (indent : Nat) : (sheet.indentTo indent).IsSimple := by
  unfold Sheet.indentTo
  extract_lets fresh
  have hfresh : fresh.IsSimple := by
    unfold fresh
    split
    · exact h.breakLine
    · exact h
  split
  · exact hfresh.put (.replicate _ (by decide))
  · exact hfresh

theorem inWord (h : sheet.IsSimple) : sheet.inWord.IsSimple := h

/-- A sign is written as it is, or behind a space. -/
theorem put_spaced (h : sheet.IsSimple) (hs : IsSimpleText s) :
    (sheet.put (if sheet.isSpaced then s else ' ' :: s)).IsSimple := by
  refine h.put ?_
  split
  · exact hs
  · exact hs.cons (by decide)

theorem sign (h : sheet.IsSimple) (hs : IsSimpleText s) : (sheet.sign s).IsSimple :=
  h.put_spaced hs

theorem leadSign (h : sheet.IsSimple) (hs : IsSimpleText s) : (sheet.leadSign s).IsSimple :=
  h.put_spaced hs

theorem closeSign (h : sheet.IsSimple) (hs : IsSimpleText s) : (sheet.closeSign s).IsSimple :=
  h.put hs

end IsSimple
end Sheet

/-! ## Scalars -/

/-- The runs of a text put together are the text. -/
theorem flatten_runsOf (s : List Char) : (runsOf s).flatten = s := by
  induction s with
  | nil => rfl
  | cons c rest ih =>
    unfold runsOf
    split
    case h_1 hruns =>
      rw [hruns] at ih
      rw [← ih]
      rfl
    case h_2 runs hruns =>
      rw [hruns] at ih
      rw [← ih]
      rfl
    case h_3 d run runs hruns =>
      rw [hruns] at ih
      split <;> rw [← ih] <;> rfl

theorem isSimpleText_of_mem_runsOf {s run : List Char} (hs : IsSimpleText s)
    (h : run ∈ runsOf s) : IsSimpleText run := by
  intro c hc
  refine hs c ?_
  rw [← flatten_runsOf s]
  exact List.mem_flatten.2 ⟨run, h, hc⟩

section

variable {sheet : Sheet} {indent : Nat} {split : Bool}

theorem isSimple_plainRuns {runs : List (List Char)} (hruns : ∀ run ∈ runs, IsSimpleText run)
    (h : sheet.IsSimple) : (plainRuns indent split runs sheet).IsSimple := by
  induction runs generalizing sheet with
  | nil => exact h
  | cons run rest ih =>
    refine ih (fun other hother => hruns other (List.mem_cons_of_mem _ hother)) ?_
    split
    · exact (h.indentTo indent).inWord
    · exact h.put (hruns run List.mem_cons_self)

theorem isSimpleText_doubleQuotes {s : List Char} (h : IsSimpleText s) :
    IsSimpleText (doubleQuotes s) := by
  intro c hc
  obtain ⟨d, hd, hcd⟩ := List.mem_flatMap.1 hc
  split at hcd
  · have hquote : c = '\'' := by simpa using hcd
    rw [hquote]
    decide
  · rw [List.mem_singleton.1 hcd]
    exact h d hd

theorem isSimple_quotedRuns {runs : List (List Char)} (hruns : ∀ run ∈ runs, IsSimpleText run)
    (isFirst : Bool) (h : sheet.IsSimple) :
    (quotedRuns indent split isFirst runs sheet).IsSimple := by
  induction runs generalizing sheet isFirst with
  | nil => exact h
  | cons run rest ih =>
    refine ih (fun other hother => hruns other (List.mem_cons_of_mem _ hother)) false ?_
    split
    · exact (h.breakLine.breakLines _).indentTo indent
    · split
      · exact h.indentTo indent
      · exact h.put (isSimpleText_doubleQuotes (hruns run List.mem_cons_self))

theorem isSimpleText_hexText (width n : Nat) : IsSimpleText (hexText hexDigit width n) := by
  induction width generalizing n with
  | zero => exact .nil
  | succ width ih =>
    have hdigits : ∀ k : Fin 16, isSimple (hexDigit k) = true := by decide
    refine (ih (n / 16)).append ?_
    exact .cons (hdigits ⟨n % 16, Nat.mod_lt n (by decide)⟩) .nil

theorem isSimple_of_escapeLetter? {c letter : Char} (h : escapeLetter? c = some letter) :
    isSimple letter = true := by
  unfold escapeLetter? at h
  split at h <;> cases h <;> decide

theorem isSimpleText_of_escapeOf? {c : Char} {escape : List Char} (h : escapeOf? c = some escape) :
    IsSimpleText escape := by
  simp only [escapeOf?] at h
  split at h
  case isTrue => cases h
  case isFalse =>
    split at h
    case h_1 letter hletter =>
      cases h
      exact .cons (by decide) (.cons (isSimple_of_escapeLetter? hletter) .nil)
    case h_2 =>
      -- the number of hexadecimal digits depends on the character
      split at h
      · cases h
        exact .cons (by decide) (.cons (by decide) (isSimpleText_hexText 2 _))
      · split at h <;> cases h
        · exact .cons (by decide) (.cons (by decide) (isSimpleText_hexText 4 _))
        · exact .cons (by decide) (.cons (by decide) (isSimpleText_hexText 8 _))

/-- A character that needs no escape is simple. -/
theorem isSimple_of_escapeOf?_eq_none {c : Char} (h : escapeOf? c = none) : isSimple c = true := by
  simp only [escapeOf?] at h
  split at h
  case isTrue hrange =>
    simp only [Bool.and_eq_true, decide_eq_true_eq] at hrange
    simp [isSimple, hrange.1.1.1, hrange.1.1.2]
  case isFalse =>
    split at h
    · cases h
    · split at h
      · cases h
      · split at h <;> cases h

theorem isSimple_breakEscaped (h : sheet.IsSimple) (next : Option Char) :
    (breakEscaped indent next sheet).IsSimple := by
  have hfresh : ((sheet.put ['\\']).indentTo indent).inWord.IsSimple :=
    ((h.put (.cons (by decide) .nil)).indentTo indent).inWord
  unfold breakEscaped
  extract_lets fresh
  split
  · exact hfresh.put (.cons (by decide) .nil)
  · exact hfresh

theorem isSimple_escapedChars (isFirst afterEscape : Bool) (s : List Char) (h : sheet.IsSimple) :
    (escapedChars indent split isFirst afterEscape s sheet).IsSimple := by
  induction s generalizing sheet isFirst afterEscape with
  | nil => exact h
  | cons c rest ih =>
    unfold escapedChars
    extract_lets mayBreak
    split
    case h_1 escape hescape =>
      have hput : (sheet.put escape).IsSimple := h.put (isSimpleText_of_escapeOf? hescape)
      refine ih _ _ ?_
      split
      · exact isSimple_breakEscaped hput _
      · exact hput
    case h_2 broken _ hnone =>
      refine ih _ _ (Sheet.IsSimple.put ?_ (.cons (isSimple_of_escapeOf?_eq_none hnone) .nil))
      unfold broken
      split
      · exact isSimple_breakEscaped h _
      · exact h

/-- A text that can be written in single quotes is simple. -/
theorem isSimpleText_of_isQuotable {s : List Char} (h : (Looks.ofText s).isQuotable = true) :
    IsSimpleText s := by
  simp only [Looks.ofText, Bool.and_eq_true, List.all_eq_true] at h
  exact h.1.1

theorem isQuotable_of_isPlain {s : List Char} (h : (Looks.ofText s).isPlain = true) :
    (Looks.ofText s).isQuotable = true := by
  simp only [Looks.ofText, Bool.and_eq_true] at h ⊢
  exact h.1.1.1

theorem isSimple_writeScalar (isSimpleKey : Bool) (kind : Kind) (s : List Char)
    (h : sheet.IsSimple) : (writeScalar indent isSimpleKey kind s sheet).IsSimple := by
  have hquote : IsSimpleText ['\''] := .cons (by decide) .nil
  have hquotes : IsSimpleText ['"'] := .cons (by decide) .nil
  unfold writeScalar
  extract_lets looks split
  split
  case isTrue hplain =>
    have hs := isSimpleText_of_isQuotable (isQuotable_of_isPlain (Bool.and_eq_true_iff.1 hplain).2)
    exact isSimple_plainRuns (fun _ => isSimpleText_of_mem_runsOf hs) (h.sign .nil)
  case isFalse =>
    split
    case isTrue hquotable =>
      have hs := isSimpleText_of_isQuotable (Bool.and_eq_true_iff.1 hquotable).1
      exact (isSimple_quotedRuns (fun _ => isSimpleText_of_mem_runsOf hs) true
        (h.sign hquote)).closeSign hquote
    case isFalse =>
      exact (isSimple_escapedChars true false s (h.sign hquotes)).closeSign hquotes

end

/-! ## Documents -/

mutual

theorem isSimple_writeValue (indent : Nat) (inMapping isSimpleKey : Bool) (value : Value)
    {sheet : Sheet} (h : sheet.IsSimple) :
    (writeValue indent inMapping isSimpleKey value sheet).IsSimple := by
  match value with
  | .list [] =>
    rw [writeValue]
    exact (h.sign (.cons (by decide) .nil)).closeSign (.cons (by decide) .nil)
  | .list (item :: items) =>
    rw [writeValue]
    exact isSimple_writeItems _ (item :: items) h
  | .dict [] =>
    rw [writeValue]
    exact (h.sign (.cons (by decide) .nil)).closeSign (.cons (by decide) .nil)
  | .dict (entry :: entries) =>
    rw [writeValue]
    exact isSimple_writeEntries _ (entry :: entries) h
  | .none | .bool _ | .int _ | .float _ | .text _ | .calendar _ =>
    exact isSimple_writeScalar _ _ _ h

theorem isSimple_writeItems (indent : Nat) (items : List Value) {sheet : Sheet}
    (h : sheet.IsSimple) : (writeItems indent items sheet).IsSimple := by
  match items with
  | [] => exact h
  | item :: items =>
    rw [writeItems]
    have hdash : IsSimpleText ['-'] := .cons (by decide) .nil
    exact isSimple_writeItems _ items
      (isSimple_writeValue _ _ _ item ((h.indentTo indent).leadSign hdash))

theorem isSimple_writeEntries (indent : Nat) (entries : List (Value × Value)) {sheet : Sheet}
    (h : sheet.IsSimple) : (writeEntries indent entries sheet).IsSimple := by
  match entries with
  | [] => exact h
  | (key, value) :: entries =>
    have hcolon : IsSimpleText [':'] := .cons (by decide) .nil
    have hquestion : IsSimpleText ['?'] := .cons (by decide) .nil
    have hstart := h.indentTo indent
    rw [writeEntries]
    refine isSimple_writeEntries _ entries (isSimple_writeValue _ _ _ value ?_)
    split
    · exact (isSimple_writeValue _ _ _ key hstart).closeSign hcolon
    · exact ((isSimple_writeValue _ _ _ key (hstart.leadSign hquestion)).indentTo indent).leadSign
        hcolon

end

/-- A document is written with line feeds and printable ASCII characters. -/
theorem isSimpleText_document (entries : List (Value × Value)) :
    IsSimpleText (document entries) := by
  unfold document
  split
  · exact .cons (by decide) (.cons (by decide) (.cons (by decide) .nil))
  · exact ((isSimple_writeEntries 0 entries .empty).indentTo 0).reverse

theorem carriageReturn_not_mem_document (entries : List (Value × Value)) :
    '\r' ∉ document entries := by
  intro h
  exact absurd (isSimpleText_document entries _ h) (by decide)

end Yaml
end Switchboard
