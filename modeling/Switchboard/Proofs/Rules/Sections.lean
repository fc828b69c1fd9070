import Switchboard.Proofs.Entries
import Switchboard.Proofs.Rules.LineKinds

/-!
# Sections of a text

Every line of a rules file that counts is a line of the section of the last header before it, as it
stands and in order (`Sections.linesOf_parse`); only lines before the first header are lost, and
each is warned about (`Sections.events_parse`). There are no other sections than that of
installations and those of the headers (`Sections.keys_parse`).

Sections can be written with one header each. They are read back as they are, whatever they were
cut from (`Sections.parse_written`): what was a line of a section is no header and no comment, and
it has no line breaks.
-/

namespace Switchboard

open Text

/-! ## Lines -/

namespace Text

/-- Lines as a text, each with a line feed behind it. -/
def unlines (ls : List (List Char)) : List Char :=
  ls.flatMap (· ++ ['\n'])

/-- The text has no line breaks. -/
def IsOneLine (s : List Char) : Prop :=
  ∀ c ∈ s, isLineBreak c = false

theorem linesFrom_cons_of_not_isLineBreak {c : Char} (h : isLineBreak c = false)
    (pending rest : List Char) : linesFrom pending (c :: rest) = linesFrom (c :: pending) rest := by
  have hreturn : ∀ more, c = '\r' → rest = '\n' :: more → False := by
    rintro more rfl -
    exact absurd h (by decide)
  rw [linesFrom.eq_3 pending c rest hreturn, h]
  simp

theorem linesFrom_append {s : List Char} (h : IsOneLine s) (pending rest : List Char) :
    linesFrom pending (s ++ '\n' :: rest) = (pending.reverse ++ s) :: linesFrom [] rest := by
  induction s generalizing pending with
  | nil =>
    have hfeed : isLineBreak '\n' = true := by decide
    rw [List.nil_append, linesFrom.eq_3 pending '\n' rest (by simp), hfeed]
    simp
  | cons c more ih =>
    rw [List.cons_append, linesFrom_cons_of_not_isLineBreak (h c List.mem_cons_self),
      ih fun d hd => h d (List.mem_cons_of_mem c hd)]
    simp

theorem lines_unlines {ls : List (List Char)} (h : ∀ line ∈ ls, IsOneLine line) :
    lines (unlines ls) = ls := by
  induction ls with
  | nil => rfl
  | cons line rest ih =>
    have hrest := ih fun other hother => h other (List.mem_cons_of_mem line hother)
    calc
      lines (unlines (line :: rest)) = linesFrom [] (line ++ '\n' :: unlines rest) := by
        simp [lines, unlines]
      _ = line :: lines (unlines rest) := linesFrom_append (h line List.mem_cons_self) [] _
      _ = line :: rest := by rw [hrest]

theorem isOneLine_of_mem_linesFrom {pending s : List Char} (h : IsOneLine pending) :
    ∀ line ∈ linesFrom pending s, IsOneLine line := by
  have hreverse : ∀ {t : List Char}, IsOneLine t → IsOneLine t.reverse :=
    fun ht c hc => ht c (List.mem_reverse.1 hc)
  have hnil : IsOneLine [] := fun c hc => by cases hc
  fun_induction linesFrom pending s with
  | case1 pending hempty => exact List.forall_mem_nil _
  | case2 pending hopen =>
    rw [List.forall_mem_singleton]
    exact hreverse h
  | case3 pending rest ih => exact List.forall_mem_cons.2 ⟨hreverse h, ih hnil⟩
  | case4 pending c rest hreturn hbreak ih => exact List.forall_mem_cons.2 ⟨hreverse h, ih hnil⟩
  | case5 pending c rest hreturn hchar ih =>
    exact ih (List.forall_mem_cons.2 ⟨by simpa using hchar, h⟩)

theorem isOneLine_of_mem_lines {text line : List Char} (h : line ∈ lines text) :
    IsOneLine line :=
  isOneLine_of_mem_linesFrom (fun _ hc => by cases hc) line h

end Text

namespace Sections

/-! ## Where a line belongs -/

/-- The names of the headers among lines. -/
def headerNames (ls : List (List Char)) : List String :=
  ls.filterMap fun line =>
    match LineKind.ofLine line with
    | .header name => some name
    | _ => none

/-- The section at a place: that of the last header before it. -/
def sectionAt? (ls : List (List Char)) (place : Nat) : Option String :=
  (headerNames (ls.take place)).getLast?

/-- The lines behind others that are no headers, are not skipped and belong to a section, or to
none, with their places. -/
def contentFrom (before rest : List (List Char)) (current : Option String) :
    List (List Char × Nat) :=
  (rest.zipIdx before.length).filter fun (line, place) =>
    LineKind.ofLine line = .content ∧ sectionAt? (before ++ rest) place = current

/-- The lines of a section. -/
def contentOf (ls : List (List Char)) (name : String) : List (List Char) :=
  (contentFrom [] ls (some name)).map (·.1)

/-- The warnings about the lines that count and have no header before them. -/
def strayWarnings (ls : List (List Char)) : List Event :=
  (contentFrom [] ls none).map fun (line, place) => strayWarning (place + 1) line

theorem headerNames_concat (ls : List (List Char)) (line : List Char) :
    headerNames (ls ++ [line]) = headerNames ls ++
      match LineKind.ofLine line with
      | .header name => [name]
      | _ => [] := by
  rw [headerNames, List.filterMap_append, headerNames]
  cases hkind : LineKind.ofLine line <;> simp [hkind]

theorem linesOf_opened (sections : Sections) (name other : String) :
    (opened name sections).linesOf other = sections.linesOf other := by
  unfold opened
  split
  case isTrue => rfl
  case isFalse hnew =>
    by_cases hother : other = name
    · have hnone : sections.get? name = none := by simpa [Entries.has] using hnew
      rw [hother, linesOf, Entries.get?_set_self, linesOf, hnone]
      rfl
    · rw [linesOf, Entries.get?_set_of_ne hother, linesOf]

theorem linesOf_append (sections : Sections) (name other : String) (line : List Char) :
    (append name line sections).linesOf other =
      if other = name then sections.linesOf name ++ [line] else sections.linesOf other := by
  by_cases hother : other = name
  · rw [if_pos hother, hother, linesOf, append, Entries.get?_set_self]
    rfl
  · rw [if_neg hother, linesOf, append, Entries.get?_set_of_ne hother, linesOf]

/-- A line that counts belongs to the section of the last header before it. -/
theorem contentFrom_cons (before rest : List (List Char)) (line : List Char)
    (current : Option String) :
    contentFrom before (line :: rest) current =
      if LineKind.ofLine line = .content ∧ (headerNames before).getLast? = current then
        (line, before.length) :: contentFrom (before ++ [line]) rest current
      else contentFrom (before ++ [line]) rest current := by
  have hplace : sectionAt? (before ++ line :: rest) before.length =
      (headerNames before).getLast? := by
    rw [sectionAt?, List.take_left]
  have hsplit : before ++ [line] ++ rest = before ++ line :: rest := by simp
  simp only [contentFrom, List.zipIdx_cons, List.filter_cons, hplace, hsplit, List.length_append,
    List.length_singleton, decide_eq_true_eq]

/-- Lines behind others go behind what is there of their sections, or are warned about. -/
theorem sortLines_contentFrom (before rest : List (List Char)) (sections : Sections) :
    (∀ name, (sortLines (before.length + 1) (headerNames before).getLast? sections rest).1.linesOf
        name = sections.linesOf name ++ (contentFrom before rest (some name)).map (·.1)) ∧
      (sortLines (before.length + 1) (headerNames before).getLast? sections rest).2 =
        (contentFrom before rest none).map fun (line, place) => strayWarning (place + 1) line := by
  induction rest generalizing before sections with
  | nil => simp [sortLines, contentFrom]
  | cons line rest ih =>
    -- the line is one of those before, for the lines behind it
    have hnext := ih (before ++ [line])
    simp only [headerNames_concat, List.length_append, List.length_singleton] at hnext
    simp only [contentFrom_cons]
    cases hkind : LineKind.ofLine line with
    | header n =>
      simp only [hkind, List.getLast?_append, List.getLast?_singleton, Option.some_or] at hnext
      simpa [sortLines, hkind, linesOf_opened] using hnext (opened n sections)
    | skipped =>
      simp only [hkind, List.append_nil] at hnext
      simpa [sortLines, hkind] using hnext sections
    | content =>
      simp only [hkind, List.append_nil] at hnext
      cases hlast : (headerNames before).getLast? with
      | none =>
        -- no header has been seen, so the line belongs nowhere
        rw [hlast] at hnext
        simpa [sortLines, hkind] using hnext sections
      | some n =>
        rw [hlast] at hnext
        rcases hnext (append n line sections) with ⟨hlines, hevents⟩
        refine ⟨fun name => ?_, by simpa [sortLines, hkind] using hevents⟩
        have hname := hlines name
        rw [linesOf_append] at hname
        by_cases heq : name = n
        · subst heq
          simpa [sortLines, hkind] using hname
        · simpa [sortLines, hkind, heq, Ne.symm heq] using hname

/-- The lines of a section are those that count and have its header as the last one before them. -/
theorem linesOf_parse (text : List Char) (name : String) :
    (parse text).1.linesOf name = contentOf (lines text) name := by
  have hall := (sortLines_contentFrom [] (lines text) initial).1 name
  have hinitial : initial.linesOf name = [] := by
    by_cases hname : installSection = name <;> simp [linesOf, initial, Entries.get?, hname]
  rw [hinitial, List.nil_append] at hall
  exact hall

/-- Those before the first header are all that is lost, and each is warned about. -/
theorem events_parse (text : List Char) : (parse text).2 = strayWarnings (lines text) :=
  (sortLines_contentFrom [] (lines text) initial).2

/-! ## Names of sections -/

theorem keys_opened (sections : Sections) (name : String) :
    (opened name sections).keys =
      if name ∈ sections.keys then sections.keys else sections.keys ++ [name] := by
  unfold opened
  by_cases hmem : name ∈ sections.keys
  · rw [if_pos (Entries.has_eq_true_iff.2 hmem), if_pos hmem]
  · rw [if_neg fun hhas => hmem (Entries.has_eq_true_iff.1 hhas), if_neg hmem, Entries.keys_set,
      if_neg hmem]

theorem nodup_keys_opened {sections : Sections} (h : sections.keys.Nodup) (name : String) :
    (opened name sections).keys.Nodup := by
  rw [keys_opened]
  split
  case isTrue => exact h
  case isFalse hnew =>
    refine List.nodup_append.2 ⟨h, List.pairwise_singleton _ _, ?_⟩
    rintro other hother _ hname rfl
    rw [List.mem_singleton.1 hname] at hother
    exact hnew hother

theorem eraseDups_of_nodup {names : List String} (h : names.Nodup) : names.eraseDups = names := by
  induction names with
  | nil => rfl
  | cons name rest ih =>
    rw [List.nodup_cons] at h
    have hkept : rest.filter (fun other => !other == name) = rest := by
      rw [List.filter_eq_self]
      rintro other hother
      have hne : other ≠ name := by
        rintro rfl
        exact h.1 hother
      simp [hne]
    rw [List.eraseDups_cons, hkept, ih h.2]

/-- The names of headers come behind those that are there, each when it is first seen. -/
theorem keys_sortLines (ls : List (List Char)) (number : Nat) (current : Option String)
    (sections : Sections) (hcurrent : ∀ name, current = some name → name ∈ sections.keys)
    (hnodup : sections.keys.Nodup) :
    (sortLines number current sections ls).1.keys = (sections.keys ++ headerNames ls).eraseDups ∧
      (sortLines number current sections ls).1.keys.Nodup := by
  induction ls generalizing number current sections with
  | nil => simp [sortLines, headerNames, eraseDups_of_nodup hnodup, hnodup]
  | cons line rest ih =>
    cases hkind : LineKind.ofLine line with
    | header n =>
      -- the section that is opened is there for the lines behind the header
      have hopened : ∀ name, some n = some name → name ∈ (opened n sections).keys := by
        rintro name ⟨⟩
        rw [keys_opened]
        split
        case isTrue hmem => exact hmem
        case isFalse => simp
      have hrest := ih (number + 1) (some n) (opened n sections) hopened
        (nodup_keys_opened hnodup n)
      have hnames : ((opened n sections).keys ++ headerNames rest).eraseDups =
          (sections.keys ++ headerNames (line :: rest)).eraseDups := by
        have hcons : headerNames (line :: rest) = n :: headerNames rest := by
          simp [headerNames, hkind]
        rw [hcons, keys_opened]
        split
        case isTrue hmem => simp [List.eraseDups_append, List.cons_removeAll, hmem]
        case isFalse => rw [List.append_assoc, List.singleton_append]
      simp only [sortLines, hkind]
      rw [← hnames]
      exact hrest
    | skipped =>
      have hcons : headerNames (line :: rest) = headerNames rest := by simp [headerNames, hkind]
      simp only [sortLines, hkind]
      rw [hcons]
      exact ih (number + 1) current sections hcurrent hnodup
    | content =>
      have hcons : headerNames (line :: rest) = headerNames rest := by simp [headerNames, hkind]
      rw [hcons]
      cases current with
      | none =>
        simp only [sortLines, hkind]
        exact ih (number + 1) none sections hcurrent hnodup
      | some n =>
        -- the section is there, so a line more makes no new one
        have hkeys : (append n line sections).keys = sections.keys := by
          rw [append, Entries.keys_set, if_pos (hcurrent n rfl)]
        have hrest := ih (number + 1) (some n) (append n line sections)
        rw [hkeys] at hrest
        simp only [sortLines, hkind]
        exact hrest hcurrent hnodup

/-- The section of installations comes first, then those of the headers when they are first seen. -/
theorem keys_parse (text : List Char) :
    (parse text).1.keys = (installSection :: headerNames (lines text)).eraseDups ∧
      (parse text).1.keys.Nodup :=
  keys_sortLines (lines text) 1 none initial (by simp) (by simp [initial, Entries.keys])

/-! ## Writing sections -/

/-- A section under its header. -/
def block : String × List (List Char) → List (List Char)
  | (name, ls) => ('[' :: (name.toList ++ [']'])) :: ls

/-- The text of sections. -/
def written (sections : Sections) : List Char :=
  unlines (sections.flatMap block)

/-- Sections that are read back as they are. -/
structure IsSettled (sections : Sections) : Prop where
  head : sections.keys.head? = some installSection
  nodup : sections.keys.Nodup
  names : ∀ name ∈ sections.keys, IsName name.toList
  content : ∀ entry ∈ sections, ∀ line ∈ entry.2, LineKind.ofLine line = .content
  oneLine : ∀ entry ∈ sections, ∀ line ∈ entry.2, IsOneLine line

theorem isName_of_mem_headerNames {ls : List (List Char)} {name : String}
    (h : name ∈ headerNames ls) : IsName name.toList := by
  rw [headerNames, List.mem_filterMap] at h
  rcases h with ⟨line, -, hline⟩
  cases hkind : LineKind.ofLine line with
  | header n =>
    simp only [hkind, Option.some.injEq] at hline
    rcases LineKind.headerName?_eq_some_iff.1 (LineKind.ofLine_eq_header_iff.1 hkind) with
      ⟨chars, rest, hchars, -, hn⟩
    rw [← hline, hn, String.toList_ofList]
    exact hchars
  | skipped => simp [hkind] at hline
  | content => simp [hkind] at hline

theorem mem_contentOf {ls : List (List Char)} {name : String} {line : List Char}
    (h : line ∈ contentOf ls name) : line ∈ ls ∧ LineKind.ofLine line = .content := by
  rw [contentOf, List.mem_map] at h
  rcases h with ⟨⟨other, place⟩, hmem, rfl⟩
  rw [contentFrom, List.mem_filter] at hmem
  have hkind : LineKind.ofLine other = .content ∧ sectionAt? ls place = some name := by
    simpa using hmem.2
  exact ⟨List.fst_mem_of_mem_zipIdx hmem.1, hkind.1⟩

theorem mem_parse {text : List Char} {entry : String × List (List Char)}
    (h : entry ∈ (parse text).1) : entry.2 = contentOf (lines text) entry.1 := by
  have hentry := Entries.get?_of_mem (keys_parse text).2 h
  rw [← linesOf_parse, linesOf, hentry]
  rfl

/-- A line of a section is in its entry. -/
theorem exists_of_mem_contentOf {text : List Char} {name : String} {line : List Char}
    (h : line ∈ contentOf (lines text) name) : ∃ ls, (name, ls) ∈ (parse text).1 ∧ line ∈ ls := by
  rw [← linesOf_parse, linesOf] at h
  cases hentry : (parse text).1.get? name with
  | none => simp [hentry] at h
  | some ls => exact ⟨ls, Entries.mem_of_get? hentry, by simpa [hentry] using h⟩

theorem isSettled_parse (text : List Char) : IsSettled (parse text).1 := by
  rcases keys_parse text with ⟨hkeys, hnodup⟩
  refine ⟨?_, hnodup, ?_, ?_, ?_⟩
  · rw [hkeys, List.eraseDups_cons]
    rfl
  · intro name hname
    rw [hkeys, List.mem_eraseDups, List.mem_cons] at hname
    rcases hname with rfl | hheader
    · exact ⟨by decide, List.all_eq_true.1 (by decide)⟩
    · exact isName_of_mem_headerNames hheader
  · intro entry hentry line hline
    rw [mem_parse hentry] at hline
    exact (mem_contentOf hline).2
  · intro entry hentry line hline
    rw [mem_parse hentry] at hline
    exact isOneLine_of_mem_lines (mem_contentOf hline).1

/-! ## Reading back -/

/-- Lines that count go behind those of the last section. -/
theorem sortLines_content {name : String} {done : Sections} (hnew : name ∉ done.keys)
    {ls : List (List Char)} (hcontent : ∀ line ∈ ls, LineKind.ofLine line = .content)
    (number : Nat) (old rest : List (List Char)) :
    sortLines number (some name) (done ++ [(name, old)]) (ls ++ rest) =
      sortLines (number + ls.length) (some name) (done ++ [(name, old ++ ls)]) rest := by
  induction ls generalizing number old with
  | nil => simp
  | cons line more ih =>
    have hkind := hcontent line List.mem_cons_self
    have hmore := ih (fun other hother => hcontent other (List.mem_cons_of_mem line hother))
      (number + 1) (old ++ [line])
    have happend : append name line (done ++ [(name, old)]) = done ++ [(name, old ++ [line])] := by
      rw [append, Entries.set_append_of_not_mem hnew, linesOf,
        Entries.get?_append_of_not_mem hnew]
      simp [Entries.get?, Entries.set]
    simp only [List.cons_append, sortLines, hkind]
    rw [happend, hmore, List.append_assoc, List.singleton_append, List.length_cons,
      Nat.add_assoc, Nat.add_comm 1]

theorem ofLine_header {name : String} (h : IsName name.toList) :
    LineKind.ofLine ('[' :: (name.toList ++ [']'])) = .header name := by
  rw [LineKind.ofLine_bracketed_iff.2 h, String.ofList_toList]

/-- Sections go behind those that are there. -/
theorem sortLines_blocks {done more : Sections} (hnodup : (done ++ more).keys.Nodup)
    (hnames : ∀ name ∈ more.keys, IsName name.toList)
    (hcontent : ∀ entry ∈ more, ∀ line ∈ entry.2, LineKind.ofLine line = .content)
    (number : Nat) (current : Option String) :
    sortLines number current done (more.flatMap block) = (done ++ more, []) := by
  induction more generalizing done number current with
  | nil => simp [sortLines]
  | cons entry rest ih =>
    rcases entry with ⟨name, ls⟩
    -- no earlier section has the name, so the header opens a section at the end
    have hnew : name ∉ done.keys := by
      intro hmem
      rw [Entries.keys, List.map_append, List.map_cons, List.nodup_append] at hnodup
      exact hnodup.2.2 name hmem name List.mem_cons_self rfl
    have hopened : opened name done = done ++ [(name, [])] := by
      rw [opened, if_neg fun hhas => hnew (Entries.has_eq_true_iff.1 hhas)]
      have hset := Entries.set_append_of_not_mem hnew ([] : List (List Char)) []
      rwa [List.append_nil] at hset
    have hkind := ofLine_header (hnames name List.mem_cons_self)
    have hls := hcontent (name, ls) List.mem_cons_self
    have hassoc : (done ++ [(name, ls)]) ++ rest = done ++ (name, ls) :: rest := by simp
    have hrest : ∀ number, sortLines number (some name) (done ++ [(name, ls)])
        (rest.flatMap block) = (done ++ (name, ls) :: rest, []) := by
      intro number
      rw [← hassoc]
      refine ih ?_ ?_ ?_ number (some name)
      · rwa [hassoc]
      · exact fun other hother => hnames other (List.mem_cons_of_mem name hother)
      · exact fun other hother => hcontent other (List.mem_cons_of_mem (name, ls) hother)
    calc
      sortLines number current done (((name, ls) :: rest).flatMap block)
        = sortLines (number + 1) (some name) (opened name done) (ls ++ rest.flatMap block) := by
          simp only [List.flatMap_cons, block, List.cons_append, sortLines, hkind]
      _ = sortLines (number + 1 + ls.length) (some name) (done ++ [(name, ls)])
            (rest.flatMap block) := by
          rw [hopened, sortLines_content hnew hls, List.nil_append]
      _ = (done ++ (name, ls) :: rest, []) := hrest _

/-- What is written is read back as it was. -/
theorem parse_written {sections : Sections} (h : IsSettled sections) :
    parse (written sections) = (sections, []) := by
  have hlines : lines (written sections) = sections.flatMap block := by
    refine lines_unlines fun line hline => ?_
    rcases List.mem_flatMap.1 hline with ⟨⟨name, ls⟩, hentry, hmem⟩
    rcases List.mem_cons.1 hmem with rfl | hls
    · have hname := h.names name (List.mem_map.2 ⟨(name, ls), hentry, rfl⟩)
      intro c hc
      rw [List.mem_cons, List.mem_append, List.mem_singleton] at hc
      rcases hc with rfl | hc | rfl
      · decide
      · exact isLineBreak_of_isNameChar (hname.chars c hc)
      · decide
    · exact h.oneLine (name, ls) hentry line hls
  cases hsections : sections with
  | nil => simpa [hsections, Entries.keys] using h.head
  | cons entry rest =>
    rcases entry with ⟨name, ls⟩
    subst hsections
    have hname : name = installSection := by simpa [Entries.keys] using h.head
    subst hname
    have hopened : opened installSection initial = [] ++ [(installSection, [])] := by decide
    have hkind := ofLine_header (h.names installSection (by simp [Entries.keys]))
    have hls := h.content (installSection, ls) List.mem_cons_self
    -- the first section is there before any header, so it is opened once more
    calc
      parse (written ((installSection, ls) :: rest))
        = sortLines 2 (some installSection) (opened installSection initial)
            (ls ++ rest.flatMap block) := by
          simp only [parse, hlines, List.flatMap_cons, block, List.cons_append, sortLines, hkind]
      _ = sortLines (2 + ls.length) (some installSection) ([] ++ [(installSection, ls)])
            (rest.flatMap block) := by
          rw [hopened, sortLines_content (by simp [Entries.keys]) hls]
          rfl
      _ = ((installSection, ls) :: rest, []) := by
          refine sortLines_blocks h.nodup ?_ ?_ _ _
          · exact fun name hname => h.names name (List.mem_cons_of_mem _ hname)
          · exact fun entry hentry => h.content entry (List.mem_cons_of_mem _ hentry)

/-- The sections of a text, by the patterns of headers and of lines that do not count: their names
in the order of the first headers, their lines, what is warned about; and writing them with one
header each loses nothing. -/
theorem parse_is_normal_form (text : List Char) :
    (∃ header skip,
      Pattern.Compiled.ofText LineKind.headerSource = .ok header ∧
      Pattern.Compiled.ofText LineKind.skipSource = .ok skip ∧
      ∀ line, LineKind.ofLine line = LineKind.bySearch header skip line) ∧
    (parse text).1.keys = (installSection :: headerNames (lines text)).eraseDups ∧
    (∀ name, (parse text).1.linesOf name = contentOf (lines text) name) ∧
    (parse text).2 = strayWarnings (lines text) ∧
    parse (written (parse text).1) = ((parse text).1, []) := by
  refine ⟨?_, (keys_parse text).1, linesOf_parse text, events_parse text, ?_⟩
  · exact ⟨LineKind.headerPattern, LineKind.skipPattern, LineKind.ofText_headerSource,
      LineKind.ofText_skipSource, LineKind.ofLine_eq_bySearch⟩
  · exact parse_written (isSettled_parse text)

end Sections
end Switchboard
