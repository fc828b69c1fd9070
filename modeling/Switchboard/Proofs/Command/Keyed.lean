import Mathlib.Data.List.Forall2
import Switchboard.Command
import Switchboard.Proofs.Entries
import Switchboard.Proofs.Template.Captures
import Switchboard.Proofs.Template.Pieces
import Switchboard.Proofs.Value.Writable

/-!
# Texts whose parameters have known keys

The parameters of a command are text until they are read: captures are filled in before the line is
parsed, and placeholders before the parameters are cut at their semicolons. `Keyed` is what all
these stages preserve of a text as long as nothing with a semicolon is put in: behind every
semicolon stands one of some keys with an equals sign. So the names that are read in the end are
these keys (`key_of_mem_parameters`).
-/

namespace Switchboard

open Text

/-! ## Keys -/

/-- A key that no stage takes for anything else: it is not empty and has no character with a meaning
in lines, templates, captures or percent coding. -/
structure IsPlainKey (key : List Char) : Prop where
  ne_nil : key ≠ []
  dollar : '$' ∉ key
  backslash : '\\' ∉ key
  percent : '%' ∉ key
  plus : '+' ∉ key
  semicolon : ';' ∉ key
  equals : '=' ∉ key

/-- Behind every semicolon stands one of the keys with an equals sign. -/
def Keyed (keys : List (List Char)) (s : List Char) : Prop :=
  ∀ before behind, s = before ++ ';' :: behind →
    ∃ key ∈ keys, ∃ rest, behind = key ++ '=' :: rest

/-- What stands at the start of a text stands before a character that it does not have. -/
theorem exists_append_of_not_mem {c : Char} {s t lead rest : List Char} (hc : c ∉ lead)
    (h : s ++ c :: t = lead ++ rest) : ∃ r, s = lead ++ r := by
  rcases List.append_eq_append_iff.1 h with ⟨more, hlead, hmore⟩ | ⟨r, hs, -⟩
  · cases more with
    | nil => exact ⟨[], by simpa using hlead.symm⟩
    | cons d more =>
      have hd : c = d := (List.cons.inj hmore).1
      simp [hlead, hd] at hc
  · exact ⟨r, hs⟩

namespace Keyed

variable {keys : List (List Char)} {s t : List Char}

theorem of_not_mem (h : ';' ∉ s) : Keyed keys s := by
  intro before behind hs
  simp [hs] at h

theorem append (hs : Keyed keys s) (ht : Keyed keys t) : Keyed keys (s ++ t) := by
  intro before behind happend
  rcases List.append_eq_append_iff.1 happend with ⟨more, -, hmore⟩ | ⟨more, hbefore, hmore⟩
  · exact ht more behind hmore
  · cases more with
    | nil => exact ht [] behind hmore.symm
    | cons c more =>
      -- the semicolon is one of the first text, and so is the key behind it
      rcases List.cons.inj hmore with ⟨rfl, hbehind⟩
      rcases hs before more hbefore with ⟨key, hkey, rest, rfl⟩
      exact ⟨key, hkey, rest ++ t, by simp [hbehind]⟩

theorem suffix (h : Keyed keys (s ++ t)) : Keyed keys t := by
  intro before behind ht
  exact h (s ++ before) behind (by simp [ht])

theorem before_dollar (hkeys : ∀ key ∈ keys, IsPlainKey key) (h : Keyed keys (s ++ '$' :: t)) :
    Keyed keys s := by
  intro before behind hs
  rcases h before (behind ++ '$' :: t) (by simp [hs]) with ⟨key, hkey, rest, hrest⟩
  have hlead : '$' ∉ key ++ ['='] := by
    simpa using (hkeys key hkey).dollar
  have hlong : behind ++ '$' :: t = (key ++ ['=']) ++ rest := by simp [hrest]
  rcases exists_append_of_not_mem hlead hlong with ⟨r, hr⟩
  exact ⟨key, hkey, r, by simpa using hr⟩

theorem group {key value : List Char} (hkey : key ∈ keys) (hplain : IsPlainKey key)
    (hvalue : ';' ∉ value) : Keyed keys (';' :: key ++ '=' :: value) := by
  intro before behind hgroup
  cases before with
  | nil => exact ⟨key, hkey, value, by simpa using hgroup.symm⟩
  | cons c before =>
    -- there is no other semicolon
    have hrest : key ++ '=' :: value = before ++ ';' :: behind := (List.cons.inj hgroup).2
    have hmem : ';' ∈ key ++ '=' :: value := by simp [hrest]
    simp [hplain.semicolon, hvalue] at hmem

end Keyed

/-- The text of parameters with values. -/
def parametersText : List (List Char × List Char) → List Char
  | [] => []
  | (key, value) :: rest => ';' :: key ++ '=' :: (value ++ parametersText rest)

/-! ## Captures -/

/-- Arguments and parameters are filled in one by one, and the keys stay as they are. -/
theorem fillCaptures_parametersText {found : Pattern.Match}
    {pairs : List (List Char × List Char)} (hpairs : ∀ pair ∈ pairs, IsPlainKey pair.1)
    {args filled : List Char} (h : fillCaptures found (args ++ parametersText pairs) = .ok filled) :
    ∃ args' pairs', filled = args' ++ parametersText pairs' ∧ fillCaptures found args = .ok args' ∧
      List.Forall₂ (fun pair pair' => pair'.1 = pair.1 ∧ fillCaptures found pair.2 = .ok pair'.2)
        pairs pairs' := by
  induction pairs generalizing args filled with
  | nil =>
    rw [parametersText, List.append_nil] at h
    exact ⟨filled, [], by simp [parametersText], h, .nil⟩
  | cons pair rest ih =>
    rcases pair with ⟨key, value⟩
    have hplain := hpairs (key, value) List.mem_cons_self
    -- the semicolon and the equals sign cut the text into the arguments, the key and the rest
    rcases fillCaptures_append_ok (by decide) (by decide) h with ⟨before, behind, hargs, hbehind, rfl⟩
    rcases fillCaptures_append_ok (by decide) (by decide) hbehind with
      ⟨key', tail, hkey, htail, rfl⟩
    have hsame : key' = key := by
      rw [fillCaptures_of_not_mem found hplain.backslash] at hkey
      exact (Except.ok.inj hkey).symm
    rcases ih (fun pair hpair => hpairs pair (List.mem_cons_of_mem _ hpair)) htail with
      ⟨value', pairs', rfl, hvalue, hrest⟩
    refine ⟨before, (key, value') :: pairs', ?_, hargs, .cons ⟨rfl, hvalue⟩ hrest⟩
    rw [hsame]
    rfl

/-- Captures put no semicolon into the parts of a text: whatever the groups of the match hold, the
parts have none once they are filled in. -/
def CapturesNoSemicolon (found : Pattern.Match) (parts : List (List Char)) : Prop :=
  ∀ part ∈ parts, ∀ filled, fillCaptures found part = .ok filled → ';' ∉ filled

/-- Parameters whose values have no semicolons have their own keys. -/
theorem keyed_parametersText {keys : List (List Char)} {pairs : List (List Char × List Char)}
    {args : List Char} (hpairs : ∀ pair ∈ pairs, IsPlainKey pair.1 ∧ pair.1 ∈ keys)
    (hargs : ';' ∉ args) (hvalues : ∀ pair ∈ pairs, ';' ∉ pair.2) :
    Keyed keys (args ++ parametersText pairs) := by
  induction pairs generalizing args with
  | nil =>
    rw [parametersText, List.append_nil]
    exact .of_not_mem hargs
  | cons pair rest ih =>
    rcases pair with ⟨key, value⟩
    rcases hpairs (key, value) List.mem_cons_self with ⟨hplain, hkey⟩
    have hgroup : Keyed keys (';' :: key ++ '=' :: []) := .group hkey hplain List.not_mem_nil
    have hrest : Keyed keys (value ++ parametersText rest) :=
      ih (fun pair hpair => hpairs pair (List.mem_cons_of_mem _ hpair))
        (hvalues (key, value) List.mem_cons_self)
        (fun pair hpair => hvalues pair (List.mem_cons_of_mem _ hpair))
    have hall := (Keyed.of_not_mem hargs).append (hgroup.append hrest)
    simpa [parametersText] using hall

/-- Captures without a semicolon leave the keys of parameters where they are. -/
theorem Keyed.of_fillCaptures {keys : List (List Char)} {found : Pattern.Match}
    {pairs : List (List Char × List Char)} {args filled : List Char}
    (hpairs : ∀ pair ∈ pairs, IsPlainKey pair.1 ∧ pair.1 ∈ keys)
    (hclean : CapturesNoSemicolon found (args :: pairs.map (·.2)))
    (h : fillCaptures found (args ++ parametersText pairs) = .ok filled) : Keyed keys filled := by
  rcases fillCaptures_parametersText (fun pair hpair => (hpairs pair hpair).1) h with
    ⟨args', pairs', rfl, hargs, hfilled⟩
  have hparts : ∀ pair' ∈ pairs', ∃ pair ∈ pairs, pair'.1 = pair.1 ∧
      fillCaptures found pair.2 = .ok pair'.2 := by
    intro pair' hpair'
    rcases List.getElem_of_mem hpair' with ⟨i, hi, rfl⟩
    have hlength := hfilled.length_eq
    have hi' : i < pairs.length := by omega
    exact ⟨pairs[i], List.getElem_mem hi', hfilled.get hi' hi⟩
  refine keyed_parametersText ?_ (hclean args List.mem_cons_self args' hargs) ?_
  · intro pair' hpair'
    rcases hparts pair' hpair' with ⟨pair, hpair, hkey, -⟩
    rw [hkey]
    exact hpairs pair hpair
  · intro pair' hpair'
    rcases hparts pair' hpair' with ⟨pair, hpair, -, hvalue⟩
    exact hclean pair.2 (List.mem_cons_of_mem _ (List.mem_map_of_mem hpair)) pair'.2 hvalue

/-! ## Parsing -/

/-- What follows is nothing, or starts with a semicolon or an equals sign. -/
def AtSeparator (s : List Char) : Prop :=
  ∀ c rest, s = c :: rest → isPlainChar c = false

theorem atSeparator_dropWhile (s : List Char) : AtSeparator (s.dropWhile isPlainChar) := by
  intro c rest h
  have hhead := List.head?_dropWhile_not isPlainChar s
  simpa [h] using hhead

theorem AtSeparator.cases {s : List Char} (h : AtSeparator s) :
    s = [] ∨ (∃ rest, s = ';' :: rest) ∨ ∃ rest, s = '=' :: rest := by
  cases s with
  | nil => exact .inl rfl
  | cons c rest =>
    have hc := h c rest rfl
    simp only [isPlainChar, Bool.and_eq_false_iff, bne_eq_false_iff_eq] at hc
    rcases hc with rfl | rfl
    · exact .inr (.inl ⟨rest, rfl⟩)
    · exact .inr (.inr ⟨rest, rfl⟩)

/-- A known key behind a semicolon is read as such, with the value up to the next separator. -/
theorem readOne?_of_isPlainKey {key : List Char} (hplain : IsPlainKey key) (rest : List Char) :
    Group.readOne? (';' :: (key ++ '=' :: rest)) =
      some (⟨key, some (rest.takeWhile isPlainChar)⟩, rest.dropWhile isPlainChar) := by
  have hchars : ∀ c ∈ key, isPlainChar c = true := by
    intro c hc
    have hsemicolon : c ≠ ';' := fun h => hplain.semicolon (h ▸ hc)
    have hequals : c ≠ '=' := fun h => hplain.equals (h ▸ hc)
    simp [isPlainChar, hsemicolon, hequals]
  have htake : (key ++ '=' :: rest).takeWhile isPlainChar = key := by
    rw [List.takeWhile_append_of_pos hchars, List.takeWhile_cons_of_neg (by decide),
      List.append_nil]
  have hdrop : (key ++ '=' :: rest).dropWhile isPlainChar = '=' :: rest := by
    rw [List.dropWhile_append_of_pos hchars, List.dropWhile_cons_of_neg (by decide)]
  simp [Group.readOne?, htake, hdrop, Group.readValue, hplain.ne_nil]

theorem semicolon_notMem_takeWhile (s : List Char) : ';' ∉ s.takeWhile isPlainChar := by
  intro hmem
  have hplain := List.all_eq_true.1 List.all_takeWhile _ hmem
  simp [isPlainChar] at hplain

/-- Text with known keys at a separator has groups with these keys and with values, and then
nothing, or an equals sign. -/
theorem readAll_keyed {keys : List (List Char)} (hkeys : ∀ key ∈ keys, IsPlainKey key)
    {s : List Char} (hs : Keyed keys s) (hat : AtSeparator s) :
    (∀ g ∈ (Group.readAll s).1, g.key ∈ keys ∧ ∃ value, g.value = some value ∧ ';' ∉ value) ∧
    ((Group.readAll s).2 = [] ∨ ∃ target, (Group.readAll s).2 = '=' :: target) := by
  induction s using Group.readAll.induct with
  | case1 s hnone =>
    have hread : Group.readAll s = ([], s) := by
      rw [Group.readAll]
      split
      · rfl
      · simp_all
    rw [hread]
    refine ⟨by simp, ?_⟩
    rcases hat.cases with rfl | ⟨rest, rfl⟩ | ⟨rest, rfl⟩
    · exact .inl rfl
    · -- a semicolon starts a group
      rcases hs [] rest rfl with ⟨key, hkey, more, rfl⟩
      simp [readOne?_of_isPlainKey (hkeys key hkey)] at hnone
    · exact .inr ⟨rest, rfl⟩
  | case2 s g rest hsome groups left hrest ih =>
    have hread : Group.readAll s = (g :: (Group.readAll rest).1, (Group.readAll rest).2) := by
      rw [Group.readAll]
      split
      · simp_all
      · simp_all
    rw [hread]
    rcases hat.cases with rfl | ⟨body, rfl⟩ | ⟨body, rfl⟩
    · simp [Group.readOne?] at hsome
    · rcases hs [] body rfl with ⟨key, hkey, more, rfl⟩
      rw [readOne?_of_isPlainKey (hkeys key hkey)] at hsome
      cases hsome
      have hmore : Keyed keys (more.dropWhile isPlainChar) := by
        have hsplit : ';' :: (key ++ '=' :: more) =
            (';' :: key ++ '=' :: more.takeWhile isPlainChar) ++ more.dropWhile isPlainChar := by
          simp [List.takeWhile_append_dropWhile]
        rw [hsplit] at hs
        exact hs.suffix
      rcases ih hmore (atSeparator_dropWhile more) with ⟨hgroups, hleft⟩
      refine ⟨?_, hleft⟩
      intro g hg
      rcases List.mem_cons.1 hg with rfl | hg
      · exact ⟨hkey, _, rfl, semicolon_notMem_takeWhile more⟩
      · exact hgroups g hg
    · simp [Group.readOne?] at hsome

/-- The text of groups with known keys and with values has these keys. -/
theorem Keyed.textOf {keys : List (List Char)} (hkeys : ∀ key ∈ keys, IsPlainKey key)
    {groups : List Group}
    (h : ∀ g ∈ groups, g.key ∈ keys ∧ ∃ value, g.value = some value ∧ ';' ∉ value) :
    Keyed keys (Group.textOf groups) ∧
      (Group.textOf groups = [] ∨ ∃ rest, Group.textOf groups = ';' :: rest) := by
  induction groups with
  | nil => exact ⟨.of_not_mem (by simp [Group.textOf]), .inl rfl⟩
  | cons g rest ih =>
    rcases h g List.mem_cons_self with ⟨hkey, value, hvalue, hsemicolon⟩
    have htext : Group.textOf (g :: rest) =
        (';' :: g.key ++ '=' :: value) ++ Group.textOf rest := by
      simp [Group.textOf, Group.text, hvalue]
    have hrest := (ih fun g hg => h g (List.mem_cons_of_mem _ hg)).1
    rw [htext]
    exact ⟨(Keyed.group hkey (hkeys g.key hkey) hsemicolon).append hrest, .inr ⟨_, rfl⟩⟩

/-- A line that starts with the keyword of an answer is one, and its parameters have the keys that
the line has. -/
theorem parse_answer_keyed {keys : List (List Char)} (hkeys : ∀ key ∈ keys, IsPlainKey key)
    {s : List Char} (hends : Action.endsKeyword s = true) (hs : Keyed keys s) :
    (Command.parse (Action.answer.keyword ++ s)).action = some .answer ∧
    Keyed keys (Command.parse (Action.answer.keyword ++ s)).params ∧
    ((Command.parse (Action.answer.keyword ++ s)).params = [] ∨
      ∃ rest, (Command.parse (Action.answer.keyword ++ s)).params = ';' :: rest) := by
  have hread : Action.read (Action.answer.keyword ++ s) = (some .answer, s) := by
    simp [Action.read, Action.readable, Action.readAmong, Action.keyword, dropLead?, hends]
  have hopening : Command.dropOpening (stripStart (Action.answer.keyword ++ s)) =
      (false, Action.answer.keyword ++ s) := by
    simp [Action.keyword, stripStart, isBlank, Command.dropOpening]
  -- what is left for the groups is an end of the text
  have hbody : Keyed keys ((Command.dropBlank s).dropWhile isPlainChar) := by
    have hblank : ∃ lead, s = lead ++ Command.dropBlank s := by
      cases s with
      | nil => exact ⟨[], rfl⟩
      | cons c rest =>
        rw [Command.dropBlank]
        split
        · exact ⟨[c], rfl⟩
        · exact ⟨[], rfl⟩
    rcases hblank with ⟨lead, hlead⟩
    rw [hlead, ← List.takeWhile_append_dropWhile (p := isPlainChar) (l := Command.dropBlank s),
      ← List.append_assoc] at hs
    exact hs.suffix
  rcases readAll_keyed hkeys hbody (atSeparator_dropWhile _) with ⟨hgroups, hleft⟩
  have hparse : ∃ args target?, Command.parse (Action.answer.keyword ++ s) =
      ⟨some .answer, args, Group.textOf
        (Group.readAll ((Command.dropBlank s).dropWhile isPlainChar)).1, target?⟩ := by
    rcases hleft with hleft | ⟨target, hleft⟩
    · exact ⟨(Command.dropBlank s).takeWhile isPlainChar, none,
        by simp [Command.parse, hopening, hread, hleft, Command.finish]⟩
    · exact ⟨(Command.dropBlank s).takeWhile isPlainChar, some target,
        by simp [Command.parse, hopening, hread, hleft, Command.finish]⟩
  rcases hparse with ⟨args, target?, hparse⟩
  rw [hparse]
  exact ⟨rfl, Keyed.textOf hkeys hgroups⟩

/-! ## Segments -/

/-- What a scan cuts out as text has known keys if all of the template has. A piece of text ends
before a dollar sign, and so never within a key. -/
theorem keyed_of_mem_scan {keys : List (List Char)} (hkeys : ∀ key ∈ keys, IsPlainKey key)
    {text : List Char} (literal : List Char) (pending : Option (Placeholder × List Char))
    (s : List Char) (hs : Keyed keys (literal.reverse ++ (openText pending ++ s)))
    (htext : .literal text ∈ Segment.scan literal pending s) : Keyed keys text := by
  induction literal, pending, s using Segment.scan_induction with
  | nil literal =>
    rw [Segment.scan_nil] at htext
    rw [mem_ofLiteral htext]
    simpa [openText] using hs
  | opener literal kind rest ih =>
    rw [Segment.scan_opener] at htext
    exact ih (by simpa [openText] using hs) htext
  | text literal c rest hstart ih =>
    rw [Segment.scan_cons hstart] at htext
    exact ih (by simpa [openText] using hs) htext
  | unclosed literal kind payload =>
    rw [Segment.scan_unclosed] at htext
    rw [mem_ofLiteral htext]
    simpa [openText] using hs
  | closer literal kind payload rest ih =>
    rw [Segment.scan_closer, List.mem_append, List.mem_append] at htext
    rcases htext with (htext | htext) | htext
    · rw [mem_ofLiteral htext]
      exact .before_dollar hkeys (by simpa [openText] using hs)
    · exact absurd htext literal_notMem_ofPayload
    · refine ih ?_ htext
      have hsplit : literal.reverse ++
          (openText (some (kind, payload)) ++ kind.closer :: rest) =
          (literal.reverse ++ openText (some (kind, payload)) ++ [kind.closer]) ++ rest := by
        simp
      rw [hsplit] at hs
      simpa [openText] using hs.suffix
  | payload literal kind payload c rest hcloser ih =>
    rw [Segment.scan_payload hcloser] at htext
    exact ih (by simpa [openText] using hs) htext

/-- A character that the scan has begun with comes first. -/
theorem scan_of_concat {first : Char} (literal : List Char)
    (pending : Option (Placeholder × List Char)) (s : List Char)
    (hfirst : ∃ rest, literal = rest ++ [first]) :
    ∃ text rest, Segment.scan literal pending s = .literal (first :: text) :: rest := by
  have hliteral : ∀ reversed : List Char, (∃ rest, reversed = rest ++ [first]) →
      ∃ text, Segment.ofLiteral reversed = [.literal (first :: text)] := by
    rintro reversed ⟨rest, rfl⟩
    exact ⟨rest.reverse, by simp [Segment.ofLiteral]⟩
  induction literal, pending, s using Segment.scan_induction with
  | nil literal =>
    rcases hliteral literal hfirst with ⟨text, htext⟩
    exact ⟨text, [], by rw [Segment.scan_nil, htext]⟩
  | opener literal kind rest ih =>
    rw [Segment.scan_opener]
    exact ih hfirst
  | text literal c rest hstart ih =>
    rw [Segment.scan_cons hstart]
    rcases hfirst with ⟨more, rfl⟩
    exact ih ⟨c :: more, rfl⟩
  | unclosed literal kind payload =>
    rcases hfirst with ⟨more, rfl⟩
    rcases hliteral (payload ++ kind.opener :: '$' :: (more ++ [first]))
      ⟨payload ++ kind.opener :: '$' :: more, by simp⟩ with ⟨text, htext⟩
    exact ⟨text, [], by rw [Segment.scan_unclosed, htext]⟩
  | closer literal kind payload rest ih =>
    rcases hliteral literal hfirst with ⟨text, htext⟩
    exact ⟨text, _, by rw [Segment.scan_closer, htext]; rfl⟩
  | payload literal kind payload c rest hcloser ih =>
    rw [Segment.scan_payload hcloser]
    exact ih hfirst

/-! ## Reading parameters -/

theorem percentBytes_of_not_mem {s : List Char} (h : '%' ∉ s) :
    percentBytes s = s.map Char.toUInt8 := by
  induction s with
  | nil => rfl
  | cons c rest ih =>
    rw [List.mem_cons, not_or] at h
    rw [percentBytes.eq_3 _ _ (by rintro a b more rfl; exact absurd rfl h.1), ih h.2, List.map_cons]

/-- ASCII characters are decoded from the bytes that they stand for. -/
theorem decodeLossy_of_ascii {s : List Char} (h : ∀ c ∈ s, c.toNat < 128) :
    decodeLossy (s.map Char.toUInt8) = s := by
  induction s with
  | nil => rfl
  | cons c rest ih =>
    have hc := h c List.mem_cons_self
    have hbyte : c.toUInt8.toNat = c.toNat := by
      have hmod : c.toUInt8.toNat = c.toNat % 256 := rfl
      omega
    have hdecoded : ∀ bytes, decodeOne c.toUInt8 bytes = .char c 1 := by
      intro bytes
      have hlead : c.toUInt8 < 0x80 := by
        rw [UInt8.lt_iff_toNat_lt, hbyte]
        exact hc
      simp [decodeOne, hlead, hbyte]
    have hrest := ih fun d hd => h d (List.mem_cons_of_mem c hd)
    rw [decodeLossy] at hrest
    simp only [List.map_cons, decodeLossy, decodeLossyFrom, hdecoded, Nat.sub_self, hrest]

/-- Text without percent signs stands for itself. -/
theorem percentDecode_of_not_mem {s : List Char} (h : '%' ∉ s) : percentDecode s = s := by
  have hrun : ∀ (s run : List Char), '%' ∉ s → '%' ∉ run → (∀ c ∈ run, c.toNat < 128) →
      percentDecodeFrom run s = run.reverse ++ s := by
    have hdecode : ∀ run : List Char, '%' ∉ run → (∀ c ∈ run, c.toNat < 128) →
        decodeLossy (percentBytes run.reverse) = run.reverse := by
      intro run hpercent hascii
      rw [percentBytes_of_not_mem (by simpa using hpercent),
        decodeLossy_of_ascii (by simpa using hascii)]
    intro s
    induction s with
    | nil =>
      intro run _ hpercent hascii
      rw [percentDecodeFrom, hdecode run hpercent hascii, List.append_nil]
    | cons c rest ih =>
      intro run hs hpercent hascii
      rw [List.mem_cons, not_or] at hs
      by_cases hc : c.toNat < 128
      · have hnext : ∀ d ∈ c :: run, d.toNat < 128 := by
          intro d hd
          rcases List.mem_cons.1 hd with rfl | hd
          · exact hc
          · exact hascii d hd
        rw [percentDecodeFrom, if_pos hc, ih (c :: run) hs.2 (by simp [hs.1, hpercent]) hnext]
        simp
      · rw [percentDecodeFrom, if_neg hc, hdecode run hpercent hascii,
          ih [] hs.2 List.not_mem_nil (List.forall_mem_nil _)]
        simp
  exact hrun s [] h List.not_mem_nil (List.forall_mem_nil _)

theorem replaceChar_of_not_mem {old new : Char} {s : List Char} (h : old ∉ s) :
    replaceChar old new s = s := by
  have hsame : ∀ c ∈ s, (if c = old then new else c) = c := by
    intro c hc
    have hne : c ≠ old := fun heq => h (heq ▸ hc)
    rw [if_neg hne]
  rw [replaceChar, List.map_congr_left hsame, List.map_id']

theorem decodeComponent_of_isPlainKey {key : List Char} (h : IsPlainKey key) :
    decodeComponent key = String.ofList key := by
  rw [decodeComponent, replaceChar_of_not_mem h.plus, percentDecode_of_not_mem h.percent]

/-- A text without the separator belongs to the first piece. -/
theorem splitAll_append_of_not_mem {sep : Char} {lead : List Char} (h : sep ∉ lead)
    (s : List Char) :
    ∃ piece pieces, splitAll sep s = piece :: pieces ∧
      splitAll sep (lead ++ s) = (lead ++ piece) :: pieces := by
  induction lead with
  | nil =>
    cases hs : splitAll sep s with
    | nil => exact absurd hs (splitAll_ne_nil sep s)
    | cons piece pieces => exact ⟨piece, pieces, rfl, hs⟩
  | cons c rest ih =>
    rw [List.mem_cons, not_or] at h
    rcases ih h.2 with ⟨piece, pieces, hs, hrest⟩
    refine ⟨piece, pieces, hs, ?_⟩
    rw [List.cons_append, splitAll, if_neg (Ne.symm h.1), hrest]
    rfl

/-- The pieces of a text behind its semicolons start with known keys. -/
theorem Keyed.splitAll {keys : List (List Char)} (hkeys : ∀ key ∈ keys, IsPlainKey key)
    {s : List Char} (hs : Keyed keys s) :
    ∀ piece ∈ (splitAll ';' s).tail, ∃ key ∈ keys, ∃ value, piece = key ++ '=' :: value := by
  induction s with
  | nil => simp [Text.splitAll]
  | cons c rest ih =>
    have hrest : Keyed keys rest := by
      rw [← List.singleton_append] at hs
      exact hs.suffix
    by_cases hc : c = ';'
    · subst hc
      rcases hs [] rest rfl with ⟨key, hkey, more, rfl⟩
      -- the first piece behind the semicolon has the key, and the others are those of the rest
      have hlead : ';' ∉ key ++ ['='] := by
        simpa using (hkeys key hkey).semicolon
      rcases splitAll_append_of_not_mem hlead more with ⟨piece, pieces, -, hpieces⟩
      rw [List.append_assoc, List.singleton_append] at hpieces
      have hall := ih hrest
      rw [hpieces, List.tail_cons] at hall
      rw [Text.splitAll, if_pos rfl, List.tail_cons, hpieces]
      intro other hother
      rcases List.mem_cons.1 hother with rfl | hother
      · exact ⟨key, hkey, piece, by simp⟩
      · exact hall other hother
    · have hlead : ';' ∉ [c] := by simpa using Ne.symm hc
      rcases splitAll_append_of_not_mem hlead rest with ⟨piece, pieces, hpieces, hall⟩
      have hpieces' := ih hrest
      rw [hpieces, List.tail_cons] at hpieces'
      rw [← List.singleton_append, hall, List.tail_cons]
      exact hpieces'

/-- The names of parameters that are read from a text with known keys are these keys. -/
theorem key_of_mem_parameters {keys : List (List Char)} (hkeys : ∀ key ∈ keys, IsPlainKey key)
    {s : List Char} (hs : Keyed keys s) (hstart : s = [] ∨ ∃ rest, s = ';' :: rest)
    {pair : String × String} (hpair : pair ∈ parameters s) :
    ∃ key ∈ keys, pair.1 = String.ofList key := by
  have hpieces := hs.splitAll hkeys
  -- the text begins with a semicolon, so that the first piece is empty and counts for nothing
  have hfirst : ∀ piece ∈ splitAll ';' s, piece ≠ [] → piece ∈ (splitAll ';' s).tail := by
    intro piece hpiece hne
    rcases hstart with rfl | ⟨rest, rfl⟩
    · simp [Text.splitAll, hne] at hpiece
    · rw [Text.splitAll, if_pos rfl] at hpiece ⊢
      simpa [hne] using hpiece
  have hname : pair.1 ∈ Entries.keys (parameters s) := List.mem_map_of_mem hpair
  rcases Entries.mem_keys_setAll hname with hnone | ⟨read, hread, hsame⟩
  · simp [Entries.keys] at hnone
  · rcases List.mem_map.1 hread with ⟨piece, hpiece, rfl⟩
    rw [List.mem_filter] at hpiece
    rcases hpieces piece (hfirst piece hpiece.1 (by simpa using hpiece.2)) with
      ⟨key, hkey, value, rfl⟩
    refine ⟨key, hkey, ?_⟩
    rw [← hsame, readParameter, cut?_append_of_not_mem (hkeys key hkey).equals]
    exact decodeComponent_of_isPlainKey (hkeys key hkey)

end Switchboard
