import Mathlib.Data.List.Induction
import Switchboard.Template.Segment

/-!
# The pieces of a template

A scan cuts a template into pieces that lie one behind the other: texts and placeholders, of which
the empty ones give no segment (`segments_lose_nothing`). Text in which a placeholder is opened is a
piece only at the end of the template, where the first such placeholder is never closed.

`Segment.scan_induction` follows the scan: what is opened, what is closed, and every other character
each make one case. `Segment.Cuts` is what is known of the pieces; it is carried from the end of the
template to its start.
-/

namespace Switchboard

/-! ## Parts of a scan -/

theorem mem_ofLiteral {reversed text : List Char} (h : .literal text ∈ Segment.ofLiteral reversed) :
    text = reversed.reverse := by
  unfold Segment.ofLiteral at h
  split at h
  · cases h
  · simpa using h

theorem literal_notMem_ofPayload {kind : Placeholder} {reversed text : List Char} :
    .literal text ∉ Segment.ofPayload kind reversed := by
  unfold Segment.ofPayload
  split <;> simp

theorem opener_of_ofOpener? {c : Char} {kind : Placeholder}
    (h : Placeholder.ofOpener? c = some kind) : c = kind.opener := by
  unfold Placeholder.ofOpener? at h
  split at h
  case isTrue hfield =>
    cases h
    exact hfield
  case isFalse =>
    split at h
    case isTrue hcall =>
      cases h
      exact hcall
    case isFalse => cases h

@[simp] theorem ofOpener?_opener (kind : Placeholder) :
    Placeholder.ofOpener? kind.opener = some kind := by
  cases kind <;> rfl

/-- The text of an open placeholder. -/
def openText : Option (Placeholder × List Char) → List Char
  | none => []
  | some (kind, payload) => '$' :: kind.opener :: payload.reverse

namespace Segment

/-- Text that opens a placeholder comes first. -/
def StartsOpener (s : List Char) : Prop :=
  ∃ (kind : Placeholder) (rest : List Char), s = '$' :: kind.opener :: rest

@[simp] theorem scan_nil (literal : List Char) : scan literal none [] = ofLiteral literal := by
  rw [scan]

@[simp] theorem scan_opener (literal : List Char) (kind : Placeholder) (rest : List Char) :
    scan literal none ('$' :: kind.opener :: rest) = scan literal (some (kind, [])) rest := by
  rw [scan, ofOpener?_opener]

/-- A character that opens nothing is text. -/
theorem scan_cons {c : Char} {rest : List Char} (h : ¬ StartsOpener (c :: rest))
    (literal : List Char) : scan literal none (c :: rest) = scan (c :: literal) none rest := by
  by_cases hdollar : ∃ d more, c = '$' ∧ rest = d :: more
  · rcases hdollar with ⟨d, more, rfl, rfl⟩
    cases hkind : Placeholder.ofOpener? d with
    | none => rw [scan, hkind]
    | some kind => exact absurd ⟨kind, more, by rw [opener_of_ofOpener? hkind]⟩ h
  · refine scan.eq_3 literal c rest ?_
    rintro d more heq hrest
    exact hdollar ⟨d, more, heq, hrest⟩

@[simp] theorem scan_unclosed (literal : List Char) (kind : Placeholder) (payload : List Char) :
    scan literal (some (kind, payload)) [] =
      ofLiteral (payload ++ kind.opener :: '$' :: literal) := by
  rw [scan]

@[simp] theorem scan_closer (literal : List Char) (kind : Placeholder)
    (payload rest : List Char) :
    scan literal (some (kind, payload)) (kind.closer :: rest) =
      ofLiteral literal ++ ofPayload kind payload ++ scan [] none rest := by
  rw [scan, if_pos rfl]

theorem scan_payload {kind : Placeholder} {c : Char} (h : c ≠ kind.closer)
    (literal payload rest : List Char) :
    scan literal (some (kind, payload)) (c :: rest) =
      scan literal (some (kind, c :: payload)) rest := by
  rw [scan, if_neg h]

/-- A scan step by step: the text ends, opens a placeholder or goes on; an open placeholder is never
closed, is closed, or goes on. -/
theorem scan_induction {motive : List Char → Option (Placeholder × List Char) → List Char → Prop}
    (nil : ∀ literal, motive literal none [])
    (opener : ∀ literal kind rest, motive literal (some (kind, [])) rest →
      motive literal none ('$' :: kind.opener :: rest))
    (text : ∀ literal c rest, ¬ StartsOpener (c :: rest) → motive (c :: literal) none rest →
      motive literal none (c :: rest))
    (unclosed : ∀ literal kind payload, motive literal (some (kind, payload)) [])
    (closer : ∀ literal kind payload rest, motive [] none rest →
      motive literal (some (kind, payload)) (kind.closer :: rest))
    (payload : ∀ literal kind payload c rest, c ≠ kind.closer →
      motive literal (some (kind, c :: payload)) rest →
      motive literal (some (kind, payload)) (c :: rest))
    (literal : List Char) (pending : Option (Placeholder × List Char)) (s : List Char) :
    motive literal pending s := by
  induction literal, pending, s using scan.induct with
  | case1 literal => exact nil literal
  | case2 literal c rest kind hkind ih =>
    rw [opener_of_ofOpener? hkind]
    exact opener literal kind rest ih
  | case3 literal c rest hkind ih =>
    refine text literal '$' (c :: rest) ?_ ih
    rintro ⟨kind, more, heq⟩
    cases heq
    simp at hkind
  | case4 literal c rest hopen ih =>
    refine text literal c rest ?_ ih
    rintro ⟨kind, more, heq⟩
    cases heq
    exact hopen _ _ rfl rfl
  | case5 literal kind pending => exact unclosed literal kind pending
  | case6 literal kind pending rest ih => exact closer literal kind pending rest ih
  | case7 literal kind pending c rest hcloser ih =>
    exact payload literal kind pending c rest hcloser ih

theorem scan_of_notMem {text : List Char} (h : '$' ∉ text) (literal : List Char) :
    scan literal none text = ofLiteral (text.reverse ++ literal) := by
  induction text generalizing literal with
  | nil => rfl
  | cons c rest ih =>
    have hopen : ¬ StartsOpener (c :: rest) := by
      rintro ⟨kind, more, heq⟩
      cases heq
      exact h List.mem_cons_self
    rw [scan_cons hopen, ih fun hmem => h (List.mem_cons_of_mem c hmem)]
    simp

theorem scan_payload_closer {kind : Placeholder} {payload : List Char}
    (h : kind.closer ∉ payload) (literal kept rest : List Char) :
    scan literal (some (kind, kept)) (payload ++ kind.closer :: rest) =
      ofLiteral literal ++ ofPayload kind (payload.reverse ++ kept) ++ scan [] none rest := by
  induction payload generalizing kept with
  | nil => exact scan_closer literal kind kept rest
  | cons c more ih =>
    rw [List.mem_cons, not_or] at h
    rw [List.cons_append, scan_payload (Ne.symm h.1), ih h.2]
    simp

/-- A placeholder that is closed only at its end is a single piece. -/
theorem segments_place {kind : Placeholder} {payload : List Char} (hne : payload ≠ [])
    (hcloser : kind.closer ∉ payload) :
    segments (Segment.place kind payload).text = [.place kind payload] := by
  rw [segments, text, List.cons_append, List.cons_append, scan_opener,
    scan_payload_closer hcloser]
  simp [ofLiteral, ofPayload, hne]

/-! ## Text that opens a placeholder -/

/-- A placeholder is opened somewhere in the text. -/
def HasOpener (s : List Char) : Prop :=
  ∃ (before : List Char) (kind : Placeholder) (after : List Char),
    s = before ++ '$' :: kind.opener :: after

/-- The first placeholder that the text opens is not closed in it. -/
def Unclosed (s : List Char) : Prop :=
  ∃ (before : List Char) (kind : Placeholder) (after : List Char),
    s = before ++ '$' :: kind.opener :: after ∧ ¬ HasOpener before ∧ kind.closer ∉ after

theorem not_hasOpener_of_length_le {s : List Char} (h : s.length ≤ 1) : ¬ HasOpener s := by
  rintro ⟨before, kind, after, rfl⟩
  simp only [List.length_append, List.length_cons] at h
  omega

theorem HasOpener.append {s : List Char} (h : HasOpener s) (t : List Char) :
    HasOpener (s ++ t) := by
  rcases h with ⟨before, kind, after, rfl⟩
  exact ⟨before, kind, after ++ t, by simp⟩

/-- An opener at the end of a text is there before the last character, or ends with it. -/
theorem hasOpener_concat {s : List Char} {c : Char} (h : HasOpener (s ++ [c])) :
    HasOpener s ∨ ∃ (before : List Char) (kind : Placeholder),
      s = before ++ ['$'] ∧ c = kind.opener := by
  rcases h with ⟨before, kind, after, heq⟩
  rcases List.eq_nil_or_concat after with rfl | ⟨more, last, rfl⟩
  · have hsplit : s ++ [c] = (before ++ ['$']) ++ [kind.opener] := by simpa using heq
    have hlast := List.append_inj' hsplit rfl
    exact .inr ⟨before, kind, hlast.1, by simpa using hlast.2⟩
  · have hsplit : s ++ [c] = (before ++ '$' :: kind.opener :: more) ++ [last] := by simpa using heq
    exact .inl ⟨before, kind, more, (List.append_inj' hsplit rfl).1⟩

/-! ## Pieces -/

/-- The piece is a placeholder with nothing in it. -/
def isBlankPlace : Segment → Bool
  | .place _ payload => payload.isEmpty
  | .literal _ => false

/-- A piece as it can be cut: a text that is not empty, or a placeholder that ends where it is first
closed. -/
def IsProper : Segment → Prop
  | .literal text => text ≠ []
  | .place kind payload => kind.closer ∉ payload

/-- The list starts with a text. -/
def StartsText (pieces : List Segment) : Prop :=
  ∃ s behind, pieces = .literal s :: behind

/-- Proper pieces that are all of a template, no two texts in a row, in which text with an opener
comes last and is never closed. -/
structure Cuts (template : List Char) (pieces : List Segment) : Prop where
  text_eq : pieces.flatMap text = template
  proper : ∀ piece ∈ pieces, piece.IsProper
  apart : ∀ front s behind, pieces = front ++ .literal s :: behind → ¬ StartsText behind
  opener_last : ∀ front opened behind, pieces = front ++ .literal opened :: behind →
    HasOpener opened → behind = [] ∧ Unclosed opened

namespace Cuts

variable {template : List Char} {pieces : List Segment}

theorem nil : Cuts [] [] := by
  refine ⟨rfl, by simp, ?_, ?_⟩
  · intro front s behind heq
    simp at heq
  · intro front opened behind heq
    simp at heq

/-- Text that is never closed is a last piece. -/
theorem unclosed {s : List Char} (hne : s ≠ []) (h : Unclosed s) : Cuts s [.literal s] := by
  have honly : ∀ front t behind, [Segment.literal s] = front ++ .literal t :: behind →
      t = s ∧ behind = [] := by
    intro front t behind heq
    rcases List.append_eq_singleton_iff.1 heq.symm with ⟨-, hone⟩ | ⟨-, hnone⟩
    · cases hone
      exact ⟨rfl, rfl⟩
    · cases hnone
  refine ⟨by simp [text], by simpa [IsProper] using hne, ?_, ?_⟩
  · rintro front t behind heq ⟨u, more, rfl⟩
    cases (honly front t _ heq).2
  · intro front opened behind heq _
    rcases honly front opened behind heq with ⟨rfl, hbehind⟩
    exact ⟨hbehind, h⟩

/-- A piece can stand in front if it is no text in front of text and opens nothing. -/
theorem cons (piece : Segment) (hproper : piece.IsProper)
    (hopen : ∀ s, piece = .literal s → ¬ HasOpener s ∧ ¬ StartsText pieces)
    (h : Cuts template pieces) : Cuts (piece.text ++ template) (piece :: pieces) := by
  refine ⟨by rw [List.flatMap_cons, h.text_eq], ?_, ?_, ?_⟩
  · intro other hother
    rcases List.mem_cons.1 hother with rfl | hother
    · exact hproper
    · exact h.proper other hother
  · intro front s behind heq
    cases front with
    | nil =>
      cases heq
      exact (hopen s rfl).2
    | cons first front =>
      rw [List.cons_append, List.cons.injEq] at heq
      exact h.apart front s behind heq.2
  · intro front opened behind heq hopened
    cases front with
    | nil =>
      cases heq
      exact absurd hopened (hopen opened rfl).1
    | cons first front =>
      rw [List.cons_append, List.cons.injEq] at heq
      exact h.opener_last front opened behind heq.2 hopened

/-- Text without opener can stand in front of what is no text, empty or not. -/
theorem ofLiteral_append {literal : List Char} (hopen : ¬ HasOpener literal.reverse)
    (hstart : ¬ StartsText pieces) (h : Cuts template pieces) :
    Cuts (literal.reverse ++ template) (ofLiteral literal ++ pieces) := by
  cases literal with
  | nil => exact h
  | cons c rest =>
    refine cons (.literal (c :: rest).reverse) (by simp [IsProper]) ?_ h
    intro s heq
    cases heq
    exact ⟨hopen, hstart⟩

end Cuts

/-- What is known of the text before the cursor: no placeholder is opened in it, also not together
with the next character, and an open placeholder has not been closed. -/
def Scanned (literal : List Char) : Option (Placeholder × List Char) → List Char → Prop
  | none, s => ¬ HasOpener (literal.reverse ++ s.take 1)
  | some (kind, payload), _ => ¬ HasOpener literal.reverse ∧ kind.closer ∉ payload

theorem filter_ofLiteral (literal : List Char) :
    (ofLiteral literal).filter (fun piece => !piece.isBlankPlace) = ofLiteral literal := by
  unfold ofLiteral
  split <;> simp [isBlankPlace]

/-- A placeholder gives a segment unless it is empty. -/
theorem filter_place (kind : Placeholder) (payload : List Char) (pieces : List Segment) :
    (Segment.place kind payload.reverse :: pieces).filter (fun piece => !piece.isBlankPlace) =
      ofPayload kind payload ++ pieces.filter fun piece => !piece.isBlankPlace := by
  rw [ofPayload, List.filter_cons, isBlankPlace]
  cases payload <;> simp

/-- A scan gives the pieces of what it has kept and what is left. -/
theorem exists_cuts (literal : List Char) (pending : Option (Placeholder × List Char))
    (s : List Char) (h : Scanned literal pending s) :
    ∃ pieces, Cuts (literal.reverse ++ (openText pending ++ s)) pieces ∧
      scan literal pending s = pieces.filter fun piece => !piece.isBlankPlace := by
  induction literal, pending, s using scan_induction with
  | nil literal =>
    have hopen : ¬ HasOpener literal.reverse := by simpa [Scanned] using h
    refine ⟨ofLiteral literal, ?_, by rw [scan_nil, filter_ofLiteral]⟩
    simpa [openText] using Cuts.nil.ofLiteral_append hopen (by simp [StartsText])
  | opener literal kind rest ih =>
    have hopen : ¬ HasOpener literal.reverse := fun hopen => h (hopen.append _)
    rcases ih ⟨hopen, by simp⟩ with ⟨pieces, hcuts, hscan⟩
    exact ⟨pieces, by simpa [openText] using hcuts, by rw [scan_opener, hscan]⟩
  | text literal c rest hstart ih =>
    have hnext : Scanned (c :: literal) none rest := by
      intro hopened
      cases rest with
      | nil => exact h (by simpa using hopened)
      | cons d more =>
        have hlonger : HasOpener ((literal.reverse ++ [c]) ++ [d]) := by simpa using hopened
        rcases hasOpener_concat hlonger with hshorter | ⟨before, kind, hdollar, rfl⟩
        · exact h (by simpa using hshorter)
        · -- the character would be a dollar sign in front of a bracket
          have hlast := List.append_inj' hdollar rfl
          rw [List.singleton_inj] at hlast
          exact hstart ⟨kind, more, by rw [hlast.2]⟩
    rcases ih hnext with ⟨pieces, hcuts, hscan⟩
    exact ⟨pieces, by simpa [openText] using hcuts, by rw [scan_cons hstart, hscan]⟩
  | unclosed literal kind payload =>
    refine ⟨ofLiteral (payload ++ kind.opener :: '$' :: literal), ?_,
      by rw [scan_unclosed, filter_ofLiteral]⟩
    have htext : literal.reverse ++ (openText (some (kind, payload)) ++ []) =
        (payload ++ kind.opener :: '$' :: literal).reverse := by simp [openText]
    have hliteral : ofLiteral (payload ++ kind.opener :: '$' :: literal) =
        [.literal (payload ++ kind.opener :: '$' :: literal).reverse] := by simp [ofLiteral]
    rw [htext, hliteral]
    exact Cuts.unclosed (by simp)
      ⟨literal.reverse, kind, payload.reverse, by simp, h.1, by simpa using h.2⟩
  | closer literal kind payload rest ih =>
    rcases ih (not_hasOpener_of_length_le (List.length_take_le 1 rest)) with
      ⟨pieces, hcuts, hscan⟩
    refine ⟨ofLiteral literal ++ .place kind payload.reverse :: pieces, ?_, ?_⟩
    · have hplace := (hcuts.cons (.place kind payload.reverse)
        (by simpa [IsProper] using h.2) (by simp)).ofLiteral_append h.1 (by simp [StartsText])
      simpa [openText, text] using hplace
    · rw [scan_closer, List.filter_append, filter_ofLiteral, filter_place, hscan,
        List.append_assoc]
  | payload literal kind payload c rest hcloser ih =>
    have hkept : kind.closer ∉ c :: payload := by
      simpa [Ne.symm hcloser] using h.2
    rcases ih ⟨h.1, hkept⟩ with ⟨pieces, hcuts, hscan⟩
    exact ⟨pieces, by simpa [openText] using hcuts, by rw [scan_payload hcloser, hscan]⟩

/-- The segments of a template are the pieces that it is cut into, one behind the other and with
nothing left over, but for the empty placeholders among them. Texts are not empty and never cut in
two, a placeholder ends where it is first closed, and text that opens a placeholder is the last
segment and the end of the template, where the first placeholder that it opens is not closed any
more. -/
theorem segments_lose_nothing (template : List Char) :
    ∃ pieces : List Segment,
      pieces.flatMap text = template ∧
      segments template = pieces.filter (fun piece => !piece.isBlankPlace) ∧
      (∀ s, .literal s ∈ pieces → s ≠ []) ∧
      (∀ front s t behind, pieces ≠ front ++ .literal s :: .literal t :: behind) ∧
      (∀ kind payload, .place kind payload ∈ pieces → kind.closer ∉ payload) ∧
      (∀ kind payload, .place kind payload ∈ segments template → payload ≠ []) ∧
      ∀ front opened behind, segments template = front ++ .literal opened :: behind →
        HasOpener opened →
        behind = [] ∧ ∃ (lead before : List Char) (kind : Placeholder) (after : List Char),
          template = lead ++ opened ∧ opened = before ++ '$' :: kind.opener :: after ∧
            ¬ HasOpener before ∧ kind.closer ∉ after := by
  have hscanned : Scanned [] none template :=
    not_hasOpener_of_length_le (List.length_take_le 1 template)
  rcases exists_cuts [] none template hscanned with ⟨pieces, hcuts, hscan⟩
  rw [← segments] at hscan
  refine ⟨pieces, by simpa [openText] using hcuts.text_eq, hscan,
    fun s hs => hcuts.proper _ hs, ?_, fun kind payload hplace => hcuts.proper _ hplace, ?_, ?_⟩
  · intro front s t behind heq
    exact hcuts.apart front s (.literal t :: behind) heq ⟨t, behind, rfl⟩
  · intro kind payload hplace
    rw [hscan, List.mem_filter] at hplace
    simpa [isBlankPlace] using hplace.2
  · intro front opened behind hsegments hopened
    -- the segment is one of the pieces, and what is behind it there is behind it here
    rw [hscan, List.filter_eq_append_iff] at hsegments
    rcases hsegments with ⟨before, after, rfl, -, hafter⟩
    rcases List.filter_eq_cons_iff.1 hafter with ⟨skipped, rest, rfl, -, -, hrest⟩
    rcases hcuts.opener_last (before ++ skipped) opened rest (by simp) hopened with
      ⟨rfl, start, kind, left, hsplit, hstart, hleft⟩
    refine ⟨by simpa using hrest.symm, (before ++ skipped).flatMap text, start, kind, left, ?_,
      hsplit, hstart, hleft⟩
    have htext := hcuts.text_eq
    simp only [List.reverse_nil, openText, List.nil_append] at htext
    simp [← htext, text]

end Segment
end Switchboard
