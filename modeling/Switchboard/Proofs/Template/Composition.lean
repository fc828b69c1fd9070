import Switchboard.Proofs.Evaluation.Commands
import Switchboard.Proofs.Template.Pieces

/-!
# Filling templates part by part

A template is filled from left to right, and what a placeholder gives is not scanned again. So a
template can be cut in front of any text and filled in two parts, the second one with what the first
one left of the draws, unless the cut tears a placeholder apart (`filling_is_compositional`).

What placeholders give and what they use up plays no part in this: `fillPieces` leaves it open, and
the clock can be one that moves on with every reading (`fillTimed`). The scan of the second part
starts with text from the first one; that this makes no difference is `fillPieces_scan`.
-/

namespace Switchboard

open Calendar Segment

/-! ## One text and then another -/

/-- A text that is made in a state, or why there is none, and the state that is left. -/
abbrev Filling (σ : Type) := σ → Except Fault (List Char) × σ

namespace Filling

variable {σ : Type}

/-- A text that is there. -/
def yield (text : List Char) : Filling σ :=
  fun s => (.ok text, s)

/-- A text and behind it another one, which is made in the state that the first one leaves. A fault
ends both. -/
def andThen (first second : Filling σ) : Filling σ := fun s =>
  match first s with
  | (.error fault, s) => (.error fault, s)
  | (.ok head, s) =>
    match second s with
    | (.error fault, s) => (.error fault, s)
    | (.ok tail, s) => (.ok (head ++ tail), s)

@[simp] theorem yield_nil_andThen (f : Filling σ) : andThen (yield []) f = f := by
  funext s
  rcases hf : f s with ⟨result, after⟩
  cases result <;> simp [andThen, yield, hf]

@[simp] theorem andThen_yield_nil (f : Filling σ) : andThen f (yield []) = f := by
  funext s
  rcases hf : f s with ⟨result, after⟩
  cases result <;> simp [andThen, yield, hf]

theorem yield_andThen_yield (s t : List Char) :
    andThen (yield s) (yield t) = (yield (s ++ t) : Filling σ) :=
  rfl

theorem andThen_assoc (f g h : Filling σ) :
    andThen (andThen f g) h = andThen f (andThen g h) := by
  funext s
  rcases hf : f s with ⟨head, s₁⟩
  cases head with
  | error fault => simp [andThen, hf]
  | ok head =>
    rcases hg : g s₁ with ⟨middle, s₂⟩
    cases middle with
    | error fault => simp [andThen, hf, hg]
    | ok middle =>
      rcases hh : h s₂ with ⟨tail, s₃⟩
      cases tail <;> simp [andThen, hf, hg, hh]

/-- `seen` makes the text that `f` makes, in the part of the state that `view` shows. -/
def SeenAs {τ : Type} (view : σ → τ) (f : Filling σ) (seen : Filling τ) : Prop :=
  ∀ s, seen (view s) = ((f s).1, view (f s).2)

theorem seenAs_andThen {τ : Type} {view : σ → τ} {f g : Filling σ} {seen behind : Filling τ}
    (hf : SeenAs view f seen) (hg : SeenAs view g behind) :
    SeenAs view (andThen f g) (andThen seen behind) := by
  intro s
  have hfirst := hf s
  rcases hhead : f s with ⟨head, after⟩
  rw [hhead] at hfirst
  cases head with
  | error fault => simp [andThen, hhead, hfirst]
  | ok head =>
    have hsecond := hg after
    rcases htail : g after with ⟨tail, last⟩
    rw [htail] at hsecond
    cases tail <;> simp [andThen, hhead, hfirst, htail, hsecond]

end Filling

open Filling

/-! ## Pieces -/

section Pieces

variable {σ : Type} (given : Placeholder → List Char → Filling σ)

/-- Fills pieces from left to right; what the placeholders give is left open. -/
def fillPieces : List Segment → Filling σ
  | [] => yield []
  | .literal text :: rest => andThen (yield text) (fillPieces rest)
  | .place kind payload :: rest => andThen (given kind payload) (fillPieces rest)

theorem fillPieces_append (front behind : List Segment) :
    fillPieces given (front ++ behind) =
      andThen (fillPieces given front) (fillPieces given behind) := by
  induction front with
  | nil => simp [fillPieces]
  | cons piece rest ih =>
    cases piece with
    | literal text => rw [List.cons_append, fillPieces, fillPieces, ih, andThen_assoc]
    | place kind payload => rw [List.cons_append, fillPieces, fillPieces, ih, andThen_assoc]

/-- If the placeholders of two fillings give the same, pieces do. -/
theorem fillPieces_seenAs {τ : Type} {view : σ → τ}
    {seen : Placeholder → List Char → Filling τ}
    (h : ∀ kind payload, SeenAs view (given kind payload) (seen kind payload))
    (pieces : List Segment) :
    SeenAs view (fillPieces given pieces) (fillPieces seen pieces) := by
  induction pieces with
  | nil => exact fun s => rfl
  | cons piece rest ih =>
    cases piece with
    | literal text => exact seenAs_andThen (fun s => rfl) ih
    | place kind payload => exact seenAs_andThen (h kind payload) ih

theorem fillPieces_ofLiteral (literal : List Char) :
    fillPieces given (ofLiteral literal) = yield literal.reverse := by
  cases literal with
  | nil => rfl
  | cons c rest => simp [ofLiteral, fillPieces]

/-- The text that a scan starts with comes first, and the rest is as if it were not there. -/
theorem fillPieces_scan (literal : List Char) (pending : Option (Placeholder × List Char))
    (s : List Char) :
    fillPieces given (scan literal pending s) =
      andThen (yield literal.reverse) (fillPieces given (scan [] pending s)) := by
  -- the text grows on the way, so the equation is needed for every text in front
  have hscan : ∀ front, fillPieces given (scan front pending s) =
      andThen (yield front.reverse) (fillPieces given (scan [] pending s)) := by
    induction literal, pending, s using scan_induction with
    | nil literal =>
      intro front
      simp [fillPieces_ofLiteral]
    | opener literal kind rest ih =>
      intro front
      rw [scan_opener, scan_opener, ih front]
    | text literal c rest hstart ih =>
      intro front
      rw [scan_cons hstart, scan_cons hstart]
      calc
        fillPieces given (scan (c :: front) none rest)
            = andThen (yield (front.reverse ++ [c])) (fillPieces given (scan [] none rest)) := by
              rw [ih (c :: front), List.reverse_cons]
        _ = andThen (yield front.reverse)
              (andThen (yield [c]) (fillPieces given (scan [] none rest))) := by
              rw [← andThen_assoc, yield_andThen_yield]
        _ = andThen (yield front.reverse) (fillPieces given (scan [c] none rest)) := by
              rw [ih [c], List.reverse_singleton]
    | unclosed literal kind payload =>
      intro front
      simp [fillPieces_ofLiteral, yield_andThen_yield]
    | closer literal kind payload rest ih =>
      intro front
      rw [scan_closer, scan_closer, List.append_assoc, fillPieces_append, fillPieces_ofLiteral]
      rfl
    | payload literal kind payload c rest hcloser ih =>
      intro front
      rw [scan_payload hcloser, scan_payload hcloser, ih front]
  exact hscan literal

/-- Every placeholder that is opened in a template is closed in it. -/
def IsClosed (template : List Char) : Prop :=
  ∀ s, .literal s ∈ segments template → ¬ HasOpener s

theorem getLast?_of_cons {c d : Char} {rest : List Char} (h : (c :: rest).getLast? ≠ some d) :
    rest.getLast? ≠ some d := by
  intro hlast
  rw [List.getLast?_cons, hlast] at h
  exact h rfl

theorem startsOpener_append {c : Char} {rest : List Char} (hstart : ¬ StartsOpener (c :: rest))
    (hlast : (c :: rest).getLast? ≠ some '$') (behind : List Char) :
    ¬ StartsOpener (c :: (rest ++ behind)) := by
  rintro ⟨kind, more, heq⟩
  cases rest with
  | nil =>
    rw [(List.cons.inj heq).1] at hlast
    exact hlast rfl
  | cons d rest =>
    rw [List.cons_append, List.cons.injEq, List.cons.injEq] at heq
    exact hstart ⟨kind, rest, by rw [heq.1, heq.2.1]⟩

/-- A scan that leaves no placeholder open can be interrupted behind anything but a dollar sign. -/
theorem fillPieces_scan_append (literal : List Char)
    (pending : Option (Placeholder × List Char)) (s : List Char)
    (hclosed : ∀ t, .literal t ∈ scan literal pending s → ¬ HasOpener t)
    (hlast : s.getLast? ≠ some '$') (behind : List Char) :
    fillPieces given (scan literal pending (s ++ behind)) =
      andThen (fillPieces given (scan literal pending s))
        (fillPieces given (segments behind)) := by
  induction literal, pending, s using scan_induction with
  | nil literal =>
    rw [List.nil_append, fillPieces_scan, scan_nil, fillPieces_ofLiteral]
    rfl
  | opener literal kind rest ih =>
    rw [scan_opener] at hclosed ⊢
    rw [List.cons_append, List.cons_append, scan_opener]
    exact ih hclosed (getLast?_of_cons (getLast?_of_cons hlast))
  | text literal c rest hstart ih =>
    rw [scan_cons hstart] at hclosed ⊢
    rw [List.cons_append, scan_cons (startsOpener_append hstart hlast behind)]
    exact ih hclosed (getLast?_of_cons hlast)
  | unclosed literal kind payload =>
    -- what is left open is text with an opener
    rw [scan_unclosed] at hclosed
    refine absurd ?_ (hclosed (payload ++ kind.opener :: '$' :: literal).reverse
      (by simp [ofLiteral]))
    exact ⟨literal.reverse, kind, payload.reverse, by simp⟩
  | closer literal kind payload rest ih =>
    rw [scan_closer] at hclosed ⊢
    rw [List.cons_append, scan_closer]
    have htail := ih (fun t ht => hclosed t (List.mem_append_right _ ht)) (getLast?_of_cons hlast)
    -- the pieces up to the closer are the same with and without what stands behind
    calc
      fillPieces given (ofLiteral literal ++ ofPayload kind payload ++ scan [] none (rest ++ behind))
          = andThen (fillPieces given (ofLiteral literal ++ ofPayload kind payload))
              (andThen (fillPieces given (scan [] none rest))
                (fillPieces given (segments behind))) := by
            rw [fillPieces_append, htail]
      _ = andThen (fillPieces given
              (ofLiteral literal ++ ofPayload kind payload ++ scan [] none rest))
            (fillPieces given (segments behind)) := by
            rw [← andThen_assoc, ← fillPieces_append]
  | payload literal kind payload c rest hcloser ih =>
    rw [scan_payload hcloser] at hclosed ⊢
    rw [List.cons_append, scan_payload hcloser]
    exact ih hclosed (getLast?_of_cons hlast)

theorem fillPieces_segments_append {front : List Char} (hclosed : IsClosed front)
    (hlast : front.getLast? ≠ some '$') (behind : List Char) :
    fillPieces given (segments (front ++ behind)) =
      andThen (fillPieces given (segments front)) (fillPieces given (segments behind)) :=
  fillPieces_scan_append given [] none front hclosed hlast behind

theorem isClosed_place {kind : Placeholder} {payload : List Char} (hne : payload ≠ [])
    (hcloser : kind.closer ∉ payload) : IsClosed (Segment.place kind payload).text := by
  intro s hs
  rw [segments_place hne hcloser] at hs
  simp at hs

theorem getLast?_place (kind : Placeholder) (payload : List Char) :
    (Segment.place kind payload).text.getLast? ≠ some '$' := by
  rw [text, List.getLast?_concat]
  cases kind <;> simp [Placeholder.closer]

/-- What a placeholder between two parts gives is put in between them as it is. -/
theorem fillPieces_place_between {front payload : List Char} {kind : Placeholder}
    (hclosed : IsClosed front) (hlast : front.getLast? ≠ some '$') (hne : payload ≠ [])
    (hcloser : kind.closer ∉ payload) (behind : List Char) :
    fillPieces given (segments (front ++ ((Segment.place kind payload).text ++ behind))) =
      andThen (fillPieces given (segments front))
        (andThen (given kind payload) (fillPieces given (segments behind))) := by
  have honly : fillPieces given (segments (Segment.place kind payload).text) =
      given kind payload := by
    rw [segments_place hne hcloser, fillPieces, fillPieces, andThen_yield_nil]
  rw [fillPieces_segments_append given hclosed hlast,
    fillPieces_segments_append given (isClosed_place hne hcloser) (getLast?_place kind payload),
    honly]

end Pieces

/-! ## The placeholders of a message -/

/-- What the placeholders of a template give for a message. -/
def placeText (source : Source) (m : Message) (kind : Placeholder) (payload : List Char) :
    Filling Draws :=
  fun draws => segmentText source m draws (.place kind payload)

theorem segmentsText_cons (source : Source) (m : Message) (piece : Segment)
    (rest : List Segment) :
    segmentsText source m (piece :: rest) =
      andThen (fun draws => segmentText source m draws piece) (segmentsText source m rest) := by
  funext draws
  rcases hhead : segmentText source m draws piece with ⟨head, after⟩
  cases head with
  | error fault => simp [segmentsText, andThen, hhead]
  | ok head =>
    rcases htail : segmentsText source m rest after with ⟨tail, last⟩
    cases tail <;> simp [segmentsText, andThen, hhead, htail]

theorem segmentsText_eq (source : Source) (m : Message) (pieces : List Segment) :
    segmentsText source m pieces = fillPieces (placeText source m) pieces := by
  induction pieces with
  | nil => rfl
  | cons piece rest ih =>
    rw [segmentsText_cons, ih]
    cases piece <;> rfl

theorem fillTemplate_eq (source : Source) (m : Message) (template : List Char) :
    fillTemplate source m template = fillPieces (placeText source m) (segments template) :=
  segmentsText_eq source m (segments template)

/-! ## A clock that moves on -/

/-- What has been drawn, and how often the clock has been read. -/
structure Progress where
  draws : Draws
  readings : Nat

/-- Whether a call reads the clock. -/
def readsClock (payload : List Char) : Bool :=
  match TemplateFunction.read? (dropEquals payload) with
  | some (.date, _) => true
  | _ => false

/-- What the placeholders give for a message, each call that reads the clock at the next moment. -/
def timedText (clock : Nat → Moment) (pick : Nat → Int) (m : Message) :
    Placeholder → List Char → Filling Progress
  | .field, name, progress => (fieldText m name, progress)
  | .call, payload, progress =>
    let (text, draws) := callText ⟨clock progress.readings, pick⟩ payload progress.draws
    (.ok text, ⟨draws, if readsClock payload then progress.readings + 1 else progress.readings⟩)

/-- The text of a template, filled while the clock moves on. -/
def fillTimed (clock : Nat → Moment) (pick : Nat → Int) (m : Message) (template : List Char) :
    Filling Progress :=
  fillPieces (timedText clock pick m) (segments template)

theorem timedText_still (source : Source) (m : Message) (kind : Placeholder)
    (payload : List Char) :
    SeenAs Progress.draws (timedText (fun _ => source.now) source.pick m kind payload)
      (placeText source m kind payload) := by
  cases kind with
  | field => exact fun progress => rfl
  | call => exact fun progress => rfl

/-- With a clock that stands still a template is filled as ever. -/
theorem fillTimed_still (source : Source) (m : Message) (template : List Char) :
    SeenAs Progress.draws (fillTimed (fun _ => source.now) source.pick m template)
      (fillTemplate source m template) := by
  rw [fillTemplate_eq]
  exact fillPieces_seenAs _ (timedText_still source m) (segments template)

/-! ## Filling in two parts -/

/-- A template that closes every placeholder and does not end with a dollar sign can be filled
first, and what stands behind it afterwards: with the draws, and with the readings of the clock,
that it leaves. What a placeholder gives is put in once and as it is, with its dollar signs and
brackets, and is not scanned again. A template without dollar sign is its own text. -/
theorem filling_is_compositional (source : Source) (m : Message) {front : List Char}
    (hclosed : IsClosed front) (hlast : front.getLast? ≠ some '$') (behind : List Char) :
    fillTemplate source m (front ++ behind) =
        andThen (fillTemplate source m front) (fillTemplate source m behind) ∧
      (∀ (clock : Nat → Moment) (pick : Nat → Int),
        fillTimed clock pick m (front ++ behind) =
          andThen (fillTimed clock pick m front) (fillTimed clock pick m behind)) ∧
      (∀ (kind : Placeholder) (payload : List Char), payload ≠ [] → kind.closer ∉ payload →
        fillTemplate source m (front ++ ((Segment.place kind payload).text ++ behind)) =
          andThen (fillTemplate source m front)
            (andThen (placeText source m kind payload) (fillTemplate source m behind))) ∧
      (∀ (template : List Char) (kind : Placeholder) (payload : List Char)
        (before after : List Segment),
        segments template = before ++ .place kind payload :: after →
        fillTemplate source m template =
          andThen (segmentsText source m before)
            (andThen (placeText source m kind payload) (segmentsText source m after))) ∧
      (∀ template, SeenAs Progress.draws
        (fillTimed (fun _ => source.now) source.pick m template)
        (fillTemplate source m template)) ∧
      ∀ template draws, '$' ∉ template →
        fillTemplate source m template draws = (.ok template, draws) := by
  refine ⟨?_, ?_, ?_, ?_, fillTimed_still source m, ?_⟩
  · simp only [fillTemplate_eq]
    exact fillPieces_segments_append _ hclosed hlast behind
  · intro clock pick
    exact fillPieces_segments_append _ hclosed hlast behind
  · intro kind payload hne hcloser
    simp only [fillTemplate_eq]
    exact fillPieces_place_between _ hclosed hlast hne hcloser behind
  · intro template kind payload before after hsegments
    rw [fillTemplate_eq, hsegments, fillPieces_append, segmentsText_eq, segmentsText_eq]
    rfl
  · intro template draws hdollar
    rw [fillTemplate_eq, segments, scan_of_notMem hdollar, fillPieces_ofLiteral]
    simp [yield]

/-- A message with a field that looks like a placeholder for another one. -/
def nestedMessage : Message :=
  .fresh "m" [("x", .text "$\x7by\x7d"), ("y", .text "z")] Source.still.now

/-- What the field gives stays as it is, and the identifier behind it is the first one. -/
theorem nested_placeholder_is_kept :
    (IsClosed ['$', '\x7b', 'x', '\x7d'] ∧ ['$', '\x7b', 'x', '\x7d'].getLast? ≠ some '$') ∧
    fillTemplate .still nestedMessage "$\x7bx\x7d$(uuid)".toList .start =
      (.ok "$\x7by\x7d00000000-0000-4000-8000-000000000001".toList, ⟨0, 1⟩) := by
  have hclosed : IsClosed (Segment.place .field ['x']).text :=
    isClosed_place (by decide) (by decide)
  refine ⟨⟨hclosed, by decide⟩, ?_⟩
  have hparts := (filling_is_compositional .still nestedMessage hclosed (by decide)
    "$(uuid)".toList).1
  exact (congrFun hparts .start).trans rfl

end Switchboard
