import Switchboard.Proofs.Evaluation.Commands
import Switchboard.Proofs.Number.Positional
import Switchboard.Proofs.Template.Pieces

/-!
# Copies of fields

A field is copied by a placeholder: its value is written as command text and read from it again. Truth
values, whole numbers and texts come back as they are. So do decimal numbers that are written without
an exponent, since such a text is digits with a point again, and the number the nearest one to them.

A number in command text has no exponent, though. Very large and very small numbers, which are written
with one, and infinity, which is written as a word, come back as this text (`copy_keeps_value`,
`copy_of_large_number_is_text`).
-/

namespace Switchboard
namespace Value

open Text

/-! ## Numbers in command text -/

/-- A decimal number in command text is digits with a point, perhaps with a line feed behind them. -/
theorem exists_isPointed_of_numberShape? {s : List Char} (h : numberShape? s = some .decimal) :
    ∃ whole fraction blanks, s = whole ++ '.' :: fraction ++ blanks ∧ IsPointed whole fraction ∧
      ∀ c ∈ blanks, isBlank c = true := by
  rcases exists_blanks_dropFinalLineFeed s with ⟨blanks, hs, hblanks⟩
  simp only [numberShape?] at h
  split at h
  case h_1 => split at h <;> cases h
  case h_2 whole fraction hcut =>
    split at h
    case isTrue hdigits =>
      simp only [allDigits, Bool.and_eq_true, List.all_eq_true, Bool.not_eq_true',
        List.isEmpty_eq_false_iff] at hdigits
      rw [eq_append_of_cut? hcut] at hs
      exact ⟨whole, fraction, blanks, hs, ⟨hdigits.1.1, hdigits.2, hdigits.1.2⟩, hblanks⟩
    case isFalse => cases h

theorem numberShape?_of_isPointed {whole fraction : List Char} (h : IsPointed whole fraction) :
    numberShape? (whole ++ '.' :: fraction) = some .decimal := by
  have hkept : dropFinalLineFeed (whole ++ '.' :: fraction) = whole ++ '.' :: fraction := by
    refine dropFinalLineFeed_of_not_mem fun hmem => ?_
    exact absurd (h.isBlank '\n' hmem) (by decide)
  have hdigits : allDigits whole = true ∧ allDigits fraction = true := by
    simpa [allDigits] using And.intro h.digits_whole h.digits_fraction
  simp [numberShape?, hkept, cut?_append_of_not_mem h.point_not_mem, hdigits, h.ne_nil]

/-- A character that no number has keeps a text from being one. -/
theorem numberShape?_eq_none {s : List Char} {c : Char} (hmem : c ∈ s) (hdigit : c.isDigit = false)
    (hpoint : c ≠ '.') (hblank : isBlank c = false) : numberShape? s = Option.none := by
  cases hshape : numberShape? s with
  | none => rfl
  | some shape =>
    cases shape with
    | whole =>
      rcases digits_of_numberShape? hshape with ⟨body, blanks, rfl, -, hbody, hblanks⟩
      rcases List.mem_append.1 hmem with hbodymem | hblanksmem
      · simp [hbody c hbodymem] at hdigit
      · simp [hblanks c hblanksmem] at hblank
    | decimal =>
      rcases exists_isPointed_of_numberShape? hshape with
        ⟨whole, fraction, blanks, rfl, hpointed, hblanks⟩
      simp only [List.mem_append, List.mem_cons] at hmem
      rcases hmem with (hwhole | rfl | hfraction) | hblanksmem
      · simp [hpointed.digits_whole c hwhole] at hdigit
      · exact absurd rfl hpoint
      · simp [hpointed.digits_fraction c hfraction] at hdigit
      · simp [hblanks c hblanksmem] at hblank

/-- Digits with a point among them are a decimal number in command text. -/
theorem ofCommandText_of_isPointed {whole fraction : List Char} (h : IsPointed whole fraction) :
    ofCommandText (String.ofList (whole ++ '.' :: fraction)) =
      .ok (.float (Binary64.nearest false (IsPointed.value whole fraction))) := by
  have hread := Numeral.readBinary?_of_isPointed h (List.forall_mem_nil _)
  rw [List.append_nil] at hread
  simp only [ofCommandText, String.toList_ofList, numberShape?_of_isPointed h, hread]

/-! ## What command text stands for -/

/-- The values that a command text can stand for; the text itself is one of them. -/
inductive IsRead (s : String) : Value → Prop
  | bool (b : Bool) : IsRead s (.bool b)
  | int (n : ℕ) : IsRead s (.int n)
  | finite {m : ℕ} {e : ℤ} (h : Binary64.IsCanonical m e) : IsRead s (.float (.finite false m e))
  | infinite : IsRead s (.float (.infinite false))
  | text : IsRead s (.text s)

theorem isRead_of_ofCommandText {s : String} {value : Value} (h : ofCommandText s = .ok value) :
    IsRead s value := by
  unfold ofCommandText at h
  split at h
  case h_1 hshape =>
    rcases digits_of_numberShape? hshape with ⟨body, blanks, hs, hne, hbody, hblanks⟩
    rw [hs, Numeral.readInteger_digits hne hbody hblanks] at h
    split at h
    · cases h
    · cases h
      exact .int _
  case h_2 hshape =>
    rcases exists_isPointed_of_numberShape? hshape with
      ⟨whole, fraction, blanks, hs, hpointed, hblanks⟩
    rw [hs, Numeral.readBinary?_of_isPointed hpointed hblanks] at h
    cases h
    rcases Binary64.nearest_eq_infinite_or_finite false (IsPointed.value whole fraction) with
      hinfinite | ⟨m, e, hfinite⟩
    · rw [hinfinite]
      exact .infinite
    · obtain ⟨-, hcanonical, -⟩ :=
        Binary64.of_nearest (IsPointed.value_nonneg whole fraction) hfinite
      rw [hfinite]
      exact .finite hcanonical
  case h_3 =>
    split at h
    · cases h
      exact .bool true
    · split at h
      · cases h
        exact .bool false
      · cases h
        exact .text

/-! ## Writing and reading again -/

/-- A value that comes back from command text: every one but the numbers that are written with an
exponent or as a word. -/
def IsPlain : Value → Prop
  | .float x => x.IsPlain
  | _ => True

/-- A text that is no number and no truth value stands for itself. -/
theorem ofCommandText_of_numberShape?_eq_none {s : List Char} (h : numberShape? s = Option.none)
    (htrue : s ≠ ['t', 'r', 'u', 'e']) (hfalse : s ≠ ['f', 'a', 'l', 's', 'e']) :
    ofCommandText (String.ofList s) = .ok (.text (String.ofList s)) := by
  have hne : ∀ {t : List Char}, s ≠ t → String.ofList s ≠ String.ofList t :=
    fun hst heq => hst (String.ofList_injective heq)
  simp only [ofCommandText, String.toList_ofList, h]
  rw [if_neg (hne htrue), if_neg (hne hfalse)]

theorem ofCommandText_commandText_bool (b : Bool) :
    ofCommandText (String.ofList (Value.bool b).commandText) = .ok (.bool b) := by
  cases b <;> rfl

theorem ofCommandText_commandText_int {n : ℕ} (h : (Value.int n).isWritable = true) :
    ofCommandText (String.ofList (Value.int n).commandText) = .ok (.int n) := by
  have hshort : (natText n).length ≤ Numeral.digitLimit := of_decide_eq_true h
  have hne : natText n ≠ [] := Nat.toDigits_ne_nil
  have hread := ofCommandText_digits hne fun _ => isDigit_of_mem_natText
  rwa [if_neg (Nat.not_lt.2 hshort), ofDigitChars_natText] at hread

section

variable {m : ℕ} {e : ℤ}

theorem ofCommandText_commandText_plain (h : Binary64.IsCanonical m e)
    (hplain : Binary64.IsPlain (.finite false m e)) :
    ofCommandText (String.ofList (Value.float (.finite false m e)).commandText) =
      .ok (.float (.finite false m e)) := by
  obtain ⟨whole, fraction, htext, hpointed, hvalue⟩ :=
    Binary64.exists_isPointed_finiteText h hplain
  have hcommand : (Value.float (.finite false m e)).commandText = whole ++ '.' :: fraction := htext
  rw [hcommand, ofCommandText_of_isPointed hpointed, hvalue]

theorem ofCommandText_commandText_beyond (h : Binary64.IsCanonical m e)
    (hbeyond : ¬ Binary64.IsPlain (.finite false m e)) :
    ofCommandText (String.ofList (Value.float (.finite false m e)).commandText) =
      .ok (.text (String.ofList (Value.float (.finite false m e)).commandText)) := by
  obtain ⟨hexponent, d, hd, hdigit⟩ := Binary64.exponent_mem_finiteText h hbeyond
  have hcommand : (Value.float (.finite false m e)).commandText =
      Binary64.finiteText false m e := rfl
  -- the words for truth values have that letter too, but no digit
  have hword : ∀ {t : List Char}, (∀ c ∈ t, c.isDigit = false) →
      Binary64.finiteText false m e ≠ t := by
    rintro t ht rfl
    simp [ht d hd] at hdigit
  rw [hcommand]
  exact ofCommandText_of_numberShape?_eq_none
    (numberShape?_eq_none hexponent (by decide) (by decide) (by decide))
    (hword (by simp)) (hword (by simp))

end

theorem ofCommandText_commandText_infinite :
    ofCommandText (String.ofList (Value.float (.infinite false)).commandText) =
      .ok (.text (String.ofList (Value.float (.infinite false)).commandText)) := by
  refine ofCommandText_of_numberShape?_eq_none (s := ['i', 'n', 'f']) ?_ (by decide) (by decide)
  exact numberShape?_eq_none (c := 'i') (by decide) (by decide) (by decide) (by decide)

/-! ## Copies -/

/-- The text that a placeholder gives for a field with a value that was read from command text. -/
theorem fillTemplate_field {s : String} {value : Value} (h : ofCommandText s = .ok value)
    (source : Source) (m : Message) {name : List Char} (hne : name ≠ [])
    (hcloser : Placeholder.field.closer ∉ name) (hfield : m.get (String.ofList name) = value)
    (draws : Draws) :
    fillTemplate source m (Segment.place .field name).text draws = (.ok value.commandText, draws) := by
  have hwritable := isWritable_of_ofCommandText h
  rw [fillTemplate, Segment.segments_place hne hcloser]
  simp [segmentsText, segmentText, fieldText, hfield, hwritable]

/-- A value that was read from command text is what a copy of it is read as, if it is no number that is
written with an exponent or as a word; such a number is read as its text. -/
theorem copy_keeps_value {s : String} {value : Value} (h : ofCommandText s = .ok value) :
    (value.IsPlain → ofCommandText (String.ofList value.commandText) = .ok value) ∧
    (¬ value.IsPlain → ofCommandText (String.ofList value.commandText) =
      .ok (.text (String.ofList value.commandText))) ∧
    ∀ (source : Source) (m : Message) (name : List Char) (draws : Draws), name ≠ [] →
      Placeholder.field.closer ∉ name → m.get (String.ofList name) = value →
        fillTemplate source m (Segment.place .field name).text draws =
          (.ok value.commandText, draws) := by
  refine ⟨?_, ?_, fun source m name draws hne hcloser hfield =>
    fillTemplate_field h source m hne hcloser hfield draws⟩
  · intro hplain
    cases isRead_of_ofCommandText h with
    | bool b => exact ofCommandText_commandText_bool b
    | int n => exact ofCommandText_commandText_int (isWritable_of_ofCommandText h)
    | finite hcanonical => exact ofCommandText_commandText_plain hcanonical hplain
    | infinite => exact hplain.elim
    | text =>
      have htext : String.ofList (Value.text s).commandText = s := String.ofList_toList
      rw [htext, h]
  · intro hbeyond
    cases isRead_of_ofCommandText h with
    | bool b => exact absurd trivial hbeyond
    | int n => exact absurd trivial hbeyond
    | finite hcanonical => exact ofCommandText_commandText_beyond hcanonical hbeyond
    | infinite => exact ofCommandText_commandText_infinite
    | text => exact absurd trivial hbeyond

/-- The value of a text that has zeros on either side and a line feed at its end. -/
def sevenAndHalf : Value :=
  .float (.finite false 8444249301319680 (-50))

theorem copy_of_decimal_comes_back :
    ofCommandText "007.50\n" = .ok sevenAndHalf ∧ sevenAndHalf.IsPlain ∧
      ofCommandText (String.ofList sevenAndHalf.commandText) = .ok sevenAndHalf ∧
      fillTemplate .still (.fresh "m" [("x", sevenAndHalf)] Source.still.now)
        (Segment.place .field ['x']).text .start = (.ok sevenAndHalf.commandText, .start) := by
  have hshape : numberShape? "007.50\n".toList = some .decimal := by decide +kernel
  have hnumber : Numeral.readBinary? "007.50\n".toList =
      some (.finite false 8444249301319680 (-50)) := by decide +kernel
  have hread : ofCommandText "007.50\n" = .ok sevenAndHalf := by
    simp only [ofCommandText, hshape, hnumber, sevenAndHalf]
  have hplain : sevenAndHalf.IsPlain := by
    refine .inr ⟨?_, ?_⟩ <;> norm_num
  have hfield : (Message.fresh "m" [("x", sevenAndHalf)] Source.still.now).get
      (String.ofList ['x']) = sevenAndHalf := rfl
  obtain ⟨hcopy, -, hfill⟩ := copy_keeps_value hread
  exact ⟨hread, hplain, hcopy hplain,
    hfill .still _ ['x'] .start (by decide) (by decide) hfield⟩

/-- From `10 ^ 16` on a number is written with an exponent, and its copy is a text. -/
theorem copy_of_large_number_is_text :
    ¬ ∀ (s : String) (value : Value), ofCommandText s = .ok value →
      ofCommandText (String.ofList value.commandText) = .ok value := by
  intro hall
  have hread : ofCommandText "10000000000000000.0" =
      .ok (.float (.finite false 5000000000000000 1)) := rfl
  have htext : (Value.float (.finite false 5000000000000000 1)).commandText =
      ['1', 'e', '+', '1', '6'] := by decide +kernel
  have hcopy := hall _ _ hread
  rw [htext] at hcopy
  have hstays : ofCommandText (String.ofList ['1', 'e', '+', '1', '6']) = .ok (.text "1e+16") := rfl
  rw [hstays] at hcopy
  cases hcopy

end Value
end Switchboard
