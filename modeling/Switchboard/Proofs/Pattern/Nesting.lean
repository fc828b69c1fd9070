import Switchboard.Pattern.Read

/-!
# Patterns nested too deep

The room for groups inside groups is bounded: a text that opens more groups than there is room for
is no pattern, whatever follows the brackets. The reader goes into one group after the other, so the
proof goes by induction on the brackets that are left, with the calls under way as the invariant: at
every bracket they still leave room, and with all the brackets that follow they do not.
-/

namespace Switchboard
namespace Pattern

open Reader

variable {progress : Progress} {flaw : Flaw} {rest : List Token}

/-! ## Runs of readers -/

theorem Reader.run_bind_of_ok {α β : Type} {read : Reader α} {next : α → Reader β} {a : α}
    {after : Progress} (h : read.run progress = .ok (a, after)) :
    (read >>= next).run progress = (next a).run after := by
  rw [StateT.run_bind, h]
  rfl

theorem Reader.run_bind_of_error {α β : Type} {read : Reader α} {next : α → Reader β}
    (h : read.run progress = .error flaw) : (read >>= next).run progress = .error flaw := by
  rw [StateT.run_bind, h]
  rfl

theorem Reader.run_peek : peek.run progress = .ok (progress.rest.head?, progress) :=
  rfl

theorem Reader.run_advance {token : Token} (h : progress.rest = token :: rest)
    (hrest : rest.head? ≠ some .dangling) :
    advance.run progress = .ok (some token, { progress with rest := rest }) := by
  have hdemand : ∀ progress, (demand (rest.head? != some .dangling)).run progress =
      .ok ((), progress) := by
    intro progress
    simp [demand, hrest]
    rfl
  rw [advance, run_bind_of_ok (a := progress) rfl, h]
  exact run_bind_of_ok (hdemand progress)

theorem Reader.run_accept_of_ne {c : Char} (h : progress.rest.head? ≠ some (.char c)) :
    (accept c).run progress = .ok (false, progress) := by
  rw [accept, run_bind_of_ok run_peek, if_neg h]
  rfl

/-- Without room for the calls nothing is read. -/
theorem Reader.run_within_of_lt {α : Type} {calls : Nat} {read : Reader α}
    (h : callRoom < progress.depth + calls) :
    (within calls read).run progress = .error .tooDeep := by
  rw [within, run_bind_of_ok (a := progress) rfl, if_pos h]
  rfl

/-- With room for the calls, what goes wrong inside goes wrong. -/
theorem Reader.run_within_of_error {α : Type} {calls : Nat} {read : Reader α}
    (hroom : progress.depth + calls ≤ callRoom)
    (h : read.run { progress with depth := progress.depth + calls } = .error flaw) :
    (within calls read).run progress = .error flaw := by
  rw [within, run_bind_of_ok (a := progress) rfl, if_neg (by omega),
    run_bind_of_ok (a := PUnit.unit) rfl]
  exact run_bind_of_error h

/-! ## One bracket -/

/-- What goes wrong in the first alternative goes wrong in the alternatives. -/
theorem alternatives_error {nested : Bool} {flags : Flags} {fuel : Nat}
    (h : (items (!nested) flags [] fuel).run progress = .error flaw) :
    (alternatives nested flags (fuel + 1)).run progress = .error flaw := by
  rw [alternatives]
  exact run_bind_of_error h

/-- What goes wrong in the content of a group goes wrong in the group. -/
theorem captured_error {flags : Flags} {fuel : Nat}
    (h : (within groupCalls (alternatives true flags fuel)).run
      { progress with widths := progress.widths.push none } = .error flaw) :
    (captured none flags (fuel + 1)).run progress = .error flaw := by
  have hopen : (openGroup none).run progress =
      .ok (progress.widths.size + 1, { progress with widths := progress.widths.push none }) :=
    rfl
  rw [captured, run_bind_of_ok hopen]
  exact run_bind_of_error h

/-- A bracket with a bracket behind it opens a group that remembers its text. -/
theorem items_bracket {opening : Bool} {flags : Flags} {fuel : Nat}
    (hrest : progress.rest = .char '(' :: .char '(' :: rest)
    (h : (captured none flags fuel).run
      { progress with rest := .char '(' :: rest } = .error flaw) :
    (items opening flags [] (fuel + 2)).run progress = .error flaw := by
  have hbracketed : ∀ first, (bracketed first flags (fuel + 1)).run
      { progress with rest := .char '(' :: rest } = .error flaw := by
    intro first
    rw [bracketed, run_bind_of_ok (run_accept_of_ne (by simp))]
    exact h
  have hblank : Text.isAsciiBlank '(' = false := by decide
  have hhash : ('(' == '#') = false := by decide
  rw [items, run_bind_of_ok run_peek, hrest]
  simp only [List.head?_cons, hblank, hhash, Bool.and_false, Bool.false_eq_true, if_false, if_true]
  rw [if_neg (by decide), run_bind_of_ok (run_advance hrest (by simp)), if_neg (by decide),
    if_neg (by decide), if_neg (by decide), if_neg (by decide)]
  exact run_bind_of_error (hbracketed _)

/-! ## All the brackets -/

/-- The reader does not get through more brackets than there is room for. -/
theorem items_brackets {count : Nat} (opening : Bool) (flags : Flags) (fuel : Nat)
    (hrest : progress.rest = List.replicate (count + 1) (.char '(') ++ rest)
    (hroom : progress.depth ≤ callRoom)
    (hdeep : callRoom < progress.depth + groupCalls * count) (hfuel : 4 * count ≤ fuel) :
    (items opening flags [] fuel).run progress = .error .tooDeep := by
  induction count generalizing progress opening fuel with
  | zero => omega
  | succ count ih =>
    -- the items, the bracket, the group and its alternatives take a step of the fuel each
    obtain ⟨fuel, rfl⟩ : ∃ n, fuel = n + 4 := ⟨fuel - 4, by omega⟩
    refine items_bracket hrest (captured_error ?_)
    by_cases hfull : callRoom < progress.depth + groupCalls
    · exact run_within_of_lt hfull
    · refine run_within_of_error (by simpa using hfull) (alternatives_error ?_)
      exact ih _ _ rfl (by simpa using hfull) (by simp only [groupCalls] at *; omega) (by omega)

theorem tokensOf_brackets (count : Nat) (s : List Char) :
    tokensOf (List.replicate count '(' ++ s) =
      List.replicate count (.char '(') ++ tokensOf s := by
  induction count with
  | zero => rfl
  | succ count ih =>
    simp only [List.replicate_succ, List.cons_append, ← ih]
    rw [tokensOf] <;> simp

/-- A text that opens more groups than there is room for is no pattern. -/
theorem Compiled.ofText_brackets (count : Nat) (s : List Char)
    (hdeep : callRoom < groupCalls * count) :
    Compiled.ofText (List.replicate (count + 1) '(' ++ s) = .error .tooDeep := by
  have htokens := tokensOf_brackets (count + 1) s
  have hread : ∀ progress : Progress, progress.depth = 0 →
      progress.rest = tokensOf (List.replicate (count + 1) '(' ++ s) →
      (wholePattern (fuelFor progress.rest)).run progress = .error .tooDeep := by
    intro progress hdepth hrest
    have hdemand : (demand (progress.rest.head? != some .dangling)).run progress =
        .ok ((), progress) := by
      rw [hrest, htokens]
      rfl
    rw [wholePattern, run_bind_of_ok run_peek, run_bind_of_ok hdemand]
    refine run_bind_of_error (alternatives_error (items_brackets _ _ _ (hrest.trans htokens)
      (by simp [hdepth]) (by omega) ?_))
    simp only [hrest, htokens, List.length_append, List.length_replicate]
    omega
  exact congrArg (Except.map _) (hread ⟨_, #[], [], none, [], {}, 0⟩ rfl rfl)

end Pattern
end Switchboard
