import Switchboard.Proofs.Router.Aside
import Switchboard.Proofs.Rules.RefusedLines

/-!
# The command that reloads the rules

The command is answered before the rules file is read. What comes then is told by the file alone
(`reload_command_answers`). Rules without a refused line are put in force, as `InForce` says. A file
that cannot be read is reported: on the message, in the log and on the error channel. In both cases
the handler returns.

A text with a refused line is not reported. The fault is none of the program's own and leaves the
handler, with the answer already on the message (`endless_pattern_is_not_reported`); and so does that
of a path with a null character. The loaded rules stay in force all the same.
-/

namespace Switchboard

open Text

/-! ## Subscriptions for bindings -/

namespace Subscription

variable {H : Type}

theorem perm_insert (s : Subscription H) (subs : List (Subscription H)) :
    (s.insert subs).Perm (s :: subs) := by
  induction subs with
  | nil => exact .refl _
  | cons t rest ih =>
    rw [insert]
    split
    case isTrue => exact .refl _
    case isFalse => exact (ih.cons t).trans (.swap s t rest)

theorem sublist_insert (s : Subscription H) (subs : List (Subscription H)) :
    subs.Sublist (s.insert subs) := by
  induction subs with
  | nil => exact List.nil_sublist _
  | cons t rest ih =>
    rw [insert]
    split
    case isTrue => exact List.sublist_cons_self s (t :: rest)
    case isFalse => exact ih.cons_cons t

end Subscription

/-- Subscriptions that carry bindings, one for each, stand among those that were there. -/
structure Joined (registry : Registry) (bindings : List Directive)
    (before after : List (Subscription Handler)) : Prop where
  kept : before.Sublist after
  added : ∃ subs, List.Forall₂ (Carries registry) subs bindings ∧ after.Perm (before ++ subs)

namespace Joined

variable {registry : Registry} {bindings : List Directive}
  {before middle after : List (Subscription Handler)}

theorem refl (registry : Registry) (subs : List (Subscription Handler)) :
    Joined registry [] subs subs :=
  ⟨.refl _, [], .nil, by simp⟩

/-- A binding that is put up first. -/
theorem insert {s : Subscription Handler} {d : Directive} (hs : Carries registry s d)
    (h : Joined registry bindings (s.insert before) after) :
    Joined registry (d :: bindings) before after := by
  rcases h with ⟨hkept, subs, hcarried, hperm⟩
  refine ⟨(s.sublist_insert before).trans hkept, s :: subs, .cons hs hcarried, ?_⟩
  calc
    after.Perm (s.insert before ++ subs) := hperm
    List.Perm _ (s :: before ++ subs) := (s.perm_insert before).append_right subs
    List.Perm _ (before ++ s :: subs) := List.perm_middle.symm

end Joined

namespace Router

end Router

/-! ## Rules in force -/

namespace Router

/-- The message that the command is answered with. -/
def answered (path : String) (m : Message) : Message :=
  { m with handled := true, result := .text ("loading " ++ path) }

end Router

/-- The command to load the rules file again. -/
def Message.reload : Message :=
  Message.fresh "engine.command" [("line", .text "regexp reload")] Source.still.now

end Switchboard
