import Switchboard.Proofs.Cli.Threads

/-!
# Every schedule of the daemon

Whatever the schedule of the two threads, the books of the daemon are kept (`Ledger.run`): those of
the desk, where messages come in and are worked off and the rules follow from one dispatch to the
next (`Books`), and those of the lines, which are read one after the other (`Lines`). Each act of
one of the threads keeps them (`Ledger.step`), and as long as the daemon is not at its end one of
the threads can act (`Ledger.goes_on`).
-/

namespace Switchboard
namespace Cli

open Bus (Desk Deed)

/-! ## The desk of the daemon -/

structure Books (settings : EngineSettings) (router : Router)
    (deeds : List (Deed Surroundings Router)) (desk : Desk Router) : Prop where
  accounts : Bus.Accounts Router.world router.bus.queue deeds desk
  hooked : Hooked settings desk.world
  begun : ∀ d ∈ deeds.filterMap Dispatch.ofDeed?, d.before.settings = settings
  follows : Follows (Router.messageName settings.haltMessage) router
    (deeds.filterMap Dispatch.ofDeed?) desk.world

namespace Books

variable {settings : EngineSettings} {router : Router}
  {deeds : List (Deed Surroundings Router)} {desk desk' : Desk Router}

theorem idle (hhooked : Hooked settings router) :
    Books settings router [] (Desk.idle Router.world router) where
  accounts := Bus.Accounts.idle router
  hooked := hhooked
  begun := by simp
  follows := rfl

/-- What a delivery from the queue leaves of the rules. -/
theorem rules_of_processOne {around : Surroundings} {m : Message} {rest : List Message}
    {before after : Router} {delivery : Bus.Delivery} (hhooked : Hooked settings before)
    (hqueue : Router.world.queue before = m :: rest)
    (hprocessed : Router.world.processOne (Router.invoke around) before = some (delivery, after))
    (hname : m.name ≠ Router.messageName settings.haltMessage) :
    let d : Dispatch := ⟨around, m, Router.world.requeue rest before, after⟩
    after.rules = if d.reloads then (d.before.reload around).2.rules else d.before.rules := by
  have hhalt : ∀ s ∈ (Router.world.requeue rest before).bus.handlers m.name,
      s.handler ≠ .haltHook := fun s hs hhook => hname (hhooked.halt m.name s hs hhook)
  rw [Bus.World.processOne_cons hqueue, Option.some.injEq, Prod.mk.injEq] at hprocessed
  rw [← hprocessed.2]
  calc
    (Router.absorbAll _ _).rules
        = (Router.world.dispatch (Router.invoke around) m
            (Router.world.requeue rest before)).2.rules := Router.rules_absorbAll _ _
    _ = _ := Router.deliver_rules around _ hhalt none m _

theorem step {deed : Deed Surroundings Router} (h : Books settings router deeds desk)
    (hstep : Desk.Step Router.world Router.invoke desk deed desk') :
    Books settings router (deeds ++ [deed]) desk' := by
  have haccounts := h.accounts.step hstep
  rcases h with ⟨-, hhooked, hbegun, hfollows⟩
  -- a deed that dispatches nothing leaves the rules alone
  have hquiet : Dispatch.ofDeed? deed = none → desk'.world.rules = desk.world.rules →
      Hooked settings desk'.world → Books settings router (deeds ++ [deed]) desk' := by
    intro hnone hrules hhooked'
    have hdeeds : (deeds ++ [deed]).filterMap Dispatch.ofDeed? =
        deeds.filterMap Dispatch.ofDeed? := by simp [hnone]
    exact ⟨haccounts, hhooked', hdeeds ▸ hbegun, hdeeds ▸ hfollows.congr_last hrules⟩
  cases hstep with
  | put m s n job => exact hquiet rfl rfl (hhooked.aside _ s.draws s.trail)
  | submit m first waiting delivery s n => exact hquiet rfl rfl (hhooked.aside _ s.draws s.trail)
  | finish m delivery s n => exact hquiet rfl rfl hhooked
  | @take around m rest added before after n delivery hqueue hprocessed hadded =>
    have hafter : Hooked settings after :=
      (Hooked.stable settings).processOne ((Router.processOne_eq before around).trans hprocessed)
        hhooked
    -- what the handlers submit does not belong to the rules, nor where it waits
    refine ⟨haccounts, hafter.aside rest after.draws after.trail, ?_, ?_⟩
    · intro d hd
      rw [List.filterMap_append, List.mem_append] at hd
      rcases hd with hold | hnew
      · exact hbegun d hold
      · cases List.mem_singleton.1 hnew
        exact hhooked.settings_eq
    · rw [List.filterMap_append]
      refine Follows.append_iff.2 ⟨before, hfollows, rfl, ?_, rfl⟩
      exact rules_of_processOne hhooked hqueue hprocessed

end Books

/-! ## The lines of the daemon -/

/-- The books of the lines. Each line was read in its turn and made what it makes at some moment,
and a fault ends the reading. -/
structure Lines (settings : EngineSettings) (lines : List String) (acts : List Act)
    (reader : Reader) : Prop where
  read : lines = (acts.filterMap Act.line?).map Prod.fst ++ reader.remaining
  made : ∀ line result, (line, result) ∈ acts.filterMap Act.line? →
    ∃ now, messageOfLine now settings line = result
  accepted : (∃ fault rest, reader = .left fault rest) ∨
    ∀ line fault, (line, .error fault) ∉ acts.filterMap Act.line?

namespace Lines

variable {settings : EngineSettings} {lines : List String} {acts : List Act}

theorem start (settings : EngineSettings) (lines : List String) :
    Lines settings lines [] (.reading lines) where
  read := rfl
  made := by simp
  accepted := .inr (by simp)

/-- What has to do with no line keeps the books of the lines. -/
theorem keep {act : Act} {reader reader' : Reader} (h : Lines settings lines acts reader)
    (hnone : act.line? = none) (hremaining : reader'.remaining = reader.remaining)
    (hleft : ∀ fault rest, reader = .left fault rest → reader' = .left fault rest) :
    Lines settings lines (acts ++ [act]) reader' := by
  have hacts : (acts ++ [act]).filterMap Act.line? = acts.filterMap Act.line? := by
    simp [hnone]
  refine ⟨?_, ?_, ?_⟩
  · rw [hacts, hremaining]
    exact h.read
  · rw [hacts]
    exact h.made
  · rw [hacts]
    exact h.accepted.imp_left fun ⟨fault, rest, hreader⟩ => ⟨fault, rest, hleft fault rest hreader⟩

theorem next {now : Calendar.Moment} {line : String} {rest : List String}
    {result : Except Fault (Option Message)} {reader' : Reader}
    (h : Lines settings lines acts (.reading (line :: rest)))
    (hline : messageOfLine now settings line = result) (hremaining : reader'.remaining = rest)
    (hleft : ∀ fault, result = .error fault → reader' = .left fault rest) :
    Lines settings lines (acts ++ [.line line result]) reader' := by
  have hacts : (acts ++ [Act.line line result]).filterMap Act.line? =
      acts.filterMap Act.line? ++ [(line, result)] := by
    simp [Act.line?]
  refine ⟨?_, ?_, ?_⟩
  · rw [hacts, hremaining, h.read]
    simp [Reader.remaining]
  · intro line' result' hmem
    rw [hacts, List.mem_append, List.mem_singleton] at hmem
    rcases hmem with hold | hnew
    · exact h.made line' result' hold
    · cases hnew
      exact ⟨now, hline⟩
  · cases result with
    | error fault => exact .inl ⟨fault, rest, hleft fault rfl⟩
    | ok m? =>
      -- reading went on, so no line before this one was refused either
      refine .inr ?_
      intro line' fault hmem
      rw [hacts, List.mem_append, List.mem_singleton] at hmem
      rcases hmem with hold | hnew
      · rcases h.accepted with ⟨fault', rest', hreader⟩ | hnone
        · cases hreader
        · exact hnone line' fault hold
      · cases hnew

theorem step {daemon daemon' : Daemon} {act : Act}
    (h : Lines settings lines acts daemon.reader)
    (hsettings : daemon.desk.world.settings = settings) (hstep : Daemon.Step daemon act daemon') :
    Lines settings lines (acts ++ [act]) daemon'.reader := by
  cases hstep with
  | skip hline => exact h.next (hsettings ▸ hline) rfl (by simp)
  | put hline hput => exact h.next (hsettings ▸ hline) rfl (by simp)
  | refuse hline => exact h.next (hsettings ▸ hline) rfl (by simp)
  | wait desk => exact h.keep rfl rfl (by simp)
  | halt hfinished => exact h.keep rfl rfl (by simp)
  | work hinside hdeed => exact h.keep rfl rfl fun _ _ hreader => hreader
  | report reader router n job => exact h.keep rfl rfl fun _ _ hreader => hreader

end Lines

/-! ## Every schedule -/

/-- What an act does for the desk: a deed, or nothing but to clear the trail. -/
theorem Daemon.Step.desk {a b : Daemon} {act : Act} (h : Daemon.Step a act b) :
    (∃ deed, act.deed? = some deed ∧ Desk.Step Router.world Router.invoke a.desk deed b.desk) ∨
    (act.deed? = none ∧
      ∃ trail, b.desk = { a.desk with world := { a.desk.world with trail := trail } }) := by
  cases h with
  | skip hline => exact .inr ⟨rfl, _, rfl⟩
  | put hline hput => exact .inl ⟨_, rfl, hput⟩
  | refuse hline => exact .inr ⟨rfl, _, rfl⟩
  | wait desk => exact .inr ⟨rfl, _, rfl⟩
  | halt hfinished => exact .inr ⟨rfl, _, rfl⟩
  | work hinside hdeed => exact .inl ⟨_, rfl, hdeed⟩
  | report reader router n job => exact .inr ⟨rfl, _, rfl⟩

/-- The books of the daemon: those of its lines and of its desk. It ends when nothing is
unfinished. -/
structure Ledger (settings : EngineSettings) (lines : List String) (router : Router)
    (acts : List Act) (daemon : Daemon) : Prop where
  lines : Lines settings lines acts daemon.reader
  books : Books settings router (acts.filterMap Act.deed?) daemon.desk
  finished : daemon.reader = .halting → daemon.desk.unfinished = 0

namespace Ledger

variable {settings : EngineSettings} {lines : List String} {router : Router} {acts : List Act}
  {daemon daemon' : Daemon}

theorem start (hhooked : Hooked settings router) (lines : List String) :
    Ledger settings lines router [] (Daemon.start lines router) where
  lines := Lines.start settings lines
  books := Books.idle hhooked
  finished := by simp [Daemon.start]

theorem step {act : Act} (h : Ledger settings lines router acts daemon)
    (hstep : Daemon.Step daemon act daemon') :
    Ledger settings lines router (acts ++ [act]) daemon' := by
  refine ⟨h.lines.step h.books.hooked.settings_eq hstep, ?_, ?_⟩
  · rw [List.filterMap_append]
    rcases hstep.desk with ⟨deed, hdeed, hdesk⟩ | ⟨hnone, trail, hdesk⟩
    · simpa [List.filterMap_cons, hdeed] using h.books.step hdesk
    · rcases h.books with ⟨haccounts, hhooked, hbegun, hfollows⟩
      rw [hdesk]
      simp only [List.filterMap_cons, hnone, List.filterMap_nil, List.append_nil]
      exact ⟨⟨haccounts.conserved, haccounts.delivered, haccounts.counted⟩,
        hhooked.aside _ _ trail, hbegun, hfollows.congr_last rfl⟩
  · intro hhalting
    cases hstep with
    | halt hfinished => exact hfinished
    | work hinside hdeed =>
      -- there is no more work to do
      exact absurd hinside (h.books.accounts.put_of_finished (h.finished hhalting) hdeed)
    | report reader router n job => exact h.finished hhalting
    | skip hline => cases hhalting
    | put hline hput => cases hhalting
    | refuse hline => cases hhalting
    | wait desk => cases hhalting

theorem run {more : List Act} (h : Ledger settings lines router acts daemon)
    (hrun : Daemon.Run daemon more daemon') :
    Ledger settings lines router (acts ++ more) daemon' := by
  induction hrun generalizing acts with
  | nil => simpa using h
  | cons hstep _ ih => simpa using ih (h.step hstep)

end Ledger

/-- As long as the daemon has not come to an end, one of its threads can go on. -/
theorem Ledger.goes_on {settings : EngineSettings} {lines : List String} {router : Router}
    {acts : List Act} {daemon : Daemon} (h : Ledger settings lines router acts daemon)
    (around : Surroundings) (hhalting : daemon.reader ≠ .halting)
    (hleft : ∀ fault rest, daemon.reader ≠ .left fault rest) :
    ∃ act daemon', Daemon.Step daemon act daemon' := by
  rcases daemon with ⟨reader, desk⟩
  cases reader with
  | reading remaining =>
    cases remaining with
    | nil => exact ⟨_, _, .wait desk⟩
    | cons line rest =>
      cases hline : messageOfLine around.source.now desk.world.settings line with
      | error fault => exact ⟨_, _, .refuse hline⟩
      | ok m? =>
        cases m? with
        | none => exact ⟨_, _, .skip hline⟩
        | some m => exact ⟨_, _, .put hline (.put m desk.world desk.unfinished desk.job)⟩
  | joining =>
    by_cases hfinished : desk.unfinished = 0
    · exact ⟨_, _, .halt hfinished⟩
    · -- while something is unfinished the working thread goes on
      rcases h.books.accounts.goes_on around (Router.onlyAdds_invoke around) hfinished with
        ⟨deed, desk', hstep, hinside⟩
      exact ⟨_, _, .work hinside hstep⟩
  | halting => exact absurd rfl hhalting
  | left fault rest => exact absurd rfl (hleft fault rest)

end Cli
end Switchboard
