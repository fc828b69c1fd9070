import Switchboard.Proofs.Cli.Schedules

/-!
# What the daemon does for its lines

Whatever the schedule, all messages are dispatched in the order in which they came into the queue,
those of the lines in the order of the lines, and none is left at the end. A dispatch changes the
rules by a reload only, as long as no message tells them that the daemon ends
(`daemon_serves_lines`). A line can hold such a message, and then the lines behind it find no rules
(`halt_line_drops_rules`).

The program itself runs by one of the schedules (`run_runCalls`).
-/

namespace Switchboard
namespace Cli

open Bus (Desk Deed)

/-! ## What comes in and what is dispatched -/

theorem filterMap_enqueued (acts : List Act) :
    (acts.filterMap Act.deed?).filterMap Deed.enqueued? =
      (acts.filterMap Act.arrival?).map (·.message) := by
  rw [List.filterMap_filterMap, List.map_filterMap]
  refine List.filterMap_congr ?_
  intro act _
  cases act with
  | line text result =>
    rcases result with fault | m?
    · rfl
    · cases m? <;> rfl
  | work deed => cases deed <;> rfl
  | wait => rfl
  | halt => rfl
  | report => rfl

theorem filterMap_taken (acts : List Act) :
    (acts.filterMap Act.deed?).filterMap Deed.taken? = (dispatches acts).map (·.message) := by
  rw [dispatches, List.map_filterMap]
  refine List.filterMap_congr ?_
  intro deed _
  cases deed <;> rfl

def makesMessage : Except Fault (Option Message) → Bool
  | .ok (some _) => true
  | _ => false

theorem filterMap_lines (acts : List Act) :
    (acts.filterMap Act.arrival?).filterMap (·.line?) =
      ((acts.filterMap Act.line?).filter fun p => makesMessage p.2).map Prod.fst := by
  rw [List.filterMap_filterMap, ← List.filterMap_eq_filter, List.filterMap_filterMap,
    List.map_filterMap]
  refine List.filterMap_congr ?_
  intro act _
  cases act with
  | line text result =>
    rcases result with fault | m?
    · rfl
    · cases m? <;> rfl
  | work deed => cases deed <;> rfl
  | wait => rfl
  | halt => rfl
  | report => rfl

/-- Where all lines were read and none was refused, the messages of lines are those of the lines
that are not blank. -/
theorem Lines.arrivals {settings : EngineSettings} {lines : List String} {acts : List Act}
    (h : Lines settings lines acts .halting) :
    (acts.filterMap Act.arrival?).filterMap (·.line?) =
      lines.filter fun line => !isBlankLine line := by
  have hread : lines = (acts.filterMap Act.line?).map Prod.fst := by
    simpa [Reader.remaining] using h.read
  have hmade : ∀ p ∈ acts.filterMap Act.line?, makesMessage p.2 = !isBlankLine p.1 := by
    rintro ⟨line, result⟩ hmem
    rcases h.made line result hmem with ⟨now, hline⟩
    rcases result with fault | m?
    · rcases h.accepted with ⟨fault', rest, hreader⟩ | hnone
      · cases hreader
      · exact absurd hmem (hnone line fault)
    · cases m? with
      | none => simp [makesMessage, messageOfLine_none.1 hline]
      | some m =>
        have hblank : isBlankLine line ≠ true := by
          intro hblank
          rw [messageOfLine_none.2 hblank] at hline
          cases hline
        simp [makesMessage, hblank]
  rw [filterMap_lines, List.filter_congr hmade, hread, List.filter_map]
  rfl

/-- A dispatch that comes to the hook for the command first reloads the rules, if its message is the
command to do so. -/
theorem Dispatch.reloads_of_first {d : Dispatch} {s : Subscription Handler}
    {rest : List (Subscription Handler)}
    (hfirst : d.before.bus.handlers d.message.name = s :: rest) (hhook : s.handler = .commandHook)
    (hcommand : d.before.isReloadCommand d.message = true)
    (hwritable : d.before.settings.rulesFile.isWritable = true) : d.reloads = true := by
  rw [Dispatch.reloads, hfirst, Bus.trace]
  simp [Router.asksReload, hhook, hcommand, hwritable]

/-- What the daemon has done for its lines when it comes to its end. -/
structure Served (settings : EngineSettings) (lines : List String) (router : Router)
    (acts : List Act) (last : Router) : Prop where
  /-- Every message that came in was dispatched once, in the order in which it came. -/
  dispatched : (dispatches acts).map (·.message) = (acts.filterMap Act.arrival?).map (·.message)
  /-- The messages of lines came in the order of the lines, one for each that is not blank. -/
  inOrder : (acts.filterMap Act.arrival?).filterMap (·.line?) =
    lines.filter fun line => !isBlankLine line
  /-- The message of a line is what the line makes. -/
  made : ∀ a ∈ acts.filterMap Act.arrival?, ∀ line, a.line? = some line →
    ∃ now, messageOfLine now settings line = .ok (some a.message)
  /-- Each dispatch finds the rules that the one before it left. -/
  follows : Follows (Router.messageName settings.haltMessage) router (dispatches acts) last
  /-- A dispatch reloads the rules where the hook comes first to the message of a reload line. -/
  reloads : ∀ d ∈ dispatches acts, ∀ now s rest, d.message = reloadMessage now settings →
    (∃ line, settings.reloadCommand.isText line = true) →
    d.before.bus.handlers d.message.name = s :: rest → s.handler = .commandHook →
    settings.rulesFile.isWritable = true → d.reloads = true

/-- A daemon that was started has the rules of the start and an empty trail. -/
theorem startDaemon_router {around : Surroundings} {session started : Session}
    (h : startDaemon around session = (.ok (), started)) :
    started.router =
      { ((session.router.absorb (Router.workerNote "started")).startUp around).2 with
        trail := [] } := by
  rcases hstart : (session.router.absorb (Router.workerNote "started")).startUp around with
    ⟨result, router⟩
  cases result with
  | error fault => simp [startDaemon, hstart] at h
  | ok loaded =>
    simp only [startDaemon, hstart, Prod.mk.injEq, true_and] at h
    rw [← h]
    rfl

/-- A fresh start puts the hooks in their places and nothing into the queue. -/
theorem hooked_of_startDaemon {around : Surroundings} {session started : Session}
    {settings : EngineSettings} (hfresh : session.router = Router.start settings)
    (hstart : startDaemon around session = (.ok (), started)) :
    Hooked settings started.router ∧ started.router.bus.queue = [] := by
  have hnoted := (Hooked.start settings).absorb (Router.workerNote "started")
  have hqueue := ((Router.start settings).absorb (Router.workerNote "started")).queue_startUp around
  rw [startDaemon_router hstart, hfresh]
  exact ⟨(hnoted.startUp around).aside _ _ [], hqueue⟩

/-- For every input and every schedule of the two threads, the daemon comes to its end with every
line served: the messages of the lines were dispatched once each and in their order, and those that
rules put into the queue in between. Each was dispatched with the rules that the ones before it
left. As long as no message told the rules that the daemon ends, these are the rules of the start up
to the first reload, and from a reload to the next one those that it left. Nothing is left to be
dispatched. -/
theorem daemon_serves_lines {around : Surroundings} {session started : Session}
    {settings : EngineSettings} {lines : List String} {acts : List Act} {daemon : Daemon}
    (hfresh : session.router = Router.start settings)
    (hstart : startDaemon around session = (.ok (), started))
    (hrun : Daemon.Run (Daemon.start lines started.router) acts daemon)
    (hhalting : daemon.reader = .halting) :
    Served settings lines started.router acts daemon.desk.world ∧
    daemon.desk.world.bus.queue = [] ∧ daemon.desk.job = none ∧
    (∀ front e back, dispatches acts = front ++ e :: back →
      Quiet (Router.messageName settings.haltMessage) front →
      e.before.rules = started.router.rules) ∧
    (∀ front d mid e back, dispatches acts = front ++ d :: (mid ++ e :: back) →
      d.message.name ≠ Router.messageName settings.haltMessage → d.reloads = true →
      Quiet (Router.messageName settings.haltMessage) mid →
      e.before.rules = (d.before.reload d.around).2.rules) ∧
    (∀ front d back, dispatches acts = front ++ d :: back →
      d.message.name ≠ Router.messageName settings.haltMessage → d.reloads = true →
      Quiet (Router.messageName settings.haltMessage) back →
      daemon.desk.world.rules = (d.before.reload d.around).2.rules) ∧
    (Quiet (Router.messageName settings.haltMessage) (dispatches acts) →
      daemon.desk.world.rules = started.router.rules) := by
  rcases hooked_of_startDaemon hfresh hstart with ⟨hhooked, hempty⟩
  rcases (Ledger.start hhooked lines).run hrun with ⟨hlines, hbooks, hfinished⟩
  rw [List.nil_append] at hlines hbooks
  rw [hhalting] at hlines
  -- the books are balanced, and at the end nothing is unfinished
  rcases hbooks.accounts.nothing_left (hfinished hhalting) with ⟨hqueue, hjob⟩
  have hfollows := hbooks.follows
  rw [← dispatches] at hfollows
  refine ⟨⟨?_, hlines.arrivals, ?_, hfollows, ?_⟩, hqueue, hjob, ?_, ?_, ?_, ?_⟩
  · -- what came in was taken, as nothing is left in the queue
    have hconserved := hbooks.accounts.conserved
    rw [hempty, hqueue, filterMap_enqueued, filterMap_taken, List.nil_append, List.append_nil]
      at hconserved
    exact hconserved.symm
  · intro a ha line hline
    rcases List.mem_filterMap.1 ha with ⟨act, hact, harrival⟩
    cases act with
    | line text result =>
      rcases result with fault | m?
      · cases harrival
      · cases m? with
        | none => cases harrival
        | some m =>
          cases harrival
          cases hline
          exact hlines.made line _ (List.mem_filterMap.2 ⟨_, hact, rfl⟩)
    | work deed =>
      -- a message that a deed puts into the queue stands for no line
      rcases Option.map_eq_some_iff.1 harrival with ⟨m, -, rfl⟩
      cases hline
    | wait => cases harrival
    | halt => cases harrival
    | report => cases harrival
  · rintro d hd now s rest hmessage ⟨line, hline⟩ hfirst hhook hwritable
    have hsettings := hbooks.begun d hd
    have hcommand : d.before.isReloadCommand d.message = true := by
      cases hreload : settings.reloadCommand <;> simp [hreload, Value.isText] at hline
      simp [Router.isReloadCommand, hmessage, hsettings, reloadMessage, Message.get, Message.fresh,
        Entries.get?, hreload, Value.equals, Value.sameKey]
    exact Dispatch.reloads_of_first hfirst hhook hcommand (hsettings ▸ hwritable)
  · intro front e back hsplit hquiet
    rw [hsplit] at hfollows
    exact hfollows.before_eq hquiet
  · intro front d mid e back hsplit hname hreloads hquiet
    rw [hsplit] at hfollows
    exact hfollows.before_eq_reload hname hreloads hquiet
  · intro front d back hsplit hname hreloads hquiet
    rw [hsplit] at hfollows
    exact hfollows.rules_eq_reload hname hreloads hquiet
  · exact fun hquiet => hfollows.rules_eq hquiet

/-! ## One line at a time -/

namespace Daemon

theorem Run.append {a b c : Daemon} {acts more : List Act} (hab : Run a acts b)
    (hbc : Run b more c) : Run a (acts ++ more) c := by
  induction hab with
  | nil => exact hbc
  | cons hstep _ ih => exact .cons hstep (ih hbc)

/-- Deeds of the working thread are acts, whatever the reading thread is at. -/
theorem run_work {desk desk' : Desk Router} {deeds : List (Deed Surroundings Router)}
    (h : Desk.Run Router.world Router.invoke desk deeds desk')
    (hinside : deeds.filterMap Deed.put? = []) (reader : Reader) :
    Run ⟨reader, desk⟩ (deeds.map Act.work) ⟨reader, desk'⟩ := by
  induction h with
  | nil desk => exact .nil _
  | @cons a b c deed deeds hstep _ ih =>
    rw [List.filterMap_eq_nil_iff] at hinside
    refine .cons (.work (hinside deed List.mem_cons_self) hstep) (ih ?_)
    exact List.filterMap_eq_nil_iff.2 fun d hd => hinside d (List.mem_cons_of_mem deed hd)

/-- The router when a message that comes into its queue is delivered at once. -/
def serve (around : Surroundings) (m : Message) (router : Router) : Router :=
  match { router with bus := router.bus.enqueue m }.processOne around with
  | some (_, after) => after
  | none => router

/-- It is a schedule to work off the message of a line before the next one is read. -/
theorem run_line {now : Calendar.Moment} {line : String} {router : Router} {m : Message}
    (lines : List String) (hline : messageOfLine now router.settings line = .ok (some m))
    (hqueue : router.bus.queue = []) (around : Surroundings) :
    ∃ acts, Run ⟨.reading (line :: lines), Desk.idle Router.world router⟩ acts
        ⟨.reading lines, Desk.idle Router.world (serve around m router)⟩ ∧
      dispatches acts = [⟨around, m, router, serve around m router⟩] := by
  have hwaiting : Router.world.queue (Router.world.enqueue m router) = m :: [] := by
    rw [Bus.World.queue_enqueue]
    exact congrArg (· ++ [m]) hqueue
  have hbefore : Router.world.requeue [] (Router.world.enqueue m router) = router := by
    rw [Bus.World.enqueue, Router.world.requeue_requeue, ← hqueue]
    exact Router.world.requeue_self router
  -- the message is alone in the queue, so that its delivery begins with the router of the line
  rcases Bus.run_processOne (Router.onlyAdds_invoke around) hwaiting with
    ⟨delivery, after, added, hprocessed, hone⟩
  have hserve : serve around m router = after := by
    rw [serve, Router.enqueue_eq, Router.processOne_eq, hprocessed]
  rw [hbefore] at hone
  rw [hserve]
  refine ⟨_, .cons (.put hline (.put_idle m router))
    (run_work hone (Bus.put_deedsOf around m router after delivery added) _), ?_⟩
  have hdeeds : ∀ deeds : List (Deed Surroundings Router),
      (deeds.map Act.work).filterMap Act.deed? = deeds := by
    intro deeds
    rw [List.filterMap_map]
    exact List.filterMap_some
  simp only [dispatches, List.filterMap_cons, Act.deed?, hdeeds]
  simp [Bus.deedsOf, Dispatch.ofDeed?, Function.comp_def]

theorem run_end {router : Router} (hqueue : router.bus.queue = []) :
    Run ⟨.reading [], Desk.idle Router.world router⟩ [.wait, .halt]
      ⟨.halting, Desk.idle Router.world router⟩ :=
  .cons (.wait _) (.cons (.halt (congrArg List.length hqueue)) (.nil _))

theorem hooked_serve {settings : EngineSettings} {router : Router} (h : Hooked settings router)
    (around : Surroundings) (m : Message) : Hooked settings (serve around m router) := by
  have hqueued : Hooked settings { router with bus := router.bus.enqueue m } :=
    h.aside _ router.draws router.trail
  rw [serve]
  split
  · next delivery after hprocessed => exact (Hooked.stable settings).processOne hprocessed hqueued
  · exact h

end Daemon

/-! ## The program -/

namespace Daemon

theorem Step.report_idle (reader : Reader) (router : Router) :
    Step ⟨reader, Desk.idle Router.world router⟩ .report
      ⟨reader, Desk.idle Router.world { router with trail := [] }⟩ :=
  .report reader router _ none

/-- What the program does with a line is a schedule of the two threads: the message of the line is
worked off, with all that comes in meanwhile, before the next line is read. -/
theorem run_answer {around : Surroundings} {s s' : Session} {text : String}
    (h : answer around s (.line text) = (none, s')) (lines : List String) :
    ∃ acts, Run ⟨.reading (text :: lines), Desk.idle Router.world s.router⟩ acts
      ⟨.reading lines, Desk.idle Router.world s'.router⟩ := by
  cases hline : messageOfLine around.source.now s.router.settings text with
  | error fault => simp [answer, hline] at h
  | ok m? =>
    cases m? with
    | none =>
      simp only [answer, hline, Prod.mk.injEq, true_and] at h
      rw [← h]
      exact ⟨_, .cons (.skip hline) (.nil _)⟩
    | some m =>
      simp only [answer, hline, Prod.mk.injEq, true_and] at h
      rcases Bus.run_processPending (Router.onlyAdds_invoke around) (Router.unlimited + 1)
        (Router.world.enqueue m s.router) with ⟨deeds, hrun, hputs, -⟩
      -- the queue is worked off to its end, and then what was logged is written out
      have hwork := (run_work hrun hputs (.reading lines)).append
        (.cons (.report_idle (.reading lines) _) (.nil _))
      rw [← Router.deliverNow_eq] at hwork
      rw [← h]
      exact ⟨_, .cons (.put hline (.put_idle m s.router)) hwork⟩

/-- The program over lines is a schedule of the two threads, up to the end of the input or to a line
that is refused. -/
theorem run_runCalls (last : Surroundings) (calls : List (Surroundings × String)) :
    ∀ s : Session, ∃ acts s',
      (runCalls last s (calls.map fun c => (c.1, .line c.2)) = haltDaemon last s' ∧
        Run (start (calls.map Prod.snd) s.router) acts
          ⟨.reading [], Desk.idle Router.world s'.router⟩) ∨
      ∃ fault lines,
        runCalls last s (calls.map fun c => (c.1, .line c.2)) = (.error fault, s') ∧
        Run (start (calls.map Prod.snd) s.router) acts
          ⟨.left fault lines, Desk.idle Router.world s'.router⟩ := by
  induction calls with
  | nil =>
    intro s
    exact ⟨[], s, .inl ⟨rfl, .nil _⟩⟩
  | cons call rest ih =>
    intro s
    rcases call with ⟨around, text⟩
    rcases hanswer : answer around s (.line text) with ⟨ending, s'⟩
    cases ending with
    | some ending =>
      -- only a line that is refused ends the program
      cases hline : messageOfLine around.source.now s.router.settings text with
      | ok m? => cases m? <;> simp [answer, hline] at hanswer
      | error fault =>
        simp only [answer, hline, Prod.mk.injEq, Option.some.injEq] at hanswer
        rcases hanswer with ⟨rfl, rfl⟩
        simp only [List.map_cons, runCalls, answer, hline]
        exact ⟨_, s, .inr ⟨fault, _, rfl, .cons (.refuse hline) (.nil _)⟩⟩
    | none =>
      rcases run_answer hanswer (rest.map Prod.snd) with ⟨acts, hrun⟩
      simp only [List.map_cons, runCalls, hanswer]
      rcases ih s' with ⟨more, s'', ⟨hends, hmore⟩ | ⟨fault, lines, hends, hmore⟩⟩
      · exact ⟨acts ++ more, s'', .inl ⟨hends, hrun.append hmore⟩⟩
      · exact ⟨acts ++ more, s'', .inr ⟨fault, lines, hends, hrun.append hmore⟩⟩

end Daemon

/-! ## A daemon with a rules file -/

def fileSettings : EngineSettings :=
  { EngineSettings.standard with rulesFile := .text "r" }

/-- Surroundings with such a rules file, which binds a message to a context. -/
def boundTo (context : String) : Surroundings :=
  ⟨.still, [([['r']], .file
    (("[install]\nm=," ++ context ++ "\n[" ++ context ++ "]\nreturn 1\n").toList.map fun c =>
      UInt8.ofNat c.toNat))]⟩

/-- A session of such a daemon, and the session when it is started. -/
def fileSession : Session :=
  ⟨Router.start fileSettings, "", Log.Journal.start []⟩

def startedSession : Session :=
  (startDaemon (boundTo "old") fileSession).2

theorem startDaemon_fileSession :
    startDaemon (boundTo "old") fileSession = (.ok (), startedSession) := by
  have hstarted : (startDaemon (boundTo "old") fileSession).1.toBool = true := by decide +kernel
  cases hresult : (startDaemon (boundTo "old") fileSession).1 with
  | error fault =>
    rw [hresult] at hstarted
    cases hstarted
  | ok _ => exact Prod.ext hresult rfl

theorem hooked_startedSession :
    Hooked fileSettings startedSession.router ∧ startedSession.router.bus.queue = [] :=
  hooked_of_startDaemon rfl startDaemon_fileSession

def bareMessage (name : String) : Message :=
  Message.fresh name [] Source.still.now

/-- The same line is dispatched with the rules of the start before the file is loaded again, and
with those of the file after that. -/
theorem reload_line_changes_rules :
    ∃ acts daemon,
      Daemon.Run (Daemon.start ["m", "regexp reload", "m"] startedSession.router) acts daemon ∧
      daemon.reader = .halting ∧
      (dispatches acts).map
        (fun d => (d.message.name, d.reloads, d.before.bindings.map (·.contextName))) =
        [("m", false, ["old"]), ("engine.command", true, ["old"]), ("m", false, ["new"])] ∧
      Served fileSettings ["m", "regexp reload", "m"] startedSession.router acts
        daemon.desk.world := by
  rcases hooked_startedSession with ⟨hstarted, hempty⟩
  let plain := bareMessage "m"
  let reload := reloadMessage Source.still.now fileSettings
  let first := Daemon.serve (boundTo "old") plain startedSession.router
  let second := Daemon.serve (boundTo "new") reload first
  let third := Daemon.serve (boundTo "new") plain second
  have hfirst : Hooked fileSettings first := Daemon.hooked_serve hstarted _ _
  have hsecond : Hooked fileSettings second := Daemon.hooked_serve hfirst _ _
  have hqueues : first.bus.queue.length = 0 ∧ second.bus.queue.length = 0 ∧
      third.bus.queue.length = 0 := by decide +kernel
  have hplain : messageOfLine Source.still.now fileSettings "m" = .ok (some plain) := by rfl
  have hreload : messageOfLine Source.still.now fileSettings "regexp reload" =
      .ok (some reload) := messageOfLine_reload (by decide) (by decide)
  rcases Daemon.run_line ["regexp reload", "m"] (hstarted.settings_eq ▸ hplain) hempty
    (boundTo "old") with ⟨acts, hrun, hdispatches⟩
  rcases Daemon.run_line ["m"] (hfirst.settings_eq ▸ hreload)
    (List.length_eq_zero_iff.1 hqueues.1) (boundTo "new") with ⟨acts', hrun', hdispatches'⟩
  rcases Daemon.run_line [] (hsecond.settings_eq ▸ hplain)
    (List.length_eq_zero_iff.1 hqueues.2.1) (boundTo "new") with ⟨acts'', hrun'', hdispatches''⟩
  have hend := Daemon.run_end (List.length_eq_zero_iff.1 hqueues.2.2)
  have hall := ((hrun.append hrun').append hrun'').append hend
  refine ⟨_, _, hall, rfl, ?_, ?_⟩
  · rw [dispatches_append, dispatches_append, dispatches_append, hdispatches, hdispatches',
      hdispatches'']
    decide +kernel
  · exact (daemon_serves_lines rfl startDaemon_fileSession hall rfl).1

/-- A line with the message of the end drops the rules, and the line behind it finds none. -/
theorem halt_line_drops_rules :
    ¬ ∀ (around : Surroundings) (session started : Session) (settings : EngineSettings)
      (lines : List String) (acts : List Act) (daemon : Daemon),
      session.router = Router.start settings → startDaemon around session = (.ok (), started) →
      Daemon.Run (Daemon.start lines started.router) acts daemon → daemon.reader = .halting →
      (∀ line ∈ lines,
        settings.reloadCommand.isText (String.ofList (Text.strip line.toList)) = false) →
      ∀ d ∈ dispatches acts, d.before.bindings = started.router.bindings := by
  intro hbound
  rcases hooked_startedSession with ⟨hstarted, hempty⟩
  let first := Daemon.serve (boundTo "old") (bareMessage "engine.halt") startedSession.router
  let second := Daemon.serve (boundTo "old") (bareMessage "m") first
  have hfirst : Hooked fileSettings first := Daemon.hooked_serve hstarted _ _
  have hqueues : first.bus.queue.length = 0 ∧ second.bus.queue.length = 0 := by decide +kernel
  have hbindings : first.bindings.length = 0 ∧ startedSession.router.bindings.length = 1 := by
    decide +kernel
  have hhalt : messageOfLine Source.still.now fileSettings "engine.halt" =
      .ok (some (bareMessage "engine.halt")) := by rfl
  have hplain : messageOfLine Source.still.now fileSettings "m" =
      .ok (some (bareMessage "m")) := by rfl
  rcases Daemon.run_line ["m"] (hstarted.settings_eq ▸ hhalt) hempty (boundTo "old") with
    ⟨acts, hrun, hdispatches⟩
  rcases Daemon.run_line [] (hfirst.settings_eq ▸ hplain)
    (List.length_eq_zero_iff.1 hqueues.1) (boundTo "old") with ⟨acts', hrun', hdispatches'⟩
  have hall := (hrun.append hrun').append (Daemon.run_end (List.length_eq_zero_iff.1 hqueues.2))
  have hlast : (⟨boundTo "old", bareMessage "m", first, second⟩ : Dispatch) ∈
      dispatches (acts ++ acts' ++ [.wait, .halt]) := by
    rw [dispatches_append, dispatches_append, hdispatches']
    exact List.mem_append_left _ (List.mem_append_right _ List.mem_cons_self)
  have hsame := hbound (boundTo "old") fileSession startedSession fileSettings
    ["engine.halt", "m"] _ _ rfl startDaemon_fileSession hall rfl (by decide) _ hlast
  have hlength := congrArg List.length hsame
  simp only [hbindings.1, hbindings.2] at hlength
  cases hlength

end Cli
end Switchboard
