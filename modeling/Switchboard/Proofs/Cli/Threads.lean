import Switchboard.Cli.Session
import Switchboard.Proofs.Bus.Desk
import Switchboard.Proofs.Router.Hooks

/-!
# The threads of the daemon

One thread reads the lines of the input and puts their messages into the queue; another one works
the queue off. At the end of the input the first one waits until nothing is unfinished, and then
ends the daemon. `Daemon.Step` is one act of one of them, and a run is any schedule of both.

The rules change with the dispatches only: `Follows` says that each of these begins with the rules
that the one before it left.
-/

namespace Switchboard

/-! ## Blank lines -/

theorem Text.wordsFrom_ne_nil {word : List Char} (h : word ≠ []) (s : List Char) :
    wordsFrom word s ≠ [] := by
  induction s generalizing word with
  | nil => simp [wordsFrom, h]
  | cons c rest ih =>
    rw [wordsFrom]
    split
    · simp [h]
    · exact ih (List.cons_ne_nil c word)

/-- A text whose first character is no blank has a word. -/
theorem Text.words_ne_nil {c : Char} (h : isBlank c = false) (rest : List Char) :
    words (c :: rest) ≠ [] := by
  simp only [words, wordsFrom, h]
  exact wordsFrom_ne_nil (List.cons_ne_nil c []) rest

/-- What is left of a text without the blanks around it does not begin with a blank. -/
theorem Text.isBlank_of_strip {s rest : List Char} {c : Char} (h : strip s = c :: rest) :
    isBlank c = false := by
  have hfirst : strip s <+: s.dropWhile isBlank := by
    have hsuffix := List.dropWhile_suffix isBlank (l := (s.dropWhile isBlank).reverse)
    simpa [strip, stripEnd, stripStart] using List.reverse_prefix.2 hsuffix
  rw [h] at hfirst
  rcases hfirst with ⟨more, hmore⟩
  have hhead := List.head?_dropWhile_not isBlank s
  rw [← hmore] at hhead
  exact hhead

namespace Cli

open Bus (Desk Deed)

def isBlankLine (line : String) : Bool :=
  (Text.strip line.toList).isEmpty

/-- A blank line has no message, and every other line has one or is refused. -/
theorem messageOfLine_none {now : Calendar.Moment} {settings : EngineSettings} {line : String} :
    messageOfLine now settings line = .ok none ↔ isBlankLine line = true := by
  rw [isBlankLine]
  cases hstrip : Text.strip line.toList with
  | nil => simp [messageOfLine, hstrip, Text.words, Text.wordsFrom]
  | cons c rest =>
    have hwords := Text.words_ne_nil (Text.isBlank_of_strip hstrip) rest
    cases hpieces : Text.words (c :: rest) with
    | nil => exact absurd hpieces hwords
    | cons name pairs =>
      -- there is a message or a fault
      simp only [messageOfLine, hstrip, hpieces]
      split
      · simp
      · cases Message.ofRequest now (String.ofList name) pairs <;> simp [Except.map]

/-- A line that is the command to reload has the message that asks for a reload. -/
theorem messageOfLine_reload {now : Calendar.Moment} {settings : EngineSettings} {line : String}
    (hreload : settings.reloadCommand.isText (String.ofList (Text.strip line.toList)) = true)
    (hblank : isBlankLine line = false) :
    messageOfLine now settings line = .ok (some (reloadMessage now settings)) := by
  rw [isBlankLine] at hblank
  simp [messageOfLine, hreload, hblank]

/-! ## Two threads -/

/-- What the reading thread is at: it has lines to read, waits for the queue, ends the daemon, or
has left with a fault and with lines that nobody reads any more. -/
inductive Reader
  | reading (lines : List String)
  | joining
  | halting
  | left (fault : Fault) (lines : List String)

def Reader.remaining : Reader → List String
  | .reading lines => lines
  | .joining => []
  | .halting => []
  | .left _ lines => lines

/-- The reading thread, and the desk of the working one. -/
structure Daemon where
  reader : Reader
  desk : Desk Router

/-- What a thread does: a line is read and makes a message, nothing or a fault; the reading thread
comes to its end in two steps; the working thread does a deed; what was logged is written out. -/
inductive Act
  | line (line : String) (result : Except Fault (Option Message))
  | wait
  | halt
  | work (deed : Deed Surroundings Router)
  | report

namespace Daemon

def start (lines : List String) (router : Router) : Daemon :=
  ⟨.reading lines, Desk.idle Router.world router⟩

inductive Step : Daemon → Act → Daemon → Prop
  -- a line without a message is passed over
  | skip {now : Calendar.Moment} {line : String} {lines : List String} {desk : Desk Router}
      (hline : messageOfLine now desk.world.settings line = .ok none) :
      Step ⟨.reading (line :: lines), desk⟩ (.line line (.ok none)) ⟨.reading lines, desk⟩
  -- the other thread may be at work meanwhile
  | put {now : Calendar.Moment} {line : String} {lines : List String} {m : Message}
      {desk desk' : Desk Router}
      (hline : messageOfLine now desk.world.settings line = .ok (some m))
      (hput : Desk.Step Router.world Router.invoke desk (.put m) desk') :
      Step ⟨.reading (line :: lines), desk⟩ (.line line (.ok (some m))) ⟨.reading lines, desk'⟩
  | refuse {now : Calendar.Moment} {line : String} {lines : List String} {fault : Fault}
      {desk : Desk Router} (hline : messageOfLine now desk.world.settings line = .error fault) :
      Step ⟨.reading (line :: lines), desk⟩ (.line line (.error fault)) ⟨.left fault lines, desk⟩
  -- the end of the input: the reading thread waits until nothing is unfinished
  | wait (desk : Desk Router) : Step ⟨.reading [], desk⟩ .wait ⟨.joining, desk⟩
  | halt {desk : Desk Router} (hfinished : desk.unfinished = 0) :
      Step ⟨.joining, desk⟩ .halt ⟨.halting, desk⟩
  -- the working thread puts nothing in from outside
  | work {reader : Reader} {deed : Deed Surroundings Router} {desk desk' : Desk Router}
      (hinside : deed.put? = none)
      (hdeed : Desk.Step Router.world Router.invoke desk deed desk') :
      Step ⟨reader, desk⟩ (.work deed) ⟨reader, desk'⟩
  | report (reader : Reader) (router : Router) (n : Nat) (job : Option Bus.Job) :
      Step ⟨reader, ⟨router, n, job⟩⟩ .report ⟨reader, ⟨{ router with trail := [] }, n, job⟩⟩

/-- Acts of the two threads, in any order that their steps allow. -/
inductive Run : Daemon → List Act → Daemon → Prop
  | nil (daemon : Daemon) : Run daemon [] daemon
  | cons {a b c : Daemon} {act : Act} {acts : List Act} :
      Step a act b → Run b acts c → Run a (act :: acts) c

end Daemon

/-- A message that came into the queue, with the line that it stands for, if it stands for one. -/
structure Arrival where
  line? : Option String
  message : Message

/-- The delivery of a message from the queue, with the routers before and after it. -/
structure Dispatch where
  around : Surroundings
  message : Message
  before : Router
  after : Router

/-- Whether the hook for the command is asked to reload the rules. -/
def Dispatch.reloads (d : Dispatch) : Bool :=
  (Bus.trace (Router.invoke d.around) (d.before.bus.handlers d.message.name) d.message
    d.before).any Router.asksReload

def Dispatch.ofDeed? : Deed Surroundings Router → Option Dispatch
  | .take around m before after => some ⟨around, m, before, after⟩
  | _ => none

namespace Act

def deed? : Act → Option (Deed Surroundings Router)
  | .line _ (.ok (some m)) => some (.put m)
  | .work deed => some deed
  | _ => none

/-- The line that is read, and what it makes. -/
def line? : Act → Option (String × Except Fault (Option Message))
  | .line text result => some (text, result)
  | _ => none

def arrival? : Act → Option Arrival
  | .line text (.ok (some m)) => some ⟨some text, m⟩
  | .work deed => deed.enqueued?.map fun m => ⟨none, m⟩
  | _ => none

end Act

def dispatches (acts : List Act) : List Dispatch :=
  (acts.filterMap Act.deed?).filterMap Dispatch.ofDeed?

theorem dispatches_append (acts more : List Act) :
    dispatches (acts ++ more) = dispatches acts ++ dispatches more := by
  rw [dispatches, List.filterMap_append, List.filterMap_append]
  rfl

/-! ## The rules from one dispatch to the next -/

/-- Each dispatch begins with the rules that the one before it left, and leaves those of a reload,
if it asks for one, and its own if not. Nothing is said of what messages with the name `halt`
leave. -/
def Follows (halt : String) : Router → List Dispatch → Router → Prop
  | current, [], last => last.rules = current.rules
  | current, d :: rest, last =>
    d.before.rules = current.rules ∧
    (d.message.name ≠ halt →
      d.after.rules = if d.reloads then (d.before.reload d.around).2.rules else d.before.rules) ∧
    Follows halt d.after rest last

/-- Dispatches that neither end the daemon nor reload. -/
def Quiet (halt : String) (dispatches : List Dispatch) : Prop :=
  ∀ d ∈ dispatches, d.message.name ≠ halt ∧ d.reloads = false

namespace Follows

variable {halt : String} {a b c : Router} {ds es : List Dispatch}

theorem congr_last (h : Follows halt a ds b) (hrules : c.rules = b.rules) :
    Follows halt a ds c := by
  induction ds generalizing a with
  | nil => exact hrules.trans h
  | cons d rest ih => exact ⟨h.1, h.2.1, ih h.2.2⟩

theorem congr_first (h : Follows halt a ds b) (hrules : a.rules = c.rules) :
    Follows halt c ds b := by
  cases ds with
  | nil => exact h.trans hrules
  | cons d rest => exact ⟨h.1.trans hrules, h.2.1, h.2.2⟩

theorem append_iff :
    Follows halt a (ds ++ es) c ↔ ∃ b, Follows halt a ds b ∧ Follows halt b es c := by
  induction ds generalizing a with
  | nil =>
    constructor
    · exact fun h => ⟨a, rfl, h⟩
    · rintro ⟨b, hb, h⟩
      exact h.congr_first hb
  | cons d rest ih =>
    constructor
    · rintro ⟨hbefore, hafter, h⟩
      rcases ih.1 h with ⟨b, hrest, hes⟩
      exact ⟨b, ⟨hbefore, hafter, hrest⟩, hes⟩
    · rintro ⟨b, ⟨hbefore, hafter, hrest⟩, hes⟩
      exact ⟨hbefore, hafter, ih.2 ⟨b, hrest, hes⟩⟩

/-- Quiet dispatches leave the rules as they are. -/
theorem rules_eq (h : Follows halt a ds b) (hquiet : Quiet halt ds) : b.rules = a.rules := by
  induction ds generalizing a with
  | nil => exact h
  | cons d rest ih =>
    rcases h with ⟨hbefore, hafter, hrest⟩
    rcases hquiet d List.mem_cons_self with ⟨hname, hreloads⟩
    calc
      b.rules = d.after.rules := ih hrest fun e he => hquiet e (List.mem_cons_of_mem d he)
      _ = d.before.rules := by simpa [hreloads] using hafter hname
      _ = a.rules := hbefore

/-- Up to the first reload the rules are those of the beginning. -/
theorem before_eq {e : Dispatch} (h : Follows halt a (ds ++ e :: es) b) (hquiet : Quiet halt ds) :
    e.before.rules = a.rules := by
  rcases append_iff.1 h with ⟨c, hds, hbefore, -⟩
  exact hbefore.trans (hds.rules_eq hquiet)

/-- Quiet dispatches after a reload leave the rules that it left. -/
theorem rules_eq_reload {d : Dispatch} (h : Follows halt a (ds ++ d :: es) b)
    (hname : d.message.name ≠ halt) (hreloads : d.reloads = true) (hquiet : Quiet halt es) :
    b.rules = (d.before.reload d.around).2.rules := by
  rcases append_iff.1 h with ⟨c, -, -, hafter, hes⟩
  calc
    b.rules = d.after.rules := hes.rules_eq hquiet
    _ = (d.before.reload d.around).2.rules := by simpa [hreloads] using hafter hname

/-- From a reload to the next one the rules are those that it left. -/
theorem before_eq_reload {d e : Dispatch} {front mid : List Dispatch}
    (h : Follows halt a (front ++ d :: (mid ++ e :: es)) b) (hname : d.message.name ≠ halt)
    (hreloads : d.reloads = true) (hquiet : Quiet halt mid) :
    e.before.rules = (d.before.reload d.around).2.rules := by
  rw [← List.cons_append, ← List.append_assoc] at h
  rcases append_iff.1 h with ⟨c, hfront, hbefore, -⟩
  exact hbefore.trans (hfront.rules_eq_reload hname hreloads hquiet)

end Follows

end Cli
end Switchboard
