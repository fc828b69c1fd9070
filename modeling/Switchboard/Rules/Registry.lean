import Switchboard.Rules.Evaluation
import Switchboard.Rules.Sections

/-!
# Registries of contexts

A registry is built from the sections of a rules file. Its contexts find each other in it and
keep the guards that it was built with, whatever is loaded later.
-/

namespace Switchboard

open Text

/-- The contexts of a rules file. The serial number tells registries apart. -/
structure Registry where
  serial : Nat
  limits : Limits
  contexts : Entries (List Rule)
  deriving Repr, Inhabited

structure Context where
  name : String
  rules : List Rule
  registry : Registry
  deriving Repr, Inhabited

namespace Registry

def empty : Registry :=
  ⟨0, ⟨.upTo 1000 (.int 1000), .upTo 64 (.int 64)⟩, []⟩

/-- Compiles the sections but that of installations, up to the first fault, with all warnings. -/
def compileSections : Sections → List Event × Except Fault (Entries (List Rule))
  | [] => ([], .ok [])
  | (name, lines) :: rest =>
    if name = installSection then compileSections rest
    else
      match Rule.compileAll lines with
      | (events, .error fault) => (events, .error fault)
      | (events, .ok rules) =>
        let (more, contexts) := compileSections rest
        (events ++ more, contexts.map ((name, rules) :: ·))

def build (serial : Nat) (limits : Limits) (sections : Sections) :
    List Event × Except Fault Registry :=
  let (events, contexts) := compileSections sections
  (events, contexts.map fun contexts => ⟨serial, limits, contexts⟩)

def context? (registry : Registry) (name : String) : Option Context :=
  (registry.contexts.get? name).map fun rules => ⟨name, rules, registry⟩

/-- What is built has the number and the guards that were asked for, and the contexts that the
sections compile to. -/
theorem of_build {serial : Nat} {limits : Limits} {sections : Sections} {registry : Registry}
    (h : (build serial limits sections).2 = .ok registry) :
    registry.serial = serial ∧ registry.limits = limits ∧
      (compileSections sections).2 = .ok registry.contexts := by
  cases hcontexts : (compileSections sections).2 with
  | error fault => simp [build, hcontexts, Except.map] at h
  | ok contexts =>
    simp only [build, hcontexts, Except.map, Except.ok.injEq] at h
    rw [← h]
    exact ⟨rfl, rfl, rfl⟩

theorem of_context? {registry : Registry} {name : String} {c : Context}
    (h : registry.context? name = some c) :
    c.registry = registry ∧ c.name = name ∧ registry.contexts.get? name = some c.rules := by
  rw [context?, Option.map_eq_some_iff] at h
  rcases h with ⟨rules, hrules, rfl⟩
  exact ⟨rfl, rfl, hrules⟩

def scene (registry : Registry) (source : Source) (host : Host) : Scene :=
  ⟨source, host, registry.contexts, registry.limits⟩

end Registry

namespace Context

/-- Whether two contexts are the same one: of one registry and of one name. -/
def isSame (a b : Context) : Bool :=
  a.registry.serial == b.registry.serial && a.name == b.name

def evaluate (c : Context) (source : Source) (host : Host) (depth : Int) (state : State) :
    Outcome :=
  evaluateRules (c.registry.scene source host) depth c.rules state

def failureRecord (c : Context) (message : String) (fault : Fault) : Event :=
  .log .error .rules
    ("Context '" ++ c.name ++ "' failed on '" ++ message ++ "': " ++ fault.text)

/-- The message after a failed evaluation. -/
def recordFault (fault : Fault) (state : State) : State :=
  { state with message := { state.message with error := some fault.text, returned := false } }

/-- Handles a message for the bus: a fault of the program's own is recorded on the message. -/
def handle (c : Context) (source : Source) (host : Host) (state : State) : Outcome :=
  let outcome := c.evaluate source host 0 state
  match outcome.fault with
  | none => outcome
  | some fault =>
    if fault.isReported then
      ⟨recordFault fault outcome.state,
        outcome.events ++ [c.failureRecord outcome.state.message.name fault], none⟩
    else outcome

def summary (c : Context) : String :=
  "Context(" ++ quotedString c.name ++ ", " ++ toString c.rules.length ++ " rules)"

end Context
end Switchboard
