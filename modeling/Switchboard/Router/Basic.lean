import Switchboard.Bus
import Switchboard.Files
import Switchboard.Rules.Directive
import Switchboard.Rules.Registry
import Switchboard.Settings.Basic

/-!
# Routers

A router owns the loaded rules and the bus that they are bound on. What happens on the side is
kept in its trail, in order.
-/

namespace Switchboard

/-! ## Handlers -/

/-- A handler of other code: a label, and what it does with a message. -/
structure Listener where
  label : String
  respond : Message → Bus.Response

/-- What can be installed on the bus of a router: contexts, the hooks of the router itself, and
handlers of other code. -/
inductive Handler
  | context (context : Context)
  | commandHook
  | haltHook
  | listener (listener : Listener)

namespace Handler

def isSame : Handler → Handler → Bool
  | .context a, .context b => a.isSame b
  | .commandHook, .commandHook => true
  | .haltHook, .haltHook => true
  | .listener a, .listener b => a.label == b.label
  | _, _ => false

def label : Handler → String
  | .context c => "context:" ++ c.name
  | .commandHook => "hook:on_command"
  | .haltHook => "hook:on_halt"
  | .listener l => "handler:" ++ l.label

end Handler

/-! ## Routers -/

/-- The loaded rules, their bindings, the bus, and what happened. -/
structure Router where
  settings : EngineSettings
  registry : Registry
  sections : Sections
  bindings : List Directive
  serial : Nat
  bus : Bus Handler
  draws : Draws
  trail : List Event

/-- What a router works in: time and chance, and the files. -/
structure Surroundings where
  source : Source
  store : FileStore

namespace Router

/-- A router without rules on an empty bus. -/
def start (settings : EngineSettings) : Router :=
  ⟨settings, Registry.empty, Sections.initial, [], 0, Bus.empty, Draws.start, []⟩

/-- The text of a report on a channel of the bus. -/
def channelText (args : List Value) : String :=
  Text.joinWith " " (args.map Value.plainString)

/-- Takes in an event: a message goes into the queue, reports on the channels of the bus become
log records, and all else is kept as it is. -/
def absorb (router : Router) (event : Event) : Router :=
  match event with
  | .enqueue m => { router with bus := router.bus.enqueue m }
  | .error args =>
    { router with trail := router.trail ++ [.log .error .bus (channelText args)] }
  | .info args =>
    { router with trail := router.trail ++ [.log .info .bus (channelText args)] }
  | event => { router with trail := router.trail ++ [event] }

def absorbAll (router : Router) (events : List Event) : Router :=
  events.foldl absorb router

def context? (router : Router) (name : String) : Option Context :=
  router.registry.context? name

def limits (router : Router) : Limits :=
  ⟨Guard.ofChainLimit router.settings.maxChainLength,
    Guard.ofDepthLimit router.settings.maxCallDepth⟩

def install (router : Router) (name : String) (handler? : Option Handler) (priority : Value) :
    Except Fault Unit × Router :=
  match router.bus.install name handler? priority with
  | (some fault, bus) => (.error fault, { router with bus := bus })
  | (none, bus) => (.ok (), { router with bus := bus })

/-- Removes all handlers of a name, or those that are the same as the given one. -/
def uninstall (router : Router) (name : String) (handler? : Option Handler) : Nat × Router :=
  let chosen : Handler → Bool :=
    match handler? with
    | none => fun _ => true
    | some handler => handler.isSame
  let (removed, bus) := router.bus.uninstall name chosen
  (removed, { router with bus := bus })

end Router
end Switchboard
