import Switchboard.Event
import Switchboard.Number.Conversion

/-!
# The message bus

Handlers subscribe to message names with a priority; a lower one runs first, and of equal ones
the handler that was installed first. A message is delivered to the handlers that its name had
when the delivery began, until one of them handles it. Messages in the queue are delivered in
the order in which they were put there.

What a handler is, and what it does to the world, is left open: `Invoke` runs one.
-/

namespace Switchboard

/-! ## Subscriptions -/

/-- A handler installed for a message name; `sequence` numbers the installations of a bus. -/
structure Subscription (H : Type) where
  priority : Int
  sequence : Nat
  name : String
  handler : H
  deriving Repr, Inhabited

namespace Subscription

/-- Whether one subscription comes before another: by priority, then by sequence. -/
def precedes {H : Type} (a b : Subscription H) : Bool :=
  a.priority < b.priority || (a.priority == b.priority && a.sequence < b.sequence)

/-- Inserts a subscription behind those that come before it. -/
def insert {H : Type} (s : Subscription H) : List (Subscription H) → List (Subscription H)
  | [] => [s]
  | t :: rest => if s.precedes t then s :: t :: rest else t :: insert s rest

end Subscription

/-- Subscriptions by message name, the number of installations so far, and the queue. -/
structure Bus (H : Type) where
  subscriptions : Entries (List (Subscription H))
  sequence : Nat
  queue : List Message
  deriving Inhabited

namespace Bus

variable {H S : Type}

def empty : Bus H :=
  ⟨[], 0, []⟩

/-- The subscriptions of a message name in the order of delivery. -/
def handlers (bus : Bus H) (name : String) : List (Subscription H) :=
  (bus.subscriptions.get? name).getD []

def notCallable (name : String) : Fault :=
  Fault.report .bus "Handler is not callable" [("name", name)]

/-- Why the note about an installation cannot be written: an integer of too many digits has no
text. -/
def noteFault? (priority : Value) : Option Fault :=
  if priority.isWritable then none else some (.tooManyDigits none)

/-- Installs a handler. A priority that is no integer is refused after the installation has been
counted. One that cannot be written fails when the installation is noted, with the handler in
place. -/
def install (bus : Bus H) (name : String) (handler? : Option H) (priority : Value) :
    Option Fault × Bus H :=
  match handler? with
  | none => (some (notCallable name), bus)
  | some handler =>
    let sequence := bus.sequence + 1
    let present := bus.handlers name
    match priority.toInteger with
    | .error fault =>
      (some fault,
        { bus with sequence := sequence, subscriptions := bus.subscriptions.set name present })
    | .ok number =>
      -- the handler stays, even if the note about it cannot be written
      (noteFault? priority,
        { bus with
          sequence := sequence
          subscriptions := bus.subscriptions.set name
            (Subscription.insert ⟨number, sequence, name, handler⟩ present) })

/-- Removes the subscriptions of a name whose handlers are chosen, and tells how many. -/
def uninstall (bus : Bus H) (name : String) (chosen : H → Bool) : Nat × Bus H :=
  let present := bus.handlers name
  let kept := present.filter fun s => !chosen s.handler
  (present.length - kept.length,
    { bus with
      subscriptions :=
        if kept.isEmpty then bus.subscriptions.erase name else bus.subscriptions.set name kept })

def uninstallAll (bus : Bus H) (name : String) : Nat × Bus H :=
  bus.uninstall name fun _ => true

/-! ## Delivery -/

/-- What a handler did: the message that it was given as it left it, the message that it gave
back instead, and why it failed, if it did. -/
structure Response where
  message : Message
  reply : Option Message
  fault : Option Fault
  deriving Repr, Inhabited

/-- Runs a handler on a message in a world. -/
abbrev Invoke (H S : Type) := H → Message → S → Response × S

/-- How a delivery ended: the message that was delivered as its handlers left it, the message
that came out, and the fault that ended it early. -/
structure Delivery where
  received : Message
  message : Message
  fault : Option Fault
  deriving Repr, Inhabited

/-- Runs handlers one after the other. `received` is the delivered message once a handler has
replaced it. -/
def deliver (invoke : Invoke H S) :
    List (Subscription H) → Option Message → Message → S → Delivery × S
  | [], received, m, s => (⟨received.getD m, m, none⟩, s)
  | sub :: rest, received, m, s =>
    let (response, s) := invoke sub.handler m s
    -- a fault ends the delivery: no handler behind it runs
    match response.fault with
    | some fault => (⟨received.getD response.message, response.message, some fault⟩, s)
    | none =>
      let (received, m) :=
        match response.reply with
        | none => (received, response.message)
        -- only the first replacement says how the delivered message was left
        | some reply => (some (received.getD response.message), reply)
      if m.handled then (⟨received.getD m, m, none⟩, s) else deliver invoke rest received m s

def notAMessage (verb kind : String) : Fault :=
  Fault.report .bus ("Can only " ++ verb ++ " Message objects") [("type", kind)]

/-! ## The queue -/

def enqueue (bus : Bus H) (m : Message) : Bus H :=
  { bus with queue := bus.queue ++ [m] }

def pending (bus : Bus H) : Nat :=
  bus.queue.length

/-- The record of a delivery from the queue that failed. -/
def failureRecord (name : String) (fault : Fault) : Event :=
  .log .error .bus ("Handler failed for '" ++ name ++ "': " ++ fault.text)

/-- The message that a delivery from the queue gives back: the one that came out, or if it
failed the delivered one with the fault recorded on it. -/
def Delivery.outcome (d : Delivery) : Message :=
  match d.fault with
  | none => d.message
  | some fault => { d.received with error := some fault.text }

def Delivery.records (d : Delivery) : List Event :=
  match d.fault with
  | none => []
  | some fault => [failureRecord d.received.name fault]

end Bus
end Switchboard
