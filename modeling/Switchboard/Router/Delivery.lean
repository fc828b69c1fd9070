import Switchboard.Router.Loading

/-!
# Delivering messages

A router runs the handlers of its bus: contexts evaluate their rules, hooks act on the router
itself, and listeners respond.
-/

namespace Switchboard
namespace Router

/-! ## Handlers -/

def takeOutcome (router : Router) (outcome : Outcome) : Bus.Response × Router :=
  (⟨outcome.state.message, none, outcome.fault⟩,
    { router with draws := outcome.state.draws }.absorbAll outcome.events)

/-- Runs a context on a message as a handler. -/
def callContext (router : Router) (around : Surroundings) (c : Context) (m : Message) :
    Bus.Response × Router :=
  router.takeOutcome (c.handle around.source Host.accepting ⟨m, router.draws⟩)

/-- Evaluates a context at a depth, faults not being recorded. -/
def evaluateContext (router : Router) (around : Surroundings) (c : Context) (depth : Int)
    (m : Message) : Bus.Response × Router :=
  router.takeOutcome (c.evaluate around.source Host.accepting depth ⟨m, router.draws⟩)

def invoke (around : Surroundings) : Bus.Invoke Handler Router
  | .context c, m, router => router.callContext around c m
  | .commandHook, m, router => router.onCommand around m
  | .haltHook, m, router => router.onHalt m
  | .listener l, m, router => (l.respond m, router.absorb (.handler l.label m.name))

/-- Delivers a message to the handlers of its name. -/
def dispatch (router : Router) (around : Surroundings) (m : Message) : Bus.Delivery × Router :=
  Bus.deliver (invoke around) (router.bus.handlers m.name) none m router

/-! ## The queue -/

/-- Delivers the first message of the queue, if there is one; a fault is recorded. -/
def processOne (router : Router) (around : Surroundings) : Option (Bus.Delivery × Router) :=
  match router.bus.queue with
  | [] => none
  | m :: rest =>
    let (delivery, router) :=
      { router with bus := { router.bus with queue := rest } }.dispatch around m
    some (delivery, router.absorbAll delivery.records)

/-- Delivers messages of the queue, also those that come in meanwhile, `limit` of them at the
most. -/
def processPending (router : Router) (around : Surroundings) : Nat → List Message × Router
  | 0 => ([], router)
  | limit + 1 =>
    match router.processOne around with
    | none => ([], router)
    | some (delivery, router) =>
      let (messages, router) := router.processPending around limit
      (delivery.outcome :: messages, router)

/-- A number of messages that no queue gets to. -/
def unlimited : Nat :=
  Nat.pow 10 30

/-! ## The worker -/

/-- The notes that the worker of the bus was started and stopped. -/
def workerNote (what : String) : Event :=
  .log .info .bus ("Message bus " ++ what)

/-- Puts a message into the queue and waits until the queue is empty; the answer is the message
as its handlers left it. -/
def deliverNow (router : Router) (around : Surroundings) (m : Message) : Message × Router :=
  let router := { router with bus := router.bus.enqueue m }
  match router.processOne around with
  | none => (m, router)
  | some (delivery, router) =>
    let (_, router) := router.processPending around unlimited
    let received := delivery.received
    (match delivery.fault with
      | none => received
      | some fault => { received with error := some fault.text }, router)

def deliverEach (router : Router) (around : Surroundings) : List Message → List Message × Router
  | [] => ([], router)
  | m :: rest =>
    let (m, router) := router.deliverNow around m
    let (ms, router) := router.deliverEach around rest
    (m :: ms, router)

/-- Runs the worker over messages. What waits in the queue is delivered as soon as the worker
starts. -/
def runWorker (router : Router) (around : Surroundings) (messages : List Message) :
    List Message × Router :=
  let (_, router) := router.processPending around unlimited
  let (messages, router) := (router.absorb (workerNote "started")).deliverEach around messages
  (messages, router.absorb (workerNote "stopped"))

end Router
end Switchboard
