/-! The source of refresh events: who listens, who waits to refresh, and the event on its way. -/

namespace PackGate

namespace Context

/-- Whether an event is on its way. -/
inductive Phase where
  /-- No event is on its way. -/
  | active
  /-- An event is being delivered, or was given up midway. -/
  | refreshed
deriving DecidableEq, Repr

/-- The phase in words. -/
def Phase.name : Phase → String
  | .active => "active"
  | .refreshed => "refreshed"

/-- An event on its way to the listeners. -/
structure Delivery where
  /-- The refresh that delivers the event. -/
  task : Nat
  /-- The listeners alive when the event started, one for each subscription in order. -/
  live : List Nat
  /-- How many callbacks have begun. -/
  called : Nat := 0
  /-- Whether the last callback that began has not ended. -/
  inside : Bool := false
deriving DecidableEq, Repr

/-- The listener whose callback an event waits for, if there is one. -/
def Delivery.current? (delivery : Delivery) : Option Nat :=
  if delivery.inside then delivery.live[delivery.called - 1]? else none

/-- A callback that has begun. -/
structure Call where
  /-- The listener. -/
  listener : Nat
  /-- The number of the event. -/
  epoch : Nat
deriving DecidableEq, Repr

end Context

/-- The source of refresh events with everything that has happened in it. -/
structure Context where
  /-- How many events have started. -/
  epoch : Nat := 0
  /-- The published phase. -/
  phase : Context.Phase := .active
  /-- How often phase and epoch have been published. -/
  version : Nat := 0
  /-- The listener of every subscription, the oldest first. -/
  subscriptions : List Nat := []
  /-- The listeners that somebody else keeps alive. -/
  held : List Nat := []
  /-- The refreshes that wait for their turn, in the order they came. -/
  waiting : List Nat := []
  /-- The event on its way. -/
  delivery : Option Context.Delivery := none
  /-- Every callback so far, the oldest first. -/
  calls : List Context.Call := []
  /-- Every refresh that ran to its end, with the number of listeners it notified. -/
  completed : List (Nat × Nat) := []
deriving Repr

namespace Context

/-- What can happen to a source of refresh events. -/
inductive Event where
  /-- Somebody keeps a listener alive. -/
  | hold (listener : Nat)
  /-- Nobody outside keeps a listener alive any longer. -/
  | drop (listener : Nat)
  /-- A living listener subscribes; one that does so twice is called twice. -/
  | subscribe (listener : Nat)
  /-- A refresh is asked for. -/
  | request (task : Nat)
  /-- A refresh runs to its next wait. -/
  | proceed (task : Nat)
  /-- The callback that a refresh waits for ends. -/
  | answer (task : Nat)
  /-- A refresh is given up. -/
  | abort (task : Nat)
deriving DecidableEq, Repr

/-- Whether a listener is alive: kept by somebody, or by the event on its way. -/
def isAlive (context : Context) (listener : Nat) : Bool :=
  context.held.contains listener ||
    context.delivery.any fun delivery => delivery.live.contains listener

/-- Tells every watcher a phase and an epoch. -/
def publish (context : Context) (phase : Phase) (epoch : Nat) : Context :=
  { context with phase, epoch, version := context.version + 1 }

/-- Starts the next event; listeners that have died are forgotten. -/
def start (context : Context) (task : Nat) : Context :=
  let live := context.subscriptions.filter context.isAlive
  { context.publish .refreshed (context.epoch + 1) with
    subscriptions := live
    waiting := context.waiting.erase task
    delivery := some { task, live } }

/-- Begins the callback of a listener. -/
def call (context : Context) (delivery : Delivery) (listener : Nat) : Context :=
  { context with
    delivery := some { delivery with called := delivery.called + 1, inside := true }
    calls := context.calls ++ [⟨listener, context.epoch⟩] }

/-- Ends the event after its last callback. -/
def finish (context : Context) (delivery : Delivery) : Context :=
  { context.publish .active context.epoch with
    delivery := none
    completed := context.completed ++ [(delivery.task, delivery.live.length)] }

/-- Lets a refresh run to its next wait: for its turn, or for the end of a callback. -/
def proceed (context : Context) (task : Nat) : Context :=
  match context.delivery with
  | none => if context.waiting.head? = some task then context.start task else context
  | some delivery =>
    if delivery.task ≠ task || delivery.inside then context
    else match delivery.live[delivery.called]? with
      | some listener => context.call delivery listener
      | none => context.finish delivery

/-- Ends the callback that a refresh waits for. -/
def answer (context : Context) (task : Nat) : Context :=
  match context.delivery with
  | none => context
  | some delivery =>
    if delivery.task = task then { context with delivery := some { delivery with inside := false } }
    else context

/-- Gives a refresh up: it loses its place, or the event on its way ends where it is. -/
def abort (context : Context) (task : Nat) : Context :=
  let delivery := context.delivery.filter (·.task ≠ task)
  { context with delivery, waiting := context.waiting.erase task }

/-- What becomes of a source of refresh events; an event that cannot happen changes nothing. -/
def step (context : Context) : Event → Context
  | .hold listener => { context with held := listener :: context.held }
  | .drop listener => { context with held := context.held.filter (· ≠ listener) }
  | .subscribe listener =>
    if context.isAlive listener then
      { context with subscriptions := context.subscriptions ++ [listener] }
    else context
  | .request task => { context with waiting := context.waiting ++ [task] }
  | .proceed task => context.proceed task
  | .answer task => context.answer task
  | .abort task => context.abort task

/-- What becomes of a source of refresh events with events one after the other. -/
def run (context : Context) (events : List Event) : Context :=
  events.foldl step context

/-- The listener whose callback a refresh waits for, if there is one. -/
def current? (context : Context) (task : Nat) : Option Nat :=
  match context.delivery with
  | none => none
  | some delivery => if delivery.task = task then delivery.current? else none

/-- The number of listeners that a refresh notified, if it ran to its end. -/
def notified? (context : Context) (task : Nat) : Option Nat :=
  context.completed.lookup task

end Context

end PackGate
