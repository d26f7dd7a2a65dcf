import PackGate.Context
import PackGate.Factory.Sequential

/-! A factory that listens to refresh events, and what can be asked of it. -/

namespace PackGate.Factory

/-- A factory and the source of the refresh events that it listens to. -/
structure Attached (ρ : Type) where
  /-- The factory. -/
  factory : Factory ρ
  /-- The source of refresh events, whose only listener is the factory. -/
  context : Context := {}

namespace Attached

variable {ρ : Type}

/-- The name of the factory among the listeners. -/
def listener : Nat :=
  0

/-- A new factory, which does not listen to refresh events yet. -/
def create (capacity : Nat) (budget : Duration) : Except Cache.CreateFault (Attached ρ) := do
  let factory ← Factory.create capacity budget
  return { factory, context := Context.step {} (.hold listener) }

/-- The same factory listening to refresh events, once more if it did already. -/
def attach (attached : Attached ρ) : Attached ρ where
  factory := attached.factory.activate
  context := attached.context.step (.subscribe listener)

variable [Releasable ρ]

/-! ## Refreshes -/

/-- Runs the callbacks of a refresh one after the other; the factory's own empties the cache. -/
def notify (task : Nat) : List Nat → Attached ρ → Attached ρ
  | [], attached => attached
  | name :: rest, attached =>
    let factory := if name = listener then attached.factory.step .invalidate else attached.factory
    notify task rest { factory, context := attached.context.run [.proceed task, .answer task] }

/-- Sends a refresh event; answers how many listeners it notified. -/
def refresh (attached : Attached ρ) : Nat × Attached ρ :=
  let task := attached.context.epoch
  let started := attached.context.run [.request task, .proceed task]
  let notified := notify task started.subscriptions { attached with context := started }
  (started.subscriptions.length,
    { notified with context := notified.context.step (.proceed task) })

/-! ## Calls -/

/-- What can be asked of a factory. -/
inductive Call where
  /-- Look an identifier up. -/
  | get (id : Identifier)
  /-- Ask whether a resource is cached for an identifier. -/
  | isCached (id : Identifier)
  /-- Empty the cache. -/
  | invalidate
  /-- Make the factory listen to refresh events. -/
  | attach
  /-- Send a refresh event. -/
  | refresh
  /-- See the factory from outside. -/
  | stats
  /-- Close the factory. -/
  | shutdown
deriving DecidableEq, Repr

/-- What a factory answers. -/
inductive Reply where
  /-- Here is the resource of a build. -/
  | resource (build : Nat)
  /-- There is no resource. -/
  | refusal (error : FactoryError)
  /-- There is no answer yet, since somebody else drives the build. -/
  | pending
  /-- Whether a resource is cached. -/
  | presence (found : Bool)
  /-- How many resources were released, or listeners notified. -/
  | number (count : Nat)
  /-- The factory seen from outside. -/
  | stats (seen : Stats)
  /-- Nothing but that it is done. -/
  | done
deriving DecidableEq, Repr

/-- The answer to a lookup. -/
def Reply.ofLookup : Option (Except FactoryError Nat) → Reply
  | some (.ok build) => .resource build
  | some (.error error) => .refusal error
  | none => .pending

/-- Answers a call before anything else happens; `script` tells what each builder call does. -/
def perform (script : Nat → Identifier → Work ρ) (attached : Attached ρ) :
    Call → Reply × Attached ρ
  | .get id =>
    let (found, factory) := attached.factory.get (script attached.factory.builds.size) id
    (.ofLookup found, { attached with factory })
  | .isCached id => (.presence (attached.factory.isCached id), attached)
  | .invalidate =>
    let (number, factory) := attached.factory.invalidate
    (.number number, { attached with factory })
  | .attach => (.done, attached.attach)
  | .refresh =>
    let (number, next) := attached.refresh
    (.number number, next)
  | .stats => (.stats attached.factory.stats, attached)
  | .shutdown =>
    let (number, factory) := attached.factory.shutdown
    (.number number, { attached with factory })

end Attached

end PackGate.Factory
