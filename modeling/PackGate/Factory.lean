import PackGate.Cache.Lru
import PackGate.Error
import PackGate.Metrics

/-! The state of a factory: a cache of resources, builds under way, and the callers they serve. -/

namespace PackGate

/-- A resource that frees something when it leaves the cache. -/
class Releasable (ρ : Type) where
  /-- Whether the release hook fails when it has already run the given number of times. -/
  releaseFails : ρ → Nat → Bool

namespace Factory

/-- The phases of a factory's life. -/
inductive Phase where
  /-- Created; no caller has come yet. -/
  | uninitialized
  /-- Serving. -/
  | active
  /-- Emptying the cache on a refresh. -/
  | invalidating
  /-- Closed for good. -/
  | shutdown
deriving DecidableEq, Repr

/-- The phase in words. -/
def Phase.name : Phase → String
  | .uninitialized => "uninitialized"
  | .active => "active"
  | .invalidating => "invalidating"
  | .shutdown => "shutdown"

/-- What a flight ended with, for every caller that joined it. -/
inductive Attempt where
  /-- A resource, known by the number of its build. -/
  | ready (build : Nat)
  /-- An error. -/
  | failed (error : FactoryError)
  /-- A refresh came in between; the callers start over. -/
  | stale
deriving DecidableEq, Repr

/-- One attempt at an identifier, shared by the callers that miss it at the same time. -/
structure Flight where
  /-- The identifier. -/
  id : Identifier
  /-- The generation that the flight was started under. -/
  generation : Nat
  /-- What the flight ended with, once it has. -/
  cell : Option Attempt := none
  /-- The callers on the flight in the order they joined; the first one drives the build. -/
  members : List Nat := []
deriving DecidableEq, Repr

/-- How far a build has come. -/
inductive BuildStatus where
  /-- The builder is at work. -/
  | running
  /-- The builder handed out a resource. -/
  | ready
  /-- The builder found nothing under the name. -/
  | missing
  /-- The builder failed. -/
  | failed
  /-- The budget ran out. -/
  | expired
  /-- The caller that drove the build went away. -/
  | cancelled
deriving DecidableEq, Repr

/-- One call of the builder. -/
structure Build (ρ : Type) where
  /-- The identifier that the builder was called with. -/
  id : Identifier
  /-- The flight that the build belongs to. -/
  flight : Nat
  /-- What the builder hands out if it succeeds. -/
  resource : ρ
  /-- How far the build has come. -/
  status : BuildStatus := .running
deriving Repr

/-- Where a caller stands between two of its waits. -/
inductive Stage where
  /-- About to look at the phase and the cache. -/
  | entering
  /-- About to activate the factory. -/
  | activating
  /-- On a flight, waiting for its end or for the turn to drive it. -/
  | joined (flight : Nat)
  /-- Driving a build. -/
  | building (flight build : Nat)
  /-- Holding a new resource, about to see whether it is still wanted. -/
  | checking (flight build : Nat)
  /-- Served with the resource of a build. -/
  | served (build : Nat)
  /-- Refused. -/
  | refused (error : FactoryError)
  /-- Gone before it was done. -/
  | cancelled
deriving DecidableEq, Repr

/-- A caller that asks for a resource. -/
structure Caller where
  /-- The identifier asked for. -/
  id : Identifier
  /-- Where the caller stands. -/
  stage : Stage := .entering
deriving DecidableEq, Repr

/-- A factory seen from outside at one moment. -/
structure Stats where
  /-- The phase. -/
  phase : Phase
  /-- The generation. -/
  generation : Nat
  /-- The number of cached resources. -/
  cached : Nat
  /-- The greatest number of cached resources. -/
  capacity : Nat
  /-- The number of flights in the table. -/
  inFlight : Nat
deriving DecidableEq, Repr

end Factory

/-- A factory with all that has happened in it; flights, builds and callers keep their numbers. -/
structure Factory (ρ : Type) where
  /-- The time that one build may take. -/
  budget : Duration
  /-- The phase. -/
  phase : Factory.Phase := .uninitialized
  /-- How many refreshes and shutdowns have taken effect. -/
  generation : Nat := 0
  /-- The build of every cached resource. -/
  cache : Cache.Lru Identifier Nat
  /-- The flight that a caller who misses an identifier may join. -/
  table : Std.HashMap Identifier Nat := ∅
  /-- Every flight so far. -/
  flights : Array Factory.Flight := #[]
  /-- Every build so far. -/
  builds : Array (Factory.Build ρ) := #[]
  /-- Every caller so far. -/
  callers : Array Factory.Caller := #[]
  /-- The build of each resource whose release hook has run, once per run, the latest last. -/
  released : List Nat := []
  /-- The counters. -/
  metrics : Metrics := {}
  /-- The log, newest record last. -/
  journal : List Notice := []

namespace Factory

variable {ρ : Type}

/-- What the parts of the cache measure: a key is a text, and a value a reference. -/
def layout : Cache.Layout where
  bucket := 32
  node := 48

/-- A factory for `capacity` resources, each built within `budget`. -/
def create (capacity : Nat) (budget : Duration) : Except Cache.CreateFault (Factory ρ) := do
  let cache ← Cache.Lru.create layout capacity
  return { budget, cache }

/-- The factory at this moment. -/
def stats (factory : Factory ρ) : Stats where
  phase := factory.phase
  generation := factory.generation
  cached := factory.cache.size
  capacity := factory.cache.capacity
  inFlight := factory.table.size

/-- Whether a resource is cached for `id`; this is no use of it. -/
def isCached (factory : Factory ρ) (id : Identifier) : Bool :=
  factory.cache.peekContains id

/-- Where a caller stands. -/
def stage? (factory : Factory ρ) (caller : Nat) : Option Stage :=
  (factory.callers[caller]?).map (·.stage)

/-- How often the release hook of a build's resource has run. -/
def releases (factory : Factory ρ) (build : Nat) : Nat :=
  factory.released.count build

/-- Whether the resource of a build has been released. -/
def isReleased (factory : Factory ρ) (build : Nat) : Bool :=
  factory.released.contains build

/-- The same factory with one more log record. -/
def note (factory : Factory ρ) (notice : Notice) : Factory ρ :=
  { factory with journal := factory.journal ++ [notice] }

/-- The same factory with its counters changed. -/
def count (factory : Factory ρ) (change : Metrics → Metrics) : Factory ρ :=
  { factory with metrics := change factory.metrics }

/-- The same factory with a caller moved to another stage. -/
def move (factory : Factory ρ) (caller : Nat) (stage : Stage) : Factory ρ :=
  { factory with callers := factory.callers.modify caller ({ · with stage }) }

/-- The same factory with a flight changed. -/
def updateFlight (factory : Factory ρ) (flight : Nat) (change : Flight → Flight) : Factory ρ :=
  { factory with flights := factory.flights.modify flight change }

/-- The same factory with a build changed. -/
def updateBuild (factory : Factory ρ) (build : Nat) (change : Build ρ → Build ρ) : Factory ρ :=
  { factory with builds := factory.builds.modify build change }

/-! ## Releasing -/

section Release

variable [Releasable ρ]

/-- Runs the release hook of a build's resource; a failure is counted and logged. -/
def release (factory : Factory ρ) (build : Nat) : Factory ρ :=
  match factory.builds[build]? with
  | none => factory
  | some known =>
    let counted :=
      { factory with released := factory.released ++ [build] }.count fun metrics =>
        { metrics with releases := metrics.releases + 1 }
    if Releasable.releaseFails known.resource (factory.releases build) then
      (counted.count fun metrics => { metrics with releaseFailures := metrics.releaseFailures + 1 })
        |>.note (.warn "failed to release resource")
    else counted

/-- Empties the cache and releases what was in it, the oldest first; answers how much that was. -/
def releaseAll (factory : Factory ρ) : Nat × Factory ρ :=
  let (entries, cache) := factory.cache.drain
  let released := entries.foldl (fun factory (_, build) => factory.release build)
    { factory with table := ∅, cache }
  (entries.length, released.count fun metrics => { metrics with cacheEntries := 0 })

/-- Opens a new generation with an empty cache, unless the factory is shut down. -/
def invalidate (factory : Factory ρ) : Nat × Factory ρ :=
  if factory.phase = .shutdown then (0, factory)
  else
    -- Nobody meets this phase: it stands for the lock that is held until the cache is empty.
    let (number, emptied) :=
      { factory with phase := .invalidating, generation := factory.generation + 1 }.releaseAll
    let counted := emptied.count fun metrics =>
      { metrics with invalidations := metrics.invalidations + 1 }
    (number, { counted with phase := .active }.note (.info "resource cache invalidated"))

/-- Closes the factory for good and empties its cache. -/
def shutdown (factory : Factory ρ) : Nat × Factory ρ :=
  if factory.phase = .shutdown then (0, factory)
  else
    let (number, emptied) :=
      { factory with phase := .shutdown, generation := factory.generation + 1 }.releaseAll
    (number, emptied.note (.info "resource factory shut down"))

end Release

/-- Makes a new factory serve. -/
def activate (factory : Factory ρ) : Factory ρ :=
  if factory.phase = .uninitialized then
    { factory with phase := .active }.note (.info "resource factory active")
  else factory

end Factory

end PackGate
