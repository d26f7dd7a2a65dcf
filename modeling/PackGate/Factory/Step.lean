import PackGate.Factory

/-! The factory as a machine: every stretch that a caller runs between two waits is one step. -/

namespace PackGate.Factory

variable {ρ : Type}

/-- How a builder's work ends. -/
inductive Outcome where
  /-- With a resource. -/
  | ready
  /-- With an error. -/
  | failed (error : BuildError)
  /-- Not at all within the budget. -/
  | overdue
deriving DecidableEq, Repr

/-- What can happen to a factory. -/
inductive Event (ρ : Type) where
  /-- A new caller asks for an identifier. -/
  | call (id : Identifier)
  /-- A caller runs to its next wait; a build that it starts is one of `resource`. -/
  | advance (caller : Nat) (resource : ρ)
  /-- The build that a caller drives ends. -/
  | finish (caller : Nat) (outcome : Outcome)
  /-- A caller goes away. -/
  | cancel (caller : Nat)
  /-- A listener of the configuration makes the factory serve. -/
  | activate
  /-- A refresh empties the cache. -/
  | invalidate
  /-- The factory is closed. -/
  | shutdown
deriving Repr

/-- The caller that an event is about. -/
def Event.actor? : Event ρ → Option Nat
  | .advance caller _ | .finish caller _ | .cancel caller => some caller
  | .call _ | .activate | .invalidate | .shutdown => none

/-! ## Flights -/

/-- The tracked flight of `id` that a caller may join: still open and of no older generation. -/
def joinable? (factory : Factory ρ) (id : Identifier) : Option Nat :=
  (factory.table[id]?).filter fun flight =>
    (factory.flights[flight]?).any fun known =>
      factory.generation ≤ known.generation && known.cell.isNone

/-- Puts a caller on the flight of its identifier, which is started if there is none to join. -/
def join (factory : Factory ρ) (caller : Nat) (id : Identifier) : Factory ρ :=
  match factory.joinable? id with
  | some flight =>
    (factory.updateFlight flight fun known => { known with members := known.members ++ [caller] })
      |>.move caller (.joined flight)
  | none =>
    let flight := factory.flights.size
    let started := { id, generation := factory.generation, members := [caller] }
    { factory with
      flights := factory.flights.push started
      table := factory.table.insert id flight }.move caller (.joined flight)

/-- Takes a caller off its flight; the last one to leave also takes the flight out of the table. -/
def leave (factory : Factory ρ) (caller flight : Nat) : Factory ρ :=
  match factory.flights[flight]? with
  | none => factory
  | some known =>
    let last := known.members.length == 1
    let table :=
      if last && factory.table[known.id]? == some flight then factory.table.erase known.id
      else factory.table
    { factory with table }.updateFlight flight fun known =>
      { known with members := known.members.erase caller }

/-- Ends a flight. -/
def settle (factory : Factory ρ) (flight : Nat) (attempt : Attempt) : Factory ρ :=
  factory.updateFlight flight fun known => { known with cell := some attempt }

/-- Lets a caller take what its flight ended with; a stale end sends it back to the start. -/
def conclude (factory : Factory ρ) (caller flight : Nat) (attempt : Attempt) : Factory ρ :=
  let left := factory.leave caller flight
  match attempt with
  | .ready build => left.move caller (.served build)
  | .failed error => left.move caller (.refused error)
  | .stale => left.move caller .entering

/-- Ends the flight that a caller drives, and lets that caller take the end. -/
def land (factory : Factory ρ) (caller flight : Nat) (attempt : Attempt) : Factory ρ :=
  (factory.settle flight attempt).conclude caller flight attempt

/-- Whether a caller has nothing to do but wait. -/
-- A builder's work is not the caller's, so a caller that drives a build counts as waiting too.
def isBlocked (factory : Factory ρ) (caller : Nat) : Bool :=
  match factory.stage? caller with
  | some .entering | some .activating | some (.checking _ _) => false
  | some (.joined flight) =>
    (factory.flights[flight]?).any fun known =>
      known.cell.isNone && known.members.head? != some caller
  | some (.building _ _) | some (.served _) | some (.refused _) | some .cancelled | none => true

/-! ## A caller's stretches -/

/-- Looks at the phase and the cache, and joins a flight on a miss. -/
def enter (factory : Factory ρ) (caller : Nat) (id : Identifier) : Factory ρ :=
  match factory.phase with
  | .shutdown => factory.move caller (.refused .closed)
  | .uninitialized => factory.move caller .activating
  | .active | .invalidating =>
    match factory.cache.get id with
    | (some build, cache) =>
      ({ factory with cache }.count fun metrics =>
          { metrics with cacheHits := metrics.cacheHits + 1 })
        |>.move caller (.served build)
    | (none, cache) =>
      ({ factory with cache }.count fun metrics =>
          { metrics with cacheMisses := metrics.cacheMisses + 1 })
        |>.join caller id

/-- Starts the build of a flight, unless an earlier flight has cached the resource meanwhile. -/
def start (factory : Factory ρ) (caller flight : Nat) (id : Identifier) (resource : ρ) :
    Factory ρ :=
  match factory.cache.get id with
  | (some build, cache) => { factory with cache }.land caller flight (.ready build)
  | (none, cache) =>
    let build := factory.builds.size
    { factory with cache, builds := factory.builds.push { id, flight, resource } }.move caller
      (.building flight build)

/-- Takes the end of a flight if there is one, else drives it when it is the caller's turn. -/
def resume (factory : Factory ρ) (caller flight : Nat) (id : Identifier) (resource : ρ) :
    Factory ρ :=
  match factory.flights[flight]? with
  | none => factory
  | some known =>
    match known.cell with
    | some attempt => factory.conclude caller flight attempt
    | none =>
      if known.members.head? = some caller then factory.start caller flight id resource else factory

/-- Takes note that the builder is done with a build. -/
def finish (factory : Factory ρ) (caller flight build : Nat) (id : Identifier) (outcome : Outcome) :
    Factory ρ :=
  -- Time is no part of the state, so every build counts as instantaneous.
  let observed := factory.count fun metrics =>
    { metrics with buildDuration := metrics.buildDuration.observe 0.0 }
  match outcome with
  | .ready =>
    (observed.updateBuild build ({ · with status := .ready })).move caller (.checking flight build)
  | .failed error =>
    let missing := match error with
      | .missing _ => true
      | .other _ => false
    let status := if missing then .missing else .failed
    (observed.updateBuild build ({ · with status }))
      |>.note (.warn "resource build failed")
      |>.count (·.recordBuild .failed)
      |>.land caller flight (.failed (.failed id.text error.fullMessage missing))
  | .overdue =>
    (observed.updateBuild build ({ · with status := .expired }))
      |>.note (.warn "resource build timed out")
      |>.count (·.recordBuild .timeout)
      |>.land caller flight (.failed (.timedOut id.text factory.budget))

section Release

variable [Releasable ρ]

/-- Puts a new resource into the cache; what it displaces is released. -/
def store (factory : Factory ρ) (build : Nat) (id : Identifier) : Factory ρ :=
  let (insertion, cache) := factory.cache.insert id build
  let stored := { factory with cache }
  let cleared := match insertion with
    | .inserted => stored
    | .updated previous => stored.release previous
    | .evicted _ oldest =>
      (stored.count fun metrics => { metrics with cacheEvictions := metrics.cacheEvictions + 1 })
        |>.release oldest
  cleared.count fun metrics =>
    { metrics with cacheEntries := Int64.ofNat cleared.cache.size }.recordBuild .ok

/-- Caches a new resource if its flight is of the current generation, else releases it. -/
def check (factory : Factory ρ) (caller flight build : Nat) (id : Identifier) : Factory ρ :=
  let current := (factory.flights[flight]?).any (·.generation = factory.generation)
  if factory.phase = .shutdown then
    ((factory.count (·.recordBuild .stale)).release build).land caller flight (.failed .closed)
  else if current then (factory.store build id).land caller flight (.ready build)
  else ((factory.count (·.recordBuild .stale)).release build).land caller flight .stale

/-- Lets a caller run to its next wait. -/
def advance (factory : Factory ρ) (caller : Nat) (resource : ρ) : Factory ρ :=
  match factory.callers[caller]? with
  | none => factory
  | some known =>
    match known.stage with
    | .entering => factory.enter caller known.id
    | .activating => factory.activate.move caller .entering
    | .joined flight => factory.resume caller flight known.id resource
    | .checking flight build => factory.check caller flight build known.id
    | .building .. | .served _ | .refused _ | .cancelled => factory

end Release

/-- Lets a caller go away; a resource that it holds goes with it. -/
def cancel (factory : Factory ρ) (caller : Nat) : Factory ρ :=
  match factory.stage? caller with
  | some .entering | some .activating => factory.move caller .cancelled
  | some (.joined flight) | some (.checking flight _) =>
    (factory.leave caller flight).move caller .cancelled
  | some (.building flight build) =>
    ((factory.updateBuild build ({ · with status := .cancelled })).leave caller flight).move caller
      .cancelled
  | some (.served _) | some (.refused _) | some .cancelled | none => factory

/-- What becomes of a factory with an event; one that cannot happen changes nothing. -/
def step [Releasable ρ] (factory : Factory ρ) : Event ρ → Factory ρ
  | .call id => { factory with callers := factory.callers.push { id } }
  | .advance caller resource => factory.advance caller resource
  | .finish caller outcome =>
    match factory.callers[caller]? with
    | some { id, stage := .building flight build } => factory.finish caller flight build id outcome
    | _ => factory
  | .cancel caller => factory.cancel caller
  | .activate => factory.activate
  | .invalidate => factory.invalidate.2
  | .shutdown => factory.shutdown.2

/-- What becomes of a factory with events one after the other. -/
def run [Releasable ρ] (factory : Factory ρ) (events : List (Event ρ)) : Factory ρ :=
  events.foldl step factory

end PackGate.Factory
