import PackGate.Factory.Step

/-! The factory with callers that run in parallel: others may come between a miss and a flight. -/

namespace PackGate.Factory

variable {ρ : Type}

/-- Puts a caller on a flight under the generation that it has read, which may be over by now. -/
def joinUnder (factory : Factory ρ) (generation caller : Nat) (id : Identifier) : Factory ρ :=
  { { factory with generation }.join caller id with generation := factory.generation }

/-- A factory, and the callers that have missed and have yet to join a flight. -/
structure Parallel (ρ : Type) where
  /-- The factory. -/
  factory : Factory ρ
  /-- Those callers, the latest first, each with the generation that it has read. -/
  misses : List (Nat × Nat) := []

namespace Parallel

/-- What can happen to a factory whose callers run in parallel. -/
inductive Event (ρ : Type) where
  /-- An event in one go. -/
  | whole (event : Factory.Event ρ)
  /-- A caller finds nothing in the cache, and somebody else runs before it joins a flight. -/
  | miss (caller : Nat)
  /-- A caller that has missed joins a flight. -/
  | board (caller : Nat)
deriving Repr

/-- The generation that a caller has read, if it has missed and has yet to join a flight. -/
def read? (parallel : Parallel ρ) (caller : Nat) : Option Nat :=
  parallel.misses.lookup caller

/-- Looks at the phase, the generation and the cache; a caller that misses is put on no flight. -/
def miss (parallel : Parallel ρ) (caller : Nat) : Parallel ρ :=
  match parallel.factory.callers[caller]?, parallel.read? caller with
  | some { id, stage := .entering }, none =>
    match parallel.factory.phase with
    | .shutdown | .uninitialized => parallel
    | .active | .invalidating =>
      match parallel.factory.cache.get id with
      | (some _, _) => parallel
      | (none, cache) =>
        { factory := { parallel.factory with cache }
          misses := (caller, parallel.factory.generation) :: parallel.misses }
  | _, _ => parallel

/-- Puts a caller that has missed on a flight, whatever has happened in between. -/
def board (parallel : Parallel ρ) (caller : Nat) : Parallel ρ :=
  match parallel.factory.callers[caller]?, parallel.read? caller with
  | some known, some generation =>
    let counted := parallel.factory.count fun metrics =>
      { metrics with cacheMisses := metrics.cacheMisses + 1 }
    { factory := counted.joinUnder generation caller known.id
      misses := parallel.misses.filter (·.1 != caller) }
  | _, _ => parallel

/-- What becomes of a factory with an event; one that cannot happen changes nothing. -/
-- There is no wait between a miss and a flight, so that a caller cannot go away there.
def step [Releasable ρ] (parallel : Parallel ρ) : Event ρ → Parallel ρ
  | .whole event =>
    if (event.actor?.bind parallel.read?).isSome then parallel
    else { parallel with factory := parallel.factory.step event }
  | .miss caller => parallel.miss caller
  | .board caller => parallel.board caller

/-- What becomes of a factory with events one after the other. -/
def run [Releasable ρ] (parallel : Parallel ρ) (events : List (Event ρ)) : Parallel ρ :=
  events.foldl step parallel

end Parallel

end PackGate.Factory
