import PackGate.Proofs.Factory.Invariant

/-! Runs of a factory that is known in full, and what two beginnings of a run come to. -/

namespace PackGate.Factory

namespace Evaluation

-- With these definitions a run is computed stretch by stretch; they are opened only where it is.
attribute [scoped simp] run step advance enter activate resume finish check cancel
attribute [scoped simp] join joinable? start leave settle conclude land move stage?
attribute [scoped simp] invalidate shutdown releaseAll release releases store isReleased
attribute [scoped simp] note count updateFlight updateBuild Releasable.releaseFails
attribute [scoped simp] Cache.Lru.get Cache.Lru.getChecked Cache.Lru.insert Cache.Lru.insertChecked
attribute [scoped simp] Cache.Lru.drain Cache.Lru.popUpTo Cache.Lru.pop Cache.Lru.popChecked
attribute [scoped simp] Cache.Lru.removeAt? Cache.Lru.detach? Cache.Lru.attachFront?
attribute [scoped simp] Cache.Lru.updateNode? Cache.Lru.linkOlder? Cache.Lru.linkNewer?
attribute [scoped simp] Cache.Lru.toList Cache.Lru.walk Option.filter List.modify_succ_cons

end Evaluation

open Evaluation

variable {ρ : Type} [Releasable ρ] {capacity : Nat} {budget : Duration} {start : Factory ρ}

/-- The first caller of a factory comes and drives the build of a resource to its end. -/
def opening (id : Identifier) (resource : ρ) : List (Event ρ) :=
  [.call id, .advance 0 resource, .advance 0 resource, .advance 0 resource, .advance 0 resource,
    .finish 0 .ready]

/-- After an opening the caller holds a resource of which nobody else knows. -/
theorem run_opening (created : create capacity budget = .ok start) (id : Identifier)
    (resource : ρ) :
    ∃ metrics journal, start.run (opening id resource) =
      { start with
        phase := .active
        table := start.table.insert id 0
        flights := #[{ id, generation := 0, members := [0] }]
        builds := #[{ id, flight := 0, resource, status := .ready }]
        callers := #[⟨id, .checking 0 0⟩]
        metrics, journal } := by
  refine ⟨(start.run (opening id resource)).metrics, (start.run (opening id resource)).journal, ?_⟩
  obtain ⟨_, made, rfl⟩ := create_made created
  obtain ⟨rfl, _⟩ := Cache.Lru.create_made made
  simp [opening]

/-- Two callers come for one identifier, and one of them builds. -/
def sharing (id : Identifier) (resource : ρ) : List (Event ρ) :=
  [.call id, .call id, .advance 0 resource, .advance 0 resource, .advance 0 resource,
    .advance 0 resource, .advance 1 resource]

/-- Two callers that share a build are on one flight. -/
theorem run_sharing (created : create capacity budget = .ok start) (id : Identifier)
    (resource : ρ) :
    ∃ metrics journal, start.run (sharing id resource) =
      { start with
        phase := .active
        table := start.table.insert id 0
        flights := #[{ id, generation := 0, members := [0, 1] }]
        builds := #[{ id, flight := 0, resource }]
        callers := #[⟨id, .building 0 0⟩, ⟨id, .joined 0⟩]
        metrics, journal } := by
  refine ⟨(start.run (sharing id resource)).metrics, (start.run (sharing id resource)).journal, ?_⟩
  obtain ⟨_, made, rfl⟩ := create_made created
  obtain ⟨rfl, _⟩ := Cache.Lru.create_made made
  simp [sharing]

end PackGate.Factory
