import PackGate.Proofs.Cache.Refinement
import PackGate.Proofs.Factory.Register

/-! What a register tells of a factory, wherever the callers stand. -/

namespace PackGate.Factory

variable {ρ : Type}

/-! ## Budgets -/

/-- Leaving a flight keeps the budget. -/
@[simp] theorem leave_budget (factory : Factory ρ) (caller flight : Nat) :
    (factory.leave caller flight).budget = factory.budget := by
  unfold leave
  split <;> rfl

/-- Landing keeps the budget. -/
@[simp] theorem land_budget (factory : Factory ρ) (caller flight : Nat) (attempt : Attempt) :
    (factory.land caller flight attempt).budget = factory.budget := by
  rw [land_eq]
  exact leave_budget factory caller flight

/-- Joining a flight keeps the budget. -/
@[simp] theorem join_budget (factory : Factory ρ) (caller : Nat) (id : Identifier) :
    (factory.join caller id).budget = factory.budget := by
  unfold join
  split <;> rfl

/-- Beginning to serve keeps the budget. -/
@[simp] theorem activate_budget (factory : Factory ρ) :
    factory.activate.budget = factory.budget := by
  unfold activate
  split <;> rfl

section Release

variable [Releasable ρ]

/-- Running a release hook keeps the budget. -/
@[simp] theorem release_budget (factory : Factory ρ) (build : Nat) :
    (factory.release build).budget = factory.budget := by
  unfold release
  split
  · rfl
  · dsimp only
    split <;> rfl

/-- Storing a resource keeps the budget. -/
@[simp] theorem store_budget (factory : Factory ρ) (build : Nat) (id : Identifier) :
    (factory.store build id).budget = factory.budget := by
  unfold store
  rcases factory.cache.insert id build with ⟨insertion, cache⟩
  -- Only what is displaced has its hook run.
  cases insertion with
  | inserted => rfl
  | updated previous => exact release_budget ..
  | evicted oldId oldest => exact release_budget ..

/-- Emptying the cache keeps the budget. -/
@[simp] theorem releaseAll_budget (factory : Factory ρ) :
    factory.releaseAll.2.budget = factory.budget := by
  have folded {release : Factory ρ → Identifier × Nat → Factory ρ}
      (keeps : ∀ factory entry, (release factory entry).budget = factory.budget)
      (entries : List (Identifier × Nat)) (factory : Factory ρ) :
      (entries.foldl release factory).budget = factory.budget := by
    induction entries generalizing factory with
    | nil => rfl
    | cons entry rest ih => rw [List.foldl_cons, ih, keeps]
  exact folded (fun factory entry => release_budget factory entry.2) _ _

end Release

/-! ## What a register tells of a factory -/

/-- A factory has cached, built and released what a register tells, wherever its callers stand. -/
structure Holds (factory : Factory ρ) (register : Register ρ) : Prop where
  /-- The phase is the one told. -/
  phase : factory.phase = register.phase
  /-- The generation is the one told. -/
  generation : factory.generation = register.generation
  /-- The budget is the one told. -/
  budget : factory.budget = register.budget
  /-- The cache is sound. -/
  wellFormed : factory.cache.WellFormed
  /-- The cache lists the entries that are told, in their order. -/
  list : factory.cache.toRecency = register.recency
  /-- The builder was called as is told. -/
  calls : factory.builds.toList.map (fun known => (known.id, known.resource)) = register.calls
  /-- The hooks that are told have run, in their order. -/
  released : factory.released = register.released
  /-- Every entry comes from a call of the builder. -/
  known : ∀ entry ∈ register.entries, entry.2 < register.calls.length

namespace Holds

variable {factory after : Factory ρ} {register : Register ρ}

/-- There are as many builds as calls of the builder. -/
theorem size_builds (holds : Holds factory register) :
    factory.builds.size = register.calls.length := by
  rw [← holds.calls, List.length_map, Array.length_toList]

/-- A lookup in the cache is a lookup in the list of entries. -/
theorem peek (holds : Holds factory register) (id : Identifier) :
    factory.cache.toRecency.peek id = register.entries.lookup id := by
  rw [holds.list]
  rfl

/-- What callers do among themselves is not told. -/
theorem reseated (holds : Holds factory register) (same : Reseated factory after)
    (budget : after.budget = factory.budget) : Holds after register where
  phase := same.phase.trans holds.phase
  generation := same.generation.trans holds.generation
  budget := budget.trans holds.budget
  wellFormed := same.cache ▸ holds.wellFormed
  list := same.cache ▸ holds.list
  calls := same.builds ▸ holds.calls
  released := same.released.trans holds.released
  known := holds.known

/-- Counters and log are not told. -/
theorem noted (holds : Holds factory register) (metrics : Metrics)
    (journal : List Notice) : Holds { factory with metrics, journal } register :=
  holds.reseated ⟨rfl, rfl, rfl, rfl, rfl⟩ rfl

/-- A hit puts its entry in front, in the cache and in the list. -/
theorem hit (holds : Holds factory register) {id : Identifier} {build : Nat}
    (found : register.entries.lookup id = some build) :
    (factory.cache.get id).1 = some build ∧
      Holds { factory with cache := (factory.cache.get id).2 }
        { register with entries := (id, build) :: register.entries.filter (·.1 != id) } := by
  obtain ⟨answer, wellFormed, list⟩ := Cache.Lru.get_matches holds.wellFormed id
  -- A cache does what its plain list does, and that is read off the entries.
  have moved : factory.cache.toRecency.get id = (some build,
      ⟨(id, build) :: register.entries.filter (·.1 != id), register.capacity⟩) := by
    rw [Cache.Recency.get, holds.peek, found, holds.list]
    rfl
  rw [moved] at answer list
  refine ⟨answer, ?_⟩
  exact { holds with
    wellFormed
    list
    known := by
      -- The entry in front was listed before, as were all the others.
      intro entry member
      rcases List.mem_cons.mp member with rfl | member
      · obtain ⟨front, back, same, _⟩ := List.lookup_eq_some_iff.mp found
        exact holds.known (id, build) (by simp [same])
      · exact holds.known entry (List.mem_filter.mp member).1 }

/-- A miss leaves the cache as it is told. -/
theorem miss (holds : Holds factory register) {id : Identifier}
    (absent : register.entries.lookup id = none) :
    (factory.cache.get id).1 = none ∧
      Holds { factory with cache := (factory.cache.get id).2 } register := by
  obtain ⟨answer, wellFormed, list⟩ := Cache.Lru.get_matches holds.wellFormed id
  have same : factory.cache.toRecency.get id = (none, register.recency) := by
    rw [Cache.Recency.get, holds.peek, absent, holds.list]
  rw [same] at answer list
  exact ⟨answer, { holds with wellFormed, list }⟩

/-- A call of the builder is one more call. -/
theorem called (holds : Holds factory register) (id : Identifier) (flight : Nat) (resource : ρ) :
    Holds { factory with builds := factory.builds.push { id, flight, resource } }
      { register with calls := register.calls ++ [(id, resource)] } :=
  { holds with
    calls := by
      rw [← holds.calls]
      simp
    known := by
      intro entry member
      rw [List.length_append]
      exact Nat.lt_add_right _ (holds.known entry member) }

/-- How far a build has come is not told. -/
theorem progressed (holds : Holds factory register) (build : Nat) (status : BuildStatus) :
    Holds (factory.updateBuild build ({ · with status })) register :=
  { holds with
    calls := by
      -- A new status changes neither the identifier nor the resource of a build.
      rw [← holds.calls, ← Array.toList_map, ← Array.toList_map]
      refine congrArg Array.toList ?_
      dsimp only [updateBuild]
      exact map_modify_eq (by intro known; rfl) factory.builds build }

/-- Only entries that are known are listed, so their hooks all run. -/
theorem all_known (holds : Holds factory register) {entries : List (Identifier × Nat)}
    (listed : ∀ entry ∈ entries, entry ∈ register.entries) :
    (entries.map (·.2)).filter (· < factory.builds.size) = entries.map (·.2) := by
  rw [List.filter_eq_self, holds.size_builds]
  intro build member
  obtain ⟨entry, inside, rfl⟩ := List.mem_map.mp member
  simpa using holds.known entry (listed entry inside)

/-- Where other entries are cached, other entries are told. -/
theorem recached (holds : Holds factory register) {cache : Cache.Lru Identifier Nat}
    {entries : List (Identifier × Nat)} (wellFormed : cache.WellFormed)
    (list : cache.toRecency = ⟨entries, register.capacity⟩)
    (known : ∀ entry ∈ entries, entry.2 < register.calls.length) :
    Holds { factory with cache } { register with entries } :=
  { holds with wellFormed, list, known }

/-- Where hooks have run, they are told. -/
theorem freed (holds : Holds factory register) (freed : Freed factory after)
    (budget : after.budget = factory.budget) {released : List Nat}
    (runs : after.released = released) : Holds after { register with released } where
  phase := freed.phase.trans holds.phase
  generation := freed.generation.trans holds.generation
  budget := budget.trans holds.budget
  wellFormed := freed.cache ▸ holds.wellFormed
  list := freed.cache ▸ holds.list
  calls := freed.builds ▸ holds.calls
  released := runs
  known := holds.known

variable [Releasable ρ]

/-- Storing a new resource pushes its entry. -/
theorem stored (holds : Holds factory register) {id : Identifier} {build : Nat}
    (absent : register.entries.lookup id = none) (inside : build < register.calls.length) :
    Holds (factory.store build id) (register.push id build) := by
  obtain ⟨pushed, displaced, released⟩ := register.push_eq_insert build absent
  obtain ⟨answer, wellFormed, list⟩ := Cache.Lru.insert_matches holds.wellFormed id build
  obtain ⟨freed, runs⟩ := store_frame factory build id
  rw [holds.list] at answer list
  rw [pushed] at list
  have known : ∀ entry ∈ (register.push id build).entries, entry.2 < register.calls.length := by
    intro entry member
    rcases register.mem_push member with rfl | member
    · exact inside
    · exact holds.known entry member
  have capacity : (register.push id build).capacity = register.capacity := by
    unfold Register.push
    split <;> rfl
  have inserted := holds.recached wellFormed
    (list.trans (congrArg (Cache.Recency.mk _) capacity)) known
  -- What is displaced is known to the builder, so its hook runs.
  rw [answer, holds.all_known displaced, holds.released, ← released] at runs
  have same : { register with
      entries := (register.push id build).entries
      released := (register.push id build).released } = register.push id build := by
    unfold Register.push
    split <;> rfl
  exact same ▸ inserted.freed freed (store_budget ..) runs

/-- Emptying the cache releases what was listed, the last entry first, and empties the list. -/
theorem emptied (holds : Holds factory register) :
    factory.releaseAll.1 = register.entries.length ∧
      Holds factory.releaseAll.2
        { register with
          entries := []
          released := register.released ++ register.entries.reverse.map (·.2) } := by
  obtain ⟨answer, wellFormed, list⟩ := Cache.Lru.drain_matches holds.wellFormed
  obtain ⟨freed, runs⟩ := releaseAll_frame factory
  rw [holds.list] at answer list
  -- The cache is drained from its oldest entry on, which is the list read backwards.
  have listed : ∀ entry ∈ register.entries.reverse, entry ∈ register.entries := by simp
  have drained : factory.cache.drain.1 = register.entries.reverse := answer
  rw [drained, holds.all_known listed, holds.released] at runs
  -- Flights are forgotten as well, which no register tells of.
  have forgets : Reseated factory { factory with table := ∅ } := ⟨rfl, rfl, rfl, rfl, rfl⟩
  refine ⟨?_, ((holds.reseated forgets rfl).recached wellFormed list (by simp)).freed freed
    (releaseAll_budget factory) runs⟩
  show factory.cache.drain.1.length = _
  rw [drained, List.length_reverse]

/-- A factory that is emptied for a new generation does what its register tells. -/
theorem cleared (holds : Holds factory register) (runs : register.phase ≠ .shutdown)
    (between after : Phase) (metrics : Metrics) (journal : List Notice) :
    let emptied := releaseAll { factory with
      phase := between, generation := factory.generation + 1 }
    emptied.1 = (register.clear after).1 ∧
      Holds { emptied.2 with phase := after, metrics, journal } (register.clear after).2 := by
  -- The generation is opened before anything is released.
  have opened : Holds { factory with phase := between, generation := factory.generation + 1 }
      { register with phase := between, generation := register.generation + 1 } :=
    { holds with phase := rfl, generation := congrArg (· + 1) holds.generation }
  obtain ⟨number, empty⟩ := opened.emptied
  rw [Register.clear, if_neg runs]
  exact ⟨number, { empty.noted metrics journal with phase := rfl }⟩

/-- Emptying the cache does what the register tells. -/
theorem invalidate (holds : Holds factory register) :
    factory.invalidate.1 = register.invalidate.1 ∧
      Holds factory.invalidate.2 register.invalidate.2 := by
  unfold Factory.invalidate Register.invalidate
  by_cases shut : register.phase = .shutdown
  · rw [if_pos (holds.phase.trans shut), Register.clear, if_pos shut]
    exact ⟨rfl, holds⟩
  · rw [if_neg (by rw [holds.phase]; exact shut)]
    -- Between the two phases nobody else runs, so that the first of them never shows.
    exact holds.cleared shut .invalidating .active _ _

/-- Closing the factory does what the register tells. -/
theorem shutdown (holds : Holds factory register) :
    factory.shutdown.1 = register.shutdown.1 ∧
      Holds factory.shutdown.2 register.shutdown.2 := by
  unfold Factory.shutdown Register.shutdown
  by_cases shut : register.phase = .shutdown
  · rw [if_pos (holds.phase.trans shut), Register.clear, if_pos shut]
    exact ⟨rfl, holds⟩
  · rw [if_neg (by rw [holds.phase]; exact shut)]
    obtain ⟨number, closed⟩ :=
      holds.cleared shut .shutdown .shutdown factory.metrics factory.journal
    -- Nothing sets the phase back while the cache is emptied.
    have stays : (releaseAll { factory with
        phase := .shutdown, generation := factory.generation + 1 }).2.phase = .shutdown :=
      (releaseAll_frame _).1.phase
    exact ⟨number, { closed with phase := stays.trans closed.phase }⟩

/-- Emptying the cache several times does what the register tells. -/
theorem invalidates (holds : Holds factory register) (number : Nat) :
    Holds (factory.run (List.replicate number .invalidate)) (register.invalidates number) := by
  induction number generalizing factory register with
  | zero => exact holds
  | succ number ih => exact ih holds.invalidate.2

end Holds

end PackGate.Factory
