import PackGate.Proofs.Factory.Holds
import PackGate.Proofs.Factory.Refresh

/-! What is cached was built for its identifier, even where resources are released out of turn. -/

namespace PackGate.Factory

variable {ρ : Type}

/-- The parts of a factory agree with each other, whatever has been released. -/
structure Filed (factory : Factory ρ) : Prop where
  /-- Callers, flights and table agree. -/
  crewed : Crewed factory
  /-- Builds and the callers that drive them agree. -/
  worked : Worked factory
  /-- The cache is well formed. -/
  wellFormed : factory.cache.WellFormed
  /-- What is cached was built for the identifier that it is cached under. -/
  named : ∀ {id : Identifier} {build : Nat}, (id, build) ∈ factory.cache.toList →
    ∃ work, factory.builds[build]? = some work ∧ work.id = id

/-- A sound factory is one of which this holds. -/
theorem Sound.filed {factory : Factory ρ} (sound : Sound factory) : Filed factory := by
  refine ⟨sound.crewed, sound.worked, sound.kept.wellFormed, fun entry => ?_⟩
  -- The cache of a sound factory knows more of every entry than its identifier.
  obtain ⟨_, work, _, found, same, _⟩ := sound.kept.cached entry
  exact ⟨work, found, same⟩

/-! ## Steps -/

/-- What one step makes of the cache: the same capacity, and nothing new but what is stored. -/
structure Recached (factory after : Factory ρ) : Prop where
  /-- The cache is well formed. -/
  wellFormed : after.cache.WellFormed
  /-- The capacity is the same. -/
  capacity : after.cache.capacity = factory.cache.capacity
  /-- An entry was cached before, or a caller has just brought it. -/
  brought : ∀ entry ∈ after.cache.toList, entry ∈ factory.cache.toList ∨
    ∃ (member : Nat) (caller : Caller) (flight : Nat),
      factory.callers[member]? = some caller ∧ caller.stage = .checking flight entry.2 ∧
        caller.id = entry.1

/-- Looking the cache up changes its order at most. -/
theorem Touched.recached {before after : Factory ρ} (touched : Touched before after)
    (wellFormed : before.cache.WellFormed) : Recached before after := by
  -- The entries are the same ones, so only the capacity is left, which no lookup writes.
  obtain ⟨kept, contents⟩ := touched.contents wellFormed
  refine ⟨kept, ?_, fun entry member => .inl ((contents entry).mp member)⟩
  rcases touched.cache with same | ⟨id, looked⟩
  · rw [same]
  · rw [looked]
    have list := (Cache.Lru.get_matches wellFormed id).list
    refine (congrArg Cache.Recency.capacity list).trans ?_
    unfold Cache.Recency.get
    split <;> rfl

/-- Only the cache counts. -/
theorem Recached.congr {factory between after : Factory ρ} (recached : Recached factory between)
    (same : after.cache = between.cache) : Recached factory after := by
  obtain ⟨wellFormed, capacity, brought⟩ := recached
  rw [← same] at wellFormed capacity brought
  exact ⟨wellFormed, capacity, brought⟩

variable [Releasable ρ] {factory after : Factory ρ} {event : Event ρ}

/-- Only storing a new resource brings an entry into the cache. -/
theorem Transition.recached (transition : Transition factory event after)
    (wellFormed : factory.cache.WellFormed) : Recached factory after := by
  have still : Recached factory factory := (Touched.refl factory).recached wellFormed
  cases transition with
  | idle touched => exact touched.recached wellFormed
  -- Of all transitions two write to the cache: one stores an entry, one empties it.
  | call => exact still.congr rfl
  | walk touched => exact (touched.recached wellFormed).congr rfl
  | quit => exact still.congr rfl
  | join touched => exact (touched.recached wellFormed).congr (join_frame ..).cache
  | conclude => exact still.congr (depart_frame ..).cache
  | leave => exact still.congr (depart_frame ..).cache
  | abandon => exact still.congr (depart_frame ..).cache
  | reuse touched => exact (touched.recached wellFormed).congr (land_frame ..).cache
  | start touched => exact (touched.recached wellFormed).congr rfl
  | deliver _ _ touched =>
    obtain ⟨kept, capacity, brought⟩ := touched.recached wellFormed
    exact ⟨kept, capacity, brought⟩
  | fail _ _ touched =>
    obtain ⟨kept, capacity, brought⟩ := touched.recached wellFormed
    exact Recached.congr ⟨kept, capacity, brought⟩ (land_frame ..).cache
  | @discard between _ _ build _ _ _ touched =>
    exact (touched.recached wellFormed).congr
      ((land_frame ..).cache.trans (release_frame between build).cache)
  | @store member flight build resource caller _ here checks =>
    -- The list of entries tells the capacity, and its contents tell what is new.
    obtain ⟨_, kept, list⟩ := Cache.Lru.insert_matches wellFormed caller.id build
    obtain ⟨_, contents⟩ := Cache.Lru.insert_contents wellFormed caller.id build
    obtain ⟨freed, _⟩ := store_frame factory build caller.id
    have stored : Recached factory (factory.store build caller.id) := by
      refine ⟨?_, ?_, ?_⟩
      · rw [freed.cache]
        exact kept
      · rw [freed.cache]
        refine (congrArg Cache.Recency.capacity list).trans ?_
        unfold Cache.Recency.insert
        split
        · rfl
        · split
          · split <;> rfl
          · rfl
      · -- The entry that is new is the one that the caller has brought.
        intro entry cached
        rw [freed.cache, contents] at cached
        rcases cached with rfl | ⟨old, _⟩
        · exact .inr ⟨member, caller, flight, here, checks, rfl⟩
        · exact .inl old
    exact stored.congr (land_frame ..).cache
  | reset _ _ cache =>
    -- A drained cache has no entry that would need a source.
    obtain ⟨_, kept, list⟩ := Cache.Lru.drain_matches wellFormed
    rw [← cache] at kept list
    refine ⟨kept, congrArg Cache.Recency.capacity list, fun entry member => ?_⟩
    have empty : after.cache.toList = [] := congrArg Cache.Recency.entries list
    rw [empty] at member
    cases member

/-- No stretch of a caller changes the budget. -/
theorem advance_budget (factory : Factory ρ) (caller : Nat) (resource : ρ) :
    (factory.advance caller resource).budget = factory.budget := by
  unfold advance
  split
  · rfl
  split
  · unfold enter
    split
    · rfl
    · rfl
    all_goals
      split
      · rfl
      · exact join_budget ..
  · exact activate_budget factory
  · unfold resume
    split
    · rfl
    split
    · rw [conclude_eq_depart]
      exact leave_budget ..
    split
    · unfold start
      split
      · exact land_budget ..
      · rfl
    · rfl
  · unfold check
    dsimp only
    split
    · rw [land_budget, release_budget]
      rfl
    split
    · rw [land_budget, store_budget]
    · rw [land_budget, release_budget]
      rfl
  all_goals rfl

/-- The budget is the same after every step. -/
theorem step_budget (factory : Factory ρ) (event : Event ρ) :
    (factory.step event).budget = factory.budget := by
  cases event with
  | call id => rfl
  | advance caller resource => exact advance_budget factory caller resource
  | finish caller outcome =>
    dsimp only [step]
    split
    · unfold finish
      cases outcome with
      | ready => rfl
      | failed error => exact land_budget ..
      | overdue => exact land_budget ..
    · rfl
  | cancel caller =>
    show (factory.cancel caller).budget = _
    unfold cancel
    split
    · rfl
    · rfl
    · exact leave_budget ..
    · exact leave_budget ..
    · exact leave_budget ..
    all_goals rfl
  | activate => exact activate_budget factory
  | invalidate =>
    show factory.invalidate.2.budget = _
    unfold invalidate
    split
    · rfl
    · exact releaseAll_budget _
  | shutdown =>
    show factory.shutdown.2.budget = _
    unfold shutdown
    split
    · rfl
    · exact releaseAll_budget _

namespace Filed

/-- In every step what is cached stays filed under its identifier. -/
theorem transition (filed : Filed factory) (transition : Transition factory event after) :
    Filed after := by
  -- Growth keeps the builds, and the cache has nothing but what it had or was brought.
  have recached := transition.recached filed.wellFormed
  have grows := Grows.transition filed.crewed filed.worked transition
  refine ⟨filed.crewed.transition transition, filed.worked.transition filed.crewed transition,
    recached.wellFormed, fun {id build} entry => ?_⟩
  -- The build was known before the step, whoever held it, and keeps its identifier.
  have known : ∃ work, factory.builds[build]? = some work ∧ work.id = id := by
    rcases recached.brought _ entry with cached | ⟨member, caller, flight, here, checks, rfl⟩
    · exact filed.named cached
    · have ready : caller.stage.task? = some (build, .ready) := by
        rw [checks]
        rfl
      obtain ⟨work, found, same, _⟩ := filed.worked.holds here ready
      exact ⟨work, found, same⟩
  obtain ⟨work, found, same⟩ := known
  obtain ⟨later, there, continues⟩ := grows.builds build work found
  exact ⟨later, there, continues.id.trans same⟩

/-- In every step what is cached stays filed under its identifier. -/
theorem step (filed : Filed factory) (event : Event ρ) : Filed (factory.step event) :=
  filed.transition (step_transition factory event)

omit [Releasable ρ] in
/-- Counters, log and releases are no part of it. -/
theorem noted (filed : Filed factory) (metrics : Metrics) (journal : List Notice)
    (released : List Nat) : Filed { factory with metrics, journal, released } :=
  ⟨filed.crewed.congr rfl rfl rfl rfl, filed.worked.congr rfl rfl rfl, filed.wellFormed,
    filed.named⟩

omit [Releasable ρ] in
/-- No build is cached under two identifiers. -/
theorem distinct (filed : Filed factory) : (factory.cache.toList.map (·.2)).Nodup := by
  -- Builds with one identifier are one entry, and a build has one identifier.
  have keys : (factory.cache.toList.map (·.1)).Nodup := filed.wellFormed.keys_nodup
  refine List.Nodup.map_on ?_ (List.Nodup.of_map _ keys)
  rintro ⟨id, build⟩ member ⟨other, _⟩ also ⟨⟩
  obtain ⟨work, found, rfl⟩ := filed.named member
  obtain ⟨again, there, rfl⟩ := filed.named also
  rw [found] at there
  cases there
  rfl

end Filed

/-! ## Emptying the cache -/

/-- What a factory has cached, built and released so far, as its register. -/
def told (factory : Factory ρ) : Register ρ where
  capacity := factory.cache.capacity
  budget := factory.budget
  phase := factory.phase
  generation := factory.generation
  entries := factory.cache.toList
  calls := factory.builds.toList.map fun known => (known.id, known.resource)
  released := factory.released

/-- A new generation has begun, and what was cached has been released, the oldest first. -/
structure Emptied (factory after : Factory ρ) (times : Nat) : Prop where
  /-- The factory serves. -/
  phase : after.phase = .active
  /-- So many generations have begun. -/
  generation : after.generation = factory.generation + times
  /-- Nothing is cached. -/
  empty : after.cache.toList = []
  /-- The hook of everything that was cached has run once more, and no other hook. -/
  released : after.released = factory.released ++ (factory.cache.toList.map (·.2)).reverse

namespace Filed

omit [Releasable ρ] in
/-- A factory holds what its own register tells. -/
theorem holds (filed : Filed factory) : Holds factory factory.told where
  phase := rfl
  generation := rfl
  budget := rfl
  wellFormed := filed.wellFormed
  list := rfl
  calls := rfl
  released := rfl
  known := by
    rintro ⟨id, build⟩ member
    obtain ⟨work, found, _⟩ := filed.named member
    simpa [told] using (Array.getElem?_eq_some_iff.mp found).1

/-- A factory that is emptied several times is emptied once, under several new generations. -/
theorem empties (filed : Filed factory) (runs : factory.phase ≠ .shutdown) {times : Nat}
    (some : 0 < times) :
    Emptied factory (factory.run (List.replicate times .invalidate)) times := by
  -- What the factory does is read off its own register.
  obtain ⟨number, rfl⟩ : ∃ number, times = number + 1 := ⟨times - 1, by omega⟩
  have holds := filed.holds.invalidates (number + 1)
  rw [factory.told.invalidates_open runs] at holds
  refine ⟨holds.phase, holds.generation, congrArg Cache.Recency.entries holds.list, ?_⟩
  rw [holds.released, List.map_reverse]
  rfl

omit [Releasable ρ] in
/-- Everything that was cached is released once more, and nothing else. -/
theorem releases_emptied (filed : Filed factory) {times : Nat}
    (emptied : Emptied factory after times) (build : Nat) :
    after.releases build = factory.releases build +
      if build ∈ factory.cache.toList.map (·.2) then 1 else 0 := by
  rw [releases, emptied.released, List.count_append, List.count_reverse, filed.distinct.count]
  rfl

end Filed

/-- A factory that is shut down is not emptied any more. -/
theorem run_invalidates_shut (shut : factory.phase = .shutdown) (times : Nat) :
    factory.run (List.replicate times .invalidate) = factory := by
  -- Once closed, the factory is a fixed point of every further attempt to empty it.
  have same : factory.step .invalidate = factory := congrArg Prod.snd (invalidate_closed shut)
  induction times with
  | zero => rfl
  | succ times ih => rw [List.replicate_succ, run, List.foldl_cons, same, ← run, ih]

end PackGate.Factory
