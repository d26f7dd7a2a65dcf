import Mathlib.Data.List.Nodup
import PackGate.Proofs.Factory.Work

/-! Where each resource is: in a caller's hands, in the cache, or released, and only once. -/

namespace PackGate.Factory

variable {ρ : Type}

/-- A build for `id` handed out a resource, and its flight of the current generation ended so. -/
def Current (factory : Factory ρ) (id : Identifier) (build : Nat) : Prop :=
  ∃ work flown, factory.builds[build]? = some work ∧ work.id = id ∧ work.status = .ready ∧
    factory.flights[work.flight]? = some flown ∧ flown.generation = factory.generation ∧
      flown.cell = some (.ready build)

/-- A build stays current as long as the generation stays. -/
theorem Current.grows {factory after : Factory ρ} {id : Identifier} {build : Nat}
    (current : Current factory id build) (grows : Grows factory after)
    (generation : after.generation = factory.generation) : Current after id build := by
  -- Build and flight keep all that the definition asks of them, but for the generation.
  obtain ⟨work, flown, found, ids, ready, flies, era, ended⟩ := current
  obtain ⟨later, there, continues⟩ := grows.builds build work found
  obtain ⟨still, flying, kept⟩ := grows.flights _ flown flies
  refine ⟨later, still, there, continues.id.trans ids, ?_, ?_, ?_, kept.cell _ ended⟩
  · rw [continues.status (by rw [ready]; simp)]
    exact ready
  · rw [continues.flight]
    exact flying
  · rw [kept.generation, era, generation]

/-- A current build was made for one identifier. -/
theorem Current.id_unique {factory : Factory ρ} {build : Nat} {one two : Identifier}
    (first : Current factory one build) (second : Current factory two build) : one = two := by
  -- The build has one identifier, and both names are it.
  obtain ⟨work, _, found, same, _⟩ := first
  obtain ⟨again, _, there, too, _⟩ := second
  rw [found] at there
  cases there
  exact same.symm.trans too

/-- Cache and releases agree with each other and with the builds. -/
structure Kept (factory : Factory ρ) : Prop where
  /-- The cache is well formed. -/
  wellFormed : factory.cache.WellFormed
  /-- What is cached is current and has not been released. -/
  cached : ∀ {id : Identifier} {build : Nat}, (id, build) ∈ factory.cache.toList →
    build ∉ factory.released ∧ Current factory id build
  /-- No resource is released twice. -/
  once : factory.released.Nodup
  /-- What is released was handed out by a builder. -/
  settled : ∀ {build : Nat}, build ∈ factory.released →
    ∃ work, factory.builds[build]? = some work ∧ work.status = .ready
  /-- What a caller still holds has not been released. -/
  held : ∀ {member : Nat} {caller flight build}, factory.callers[member]? = some caller →
    caller.stage = .checking flight build → build ∉ factory.released
  /-- A closed factory caches nothing. -/
  closed : factory.phase = .shutdown → factory.cache.toList = []

/-- Looking the cache up leaves the same entries. -/
theorem Touched.contents {before after : Factory ρ} (touched : Touched before after)
    (wellFormed : before.cache.WellFormed) :
    after.cache.WellFormed ∧
      ∀ entry, entry ∈ after.cache.toList ↔ entry ∈ before.cache.toList := by
  -- A lookup changes the order of the entries at most.
  rcases touched.cache with same | ⟨id, looked⟩
  · rw [same]
    exact ⟨wellFormed, fun entry => Iff.rfl⟩
  · rw [looked]
    exact ⟨(Cache.Lru.get_matches wellFormed id).wellFormed,
      (Cache.Lru.get_contents wellFormed id).2⟩

/-- What is cached stays cached when the cache is looked up. -/
theorem Touched.stays {before after : Factory ρ} (touched : Touched before after)
    (wellFormed : before.cache.WellFormed) {entry : Identifier × Nat}
    (cached : entry ∈ before.cache.toList) : entry ∈ after.cache.toList :=
  ((touched.contents wellFormed).2 entry).mpr cached

namespace Kept

variable {factory : Factory ρ}

/-- Some resources leave for good; what stays in the cache is current and none of them. -/
theorem change (kept : Kept factory) {after : Factory ρ} (out : List Nat)
    (grows : Grows factory after) (wellFormed : after.cache.WellFormed)
    (released : after.released = factory.released ++ out) (distinct : out.Nodup)
    (leaves : ∀ build ∈ out, build ∉ factory.released ∧
      ∃ work, factory.builds[build]? = some work ∧ work.status = .ready)
    (stays : ∀ id build, (id, build) ∈ after.cache.toList →
      build ∉ factory.released ∧ build ∉ out ∧ Current after id build)
    (held : ∀ (member : Nat) (caller : Caller) (flight build : Nat),
      after.callers[member]? = some caller → caller.stage = .checking flight build →
        build ∉ factory.released ∧ build ∉ out)
    (closed : after.phase = .shutdown → after.cache.toList = []) : Kept after := by
  refine ⟨wellFormed, ?_, ?_, ?_, ?_, closed⟩
  · -- What is still cached is neither released before nor now.
    intro id build entry
    obtain ⟨before, now, current⟩ := stays id build entry
    rw [released, List.mem_append]
    exact ⟨fun gone => gone.elim before now, current⟩
  · -- What leaves now had not been released before.
    rw [released, List.nodup_append]
    refine ⟨kept.once, distinct, ?_⟩
    rintro build before other now rfl
    exact (leaves build now).1 before
  · -- Whatever is released has been handed out, and stays so.
    intro build gone
    rw [released, List.mem_append] at gone
    have ready : ∃ work, factory.builds[build]? = some work ∧ work.status = .ready := by
      rcases gone with before | now
      · exact kept.settled before
      · exact (leaves build now).2
    obtain ⟨work, found, ready⟩ := ready
    obtain ⟨later, there, continues⟩ := grows.builds build work found
    exact ⟨later, there, (continues.status (by rw [ready]; simp)).trans ready⟩
  · intro member caller flight build here checks
    obtain ⟨before, now⟩ := held member caller flight build here checks
    rw [released, List.mem_append]
    exact fun gone => gone.elim before now

/-- Nothing leaves, nothing comes, and the generation stays. -/
theorem carry (kept : Kept factory) {after : Factory ρ} (grows : Grows factory after)
    (contents : after.cache.WellFormed ∧
      ∀ entry, entry ∈ after.cache.toList ↔ entry ∈ factory.cache.toList)
    (released : after.released = factory.released)
    (generation : after.generation = factory.generation)
    (held : ∀ (member : Nat) (caller : Caller) (flight build : Nat),
      after.callers[member]? = some caller → caller.stage = .checking flight build →
        build ∉ factory.released)
    (closed : after.phase = .shutdown → factory.phase = .shutdown) : Kept after := by
  -- No resource leaves, so every clause is about what it was about before.
  obtain ⟨wellFormed, entries⟩ := contents
  refine kept.change [] grows wellFormed (by rw [released, List.append_nil]) (by simp)
    (by simp) ?_ ?_ ?_
  · intro id build entry
    obtain ⟨before, current⟩ := kept.cached ((entries _).mp entry)
    exact ⟨before, by simp, current.grows grows generation⟩
  · intro member caller flight build here checks
    exact ⟨held member caller flight build here checks, by simp⟩
  · -- A factory that is closed now was closed before, and cached nothing.
    intro shut
    have empty := kept.closed (closed shut)
    rw [List.eq_nil_iff_forall_not_mem]
    intro entry member
    rw [entries, empty] at member
    cases member

/-- What is cached is a known build's. -/
theorem cached_known (kept : Kept factory) (entry : Identifier × Nat)
    (member : entry ∈ factory.cache.toList) : ∃ work, factory.builds[entry.2]? = some work := by
  obtain ⟨_, work, _, found, _⟩ := kept.cached member
  exact ⟨work, found⟩

/-- After one caller has moved, what callers hold is not released if that caller holds nothing. -/
theorem held_modify (kept : Kept factory) {member : Nat} {stage : Stage} {callers : Array Caller}
    (moved : callers = factory.callers.modify member ({ · with stage }))
    (fresh : ∀ flight build, stage = .checking flight build → build ∉ factory.released) :
    ∀ (other : Nat) (caller : Caller) (flight build : Nat), callers[other]? = some caller →
      caller.stage = .checking flight build → build ∉ factory.released := by
  intro other caller flight build there checks
  -- Either the caller is the one that moved, or it holds what it held.
  rw [moved] at there
  rcases getElem?_modify_cases there with ⟨_, before, _, rfl⟩ | ⟨_, there⟩
  · exact fresh flight build checks
  · exact kept.held there checks

/-- Callers that take other seats, after a touch that may also end builds, change no ledger. -/
theorem reseat (kept : Kept factory) {builds : Array (Build ρ)} {between after : Factory ρ}
    {member : Nat} {stage : Stage} (touched : Touched { factory with builds } between)
    (seats : Reseated between after) (grows : Grows factory after)
    (moved : after.callers = factory.callers.modify member ({ · with stage }))
    (fresh : ∀ flight build, stage = .checking flight build → build ∉ factory.released) :
    Kept after := by
  -- Cache, releases and generation are those of before, up to the order of the entries.
  have contents := touched.contents kept.wellFormed
  rw [← seats.cache] at contents
  exact kept.carry grows contents (seats.released.trans touched.released)
    (seats.generation.trans touched.generation) (kept.held_modify moved fresh)
    fun shut => touched.closed.mp (seats.phase.symm.trans shut)

/-- What a caller holds is not in the cache: its flight is open, that of a cached one has ended. -/
theorem not_cached (kept : Kept factory) (crewed : Crewed factory) (worked : Worked factory)
    {member flight build : Nat} {caller : Caller} (here : factory.callers[member]? = some caller)
    (checks : caller.stage = .checking flight build) (id : Identifier) :
    (id, build) ∉ factory.cache.toList := by
  intro entry
  -- The caller drives the flight of the build, so that flight has not ended.
  obtain ⟨_, work, flown, found, _, _, flies, _, ended⟩ := kept.cached entry
  obtain ⟨again, there, _, on, _⟩ := worked.holds here (by rw [checks]; rfl)
  rw [found] at there
  cases there
  have opened := (crewed.driver here on (by rw [checks]; rfl) flies).1
  rw [ended] at opened
  cases opened

/-- A refresh or the shutdown releases all that is cached. -/
theorem reset (kept : Kept factory) (crewed : Crewed factory) (worked : Worked factory)
    {after : Factory ρ} (cache : after.cache = factory.cache.drain.2)
    (callers : after.callers = factory.callers)
    (released : after.released = factory.released ++
      (factory.cache.drain.1.map (·.2)).filter (· < factory.builds.size))
    (grows : Grows factory after) : Kept after := by
  obtain ⟨drained, wellFormed, left⟩ := Cache.Lru.drain_matches kept.wellFormed
  have drained : factory.cache.drain.1 = factory.cache.toList.reverse := drained
  have empty : after.cache.toList = [] := by
    rw [cache]
    exact congrArg Cache.Recency.entries left
  -- What is drained is what was cached.
  have leaves : ∀ build ∈ (factory.cache.drain.1.map (·.2)).filter (· < factory.builds.size),
      ∃ id, (id, build) ∈ factory.cache.toList := by
    intro build out
    obtain ⟨⟨id, _⟩, entry, rfl⟩ := List.mem_map.mp (List.mem_filter.mp out).1
    rw [drained, List.mem_reverse] at entry
    exact ⟨id, entry⟩
  refine kept.change _ grows (by rw [cache]; exact wellFormed) released ?_ ?_ ?_ ?_ fun _ => empty
  · -- Two entries with one build would have one identifier, which the cache lists once.
    refine List.Nodup.filter _ ?_
    rw [drained, List.map_reverse, List.nodup_reverse]
    refine List.Nodup.map_on ?_ kept.wellFormed.keys_nodup.of_map
    rintro ⟨one, build⟩ first ⟨two, other⟩ second same
    cases same
    rw [(kept.cached first).2.id_unique (kept.cached second).2]
  · intro build out
    obtain ⟨id, entry⟩ := leaves build out
    obtain ⟨before, work, _, found, _, ready, _⟩ := kept.cached entry
    exact ⟨before, work, found, ready⟩
  · intro id build entry
    rw [empty] at entry
    cases entry
  · -- What a caller holds is not cached, so it is not drained.
    intro member caller flight build there checks
    rw [callers] at there
    refine ⟨kept.held there checks, fun out => ?_⟩
    obtain ⟨id, entry⟩ := leaves build out
    exact kept.not_cached crewed worked there checks id entry

variable [Releasable ρ]

/-- A new resource that is not wanted is released. -/
theorem discard (kept : Kept factory) (crewed : Crewed factory) (worked : Worked factory)
    {between : Factory ρ} {member flight build : Nat} {caller : Caller} {attempt : Attempt}
    (touched : Touched factory between) (here : factory.callers[member]? = some caller)
    (checks : caller.stage = .checking flight build)
    (grows : Grows factory ((between.release build).land member flight attempt)) :
    Kept ((between.release build).land member flight attempt) := by
  -- One resource leaves, from the hands of the caller, and nothing else changes.
  obtain ⟨work, found, _, _, ready⟩ := worked.holds here (by rw [checks]; rfl)
  have seats := land_frame (between.release build) member flight attempt
  have freed := release_frame between build
  have cache := seats.cache.trans freed.cache
  obtain ⟨wellFormed, entries⟩ := touched.contents kept.wellFormed
  have inside : build < between.builds.size := by
    rw [touched.builds]
    exact (Array.getElem?_eq_some_iff.mp found).1
  refine kept.change [build] grows ?_ ?_ (by simp) ?_ ?_ ?_ ?_
  · rw [cache]
    exact wellFormed
  · rw [seats.released, release_released, touched.released]
    simp [inside]
  · intro other member
    rw [List.mem_singleton] at member
    rw [member]
    exact ⟨kept.held here checks, work, found, ready⟩
  · intro id other entry
    rw [cache, entries] at entry
    obtain ⟨before, current⟩ := kept.cached entry
    refine ⟨before, ?_, current.grows grows
      ((seats.generation.trans freed.generation).trans touched.generation)⟩
    rw [List.mem_singleton]
    intro same
    subst same
    exact kept.not_cached crewed worked here checks id entry
  · -- The caller holds nothing any more, and nobody else held this resource.
    intro other asker held resource there holds
    have moved : ((between.release build).land member flight attempt).callers =
        factory.callers.modify member ({ · with stage := attempt.stage }) := by
      rw [land_callers, freed.callers, touched.callers]
    refine ⟨kept.held_modify moved (fun _ _ never => ?_) other asker held resource there holds, ?_⟩
    · cases attempt <;> cases never
    · rw [List.mem_singleton]
      intro same
      subst same
      exact worked.unheld crewed here checks moved (Attempt.task?_stage _) other asker held
        there holds
  · intro shut
    rw [seats.phase, freed.phase, touched.closed] at shut
    rw [cache, List.eq_nil_iff_forall_not_mem]
    intro entry member
    rw [entries, kept.closed shut] at member
    cases member

omit [Releasable ρ] in
/-- What an insertion displaces was cached. -/
theorem displaced_cached (kept : Kept factory) {id : Identifier} {build other : Nat}
    (out : other ∈ ((factory.cache.insert id build).1.displaced id).toList.map (·.2)) :
    ∃ name, (factory.cache.insert id build).1.displaced id = some (name, other) ∧
      (name, other) ∈ factory.cache.toList := by
  obtain ⟨⟨name, _⟩, lost, rfl⟩ := List.mem_map.mp out
  rw [Option.mem_toList] at lost
  exact ⟨name, lost, (Cache.Lru.insert_contents kept.wellFormed id build).1 _ lost⟩

omit [Releasable ρ] in
/-- The hook of every resource that an insertion displaces runs. -/
theorem displaced_known (kept : Kept factory) (id : Identifier) (build : Nat) :
    (((factory.cache.insert id build).1.displaced id).toList.map (·.2)).filter
        (· < factory.builds.size) =
      ((factory.cache.insert id build).1.displaced id).toList.map (·.2) := by
  rw [List.filter_eq_self]
  intro other out
  obtain ⟨name, _, entry⟩ := kept.displaced_cached out
  obtain ⟨_, old, _, there, _⟩ := kept.cached entry
  simpa using (Array.getElem?_eq_some_iff.mp there).1

/-- A resource that goes into the cache is current: its flight is, and it ends with the resource. -/
theorem current_stored (worked : Worked factory) {member flight build : Nat} {caller : Caller}
    {flown : Flight} (here : factory.callers[member]? = some caller)
    (checks : caller.stage = .checking flight build)
    (flies : factory.flights[flight]? = some flown)
    (era : flown.generation = factory.generation) :
    Current ((factory.store build caller.id).land member flight (.ready build)) caller.id
      build := by
  obtain ⟨work, found, ids, on, ready⟩ := worked.holds here (by rw [checks]; rfl)
  have seats := land_frame (factory.store build caller.id) member flight (.ready build)
  obtain ⟨freed, _⟩ := store_frame factory build caller.id
  rw [checks] at on
  cases on
  refine ⟨work, { flown with cell := some (.ready build), members := flown.members.erase member },
    ?_, ids, ready, ?_, ?_, rfl⟩
  · rw [seats.builds, freed.builds]
    exact found
  · rw [land_flights]
    exact getElem?_modify_self (by rw [freed.flights]; exact flies) _
  · rw [seats.generation, freed.generation]
    exact era

/-- A new resource goes into the cache, and what it displaces is released. -/
theorem store (kept : Kept factory) (crewed : Crewed factory) (worked : Worked factory)
    {member flight build : Nat} {caller : Caller} {flown : Flight}
    (here : factory.callers[member]? = some caller)
    (checks : caller.stage = .checking flight build) (runs : factory.phase ≠ .shutdown)
    (flies : factory.flights[flight]? = some flown)
    (era : flown.generation = factory.generation)
    (grows : Grows factory ((factory.store build caller.id).land member flight (.ready build))) :
    Kept ((factory.store build caller.id).land member flight (.ready build)) := by
  have seats := land_frame (factory.store build caller.id) member flight (.ready build)
  obtain ⟨freed, released⟩ := store_frame factory build caller.id
  have cache := seats.cache.trans freed.cache
  obtain ⟨_, contents⟩ := Cache.Lru.insert_contents kept.wellFormed caller.id build
  refine kept.change _ grows ?_ (seats.released.trans released) ?_ ?_ ?_ ?_ ?_
  · rw [cache]
    exact (Cache.Lru.insert_matches kept.wellFormed caller.id build).wellFormed
  · -- At most one entry is displaced.
    rw [kept.displaced_known]
    cases (factory.cache.insert caller.id build).1.displaced caller.id <;> simp
  · intro other out
    rw [kept.displaced_known] at out
    obtain ⟨name, _, entry⟩ := kept.displaced_cached out
    obtain ⟨before, old, _, there, _, ready, _⟩ := kept.cached entry
    exact ⟨before, old, there, ready⟩
  · intro id other entry
    rw [cache, contents] at entry
    rw [kept.displaced_known]
    rcases entry with same | ⟨entry, stays⟩
    · -- The new entry was in the caller's hand, and its flight ends with it now.
      cases same
      refine ⟨kept.held here checks, fun out => ?_, current_stored worked here checks flies era⟩
      obtain ⟨name, _, entry⟩ := kept.displaced_cached out
      exact kept.not_cached crewed worked here checks name entry
    · -- An entry that stays is not the displaced one, which had another identifier.
      obtain ⟨before, current⟩ := kept.cached entry
      refine ⟨before, fun out => ?_,
        current.grows grows (seats.generation.trans freed.generation)⟩
      obtain ⟨name, lost, there⟩ := kept.displaced_cached out
      have equal := (kept.cached there).2.id_unique current
      subst equal
      exact stays lost
  · -- The caller lets go of the resource, and what the others hold is not cached.
    intro other asker held resource there holds
    rw [land_callers, freed.callers] at there
    rcases getElem?_modify_cases there with ⟨_, before, _, rfl⟩ | ⟨_, there⟩
    · cases holds
    · refine ⟨kept.held there holds, fun out => ?_⟩
      rw [kept.displaced_known] at out
      obtain ⟨name, _, entry⟩ := kept.displaced_cached out
      exact kept.not_cached crewed worked there holds name entry
  · intro shut
    rw [seats.phase, freed.phase] at shut
    exact absurd shut runs

/-- Every transition keeps cache and releases in agreement. -/
theorem transition (kept : Kept factory) (crewed : Crewed factory) (worked : Worked factory)
    {event : Event ρ} {after : Factory ρ} (transition : Transition factory event after) :
    Kept after := by
  -- Only storing, discarding and a reset release anything; the rest moves callers about.
  have grows := Grows.transition crewed worked transition
  cases transition with
  | idle touched =>
    refine kept.carry grows (touched.contents kept.wellFormed) touched.released
      touched.generation ?_ touched.closed.mp
    rw [touched.callers]
    exact fun member caller flight build => kept.held
  | call =>
    refine kept.carry grows ⟨kept.wellFormed, fun entry => Iff.rfl⟩ rfl rfl ?_ id
    intro member caller flight build there checks
    rcases getElem?_push_cases there with ⟨_, rfl⟩ | there
    · cases checks
    · exact kept.held there checks
  | walk touched here wanders without =>
    refine kept.reseat touched (move_frame ..) grows (by rw [move_callers, touched.callers]) ?_
    rintro flight build rfl
    cases without
  | quit =>
    exact kept.reseat (.refl factory) (move_frame ..) grows rfl fun _ _ never => by cases never
  | @join between caller _ known touched =>
    obtain ⟨flight, _, callers, _⟩ := join_flight between caller known.id
    exact kept.reseat touched (join_frame ..) grows (by rw [callers, touched.callers])
      fun _ _ never => by cases never
  | @conclude _ _ _ _ _ attempt =>
    refine kept.reseat (.refl factory) (depart_frame ..) grows (depart_callers ..)
      fun _ _ never => ?_
    cases attempt <;> cases never
  | leave =>
    exact kept.reseat (.refl factory) (depart_frame ..) grows (depart_callers ..)
      fun _ _ never => by cases never
  | abandon =>
    exact kept.reseat (.refl _) (depart_frame ..) grows (depart_callers ..)
      fun _ _ never => by cases never
  | reuse touched =>
    exact kept.reseat touched (land_frame ..) grows (by rw [land_callers, touched.callers])
      fun _ _ never => by cases never
  | start touched =>
    exact kept.carry grows (touched.contents kept.wellFormed) touched.released touched.generation
      (kept.held_modify (by rw [move_callers, touched.callers]) fun _ _ never => by cases never)
      touched.closed.mp
  | deliver here builds touched =>
    refine kept.reseat touched (move_frame ..) grows
      (by rw [move_callers, touched.callers]; rfl) ?_
    -- What is released had been handed out, and this build was still running.
    rintro _ _ ⟨⟩ gone
    obtain ⟨work, found, ready⟩ := kept.settled gone
    obtain ⟨again, there, _, _, running⟩ := worked.holds here (by rw [builds]; rfl)
    rw [found] at there
    cases there
    rw [ready] at running
    cases running
  | fail here builds touched =>
    exact kept.reseat touched (land_frame ..) grows
      (by rw [land_callers, touched.callers]; rfl) fun _ _ never => by cases never
  | discard touched here checks =>
    exact kept.discard crewed worked touched here checks grows
  | store here checks runs flies era =>
    exact kept.store crewed worked here checks runs flies era grows
  | reset _ _ cache _ _ _ callers released =>
    exact kept.reset crewed worked cache callers released grows

end Kept

end PackGate.Factory
