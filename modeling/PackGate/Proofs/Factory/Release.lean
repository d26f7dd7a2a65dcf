import PackGate.Proofs.Factory.Evaluation
import PackGate.Proofs.Factory.Passage
import PackGate.Repository

/-! Every resource is released once: when it leaves the cache, or when it comes too late for it. -/

namespace PackGate.Factory

variable {ρ : Type}

variable [Releasable ρ] {factory after : Factory ρ} {event : Event ρ}

/-- What is cached stays cached, or is released. -/
theorem Transition.retains (transition : Transition factory event after) (kept : Kept factory)
    {id : Identifier} {build : Nat} (entry : (id, build) ∈ factory.cache.toList) :
    (id, build) ∈ after.cache.toList ∨ build ∈ after.released := by
  have known : build < factory.builds.size := by
    obtain ⟨_, work, _, found, _⟩ := kept.cached entry
    exact (Array.getElem?_eq_some_iff.mp found).1
  -- Only two transitions take entries out, and both release what they take out.
  cases transition with
  | idle touched => exact .inl (touched.stays kept.wellFormed entry)
  | call => exact .inl entry
  | walk touched => exact .inl (touched.stays kept.wellFormed entry)
  | quit => exact .inl entry
  | join touched =>
    rw [(join_frame ..).cache]
    exact .inl (touched.stays kept.wellFormed entry)
  | conclude =>
    rw [(depart_frame ..).cache]
    exact .inl entry
  | leave =>
    rw [(depart_frame ..).cache]
    exact .inl entry
  | abandon =>
    rw [(depart_frame ..).cache]
    exact .inl entry
  | reuse touched =>
    rw [(land_frame ..).cache]
    exact .inl (touched.stays kept.wellFormed entry)
  | start touched => exact .inl (touched.stays kept.wellFormed entry)
  | deliver _ _ touched => exact .inl (touched.stays kept.wellFormed entry)
  | fail _ _ touched =>
    rw [(land_frame ..).cache]
    exact .inl (touched.stays kept.wellFormed entry)
  | discard touched =>
    rw [(land_frame ..).cache, (release_frame ..).cache]
    exact .inl (touched.stays kept.wellFormed entry)
  | @store _ _ fresh _ caller =>
    obtain ⟨freed, released⟩ := store_frame factory fresh caller.id
    obtain ⟨_, contents⟩ := Cache.Lru.insert_contents kept.wellFormed caller.id fresh
    rw [(land_frame ..).cache, (land_frame ..).released, freed.cache, released, contents]
    by_cases lost : (factory.cache.insert caller.id fresh).1.displaced caller.id = some (id, build)
    · refine .inr (List.mem_append_right _ ?_)
      rw [lost]
      simp [known]
    · exact .inl (.inr ⟨entry, lost⟩)
  | reset _ _ _ _ _ _ _ released =>
    have drained := (Cache.Lru.drain_matches kept.wellFormed).answer
    have drained : factory.cache.drain.1 = factory.cache.toList.reverse := drained
    rw [released, drained]
    refine .inr (List.mem_append_right _ (List.mem_filter.mpr ⟨?_, by simpa using known⟩))
    exact List.mem_map.mpr ⟨_, List.mem_reverse.mpr entry, rfl⟩

/-- What is released was released before, was in a caller's hand, or was cached. -/
theorem Transition.released_cases (transition : Transition factory event after)
    (kept : Kept factory) {build : Nat} (gone : build ∈ after.released) :
    build ∈ factory.released ∨
      (∃ actor known flight, event.actor? = some actor ∧ factory.callers[actor]? = some known ∧
        known.stage = .checking flight build) ∨
      ∃ id, (id, build) ∈ factory.cache.toList ∧
        (event.actor? = none ∨ ∃ actor known flight fresh flown, event.actor? = some actor ∧
          factory.callers[actor]? = some known ∧ known.stage = .checking flight fresh ∧
            factory.flights[flight]? = some flown ∧ flown.generation = factory.generation) := by
  -- Callers release what they have in hand, and what is cached when they displace it.
  have old (same : after.released = factory.released) : build ∈ factory.released := same ▸ gone
  cases transition with
  | idle touched => exact .inl (old touched.released)
  | call => exact .inl (old rfl)
  | walk touched => exact .inl (old touched.released)
  | quit => exact .inl (old rfl)
  | join touched => exact .inl (old ((join_frame ..).released.trans touched.released))
  | conclude => exact .inl (old (depart_frame ..).released)
  | leave => exact .inl (old (depart_frame ..).released)
  | abandon => exact .inl (old (depart_frame ..).released)
  | reuse touched => exact .inl (old ((land_frame ..).released.trans touched.released))
  | start touched => exact .inl (old touched.released)
  | deliver _ _ touched => exact .inl (old touched.released)
  | fail _ _ touched => exact .inl (old ((land_frame ..).released.trans touched.released))
  | @discard between actor flight fresh _ known _ touched here checks =>
    rw [(land_frame ..).released, release_released, touched.released, List.mem_append] at gone
    refine gone.imp_right fun now => .inl ⟨actor, known, flight, rfl, here, ?_⟩
    obtain rfl : build = fresh := by simpa using (List.mem_filter.mp now).1
    exact checks
  | @store actor flight fresh _ known flown here checks _ flies current =>
    rw [(land_frame ..).released, (store_frame ..).2, kept.displaced_known, List.mem_append] at gone
    refine gone.imp_right fun now => .inr ?_
    obtain ⟨name, _, entry⟩ := kept.displaced_cached now
    exact ⟨name, entry,
      .inr ⟨actor, known, flight, fresh, flown, rfl, here, checks, flies, current⟩⟩
  | reset _ _ _ _ _ _ _ released resets =>
    rw [released, List.mem_append] at gone
    refine gone.imp_right fun now => .inr ?_
    obtain ⟨⟨id, _⟩, entry, rfl⟩ := List.mem_map.mp (List.mem_filter.mp now).1
    have drained : factory.cache.drain.1 = factory.cache.toList.reverse :=
      (Cache.Lru.drain_matches kept.wellFormed).answer
    rw [drained, List.mem_reverse] at entry
    refine ⟨id, entry, .inl ?_⟩
    rcases resets with ⟨rfl, _⟩ | ⟨rfl, _⟩ <;> rfl

/-! ## Counting releases -/

omit [Releasable ρ] in
/-- A resource's hook has run at most once, and the list of releases tells whether it has. -/
theorem Kept.releases_eq (kept : Kept factory) (build : Nat) :
    factory.releases build = if build ∈ factory.released then 1 else 0 := by
  -- A list without repetition counts a member once.
  rw [releases, kept.once.count]

omit [Releasable ρ] in
/-- What is cached has not been released. -/
theorem Kept.releases_cached (kept : Kept factory) {id : Identifier} {build : Nat}
    (entry : (id, build) ∈ factory.cache.toList) : factory.releases build = 0 := by
  rw [kept.releases_eq, if_neg (kept.cached entry).1]

/-- A resource that was cached once is released exactly if it is cached no more. -/
theorem Sound.run_retains (sound : Sound factory) {id : Identifier} {build : Nat}
    (entry : (id, build) ∈ factory.cache.toList) (events : List (Event ρ)) :
    (id, build) ∈ (factory.run events).cache.toList ∨ build ∈ (factory.run events).released := by
  -- Once released it stays so, since releases are never undone.
  induction events generalizing factory with
  | nil => exact .inl entry
  | cons event rest ih =>
    rcases (step_transition factory event).retains sound.kept entry with stays | gone
    · exact ih (sound.step event) stays
    · exact .inr (((sound.step event).run_grows rest).released.subset gone)

/-! ## Late resources -/

/-- A flight whose resource comes too late: after the shutdown, or under a later generation. -/
def Outdated (factory : Factory ρ) (flight : Nat) : Prop :=
  factory.phase = .shutdown ∨
    ∃ flown, factory.flights[flight]? = some flown ∧ flown.generation < factory.generation

/-- Nobody goes away between the end of its builder's work and the look at what became of it. -/
def Careful (factory : Factory ρ) : List (Event ρ) → Prop
  | [] => True
  | event :: rest =>
    (∀ caller flight build, event = .cancel caller →
      factory.stage? caller ≠ some (.checking flight build)) ∧ (factory.step event).Careful rest

omit [Releasable ρ] in
/-- What comes too late once comes too late ever after. -/
theorem Outdated.grows {flight : Nat} (outdated : Outdated factory flight)
    (grows : Grows factory after) : Outdated after flight := by
  -- The shutdown is for good, and generations only move away from the flight's.
  rcases outdated with shut | ⟨flown, found, older⟩
  · exact .inl (grows.closed shut)
  · obtain ⟨later, there, continues⟩ := grows.flights _ flown found
    refine .inr ⟨later, there, ?_⟩
    rw [continues.generation]
    exact Nat.lt_of_lt_of_le older grows.generation

omit [Releasable ρ] in
/-- The build of an outdated flight is not cached. -/
theorem Outdated.not_cached {flight build : Nat} {work : Build ρ}
    (outdated : Outdated factory flight) (kept : Kept factory)
    (found : factory.builds[build]? = some work) (on : work.flight = flight)
    (id : Identifier) : (id, build) ∉ factory.cache.toList := by
  intro entry
  rcases outdated with shut | ⟨flown, flies, older⟩
  · rw [kept.closed shut] at entry
    cases entry
  · -- What is cached is of the current generation, and this flight is of an older one.
    obtain ⟨_, again, _, there, _, _, flying, era, _⟩ := kept.cached entry
    rw [found] at there
    cases there
    rw [on, flies] at flying
    cases flying
    omega

/-- A build that comes too late: its flight does. -/
def Expired (factory : Factory ρ) (build : Nat) : Prop :=
  ∃ work, factory.builds[build]? = some work ∧ Outdated factory work.flight

omit [Releasable ρ] in
/-- A build that comes too late once does so ever after. -/
theorem Expired.grows {build : Nat} (expired : Expired factory build)
    (grows : Grows factory after) : Expired after build := by
  obtain ⟨work, found, outdated⟩ := expired
  obtain ⟨later, there, continues⟩ := grows.builds build work found
  exact ⟨later, there, by rw [continues.flight]; exact outdated.grows grows⟩

omit [Releasable ρ] in
/-- A build that comes too late is not cached. -/
theorem Expired.not_cached {build : Nat} (expired : Expired factory build) (kept : Kept factory)
    (id : Identifier) : (id, build) ∉ factory.cache.toList := by
  obtain ⟨work, found, outdated⟩ := expired
  exact outdated.not_cached kept found rfl id

/-- A resource that its caller discards is released. -/
theorem Sound.discard_releases (sound : Sound factory) {member flight build : Nat}
    {caller : Caller} (here : factory.callers[member]? = some caller)
    (checks : caller.stage = .checking flight build) (metrics : Metrics) (attempt : Attempt) :
    build ∈ (({ factory with metrics }.release build).land member flight attempt).released := by
  -- The build in the caller's hand exists, so its hook runs.
  obtain ⟨work, found, _⟩ := sound.worked.holds here (by rw [checks]; rfl)
  have inside := (Array.getElem?_eq_some_iff.mp found).1
  rw [(land_frame ..).released, release_released]
  simp [inside]

/-- A caller that looks at what became of a late resource releases it. -/
theorem Sound.check_late (sound : Sound factory) {member flight build : Nat} {caller : Caller}
    (here : factory.callers[member]? = some caller) (checks : caller.stage = .checking flight build)
    (outdated : Outdated factory flight) :
    build ∈ (factory.check member flight build caller.id).released := by
  -- Both ways out of an outdated flight release the resource first.
  unfold check
  dsimp only
  split
  · exact sound.discard_releases here checks _ _
  · rename_i runs
    split
    · rename_i current
      rw [Option.any_eq_true] at current
      obtain ⟨flown, flies, era⟩ := current
      rcases outdated with shut | ⟨other, flying, older⟩
      · exact absurd shut runs
      · rw [flies] at flying
        cases flying
        have same : flown.generation = factory.generation := by simpa using era
        omega
    · exact sound.discard_releases here checks _ _

/-- A caller that holds a resource stays as it is until it looks, unless it goes away. -/
theorem Sound.step_held (sound : Sound factory) {member flight build : Nat} {caller : Caller}
    (here : factory.callers[member]? = some caller) (checks : caller.stage = .checking flight build)
    (event : Event ρ) (careful : event ≠ .cancel member) :
    (factory.step event).callers[member]? = some caller ∨
      ∃ resource, event = .advance member resource := by
  by_cases acts : event.actor? = some member
  · cases event with
    | advance actor resource =>
      cases acts
      exact .inr ⟨resource, rfl⟩
    | finish actor outcome =>
      cases acts
      obtain ⟨id, stage⟩ := caller
      cases checks
      have idle : factory.step (.finish member outcome) = factory := by
        simp only [Factory.step, here]
      rw [idle]
      exact .inl here
    | cancel actor =>
      cases acts
      exact absurd rfl careful
    | _ => cases acts
  · exact .inl ((step_transition factory event).bystander sound here acts)

/-- One step leaves a late resource with its caller, or releases it. -/
theorem Sound.step_late (sound : Sound factory) {member flight build : Nat} {caller : Caller}
    (here : factory.callers[member]? = some caller) (checks : caller.stage = .checking flight build)
    (outdated : Outdated factory flight) (event : Event ρ) (careful : event ≠ .cancel member) :
    (factory.step event).callers[member]? = some caller ∨
      build ∈ (factory.step event).released := by
  -- All that the caller can do is look, since it does not go away.
  rcases sound.step_held here checks event careful with stays | ⟨resource, rfl⟩
  · exact .inl stays
  · have looks : factory.step (.advance member resource) =
        factory.check member flight build caller.id := by
      simp only [Factory.step, advance, here, checks]
    rw [looks]
    exact .inr (sound.check_late here checks outdated)

/-- Over a careful run a late resource stays with its caller until it is released. -/
theorem Sound.run_late (sound : Sound factory) {member flight build : Nat} {caller : Caller}
    (here : factory.callers[member]? = some caller) (checks : caller.stage = .checking flight build)
    (outdated : Outdated factory flight) (events : List (Event ρ))
    (careful : factory.Careful events) :
    (factory.run events).callers[member]? = some caller ∨
      build ∈ (factory.run events).released := by
  induction events generalizing factory with
  | nil => exact .inl here
  | cons event rest ih =>
    obtain ⟨first, careful⟩ := careful
    -- A careful run does not take the caller away while it holds the resource.
    have stays : event ≠ .cancel member := by
      intro same
      refine first member flight build same ?_
      exact stage?_of_caller here checks
    rcases sound.step_late here checks outdated event stays with kept | gone
    · exact ih (sound.step event) kept (outdated.grows (sound.step_grows event)) careful
    · exact .inr (((sound.step event).run_grows rest).released.subset gone)

/-- A late resource is never cached, and over a careful run it is released once it is looked at. -/
theorem Sound.late (sound : Sound factory) {member flight build : Nat}
    (checks : factory.stage? member = some (.checking flight build))
    (outdated : Outdated factory flight) (events : List (Event ρ)) :
    (∀ id, (id, build) ∉ (factory.run events).cache.toList) ∧
      (factory.Careful events → (factory.run events).releases build =
        if (factory.run events).stage? member = some (.checking flight build) then 0 else 1) := by
  obtain ⟨caller, here, checks⟩ := Option.map_eq_some_iff.mp checks
  obtain ⟨work, found, _, on, _⟩ := sound.worked.holds here (by rw [checks]; rfl)
  have grows := sound.run_grows events
  have later := sound.run events
  -- The flight stays outdated, so the build is not cached at the end either.
  refine ⟨?_, fun careful => ?_⟩
  · obtain ⟨still, there, continues⟩ := grows.builds build work found
    refine (outdated.grows grows).not_cached later.kept there ?_
    rw [continues.flight]
    rw [checks] at on
    exact (Option.some.inj on).symm
  · rw [later.kept.releases_eq]
    rcases sound.run_late here checks outdated events careful with stays | gone
    · have stage : (factory.run events).stage? member = some (.checking flight build) :=
        stage?_of_caller stays checks
      rw [if_pos stage, if_neg (later.kept.held stays checks)]
    · -- Nobody holds a resource that has been released.
      rw [if_pos gone, if_neg]
      intro stage
      obtain ⟨asker, there, holds⟩ := Option.map_eq_some_iff.mp stage
      exact later.kept.held there holds gone

/-! ## Every run -/

/--
Every resource is released exactly once, over every run of a factory.

No hook runs twice.
A cached resource is current, is not released while it stays, and is once it has left.
A resource that comes too late is never cached, and is released when its caller looks at it.
-/
theorem run_releases_once {capacity : Nat} {budget : Duration} {start : Factory ρ}
    (created : create capacity budget = .ok start) (past : List (Event ρ)) :
    (∀ build, (start.run past).releases build ≤ 1) ∧
      (∀ id build, (id, build) ∈ (start.run past).cache.toList →
        Current (start.run past) id build ∧
          ∀ future, ((start.run past).run future).releases build =
            if (id, build) ∈ ((start.run past).run future).cache.toList then 0 else 1) ∧
      ∀ caller flight build,
        (start.run past).stage? caller = some (.checking flight build) →
          Outdated (start.run past) flight → ∀ future,
            (∀ id, (id, build) ∉ ((start.run past).run future).cache.toList) ∧
              ((start.run past).Careful future →
                ((start.run past).run future).releases build =
                  if ((start.run past).run future).stage? caller = some (.checking flight build)
                  then 0 else 1) := by
  -- Each of the three parts follows from what holds after any run.
  have sound := (create_sound created).run past
  refine ⟨?_, ?_, ?_⟩
  · intro build
    rw [sound.kept.releases_eq]
    split <;> omega
  · intro id build entry
    refine ⟨(sound.kept.cached entry).2, fun future => ?_⟩
    have later := sound.run future
    split
    · rename_i stays
      exact later.kept.releases_cached stays
    · rename_i left
      rw [later.kept.releases_eq, if_pos]
      exact (sound.run_retains entry future).resolve_left left
  · intro caller flight build checks outdated future
    exact sound.late checks outdated future

open Evaluation in
/-- A shutdown releases what is cached, and what was on its way into the cache is released too. -/
theorem run_releases_once_shutdown :
    ∃ start : Factory Repository, create 1 { seconds := 30, nanos := 0 } = .ok start ∧
      ∃ resource : Repository,
        ((start.run (opening resource.id resource ++ [.advance 0 resource])).run
            [.shutdown]).releases 0 = 1 ∧
          ((start.run (opening resource.id resource ++ [.shutdown])).run
            [.advance 0 resource]).releases 0 = 1 := by
  obtain ⟨start, created⟩ :
      ∃ start : Factory Repository, create 1 { seconds := 30, nanos := 0 } = .ok start := ⟨_, rfl⟩
  refine ⟨start, created, ⟨⟨"a.git"⟩, "/srv/a.git"⟩, ?_⟩
  generalize (⟨⟨"a.git"⟩, "/srv/a.git"⟩ : Repository) = resource
  obtain ⟨_, _, began⟩ := run_opening created resource.id resource
  have stored :=
    (run_releases_once created (opening resource.id resource ++ [.advance 0 resource])).2.1
  have closed := (run_releases_once created (opening resource.id resource ++ [.shutdown])).2.2
  rw [run_append, began] at stored closed ⊢
  rw [run_append, began]
  cases created
  refine ⟨((stored resource.id 0 ?_).2 [.shutdown]).trans (if_neg ?_), ?_⟩
  · simp
  · simp
  · -- The resource comes to a factory that has been closed meanwhile.
    refine ((closed 0 0 0 ?_ (.inl ?_) [.advance 0 resource]).2 ?_).trans (if_neg ?_)
    · simp
    · simp
    · simp [Careful]
    · simp

end PackGate.Factory
