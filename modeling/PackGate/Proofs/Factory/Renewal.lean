import Mathlib.Data.List.Induction
import PackGate.Proofs.Factory.Refresh
import PackGate.Proofs.Factory.SingleFlight

/-! Whoever comes after a refresh is answered by builds that have begun since, and by no others. -/

namespace PackGate.Factory

variable {ρ : Type}

/-- A build for an identifier that is not among the first ones has handed out a resource. -/
def Provides (factory : Factory ρ) (first : Nat) (id : Identifier) (build : Nat) : Prop :=
  first ≤ build ∧ ∃ work, factory.builds[build]? = some work ∧ work.id = id ∧ work.status = .ready

/-- What a build has handed out stays so. -/
theorem Provides.grows {factory after : Factory ρ} {first build : Nat} {id : Identifier}
    (provides : Provides factory first id build) (grows : Grows factory after) :
    Provides after first id build := by
  obtain ⟨recent, work, found, ids, ready⟩ := provides
  obtain ⟨later, there, continues⟩ := grows.builds build work found
  -- A build that is over keeps its status.
  have still := continues.status (by rw [ready]; simp)
  exact ⟨recent, later, there, continues.id.trans ids, still.trans ready⟩

section Run

variable [Releasable ρ]

/-- The builder's end of a build was told to a caller of a flight as an error. -/
def Told (factory : Factory ρ) (events : List (Event ρ)) (member : Nat) (id : Identifier)
    (build : Nat) (error : FactoryError) : Prop :=
  ∃ flight, factory.During events (fun now event => now.Reports event id flight build error) ∧
    factory.During events fun now event => now.Answers event flight member (.refused error)

/-- Where the end of a flight for an identifier comes from, since the first builds of a factory. -/
def Origin (factory : Factory ρ) (first : Nat) (events : List (Event ρ)) (id : Identifier)
    (flight : Nat) : Attempt → Prop
  | .ready build => Provides (factory.run events) first id build
  | .failed error => error = .closed ∧ (factory.run events).phase = .shutdown ∨
      ∃ build, first ≤ build ∧
        factory.During events fun now event => now.Reports event id flight build error
  | .stale => True

/-- Where a caller's answer comes from, since the first builds of a factory. -/
def Sourced (factory : Factory ρ) (first : Nat) (events : List (Event ρ)) (member : Nat)
    (id : Identifier) : Stage → Prop
  | .served build => Provides (factory.run events) first id build
  | .refused error => error = .closed ∧ (factory.run events).phase = .shutdown ∨
      ∃ build, first ≤ build ∧ factory.Told events member id build error
  | .entering | .activating | .joined _ | .building _ _ | .checking _ _ | .cancelled => True

variable {factory : Factory ρ} {first : Nat} {events : List (Event ρ)}

/-- The end of a flight keeps its origin over one more step. -/
theorem Origin.concat {id : Identifier} {flight : Nat} {attempt : Attempt}
    (origin : Origin factory first events id flight attempt) {event : Event ρ}
    (grows : Grows (factory.run events) (factory.run (events ++ [event]))) :
    Origin factory first (events ++ [event]) id flight attempt := by
  cases attempt with
  | ready build => exact Provides.grows origin grows
  | failed error =>
    rcases origin with ⟨closed, shut⟩ | ⟨build, recent, reported⟩
    · exact .inl ⟨closed, grows.closed shut⟩
    · exact .inr ⟨build, recent, reported.append [event]⟩
  | stale => trivial

/-- An answer keeps its source over one more step. -/
theorem Sourced.concat {member : Nat} {id : Identifier} {stage : Stage}
    (sourced : Sourced factory first events member id stage) {event : Event ρ}
    (grows : Grows (factory.run events) (factory.run (events ++ [event]))) :
    Sourced factory first (events ++ [event]) member id stage := by
  cases stage with
  | served build => exact Provides.grows sourced grows
  | refused error =>
    rcases sourced with ⟨closed, shut⟩ | ⟨build, recent, flight, reported, answered⟩
    · exact .inl ⟨closed, grows.closed shut⟩
    · exact .inr ⟨build, recent, flight, reported.append [event], answered.append [event]⟩
  | _ => trivial

/-! ## One more step -/

/-- What callers that have come since a moment are on, and what their answers come from. -/
structure Renewed (fresh : Factory ρ) (events : List (Event ρ)) : Prop where
  /-- The new callers are on new flights. -/
  flies : ∀ {member flight : Nat} {caller : Caller},
    (fresh.run events).callers[member]? = some caller → fresh.callers.size ≤ member →
      caller.stage.flight? = some flight → fresh.flights.size ≤ flight
  /-- The new flights end with what new builds have come to. -/
  ended : ∀ {flight : Nat} {flown : Flight} {attempt : Attempt},
    (fresh.run events).flights[flight]? = some flown → fresh.flights.size ≤ flight →
      flown.cell = some attempt →
        Origin fresh fresh.builds.size events flown.id flight attempt
  /-- The new callers are answered with what new builds have come to. -/
  answered : ∀ {member : Nat} {caller : Caller},
    (fresh.run events).callers[member]? = some caller → fresh.callers.size ≤ member →
      Sourced fresh fresh.builds.size events member caller.id caller.stage

section Step

variable {fresh : Factory ρ}

/-- A cached resource is of a new build, if everything from before comes too late. -/
theorem Sound.provides_cached (sound : Sound fresh)
    (outdated : ∀ flight < fresh.flights.size, Outdated fresh flight) {id : Identifier}
    {build : Nat} (entry : (id, build) ∈ (fresh.run events).cache.toList) :
    Provides (fresh.run events) fresh.builds.size id build := by
  have kept := (sound.run events).kept
  obtain ⟨_, work, _, found, ids, ready, _⟩ := kept.cached entry
  refine ⟨?_, work, found, ids, ready⟩
  -- A build from before would have expired, and expired builds are not cached.
  by_contra old
  have expired := sound.expired outdated (Nat.lt_of_not_le old)
  exact (expired.grows (sound.run_grows events)).not_cached kept id entry

/-- A build on a new flight is new. -/
theorem Sound.recent (sound : Sound fresh) {build : Nat} {work : Build ρ}
    (found : (fresh.run events).builds[build]? = some work)
    (new : fresh.flights.size ≤ work.flight) : fresh.builds.size ≤ build := by
  -- A build from before is still on its flight, and that flight is from before, too.
  by_contra old
  have before := Array.getElem?_eq_getElem (Nat.lt_of_not_le old)
  obtain ⟨flown, flies, _⟩ := sound.worked.aboard before
  have inside := (Array.getElem?_eq_some_iff.mp flies).1
  obtain ⟨again, there, continues⟩ := (sound.run_grows events).builds build _ before
  rw [found] at there
  cases there
  rw [continues.flight] at new
  omega

/-- A flight that a caller joins is new, if everything from before comes too late. -/
theorem Sound.joined_new (sound : Sound fresh)
    (outdated : ∀ flight < fresh.flights.size, Outdated fresh flight) {flight : Nat}
    {flown : Flight} (found : (fresh.run events).flights[flight]? = some flown)
    (current : (fresh.run events).generation ≤ flown.generation)
    (runs : (fresh.run events).phase ≠ .shutdown) : fresh.flights.size ≤ flight := by
  -- A flight from before is outdated ever after, so it is of an older generation.
  by_contra old
  rcases (outdated flight (by omega)).grows (sound.run_grows events) with shut | ⟨again, there, era⟩
  · exact runs shut
  · rw [found] at there
    cases there
    omega

/-- What a flight ends with in a step comes from a new build, if the flight is new. -/
theorem Renewed.ended_concat (renewed : Renewed fresh events) (sound : Sound fresh)
    (outdated : ∀ flight < fresh.flights.size, Outdated fresh flight) (event : Event ρ)
    {flight : Nat} {flown : Flight} {attempt : Attempt}
    (found : (fresh.run (events ++ [event])).flights[flight]? = some flown)
    (new : fresh.flights.size ≤ flight) (ended : flown.cell = some attempt) :
    Origin fresh fresh.builds.size (events ++ [event]) flown.id flight attempt := by
  have now := sound.run events
  have grows := now.step_grows event
  rw [← run_concat] at grows
  have transition := step_transition (fresh.run events) event
  rw [← run_concat] at transition
  rcases transition.settles now ⟨flown, found, ended⟩ with ⟨earlier, there, same⟩ | ⟨again, there,
    reason⟩
  · -- The flight had ended before, under the identifier that it has now.
    obtain ⟨later, here, continues⟩ := grows.flights flight earlier there
    rw [found] at here
    cases here
    rw [continues.id]
    exact (renewed.ended there new same).concat grows
  · rw [found] at there
    cases there
    cases reason with
    | cached entry => exact sound.provides_cached outdated entry
    | reported reports =>
      -- The build is on the flight, so it is new if the flight is.
      obtain ⟨driver, outcome, _, drives, _⟩ := id reports
      obtain ⟨work, builds, _, on, _⟩ := now.worked.holds drives rfl
      cases on
      exact .inr ⟨_, sound.recent builds new, .last reports⟩
    | closed shut => exact .inl ⟨rfl, shut⟩
    | stale => trivial

/-- A new caller is on a new flight after one more step. -/
theorem Renewed.flies_concat (renewed : Renewed fresh events) (sound : Sound fresh)
    (outdated : ∀ flight < fresh.flights.size, Outdated fresh flight) (event : Event ρ)
    {member flight : Nat} {caller : Caller}
    (there : (fresh.run (events ++ [event])).callers[member]? = some caller)
    (new : fresh.callers.size ≤ member) (on : caller.stage.flight? = some flight) :
    fresh.flights.size ≤ flight := by
  have transition := step_transition (fresh.run events) event
  rw [← run_concat] at transition
  rcases transition.caller_cases (sound.run events) there with same | ⟨_, entering⟩ |
    ⟨known, here, _, passage⟩
  · exact renewed.flies same new on
  · rw [entering] at on
    cases on
  · -- Of all passages only joining leads to another flight, which is of the current generation.
    rcases passage.to_flight on with ⟨before, _, _⟩ | ⟨_, runs, _, found, _, current⟩
    · exact renewed.flies here new before
    · exact sound.joined_new outdated found current runs

/-- A new caller is answered with what new builds have come to, after one more step. -/
theorem Renewed.answered_concat (renewed : Renewed fresh events) (sound : Sound fresh)
    (outdated : ∀ flight < fresh.flights.size, Outdated fresh flight) (event : Event ρ)
    {member : Nat} {caller : Caller}
    (there : (fresh.run (events ++ [event])).callers[member]? = some caller)
    (new : fresh.callers.size ≤ member) :
    Sourced fresh fresh.builds.size (events ++ [event]) member caller.id caller.stage := by
  have now := sound.run events
  have grows := now.step_grows event
  rw [← run_concat] at grows
  have transition := step_transition (fresh.run events) event
  rw [← run_concat] at transition
  have stands : (fresh.run (events ++ [event])).stage? member = some caller.stage :=
    stage?_of_caller there rfl
  rcases transition.caller_cases now there with same | ⟨_, entering⟩ | ⟨known, here, ids, passage⟩
  · exact (renewed.answered same new).concat grows
  · rw [entering]
    trivial
  · rw [← ids]
    generalize caller.stage = stage at stands passage
    -- A hit of the cache and the end of a flight are the passages that answer.
    cases passage with
    | wander _ without hit refused =>
      cases stage with
      | served build => exact sound.provides_cached outdated (hit build rfl)
      | refused error => exact .inl (refused error rfl)
      | _ => trivial
    | join => trivial
    | drive _ still =>
      cases stage with
      | served build => cases still
      | refused error => cases still
      | _ => trivial
    | @take flight flown attempt on found ended =>
      have origin :=
        renewed.ended_concat sound outdated event found (renewed.flies here new on) ended
      -- The flight is one for the caller's identifier, before the step and after it.
      have same : flown.id = known.id := by
        obtain ⟨earlier, flies, own⟩ := now.crewed.own here on
        obtain ⟨later, flying, continues⟩ := grows.flights flight earlier flies
        rw [found] at flying
        cases flying
        exact continues.id.trans own
      rw [same] at origin
      cases attempt with
      | ready build => exact origin
      | failed error =>
        rcases origin with closed | ⟨build, recent, reported⟩
        · exact .inl closed
        · rw [run_concat] at stands
          exact .inr ⟨build, recent, flight, reported,
            .last ⟨⟨known, here, on⟩, stands, rfl, by simp⟩⟩
      | stale => trivial
    | quit => trivial

end Step

/-- A run from where everything before comes too late renews all that callers are told. -/
theorem Sound.renewed {fresh : Factory ρ} (sound : Sound fresh)
    (outdated : ∀ flight < fresh.flights.size, Outdated fresh flight) (events : List (Event ρ)) :
    Renewed fresh events := by
  -- The induction is on the last event; at first there are no new callers and no new flights.
  induction events using List.reverseRecOn with
  | nil =>
    refine ⟨fun there new => ?_, fun found new => ?_, fun there new => ?_⟩
    · exact absurd (Array.getElem?_eq_some_iff.mp there).1 (Nat.not_lt.mpr new)
    · exact absurd (Array.getElem?_eq_some_iff.mp found).1 (Nat.not_lt.mpr new)
    · exact absurd (Array.getElem?_eq_some_iff.mp there).1 (Nat.not_lt.mpr new)
  | append_singleton past event renewed =>
    exact ⟨renewed.flies_concat sound outdated event, renewed.ended_concat sound outdated event,
      renewed.answered_concat sound outdated event⟩

/-! ## After a refresh -/

/--
Whoever asks after a refresh is answered by a build that began after it, over every run.

A resource is one that such a build for the identifier has handed out.
An error is what the end of such a build was told as on the caller's flight.
Without a build a caller is refused only because the factory is closed.
-/
theorem answer_after_refresh_recent {capacity : Nat} {budget : Duration} {start : Factory ρ}
    (created : create capacity budget = .ok start) (past future : List (Event ρ)) {member : Nat}
    {caller : Caller}
    (there : (((start.run past).step .invalidate).run future).callers[member]? = some caller)
    (new : (start.run past).callers.size ≤ member) :
    (∀ build, caller.stage = .served build →
      (start.run past).builds.size ≤ build ∧
        ∃ work, (((start.run past).step .invalidate).run future).builds[build]? = some work ∧
          work.id = caller.id ∧ work.status = .ready) ∧
      ∀ error, caller.stage = .refused error →
        error = .closed ∧
            (((start.run past).step .invalidate).run future).phase = .shutdown ∨
          ∃ build, (start.run past).builds.size ≤ build ∧
            ((start.run past).step .invalidate).Told future member caller.id build error := by
  have sound := (create_sound created).run past
  obtain ⟨callers, flights, builds⟩ := invalidate_keeps (start.run past)
  -- The refresh makes all that was there before it come too late.
  have renewed := (sound.step .invalidate).renewed
    (fun flight older => sound.outdated (by rw [← flights]; exact older)) future
  have sourced := renewed.answered there (by rw [callers]; exact new)
  rw [builds] at sourced
  refine ⟨fun build served => ?_, fun error refused => ?_⟩
  · rw [served] at sourced
    exact sourced
  · rw [refused] at sourced
    exact sourced

/-- A build is under way when a refresh comes. -/
def underway (id : Identifier) (resource : ρ) : List (Event ρ) :=
  [.call id, .advance 0 resource, .advance 0 resource, .advance 0 resource, .advance 0 resource]

/-- Another caller starts a build of its own; both builds end, and the later one finds nothing. -/
def misses (id : Identifier) (resource : ρ) : List (Event ρ) :=
  [.call id, .advance 1 resource, .advance 1 resource, .finish 0 .ready,
    .finish 1 (.failed (.missing id.text))]

open Evaluation in
/-- A caller that comes while an older build is still running is told how its own build ended. -/
theorem answer_after_refresh_missing :
    ∃ (start : Factory Repository) (resource : Repository),
      create 1 { seconds := 30, nanos := 0 } = .ok start ∧
        (start.run (underway resource.id resource)).stage? 0 = some (.building 0 0) ∧
        (((start.run (underway resource.id resource)).step .invalidate).run
          (misses resource.id resource)).stage? 1 =
            some (.refused (.failed "a.git" "repository a.git does not exist" true)) ∧
        ∃ build, 1 ≤ build ∧ ((start.run (underway resource.id resource)).step .invalidate).Told
          (misses resource.id resource) 1 resource.id build
            (.failed "a.git" "repository a.git does not exist" true) := by
  obtain ⟨start, created⟩ :
      ∃ start : Factory Repository, create 1 { seconds := 30, nanos := 0 } = .ok start := ⟨_, rfl⟩
  refine ⟨start, ⟨⟨"a.git"⟩, "/srv/a.git"⟩, created, ?_⟩
  have answers := @answer_after_refresh_recent _ _ _ _ _ created
    (underway ⟨"a.git"⟩ (⟨⟨"a.git"⟩, "/srv/a.git"⟩ : Repository))
    (misses ⟨"a.git"⟩ (⟨⟨"a.git"⟩, "/srv/a.git"⟩ : Repository)) 1
    ⟨⟨"a.git"⟩, .refused (.failed "a.git" "repository a.git does not exist" true)⟩
  have before :
      (start.run (underway ⟨"a.git"⟩ (⟨⟨"a.git"⟩, "/srv/a.git"⟩ : Repository))).callers =
        #[⟨⟨"a.git"⟩, .building 0 0⟩] ∧
      (start.run (underway ⟨"a.git"⟩ (⟨⟨"a.git"⟩, "/srv/a.git"⟩ : Repository))).builds.size =
        1 := by
    cases created
    simp [underway]
  have after : (((start.run (underway ⟨"a.git"⟩ (⟨⟨"a.git"⟩, "/srv/a.git"⟩ : Repository))).step
      .invalidate).run (misses ⟨"a.git"⟩ (⟨⟨"a.git"⟩, "/srv/a.git"⟩ : Repository))).callers[1]? =
        some ⟨⟨"a.git"⟩, .refused (.failed "a.git" "repository a.git does not exist" true)⟩ := by
    cases created
    simp [underway, misses, BuildError.fullMessage]
    rfl
  obtain ⟨callers, builds⟩ := before
  rw [builds, callers] at answers
  refine ⟨?_, ?_, ?_⟩
  · rw [stage?, callers]
    rfl
  · rw [stage?, after]
    rfl
  · rcases (answers after (by simp)).2 _ rfl with ⟨closed, _⟩ | told
    · cases closed
    · exact told

end Run

end PackGate.Factory
