import PackGate.Proofs.Factory.Release
import PackGate.Proofs.Factory.Settled

/-! Who may still be served a resource from before a refresh once the refresh is over. -/

namespace PackGate.Factory

variable {ρ : Type}

/-! ## Ends of flights -/

/-- A flight has ended with the resource of a build. -/
def Ended (factory : Factory ρ) (flight build : Nat) : Prop :=
  ∃ flown, factory.flights[flight]? = some flown ∧ flown.cell = some (.ready build)

/-- A caller waits on a flight that has already ended with the resource of a build. -/
def Overtaken (factory : Factory ρ) (build member flight : Nat) : Prop :=
  factory.stage? member = some (.joined flight) ∧ Ended factory flight build

variable [Releasable ρ] {factory after : Factory ρ} {event : Event ρ}

/-- The resource that a flight has just ended with is in the cache. -/
theorem Transition.filled (transition : Transition factory event after) (sound : Sound factory)
    {flight build : Nat} (ended : Ended after flight build) :
    Ended factory flight build ∨ ∃ id, (id, build) ∈ after.cache.toList := by
  -- The only reason for such an end is an entry of the cache.
  rcases transition.settles sound ended with before | ⟨flown, _, reason⟩
  · exact .inl before
  · cases reason with
    | cached entry => exact .inr ⟨flown.id, entry⟩

/-- A caller that joins takes no end yet: the flight that it joins is open. -/
theorem Transition.joined (transition : Transition factory event after) (sound : Sound factory)
    {member flight build : Nat} (overtaken : Overtaken after build member flight) :
    factory.stage? member = some (.joined flight) := by
  -- Of all passages only joining leads here, and it leads to an open flight.
  obtain ⟨joined, flown, found, ended⟩ := overtaken
  rcases transition.stage_cases sound joined with before | new | ⟨known, here, passage⟩
  · exact before
  · cases new
  · rcases passage.to_flight rfl with ⟨_, drives, _⟩ | ⟨_, _, known, there, opened, _⟩
    · cases drives
    · rw [found] at there
      cases there
      rw [opened] at ended
      cases ended

/-- Whoever is served was on a flight that had ended so, or is served what is cached. -/
theorem Transition.served (transition : Transition factory event after) (sound : Sound factory)
    {member build : Nat} (served : after.stage? member = some (.served build)) :
    factory.stage? member = some (.served build) ∨
      (∃ flight, Overtaken factory build member flight) ∨
        ∃ id, (id, build) ∈ after.cache.toList := by
  -- Of all passages a hit and the end of a flight serve a resource.
  rcases transition.stage_cases sound served with before | new | ⟨known, here, passage⟩
  · exact .inl before
  · cases new
  · rcases passage.to_served with
      hit | ⟨flight, _, _, _, _, ⟨joined, earlier, found, filled⟩ | cached⟩
    · exact .inr (.inr ⟨_, hit⟩)
    · refine .inr (.inl ⟨flight, ?_, earlier, found, filled⟩)
      exact stage?_of_caller here joined
    · exact .inr (.inr ⟨_, cached⟩)

/-! ## After a refresh -/

/-- Since an earlier moment only callers that were overtaken then take the resource of a build. -/
structure Severed (now later : Factory ρ) (build : Nat) : Prop where
  /-- No flight has ended with the resource since. -/
  ends : ∀ {flight : Nat}, Ended later flight build → Ended now flight build
  /-- Whoever is overtaken was so then. -/
  waits : ∀ {member flight : Nat}, Overtaken later build member flight →
    Overtaken now build member flight
  /-- Whoever is served was so then, or was overtaken. -/
  served : ∀ {member : Nat}, later.stage? member = some (.served build) →
    now.stage? member = some (.served build) ∨ ∃ flight, Overtaken now build member flight

/-- A step serves a resource that is not cached to overtaken callers alone. -/
theorem Severed.step {now : Factory ρ} {build : Nat} (severed : Severed now factory build)
    (sound : Sound factory) (event : Event ρ)
    (absent : ∀ id, (id, build) ∉ (factory.step event).cache.toList) :
    Severed now (factory.step event) build := by
  -- Whatever newly ends or is served by this step would be cached after it.
  have transition := step_transition factory event
  have ends : ∀ {flight : Nat}, Ended (factory.step event) flight build →
      Ended factory flight build := by
    intro flight ended
    rcases transition.filled sound ended with before | ⟨id, cached⟩
    · exact before
    · exact absurd cached (absent id)
  refine ⟨fun ended => severed.ends (ends ended), ?_, ?_⟩
  · intro member flight overtaken
    exact severed.waits ⟨transition.joined sound overtaken, ends overtaken.2⟩
  · intro member served
    rcases transition.served sound served with before | ⟨flight, overtaken⟩ | ⟨id, cached⟩
    · exact severed.served before
    · exact .inr ⟨flight, severed.waits overtaken⟩
    · exact absurd cached (absent id)

/-- A run serves a resource that comes too late to overtaken callers alone. -/
theorem Severed.run {now : Factory ρ} {build : Nat} (severed : Severed now factory build)
    (sound : Sound factory) (expired : Expired factory build) (events : List (Event ρ)) :
    Severed now (factory.run events) build := by
  -- A late resource is not cached after any of the steps.
  induction events generalizing factory with
  | nil => exact severed
  | cons event rest ih =>
    have next := sound.step event
    have late := expired.grows (sound.step_grows event)
    exact ih (severed.step sound event (late.not_cached next.kept)) next late

/-- A refresh forgets the cache and lets every caller and every flight be. -/
theorem invalidate_frame (runs : factory.phase ≠ .shutdown) :
    (factory.step .invalidate).generation = factory.generation + 1 ∧
      (factory.step .invalidate).callers = factory.callers ∧
      (factory.step .invalidate).flights = factory.flights ∧
      (factory.step .invalidate).builds = factory.builds := by
  obtain ⟨freed, _⟩ :=
    releaseAll_frame { factory with phase := .invalidating, generation := factory.generation + 1 }
  show factory.invalidate.2.generation = _ ∧ factory.invalidate.2.callers = _ ∧
    factory.invalidate.2.flights = _ ∧ factory.invalidate.2.builds = _
  -- The factory is not shut down, so the refresh takes effect.
  unfold invalidate
  rw [if_neg runs]
  exact ⟨freed.generation, freed.callers, freed.flights, freed.builds⟩

/-- A refresh makes no difference to a factory that is closed. -/
theorem invalidate_closed (shut : factory.phase = .shutdown) :
    factory.invalidate = (0, factory) := by
  rw [invalidate, if_pos shut]

/-- A refresh lets every caller, flight and build be, whether or not it takes effect. -/
theorem invalidate_keeps (factory : Factory ρ) :
    (factory.step .invalidate).callers = factory.callers ∧
      (factory.step .invalidate).flights = factory.flights ∧
      (factory.step .invalidate).builds = factory.builds := by
  by_cases shut : factory.phase = .shutdown
  · have same : factory.step .invalidate = factory := congrArg Prod.snd (invalidate_closed shut)
    rw [same]
    exact ⟨rfl, rfl, rfl⟩
  · exact (invalidate_frame shut).2

/-- After a refresh every flight from before it comes too late, also if the factory is closed. -/
theorem Sound.outdated (sound : Sound factory) {flight : Nat}
    (earlier : flight < factory.flights.size) : Outdated (factory.step .invalidate) flight := by
  by_cases shut : factory.phase = .shutdown
  · exact .inl ((sound.step_grows .invalidate).closed shut)
  · -- No flight is of the generation that the refresh opens.
    obtain ⟨generation, _, flights, _⟩ := invalidate_frame shut
    have found := Array.getElem?_eq_getElem earlier
    refine .inr ⟨_, by rw [flights]; exact found, ?_⟩
    rw [generation]
    exact Nat.lt_succ_of_le (sound.crewed.past found)

omit [Releasable ρ] in
/-- A build from when every flight came too late comes too late. -/
theorem Sound.expired (sound : Sound factory)
    (outdated : ∀ flight < factory.flights.size, Outdated factory flight) {build : Nat}
    (earlier : build < factory.builds.size) : Expired factory build := by
  have found := Array.getElem?_eq_getElem earlier
  obtain ⟨flown, flies, _⟩ := sound.worked.aboard found
  exact ⟨_, found, outdated _ (Array.getElem?_eq_some_iff.mp flies).1⟩

/-- After a refresh every build from before it comes too late. -/
theorem Sound.expired_invalidate (sound : Sound factory) {build : Nat}
    (earlier : build < factory.builds.size) : Expired (factory.step .invalidate) build := by
  obtain ⟨_, flights, builds⟩ := invalidate_keeps factory
  refine (sound.step .invalidate).expired (fun flight older => ?_) (by rw [builds]; exact earlier)
  rw [flights] at older
  exact sound.outdated older

/-- After a refresh only callers that were overtaken before it take an older resource. -/
theorem Sound.severed (sound : Sound factory) (runs : factory.phase ≠ .shutdown) {build : Nat}
    (earlier : build < factory.builds.size) (future : List (Event ρ)) :
    Severed factory ((factory.step .invalidate).run future) build := by
  obtain ⟨_, callers, flights, _⟩ := invalidate_frame runs
  have ends : ∀ {flight : Nat}, Ended (factory.step .invalidate) flight build →
      Ended factory flight build := fun ended => Settled.congr ended flights
  have stages : ∀ member : Nat,
      (factory.step .invalidate).stage? member = factory.stage? member := by
    intro member
    rw [stage?, stage?, callers]
  -- The refresh itself moves no caller and ends no flight.
  have severed : Severed factory (factory.step .invalidate) build := by
    refine ⟨ends, fun overtaken => ⟨?_, ends overtaken.2⟩, fun served => .inl ?_⟩
    · rw [← stages]
      exact overtaken.1
    · rw [← stages]
      exact served
  exact severed.run (sound.step .invalidate) (sound.expired_invalidate earlier) future

/-- An overtaken caller takes what its flight ended with, whatever has happened meanwhile. -/
theorem Overtaken.served {build member flight : Nat}
    (overtaken : Overtaken factory build member flight) (resource : ρ) :
    (factory.step (.advance member resource)).stage? member = some (.served build) :=
  Settled.advance overtaken.2 overtaken.1 resource

/--
Who can be served an older resource after a refresh: a caller whose flight had ended before it.

A refresh makes no difference to a caller that has not looked at the end of its flight yet.
-/
theorem served_after_refresh_iff {capacity : Nat} {budget : Duration} {start : Factory ρ}
    (created : create capacity budget = .ok start) (past : List (Event ρ))
    (runs : (start.run past).phase ≠ .shutdown) {build member : Nat}
    (earlier : build < (start.run past).builds.size)
    (unserved : (start.run past).stage? member ≠ some (.served build)) :
    (∃ future, (((start.run past).step .invalidate).run future).stage? member =
        some (.served build)) ↔
      ∃ flight, Overtaken (start.run past) build member flight := by
  have sound := (create_sound created).run past
  -- Such a caller has been overtaken; and an overtaken one need only run once more.
  constructor
  · rintro ⟨future, served⟩
    exact ((sound.severed runs earlier future).served served).resolve_left unserved
  · rintro ⟨flight, joined, ended⟩
    obtain ⟨_, callers, flights, _⟩ := invalidate_frame runs
    have still : Overtaken ((start.run past).step .invalidate) build member flight := by
      refine ⟨?_, ?_⟩
      · rw [stage?, callers]
        exact joined
      · unfold Ended
        rw [flights]
        exact ended
    exact ⟨[.advance member ((start.run past).builds[build]).resource], still.served _⟩

/-- Two callers share a build; the one that drives it is served before the other one looks. -/
def overtaking (id : Identifier) (resource : ρ) : List (Event ρ) :=
  sharing id resource ++ [.finish 0 .ready, .advance 0 resource]

open Evaluation in
/-- A caller whose flight ended before a refresh is served the old resource after it. -/
theorem served_after_refresh_overtaken :
    ∃ (start : Factory Repository) (resource : Repository),
      create 1 { seconds := 30, nanos := 0 } = .ok start ∧
        (start.run (overtaking resource.id resource)).phase = .active ∧
        (start.run (overtaking resource.id resource)).stage? 0 = some (.served 0) ∧
        (start.run (overtaking resource.id resource)).stage? 1 = some (.joined 0) ∧
        ∃ future, (((start.run (overtaking resource.id resource)).step .invalidate).run
          future).stage? 1 = some (.served 0) := by
  obtain ⟨start, created⟩ :
      ∃ start : Factory Repository, create 1 { seconds := 30, nanos := 0 } = .ok start := ⟨_, rfl⟩
  refine ⟨start, ⟨⟨"a.git"⟩, "/srv/a.git"⟩, created, ?_⟩
  generalize (⟨⟨"a.git"⟩, "/srv/a.git"⟩ : Repository) = resource
  have serves := @served_after_refresh_iff _ _ _ _ _ created (overtaking resource.id resource)
  obtain ⟨_, _, shares⟩ := run_sharing created resource.id resource
  have state : (start.run (overtaking resource.id resource)).phase = .active ∧
      (start.run (overtaking resource.id resource)).callers =
        #[⟨resource.id, .served 0⟩, ⟨resource.id, .joined 0⟩] ∧
      (start.run (overtaking resource.id resource)).flights =
        #[{ id := resource.id, generation := 0, cell := some (.ready 0), members := [1] }] ∧
      (start.run (overtaking resource.id resource)).builds.size = 1 := by
    rw [overtaking, run_append, shares]
    cases created
    simp
  generalize start.run (overtaking resource.id resource) = now at serves state ⊢
  obtain ⟨active, callers, flights, builds⟩ := state
  have waits : now.stage? 1 = some (.joined 0) := by
    rw [stage?, callers]
    rfl
  refine ⟨active, ?_, waits, (serves (by rw [active]; simp) ?_ ?_).mpr ⟨0, waits, ?_⟩⟩
  · rw [stage?, callers]
    rfl
  · rw [builds]
    exact Nat.zero_lt_one
  · rw [waits]
    simp
  · exact ⟨{ id := resource.id, generation := 0, cell := some (.ready 0), members := [1] },
      by rw [flights]; rfl, rfl⟩

end PackGate.Factory
