import PackGate.Proofs.Factory.Frame

/-! All that one step can do, in fourteen cases; every invariant is proved along them. -/

namespace PackGate.Factory

variable {ρ : Type}

/-- Nothing changed but counters, log, the order of cached entries, and whether calls are served. -/
structure Touched (before after : Factory ρ) : Prop where
  /-- The phase is the same, or the factory has begun to serve. -/
  phase : after.phase = before.phase ∨ before.phase = .uninitialized ∧ after.phase = .active
  /-- The generation is the same. -/
  generation : after.generation = before.generation
  /-- The cache is at most looked up. -/
  cache : after.cache = before.cache ∨ ∃ id, after.cache = (before.cache.get id).2
  /-- The table is the same. -/
  table : after.table = before.table
  /-- The flights are the same. -/
  flights : after.flights = before.flights
  /-- The builds are the same. -/
  builds : after.builds = before.builds
  /-- The callers are the same. -/
  callers : after.callers = before.callers
  /-- The releases are the same. -/
  released : after.released = before.released

/-- A touch does not close a factory. -/
theorem Touched.closed {before after : Factory ρ} (touched : Touched before after) :
    after.phase = .shutdown ↔ before.phase = .shutdown := by
  rcases touched.phase with same | ⟨new, serves⟩
  · rw [same]
  · simp [new, serves]

/-- A factory touches itself. -/
theorem Touched.refl (factory : Factory ρ) : Touched factory factory :=
  ⟨.inl rfl, rfl, .inl rfl, rfl, rfl, rfl, rfl, rfl⟩

/-- Other counters and a longer log are a touch. -/
theorem Touched.noted (factory : Factory ρ) (metrics : Metrics) (journal : List Notice) :
    Touched factory { factory with metrics, journal } :=
  ⟨.inl rfl, rfl, .inl rfl, rfl, rfl, rfl, rfl, rfl⟩

/-- Looking an identifier up is a touch. -/
theorem Touched.looked (factory : Factory ρ) (id : Identifier) (metrics : Metrics) :
    Touched factory { factory with cache := (factory.cache.get id).2, metrics } :=
  ⟨.inl rfl, rfl, .inr ⟨id, rfl⟩, rfl, rfl, rfl, rfl, rfl⟩

/-- Beginning to serve is a touch. -/
theorem Touched.activate (factory : Factory ρ) : Touched factory factory.activate := by
  unfold Factory.activate
  split
  · rename_i new
    exact ⟨.inr ⟨new, rfl⟩, rfl, .inl rfl, rfl, rfl, rfl, rfl, rfl⟩
  · exact Touched.refl factory

/-- A caller that is not on a flight and has not been answered. -/
def Stage.wanders : Stage → Bool
  | .entering | .activating => true
  | .joined _ | .building _ _ | .checking _ _ | .served _ | .refused _ | .cancelled => false

/-- A caller that wanders is on no flight. -/
theorem Stage.flight?_of_wanders {stage : Stage} (wanders : stage.wanders = true) :
    stage.flight? = none := by
  -- Both stages that wander are without a flight, and no other stage wanders.
  cases stage <;> first | rfl | cases wanders

/-- Why a resource of a flight is no longer wanted, and what the flight ends with then. -/
inductive Unwanted (factory : Factory ρ) (flight : Nat) : Attempt → Prop where
  /-- The factory has been closed. -/
  | closed (shut : factory.phase = .shutdown) : Unwanted factory flight (.failed .closed)
  /-- The flight is not of the current generation. -/
  | stale (runs : factory.phase ≠ .shutdown)
      (older : ∀ flown, factory.flights[flight]? = some flown →
        flown.generation ≠ factory.generation) : Unwanted factory flight .stale

/-- The error that callers are told when a builder's work ends without a resource. -/
def Outcome.report? (id : Identifier) (budget : Duration) : Outcome → Option FactoryError
  | .ready => none
  | .failed (.missing name) => some (.failed id.text (BuildError.missing name).fullMessage true)
  | .failed (.other report) => some (.failed id.text (BuildError.other report).fullMessage false)
  | .overdue => some (.timedOut id.text budget)

/-- Only a resource leaves nothing to report. -/
theorem Outcome.report?_eq_none {id : Identifier} {budget : Duration} {outcome : Outcome} :
    outcome.report? id budget = none ↔ outcome = .ready := by
  cases outcome with
  | ready => simp [Outcome.report?]
  | failed error => cases error <;> simp [Outcome.report?]
  | overdue => simp [Outcome.report?]

/-- What an event can make of a factory. -/
inductive Transition [Releasable ρ] (factory : Factory ρ) : Event ρ → Factory ρ → Prop where
  /-- Nothing of note happens. -/
  | idle {event : Event ρ} {after : Factory ρ} (touched : Touched factory after) :
      Transition factory event after
  /-- A new caller comes. -/
  | call (id : Identifier) :
      Transition factory (.call id) { factory with callers := factory.callers.push { id } }
  /-- A caller that wanders goes on, or is answered at once. -/
  | walk {between : Factory ρ} {caller : Nat} {resource : ρ} {known : Caller} {stage : Stage}
      (touched : Touched factory between)
      (here : factory.callers[caller]? = some known) (wanders : known.stage.wanders = true)
      (without : stage.flight? = none) (stays : stage ≠ .cancelled)
      (hit : ∀ build, stage = .served build → (factory.cache.get known.id).1 = some build)
      (refused : ∀ error, stage = .refused error → error = .closed ∧ factory.phase = .shutdown) :
      Transition factory (.advance caller resource) (between.move caller stage)
  /-- A caller that wanders goes away. -/
  | quit {caller : Nat} {known : Caller} (here : factory.callers[caller]? = some known)
      (wanders : known.stage.wanders = true) :
      Transition factory (.cancel caller) (factory.move caller .cancelled)
  /-- A caller that found nothing in the cache joins a flight. -/
  | join {between : Factory ρ} {caller : Nat} {resource : ρ} {known : Caller}
      (touched : Touched factory between)
      (here : factory.callers[caller]? = some known) (wanders : known.stage.wanders = true)
      (runs : factory.phase ≠ .shutdown) (missed : (factory.cache.get known.id).1 = none) :
      Transition factory (.advance caller resource) (between.join caller known.id)
  /-- A caller takes what its flight ended with. -/
  | conclude {caller flight : Nat} {resource : ρ} {known : Caller} {flown : Flight}
      {attempt : Attempt} (here : factory.callers[caller]? = some known)
      (joined : known.stage = .joined flight) (found : factory.flights[flight]? = some flown)
      (ended : flown.cell = some attempt) :
      Transition factory (.advance caller resource) (factory.depart caller flight attempt.stage)
  /-- A caller that does not build goes away from its flight. -/
  | leave {caller flight : Nat} {known : Caller} (here : factory.callers[caller]? = some known)
      (on : known.stage = .joined flight ∨ ∃ build, known.stage = .checking flight build) :
      Transition factory (.cancel caller) (factory.depart caller flight .cancelled)
  /-- A caller that builds goes away, and its build ends. -/
  | abandon {caller flight build : Nat} {known : Caller}
      (here : factory.callers[caller]? = some known)
      (builds : known.stage = .building flight build) :
      Transition factory (.cancel caller)
        ((factory.updateBuild build ({ · with status := .cancelled })).depart caller flight
          .cancelled)
  /-- A caller whose turn it is finds the resource in the cache. -/
  | reuse {between : Factory ρ} {caller flight build : Nat} {resource : ρ} {known : Caller}
      {flown : Flight} (touched : Touched factory between)
      (here : factory.callers[caller]? = some known) (joined : known.stage = .joined flight)
      (found : factory.flights[flight]? = some flown) (opened : flown.cell = none)
      (turn : flown.members.head? = some caller)
      (hit : (factory.cache.get known.id).1 = some build) :
      Transition factory (.advance caller resource) (between.land caller flight (.ready build))
  /-- A caller whose turn it is starts a build. -/
  | start {between : Factory ρ} {caller flight : Nat} {resource : ρ} {known : Caller}
      {flown : Flight} (touched : Touched factory between)
      (here : factory.callers[caller]? = some known) (joined : known.stage = .joined flight)
      (found : factory.flights[flight]? = some flown) (opened : flown.cell = none)
      (turn : flown.members.head? = some caller)
      (missed : (factory.cache.get known.id).1 = none) :
      Transition factory (.advance caller resource)
        ({ between with
          builds := factory.builds.push { id := known.id, flight, resource } }.move caller
            (.building flight factory.builds.size))
  /-- The builder hands out a resource. -/
  | deliver {between : Factory ρ} {caller flight build : Nat} {known : Caller}
      (here : factory.callers[caller]? = some known)
      (builds : known.stage = .building flight build)
      (touched : Touched (factory.updateBuild build ({ · with status := .ready })) between) :
      Transition factory (.finish caller .ready) (between.move caller (.checking flight build))
  /-- The builder hands out nothing. -/
  | fail {between : Factory ρ} {caller flight build : Nat} {outcome : Outcome} {known : Caller}
      {status : BuildStatus} {error : FactoryError}
      (here : factory.callers[caller]? = some known)
      (builds : known.stage = .building flight build)
      (touched : Touched (factory.updateBuild build ({ · with status })) between)
      (done : status ≠ .running) (nothing : status ≠ .ready)
      (told : outcome.report? known.id factory.budget = some error) :
      Transition factory (.finish caller outcome) (between.land caller flight (.failed error))
  /-- A new resource is not wanted any more. -/
  | discard {between : Factory ρ} {caller flight build : Nat} {resource : ρ} {known : Caller}
      {attempt : Attempt} (touched : Touched factory between)
      (here : factory.callers[caller]? = some known) (checks : known.stage = .checking flight build)
      (unwanted : Unwanted factory flight attempt) :
      Transition factory (.advance caller resource)
        ((between.release build).land caller flight attempt)
  /-- A new resource goes into the cache. -/
  | store {caller flight build : Nat} {resource : ρ} {known : Caller} {flown : Flight}
      (here : factory.callers[caller]? = some known)
      (checks : known.stage = .checking flight build) (runs : factory.phase ≠ .shutdown)
      (found : factory.flights[flight]? = some flown)
      (current : flown.generation = factory.generation) :
      Transition factory (.advance caller resource)
        ((factory.store build known.id).land caller flight (.ready build))
  /-- A refresh or the shutdown empties the cache and opens a new generation. -/
  | reset {event : Event ρ} {after : Factory ρ} (runs : factory.phase ≠ .shutdown)
      (generation : after.generation = factory.generation + 1)
      (cache : after.cache = factory.cache.drain.2) (table : after.table = ∅)
      (flights : after.flights = factory.flights) (builds : after.builds = factory.builds)
      (callers : after.callers = factory.callers)
      (released : after.released = factory.released ++
        (factory.cache.drain.1.map (·.2)).filter (· < factory.builds.size))
      (resets : event = .invalidate ∧ after.phase = .active ∨
        event = .shutdown ∧ after.phase = .shutdown) :
      Transition factory event after

section Step

variable [Releasable ρ] (factory : Factory ρ)

/-- A caller that looks at the phase and the cache. -/
theorem enter_transition {caller : Nat} {known : Caller} (resource : ρ)
    (here : factory.callers[caller]? = some known) (wanders : known.stage.wanders = true) :
    Transition factory (.advance caller resource) (factory.enter caller known.id) := by
  -- A hit is served at once; the lookup has moved the entry to the front.
  have hit {build : Nat} {cache : Cache.Lru Identifier Nat}
      (answer : factory.cache.get known.id = (some build, cache)) :
      Transition factory (.advance caller resource)
        (({ factory with cache }.count fun metrics =>
            { metrics with cacheHits := metrics.cacheHits + 1 }).move caller (.served build)) := by
    have touched := Touched.looked factory known.id
    rw [answer] at touched
    refine .walk (touched _) here wanders rfl (by simp) ?_ (by simp)
    rintro other ⟨⟩
    rw [answer]
  -- A miss leads to a flight; the lookup has left the cache as it was.
  have miss {cache : Cache.Lru Identifier Nat}
      (runs : factory.phase ≠ .shutdown) (answer : factory.cache.get known.id = (none, cache)) :
      Transition factory (.advance caller resource)
        (({ factory with cache }.count fun metrics =>
            { metrics with cacheMisses := metrics.cacheMisses + 1 }).join caller known.id) := by
    have touched := Touched.looked factory known.id
    rw [answer] at touched
    exact .join (touched _) here wanders runs (by rw [answer])
  unfold enter
  split
  · rename_i shut
    refine .walk (.refl factory) here wanders rfl (by simp) (by simp) ?_
    rintro error ⟨⟩
    exact ⟨rfl, shut⟩
  · exact .walk (.refl factory) here wanders rfl (by simp) (by simp) (by simp)
  -- During a refresh callers are served as they are while the factory is active.
  all_goals
    rename_i phase
    have runs : factory.phase ≠ .shutdown := by simp [phase]
    split
    · exact hit ‹_›
    · exact miss runs ‹_›

/-- A caller on a flight that looks at its end, or at its turn. -/
theorem resume_transition {caller flight : Nat} {known : Caller} (resource : ρ)
    (here : factory.callers[caller]? = some known) (joined : known.stage = .joined flight) :
    Transition factory (.advance caller resource)
      (factory.resume caller flight known.id resource) := by
  unfold resume
  split
  · exact .idle (.refl factory)
  · rename_i flown found
    split
    · -- The flight has ended, so the caller takes the end and leaves.
      rename_i attempt ended
      rw [conclude_eq_depart]
      exact .conclude here joined found ended
    · rename_i opened
      split
      · -- It is the caller's turn; an earlier flight may have cached the resource meanwhile.
        rename_i turn
        have touched := Touched.looked factory known.id factory.metrics
        unfold start
        rcases answer : factory.cache.get known.id with ⟨_ | build, cache⟩
        · rw [answer] at touched
          exact .start touched here joined found opened turn (by rw [answer])
        · rw [answer] at touched
          exact .reuse touched here joined found opened turn (by rw [answer])
      · exact .idle (.refl factory)

/-- A builder that is done with a build. -/
theorem finish_transition {caller flight build : Nat} {known : Caller} (outcome : Outcome)
    (here : factory.callers[caller]? = some known)
    (builds : known.stage = .building flight build) :
    Transition factory (.finish caller outcome)
      (factory.finish caller flight build known.id outcome) := by
  unfold finish
  -- The two kinds of error differ in the report alone, so they are one transition.
  cases outcome with
  | ready => exact .deliver here builds (.noted _ _ _)
  | failed error =>
    cases error with
    | missing id => exact .fail here builds (.noted _ _ _) (by simp) (by simp) rfl
    | other chain => exact .fail here builds (.noted _ _ _) (by simp) (by simp) rfl
  | overdue => exact .fail here builds (.noted _ _ _) (by simp) (by simp) rfl

/-- A caller that sees whether its new resource is still wanted. -/
theorem check_transition {caller flight build : Nat} {known : Caller} (resource : ρ)
    (here : factory.callers[caller]? = some known) (checks : known.stage = .checking flight build) :
    Transition factory (.advance caller resource) (factory.check caller flight build known.id) := by
  unfold check
  dsimp only
  split
  · -- After the shutdown nothing is wanted any more.
    rename_i shut
    exact .discard (.noted _ _ _) here checks (.closed shut)
  · rename_i runs
    split
    · -- The flight is of the current generation, so its resource goes into the cache.
      rename_i current
      rw [Option.any_eq_true] at current
      obtain ⟨flown, found, current⟩ := current
      exact .store here checks runs found (by simpa using current)
    · -- A refresh came in between, so the callers have to start over.
      rename_i other
      refine .discard (.noted _ _ _) here checks (.stale runs fun flown found same => ?_)
      exact other (by simp [found, same])

/-- A caller that goes away. -/
theorem cancel_transition (caller : Nat) :
    Transition factory (.cancel caller) (factory.cancel caller) := by
  unfold cancel stage?
  -- Only a caller that is still under way can go away.
  cases here : factory.callers[caller]? with
  | none => exact .idle (.refl factory)
  | some known =>
    cases stage : known.stage with
    | entering =>
      simp only [Option.map_some, stage]
      exact .quit here (by rw [stage]; rfl)
    | activating =>
      simp only [Option.map_some, stage]
      exact .quit here (by rw [stage]; rfl)
    | joined flight =>
      simp only [Option.map_some, stage]
      exact .leave here (.inl stage)
    | building flight build =>
      simp only [Option.map_some, stage]
      exact .abandon here stage
    | checking flight build =>
      simp only [Option.map_some, stage]
      exact .leave here (.inr ⟨build, stage⟩)
    | served build =>
      simp only [Option.map_some, stage]
      exact .idle (.refl factory)
    | refused error =>
      simp only [Option.map_some, stage]
      exact .idle (.refl factory)
    | cancelled =>
      simp only [Option.map_some, stage]
      exact .idle (.refl factory)

/-- A refresh. -/
theorem invalidate_transition : Transition factory .invalidate factory.invalidate.2 := by
  unfold invalidate
  split
  · exact .idle (.refl factory)
  · rename_i runs
    have frame := releaseAll_frame { factory with
      phase := .invalidating, generation := factory.generation + 1 }
    -- Only the frame of what the cache leaves behind matters, not how it is released.
    generalize (releaseAll _ : Nat × Factory ρ) = emptied at frame ⊢
    obtain ⟨freed, released⟩ := frame
    exact .reset runs freed.generation freed.cache freed.table freed.flights freed.builds
      freed.callers released (.inl ⟨rfl, rfl⟩)

/-- The shutdown. -/
theorem shutdown_transition : Transition factory .shutdown factory.shutdown.2 := by
  unfold shutdown
  split
  · exact .idle (.refl factory)
  · rename_i runs
    have frame := releaseAll_frame { factory with
      phase := .shutdown, generation := factory.generation + 1 }
    generalize (releaseAll _ : Nat × Factory ρ) = emptied at frame ⊢
    obtain ⟨freed, released⟩ := frame
    exact .reset runs freed.generation freed.cache freed.table freed.flights freed.builds
      freed.callers released (.inr ⟨rfl, freed.phase⟩)

/-- Every step is one of the transitions. -/
theorem step_transition (event : Event ρ) :
    Transition factory event (factory.step event) := by
  cases event with
  | call id => exact .call id
  | advance caller resource =>
    show Transition factory _ (factory.advance caller resource)
    unfold advance
    split
    · exact .idle (.refl factory)
    · -- What a caller does next depends on where it stands.
      rename_i known here
      split
      · rename_i stage
        exact enter_transition factory resource here (by rw [stage]; rfl)
      · rename_i stage
        exact .walk (.activate factory) here (by rw [stage]; rfl) rfl (by simp) (by simp) (by simp)
      · rename_i joined
        exact resume_transition factory resource here joined
      · rename_i checks
        exact check_transition factory resource here checks
      all_goals exact .idle (.refl factory)
  | finish caller outcome =>
    dsimp only [step]
    split
    · -- Only a caller that drives a build can have it finished.
      rename_i here
      have finishes := finish_transition factory outcome here rfl
      exact finishes
    · exact .idle (.refl factory)
  | cancel caller => exact cancel_transition factory caller
  | activate => exact .idle (.activate factory)
  | invalidate => exact invalidate_transition factory
  | shutdown => exact shutdown_transition factory

end Step

end PackGate.Factory
