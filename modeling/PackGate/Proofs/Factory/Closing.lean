import PackGate.Proofs.Factory.Custody
import PackGate.Proofs.Factory.Renewal

/-! The phases of a factory's life, and what is left of it once it has been closed. -/

namespace PackGate.Factory

variable {ρ : Type}

/-! ## Phases and generations -/

/-- Whether an event is a refresh. -/
def Event.isRefresh : Event ρ → Bool
  | .invalidate => true
  | .call _ | .advance _ _ | .finish _ _ | .cancel _ | .activate | .shutdown => false

/-- Whether an event is the shutdown. -/
def Event.isShutdown : Event ρ → Bool
  | .shutdown => true
  | .call _ | .advance _ _ | .finish _ _ | .cancel _ | .activate | .invalidate => false

/-- How many resets take effect: the refreshes before the first shutdown, and that shutdown. -/
def resets (events : List (Event ρ)) : Nat :=
  (events.takeWhile (!·.isShutdown)).countP (·.isRefresh) +
    if events.any (·.isShutdown) then 1 else 0

/-- What an event makes of phase and generation. -/
inductive Turn (factory : Factory ρ) : Event ρ → Factory ρ → Prop where
  /-- At most the factory begins to serve; a reset that comes to a closed factory does nothing. -/
  | stays {event : Event ρ} {after : Factory ρ} (generation : after.generation = factory.generation)
      (phase : after.phase = factory.phase ∨
        factory.phase = .uninitialized ∧ after.phase = .active)
      (without : factory.phase = .shutdown ∨ event.isRefresh = false ∧ event.isShutdown = false) :
      Turn factory event after
  /-- A refresh opens a generation, and the factory serves. -/
  | refreshes {after : Factory ρ} (runs : factory.phase ≠ .shutdown)
      (generation : after.generation = factory.generation + 1) (phase : after.phase = .active) :
      Turn factory .invalidate after
  /-- The shutdown opens the last generation. -/
  | closes {after : Factory ρ} (runs : factory.phase ≠ .shutdown)
      (generation : after.generation = factory.generation + 1) (phase : after.phase = .shutdown) :
      Turn factory .shutdown after

section Turn

variable [Releasable ρ] {factory after : Factory ρ} {event : Event ρ}

/-- A transition at an event that is no reset keeps the generation. -/
theorem Transition.calm (transition : Transition factory event after)
    (plain : event.isRefresh = false ∧ event.isShutdown = false) : Turn factory event after := by
  -- Whatever follows a touch keeps phase and generation.
  have follows {between : Factory ρ} (touched : Touched factory between) (after : Factory ρ)
      (phase : after.phase = between.phase) (generation : after.generation = between.generation) :
      Turn factory event after :=
    .stays (generation.trans touched.generation) (by rw [phase]; exact touched.phase) (.inr plain)
  -- What comes behind the touch only seats callers, ends flights, and releases.
  cases transition with
  | idle touched => exact follows touched _ rfl rfl
  | call => exact .stays rfl (.inl rfl) (.inr plain)
  | walk touched => exact follows touched _ rfl rfl
  | quit => exact .stays rfl (.inl rfl) (.inr plain)
  | @join between caller _ known touched =>
    have seats := join_frame between caller known.id
    exact follows touched _ seats.phase seats.generation
  | @conclude caller flight _ _ _ attempt =>
    have seats := depart_frame factory caller flight attempt.stage
    exact .stays seats.generation (.inl seats.phase) (.inr plain)
  | @leave caller flight =>
    have seats := depart_frame factory caller flight .cancelled
    exact .stays seats.generation (.inl seats.phase) (.inr plain)
  | @abandon caller flight build =>
    have seats := depart_frame (factory.updateBuild build ({ · with status := .cancelled })) caller
      flight .cancelled
    exact .stays seats.generation (.inl seats.phase) (.inr plain)
  | @reuse between caller flight build _ _ _ touched =>
    have seats := land_frame between caller flight (.ready build)
    exact follows touched _ seats.phase seats.generation
  | start touched => exact follows touched _ rfl rfl
  | deliver _ _ touched => exact .stays touched.generation touched.phase (.inr plain)
  | @fail between caller flight _ _ _ _ error _ _ touched =>
    have seats := land_frame between caller flight (.failed error)
    exact .stays (seats.generation.trans touched.generation)
      (by rw [seats.phase]; exact touched.phase) (.inr plain)
  | @discard between caller flight build _ _ attempt touched =>
    have freed := release_frame between build
    have seats := land_frame (between.release build) caller flight attempt
    exact follows touched _ (seats.phase.trans freed.phase)
      (seats.generation.trans freed.generation)
  | @store caller flight build _ known =>
    obtain ⟨freed, _⟩ := store_frame factory build known.id
    have seats := land_frame (factory.store build known.id) caller flight (.ready build)
    exact .stays (seats.generation.trans freed.generation) (.inl (seats.phase.trans freed.phase))
      (.inr plain)
  | reset _ _ _ _ _ _ _ _ resets =>
    -- Both resets are excluded.
    obtain ⟨refresh, shutdown⟩ := plain
    rcases resets with ⟨rfl, _⟩ | ⟨rfl, _⟩
    · cases refresh
    · cases shutdown

/-- The shutdown makes no difference to a factory that is closed. -/
theorem shutdown_closed (shut : factory.phase = .shutdown) : factory.shutdown = (0, factory) := by
  rw [shutdown, if_pos shut]

/-- Every step is a turn of the phase machine. -/
theorem step_turn (factory : Factory ρ) (event : Event ρ) :
    Turn factory event (factory.step event) := by
  have transition := step_transition factory event
  -- The two resets look at the phase first; all other events keep the generation.
  cases event with
  | invalidate =>
    show Turn factory .invalidate factory.invalidate.2
    by_cases shut : factory.phase = .shutdown
    · rw [invalidate_closed shut]
      exact .stays rfl (.inl rfl) (.inl shut)
    · obtain ⟨generation, _⟩ := invalidate_frame shut
      refine .refreshes shut generation ?_
      rw [invalidate, if_neg shut]
      rfl
  | shutdown =>
    show Turn factory .shutdown factory.shutdown.2
    by_cases shut : factory.phase = .shutdown
    · rw [shutdown_closed shut]
      exact .stays rfl (.inl rfl) (.inl shut)
    · obtain ⟨freed, _⟩ := releaseAll_frame { factory with
        phase := .shutdown, generation := factory.generation + 1 }
      rw [shutdown, if_neg shut]
      exact .closes shut freed.generation freed.phase
  | _ => exact transition.calm ⟨rfl, rfl⟩

omit [Releasable ρ] in
/-- A turn that begins at rest ends at rest. -/
theorem Turn.rests (turn : Turn factory event after) (rests : factory.phase ≠ .invalidating) :
    after.phase ≠ .invalidating := by
  -- A refresh is over within its step, so none of the turns ends amid one.
  cases turn with
  | stays _ phase =>
    rcases phase with same | ⟨_, serves⟩
    · rw [same]
      exact rests
    · simp [serves]
  | refreshes _ _ phase => simp [phase]
  | closes _ _ phase => simp [phase]

omit [Releasable ρ] in
/-- No turn makes a factory new again. -/
theorem Turn.begun (turn : Turn factory event after) (begun : factory.phase ≠ .uninitialized) :
    after.phase ≠ .uninitialized := by
  -- A factory that begins to serve was new before, and both resets leave it otherwise.
  cases turn with
  | stays _ phase =>
    rcases phase with same | ⟨_, serves⟩
    · rw [same]
      exact begun
    · simp [serves]
  | refreshes _ _ phase => simp [phase]
  | closes _ _ phase => simp [phase]

/-- Between two steps no factory is amid a refresh, and none becomes new again. -/
theorem run_phase (factory : Factory ρ) (events : List (Event ρ)) :
    (factory.phase ≠ .invalidating → (factory.run events).phase ≠ .invalidating) ∧
      (factory.phase ≠ .uninitialized → (factory.run events).phase ≠ .uninitialized) := by
  -- The induction is on the events, and both properties are kept by one turn.
  induction events generalizing factory with
  | nil => exact ⟨id, id⟩
  | cons event rest ih =>
    have turn := step_turn factory event
    obtain ⟨rests, begun⟩ := ih (factory.step event)
    exact ⟨fun now => rests (turn.rests now), fun now => begun (turn.begun now)⟩

/-- Over every run the generation goes up by one for each reset that takes effect. -/
theorem run_generation (factory : Factory ρ) (events : List (Event ρ)) :
    (factory.run events).generation =
      factory.generation + if factory.phase = .shutdown then 0 else resets events := by
  -- The induction is on the events; after the first shutdown no reset takes effect.
  induction events generalizing factory with
  | nil => simp [run, resets]
  | cons event rest ih =>
    rw [show factory.run (event :: rest) = (factory.step event).run rest from rfl, ih]
    cases step_turn factory event with
    | stays generation phase without =>
      -- An event that stays is no reset, or it comes to a closed factory.
      have same : (factory.step event).phase = .shutdown ↔ factory.phase = .shutdown := by
        rcases phase with same | ⟨new, serves⟩
        · rw [same]
        · simp [new, serves]
      rw [generation]
      simp only [same]
      split
      · rfl
      · rename_i runs
        obtain ⟨refresh, shutdown⟩ := without.resolve_left runs
        simp [resets, refresh, shutdown]
    | refreshes runs generation phase =>
      -- This refresh is counted, and those behind it as before.
      rw [generation, phase, if_neg runs]
      simp [resets, Event.isRefresh, Event.isShutdown]
      omega
    | closes runs generation phase =>
      -- From the first shutdown on nothing is counted any longer.
      rw [generation, phase, if_neg runs]
      simp [resets, Event.isShutdown]

end Turn

/-! ## Refusals -/

/-- A caller that has its answer, or has gone away. -/
def Stage.isOver : Stage → Bool
  | .served _ | .refused _ | .cancelled => true
  | .entering | .activating | .joined _ | .building _ _ | .checking _ _ => false

/-- A caller that is done is on no flight. -/
theorem Stage.flight?_of_isOver {stage : Stage} (isOver : stage.isOver = true) :
    stage.flight? = none := by
  -- The stages that name a flight are all on the way to an answer.
  cases stage <;> first | rfl | cases isOver

/-- The stages from which a caller gets no other answer than that the factory is closed. -/
inductive Barred (factory : Factory ρ) : Stage → Prop where
  /-- The caller has not looked at the phase yet. -/
  | gate (shut : factory.phase = .shutdown) : Barred factory .entering
  /-- The caller's flight has been told so. -/
  | flight {flight : Nat} (ended : Settled factory flight (.failed .closed)) :
      Barred factory (.joined flight)
  /-- The caller has been told so. -/
  | refused : Barred factory (.refused .closed)
  /-- The caller has gone away. -/
  | gone : Barred factory .cancelled

section Refusal

variable [Releasable ρ] {factory : Factory ρ}

/-- A caller that is done stays as it is. -/
theorem Sound.step_over (sound : Sound factory) {member : Nat} {stage : Stage}
    (stands : factory.stage? member = some stage) (ended : stage.isOver = true) (event : Event ρ) :
    (factory.step event).stage? member = some stage := by
  obtain ⟨⟨id, stage⟩, here, rfl⟩ := Option.map_eq_some_iff.mp stands
  by_cases acts : event.actor? = some member
  · -- No event of its own moves such a caller.
    have idle : factory.step event = factory := by
      cases stage with
      | served _ | refused _ | cancelled =>
        cases event with
        | advance =>
          cases acts
          simp only [Factory.step, advance, here]
        | finish =>
          cases acts
          simp only [Factory.step, here]
        | cancel =>
          cases acts
          simp only [Factory.step, cancel, stands]
        | _ => cases acts
      | _ => cases ended
    rw [idle]
    exact stands
  · -- What others do does not move a caller.
    exact stage?_of_caller ((step_transition factory event).bystander sound here acts) rfl

/-- A caller that comes to a closed factory is refused when it looks at the phase. -/
theorem advance_shut {member : Nat} (shut : factory.phase = .shutdown)
    (stands : factory.stage? member = some .entering) (resource : ρ) :
    (factory.step (.advance member resource)).stage? member = some (.refused .closed) := by
  obtain ⟨caller, here, enters⟩ := Option.map_eq_some_iff.mp stands
  -- The phase is the first thing that the caller looks at.
  have refuses :
      factory.step (.advance member resource) = factory.move member (.refused .closed) := by
    simp only [step, advance, here, enters, enter, shut]
  rw [refuses, stage?, move_callers, getElem?_modify_self here]
  rfl

omit [Releasable ρ] in
/-- What is barred stays so. -/
theorem Barred.grows {after : Factory ρ} {stage : Stage} (barred : Barred factory stage)
    (grows : Grows factory after) : Barred after stage := by
  -- Neither a closed factory nor a flight that has ended is opened again.
  cases barred with
  | gate shut => exact .gate (grows.closed shut)
  | flight ended => exact .flight (ended.grows grows)
  | refused => exact .refused
  | gone => exact .gone

/-- In a step a barred caller stays, is refused, or goes away. -/
theorem Barred.step {member : Nat} {stage : Stage} (barred : Barred factory stage)
    (sound : Sound factory) (stands : factory.stage? member = some stage) (event : Event ρ) :
    ∃ later, (factory.step event).stage? member = some later ∧
      (later = stage ∨ later = .refused .closed ∨ later = .cancelled) := by
  obtain ⟨⟨id, stage⟩, here, rfl⟩ := Option.map_eq_some_iff.mp stands
  by_cases acts : event.actor? = some member
  · -- Looking is all that a barred caller can do, apart from going away.
    cases event with
    | advance _ resource =>
      cases acts
      cases barred with
      | gate shut => exact ⟨_, advance_shut shut stands resource, .inr (.inl rfl)⟩
      | flight ended => exact ⟨_, ended.advance stands resource, .inr (.inl rfl)⟩
      | refused => exact ⟨_, sound.step_over stands rfl _, .inl rfl⟩
      | gone => exact ⟨_, sound.step_over stands rfl _, .inl rfl⟩
    | finish _ outcome =>
      cases acts
      have idle : factory.step (.finish member outcome) = factory := by
        cases barred <;> simp only [Factory.step, here]
      exact ⟨_, by rw [idle]; exact stands, .inl rfl⟩
    | cancel =>
      -- Going away is open to a caller as long as it waits.
      cases acts
      cases barred with
      | gate =>
        refine ⟨.cancelled, ?_, .inr (.inr rfl)⟩
        simp only [Factory.step, cancel, stands]
        rw [stage?, move_callers, getElem?_modify_self here]
        rfl
      | flight =>
        refine ⟨.cancelled, ?_, .inr (.inr rfl)⟩
        simp only [Factory.step, cancel, stands]
        rw [stage?, move_callers, leave_callers, getElem?_modify_self here]
        rfl
      | refused => exact ⟨_, sound.step_over stands rfl _, .inl rfl⟩
      | gone => exact ⟨_, sound.step_over stands rfl _, .inl rfl⟩
    | _ => cases acts
  · -- An event about somebody else leaves the caller where it is.
    refine ⟨_, ?_, .inl rfl⟩
    exact stage?_of_caller ((step_transition factory event).bystander sound here acts) rfl

/-- Over a run a barred caller stays, is refused, or goes away. -/
theorem Barred.run {member : Nat} {stage : Stage} (barred : Barred factory stage)
    (sound : Sound factory) (stands : factory.stage? member = some stage)
    (events : List (Event ρ)) :
    ∃ later, (factory.run events).stage? member = some later ∧
      (later = stage ∨ later = .refused .closed ∨ later = .cancelled) := by
  -- The induction is on the events; whoever has been refused or has gone away is barred as well.
  induction events generalizing factory stage with
  | nil => exact ⟨stage, stands, .inl rfl⟩
  | cons event rest ih =>
    have next := sound.step event
    obtain ⟨later, there, rfl | rfl | rfl⟩ := barred.step sound stands event
    · exact ih (barred.grows (sound.step_grows event)) next there
    · obtain ⟨last, stays, rfl | rfl | rfl⟩ := ih .refused next there
      all_goals exact ⟨_, stays, .inr (by simp)⟩
    · obtain ⟨last, stays, rfl | rfl | rfl⟩ := ih .gone next there
      all_goals exact ⟨_, stays, .inr (by simp)⟩

/-- Whoever comes after the shutdown is refused, or goes away. -/
theorem Sound.newcomers (sound : Sound factory) (shut : factory.phase = .shutdown)
    (events : List (Event ρ)) {member : Nat} {stage : Stage} (new : factory.callers.size ≤ member)
    (stands : (factory.run events).stage? member = some stage) :
    stage = .entering ∨ stage = .refused .closed ∨ stage = .cancelled := by
  -- The induction is on the last event: whoever is there then came with it, or was barred before.
  induction events using List.reverseRecOn generalizing stage with
  | nil =>
    obtain ⟨_, there, _⟩ := Option.map_eq_some_iff.mp stands
    exact absurd (Array.getElem?_eq_some_iff.mp there).1 (Nat.not_lt.mpr new)
  | append_singleton past event ih =>
    have now := sound.run past
    rw [run_concat] at stands
    cases before : (factory.run past).stage? member with
    | none =>
      -- Whoever was not there before the last event has come with it, and is about to enter.
      obtain ⟨later, there, rfl⟩ := Option.map_eq_some_iff.mp stands
      have absent := Option.map_eq_none_iff.mp before
      rcases (step_transition (factory.run past) event).caller_cases now there with
        same | ⟨_, enters⟩ | ⟨_, here, _⟩
      · rw [absent] at same
        cases same
      · exact .inl enters
      · rw [absent] at here
        cases here
    | some earlier =>
      -- Whoever was there stood at one of the three stages, and each of them is barred.
      have barred : Barred (factory.run past) earlier := by
        rcases ih before with rfl | rfl | rfl
        · exact .gate ((sound.run_grows past).closed shut)
        · exact .refused
        · exact .gone
      obtain ⟨later, there, moves⟩ := barred.step now before event
      rw [stands] at there
      cases there
      rcases moves with rfl | refused
      · exact ih before
      · exact .inr refused

end Refusal

/-! ## Resources that come after the shutdown -/

/-- A resource has been released, its driver refused, and its flight told that it is closed. -/
structure Rejected (factory : Factory ρ) (driver flight build : Nat) : Prop where
  /-- The resource has been released. -/
  released : build ∈ factory.released
  /-- The caller that drove the build has been refused. -/
  refused : factory.stage? driver = some (.refused .closed)
  /-- The other callers of the flight are going to be. -/
  ended : Settled factory flight (.failed .closed)

section Rejection

variable [Releasable ρ] {factory : Factory ρ} {driver flight build : Nat}

/-- A rejection is for good. -/
theorem Rejected.step (rejected : Rejected factory driver flight build) (sound : Sound factory)
    (event : Event ρ) : Rejected (factory.step event) driver flight build :=
  ⟨(sound.step_grows event).released.subset rejected.released,
    sound.step_over rejected.refused rfl event, rejected.ended.grows (sound.step_grows event)⟩

/-- A rejection lasts over every run. -/
theorem Rejected.run (rejected : Rejected factory driver flight build) (sound : Sound factory)
    (events : List (Event ρ)) : Rejected (factory.run events) driver flight build := by
  induction events generalizing factory with
  | nil => exact rejected
  | cons event rest ih => exact ih (rejected.step sound event) (sound.step event)

/-- A caller that looks at a resource which came after the shutdown rejects it. -/
theorem Sound.rejects (sound : Sound factory) (shut : factory.phase = .shutdown)
    (checks : factory.stage? driver = some (.checking flight build)) (resource : ρ) :
    Rejected (factory.step (.advance driver resource)) driver flight build := by
  obtain ⟨caller, here, stage⟩ := Option.map_eq_some_iff.mp checks
  -- The resource is held by the driver alone, so it has not been released before.
  obtain ⟨flown, found, _⟩ := sound.crewed.own here (by rw [stage]; rfl)
  have released := sound.check_late here stage (.inl shut)
  have freed := release_frame (factory.count (·.recordBuild .stale)) build
  -- The look finds the factory closed, so the caller lands with a refusal.
  have looks : factory.step (.advance driver resource) =
      factory.check driver flight build caller.id := by
    simp only [Factory.step, advance, here, stage]
  have closes : factory.check driver flight build caller.id =
      ((factory.count (·.recordBuild .stale)).release build).land driver flight
        (.failed .closed) := by
    simp only [check, shut, if_true]
  rw [looks]
  refine ⟨released, ?_, ?_⟩
  · rw [closes, stage?, land_callers, freed.callers]
    exact congrArg (Option.map (·.stage)) (getElem?_modify_self here _)
  · rw [closes]
    exact ⟨_, land_flight driver _ (by rw [freed.flights]; exact found), rfl⟩

/-- Until its driver looks at it or goes away, a resource stays in the driver's hands. -/
theorem Sound.run_rejects (sound : Sound factory) (shut : factory.phase = .shutdown)
    (checks : factory.stage? driver = some (.checking flight build)) (events : List (Event ρ))
    (kept : ¬factory.During events (Forsakes build)) :
    (factory.run events).stage? driver = some (.checking flight build) ∨
      Rejected (factory.run events) driver flight build := by
  -- The induction is on the last event, so that the holder is known when it comes.
  induction events using List.reverseRecOn with
  | nil => exact .inl checks
  | append_singleton past event ih =>
    have now := sound.run past
    rw [run_concat]
    rcases ih fun during => kept (during.append [event]) with holds | rejected
    · -- The driver holds the resource still, so it does not go away with this event.
      have careful : event ≠ .cancel driver := fun leaves =>
        kept (.last ⟨driver, flight, leaves, holds⟩)
      obtain ⟨caller, here, stage⟩ := Option.map_eq_some_iff.mp holds
      rcases now.step_held here stage event careful with same | ⟨resource, rfl⟩
      · exact .inl (stage?_of_caller same stage)
      · -- What it does instead is look, at a factory that has stayed closed.
        exact .inr (now.rejects ((sound.run_grows past).closed shut) holds resource)
    · exact .inr (rejected.step now event)

/-- Over every run, what flights end with and callers are served has been handed out. -/
theorem run_handed {capacity : Nat} {budget : Duration} {start : Factory ρ}
    (created : create capacity budget = .ok start) (events : List (Event ρ)) {build : Nat}
    (given : (∃ flight, Ended (start.run events) flight build) ∨
      ∃ member, (start.run events).stage? member = some (.served build)) :
    ∃ work, (start.run events).builds[build]? = some work ∧ work.status = .ready := by
  obtain ⟨_, _, callers, flights, _⟩ := create_blank created
  -- Everything is newer than a new factory.
  have renewed := (create_sound created).renewed (by simp [flights]) events
  -- So every end and every answer goes back to a build that has handed out a resource.
  rcases given with ⟨flight, flown, found, ended⟩ | ⟨member, stands⟩
  · obtain ⟨_, work, there, _, ready⟩ := renewed.ended found (by simp [flights]) ended
    exact ⟨work, there, ready⟩
  · obtain ⟨caller, here, served⟩ := Option.map_eq_some_iff.mp stands
    have sourced := renewed.answered here (by simp [callers])
    rw [served] at sourced
    obtain ⟨_, work, there, _, ready⟩ := sourced
    exact ⟨work, there, ready⟩

/-- What is built for a closed factory is never served to anybody. -/
theorem run_unserved {capacity : Nat} {budget : Duration} {start : Factory ρ}
    (created : create capacity budget = .ok start) (events : List (Event ρ))
    (shut : (start.run events).phase = .shutdown)
    (builds : (start.run events).stage? driver = some (.building flight build))
    (future : List (Event ρ)) (member : Nat) :
    ((start.run events).run future).stage? member ≠ some (.served build) := by
  have sound := (create_sound created).run events
  obtain ⟨caller, here, stage⟩ := Option.map_eq_some_iff.mp builds
  obtain ⟨work, found, _, _, running⟩ := sound.worked.holds here (by rw [stage]; rfl)
  -- The build is still running, so neither a flight nor a caller has its resource.
  have nobody : ¬ ((∃ flight, Ended (start.run events) flight build) ∨
      ∃ member, (start.run events).stage? member = some (.served build)) := by
    intro given
    obtain ⟨again, there, ready⟩ := run_handed created events given
    rw [found] at there
    cases there
    rw [running] at ready
    cases ready
  -- A closed factory caches nothing, which would be the only way to anybody else.
  have severed : Severed (start.run events) (start.run events) build := ⟨id, id, .inl⟩
  intro served
  rcases (severed.run sound ⟨work, found, .inl shut⟩ future).served served with
    before | ⟨other, overtaken⟩
  · exact nobody (.inr ⟨member, before⟩)
  · exact nobody (.inl ⟨other, overtaken.2⟩)

/-- What becomes of a resource that has just been built for a closed factory. -/
structure Rejects (ready : Factory ρ) (driver flight build : Nat) : Prop where
  /-- Nobody is ever served it. -/
  unserved : ∀ future member, (ready.run future).stage? member ≠ some (.served build)
  /-- Once it was for the driver to look, it has been released, and once only, if and only if the
  driver had not gone away with it. -/
  released_iff : ∀ before resource after,
    (ready.run (before ++ .advance driver resource :: after)).releases build = 1 ↔
      ¬ready.During before (Forsakes build)
  /-- A driver that has not gone away with it is refused when it looks. -/
  told : ∀ before, ¬ready.During before (Forsakes build) → ∀ resource after,
    (ready.run (before ++ .advance driver resource :: after)).stage? driver =
      some (.refused .closed)
  /-- So is every other caller of the flight when it looks after that, unless it goes away. -/
  refused : ∀ before, ¬ready.During before (Forsakes build) → ∀ resource after member,
    (ready.run before).stage? member = some (.joined flight) →
      ∃ stage, (ready.run (before ++ .advance driver resource :: after)).stage? member =
          some stage ∧
        (stage = .refused .closed ∨ stage = .cancelled ∨ stage = .joined flight ∧ ∀ other,
          (ready.run (before ++ .advance driver resource :: after ++
            [.advance member other])).stage? member = some (.refused .closed))
  /-- If the driver goes away with it, it is lost: never cached, never released, and in nobody's
  hands. -/
  forsaken : ∀ future, ready.During future (Forsakes build) →
    Lost (ready.run future) build ∧ (ready.run future).releases build = 0

/-- The look of its driver rejects a resource, whatever happens before and after. -/
theorem Sound.rejected (sound : Sound factory) (shut : factory.phase = .shutdown)
    (checks : factory.stage? driver = some (.checking flight build)) {before : List (Event ρ)}
    (kept : ¬factory.During before (Forsakes build)) (resource : ρ) (after : List (Event ρ)) :
    Rejected (factory.run (before ++ .advance driver resource :: after)) driver flight build := by
  have now := sound.run before
  rw [run_append]
  refine Rejected.run ?_ (now.step _) after
  -- If the driver has looked before, it has found the same.
  rcases sound.run_rejects shut checks before kept with here | rejected
  · exact now.rejects ((sound.run_grows before).closed shut) here resource
  · exact rejected.step now _

/-- From the look of the driver on, the other callers of its flight are barred. -/
theorem Sound.barred (sound : Sound factory) (shut : factory.phase = .shutdown)
    (checks : factory.stage? driver = some (.checking flight build)) {before : List (Event ρ)}
    (kept : ¬factory.During before (Forsakes build)) (resource : ρ) (after : List (Event ρ))
    {member : Nat} (waits : (factory.run before).stage? member = some (.joined flight)) :
    ∃ stage, (factory.run (before ++ .advance driver resource :: after)).stage? member =
        some stage ∧ (stage = .joined flight ∨ stage = .refused .closed ∨ stage = .cancelled) := by
  have now := sound.run before
  rw [run_append]
  rcases sound.run_rejects shut checks before kept with here | rejected
  · -- The look does not move the other caller, which finds the flight closed afterwards.
    have other : driver ≠ member := by
      rintro rfl
      rw [here] at waits
      cases waits
    obtain ⟨caller, there, joined⟩ := Option.map_eq_some_iff.mp waits
    have still : ((factory.run before).step (.advance driver resource)).stage? member =
        some (.joined flight) := by
      have apart : (Event.advance driver resource).actor? ≠ some member :=
        fun acts => other (Option.some.inj acts)
      exact stage?_of_caller ((step_transition _ _).bystander now there apart) joined
    have ended := (now.rejects ((sound.run_grows before).closed shut) here resource).ended
    exact Barred.run (.flight ended) (now.step _) still after
  · exact Barred.run (.flight rejected.ended) now waits _

omit [Releasable ρ] in
/-- What is lost has not been released. -/
theorem Sound.releases_lost (sound : Sound factory) (lost : Lost factory build) :
    factory.releases build = 0 := by
  rw [sound.kept.releases_eq, if_neg fun gone => lost.unsecured (.inr gone)]

/-- A resource that has just been built for a closed factory is rejected. -/
theorem Sound.rejects_late (sound : Sound factory) (shut : factory.phase = .shutdown)
    (checks : factory.stage? driver = some (.checking flight build))
    (unserved : ∀ future member, (factory.run future).stage? member ≠ some (.served build)) :
    Rejects factory driver flight build := by
  have forsaken (future : List (Event ρ)) (during : factory.During future (Forsakes build)) :
      Lost (factory.run future) build ∧ (factory.run future).releases build = 0 := by
    have lost := sound.run_forsaken during
    exact ⟨lost, (sound.run future).releases_lost lost⟩
  refine ⟨unserved, fun before resource after => ?_, fun before kept resource after => ?_,
    fun before kept resource after member waits => ?_, forsaken⟩
  · constructor
    · -- What has been lost before it was for the driver to look is not released later.
      intro released during
      rw [(forsaken _ (during.append _)).2] at released
      cases released
    · intro kept
      have rejected := sound.rejected shut checks kept resource after
      rw [(sound.run _).kept.releases_eq, if_pos rejected.released]
  · exact (sound.rejected shut checks kept resource after).refused
  · have ended := (sound.rejected shut checks kept resource after).ended
    obtain ⟨stage, there, rfl | refused | gone⟩ :=
      sound.barred shut checks kept resource after waits
    · -- A caller that still waits finds the end of its flight with its next look.
      refine ⟨_, there, .inr (.inr ⟨rfl, fun other => ?_⟩)⟩
      rw [run_concat]
      exact ended.advance there other
    · exact ⟨stage, there, .inl refused⟩
    · exact ⟨stage, there, .inr (.inl gone)⟩

end Rejection

/-! ## Every run -/

/-- A later moment in the life of a factory that has been closed. -/
structure Retired [Releasable ρ] (closed now : Factory ρ) : Prop where
  /-- The factory stays closed. -/
  phase : now.phase = .shutdown
  /-- The generation stays. -/
  generation : now.generation = closed.generation
  /-- The cache stays empty. -/
  empty : now.cache.toList = [] ∧ now.stats.cached = 0
  /-- Whoever has come since is refused, or goes away before it is. -/
  newcomers : ∀ member stage, closed.callers.size ≤ member → now.stage? member = some stage →
    stage = .entering ∨ stage = .refused .closed ∨ stage = .cancelled
  /-- Whoever looks at the phase is refused. -/
  refuses : ∀ member resource, now.stage? member = some .entering →
    (now.step (.advance member resource)).stage? member = some (.refused .closed)
  /-- Another refresh or shutdown releases nothing and changes nothing. -/
  ignores : now.invalidate = (0, now) ∧ now.shutdown = (0, now)
  /-- What is built from now on is rejected. -/
  rejects : ∀ driver flight build, now.stage? driver = some (.building flight build) →
    Rejects (now.step (.finish driver .ready)) driver flight build

section Run

variable [Releasable ρ]

/-- After a shutdown a factory is closed, whether or not it was before. -/
theorem step_shutdown (factory : Factory ρ) : (factory.step .shutdown).phase = .shutdown := by
  cases step_turn factory .shutdown with
  | stays _ phase without =>
    have shut := without.resolve_right (by simp [Event.isShutdown])
    simpa [shut] using phase
  | closes _ _ phase => exact phase

/-- A caller whose builder hands out a resource is about to look whether it is still wanted. -/
theorem finish_ready {factory : Factory ρ} {driver flight build : Nat}
    (builds : factory.stage? driver = some (.building flight build)) :
    (factory.step (.finish driver .ready)).stage? driver = some (.checking flight build) := by
  obtain ⟨⟨id, stage⟩, here, rfl⟩ := Option.map_eq_some_iff.mp builds
  -- The lifecycle is not looked at before the next stretch.
  have hands : factory.step (.finish driver .ready) =
      factory.finish driver flight build id .ready := by
    simp only [Factory.step, here]
  rw [hands, finish, stage?, move_callers]
  exact congrArg (Option.map (·.stage)) (getElem?_modify_self here _)

/-- What is left of a factory after its shutdown, at every later moment. -/
theorem run_retired {capacity : Nat} {budget : Duration} {start : Factory ρ}
    (created : create capacity budget = .ok start) (past future : List (Event ρ)) :
    Retired ((start.run past).step .shutdown)
      (((start.run past).step .shutdown).run future) := by
  have sound := ((create_sound created).run past).step .shutdown
  have closed := step_shutdown (start.run past)
  have now := sound.run future
  -- A factory that is closed stays so, and its cache stays empty.
  have shut := (sound.run_grows future).closed closed
  have empty := now.kept.closed shut
  refine ⟨shut, ?_, ⟨empty, ?_⟩, ?_, ?_, ⟨invalidate_closed shut, shutdown_closed shut⟩, ?_⟩
  · rw [run_generation, if_pos closed, Nat.add_zero]
  · show (Factory.cache _).nodes.size = 0
    rw [← now.kept.wellFormed.length_toList, empty]
    rfl
  · intro member stage new stands
    exact sound.newcomers closed future new stands
  · intro member resource stands
    exact advance_shut shut stands resource
  · intro driver flight build builds
    have run : ((start.run past).step .shutdown).run future =
        start.run (past ++ .shutdown :: future) :=
      (run_append start past (.shutdown :: future)).symm
    -- The build ends now, and from there on its driver can only have it rejected.
    have next := now.step (.finish driver .ready)
    refine next.rejects_late ((now.step_grows _).closed shut) (finish_ready builds) ?_
    intro later member
    rw [run] at shut builds ⊢
    exact run_unserved created _ shut builds (.finish driver .ready :: later) member

/--
The phases over every run of a factory, and how a shutdown ends them.

Nobody meets a factory amid a refresh, and none becomes new again.
The generation counts the refreshes before the first shutdown, and that one; it never goes down.
From a shutdown on the factory is retired: whoever comes is refused, nothing is cached or served.
What is built from then on is released, unless the caller that drove the build goes away with it.
-/
theorem run_lifecycle {capacity : Nat} {budget : Duration} {start : Factory ρ}
    (created : create capacity budget = .ok start) (past : List (Event ρ)) :
    (start.run past).phase ≠ .invalidating ∧ (start.run past).stats.phase ≠ .invalidating ∧
      (start.run past).generation = resets past ∧
      ∀ future, (start.run past).generation ≤ ((start.run past).run future).generation ∧
        ((start.run past).phase ≠ .uninitialized →
          ((start.run past).run future).phase ≠ .uninitialized) ∧
        Retired ((start.run past).step .shutdown)
          (((start.run past).step .shutdown).run future) := by
  obtain ⟨phase, generation, _⟩ := create_blank created
  have rests : (start.run past).phase ≠ .invalidating :=
    (run_phase start past).1 (by rw [phase]; simp)
  refine ⟨rests, rests, ?_, fun future => ⟨?_, ?_, ?_⟩⟩
  · rw [run_generation, generation, if_neg (by rw [phase]; simp), Nat.zero_add]
  · exact (((create_sound created).run past).run_grows future).generation
  · exact (run_phase (start.run past) future).2
  · exact run_retired created past future

open Evaluation in
/-- A resource that comes after the shutdown is released once, unless its driver takes it away. -/
theorem run_lifecycle_shutdown :
    ∃ (start : Factory Repository) (resource : Repository),
      create 1 { seconds := 30, nanos := 0 } = .ok start ∧
        let shared := start.run (sharing resource.id resource)
        let ready := shared.run [.shutdown, .finish 0 .ready]
        shared.stage? 0 = some (.building 0 0) ∧ shared.stage? 1 = some (.joined 0) ∧
          (shared.step .shutdown).generation = 1 ∧
          (ready.run [.advance 0 resource]).releases 0 = 1 ∧
          (ready.run [.advance 0 resource]).stage? 0 = some (.refused .closed) ∧
          (ready.run [.advance 0 resource, .advance 1 resource]).stage? 1 =
            some (.refused .closed) ∧
          Lost (ready.run [.cancel 0]) 0 ∧ (ready.run [.cancel 0]).releases 0 = 0 := by
  obtain ⟨start, created⟩ :
      ∃ start : Factory Repository, create 1 { seconds := 30, nanos := 0 } = .ok start := ⟨_, rfl⟩
  refine ⟨start, ⟨⟨"a.git"⟩, "/srv/a.git"⟩, created, ?_⟩
  generalize (⟨⟨"a.git"⟩, "/srv/a.git"⟩ : Repository) = resource
  dsimp only
  obtain ⟨_, _, shares⟩ := run_sharing created resource.id resource
  have counted := (run_lifecycle created (sharing resource.id resource ++ [.shutdown])).2.2.1
  have retired := ((run_lifecycle created (sharing resource.id resource)).2.2.2 []).2.2
  rw [run_concat] at counted
  have before : (start.run (sharing resource.id resource)).callers =
        #[⟨resource.id, .building 0 0⟩, ⟨resource.id, .joined 0⟩] ∧
      ((start.run (sharing resource.id resource)).run [.shutdown]).callers =
        #[⟨resource.id, .building 0 0⟩, ⟨resource.id, .joined 0⟩] ∧
      ((start.run (sharing resource.id resource)).run [.shutdown, .finish 0 .ready]).callers =
        #[⟨resource.id, .checking 0 0⟩, ⟨resource.id, .joined 0⟩] ∧
      ((start.run (sharing resource.id resource)).run
          [.shutdown, .finish 0 .ready, .advance 0 resource]).callers =
        #[⟨resource.id, .refused .closed⟩, ⟨resource.id, .joined 0⟩] := by
    rw [shares]
    cases created
    simp
  generalize start.run (sharing resource.id resource) = shared at counted retired before ⊢
  obtain ⟨building, closed, checking, looked⟩ := before
  have rejects : Rejects (shared.run [.shutdown, .finish 0 .ready]) 0 0 0 :=
    retired.rejects 0 0 0 (by rw [stage?]; exact congrArg (·[0]?.map (·.stage)) closed)
  generalize ends : shared.run [.shutdown, .finish 0 .ready] = ready at rejects checking ⊢
  have kept : ¬ready.During [] (Forsakes 0) := by
    rintro ⟨past, event, future, cut, _⟩
    simp at cut
  have stands : ready.stage? 0 = some (.checking 0 0) ∧ ready.stage? 1 = some (.joined 0) := by
    rw [stage?, stage?, checking]
    exact ⟨rfl, rfl⟩
  have gone : ready.During ([] ++ [.cancel 0]) (Forsakes 0) := .last ⟨0, 0, rfl, stands.1⟩
  refine ⟨?_, ?_, counted, (rejects.released_iff [] resource []).mpr kept,
    rejects.told [] kept resource [], ?_, rejects.forsaken [.cancel 0] gone⟩
  · rw [stage?, building]
    rfl
  · rw [stage?, building]
    rfl
  · -- The second caller still waits when the first one has looked.
    obtain ⟨stage, there, answer⟩ := rejects.refused [] kept resource [] 1 stands.2
    have waits : (ready.run [.advance 0 resource]).stage? 1 = some (.joined 0) := by
      rw [← ends, ← run_append, stage?, List.cons_append, List.cons_append, List.nil_append, looked]
      rfl
    rw [List.nil_append, waits] at there
    cases there
    rcases answer with refused | gone | ⟨_, looks⟩
    · cases refused
    · cases gone
    · exact looks resource

end Run

end PackGate.Factory
