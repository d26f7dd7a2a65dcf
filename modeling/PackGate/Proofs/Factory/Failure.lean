import PackGate.Proofs.Factory.Arrival

/-! A build that fails: its error is for the callers on its flight, and nothing else comes of it. -/

namespace PackGate.Factory

variable {ρ : Type}

/-- Cache, releases, generation and phase are the same. -/
structure Unmoved (before after : Factory ρ) : Prop where
  /-- The same entries are cached, in the same order. -/
  cache : after.cache = before.cache
  /-- The same release hooks have run. -/
  released : after.released = before.released
  /-- The generation is the same. -/
  generation : after.generation = before.generation
  /-- The phase is the same. -/
  phase : after.phase = before.phase

/-- Builds, counters and log are no part of it. -/
theorem Unmoved.noted (factory : Factory ρ) (builds : Array (Build ρ)) (metrics : Metrics)
    (journal : List Notice) : Unmoved factory { factory with builds, metrics, journal } :=
  ⟨rfl, rfl, rfl, rfl⟩

variable [Releasable ρ] {factory : Factory ρ} {events : List (Event ρ)}
  {driver flight build : Nat} {id : Identifier} {outcome : Outcome} {error : FactoryError}

/-! ## The step -/

/-- A caller on a flight that has ended waits until it looks, and takes the end then. -/
theorem Settled.run {member : Nat} {attempt : Attempt} (settled : Settled factory flight attempt)
    (sound : Sound factory) (isOver : attempt.stage.isOver = true)
    (stands : factory.stage? member = some (.joined flight)) (stays : .cancel member ∉ events) :
    (factory.run events).stage? member = some (.joined flight) ∨
      (factory.run events).stage? member = some attempt.stage := by
  -- The induction is on the events; of the caller's own ones only a look moves it.
  induction events generalizing factory with
  | nil => exact .inl stands
  | cons event rest ih =>
    have next := sound.step event
    have later := settled.grows (sound.step_grows event)
    rw [List.mem_cons, not_or] at stays
    obtain ⟨⟨name, _⟩, here, rfl⟩ := Option.map_eq_some_iff.mp stands
    by_cases acts : event.actor? = some member
    · cases event with
      | advance _ resource =>
        cases acts
        exact .inr (next.run_over (settled.advance stands resource) isOver rest)
      -- A caller that waits has no builder whose work could end.
      | finish _ outcome =>
        cases acts
        have idle : factory.step (.finish member outcome) = factory := by
          simp only [Factory.step, here]
        exact ih later next (by rw [idle]; exact stands) stays.2
      | cancel =>
        cases acts
        exact absurd rfl stays.1
      | _ => cases acts
    · refine ih later next ?_ stays.2
      exact stage?_of_caller ((step_transition factory event).bystander sound here acts) rfl

omit [Releasable ρ] in
/-- The flight of a running build is open. -/
theorem Sound.opened (sound : Sound factory)
    (builds : factory.callers[driver]? = some ⟨id, .building flight build⟩) (attempt : Attempt) :
    ¬Settled factory flight attempt := by
  rintro ⟨flown, found, ended⟩
  -- A flight has a driver only as long as it is open.
  have opened := (sound.crewed.driver builds rfl rfl found).1
  rw [opened] at ended
  cases ended

/-- No caller that comes later is told the error of a build. -/
structure Forgets (now : Factory ρ) (build : Nat) : Prop where
  /-- A resource is cached while the caller is there.
  It was cached when the caller came, or its call of the builder was not over; the driver may
  have had it in hand. -/
  served : ∀ later (member : Nat) caller resource, now.callers.size ≤ member →
    (now.run later).callers[member]? = some caller → caller.stage = .served resource →
      (∃ front back, later = front ++ back ∧
        (caller.id, resource) ∈ (now.run front).cache.toList) ∧
      ((caller.id, resource) ∈ now.cache.toList ∨ Held now resource ∨ Unfinished now resource)
  /-- An error is that the factory is closed, or that of a call which was not over. -/
  refused : ∀ later (member : Nat) caller error, now.callers.size ≤ member →
    (now.run later).callers[member]? = some caller → caller.stage = .refused error →
      error = .closed ∧ (now.run later).phase = .shutdown ∨
        ∃ other, other ≠ build ∧ Unfinished now other ∧
          now.Told later member caller.id other error

/-- A build that is over is forgotten: whoever comes is answered with what is younger. -/
theorem Sound.forgets (sound : Sound factory) {work : Build ρ}
    (found : factory.builds[build]? = some work) (stopped : work.status ≠ .running) :
    Forgets factory build := by
  refine ⟨fun later member caller resource new there served => ?_,
    fun later member caller error new there refused => ?_⟩
  · have since := sound.since there new (by rw [served]; rfl) (by rw [served]; simp)
    rw [served] at since
    cases since with
    | cached front back cut entry =>
      exact ⟨⟨front, back, cut, entry⟩, sound.cached_source entry⟩
  · have since := sound.since there new (by rw [refused]; rfl) (by rw [refused]; simp)
    rw [refused] at since
    cases since with
    | closed shut => exact .inl ⟨rfl, shut⟩
    | @told other _ unfinished told =>
      refine .inr ⟨other, ?_, unfinished, told⟩
      rintro rfl
      exact stopped (unfinished work found)

/-- What comes of a build that ends with an error after some events of a run. -/
structure Failure (start : Factory ρ) (past : List (Event ρ)) (driver flight build : Nat)
    (id : Identifier) (outcome : Outcome) (error : FactoryError) : Prop where
  /-- The step leaves cache, releases, generation and phase as they are. -/
  unmoved : Unmoved (start.run past) ((start.run past).step (.finish driver outcome))
  /-- Whoever has ever been on the flight is on it when the build ends, or has gone away. -/
  stayed : ∀ front back (member : Nat), past = front ++ back →
    Boarded (start.run front) member flight →
      Boarded (start.run past) member flight ∨ (start.run past).stage? member = some .cancelled
  /-- Whoever is on the flight asks for the identifier, and is told the error unless it goes away:
  the driver at once, everybody else with its next look. -/
  told : ∀ member, Boarded (start.run past) member flight →
    (∃ caller, (start.run past).callers[member]? = some caller ∧ caller.id = id) ∧
      ∀ future, .cancel member ∉ future →
        (((start.run past).step (.finish driver outcome)).run future).stage? member =
            some (.refused error) ∨
          member ≠ driver ∧
            (((start.run past).step (.finish driver outcome)).run future).stage? member =
              some (.joined flight) ∧
            ∀ resource, ((((start.run past).step (.finish driver outcome)).run future).step
              (.advance member resource)).stage? member = some (.refused error)
  /-- Nobody else is answered by the flight, at whatever time, and nobody with anything else. -/
  only : ∀ future member answer,
    start.During (past ++ .finish driver outcome :: future)
      (fun now event => now.Answers event flight member answer) →
        Boarded (start.run past) member flight ∧ answer = .refused error
  /-- Whoever comes at any later moment is answered without the build. -/
  forgets : ∀ future,
    Forgets (((start.run past).step (.finish driver outcome)).run future) build

end PackGate.Factory
