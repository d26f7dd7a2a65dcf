import PackGate.Proofs.Factory.Ledger

/-! What holds of a factory at every moment of every run. -/

namespace PackGate.Factory

variable {ρ : Type}

/-- All parts of a factory agree with each other. -/
structure Sound (factory : Factory ρ) : Prop where
  /-- Callers, flights and table agree. -/
  crewed : Crewed factory
  /-- Builds and the callers that drive them agree. -/
  worked : Worked factory
  /-- Cache, releases and builds agree. -/
  kept : Kept factory

/-- A new factory is its new cache; nothing else has happened in it. -/
theorem create_made {capacity : Nat} {budget : Duration} {start : Factory ρ}
    (created : create capacity budget = .ok start) :
    ∃ cache, Cache.Lru.create layout capacity = .ok cache ∧ start = { budget, cache } := by
  unfold create at created
  cases made : (Cache.Lru.create layout capacity :
      Except Cache.CreateFault (Cache.Lru Identifier Nat)) with
  | error fault =>
    rw [made] at created
    cases created
  | ok cache =>
    rw [made] at created
    cases created
    exact ⟨cache, rfl, rfl⟩

/-- A new factory is uninitialized, of the first generation, and nothing has happened in it. -/
theorem create_blank {capacity : Nat} {budget : Duration} {start : Factory ρ}
    (created : create capacity budget = .ok start) :
    start.phase = .uninitialized ∧ start.generation = 0 ∧ start.callers = #[] ∧
      start.flights = #[] ∧ start.builds = #[] := by
  obtain ⟨_, _, rfl⟩ := create_made created
  exact ⟨rfl, rfl, rfl, rfl, rfl⟩

/-- A new factory is sound. -/
theorem create_sound {capacity : Nat} {budget : Duration} {start : Factory ρ}
    (created : create capacity budget = .ok start) : Sound start := by
  -- There are no callers, flights, builds or releases yet, and nothing is cached.
  obtain ⟨cache, made, rfl⟩ := create_made created
  obtain ⟨wellFormed, list⟩ := Cache.Lru.create_spec made
  have empty : cache.toList = [] := congrArg Cache.Recency.entries list
  refine ⟨⟨?_, ?_, ?_, ?_, ?_, ?_, ?_⟩, ⟨?_, ?_, ?_⟩, wellFormed, ?_, ?_, ?_, ?_, fun _ => empty⟩
  all_goals simp [empty]

section Run

variable [Releasable ρ] {factory : Factory ρ}

/-- Every transition keeps a factory sound. -/
theorem Sound.transition (sound : Sound factory) {event : Event ρ} {after : Factory ρ}
    (transition : Transition factory event after) : Sound after :=
  -- Each part is kept with the help of the parts before it.
  ⟨sound.crewed.transition transition, sound.worked.transition sound.crewed transition,
    sound.kept.transition sound.crewed sound.worked transition⟩

/-- Every transition is growth. -/
theorem Sound.grows (sound : Sound factory) {event : Event ρ} {after : Factory ρ}
    (transition : Transition factory event after) : Grows factory after :=
  Grows.transition sound.crewed sound.worked transition

/-- Every step keeps a factory sound. -/
theorem Sound.step (sound : Sound factory) (event : Event ρ) : Sound (factory.step event) :=
  sound.transition (step_transition factory event)

/-- Every run keeps a factory sound. -/
theorem Sound.run (sound : Sound factory) (events : List (Event ρ)) :
    Sound (factory.run events) := by
  -- The induction is on the events, so each step starts from a sound factory.
  induction events generalizing factory with
  | nil => exact sound
  | cons event rest ih => exact ih (sound.step event)

/-- Every step is growth. -/
theorem Sound.step_grows (sound : Sound factory) (event : Event ρ) :
    Grows factory (factory.step event) :=
  sound.grows (step_transition factory event)

/-- Every run is growth. -/
theorem Sound.run_grows (sound : Sound factory) (events : List (Event ρ)) :
    Grows factory (factory.run events) := by
  induction events generalizing factory with
  | nil => exact .refl factory
  | cons event rest ih => exact (sound.step_grows event).trans (ih (sound.step event))

/-! ## Moments of a run -/

/-- A run can be cut at any moment. -/
theorem run_append (factory : Factory ρ) (past future : List (Event ρ)) :
    factory.run (past ++ future) = (factory.run past).run future :=
  List.foldl_append

/-- The last event of a run is one more step. -/
theorem run_concat (factory : Factory ρ) (past : List (Event ρ)) (event : Event ρ) :
    factory.run (past ++ [event]) = (factory.run past).step event :=
  run_append factory past [event]

/-- At some moment of a run something is true of the state and of the event that comes next. -/
def During (factory : Factory ρ) (events : List (Event ρ))
    (happens : Factory ρ → Event ρ → Prop) : Prop :=
  ∃ past event future, events = past ++ event :: future ∧ happens (factory.run past) event

/-- What happens during a run happens during a longer one. -/
theorem During.append {events : List (Event ρ)} {happens : Factory ρ → Event ρ → Prop}
    (during : factory.During events happens) (more : List (Event ρ)) :
    factory.During (events ++ more) happens := by
  -- The moment stays where it is, with more events behind it.
  obtain ⟨past, event, future, rfl, happened⟩ := during
  exact ⟨past, event, future ++ more, by simp, happened⟩

/-- What the last event of a run does happens during the run. -/
theorem During.last {events : List (Event ρ)} {happens : Factory ρ → Event ρ → Prop}
    {event : Event ρ} (happened : happens (factory.run events) event) :
    factory.During (events ++ [event]) happens :=
  ⟨events, event, [], rfl, happened⟩

/-- What happens during a run happens before its last event or with it. -/
theorem During.concat_cases {events : List (Event ρ)} {happens : Factory ρ → Event ρ → Prop}
    {last : Event ρ} (during : factory.During (events ++ [last]) happens) :
    factory.During events happens ∨ happens (factory.run events) last := by
  obtain ⟨past, event, future, cut, happened⟩ := during
  -- The event is the last one exactly if nothing comes behind it.
  rcases List.eq_nil_or_concat future with rfl | ⟨front, final, rfl⟩
  · obtain ⟨rfl, same⟩ := List.append_inj' cut rfl
    cases same
    exact .inr happened
  · rw [List.concat_eq_append, ← List.cons_append, ← List.append_assoc] at cut
    obtain ⟨rfl, _⟩ := List.append_inj' cut rfl
    exact .inl ⟨past, event, front, rfl, happened⟩

end Run

end PackGate.Factory
