import PackGate.Proofs.Factory.Closing

/-! How often a caller starts over: at most as often as there are refreshes while it is there. -/

namespace PackGate.Factory

variable {ρ : Type}

/-! ## What a caller does -/

/-- A caller that is about to look at the phase. -/
def Stage.enters : Stage → Bool
  | .entering => true
  | .activating | .joined _ | .building _ _ | .checking _ _ | .served _ | .refused _ | .cancelled =>
    false

/-- The flight that a caller is on. -/
def flightOf? (factory : Factory ρ) (member : Nat) : Option Nat :=
  (factory.stage? member).bind Stage.flight?

/-- An event lets a caller run. -/
def Event.lets (member : Nat) : Event ρ → Bool
  | .advance caller _ => caller == member
  | .call _ | .finish _ _ | .cancel _ | .activate | .invalidate | .shutdown => false

/-- Only an event about a caller lets it run. -/
theorem Event.lets_of_actor? {event : Event ρ} {member : Nat}
    (other : event.actor? ≠ some member) : event.lets member = false := by
  cases event with
  | advance caller =>
    have apart : caller ≠ member := fun same => other (congrArg some same)
    simpa [Event.lets] using apart
  | _ => rfl

section Marks

variable [Releasable ρ] (member : Nat) (factory : Factory ρ) (event : Event ρ)

/-- A caller looks at the phase, which is one pass of it. -/
def passes : Bool :=
  event.lets member && (factory.stage? member).any Stage.enters

/-- A caller makes a pass in which it need not activate the factory, and reads the generation. -/
def reads : Bool :=
  factory.passes member event && factory.phase != .uninitialized

/-- A caller joins a flight. -/
def joins : Bool :=
  (factory.stage? member).any Stage.enters && ((factory.step event).flightOf? member).isSome

/-- A caller is sent back by its flight. -/
def returns : Bool :=
  (factory.flightOf? member).isSome && ((factory.step event).stage? member).any Stage.enters

end Marks

section Moments

variable [Releasable ρ]

/-- The generations at those moments of a run that are marked. -/
def moments (factory : Factory ρ) (marked : Factory ρ → Event ρ → Bool) : List (Event ρ) → List Nat
  | [] => []
  | event :: rest =>
    let later := (factory.step event).moments marked rest
    if marked factory event then factory.generation :: later else later

variable {factory : Factory ρ} {marked : Factory ρ → Event ρ → Bool} {events : List (Event ρ)}

end Moments

/-! ## One step of a caller -/

section Leg

variable [Releasable ρ]

/-- All that can become of a caller in one step, as far as its passes go. -/
inductive Leg (factory : Factory ρ) (event : Event ρ) (member : Nat) : Stage → Stage → Prop where
  /-- It stays where it is; it does not run if it is about to look at the phase. -/
  | rests {stage : Stage} (idle : stage = .entering → event.lets member = false) :
      Leg factory event member stage stage
  /-- It finds the factory new. -/
  | opens (new : factory.phase = .uninitialized) : Leg factory event member .entering .activating
  /-- It has made the factory serve. -/
  | serves (begun : (factory.step event).phase ≠ .uninitialized) :
      Leg factory event member .activating .entering
  /-- It has its answer, or goes away. -/
  | ends {stage later : Stage} (isOver : later.isOver = true) : Leg factory event member stage later
  /-- It joins a flight that is of no older generation than the factory. -/
  | joins {flight : Nat} {flown : Flight}
      (found : (factory.step event).flights[flight]? = some flown)
      (current : (factory.step event).generation ≤ flown.generation)
      (begun : factory.phase ≠ .uninitialized) : Leg factory event member .entering (.joined flight)
  /-- It begins to drive its flight, or hands on what its builder has made. -/
  | drives {stage later : Stage} {flight : Nat} (on : stage.flight? = some flight)
      (still : later.flight? = some flight) : Leg factory event member stage later
  /-- Its flight sends it back, since the flight is of an older generation. -/
  | returns {stage : Stage} {flight : Nat} {flown : Flight} (on : stage.flight? = some flight)
      (found : factory.flights[flight]? = some flown)
      (older : flown.generation < factory.generation) : Leg factory event member stage .entering

/-- A flight that sends its callers back is of an older generation. -/
def Dated (factory : Factory ρ) : Prop :=
  ∀ {flight : Nat}, Settled factory flight .stale →
    ∃ flown, factory.flights[flight]? = some flown ∧ flown.generation < factory.generation

variable {factory : Factory ρ} {event : Event ρ} {member : Nat}

/-- After a step, too, only flights of older generations send their callers back. -/
theorem Dated.step (dated : Dated factory) (sound : Sound factory) (event : Event ρ) :
    Dated (factory.step event) := by
  intro flight settled
  rcases (step_transition factory event).settles sound settled with before | ⟨flown, found, reason⟩
  · -- What is of an older generation once is so ever after.
    obtain ⟨flown, found, older⟩ := dated before
    have grows := sound.step_grows event
    obtain ⟨later, there, continues⟩ := grows.flights flight flown found
    refine ⟨later, there, ?_⟩
    rw [continues.generation]
    exact Nat.lt_of_lt_of_le older grows.generation
  · cases reason with
    | stale older => exact ⟨flown, found, older⟩

/-- Only a refresh and the shutdown begin a generation. -/
theorem step_generation (plain : event.isRefresh = false ∧ event.isShutdown = false) :
    (factory.step event).generation = factory.generation := by
  cases step_turn factory event with
  | stays generation => exact generation
  | refreshes => cases plain.1
  | closes => cases plain.2

/-- What a caller does runs under one generation. -/
theorem step_generation_of_actor (acts : event.actor? = some member) :
    (factory.step event).generation = factory.generation := by
  -- Callers advance, finish and go away, and none of this is a reset.
  refine step_generation ?_
  cases event with
  | advance | finish | cancel => exact ⟨rfl, rfl⟩
  | _ => cases acts

/-- A caller that looks at the phase activates the factory, is answered, or joins a flight. -/
theorem leg_entering {caller : Caller} (here : factory.callers[member]? = some caller)
    (stage : caller.stage = .entering) (resource : ρ) :
    ∃ later, (factory.step (.advance member resource)).stage? member = some later ∧
      Leg factory (.advance member resource) member .entering later := by
  have looks : factory.step (.advance member resource) = factory.enter member caller.id := by
    simp only [step, advance, here, stage]
  -- Where a caller has been moved to is where it stands.
  have stands {between : Factory ρ} (same : between.callers = factory.callers) (later : Stage) :
      (between.move member later).stage? member = some later := by
    rw [stage?, move_callers, same, getElem?_modify_self here]
    rfl
  -- The phase decides which way the caller takes, and after a miss the table does.
  cases phase : factory.phase with
  | uninitialized =>
    refine ⟨.activating, ?_, .opens phase⟩
    rw [looks, enter, phase]
    exact stands rfl _
  | shutdown =>
    refine ⟨.refused .closed, ?_, .ends rfl⟩
    rw [looks, enter, phase]
    exact stands rfl _
  | active | invalidating =>
    cases answer : factory.cache.get caller.id with
    | mk hit cache =>
      cases hit with
      | some build =>
        refine ⟨.served build, ?_, .ends rfl⟩
        rw [looks, enter, phase, answer]
        exact stands rfl _
      | none =>
        -- After a miss the caller joins a flight under the generation that it has read.
        have joins : ∃ between : Factory ρ, between.callers = factory.callers ∧
            factory.step (.advance member resource) = between.join member caller.id := by
          rw [looks, enter, phase, answer]
          refine ⟨_, ?_, rfl⟩
          rfl
        obtain ⟨between, same, joins⟩ := joins
        obtain ⟨flight, flown, callers, found, _, current⟩ := join_flight between member caller.id
        have seats := join_frame between member caller.id
        rw [← joins] at callers found
        refine ⟨.joined flight, ?_, .joins found ?_ (by rw [phase]; exact Phase.noConfusion)⟩
        · rw [stage?, callers, same, getElem?_modify_self here]
          rfl
        · rw [joins, seats.generation]
          exact current

/-- A caller on a flight stays on it, has its answer, goes away, or is sent back. -/
theorem Sound.leg_flight (sound : Sound factory) (dated : Dated (factory.step event))
    {caller : Caller} {flight : Nat} (here : factory.callers[member]? = some caller)
    (on : caller.stage.flight? = some flight) :
    ∃ later, (factory.step event).stage? member = some later ∧
      Leg factory event member caller.stage later := by
  rcases (step_transition factory event).moved sound here with same | ⟨acts, stage, moved, passage⟩
  · refine ⟨caller.stage, stage?_of_caller same rfl, .rests fun entering => ?_⟩
    rw [entering] at on
    cases on
  · -- Of all the ways in which a caller can move, only those from a flight are left.
    refine ⟨stage, stage?_of_caller moved rfl, ?_⟩
    rcases passage.of_flight on with still | rfl | ⟨_, attempt, found, ended, rfl⟩
    · exact .drives on still
    · exact .ends rfl
    · cases attempt with
      | ready build => exact .ends rfl
      | failed error => exact .ends rfl
      | stale =>
        -- The flight was of the same older generation before the caller looked at its end.
        obtain ⟨flown, there, older⟩ := dated ⟨_, found, ended⟩
        obtain ⟨earlier, flies, _⟩ := sound.crewed.own here on
        obtain ⟨later, same, continues⟩ := (sound.step_grows event).flights _ earlier flies
        rw [there] at same
        cases same
        rw [continues.generation, step_generation_of_actor acts] at older
        exact .returns on flies older

/-- A caller that activates the factory goes on to look at the phase. -/
theorem leg_activating {caller : Caller} (here : factory.callers[member]? = some caller)
    (stage : caller.stage = .activating) (resource : ρ) :
    ∃ later, (factory.step (.advance member resource)).stage? member = some later ∧
      Leg factory (.advance member resource) member .activating later := by
  have serves : factory.step (.advance member resource) =
      factory.activate.move member .entering := by
    simp only [step, advance, here, stage]
  -- Whoever activated the factory first, it serves afterwards.
  have touched := Touched.activate factory
  refine ⟨.entering, ?_, .serves ?_⟩
  · rw [serves, stage?, move_callers, touched.callers, getElem?_modify_self here]
    rfl
  · rw [serves]
    show factory.activate.phase ≠ .uninitialized
    unfold activate
    split
    · exact Phase.noConfusion
    · assumption

/-- In every step a caller goes one leg of its way. -/
theorem Sound.leg (sound : Sound factory) (dated : Dated factory) {stage : Stage}
    (stands : factory.stage? member = some stage) (event : Event ρ) :
    ∃ later, (factory.step event).stage? member = some later ∧
      Leg factory event member stage later := by
  -- A caller that is done rests, one on a flight is moved by it, and any other one wanders.
  by_cases isOver : stage.isOver = true
  · refine ⟨stage, sound.step_over stands isOver event, .rests ?_⟩
    rintro rfl
    cases isOver
  obtain ⟨⟨id, stage⟩, here, rfl⟩ := Option.map_eq_some_iff.mp stands
  cases on : stage.flight? with
  | some flight => exact sound.leg_flight (dated.step sound event) here on
  | none =>
    by_cases acts : event.actor? = some member
    · -- The caller wanders: it runs on, or it goes away.
      cases event with
      | advance _ resource =>
        cases acts
        cases stage with
        | entering => exact leg_entering here rfl resource
        | activating => exact leg_activating here rfl resource
        | joined | building | checking => cases on
        | served | refused | cancelled => exact absurd rfl isOver
      | finish _ outcome =>
        cases acts
        have idle : factory.step (.finish member outcome) = factory := by
          cases stage with
          | building => cases on
          | _ => simp only [Factory.step, here]
        exact ⟨stage, by rw [idle]; exact stands, .rests fun _ => rfl⟩
      | cancel =>
        cases acts
        refine ⟨.cancelled, ?_, .ends rfl⟩
        cases stage with
        | entering | activating =>
          simp only [Factory.step, cancel, stands]
          rw [stage?, move_callers, getElem?_modify_self here]
          rfl
        | joined | building | checking => cases on
        | served | refused | cancelled => exact absurd rfl isOver
      | _ => cases acts
    · -- An event about somebody else leaves the caller where it is.
      refine ⟨stage, ?_, .rests fun _ => ?_⟩
      · exact stage?_of_caller ((step_transition factory event).bystander sound here acts) rfl
      · exact Event.lets_of_actor? acts

/-! ## What a caller has in store -/

/-- The passes that a caller at a stage may make without being sent back. -/
def Stage.ahead (new : Nat) : Stage → Nat
  | .entering => 1 + new
  | .activating => 1
  | .joined _ | .building _ _ | .checking _ _ => new
  | .served _ | .refused _ | .cancelled => 0

/-- A caller is there, in a factory all parts of which agree. -/
structure Present (factory : Factory ρ) (member : Nat) : Prop where
  /-- All parts agree. -/
  sound : Sound factory
  /-- Only older flights send their callers back. -/
  dated : Dated factory
  /-- The caller has come, and it is on a flight only if the factory is not new. -/
  here : ∃ stage, factory.stage? member = some stage ∧
    ∀ flight, stage.flight? = some flight → factory.phase ≠ .uninitialized

/-- A caller that has come is there ever after. -/
theorem Present.step (present : Present factory member) (event : Event ρ) :
    Present (factory.step event) member := by
  obtain ⟨sound, dated, stage, stands, begun⟩ := present
  obtain ⟨later, after, leg⟩ := sound.leg dated stands event
  refine ⟨sound.step event, dated.step sound event, later, after, fun flight on => ?_⟩
  -- No factory becomes new again, so only a caller that has just joined is of interest.
  refine (step_turn factory event).begun ?_
  cases leg with
  | rests => exact begun flight on
  | joins _ _ active => exact active
  | drives before => exact begun _ before
  | opens => cases on
  | serves => cases on
  | ends isOver =>
    rw [Stage.flight?_of_isOver isOver] at on
    cases on
  | returns => cases on

/-- A caller that has come is there after every run. -/
theorem Present.run (present : Present factory member) (events : List (Event ρ)) :
    Present (factory.run events) member := by
  induction events generalizing factory with
  | nil => exact present
  | cons event rest ih => exact ih (present.step event)

/-- The flight of a caller is there before a step and after it, of the same generation. -/
theorem Sound.flies (sound : Sound factory) {stage : Stage} {flight : Nat}
    (stands : factory.stage? member = some stage) (on : stage.flight? = some flight)
    (event : Event ρ) :
    ∃ flown later, factory.flights[flight]? = some flown ∧
      (factory.step event).flights[flight]? = some later ∧
        later.generation = flown.generation := by
  obtain ⟨caller, here, rfl⟩ := Option.map_eq_some_iff.mp stands
  obtain ⟨flown, found, _⟩ := sound.crewed.own here on
  obtain ⟨later, there, continues⟩ := (sound.step_grows event).flights flight flown found
  exact ⟨flown, later, found, there, continues.generation⟩

end Leg

end PackGate.Factory
