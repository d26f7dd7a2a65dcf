import PackGate.Proofs.Factory.Crew

/-! Which build a caller has in hand, and what a factory never takes back. -/

namespace PackGate.Factory

variable {ρ : Type}

/-! ## Growth -/

/-- Every element of an array is still there and stands in a relation to what it was. -/
def Extends {α : Type} (continues : α → α → Prop) (before after : Array α) : Prop :=
  ∀ (index : Nat) (item : α), before[index]? = some item →
    ∃ later, after[index]? = some later ∧ continues item later

section Extends

variable {α : Type} {continues : α → α → Prop}

/-- An unchanged array extends itself. -/
theorem Extends.of_eq {before after : Array α} (refl : ∀ item, continues item item)
    (same : after = before) : Extends continues before after := by
  intro index item found
  exact ⟨item, by rw [same]; exact found, refl item⟩

/-- An array that extends an extension extends the first array. -/
theorem Extends.trans {first second third : Array α}
    (chain : ∀ one two three, continues one two → continues two three → continues one three)
    (early : Extends continues first second) (late : Extends continues second third) :
    Extends continues first third := by
  intro index item found
  -- The element is still there in the middle, and from there at the end.
  obtain ⟨middle, there, one⟩ := early index item found
  obtain ⟨last, here, two⟩ := late index middle there
  exact ⟨last, here, chain _ _ _ one two⟩

/-- An extension is at least as long. -/
theorem Extends.size_le {before after : Array α} (longer : Extends continues before after) :
    before.size ≤ after.size := by
  -- Otherwise the first element beyond the extension would be in it.
  by_contra short
  have inside := Nat.lt_of_not_le short
  obtain ⟨later, there, _⟩ := longer after.size _ (Array.getElem?_eq_getElem inside)
  exact Nat.lt_irrefl _ (Array.getElem?_eq_some_iff.mp there).1

/-- One more element extends an array. -/
theorem Extends.push (refl : ∀ item, continues item item) (before : Array α) (last : α) :
    Extends continues before (before.push last) := by
  intro index item found
  exact ⟨item, getElem?_push_of_some found last, refl item⟩

/-- Changing one element extends an array if the element may change so. -/
theorem Extends.modify (refl : ∀ item, continues item item) (before : Array α) (index : Nat)
    (change : α → α)
    (continued : ∀ item, before[index]? = some item → continues item (change item)) :
    Extends continues before (before.modify index change) := by
  intro position item found
  by_cases here : index = position
  · subst here
    exact ⟨_, getElem?_modify_self found change, continued item found⟩
  · exact ⟨item, by rw [getElem?_modify_ne _ here]; exact found, refl item⟩

end Extends

/-- A flight keeps its identifier and its generation, and its end once it has one. -/
structure Flight.Continues (flight later : Flight) : Prop where
  /-- The identifier is the same. -/
  id : later.id = flight.id
  /-- The generation is the same. -/
  generation : later.generation = flight.generation
  /-- An end is for good. -/
  cell : ∀ attempt, flight.cell = some attempt → later.cell = some attempt

/-- A flight continues itself. -/
theorem Flight.Continues.refl (flight : Flight) : flight.Continues flight :=
  ⟨rfl, rfl, fun _ ended => ended⟩

/-- A flight keeps what it has over any number of changes. -/
theorem Flight.Continues.trans (one two three : Flight) (early : one.Continues two)
    (late : two.Continues three) : one.Continues three :=
  ⟨late.id.trans early.id, late.generation.trans early.generation,
    fun attempt ended => late.cell attempt (early.cell attempt ended)⟩

/-- A build keeps its identifier, its flight and its resource, and its status once it is over. -/
structure Build.Continues (work later : Build ρ) : Prop where
  /-- The identifier is the same. -/
  id : later.id = work.id
  /-- The flight is the same. -/
  flight : later.flight = work.flight
  /-- The resource is the same. -/
  resource : later.resource = work.resource
  /-- A build that is over does not begin again. -/
  status : work.status ≠ .running → later.status = work.status

/-- A build continues itself. -/
theorem Build.Continues.refl (work : Build ρ) : work.Continues work :=
  ⟨rfl, rfl, rfl, fun _ => rfl⟩

/-- A build keeps what it has over any number of changes. -/
theorem Build.Continues.trans (one two three : Build ρ) (early : one.Continues two)
    (late : two.Continues three) : one.Continues three := by
  -- A build that is over stays over, so the later step does not change its status either.
  refine ⟨late.id.trans early.id, late.flight.trans early.flight,
    late.resource.trans early.resource, fun done => ?_⟩
  have same := early.status done
  exact (late.status (by rw [same]; exact done)).trans same

/-- What a factory never takes back. -/
structure Grows (before after : Factory ρ) : Prop where
  /-- Generations only go up. -/
  generation : before.generation ≤ after.generation
  /-- The shutdown is for good. -/
  closed : before.phase = .shutdown → after.phase = .shutdown
  /-- Flights stay what they are. -/
  flights : Extends Flight.Continues before.flights after.flights
  /-- Builds stay what they are. -/
  builds : Extends Build.Continues before.builds after.builds
  /-- A release is not undone. -/
  released : before.released <+: after.released

/-- A factory grows into itself. -/
theorem Grows.refl (factory : Factory ρ) : Grows factory factory :=
  ⟨Nat.le_refl _, id, .of_eq Flight.Continues.refl rfl, .of_eq Build.Continues.refl rfl,
    List.prefix_rfl⟩

/-- Growth adds up. -/
theorem Grows.trans {first second third : Factory ρ} (early : Grows first second)
    (late : Grows second third) : Grows first third :=
  ⟨Nat.le_trans early.generation late.generation, fun shut => late.closed (early.closed shut),
    early.flights.trans Flight.Continues.trans late.flights,
    early.builds.trans Build.Continues.trans late.builds,
    early.released.trans late.released⟩

/-! ## Builds in hand -/

/-- The build that a caller at a stage has in hand, and how far it has come. -/
def Stage.task? : Stage → Option (Nat × BuildStatus)
  | .building _ build => some (build, .running)
  | .checking _ build => some (build, .ready)
  | .joined _ | .entering | .activating | .served _ | .refused _ | .cancelled => none

/-- A caller that takes what its flight ended with has no build in hand. -/
@[simp] theorem Attempt.task?_stage (attempt : Attempt) : attempt.stage.task? = none := by
  -- None of the stages that an end leads to has a build.
  cases attempt <;> rfl

/-- A caller with a build in hand drives a flight. -/
theorem Stage.drives_of_task? {stage : Stage} {task : Nat × BuildStatus}
    (holds : stage.task? = some task) : stage.drives = true := by
  cases stage <;> first | rfl | cases holds

/-- A caller that wanders has no build in hand. -/
theorem Stage.task?_of_wanders {stage : Stage} (wanders : stage.wanders = true) :
    stage.task? = none := by
  cases stage <;> first | rfl | cases wanders

/-- A caller at a stage without a flight has no build in hand. -/
theorem Stage.task?_of_flight? {stage : Stage} (without : stage.flight? = none) :
    stage.task? = none := by
  cases stage <;> first | rfl | cases without

/-- A caller with a running build in hand is building. -/
theorem Stage.eq_building {stage : Stage} {flight build : Nat}
    (holds : stage.task? = some (build, .running)) (on : stage.flight? = some flight) :
    stage = .building flight build := by
  cases stage with
  | building other held =>
    cases holds
    cases on
    rfl
  | _ => cases holds

/-- A caller at a stage has a build in hand. -/
def Stage.Handles (stage : Stage) (build : Nat) : Prop :=
  ∃ status, stage.task? = some (build, status)

/-- Builds and the callers that drive them agree with each other. -/
structure Worked (factory : Factory ρ) : Prop where
  /-- The build in a caller's hand is one for its identifier, on its flight, and as far. -/
  holds : ∀ {member : Nat} {caller build status}, factory.callers[member]? = some caller →
    caller.stage.task? = some (build, status) →
      ∃ work, factory.builds[build]? = some work ∧ work.id = caller.id ∧
        caller.stage.flight? = some work.flight ∧ work.status = status
  /-- A running build is driven by some caller. -/
  driven : ∀ {build : Nat} {work}, factory.builds[build]? = some work → work.status = .running →
    ∃ (member : Nat) (caller : Caller), factory.callers[member]? = some caller ∧
      caller.stage = .building work.flight build
  /-- Every build is on a flight for its identifier. -/
  aboard : ∀ {build : Nat} {work}, factory.builds[build]? = some work →
    ∃ flown, factory.flights[work.flight]? = some flown ∧ flown.id = work.id

namespace Worked

variable {factory : Factory ρ}

/-- The agreement is one of callers, flights and builds alone. -/
theorem congr {other : Factory ρ} (worked : Worked factory)
    (callers : other.callers = factory.callers) (flights : other.flights = factory.flights)
    (builds : other.builds = factory.builds) : Worked other := by
  obtain ⟨holds, driven, aboard⟩ := worked
  rw [← callers, ← builds] at holds driven
  rw [← flights, ← builds] at aboard
  exact ⟨holds, driven, aboard⟩

/-- No two callers have one build in hand. -/
theorem holder_unique (worked : Worked factory) (crewed : Crewed factory) {first second : Nat}
    {one two : Caller} {build : Nat} {early late : BuildStatus}
    (here : factory.callers[first]? = some one) (there : factory.callers[second]? = some two)
    (holds : one.stage.task? = some (build, early))
    (too : two.stage.task? = some (build, late)) : first = second := by
  -- Both are on the flight of the build and drive it, and a flight has one driver.
  obtain ⟨work, found, _, on, _⟩ := worked.holds here holds
  obtain ⟨again, same, _, also, _⟩ := worked.holds there too
  rw [found] at same
  cases same
  exact crewed.driver_unique here there on also (Stage.drives_of_task? holds)
    (Stage.drives_of_task? too)

/-- After the holder of a build has gone on, nobody holds that build. -/
theorem unheld (worked : Worked factory) (crewed : Crewed factory) {member flight build : Nat}
    {caller : Caller} {stage : Stage} {callers : Array Caller}
    (here : factory.callers[member]? = some caller) (checks : caller.stage = .checking flight build)
    (moved : callers = factory.callers.modify member ({ · with stage }))
    (without : stage.task? = none) (other : Nat) (asker : Caller) (held : Nat)
    (there : callers[other]? = some asker) : asker.stage ≠ .checking held build := by
  -- The holder is at another stage now, and nobody else held the build.
  intro holds
  rw [moved] at there
  rcases getElem?_modify_cases there with ⟨_, before, _, rfl⟩ | ⟨apart, there⟩
  · subst holds
    cases without
  · exact apart (worked.holder_unique crewed there here (by rw [holds]; rfl) (by rw [checks]; rfl))

end Worked

/-! ## Every transition is growth -/

namespace Grows

variable (factory : Factory ρ)

/-- A touch is growth. -/
theorem touched {before after : Factory ρ} (touched : Touched before after) :
    Grows before after :=
  ⟨Nat.le_of_eq touched.generation.symm, touched.closed.mpr,
    .of_eq Flight.Continues.refl touched.flights, .of_eq Build.Continues.refl touched.builds,
    touched.released ▸ List.prefix_rfl⟩

/-- Moving a caller is growth. -/
theorem move (caller : Nat) (stage : Stage) : Grows factory (factory.move caller stage) :=
  ⟨Nat.le_refl _, id, .of_eq Flight.Continues.refl rfl, .of_eq Build.Continues.refl rfl,
    List.prefix_rfl⟩

/-- Joining a flight is growth. -/
theorem join (caller : Nat) (id : Identifier) : Grows factory (factory.join caller id) := by
  unfold Factory.join
  split
  · -- Boarding adds a member to a flight and changes nothing that it keeps.
    exact ⟨Nat.le_refl _, fun shut => shut,
      .modify Flight.Continues.refl _ _ _ fun flown _ => ⟨rfl, rfl, fun _ ended => ended⟩,
      .of_eq Build.Continues.refl rfl, List.prefix_rfl⟩
  · exact ⟨Nat.le_refl _, fun shut => shut, .push Flight.Continues.refl _ _,
      .of_eq Build.Continues.refl rfl, List.prefix_rfl⟩

/-- Leaving a flight is growth. -/
theorem depart (caller flight : Nat) (stage : Stage) :
    Grows factory (factory.depart caller flight stage) := by
  have seats := depart_frame factory caller flight stage
  refine ⟨Nat.le_of_eq seats.generation.symm, seats.phase.trans, ?_,
    .of_eq Build.Continues.refl seats.builds, seats.released ▸ List.prefix_rfl⟩
  rw [depart_flights]
  exact .modify Flight.Continues.refl _ _ _ fun flown _ => ⟨rfl, rfl, fun _ ended => ended⟩

/-- Ending a flight that is open, and leaving it, is growth. -/
theorem land {caller flight : Nat} (attempt : Attempt)
    (opened : ∀ flown, factory.flights[flight]? = some flown → flown.cell = none) :
    Grows factory (factory.land caller flight attempt) := by
  have seats := land_frame factory caller flight attempt
  refine ⟨Nat.le_of_eq seats.generation.symm, seats.phase.trans, ?_,
    .of_eq Build.Continues.refl seats.builds, seats.released ▸ List.prefix_rfl⟩
  rw [land_flights]
  refine .modify Flight.Continues.refl _ _ _ fun flown found => ⟨rfl, rfl, fun other ended => ?_⟩
  -- An open flight has no end that landing could overwrite.
  rw [opened flown found] at ended
  cases ended

/-- Ending a build that runs is growth. -/
theorem finish {build : Nat} (status : BuildStatus)
    (runs : ∀ work, factory.builds[build]? = some work → work.status = .running) :
    Grows factory (factory.updateBuild build ({ · with status })) := by
  refine ⟨Nat.le_refl _, id, .of_eq Flight.Continues.refl rfl, ?_, List.prefix_rfl⟩
  -- Only a build that runs may change its status.
  exact .modify Build.Continues.refl _ _ _ fun work found =>
    ⟨rfl, rfl, rfl, fun done => absurd (runs work found) done⟩

variable [Releasable ρ]

/-- Releasing a resource is growth. -/
theorem release (build : Nat) : Grows factory (factory.release build) := by
  have freed := release_frame factory build
  refine ⟨Nat.le_of_eq freed.generation.symm, freed.phase.trans,
    .of_eq Flight.Continues.refl freed.flights, .of_eq Build.Continues.refl freed.builds, ?_⟩
  rw [release_released]
  exact List.prefix_append _ _

/-- Storing a resource is growth. -/
theorem store (build : Nat) (id : Identifier) : Grows factory (factory.store build id) := by
  obtain ⟨freed, released⟩ := store_frame factory build id
  refine ⟨Nat.le_of_eq freed.generation.symm, freed.phase.trans,
    .of_eq Flight.Continues.refl freed.flights, .of_eq Build.Continues.refl freed.builds, ?_⟩
  rw [released]
  exact List.prefix_append _ _

variable {factory}

/-- Every transition is growth. -/
theorem transition (crewed : Crewed factory) (worked : Worked factory) {event : Event ρ}
    {after : Factory ρ} (transition : Transition factory event after) : Grows factory after := by
  -- A driver's flight is open, and a build in hand is as far as the stage says.
  have stillOpen : ∀ {member flight : Nat} {caller : Caller},
      factory.callers[member]? = some caller → caller.stage.flight? = some flight →
        caller.stage.drives = true →
          ∀ flown, factory.flights[flight]? = some flown → flown.cell = none :=
    fun here on drives flown found => (crewed.driver here on drives found).1
  have runs : ∀ {member flight build : Nat} {caller : Caller},
      factory.callers[member]? = some caller → caller.stage = .building flight build →
        ∀ work, factory.builds[build]? = some work → work.status = .running := by
    intro member flight build caller here builds work found
    obtain ⟨again, same, _, _, status⟩ := worked.holds here (by rw [builds]; rfl)
    rw [found] at same
    cases same
    exact status
  cases transition with
  | idle touched => exact .touched touched
  | call id =>
    exact ⟨Nat.le_refl _, fun shut => shut, .of_eq Flight.Continues.refl rfl,
      .of_eq Build.Continues.refl rfl, List.prefix_rfl⟩
  | walk touched => exact (Grows.touched touched).trans (.move _ _ _)
  | quit => exact .move _ _ _
  | join touched => exact (Grows.touched touched).trans (.join _ _ _)
  | conclude => exact .depart _ _ _ _
  | leave => exact .depart _ _ _ _
  | abandon here builds => exact (Grows.finish _ _ (runs here builds)).trans (.depart _ _ _ _)
  | reuse touched here joined found opened =>
    refine (Grows.touched touched).trans (.land _ _ fun flown again => ?_)
    rw [touched.flights, found] at again
    cases again
    exact opened
  | start touched =>
    refine (Grows.touched touched).trans ⟨Nat.le_refl _, fun shut => shut,
      .of_eq Flight.Continues.refl rfl, ?_, List.prefix_rfl⟩
    -- The new build comes behind all the others.
    rw [← touched.builds]
    exact .push Build.Continues.refl _ _
  | deliver here builds touched =>
    exact ((Grows.finish _ _ (runs here builds)).trans (.touched touched)).trans (.move _ _ _)
  | fail here builds touched =>
    refine ((Grows.finish _ _ (runs here builds)).trans (.touched touched)).trans (.land _ _ ?_)
    rw [touched.flights]
    exact stillOpen here (by rw [builds]; rfl) (by rw [builds]; rfl)
  | discard touched here checks =>
    refine ((Grows.touched touched).trans (.release _ _)).trans (.land _ _ ?_)
    rw [(release_frame ..).flights, touched.flights]
    exact stillOpen here (by rw [checks]; rfl) (by rw [checks]; rfl)
  | store here checks =>
    refine (Grows.store _ _ _).trans (.land _ _ ?_)
    rw [(store_frame ..).1.flights]
    exact stillOpen here (by rw [checks]; rfl) (by rw [checks]; rfl)
  | reset running generation cache table flights builds callers released =>
    refine ⟨by omega, fun shut => absurd shut running, .of_eq Flight.Continues.refl flights,
      .of_eq Build.Continues.refl builds, ?_⟩
    rw [released]
    exact List.prefix_append _ _

end Grows

/-! ## Every transition keeps builds in hand -/

namespace Worked

variable {factory : Factory ρ}

/-- A new caller has no build in hand. -/
theorem call (worked : Worked factory) (id : Identifier) :
    Worked { factory with callers := factory.callers.push { id } } := by
  -- Whoever had a build in hand is where it was, and the new caller has none.
  refine ⟨?_, ?_, worked.aboard⟩
  · intro member caller build status found holds
    rcases getElem?_push_cases found with ⟨_, rfl⟩ | found
    · cases holds
    · exact worked.holds found holds
  · intro build work found running
    obtain ⟨member, caller, here, builds⟩ := worked.driven found running
    exact ⟨member, caller, getElem?_push_of_some here _, builds⟩

end Worked

/-- A caller takes a build in hand, goes on with it or lets go of it, and no other build changes. -/
structure Handling (factory after : Factory ρ) (member : Nat) (caller : Caller) (stage : Stage) :
    Prop where
  /-- The caller is there. -/
  here : factory.callers[member]? = some caller
  /-- The caller changes its stage, and no other caller does. -/
  callers : after.callers = factory.callers.modify member ({ · with stage })
  /-- A build that the caller has not had in hand, before or after, is the same. -/
  others : ∀ build, ¬caller.stage.Handles build → ¬stage.Handles build →
    after.builds[build]? = factory.builds[build]?
  /-- The build in the caller's hand is one for it, and it is new or was in its hand before. -/
  taken : ∀ build status, stage.task? = some (build, status) →
    (∃ work, after.builds[build]? = some work ∧ work.id = caller.id ∧
      stage.flight? = some work.flight ∧ work.status = status) ∧
    (factory.builds[build]? = none ∨ caller.stage.Handles build)
  /-- A build that the caller lets go of does not run any more. -/
  dropped : ∀ build, caller.stage.Handles build → ¬stage.Handles build →
    ∀ work, after.builds[build]? = some work → work.status ≠ .running

namespace Handling

variable {factory after : Factory ρ} {member : Nat} {caller : Caller} {stage : Stage}

/-- The caller stands at its new stage. -/
theorem now (handling : Handling factory after member caller stage) :
    after.callers[member]? = some { caller with stage } := by
  rw [handling.callers]
  exact getElem?_modify_self handling.here _

/-- A build in the hand of another caller is the same. -/
theorem untouched (handling : Handling factory after member caller stage) (worked : Worked factory)
    (crewed : Crewed factory) {other : Nat} {asker : Caller} {build : Nat} {status : BuildStatus}
    (apart : other ≠ member) (there : factory.callers[other]? = some asker)
    (holds : asker.stage.task? = some (build, status)) :
    after.builds[build]? = factory.builds[build]? := by
  have before : ¬caller.stage.Handles build := fun ⟨earlier, same⟩ =>
    apart (worked.holder_unique crewed there handling.here holds same)
  -- What the caller takes is new or was in its own hand, so it is another build.
  refine handling.others build before fun ⟨later, same⟩ => ?_
  rcases (handling.taken build later same).2 with fresh | held
  · obtain ⟨work, found, _⟩ := worked.holds there holds
    rw [fresh] at found
    cases found
  · exact before held

/-- A running build is driven by some caller then. -/
theorem driven (handling : Handling factory after member caller stage) (worked : Worked factory)
    {build : Nat} {work : Build ρ} (found : after.builds[build]? = some work)
    (running : work.status = .running) :
    ∃ (other : Nat) (asker : Caller), after.callers[other]? = some asker ∧
      asker.stage = .building work.flight build := by
  by_cases held : stage.Handles build
  · -- The status of the build tells at which of the two stages its caller is.
    obtain ⟨status, held⟩ := held
    obtain ⟨⟨again, there, _, on, reached⟩, _⟩ := handling.taken build status held
    rw [found] at there
    cases there
    rw [running] at reached
    subst reached
    exact ⟨member, _, handling.now, Stage.eq_building held on⟩
  · have nor : ¬caller.stage.Handles build := fun before =>
      handling.dropped build before held work found running
    -- Somebody else drove the build before, and has not moved.
    rw [handling.others build nor held] at found
    obtain ⟨other, asker, there, builds⟩ := worked.driven found running
    have apart : member ≠ other := by
      intro same
      subst same
      rw [handling.here] at there
      cases there
      exact nor ⟨.running, by rw [builds]; rfl⟩
    refine ⟨other, asker, ?_, builds⟩
    rw [handling.callers, getElem?_modify_ne _ apart]
    exact there

/-- A build that was not there before is on a flight for its identifier. -/
theorem aboard_new (handling : Handling factory after member caller stage) (worked : Worked factory)
    (crewed : Crewed after) {build : Nat} {work : Build ρ}
    (found : after.builds[build]? = some work) (new : factory.builds[build]? = none) :
    ∃ flown, after.flights[work.flight]? = some flown ∧ flown.id = work.id := by
  have nor : ¬caller.stage.Handles build := by
    rintro ⟨status, same⟩
    obtain ⟨earlier, there, _⟩ := worked.holds handling.here same
    rw [new] at there
    cases there
  by_cases held : stage.Handles build
  · -- The caller has just taken the build in hand, and it is on the flight of the build.
    obtain ⟨status, held⟩ := held
    obtain ⟨⟨again, there, ids, on, _⟩, _⟩ := handling.taken build status held
    rw [found] at there
    cases there
    obtain ⟨flown, flies, same⟩ := crewed.own handling.now on
    exact ⟨flown, flies, same.trans ids.symm⟩
  · rw [handling.others build nor held, new] at found
    cases found

/-- A caller without a running build in hand moves to a stage without a build. -/
theorem pass (worked : Worked factory) (here : factory.callers[member]? = some caller)
    (callers : after.callers = factory.callers.modify member ({ · with stage }))
    (builds : after.builds = factory.builds)
    (empty : ∀ build, caller.stage.task? ≠ some (build, .running))
    (without : stage.task? = none) : Handling factory after member caller stage := by
  -- No build changes, and the caller takes none.
  refine ⟨here, callers, fun build _ _ => by rw [builds], ?_, ?_⟩
  · intro build status held
    rw [without] at held
    cases held
  · rintro build ⟨status, held⟩ _ work found running
    rw [builds] at found
    obtain ⟨again, there, _, _, reached⟩ := worked.holds here held
    rw [found] at there
    cases there
    rw [running] at reached
    subst reached
    exact empty build held

/-- The caller that drives a build goes on when the build is over. -/
theorem finish (worked : Worked factory) {flight build : Nat} {status : BuildStatus}
    (here : factory.callers[member]? = some caller) (drives : caller.stage = .building flight build)
    (callers : after.callers = factory.callers.modify member ({ · with stage }))
    (builds : after.builds = factory.builds.modify build ({ · with status }))
    (ended : status ≠ .running)
    (next : stage.task? = none ∨ stage = .checking flight build ∧ status = .ready) :
    Handling factory after member caller stage := by
  -- The build in the caller's hand is the only one that changes.
  have task : caller.stage.task? = some (build, .running) := by rw [drives]; rfl
  obtain ⟨work, found, ids, on, _⟩ := worked.holds here task
  have later : after.builds[build]? = some { work with status } := by
    rw [builds]
    exact getElem?_modify_self found _
  refine ⟨here, callers, ?_, ?_, ?_⟩
  · intro other before _
    rw [builds]
    refine getElem?_modify_ne _ (fun same => ?_) _
    subst same
    exact before ⟨_, task⟩
  · -- A caller that goes on with the build has it in hand with the new status.
    intro other reached held
    rcases next with without | ⟨rfl, rfl⟩
    · rw [without] at held
      cases held
    · cases held
      rw [drives] at on
      exact ⟨⟨_, later, ids, on, rfl⟩, .inr ⟨_, task⟩⟩
  · rintro other ⟨reached, held⟩ _ again there
    rw [task] at held
    cases held
    rw [later] at there
    cases there
    exact ended

/-- The caller whose turn it is starts a build. -/
theorem start {flight : Nat} {resource : ρ} (here : factory.callers[member]? = some caller)
    (joined : caller.stage = .joined flight)
    (callers : after.callers = factory.callers.modify member
      ({ · with stage := .building flight factory.builds.size }))
    (builds : after.builds = factory.builds.push { id := caller.id, flight, resource }) :
    Handling factory after member caller (.building flight factory.builds.size) := by
  refine ⟨here, callers, ?_, ?_, ?_⟩
  · -- Every other build is older than the new one.
    intro build _ another
    rw [builds, Array.getElem?_push, if_neg]
    intro same
    subst same
    exact another ⟨_, rfl⟩
  · intro build status held
    cases held
    refine ⟨⟨{ id := caller.id, flight, resource }, ?_, rfl, rfl, rfl⟩, .inl (by simp)⟩
    rw [builds, Array.getElem?_push_size]
  · rintro build ⟨status, held⟩
    rw [joined] at held
    cases held

end Handling

namespace Worked

variable {factory : Factory ρ}

/-- What one caller does with a build keeps the agreement. -/
theorem handle (worked : Worked factory) (crewed : Crewed factory) {after : Factory ρ}
    (crewedAfter : Crewed after) (grows : Grows factory after) {member : Nat} {caller : Caller}
    {stage : Stage} (handling : Handling factory after member caller stage) : Worked after := by
  refine ⟨?_, fun found running => handling.driven worked found running, ?_⟩
  · intro other asker build status there holds
    rw [handling.callers] at there
    rcases getElem?_modify_cases there with ⟨_, old, earlier, rfl⟩ | ⟨apart, there⟩
    · rw [handling.here] at earlier
      cases earlier
      exact (handling.taken build status holds).1
    · rw [handling.untouched worked crewed apart there holds]
      exact worked.holds there holds
  · intro build work found
    cases before : factory.builds[build]? with
    | some earlier =>
      -- Builds do not change flights, and flights do not change identifiers.
      obtain ⟨later, there, continues⟩ := grows.builds build earlier before
      rw [found] at there
      cases there
      obtain ⟨flown, flies, ids⟩ := worked.aboard before
      obtain ⟨still, flying, kept⟩ := grows.flights _ flown flies
      exact ⟨still, by rw [continues.flight]; exact flying,
        kept.id.trans (ids.trans continues.id.symm)⟩
    | none => exact handling.aboard_new worked crewedAfter found before

/-- Every transition keeps builds and their drivers in agreement. -/
theorem transition [Releasable ρ] (worked : Worked factory) (crewed : Crewed factory)
    {event : Event ρ} {after : Factory ρ} (transition : Transition factory event after) :
    Worked after := by
  have crewedAfter := crewed.transition transition
  have grows := Grows.transition crewed worked transition
  have handle : ∀ {member : Nat} {caller : Caller} {stage : Stage},
      Handling factory after member caller stage → Worked after :=
    fun handling => worked.handle crewed crewedAfter grows handling
  -- Most transitions leave the builds alone; the others begin one or end one.
  cases transition with
  | idle touched => exact worked.congr touched.callers touched.flights touched.builds
  | call id => exact worked.call id
  | walk touched here wanders without =>
    exact handle (.pass worked here (by rw [move_callers, touched.callers]) touched.builds
      (by simp [Stage.task?_of_wanders wanders]) (Stage.task?_of_flight? without))
  | quit here wanders =>
    exact handle (.pass worked here (move_callers ..) rfl
      (by simp [Stage.task?_of_wanders wanders]) rfl)
  | @join between caller _ known touched here wanders =>
    obtain ⟨flight, _, callers, _⟩ := join_flight between caller known.id
    exact handle (.pass worked here (by rw [callers, touched.callers])
      ((join_frame ..).builds.trans touched.builds) (by simp [Stage.task?_of_wanders wanders]) rfl)
  | conclude here joined =>
    exact handle (.pass worked here (depart_callers ..) (depart_frame ..).builds
      (by simp [joined, Stage.task?]) (Attempt.task?_stage _))
  | leave here on =>
    refine handle (.pass worked here (depart_callers ..) (depart_frame ..).builds ?_ rfl)
    rcases on with joined | ⟨build, checks⟩
    · simp [joined, Stage.task?]
    · simp [checks, Stage.task?]
  | abandon here builds =>
    exact handle (.finish worked here builds (depart_callers ..) (depart_frame ..).builds
      (by simp) (.inl rfl))
  | reuse touched here joined =>
    exact handle (.pass worked here (by rw [land_callers, touched.callers])
      ((land_frame ..).builds.trans touched.builds) (by simp [joined, Stage.task?])
      (Attempt.task?_stage _))
  | start touched here joined =>
    exact handle (.start here joined (by rw [move_callers, touched.callers]) rfl)
  | deliver here builds touched =>
    exact handle (.finish worked here builds (by rw [move_callers, touched.callers]; rfl)
      touched.builds (by simp) (.inr ⟨rfl, rfl⟩))
  | fail here builds touched ended =>
    exact handle (.finish worked here builds (by rw [land_callers, touched.callers]; rfl)
      ((land_frame ..).builds.trans touched.builds) ended (.inl (Attempt.task?_stage _)))
  | discard touched here checks =>
    exact handle (.pass worked here
      (by rw [land_callers, (release_frame ..).callers, touched.callers])
      (((land_frame ..).builds.trans (release_frame ..).builds).trans touched.builds)
      (by simp [checks, Stage.task?]) (Attempt.task?_stage _))
  | store here checks =>
    exact handle (.pass worked here (by rw [land_callers, (store_frame ..).1.callers])
      ((land_frame ..).builds.trans (store_frame ..).1.builds) (by simp [checks, Stage.task?])
      (Attempt.task?_stage _))
  | reset _ _ _ _ flights builds callers => exact worked.congr callers flights builds

end Worked

/-- A build that is new after a step is one that the step has started, for the caller it moves. -/
theorem Transition.begun [Releasable ρ] {factory after : Factory ρ} {event : Event ρ}
    (transition : Transition factory event after) {build : Nat} {work : Build ρ}
    (before : factory.builds[build]? = none) (found : after.builds[build]? = some work) :
    ∃ caller resource known, event = .advance caller resource ∧
      factory.callers[caller]? = some known ∧ work.id = known.id ∧ work.resource = resource := by
  have outside := Array.getElem?_eq_none_iff.mp before
  -- All transitions but one leave the number of builds as it is.
  have old {builds : Array (Build ρ)} (size : builds.size = factory.builds.size)
      (there : builds[build]? = some work) : False :=
    Nat.not_lt.mpr outside (size ▸ (Array.getElem?_eq_some_iff.mp there).1)
  cases transition with
  | idle touched => exact (old (congrArg _ touched.builds) found).elim
  | call => exact (old rfl found).elim
  | walk touched => exact (old (congrArg _ touched.builds) found).elim
  | quit => exact (old rfl found).elim
  | join touched =>
    exact (old (congrArg _ ((join_frame ..).builds.trans touched.builds)) found).elim
  | conclude => exact (old (congrArg _ (depart_frame ..).builds) found).elim
  | leave => exact (old (congrArg _ (depart_frame ..).builds) found).elim
  | abandon =>
    exact (old ((congrArg _ (depart_frame ..).builds).trans Array.size_modify) found).elim
  | reuse touched =>
    exact (old (congrArg _ ((land_frame ..).builds.trans touched.builds)) found).elim
  | @start between caller flight resource known _ touched here =>
    rcases getElem?_push_cases found with ⟨_, rfl⟩ | there
    · exact ⟨caller, resource, known, rfl, here, rfl, rfl⟩
    · exact (old rfl there).elim
  | deliver _ _ touched =>
    exact (old ((congrArg _ touched.builds).trans Array.size_modify) found).elim
  | fail _ _ touched =>
    exact (old ((congrArg _ ((land_frame ..).builds.trans touched.builds)).trans
      Array.size_modify) found).elim
  | discard touched =>
    exact (old (congrArg _ (((land_frame ..).builds.trans (release_frame ..).builds).trans
      touched.builds)) found).elim
  | store =>
    exact (old (congrArg _ ((land_frame ..).builds.trans (store_frame ..).1.builds)) found).elim
  | reset _ _ _ _ _ builds => exact (old (congrArg _ builds) found).elim

end PackGate.Factory
