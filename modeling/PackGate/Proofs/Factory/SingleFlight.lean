import PackGate.Proofs.Factory.Evaluation
import PackGate.Proofs.Factory.Passage
import PackGate.Repository

/-! Callers that miss one identifier at the same time share one build and one answer. -/

namespace PackGate.Factory

variable {ρ : Type} {factory : Factory ρ}

/-- Every caller has nothing to do but wait. -/
def Quiescent (factory : Factory ρ) : Prop :=
  ∀ caller, factory.isBlocked caller = true

/-- A caller of an identifier is on a flight of the current generation. -/
def Waits (factory : Factory ρ) (id : Identifier) (flight member : Nat) : Prop :=
  ∃ caller flown, factory.callers[member]? = some caller ∧ caller.id = id ∧
    caller.stage.flight? = some flight ∧ factory.flights[flight]? = some flown ∧
      flown.generation = factory.generation

/-- A build for an identifier is running, on a flight of the current generation. -/
def Runs (factory : Factory ρ) (id : Identifier) (flight build : Nat) : Prop :=
  ∃ work flown, factory.builds[build]? = some work ∧ work.id = id ∧ work.flight = flight ∧
    work.status = .running ∧ factory.flights[flight]? = some flown ∧
      flown.generation = factory.generation

/-- A caller that can only wait is on an open flight, and it drives a build if it comes first. -/
theorem Crewed.blocked (crewed : Crewed factory) {member flight : Nat} {caller : Caller}
    {flown : Flight} (blocked : factory.isBlocked member = true)
    (here : factory.callers[member]? = some caller) (on : caller.stage.flight? = some flight)
    (found : factory.flights[flight]? = some flown) :
    flown.cell = none ∧ (flown.members.head? = some member →
      ∃ build, caller.stage = .building flight build) := by
  unfold isBlocked stage? at blocked
  rw [here, Option.map_some] at blocked
  -- Only two stages are on a flight and blocked: waiting for another driver, and driving.
  cases stage : caller.stage with
  | joined other =>
    rw [stage] at on blocked
    cases on
    simp only [found, Option.any_some, Bool.and_eq_true, Option.isNone_iff_eq_none, bne_iff_ne]
      at blocked
    exact ⟨blocked.1, fun first => absurd first blocked.2⟩
  | building other build =>
    rw [stage] at on
    cases on
    exact ⟨(crewed.driver here (by rw [stage]; rfl) (by rw [stage]; rfl) found).1,
      fun _ => ⟨build, rfl⟩⟩
  | checking other build =>
    rw [stage] at blocked
    cases blocked
  | _ =>
    rw [stage] at on
    cases on

/-- Two open flights of the current generation for one identifier, both with members, are one. -/
theorem Crewed.open_unique (crewed : Crewed factory) {one two : Nat} {early late : Flight}
    (first : factory.flights[one]? = some early) (second : factory.flights[two]? = some late)
    (ids : early.id = late.id) (current : early.generation = factory.generation)
    (also : late.generation = factory.generation) (opened : early.cell = none)
    (too : late.cell = none) (crowded : early.members ≠ []) (full : late.members ≠ []) :
    one = two := by
  -- The table tracks both under the one identifier, and it names one flight only.
  have tracked := crewed.tracks first current opened crowded
  rw [ids, crewed.tracks second also too full] at tracked
  exact (Option.some.inj tracked).symm

/-- A caller that waits in a quiescent factory is on an open flight for its identifier. -/
theorem Waits.opened {id : Identifier} {flight member : Nat}
    (waits : Waits factory id flight member) (crewed : Crewed factory) (quiet : Quiescent factory) :
    ∃ flown, factory.flights[flight]? = some flown ∧ flown.id = id ∧
      flown.generation = factory.generation ∧ flown.cell = none ∧ flown.members ≠ [] := by
  -- Nothing more can run, so the flight has not ended yet.
  obtain ⟨caller, flown, here, ids, on, found, current⟩ := waits
  obtain ⟨again, there, same⟩ := crewed.own here on
  rw [found] at there
  cases there
  have mem : member ∈ flown.members := (crewed.members found member).mpr ⟨caller, here, on⟩
  exact ⟨flown, found, same.trans ids, current, (crewed.blocked (quiet member) here on found).1,
    List.ne_nil_of_mem mem⟩

/-- Somebody drives a running build, and waits for it. -/
theorem Runs.driver {id : Identifier} {flight build : Nat} (runs : Runs factory id flight build)
    (worked : Worked factory) :
    ∃ driver, factory.stage? driver = some (.building flight build) ∧
      Waits factory id flight driver := by
  -- A running build has a driver, and the driver is on the flight of the build.
  obtain ⟨work, flown, found, ids, rfl, running, flies, current⟩ := runs
  obtain ⟨driver, caller, here, builds⟩ := worked.driven found running
  obtain ⟨again, there, same, _⟩ := worked.holds here (by rw [builds]; rfl)
  rw [found] at there
  cases there
  refine ⟨driver, ?_, caller, flown, here, same.symm.trans ids, ?_, flies, current⟩
  · exact stage?_of_caller here builds
  · rw [builds]
    rfl

/-- Callers that wait for one identifier in a quiescent factory are on one flight. -/
theorem Waits.unique {id : Identifier} {flight elsewhere member other : Nat}
    (waits : Waits factory id flight member) (also : Waits factory id elsewhere other)
    (crewed : Crewed factory) (quiet : Quiescent factory) : elsewhere = flight := by
  -- Both flights are open, current and for the identifier.
  obtain ⟨flown, found, ids, current, opened, crowded⟩ := waits.opened crewed quiet
  obtain ⟨later, there, same, era, too, full⟩ := also.opened crewed quiet
  exact crewed.open_unique there found (same.trans ids.symm) era current too opened full crowded

/-- The first member of a flight that somebody waits on drives a build. -/
theorem Waits.build {id : Identifier} {flight member : Nat} (waits : Waits factory id flight member)
    (crewed : Crewed factory) (worked : Worked factory) (quiet : Quiescent factory) :
    ∃ build, Runs factory id flight build := by
  obtain ⟨flown, found, ids, current, _, crowded⟩ := waits.opened crewed quiet
  -- The first member would start a build if it did not drive one already.
  obtain ⟨first, rest, split⟩ := List.exists_cons_of_ne_nil crowded
  obtain ⟨caller, here, on⟩ := (crewed.members found first).mp (by simp [split])
  obtain ⟨build, builds⟩ :=
    (crewed.blocked (quiet first) here on found).2 (by rw [split]; rfl)
  obtain ⟨work, there, same, flies, running⟩ := worked.holds here (by rw [builds]; rfl)
  rw [on] at flies
  cases flies
  obtain ⟨again, flying, own⟩ := crewed.own here on
  rw [found] at flying
  cases flying
  exact ⟨build, work, flown, there, same.trans (own.symm.trans ids), rfl, running, found, current⟩

/-- Two running builds for one identifier in a quiescent factory are one. -/
theorem Runs.unique {id : Identifier} {flight elsewhere build other : Nat}
    (runs : Runs factory id flight build) (also : Runs factory id elsewhere other)
    (crewed : Crewed factory) (worked : Worked factory) (quiet : Quiescent factory) :
    other = build := by
  -- The drivers of the builds wait on one flight, which has one driver.
  obtain ⟨first, builds, waits⟩ := runs.driver worked
  obtain ⟨second, drives, waiting⟩ := also.driver worked
  obtain rfl := waits.unique waiting crewed quiet
  obtain ⟨caller, here, stage⟩ := Option.map_eq_some_iff.mp builds
  obtain ⟨asker, there, same⟩ := Option.map_eq_some_iff.mp drives
  obtain rfl := crewed.driver_unique here there (by rw [stage]; rfl) (by rw [same]; rfl)
    (by rw [stage]; rfl) (by rw [same]; rfl)
  rw [drives] at builds
  cases builds
  rfl

/-! ## Answers -/

section Answers

variable [Releasable ρ]

/-- With an event a caller leaves its flight with an answer: it is not the caller that gives up. -/
def Answers (factory : Factory ρ) (event : Event ρ) (flight member : Nat) (answer : Stage) : Prop :=
  (∃ caller, factory.callers[member]? = some caller ∧ caller.stage.flight? = some flight) ∧
    (factory.step event).stage? member = some answer ∧ answer.flight? = none ∧
      answer ≠ .cancelled

/-- Whoever leaves a flight with an answer takes what the flight has ended with. -/
theorem Sound.answers (sound : Sound factory) {event : Event ρ} {flight member : Nat}
    {answer : Stage} (answers : Answers factory event flight member answer) :
    ∃ flown attempt, (factory.step event).flights[flight]? = some flown ∧
      flown.cell = some attempt ∧ answer = attempt.stage := by
  obtain ⟨⟨known, here, on⟩, after, off, stays⟩ := answers
  obtain ⟨later, there, rfl⟩ := Option.map_eq_some_iff.mp after
  -- Of the passages away from a flight only taking its end is an answer.
  rcases (step_transition factory event).moved sound here with same | ⟨_, stage, moved, passage⟩
  · -- A caller that stays where it is has not left its flight.
    rw [same] at there
    cases there
    rw [on] at off
    cases off
  · rw [moved] at there
    cases there
    rcases passage.of_flight on with still | left | taken
    · rw [show _ = none from off] at still
      cases still
    · exact absurd left stays
    · exact taken

/-- Two callers that leave one flight with an answer, at whatever times, leave with the same. -/
theorem Sound.answers_agree (sound : Sound factory) {first second : Event ρ}
    {flight early late : Nat} {one two : Stage} (between : List (Event ρ))
    (leaves : Answers factory first flight early one)
    (follows : Answers ((factory.step first).run between) second flight late two) : one = two := by
  have next := sound.step first
  obtain ⟨flown, attempt, found, ended, rfl⟩ := sound.answers leaves
  obtain ⟨later, other, there, kept, rfl⟩ := (next.run between).answers follows
  -- The end of a flight is for good.
  obtain ⟨same, again, continues⟩ :=
    ((next.run_grows between).trans ((next.run between).step_grows second)).flights flight flown
      found
  rw [there] at again
  cases again
  rw [continues.cell attempt ended] at kept
  cases kept
  rfl

/--
Over every run, callers that miss an identifier together share one build and one answer.

When all that can run has run, those that wait under the current generation are on one flight.
Exactly one build is running for them then, and one of them drives it.
Whoever leaves a flight with an answer leaves with the same answer as everybody else.
-/
theorem run_single_flight {capacity : Nat} {budget : Duration} {start : Factory ρ}
    (created : create capacity budget = .ok start) (past : List (Event ρ)) :
    (Quiescent (start.run past) → ∀ id flight member, Waits (start.run past) id flight member →
      (∀ elsewhere other, Waits (start.run past) id elsewhere other → elsewhere = flight) ∧
        (∃ build driver, Runs (start.run past) id flight build ∧
          (start.run past).stage? driver = some (.building flight build) ∧
          Waits (start.run past) id flight driver) ∧
        ∀ one two early late, Runs (start.run past) id early one →
          Runs (start.run past) id late two → one = two) ∧
      ∀ first second flight early late one two between,
        Answers (start.run past) first flight early one →
          Answers (((start.run past).step first).run between) second flight late two →
            one = two := by
  -- Uniqueness comes from the table, existence from the first member of the flight.
  have sound := (create_sound created).run past
  refine ⟨fun quiet id flight member waits => ⟨?_, ?_, ?_⟩, ?_⟩
  · intro elsewhere other also
    exact waits.unique also sound.crewed quiet
  · obtain ⟨build, runs⟩ := waits.build sound.crewed sound.worked quiet
    obtain ⟨driver, drives, waiting⟩ := runs.driver sound.worked
    exact ⟨build, driver, runs, drives, waiting⟩
  · intro one two early late runs also
    exact (runs.unique also sound.crewed sound.worked quiet).symm
  · intro first second flight early late one two between leaves follows
    exact sound.answers_agree between leaves follows

/-- Three callers come, the one that drives goes away, and the next one builds for the third. -/
def handover (id : Identifier) (resource : ρ) : List (Event ρ) :=
  [.call id, .call id, .call id, .advance 0 resource, .advance 0 resource, .advance 0 resource,
    .advance 0 resource, .advance 1 resource, .advance 1 resource, .advance 2 resource,
    .advance 2 resource, .cancel 0, .advance 1 resource]

open Evaluation in
/-- After a handover one build runs for the caller that still waits, and another one drives it. -/
theorem run_single_flight_handover :
    ∃ (start : Factory Repository) (resource : Repository) (build driver : Nat),
      create 1 { seconds := 30, nanos := 0 } = .ok start ∧
        (start.run (handover resource.id resource)).stage? 2 = some (.joined 0) ∧
        (start.run (handover resource.id resource)).stage? driver = some (.building 0 build) ∧
        Runs (start.run (handover resource.id resource)) resource.id 0 build := by
  obtain ⟨start, created⟩ :
      ∃ start : Factory Repository, create 1 { seconds := 30, nanos := 0 } = .ok start := ⟨_, rfl⟩
  refine ⟨start, ⟨⟨"a.git"⟩, "/srv/a.git"⟩, ?_⟩
  have shared := (run_single_flight created
    (handover ⟨"a.git"⟩ (⟨⟨"a.git"⟩, "/srv/a.git"⟩ : Repository))).1
  have state :
      (start.run (handover ⟨"a.git"⟩ (⟨⟨"a.git"⟩, "/srv/a.git"⟩ : Repository))).callers =
        #[⟨⟨"a.git"⟩, .cancelled⟩, ⟨⟨"a.git"⟩, .building 0 1⟩, ⟨⟨"a.git"⟩, .joined 0⟩] ∧
      (start.run (handover ⟨"a.git"⟩ (⟨⟨"a.git"⟩, "/srv/a.git"⟩ : Repository))).flights =
        #[{ id := ⟨"a.git"⟩, generation := 0, members := [1, 2] }] ∧
      (start.run (handover ⟨"a.git"⟩ (⟨⟨"a.git"⟩, "/srv/a.git"⟩ : Repository))).generation = 0 := by
    cases created
    simp [handover]
  generalize start.run (handover ⟨"a.git"⟩ (⟨⟨"a.git"⟩, "/srv/a.git"⟩ : Repository)) = now
    at shared state ⊢
  obtain ⟨callers, flights, generation⟩ := state
  have quiet : Quiescent now := by
    intro caller
    unfold isBlocked stage?
    rw [callers, flights]
    rcases caller with _ | _ | _ | later
    · rfl
    · rfl
    · rfl
    · simp
  have waits : Waits now ⟨"a.git"⟩ 0 2 :=
    ⟨⟨⟨"a.git"⟩, .joined 0⟩, { id := ⟨"a.git"⟩, generation := 0, members := [1, 2] },
      by rw [callers]; rfl, rfl, rfl, by rw [flights]; rfl, generation.symm⟩
  obtain ⟨_, ⟨build, driver, runs, drives, _⟩, _⟩ := shared quiet ⟨"a.git"⟩ 0 2 waits
  refine ⟨build, driver, created, ?_, drives, runs⟩
  rw [stage?, callers]
  rfl

end Answers

end PackGate.Factory
