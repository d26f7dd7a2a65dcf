import PackGate.Proofs.Factory.Closing
import PackGate.Proofs.Factory.Custody

/-! What a caller is answered with that comes at some moment: every answer is younger than that. -/

namespace PackGate.Factory

variable {ρ : Type}

/-- A caller is on a flight. -/
def Boarded (factory : Factory ρ) (member flight : Nat) : Prop :=
  ∃ caller, factory.callers[member]? = some caller ∧ caller.stage.flight? = some flight

/-- A call of the builder that is not over: it is still to come, or the builder is at work. -/
def Unfinished (factory : Factory ρ) (build : Nat) : Prop :=
  ∀ work, factory.builds[build]? = some work → work.status = .running

/-- Whoever is on a flight has come. -/
theorem Boarded.lt_size {factory : Factory ρ} {member flight : Nat}
    (boarded : Boarded factory member flight) : member < factory.callers.size := by
  obtain ⟨caller, here, _⟩ := boarded
  exact (Array.getElem?_eq_some_iff.mp here).1

/-- What is not over was not over before. -/
theorem Unfinished.of_grows {factory after : Factory ρ} {build : Nat}
    (unfinished : Unfinished after build) (grows : Grows factory after) :
    Unfinished factory build := by
  intro work found
  obtain ⟨later, there, continues⟩ := grows.builds build work found
  -- A build that was over would have kept its status.
  by_contra stopped
  have running := unfinished later there
  rw [continues.status stopped] at running
  exact stopped running

section Run

variable [Releasable ρ] {factory after : Factory ρ} {event : Event ρ} {events : List (Event ρ)}

/-! ## Turning points -/

/-- What becomes true during a run becomes true with some event of it. -/
theorem During.turning (holds : Factory ρ → Prop) (before : ¬holds factory)
    (later : holds (factory.run events)) :
    factory.During events fun now event => ¬holds now ∧ holds (now.step event) := by
  -- The induction is on the last event: it is the turning point, or there was one before it.
  induction events using List.reverseRecOn with
  | nil => exact absurd later before
  | append_singleton past last ih =>
    by_cases earlier : holds (factory.run past)
    · exact (ih earlier).append [last]
    · rw [run_concat] at later
      exact .last ⟨earlier, later⟩

/-- A caller that is done stays as it is over every run. -/
theorem Sound.run_over (sound : Sound factory) {member : Nat} {stage : Stage}
    (stands : factory.stage? member = some stage) (ended : stage.isOver = true)
    (events : List (Event ρ)) : (factory.run events).stage? member = some stage := by
  -- The induction is on the events, none of which moves a caller that is done.
  induction events generalizing factory with
  | nil => exact stands
  | cons event rest ih => exact ih (sound.step event) (sound.step_over stands ended event)

/-- What is lost stays lost over every run. -/
theorem Lost.run {build : Nat} (lost : Lost factory build) (sound : Sound factory)
    (events : List (Event ρ)) : Lost (factory.run events) build := by
  -- The state is general, as each step leads to another one.
  induction events generalizing factory with
  | nil => exact lost
  | cons event rest ih => exact ih (lost.step sound event) (sound.step event)

/-! ## Boarding -/

/-- A flight that a step puts a caller on is open after the step. -/
theorem Transition.boards (transition : Transition factory event after) (sound : Sound factory)
    {member flight : Nat} (boarded : Boarded after member flight)
    (off : ¬Boarded factory member flight) (attempt : Attempt) :
    ¬Settled after flight attempt := by
  rintro ⟨flown, found, ended⟩
  obtain ⟨later, there, on⟩ := boarded
  rcases transition.caller_cases sound there with same | ⟨_, new⟩ | ⟨known, here, _, passage⟩
  · exact off ⟨later, same, on⟩
  · rw [new] at on
    cases on
  · -- Of all passages only joining leads to another flight, and that flight is open.
    rcases passage.to_flight on with ⟨before, _, _⟩ | ⟨_, _, joined, there, opened, _⟩
    · exact off ⟨known, here, before⟩
    · rw [found] at there
      cases there
      rw [opened] at ended
      cases ended

/-- Nobody boards a flight that has ended. -/
theorem Sound.boarded_of_run (sound : Sound factory) {member flight : Nat} {attempt : Attempt}
    (settled : Settled factory flight attempt)
    (boarded : Boarded (factory.run events) member flight) : Boarded factory member flight := by
  -- Whoever boards finds the flight open, and an end is for good.
  by_contra off
  obtain ⟨past, event, future, rfl, before, boards⟩ :=
    During.turning (fun now => Boarded now member flight) off boarded
  have now := sound.run past
  exact (step_transition (factory.run past) event).boards now boards before attempt
    ((settled.grows (sound.run_grows past)).grows (now.step_grows event))

/-! ## Answers -/

/-- The identifier of a flight that a caller is on is its own, also after a step. -/
theorem Sound.own_step (sound : Sound factory) {member flight : Nat} {caller : Caller}
    {flown : Flight} (here : factory.callers[member]? = some caller)
    (on : caller.stage.flight? = some flight)
    (found : (factory.step event).flights[flight]? = some flown) : flown.id = caller.id := by
  -- The flight had the caller's identifier before, and flights keep theirs.
  obtain ⟨earlier, flies, own⟩ := sound.crewed.own here on
  obtain ⟨later, there, continues⟩ := (sound.step_grows event).flights flight earlier flies
  rw [found] at there
  cases there
  exact continues.id.trans own

/-- How a caller comes to its answer with an event. -/
inductive Learns (factory : Factory ρ) (event : Event ρ) (id : Identifier) (member : Nat) :
    Stage → Prop where
  /-- It finds the resource in the cache. -/
  | hit {build : Nat} (cached : (id, build) ∈ (factory.step event).cache.toList) :
      Learns factory event id member (.served build)
  /-- It finds the factory closed. -/
  | closed (shut : (factory.step event).phase = .shutdown) :
      Learns factory event id member (.refused .closed)
  /-- It takes the end of its flight, which is one for the identifier. -/
  | flight {stage : Stage} {flight : Nat} {flown : Flight}
      (found : (factory.step event).flights[flight]? = some flown) (own : flown.id = id)
      (answers : Answers factory event flight member stage) :
      Learns factory event id member stage

/-- A caller that has just been answered has looked at the cache and the phase, or at a flight. -/
theorem Sound.learns (sound : Sound factory) {member : Nat} {caller : Caller}
    (there : (factory.step event).callers[member]? = some caller)
    (isOver : caller.stage.isOver = true) (stays : caller.stage ≠ .cancelled)
    (new : factory.callers[member]? ≠ some caller) :
    Learns factory event caller.id member caller.stage := by
  have stands : (factory.step event).stage? member = some caller.stage := stage?_of_caller there rfl
  rcases (step_transition factory event).caller_cases sound there with
    same | ⟨_, entering⟩ | ⟨known, here, ids, passage⟩
  · exact absurd same new
  · rw [entering] at isOver
    cases isOver
  · rw [← ids]
    -- An answer comes from one of three passages; the others lead to stages that are no answer.
    generalize caller.stage = stage at stands isOver stays passage
    cases passage with
    | wander _ _ hit refused =>
      cases stage with
      | served build => exact .hit (hit build rfl)
      | refused error =>
        obtain ⟨rfl, shut⟩ := refused error rfl
        exact .closed shut
      | cancelled => exact absurd rfl stays
      | _ => cases isOver
    | join => cases isOver
    | drive _ still =>
      rw [Stage.flight?_of_isOver isOver] at still
      cases still
    | take on found =>
      exact .flight found (sound.own_step here on found)
        ⟨⟨known, here, on⟩, stands, Attempt.flight?_stage _, stays⟩
    | quit => exact absurd rfl stays

/-- What a flight that was open at first has ended with has its reason in some step since. -/
theorem Sound.ends (sound : Sound factory) {flight : Nat} {attempt : Attempt}
    (opened : ¬Settled factory flight attempt)
    (settled : Settled (factory.run events) flight attempt) :
    factory.During events fun now event => ∃ flown,
      (now.step event).flights[flight]? = some flown ∧
        Reason now event (now.step event) flown flight attempt := by
  obtain ⟨past, event, future, rfl, before, ends⟩ :=
    During.turning (fun now => Settled now flight attempt) opened settled
  have now := sound.run past
  -- The step that ends the flight has a reason to.
  have reason := (step_transition (factory.run past) event).settles now ends
  exact ⟨past, event, future, rfl, reason.resolve_left before⟩

/-- What is cached later on is cached now, in somebody's hands, or of a call that is not over. -/
theorem Sound.cached_source (sound : Sound factory) {id : Identifier} {build : Nat}
    (entry : (id, build) ∈ (factory.run events).cache.toList) :
    (id, build) ∈ factory.cache.toList ∨ Held factory build ∨ Unfinished factory build := by
  by_cases held : Held factory build
  · exact .inr (.inl held)
  by_cases unfinished : Unfinished factory build
  · exact .inr (.inr unfinished)
  · -- The call of the builder is over, so it had handed out by now what is cached later on.
    unfold Unfinished at unfinished
    push Not at unfinished
    obtain ⟨work, found, stopped⟩ := unfinished
    have grows := sound.run_grows events
    obtain ⟨unreleased, again, _, there, ids, ready, _⟩ := (sound.run events).kept.cached entry
    obtain ⟨later, same, continues⟩ := grows.builds build work found
    rw [there] at same
    cases same
    have handed : Handed factory build := ⟨work, found, (continues.status stopped).symm.trans ready⟩
    by_cases secured : Secured factory build
    · rcases secured with ⟨name, cached⟩ | gone
      · -- The build has one identifier, and is cached under no other.
        obtain ⟨_, before, _, here, own, _⟩ := sound.kept.cached cached
        rw [found] at here
        cases here
        rw [continues.id, own] at ids
        subst ids
        exact .inl cached
      · exact absurd (grows.released.subset gone) unreleased
    · have lost := Lost.run ⟨handed, held, secured⟩ sound events
      exact absurd (.inl ⟨id, entry⟩) lost.unsecured

/-! ## Newcomers -/

/-- Where the answer of a caller comes from that has come since a moment. -/
inductive Since (fresh : Factory ρ) (events : List (Event ρ)) (member : Nat) (id : Identifier) :
    Stage → Prop where
  /-- The resource has been cached since. -/
  | cached {build : Nat} (front back : List (Event ρ)) (cut : events = front ++ back)
      (entry : (id, build) ∈ (fresh.run front).cache.toList) :
      Since fresh events member id (.served build)
  /-- The factory has been closed. -/
  | closed (shut : (fresh.run events).phase = .shutdown) :
      Since fresh events member id (.refused .closed)
  /-- A call of the builder that was not over has ended with the error since. -/
  | told {build : Nat} {error : FactoryError} (unfinished : Unfinished fresh build)
      (told : fresh.Told events member id build error) :
      Since fresh events member id (.refused error)

/-- The end of a flight is told to a newcomer of that flight as what has happened since. -/
theorem Sound.since_end (sound : Sound factory) {member flight : Nat} {flown : Flight}
    {attempt : Attempt} (found : (factory.run events).flights[flight]? = some flown)
    (ended : flown.cell = some attempt) (opened : ¬Settled factory flight attempt)
    (isOver : attempt.stage.isOver = true)
    (answered : factory.During events fun now event =>
      Answers now event flight member attempt.stage) :
    Since factory events member flown.id attempt.stage := by
  obtain ⟨front, event, back, rfl, earlier, flies, reason⟩ :=
    sound.ends opened ⟨flown, found, ended⟩
  have now := sound.run front
  have later := (now.step event).run_grows back
  rw [← run_concat, ← run_append, List.append_assoc, List.singleton_append] at later
  -- The flight keeps its identifier from its end on.
  have same : flown.id = earlier.id := by
    rw [← run_concat] at flies
    obtain ⟨again, there, continues⟩ := later.flights flight earlier flies
    rw [found] at there
    cases there
    exact continues.id
  rw [same]
  -- Each reason is what a newcomer of the flight may be told; a stale end is no answer.
  cases reason with
  | cached entry =>
    rw [← run_concat] at entry
    exact .cached (front ++ [event]) back (by simp) entry
  | @reported build error reports =>
    obtain ⟨driver, outcome, _, drives, _⟩ := id reports
    obtain ⟨work, builds, _, _, running⟩ := now.worked.holds drives rfl
    have unfinished : Unfinished (factory.run front) build := by
      intro again there
      rw [builds] at there
      cases there
      exact running
    exact .told (unfinished.of_grows (sound.run_grows front))
      ⟨flight, ⟨front, event, back, rfl, reports⟩, answered⟩
  | closed shut =>
    rw [← run_concat] at shut
    exact .closed (later.closed shut)
  | stale => cases isOver

/-- Whoever comes after a moment is answered with what has happened after that moment. -/
theorem Sound.since (sound : Sound factory) {member : Nat} {caller : Caller}
    (there : (factory.run events).callers[member]? = some caller)
    (new : factory.callers.size ≤ member) (isOver : caller.stage.isOver = true)
    (stays : caller.stage ≠ .cancelled) :
    Since factory events member caller.id caller.stage := by
  -- The caller was not there at first, so some event has brought its answer.
  have absent : factory.callers[member]? ≠ some caller := by
    intro here
    have inside := (Array.getElem?_eq_some_iff.mp here).1
    omega
  obtain ⟨past, event, future, rfl, before, after⟩ :=
    During.turning (fun now => now.callers[member]? = some caller) absent there
  have now := sound.run past
  have later := (now.step event).run_grows future
  rw [← run_concat, ← run_append, List.append_assoc, List.singleton_append] at later
  -- What it has learnt at that moment has happened by the end of the run.
  have learns := now.learns after isOver stays before
  generalize caller.stage = stage at learns isOver
  cases learns with
  | hit cached =>
    rw [← run_concat] at cached
    exact .cached (past ++ [event]) future (by simp) cached
  | closed shut =>
    rw [← run_concat] at shut
    exact .closed (later.closed shut)
  | @flight _ flight flown found own answers =>
    obtain ⟨again, attempt, same, ended, rfl⟩ := now.answers answers
    rw [found] at same
    cases same
    -- The flight was open at first, since the caller has boarded it.
    have opened : ¬Settled factory flight attempt := by
      intro settled
      have early := (sound.boarded_of_run settled answers.1).lt_size
      omega
    rw [← run_concat] at found
    obtain ⟨last, there, continues⟩ := later.flights flight flown found
    rw [← own, ← continues.id]
    exact sound.since_end there (continues.cell attempt ended) opened isOver
      ⟨past, event, future, rfl, answers⟩

end Run

end PackGate.Factory
