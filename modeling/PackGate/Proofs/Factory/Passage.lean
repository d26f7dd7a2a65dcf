import PackGate.Proofs.Factory.Invariant

/-! What becomes of one caller in a step: it moves only at events of its own, and in five ways. -/

namespace PackGate.Factory

variable {ρ : Type}

/-- The stages that a caller may move to in a step. -/
inductive Passage (factory after : Factory ρ) (known : Caller) : Stage → Prop where
  /-- From wandering to another stage without a flight; a resource comes from the cache. -/
  | wander {stage : Stage} (wanders : known.stage.wanders = true) (without : stage.flight? = none)
      (hit : ∀ build, stage = .served build → (known.id, build) ∈ after.cache.toList)
      (refused : ∀ error, stage = .refused error → error = .closed ∧ after.phase = .shutdown) :
      Passage factory after known stage
  /-- From wandering to an open flight of no older generation, as long as the factory runs. -/
  | join {flight : Nat} {flown : Flight} (wanders : known.stage.wanders = true)
      (found : after.flights[flight]? = some flown) (opened : flown.cell = none)
      (current : after.generation ≤ flown.generation) (runs : after.phase ≠ .shutdown) :
      Passage factory after known (.joined flight)
  /-- From a flight to driving it; whoever begins to drive has found nothing in the cache. -/
  | drive {flight : Nat} {stage : Stage} (on : known.stage.flight? = some flight)
      (still : stage.flight? = some flight) (drives : stage.drives = true)
      (begins : known.stage.drives = true ∨ (factory.cache.get known.id).1 = none) :
      Passage factory after known stage
  /-- From a flight with its end, which is older than the step or a cached resource. -/
  | take {flight : Nat} {flown : Flight} {attempt : Attempt}
      (on : known.stage.flight? = some flight) (found : after.flights[flight]? = some flown)
      (ended : flown.cell = some attempt)
      (source : ∀ build, attempt = .ready build →
        (known.stage = .joined flight ∧ ∃ earlier, factory.flights[flight]? = some earlier ∧
          earlier.cell = some attempt) ∨ (known.id, build) ∈ after.cache.toList) :
      Passage factory after known attempt.stage
  /-- Away. -/
  | quit : Passage factory after known .cancelled

/-- A caller that lands takes the end that it gives its flight. -/
theorem Passage.land {factory between : Factory ρ} {member flight : Nat} {known : Caller}
    {flown : Flight} {attempt : Attempt} (on : known.stage.flight? = some flight)
    (found : between.flights[flight]? = some flown)
    (source : ∀ build, attempt = .ready build → (known.id, build) ∈ between.cache.toList) :
    Passage factory (between.land member flight attempt) known attempt.stage := by
  -- The end that the flight gets is there when the caller takes it.
  have ended : (between.land member flight attempt).flights[flight]? =
      some { flown with cell := some attempt, members := flown.members.erase member } := by
    rw [land_flights]
    exact getElem?_modify_self found _
  refine .take on ended rfl fun build same => .inr ?_
  rw [(land_frame ..).cache]
  exact source build same

section Inversion

variable {factory after : Factory ρ} {known : Caller} {stage : Stage} {flight build : Nat}

/-- From a flight a caller goes on to drive it, takes its end, or goes away. -/
theorem Passage.of_flight (passage : Passage factory after known stage)
    (on : known.stage.flight? = some flight) :
    stage.flight? = some flight ∨ stage = .cancelled ∨
      ∃ flown attempt, after.flights[flight]? = some flown ∧ flown.cell = some attempt ∧
        stage = attempt.stage := by
  cases passage with
  -- Whoever wanders is on no flight.
  | wander wanders =>
    rw [Stage.flight?_of_wanders wanders] at on
    cases on
  | join wanders =>
    rw [Stage.flight?_of_wanders wanders] at on
    cases on
  | drive before still =>
    rw [on] at before
    cases before
    exact .inl still
  | take before found ended =>
    rw [on] at before
    cases before
    exact .inr (.inr ⟨_, _, found, ended, rfl⟩)
  | quit => exact .inr (.inl rfl)

/-- Whoever is on a flight afterwards drives it and was on it before, or has joined it. -/
theorem Passage.to_flight (passage : Passage factory after known stage)
    (on : stage.flight? = some flight) :
    (known.stage.flight? = some flight ∧ stage.drives = true ∧
        (known.stage.drives = true ∨ (factory.cache.get known.id).1 = none)) ∨
      stage = .joined flight ∧ after.phase ≠ .shutdown ∧ ∃ flown,
        after.flights[flight]? = some flown ∧ flown.cell = none ∧
          after.generation ≤ flown.generation := by
  cases passage with
  | wander _ without =>
    rw [without] at on
    cases on
  | join _ found opened current runs =>
    cases on
    exact .inr ⟨rfl, runs, _, found, opened, current⟩
  | drive before still drives begins =>
    rw [on] at still
    cases still
    exact .inl ⟨before, drives, begins⟩
  | take =>
    -- The end of a flight leads away from it.
    rw [Attempt.flight?_stage] at on
    cases on
  | quit => cases on

/-- Whoever is served has hit the cache, or takes what its flight has ended with. -/
theorem Passage.to_served (passage : Passage factory after known (.served build)) :
    (known.id, build) ∈ after.cache.toList ∨ ∃ flight flown,
      known.stage.flight? = some flight ∧ after.flights[flight]? = some flown ∧
        flown.cell = some (.ready build) ∧
          ((known.stage = .joined flight ∧ ∃ earlier, factory.flights[flight]? = some earlier ∧
            earlier.cell = some (.ready build)) ∨ (known.id, build) ∈ after.cache.toList) := by
  generalize stands : Stage.served build = stage at passage
  cases passage with
  | wander _ _ hit => exact .inl (hit build stands.symm)
  | join => cases stands
  | drive _ still =>
    subst stands
    cases still
  | @take flight flown attempt on found ended source =>
    -- Of the ends of a flight only a resource serves anybody.
    cases attempt with
    | ready other =>
      cases stands
      exact .inr ⟨flight, flown, on, found, ended, source build rfl⟩
    | failed error => cases stands
    | stale => cases stands
  | quit => cases stands

end Inversion

variable [Releasable ρ] {factory after : Factory ρ} {event : Event ρ}

/-- In a step nobody moves, a caller comes, or the caller that the event is about moves. -/
theorem Transition.passage (transition : Transition factory event after) (sound : Sound factory) :
    after.callers = factory.callers ∨
      (∃ id, event = .call id ∧ after.callers = factory.callers.push { id }) ∨
      ∃ actor known stage, event.actor? = some actor ∧ factory.callers[actor]? = some known ∧
        after.callers = factory.callers.modify actor ({ · with stage }) ∧
          Passage factory after known stage := by
  -- A flight that a caller is on exists, and a hit of the cache stays cached.
  have flies : ∀ {member flight : Nat} {known : Caller}, factory.callers[member]? = some known →
      known.stage.flight? = some flight → ∃ flown, factory.flights[flight]? = some flown := by
    intro member flight known here on
    obtain ⟨flown, found, _⟩ := sound.crewed.own here on
    exact ⟨flown, found⟩
  have looked : ∀ {between : Factory ρ} {id : Identifier} {build : Nat}, Touched factory between →
      (factory.cache.get id).1 = some build → (id, build) ∈ between.cache.toList := by
    intro between id build touched hit
    refine touched.stays sound.kept.wellFormed ?_
    exact (Cache.Lru.get_contents sound.kept.wellFormed id).1 build hit
  cases transition with
  | idle touched => exact .inl touched.callers
  | call id => exact .inr (.inl ⟨id, rfl, rfl⟩)
  | walk touched here wanders without stays hit refused =>
    refine .inr (.inr ⟨_, _, _, rfl, here, by rw [move_callers, touched.callers],
      .wander wanders without (fun build same => ?_) fun error same => ?_⟩)
    · have cached := looked touched (hit build same)
      exact cached
    · obtain ⟨closed, shut⟩ := refused error same
      exact ⟨closed, touched.closed.mpr shut⟩
  | quit here => exact .inr (.inr ⟨_, _, _, rfl, here, move_callers .., .quit⟩)
  | @join between caller _ known touched here wanders runs =>
    obtain ⟨flight, flown, callers, found, opened, current⟩ := join_flight between caller known.id
    have seats := join_frame between caller known.id
    exact .inr (.inr ⟨_, _, _, rfl, here, by rw [callers, touched.callers],
      .join wanders found opened (by rw [seats.generation]; exact current)
        (by rw [seats.phase]; exact fun shut => runs (touched.closed.mp shut))⟩)
  | @conclude caller flight _ known flown attempt here joined found ended =>
    refine .inr (.inr ⟨_, _, _, rfl, here, depart_callers .., ?_⟩)
    -- The flight loses this member and keeps its end.
    have left : (factory.depart caller flight attempt.stage).flights[flight]? =
        some { flown with members := flown.members.erase caller } := by
      rw [depart_flights]
      exact getElem?_modify_self found _
    exact .take (by rw [joined]; rfl) left ended fun _ _ => .inl ⟨joined, flown, found, ended⟩
  | leave here => exact .inr (.inr ⟨_, _, _, rfl, here, depart_callers .., .quit⟩)
  | abandon here => exact .inr (.inr ⟨_, _, _, rfl, here, depart_callers .., .quit⟩)
  | reuse touched here joined found _ _ hit =>
    refine .inr (.inr ⟨_, _, _, rfl, here, by rw [land_callers, touched.callers],
      .land (by rw [joined]; rfl) (by rw [touched.flights]; exact found) fun build same => ?_⟩)
    cases same
    exact looked touched hit
  | start touched here joined _ _ _ missed =>
    exact .inr (.inr ⟨_, _, _, rfl, here, by rw [move_callers, touched.callers],
      .drive (by rw [joined]; rfl) rfl rfl (.inr missed)⟩)
  | deliver here builds touched =>
    exact .inr (.inr ⟨_, _, _, rfl, here, by rw [move_callers, touched.callers]; rfl,
      .drive (by rw [builds]; rfl) rfl rfl (.inl (by rw [builds]; rfl))⟩)
  | fail here builds touched =>
    obtain ⟨flown, found⟩ := flies here (by rw [builds]; rfl)
    exact .inr (.inr ⟨_, _, _, rfl, here, by rw [land_callers, touched.callers]; rfl,
      .land (by rw [builds]; rfl) (by rw [touched.flights]; exact found)
        fun _ never => by cases never⟩)
  | @discard between caller flight build _ known attempt touched here checks unwanted =>
    -- Releasing moves nobody, and an unwanted resource is nobody's answer.
    have freed := release_frame between build
    obtain ⟨flown, found⟩ := flies here (by rw [checks]; rfl)
    refine .inr (.inr ⟨_, _, _, rfl, here, by rw [land_callers, freed.callers, touched.callers],
      .land (by rw [checks]; rfl) (by rw [freed.flights, touched.flights]; exact found) ?_⟩)
    rintro _ rfl
    cases unwanted
  | @store caller flight build _ known flown here checks _ found =>
    -- The resource that the caller takes is in the cache from this step on.
    obtain ⟨freed, _⟩ := store_frame factory build known.id
    refine .inr (.inr ⟨_, _, _, rfl, here, by rw [land_callers, freed.callers],
      .land (by rw [checks]; rfl) (by rw [freed.flights]; exact found) ?_⟩)
    rintro _ ⟨⟩
    rw [freed.cache, (Cache.Lru.insert_contents sound.kept.wellFormed known.id build).2]
    exact .inl rfl
  | reset _ _ _ _ _ _ callers => exact .inl callers

/-- After a step a caller is where it was, or has made a passage at an event of its own. -/
theorem Transition.moved (transition : Transition factory event after) (sound : Sound factory)
    {member : Nat} {known : Caller} (here : factory.callers[member]? = some known) :
    after.callers[member]? = some known ∨
      event.actor? = some member ∧ ∃ stage, after.callers[member]? = some { known with stage } ∧
        Passage factory after known stage := by
  -- One caller may have come behind the others, and one may have moved.
  rcases transition.passage sound with same | ⟨id, _, pushed⟩ |
    ⟨actor, mover, stage, acts, there, moved, passage⟩
  · rw [same]
    exact .inl here
  · rw [pushed]
    exact .inl (getElem?_push_of_some here _)
  · by_cases same : actor = member
    · subst same
      rw [here] at there
      cases there
      rw [moved]
      exact .inr ⟨acts, stage, getElem?_modify_self here _, passage⟩
    · rw [moved, getElem?_modify_ne _ same]
      exact .inl here

/-- An event about somebody else leaves a caller where it is. -/
theorem Transition.bystander (transition : Transition factory event after) (sound : Sound factory)
    {member : Nat} {known : Caller} (here : factory.callers[member]? = some known)
    (other : event.actor? ≠ some member) : after.callers[member]? = some known := by
  rcases transition.moved sound here with stays | ⟨acts, _⟩
  · exact stays
  · exact absurd acts other

/-- A caller after a step was there before, has just come, or has moved there. -/
theorem Transition.caller_cases (transition : Transition factory event after)
    (sound : Sound factory) {member : Nat} {later : Caller}
    (there : after.callers[member]? = some later) :
    factory.callers[member]? = some later ∨
      factory.callers[member]? = none ∧ later.stage = .entering ∨
        ∃ known, factory.callers[member]? = some known ∧ known.id = later.id ∧
          Passage factory after known later.stage := by
  -- A caller that was there stayed or moved; one that was not has come with this event.
  cases here : factory.callers[member]? with
  | some known =>
    rcases transition.moved sound here with stays | ⟨_, stage, moved, passage⟩
    · rw [stays] at there
      exact .inl there
    · rw [moved] at there
      cases there
      exact .inr (.inr ⟨known, rfl, rfl, passage⟩)
  | none =>
    have outside := Array.getElem?_eq_none_iff.mp here
    have inside := (Array.getElem?_eq_some_iff.mp there).1
    rcases transition.passage sound with same | ⟨id, _, pushed⟩ | ⟨_, _, _, _, _, moved, _⟩
    · rw [same] at inside
      omega
    · -- The caller is the one that has just come.
      rw [pushed, Array.size_push] at inside
      have newest : member = factory.callers.size := by omega
      subst newest
      rw [pushed, Array.getElem?_push_size] at there
      cases there
      exact .inr (.inl ⟨rfl, rfl⟩)
    · rw [moved, Array.size_modify] at inside
      omega

/-- Whoever stands somewhere after a step stood there before, has just come, or has moved there. -/
theorem Transition.stage_cases (transition : Transition factory event after)
    (sound : Sound factory) {member : Nat} {stage : Stage}
    (stands : after.stage? member = some stage) :
    factory.stage? member = some stage ∨ stage = .entering ∨
      ∃ known, factory.callers[member]? = some known ∧ Passage factory after known stage := by
  obtain ⟨later, there, rfl⟩ := Option.map_eq_some_iff.mp stands
  rcases transition.caller_cases sound there with same | ⟨_, new⟩ | ⟨known, here, _, passage⟩
  · exact .inl (stage?_of_caller same rfl)
  · exact .inr (.inl new)
  · exact .inr (.inr ⟨known, here, passage⟩)

end PackGate.Factory
