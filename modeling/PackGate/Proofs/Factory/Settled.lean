import PackGate.Proofs.Factory.Passage

/-! What flights end with, and why: every end has its reason in the step that brings it. -/

namespace PackGate.Factory

variable {ρ : Type}

/-- A flight has ended, and what it ended with. -/
def Settled (factory : Factory ρ) (flight : Nat) (attempt : Attempt) : Prop :=
  ∃ flown, factory.flights[flight]? = some flown ∧ flown.cell = some attempt

/-- The flight that a caller lands on has its end, and is the same otherwise but for that member. -/
theorem land_flight {factory : Factory ρ} {flight : Nat} {flown : Flight} (caller : Nat)
    (attempt : Attempt) (found : factory.flights[flight]? = some flown) :
    (factory.land caller flight attempt).flights[flight]? =
      some { flown with cell := some attempt, members := flown.members.erase caller } := by
  rw [land_flights]
  exact getElem?_modify_self found _

namespace Settled

variable {factory : Factory ρ} {flight : Nat} {attempt : Attempt}

/-- The ends are those of the flights alone. -/
theorem congr {other : Factory ρ} (settled : Settled other flight attempt)
    (flights : other.flights = factory.flights) : Settled factory flight attempt := by
  -- The definition reads nothing but the flights.
  unfold Settled at settled ⊢
  rw [flights] at settled
  exact settled

/-- Leaving a flight ends none. -/
theorem of_depart {caller left : Nat} {stage : Stage}
    (settled : Settled (factory.depart caller left stage) flight attempt) :
    Settled factory flight attempt := by
  obtain ⟨flown, found, ended⟩ := settled
  -- A flight that loses a member keeps its cell.
  rw [depart_flights] at found
  rcases getElem?_modify_cases found with ⟨rfl, earlier, there, rfl⟩ | ⟨_, found⟩
  · exact ⟨earlier, there, ended⟩
  · exact ⟨flown, found, ended⟩

/-- Joining a flight ends none, and a new flight is open. -/
theorem of_join {caller : Nat} {id : Identifier}
    (settled : Settled (factory.join caller id) flight attempt) :
    Settled factory flight attempt := by
  obtain ⟨flown, found, ended⟩ := settled
  -- A flight that is boarded keeps its cell, and one that is started has none filled.
  unfold Factory.join at found
  split at found
  · rcases getElem?_modify_cases found with ⟨rfl, earlier, there, rfl⟩ | ⟨_, found⟩
    · exact ⟨earlier, there, ended⟩
    · exact ⟨flown, found, ended⟩
  · rcases getElem?_push_cases found with ⟨_, rfl⟩ | found
    · cases ended
    · exact ⟨flown, found, ended⟩

/-- Landing ends one flight, with what the caller brings. -/
theorem of_land {caller landing : Nat} {brought : Attempt}
    (settled : Settled (factory.land caller landing brought) flight attempt) :
    Settled factory flight attempt ∨ flight = landing ∧ brought = attempt := by
  obtain ⟨flown, found, ended⟩ := settled
  -- The flight that is landed on has the end that it was given.
  rw [land_flights] at found
  rcases getElem?_modify_cases found with ⟨here, earlier, _, rfl⟩ | ⟨_, found⟩
  · exact .inr ⟨here, Option.some.inj ended⟩
  · exact .inl ⟨flown, found, ended⟩

/-- An end is for good. -/
theorem grows {after : Factory ρ} (settled : Settled factory flight attempt)
    (grows : Grows factory after) : Settled after flight attempt := by
  obtain ⟨flown, found, ended⟩ := settled
  obtain ⟨later, there, continues⟩ := grows.flights flight flown found
  exact ⟨later, there, continues.cell attempt ended⟩

/-- A flight has one end. -/
theorem unique {other : Attempt} (settled : Settled factory flight attempt)
    (also : Settled factory flight other) : attempt = other := by
  obtain ⟨flown, found, ended⟩ := settled
  obtain ⟨again, there, same⟩ := also
  rw [found] at there
  cases there
  rw [ended] at same
  exact Option.some.inj same

end Settled

/-- With an event the builder ends a build for an identifier, and callers are told an error. -/
def Reports (factory : Factory ρ) (event : Event ρ) (id : Identifier) (flight build : Nat)
    (error : FactoryError) : Prop :=
  ∃ driver outcome, event = .finish driver outcome ∧
    factory.callers[driver]? = some ⟨id, .building flight build⟩ ∧
      outcome.report? id factory.budget = some error

/-- Why a flight ends as it does. -/
inductive Reason (factory : Factory ρ) (event : Event ρ) (after : Factory ρ) (flown : Flight)
    (flight : Nat) : Attempt → Prop where
  /-- The resource is in the cache, under the identifier of the flight. -/
  | cached {build : Nat} (entry : (flown.id, build) ∈ after.cache.toList) :
      Reason factory event after flown flight (.ready build)
  /-- The builder has ended a build on the flight with an error. -/
  | reported {build : Nat} {error : FactoryError}
      (reports : factory.Reports event flown.id flight build error) :
      Reason factory event after flown flight (.failed error)
  /-- The factory has been closed. -/
  | closed (shut : after.phase = .shutdown) :
      Reason factory event after flown flight (.failed .closed)
  /-- The flight is of an older generation. -/
  | stale (older : flown.generation < after.generation) :
      Reason factory event after flown flight .stale

variable [Releasable ρ] {factory after : Factory ρ} {event : Event ρ}

/-- A flight that has ended had done so before the step, or the step gives the reason. -/
theorem Transition.settles (transition : Transition factory event after) (sound : Sound factory)
    {flight : Nat} {attempt : Attempt} (settled : Settled after flight attempt) :
    Settled factory flight attempt ∨ ∃ flown, after.flights[flight]? = some flown ∧
      Reason factory event after flown flight attempt := by
  -- Only landing ends a flight; the caller that lands is on a flight for its identifier.
  have own : ∀ {member : Nat} {known : Caller}, factory.callers[member]? = some known →
      known.stage.flight? = some flight →
        ∃ flown, factory.flights[flight]? = some flown ∧ flown.id = known.id :=
    fun here on => sound.crewed.own here on
  cases transition with
  | idle touched => exact .inl (settled.congr touched.flights)
  | call => exact .inl settled
  | walk touched => exact .inl (settled.congr touched.flights)
  | quit => exact .inl settled
  | join touched => exact .inl (settled.of_join.congr touched.flights)
  | conclude => exact .inl settled.of_depart
  | leave => exact .inl settled.of_depart
  | abandon => exact .inl (settled.of_depart.congr rfl)
  | @reuse between _ _ build _ known _ touched here joined found _ _ hit =>
    rcases settled.of_land with before | ⟨rfl, rfl⟩
    · exact .inl (before.congr touched.flights)
    · obtain ⟨flown, flies, ids⟩ := own here (by rw [joined]; rfl)
      refine .inr ⟨_, land_flight _ _ (by rw [touched.flights]; exact flies), .cached ?_⟩
      rw [(land_frame ..).cache, ids]
      refine touched.stays sound.kept.wellFormed ?_
      exact (Cache.Lru.get_contents sound.kept.wellFormed known.id).1 build hit
  | start touched => exact .inl (settled.congr touched.flights)
  | deliver _ _ touched => exact .inl (settled.congr touched.flights)
  | @fail _ driver _ build outcome known _ error here builds touched _ _ told =>
    rcases settled.of_land with before | ⟨rfl, rfl⟩
    · exact .inl (before.congr touched.flights)
    · obtain ⟨flown, flies, ids⟩ := own here (by rw [builds]; rfl)
      have reports : factory.Reports (.finish driver outcome) flown.id flight build error :=
        ⟨driver, outcome, rfl, by rw [here, ids, ← builds], by rw [ids]; exact told⟩
      exact .inr ⟨_, land_flight _ _ (by rw [touched.flights]; exact flies), .reported reports⟩
  | @discard between _ _ build _ known _ touched here checks unwanted =>
    have freed := release_frame between build
    rcases settled.of_land with before | ⟨rfl, rfl⟩
    · exact .inl (before.congr (freed.flights.trans touched.flights))
    · obtain ⟨flown, flies, ids⟩ := own here (by rw [checks]; rfl)
      refine .inr ⟨_, land_flight _ _ (by rw [freed.flights, touched.flights]; exact flies), ?_⟩
      cases unwanted with
      | closed shut =>
        refine .closed ?_
        rw [(land_frame ..).phase, freed.phase]
        exact touched.closed.mpr shut
      | stale _ older =>
        have past := sound.crewed.past flies
        have apart := older flown flies
        refine .stale ?_
        rw [(land_frame ..).generation, freed.generation, touched.generation]
        exact Nat.lt_of_le_of_ne past apart
  | @store _ _ build _ known _ here checks =>
    obtain ⟨freed, _⟩ := store_frame factory build known.id
    rcases settled.of_land with before | ⟨rfl, rfl⟩
    · exact .inl (before.congr freed.flights)
    · obtain ⟨flown, flies, ids⟩ := own here (by rw [checks]; rfl)
      refine .inr ⟨_, land_flight _ _ (by rw [freed.flights]; exact flies), .cached ?_⟩
      rw [(land_frame ..).cache, freed.cache,
        (Cache.Lru.insert_contents sound.kept.wellFormed known.id build).2]
      exact .inl (by rw [ids])
  | reset _ _ _ _ flights => exact .inl (settled.congr flights)

/-- A caller on a flight that has ended takes the end when it looks. -/
theorem Settled.advance {member flight : Nat} {attempt : Attempt}
    (settled : Settled factory flight attempt)
    (stands : factory.stage? member = some (.joined flight)) (resource : ρ) :
    (factory.step (.advance member resource)).stage? member = some attempt.stage := by
  obtain ⟨flown, found, ended⟩ := settled
  obtain ⟨known, here, joined⟩ := Option.map_eq_some_iff.mp stands
  -- The caller looks at the cell alone, and not at phase or generation.
  have takes : factory.step (.advance member resource) =
      factory.depart member flight attempt.stage := by
    simp only [Factory.step, Factory.advance, here, joined, resume, found, ended,
      conclude_eq_depart]
  rw [takes, stage?, depart_callers, getElem?_modify_self here]
  rfl

end PackGate.Factory
