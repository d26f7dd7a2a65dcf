import PackGate.Proofs.Factory.Transition

/-! Who is on which flight, and which flights the table tracks: what every change of them keeps. -/

namespace PackGate.Factory

variable {ρ : Type}

/-- Callers, flights and table agree with each other. -/
structure Crewed (factory : Factory ρ) : Prop where
  /-- The members of a flight are the callers whose stage names it. -/
  members : ∀ {flight known}, factory.flights[flight]? = some known → ∀ member : Nat,
    member ∈ known.members ↔
      ∃ caller, factory.callers[member]? = some caller ∧ caller.stage.flight? = some flight
  /-- Nobody is on a flight twice. -/
  distinct : ∀ {flight : Nat} {known}, factory.flights[flight]? = some known → known.members.Nodup
  /-- A caller is on a flight of the identifier that it asked for. -/
  own : ∀ {member : Nat} {caller flight}, factory.callers[member]? = some caller →
    caller.stage.flight? = some flight →
      ∃ known, factory.flights[flight]? = some known ∧ known.id = caller.id
  /-- A driver is the first member of a flight that has not ended. -/
  driver : ∀ {member : Nat} {caller flight known}, factory.callers[member]? = some caller →
    caller.stage.flight? = some flight → caller.stage.drives = true →
      factory.flights[flight]? = some known → known.cell = none ∧ known.members.head? = some member
  /-- A tracked flight is one for the identifier that it is tracked under, and has a member. -/
  tracked : ∀ {id : Identifier} {flight : Nat}, factory.table[id]? = some flight →
    ∃ known, factory.flights[flight]? = some known ∧ known.id = id ∧ known.members ≠ []
  /-- An open flight of the current generation is tracked as long as it has a member. -/
  tracks : ∀ {flight : Nat} {known}, factory.flights[flight]? = some known →
    known.generation = factory.generation → known.cell = none → known.members ≠ [] →
      factory.table[known.id]? = some flight
  /-- No flight is of a generation yet to come. -/
  past : ∀ {flight : Nat} {known}, factory.flights[flight]? = some known →
    known.generation ≤ factory.generation

namespace Crewed

variable {factory : Factory ρ}

/-- The agreement is one of callers, flights, table and generation alone. -/
theorem congr {other : Factory ρ} (crewed : Crewed factory)
    (callers : other.callers = factory.callers) (flights : other.flights = factory.flights)
    (table : other.table = factory.table) (generation : other.generation = factory.generation) :
    Crewed other := by
  -- Every clause reads only the four parts that are the same.
  obtain ⟨members, distinct, own, driver, tracked, tracks, past⟩ := crewed
  rw [← callers, ← flights] at members own driver
  rw [← flights] at distinct
  rw [← flights, ← table] at tracked
  rw [← flights, ← table, ← generation] at tracks
  rw [← flights, ← generation] at past
  exact ⟨members, distinct, own, driver, tracked, tracks, past⟩

/-- Two callers that drive one flight are the same caller. -/
theorem driver_unique (crewed : Crewed factory) {first second : Nat} {one two : Caller}
    {flight : Nat} (here : factory.callers[first]? = some one)
    (there : factory.callers[second]? = some two) (on : one.stage.flight? = some flight)
    (also : two.stage.flight? = some flight) (drives : one.stage.drives = true)
    (leads : two.stage.drives = true) : first = second := by
  -- Both are the first member of the flight.
  obtain ⟨known, found, _⟩ := crewed.own here on
  have head := (crewed.driver here on drives found).2
  rw [(crewed.driver there also leads found).2] at head
  exact (Option.some.inj head).symm

/-- A new caller is on no flight yet. -/
theorem call (crewed : Crewed factory) (id : Identifier) :
    Crewed { factory with callers := factory.callers.push { id } } := by
  -- Every caller that is on a flight was there before.
  have older : ∀ {member : Nat} {caller flight},
      (factory.callers.push { id })[member]? = some caller → caller.stage.flight? = some flight →
        factory.callers[member]? = some caller := by
    intro member caller flight found on
    rcases getElem?_push_cases found with ⟨_, rfl⟩ | there
    · cases on
    · exact there
  refine ⟨?_, crewed.distinct, ?_, ?_, crewed.tracked, crewed.tracks, crewed.past⟩
  · intro flight known found member
    rw [crewed.members found member]
    constructor
    · rintro ⟨caller, here, on⟩
      exact ⟨caller, getElem?_push_of_some here _, on⟩
    · rintro ⟨caller, here, on⟩
      exact ⟨caller, older here on, on⟩
  · intro member caller flight here on
    exact crewed.own (older here on) on
  · intro member caller flight known here on
    exact crewed.driver (older here on) on

/-- A caller that is on no flight moves to a stage without one. -/
theorem move (crewed : Crewed factory) {member : Nat} {caller : Caller} {stage : Stage}
    (here : factory.callers[member]? = some caller) (free : caller.stage.flight? = none)
    (without : stage.flight? = none) : Crewed (factory.move member stage) := by
  -- Whoever is on a flight afterwards is another caller, who has not moved.
  have others : ∀ {other : Nat} {known flight},
      (factory.move member stage).callers[other]? = some known →
      known.stage.flight? = some flight → factory.callers[other]? = some known := by
    intro other known flight found on
    rcases getElem?_modify_cases found with ⟨_, old, _, rfl⟩ | ⟨_, there⟩
    · rw [without] at on
      cases on
    · exact there
  refine ⟨?_, crewed.distinct, ?_, ?_, crewed.tracked, crewed.tracks, crewed.past⟩
  · intro flight known found other
    rw [crewed.members found other]
    constructor
    · rintro ⟨known, there, on⟩
      refine ⟨known, ?_, on⟩
      have apart : member ≠ other := by
        intro same
        subst same
        rw [here] at there
        cases there
        rw [free] at on
        cases on
      rw [move_callers, getElem?_modify_ne _ apart]
      exact there
    · rintro ⟨known, there, on⟩
      exact ⟨known, others there on, on⟩
  · intro other known flight there on
    exact crewed.own (others there on) on
  · intro other known flight found there on
    exact crewed.driver (others there on) on

end Crewed

/-! ## One caller and one flight -/

/--
A caller changes its stage, a flight changes with it, and nothing else does.

Boarding a flight, driving it, leaving it and ending it are all of this form.
-/
structure Shift (factory after : Factory ρ) (member flight : Nat) (caller : Caller) (stage : Stage)
    (known changed : Flight) : Prop where
  /-- The caller is there. -/
  here : factory.callers[member]? = some caller
  /-- The flight is there. -/
  found : factory.flights[flight]? = some known
  /-- The caller has not been on any other flight. -/
  before : ∀ named, caller.stage.flight? = some named → named = flight
  /-- The caller does not come to any other flight. -/
  moved : ∀ named, stage.flight? = some named → named = flight
  /-- The caller changes its stage, and no other caller does. -/
  callers : after.callers = factory.callers.modify member ({ · with stage })
  /-- The flight changes, and no other flight does. -/
  flights : ∀ named : Nat,
    after.flights[named]? = if flight = named then some changed else factory.flights[named]?
  /-- The generation is the same. -/
  generation : after.generation = factory.generation
  /-- The flight keeps its identifier. -/
  id : changed.id = known.id
  /-- The flight keeps its generation. -/
  era : changed.generation = known.generation
  /-- If the caller is on the flight then, the flight is for its identifier. -/
  own : stage.flight? = some flight → known.id = caller.id
  /-- The other members stay, and the caller is a member if its stage says so. -/
  members : ∀ other, other ∈ changed.members ↔
    (other ≠ member ∧ other ∈ known.members) ∨ (other = member ∧ stage.flight? = some flight)
  /-- No member is listed twice. -/
  distinct : changed.members.Nodup
  /-- Another caller that drives the flight can go on driving it. -/
  driver : ∀ other ≠ member, known.cell = none → known.members.head? = some other →
    changed.cell = none ∧ changed.members.head? = some other
  /-- The caller drives the flight only if the flight is open and it is the caller's turn. -/
  turn : stage.drives = true → changed.cell = none ∧ changed.members.head? = some member
  /-- The table drops the flight when nobody is on it any more, and nothing else. -/
  tracked : ∀ (name : Identifier) (named : Nat), after.table[name]? = some named ↔
    factory.table[name]? = some named ∧ (named = flight → changed.members ≠ [])
  /-- A flight that is open with members was so before. -/
  opened : changed.cell = none → changed.members ≠ [] → known.cell = none ∧ known.members ≠ []

namespace Shift

variable {factory after : Factory ρ} {member flight : Nat} {caller : Caller} {stage : Stage}
  {known changed : Flight}

/-- The caller stands at its new stage. -/
theorem now (shift : Shift factory after member flight caller stage known changed) :
    after.callers[member]? = some { caller with stage } := by
  rw [shift.callers]
  exact getElem?_modify_self shift.here _

/-- The other callers stand where they stood. -/
theorem others (shift : Shift factory after member flight caller stage known changed) {other : Nat}
    (apart : other ≠ member) : after.callers[other]? = factory.callers[other]? := by
  rw [shift.callers]
  exact getElem?_modify_ne _ (Ne.symm apart) _

/-- The flight has changed. -/
theorem full (shift : Shift factory after member flight caller stage known changed) :
    after.flights[flight]? = some changed := by
  rw [shift.flights, if_pos rfl]

/-- A caller is the one that moved, or it is another one and stands where it stood. -/
theorem callers_cases (shift : Shift factory after member flight caller stage known changed)
    {other : Nat} {asker : Caller} (there : after.callers[other]? = some asker) :
    (other = member ∧ asker = { caller with stage }) ∨
      (other ≠ member ∧ factory.callers[other]? = some asker) := by
  by_cases same : other = member
  · subst same
    rw [shift.now] at there
    exact .inl ⟨rfl, (Option.some.inj there).symm⟩
  · rw [shift.others same] at there
    exact .inr ⟨same, there⟩

/-- A flight is the one that changed, or it is another one and as it was. -/
theorem flights_cases (shift : Shift factory after member flight caller stage known changed)
    {named : Nat} {flown : Flight} (there : after.flights[named]? = some flown) :
    (named = flight ∧ flown = changed) ∨
      (named ≠ flight ∧ factory.flights[named]? = some flown) := by
  rw [shift.flights] at there
  split at there
  · rename_i equal
    exact .inl ⟨equal.symm, (Option.some.inj there).symm⟩
  · rename_i apart
    exact .inr ⟨Ne.symm apart, there⟩

/-- Every flight is still there, with its identifier, and with members if it had any. -/
theorem remains (shift : Shift factory after member flight caller stage known changed)
    {named : Nat} {flown : Flight} (there : factory.flights[named]? = some flown) :
    ∃ later, after.flights[named]? = some later ∧ later.id = flown.id ∧
      ((named = flight → changed.members ≠ []) → flown.members ≠ [] → later.members ≠ []) := by
  by_cases equal : named = flight
  · subst equal
    rw [shift.found] at there
    cases there
    exact ⟨changed, shift.full, shift.id, fun crowded _ => crowded rfl⟩
  · refine ⟨flown, ?_, rfl, fun _ crowded => crowded⟩
    rw [shift.flights, if_neg (Ne.symm equal)]
    exact there

/-- The members of a flight are the callers whose stage names it then. -/
theorem members_iff (shift : Shift factory after member flight caller stage known changed)
    (crewed : Crewed factory) {named : Nat} {flown : Flight}
    (there : after.flights[named]? = some flown) (other : Nat) :
    other ∈ flown.members ↔
      ∃ asker, after.callers[other]? = some asker ∧ asker.stage.flight? = some named := by
  rcases shift.flights_cases there with ⟨rfl, rfl⟩ | ⟨apart, there⟩
  · rw [shift.members other]
    by_cases same : other = member
    · subst same
      simp [shift.now]
    · simp [same, shift.others same, crewed.members shift.found other]
  · rw [crewed.members there other]
    by_cases same : other = member
    · -- Neither before nor after is the caller on a flight other than this one.
      subst same
      have never : caller.stage.flight? ≠ some named := fun on => apart (shift.before named on)
      have nor : stage.flight? ≠ some named := fun on => apart (shift.moved named on)
      simp [shift.here, shift.now, never, nor]
    · rw [shift.others same]

/-- A caller is on a flight of its identifier then. -/
theorem own_flight (shift : Shift factory after member flight caller stage known changed)
    (crewed : Crewed factory) {other named : Nat} {asker : Caller}
    (there : after.callers[other]? = some asker) (on : asker.stage.flight? = some named) :
    ∃ later, after.flights[named]? = some later ∧ later.id = asker.id := by
  have earlier : ∃ flown, factory.flights[named]? = some flown ∧ flown.id = asker.id := by
    rcases shift.callers_cases there with ⟨_, rfl⟩ | ⟨_, there⟩
    · obtain rfl := shift.moved named on
      exact ⟨known, shift.found, shift.own on⟩
    · exact crewed.own there on
  obtain ⟨flown, flies, ids⟩ := earlier
  obtain ⟨later, still, same, _⟩ := shift.remains flies
  exact ⟨later, still, same.trans ids⟩

/-- A driver is the first member of an open flight then. -/
theorem driver_first (shift : Shift factory after member flight caller stage known changed)
    (crewed : Crewed factory) {other named : Nat} {asker : Caller} {flown : Flight}
    (there : after.callers[other]? = some asker) (on : asker.stage.flight? = some named)
    (drives : asker.stage.drives = true) (flies : after.flights[named]? = some flown) :
    flown.cell = none ∧ flown.members.head? = some other := by
  rcases shift.callers_cases there with ⟨rfl, rfl⟩ | ⟨apart, there⟩
  · -- The caller drives its flight only when its turn has come.
    obtain rfl := shift.moved named on
    rw [shift.full] at flies
    cases flies
    exact shift.turn drives
  · rcases shift.flights_cases flies with ⟨rfl, rfl⟩ | ⟨_, flies⟩
    · obtain ⟨cell, head⟩ := crewed.driver there on drives shift.found
      exact shift.driver other apart cell head
    · exact crewed.driver there on drives flies

/-- An open flight of the current generation is tracked then as long as it has a member. -/
theorem tracks (shift : Shift factory after member flight caller stage known changed)
    (crewed : Crewed factory) {named : Nat} {flown : Flight}
    (flies : after.flights[named]? = some flown)
    (current : flown.generation = factory.generation) (cell : flown.cell = none)
    (nonempty : flown.members ≠ []) : after.table[flown.id]? = some named := by
  rw [shift.tracked]
  rcases shift.flights_cases flies with ⟨rfl, rfl⟩ | ⟨apart, flies⟩
  · -- It was open and had members before, so it was tracked.
    obtain ⟨wasOpen, crowded⟩ := shift.opened cell nonempty
    rw [shift.id]
    exact ⟨crewed.tracks shift.found (shift.era.symm.trans current) wasOpen crowded,
      fun _ => nonempty⟩
  · exact ⟨crewed.tracks flies current cell nonempty, fun same => absurd same apart⟩

end Shift

namespace Crewed

variable {factory : Factory ρ}

/-- One caller and one flight that change together keep the agreement. -/
theorem shift (crewed : Crewed factory) {after : Factory ρ} {member flight : Nat} {caller : Caller}
    {stage : Stage} {known changed : Flight}
    (shift : Shift factory after member flight caller stage known changed) : Crewed after where
  members there other := shift.members_iff crewed there other
  distinct there := by
    rcases shift.flights_cases there with ⟨_, rfl⟩ | ⟨_, there⟩
    · exact shift.distinct
    · exact crewed.distinct there
  own there on := shift.own_flight crewed there on
  driver there on drives flies := shift.driver_first crewed there on drives flies
  tracked there := by
    -- What is tracked was tracked, and the changed flight only if it has a member.
    obtain ⟨earlier, nonempty⟩ := (shift.tracked _ _).mp there
    obtain ⟨flown, flies, ids, crowded⟩ := crewed.tracked earlier
    obtain ⟨later, still, same, full⟩ := shift.remains flies
    exact ⟨later, still, same.trans ids, full nonempty crowded⟩
  tracks flies current cell nonempty := by
    rw [shift.generation] at current
    exact shift.tracks crewed flies current cell nonempty
  past flies := by
    rw [shift.generation]
    rcases shift.flights_cases flies with ⟨_, rfl⟩ | ⟨_, flies⟩
    · rw [shift.era]
      exact crewed.past shift.found
    · exact crewed.past flies

/-- A caller on a flight moves to another stage on it, to drive it only if it is its turn. -/
theorem restage (crewed : Crewed factory) {member flight : Nat} {caller : Caller} {known : Flight}
    {stage : Stage} (here : factory.callers[member]? = some caller)
    (on : caller.stage.flight? = some flight) (stays : stage.flight? = some flight)
    (found : factory.flights[flight]? = some known)
    (turn : known.cell = none ∧ known.members.head? = some member) :
    Crewed (factory.move member stage) := by
  have mem : member ∈ known.members := (crewed.members found member).mpr ⟨caller, here, on⟩
  obtain ⟨owned, again, ids⟩ := crewed.own here on
  rw [found] at again
  cases again
  -- The flight itself does not change, so all that counts is that it is the caller's turn.
  have same : Shift factory (factory.move member stage) member flight caller stage known known := {
    here, found
    before := fun named onNamed => Option.some.inj (onNamed.symm.trans on)
    moved := fun named onNamed => Option.some.inj (onNamed.symm.trans stays)
    callers := rfl
    flights := fun named => by
      by_cases equal : flight = named
      · subst equal
        simp [found]
      · simp [equal]
    generation := rfl
    id := rfl
    era := rfl
    own := fun _ => ids
    members := fun other => by
      by_cases same : other = member
      · subst same
        simp [mem, stays]
      · simp [same]
    distinct := crewed.distinct found
    driver := fun _ _ cell head => ⟨cell, head⟩
    turn := fun _ => turn
    tracked := fun name named =>
      ⟨fun there => ⟨there, fun _ => List.ne_nil_of_mem mem⟩, And.left⟩
    opened := fun cell nonempty => ⟨cell, nonempty⟩ }
  exact crewed.shift same

/-- A member that leaves is not the only one exactly if some member stays. -/
theorem erase_ne_nil_iff {members : List Nat} {member : Nat} (mem : member ∈ members) :
    members.erase member ≠ [] ↔ members.length ≠ 1 := by
  have length := List.length_erase_of_mem mem
  have positive := List.length_pos_of_mem mem
  rw [← List.length_pos_iff]
  omega

/-- When a member leaves, the table drops its flight if nobody else is on it, and nothing else. -/
theorem leave_tracked (crewed : Crewed factory) {member flight : Nat} {known : Flight}
    (found : factory.flights[flight]? = some known) (mem : member ∈ known.members)
    (name : Identifier) (named : Nat) :
    (factory.leave member flight).table[name]? = some named ↔
      factory.table[name]? = some named ∧ (named = flight → known.members.erase member ≠ []) := by
  -- The flight is tracked under its own identifier, if at all.
  have own : factory.table[name]? = some flight → known.id = name := by
    intro there
    obtain ⟨flown, flies, ids, _⟩ := crewed.tracked there
    rw [found] at flies
    cases flies
    exact ids
  rw [leave_table found, erase_ne_nil_iff mem]
  by_cases last : known.members.length = 1 ∧ factory.table[known.id]? = some flight
  · rw [if_pos last, Std.HashMap.getElem?_erase]
    by_cases equal : known.id = name
    · -- The name is taken out, under which the flight was tracked.
      subst equal
      simp [last, eq_comm]
    · rw [if_neg (by simpa using equal)]
      refine ⟨fun there => ⟨there, fun same => ?_⟩, And.left⟩
      subst same
      exact absurd (own there) equal
  · -- Nothing is taken out: somebody stays on the flight, or it was not tracked.
    rw [if_neg last]
    refine ⟨fun there => ⟨there, fun same single => last ⟨single, ?_⟩⟩, And.left⟩
    subst same
    rw [own there]
    exact there

/-- A caller leaves its flight, which may end at the same time, for a stage without one. -/
theorem vacate (crewed : Crewed factory) {after : Factory ρ} {member flight : Nat} {caller : Caller}
    {known : Flight} {stage : Stage} (cell : Option Attempt)
    (here : factory.callers[member]? = some caller) (on : caller.stage.flight? = some flight)
    (without : stage.flight? = none) (found : factory.flights[flight]? = some known)
    (callers : after.callers = factory.callers.modify member ({ · with stage }))
    (flights : after.flights = factory.flights.modify flight fun known =>
      { known with cell, members := known.members.erase member })
    (table : after.table = (factory.leave member flight).table)
    (generation : after.generation = factory.generation)
    (ends : cell = known.cell ∨ cell ≠ none ∧ known.members.head? = some member) :
    Crewed after := by
  have mem : member ∈ known.members := (crewed.members found member).mpr ⟨caller, here, on⟩
  have away : ∀ named, stage.flight? ≠ some named := by simp [without]
  -- The flight loses the member and perhaps ends; every clause is about one of the two.
  have leaves : Shift factory after member flight caller stage known
      { known with cell, members := known.members.erase member } := {
    here, found, callers, generation
    before := fun named onNamed => Option.some.inj (onNamed.symm.trans on)
    moved := fun named onNamed => absurd onNamed (away named)
    flights := fun named => by
      rw [flights]
      exact getElem?_modify_of_some found _ named
    id := rfl
    era := rfl
    own := fun onNamed => absurd onNamed (away flight)
    members := fun other => by
      rw [(crewed.distinct found).mem_erase_iff]
      simp [without]
    distinct := (crewed.distinct found).erase member
    driver := fun other apart opened head => by
      rcases ends with same | ⟨_, turn⟩
      · -- The driver stands in front of the caller that leaves, and stays in front.
        refine ⟨same.trans opened, ?_⟩
        obtain ⟨rest, split⟩ := List.head?_eq_some_iff.mp head
        simp only [split]
        rw [List.erase_cons_tail (by simpa using apart)]
        rfl
      · rw [turn] at head
        exact absurd (Option.some.inj head).symm apart
    turn := fun drives => by
      obtain ⟨named, onNamed⟩ := Stage.exists_flight_of_drives drives
      exact absurd onNamed (away named)
    tracked := fun name named => by
      rw [table]
      exact crewed.leave_tracked found mem name named
    opened := fun opened _ => by
      rcases ends with same | ⟨ended, _⟩
      · exact ⟨same.symm.trans opened, List.ne_nil_of_mem mem⟩
      · exact absurd opened ended }
  exact crewed.shift leaves

/-- A caller leaves its flight for a stage without one. -/
theorem depart (crewed : Crewed factory) {member flight : Nat} {caller : Caller} {stage : Stage}
    (here : factory.callers[member]? = some caller) (on : caller.stage.flight? = some flight)
    (without : stage.flight? = none) : Crewed (factory.depart member flight stage) := by
  -- Nothing ends: the flight keeps the cell that it has.
  obtain ⟨known, found, _⟩ := crewed.own here on
  refine crewed.vacate known.cell here on without found (depart_callers ..) ?_ rfl
    (depart_frame ..).generation (.inl rfl)
  rw [depart_flights]
  apply Array.ext_getElem?
  intro named
  by_cases equal : flight = named
  · subst equal
    rw [getElem?_modify_self found, getElem?_modify_self found]
  · rw [getElem?_modify_ne _ equal, getElem?_modify_ne _ equal]

/-- The caller whose turn it is ends its flight and takes the end. -/
theorem land (crewed : Crewed factory) {member flight : Nat} {caller : Caller} {known : Flight}
    (here : factory.callers[member]? = some caller) (on : caller.stage.flight? = some flight)
    (found : factory.flights[flight]? = some known) (turn : known.members.head? = some member)
    (attempt : Attempt) : Crewed (factory.land member flight attempt) := by
  -- Ending the flight first makes no difference to what leaving it does to the table.
  exact crewed.vacate (some attempt) here on attempt.flight?_stage found
    (land_callers ..) (land_flights ..) (land_table ..) (land_frame ..).generation
    (.inr ⟨by simp, turn⟩)

/-- A caller that drives a flight ends it and takes the end. -/
theorem land_driver (crewed : Crewed factory) {member flight : Nat} {caller : Caller}
    (here : factory.callers[member]? = some caller) (on : caller.stage.flight? = some flight)
    (drives : caller.stage.drives = true) (attempt : Attempt) :
    Crewed (factory.land member flight attempt) := by
  -- Whoever drives a flight is its first member, so it is the driver's turn.
  obtain ⟨known, found, _⟩ := crewed.own here on
  exact crewed.land here on found (crewed.driver here on drives found).2 attempt

/-- A refresh or the shutdown forgets every flight and opens a new generation. -/
theorem reset (crewed : Crewed factory) {other : Factory ρ}
    (callers : other.callers = factory.callers) (flights : other.flights = factory.flights)
    (table : other.table = ∅) (generation : other.generation = factory.generation + 1) :
    Crewed other := by
  -- No flight is tracked, and none is of the new generation, so nothing is missing.
  obtain ⟨members, distinct, own, driver, _, _, past⟩ := crewed
  rw [← callers, ← flights] at members own driver
  rw [← flights] at distinct past
  refine ⟨members, distinct, own, driver, ?_, ?_, ?_⟩
  · intro id flight found
    simp [table] at found
  · intro flight known found current
    have older := past found
    omega
  · intro flight known found
    have older := past found
    omega

end Crewed

/-! ## Joining -/

/-- A flight that may be joined under a generation is tracked, and has a member. -/
theorem joinable?_eq_some {factory : Factory ρ} (crewed : Crewed factory) {generation : Nat}
    {id : Identifier} {flight : Nat}
    (joinable : { factory with generation }.joinable? id = some flight) :
    ∃ known, factory.flights[flight]? = some known ∧ known.id = id ∧ known.members ≠ [] := by
  -- Whatever else is asked of the flight, the table has it.
  unfold joinable? at joinable
  exact crewed.tracked (Option.filter_eq_some_iff.mp joinable).1

/-- Where no flight may be joined, none of the current generation is open and has a member. -/
theorem joinable?_eq_none {factory : Factory ρ} (crewed : Crewed factory) {generation : Nat}
    (past : generation ≤ factory.generation) {id : Identifier}
    (joinable : { factory with generation }.joinable? id = none) {flight : Nat} {known : Flight}
    (found : factory.flights[flight]? = some known) (ids : known.id = id)
    (current : known.generation = factory.generation) (opened : known.cell = none) :
    known.members = [] := by
  -- Such a flight would be tracked, and the table would offer it under any generation so far.
  by_cases nonempty : known.members = []
  · exact nonempty
  · have tracked := crewed.tracks found current opened nonempty
    rw [ids] at tracked
    simp [joinable?, tracked, found, current, opened, past] at joinable

/-! ## New flights -/

/-- The flight that a caller starts under a generation. -/
def started (generation member : Nat) (caller : Caller) : Flight where
  id := caller.id
  generation
  members := [member]

/-- A caller on no flight has started one, when there was none to join for its identifier. -/
structure Launched (factory after : Factory ρ) (era member : Nat) (caller : Caller) : Prop where
  /-- The caller has been there. -/
  here : factory.callers[member]? = some caller
  /-- It was on no flight. -/
  free : caller.stage.flight? = none
  /-- It starts the flight under a generation that has begun. -/
  past : era ≤ factory.generation
  /-- There was none to join. -/
  lonely : { factory with generation := era }.joinable? caller.id = none
  /-- It is the only one that has moved. -/
  callers : after.callers =
    factory.callers.modify member ({ · with stage := .joined factory.flights.size })
  /-- Its flight is the last one. -/
  flights : after.flights = factory.flights.push (started era member caller)
  /-- The place of its identifier in the table belongs to this flight. -/
  table : after.table = factory.table.insert caller.id factory.flights.size
  /-- No generation has begun. -/
  generation : after.generation = factory.generation

namespace Launched

variable {factory after : Factory ρ} {era member : Nat} {caller : Caller}

/-- The caller waits on its flight. -/
theorem now (launched : Launched factory after era member caller) :
    after.callers[member]? = some { caller with stage := .joined factory.flights.size } := by
  rw [launched.callers]
  exact getElem?_modify_self launched.here _

/-- All others are where they were. -/
theorem others (launched : Launched factory after era member caller) {other : Nat}
    (apart : other ≠ member) : after.callers[other]? = factory.callers[other]? := by
  rw [launched.callers]
  exact getElem?_modify_ne _ (Ne.symm apart) _

/-- The new flight is there. -/
theorem fresh (launched : Launched factory after era member caller) :
    after.flights[factory.flights.size]? = some (started era member caller) := by
  rw [launched.flights, Array.getElem?_push_size]

/-- A flight from before keeps its number, which is not the new one. -/
theorem older (launched : Launched factory after era member caller) {flight : Nat} {known : Flight}
    (found : factory.flights[flight]? = some known) :
    flight ≠ factory.flights.size ∧ after.flights[flight]? = some known := by
  have inside := (Array.getElem?_eq_some_iff.mp found).1
  refine ⟨by omega, ?_⟩
  rw [launched.flights]
  exact getElem?_push_of_some found _

/-- Every flight is the new one or one from before. -/
theorem flights_cases (launched : Launched factory after era member caller) {flight : Nat}
    {known : Flight} (found : after.flights[flight]? = some known) :
    (flight = factory.flights.size ∧ known = started era member caller) ∨
      factory.flights[flight]? = some known := by
  rw [launched.flights] at found
  exact getElem?_push_cases found

/-- Nobody was on a flight that had not been started. -/
theorem unmanned (launched : Launched factory after era member caller) (crewed : Crewed factory)
    {other : Nat} {asker : Caller} (there : factory.callers[other]? = some asker) :
    asker.stage.flight? ≠ some factory.flights.size := by
  intro on
  obtain ⟨known, found, _⟩ := crewed.own there on
  exact (launched.older found).1 rfl

/-- The members of a flight are the callers that are on it. -/
theorem members_iff (launched : Launched factory after era member caller) (crewed : Crewed factory)
    {flight : Nat} {known : Flight} (found : after.flights[flight]? = some known) (other : Nat) :
    other ∈ known.members ↔
      ∃ asker, after.callers[other]? = some asker ∧ asker.stage.flight? = some flight := by
  -- The new flight has this one member, and nobody else was on it.
  rcases launched.flights_cases found with ⟨rfl, rfl⟩ | old
  · by_cases same : other = member
    · subst same
      simp [started, launched.now]
    · rw [launched.others same]
      simp only [started, List.mem_singleton, same, false_iff, not_exists, not_and]
      exact fun asker there => launched.unmanned crewed there
  · rw [crewed.members old]
    by_cases same : other = member
    · subst same
      simp [launched.here, launched.now, launched.free, Ne.symm (launched.older old).1]
    · rw [launched.others same]

/-- A caller is on a flight of its identifier. -/
theorem own_flight (launched : Launched factory after era member caller) (crewed : Crewed factory)
    {other flight : Nat} {asker : Caller} (there : after.callers[other]? = some asker)
    (on : asker.stage.flight? = some flight) :
    ∃ known, after.flights[flight]? = some known ∧ known.id = asker.id := by
  by_cases same : other = member
  · subst same
    rw [launched.now] at there
    cases there
    cases on
    exact ⟨_, launched.fresh, rfl⟩
  · rw [launched.others same] at there
    obtain ⟨known, found, ids⟩ := crewed.own there on
    exact ⟨known, (launched.older found).2, ids⟩

/-- The caller does not drive yet, and the others drive the flights that they drove. -/
theorem driver_first (launched : Launched factory after era member caller) (crewed : Crewed factory)
    {other flight : Nat} {asker : Caller} {known : Flight}
    (there : after.callers[other]? = some asker) (on : asker.stage.flight? = some flight)
    (drives : asker.stage.drives = true) (found : after.flights[flight]? = some known) :
    known.cell = none ∧ known.members.head? = some other := by
  by_cases same : other = member
  · subst same
    rw [launched.now] at there
    cases there
    cases drives
  · rw [launched.others same] at there
    rcases launched.flights_cases found with ⟨rfl, rfl⟩ | old
    · exact absurd on (launched.unmanned crewed there)
    · exact crewed.driver there on drives old

/-- A tracked flight is the new one, or was tracked before. -/
theorem tracked (launched : Launched factory after era member caller) (crewed : Crewed factory)
    {id : Identifier} {flight : Nat} (there : after.table[id]? = some flight) :
    ∃ known, after.flights[flight]? = some known ∧ known.id = id ∧ known.members ≠ [] := by
  rw [launched.table, Std.HashMap.getElem?_insert] at there
  split at there
  · rename_i equal
    cases there
    exact ⟨_, launched.fresh, by simpa [started] using equal, by simp [started]⟩
  · obtain ⟨known, found, ids, crowded⟩ := crewed.tracked there
    exact ⟨known, (launched.older found).2, ids, crowded⟩

/-- An open flight of the current generation with members is tracked. -/
theorem tracks (launched : Launched factory after era member caller) (crewed : Crewed factory)
    {flight : Nat} {known : Flight} (found : after.flights[flight]? = some known)
    (current : known.generation = after.generation) (opened : known.cell = none)
    (crowded : known.members ≠ []) : after.table[known.id]? = some flight := by
  rw [launched.generation] at current
  rw [launched.table, Std.HashMap.getElem?_insert]
  rcases launched.flights_cases found with ⟨rfl, rfl⟩ | old
  · simp [started]
  · -- An older flight under the identifier would have been one to join.
    have apart : known.id ≠ caller.id := by
      intro same
      exact crowded (joinable?_eq_none crewed launched.past launched.lonely old same current opened)
    rw [if_neg (by simpa using Ne.symm apart)]
    exact crewed.tracks old current opened crowded

end Launched

namespace Crewed

variable {factory : Factory ρ}

/-- A caller on no flight boards one that is under way. -/
theorem board (crewed : Crewed factory) {member flight : Nat} {caller : Caller} {known : Flight}
    (here : factory.callers[member]? = some caller) (free : caller.stage.flight? = none)
    (found : factory.flights[flight]? = some known) (ids : known.id = caller.id)
    (nonempty : known.members ≠ []) :
    Crewed ((factory.updateFlight flight fun known =>
      { known with members := known.members ++ [member] }).move member (.joined flight)) := by
  -- The caller is on no flight, so it is not a member of this one yet.
  have absent : member ∉ known.members := by
    intro mem
    obtain ⟨again, there, on⟩ := (crewed.members found member).mp mem
    rw [here] at there
    cases there
    rw [free] at on
    cases on
  have boards : Shift factory ((factory.updateFlight flight fun known =>
      { known with members := known.members ++ [member] }).move member (.joined flight)) member
      flight caller (.joined flight) known { known with members := known.members ++ [member] } := {
    here, found
    before := fun named on => by
      rw [free] at on
      cases on
    moved := fun named on => (Option.some.inj on).symm
    callers := rfl
    flights := getElem?_modify_of_some found _
    generation := rfl
    id := rfl
    era := rfl
    own := fun _ => ids
    members := fun other => by
      by_cases same : other = member
      · simp [same]
      · simp [same]
    distinct := by
      rw [List.nodup_append]
      refine ⟨crewed.distinct found, by simp, ?_⟩
      intro one mem two single
      rw [List.mem_singleton] at single
      rw [single]
      exact fun same => absent (same ▸ mem)
    driver := fun other _ opened head => by
      -- Whoever was first stays first, since the caller comes last.
      refine ⟨opened, ?_⟩
      rw [List.head?_append, head]
      rfl
    turn := fun drives => by cases drives
    tracked := fun name named => ⟨fun there => ⟨there, fun _ => by simp⟩, And.left⟩
    opened := fun opened _ => ⟨opened, nonempty⟩ }
  exact crewed.shift boards

/-- A caller on no flight starts one, when there is none to join for its identifier. -/
theorem launch (crewed : Crewed factory) {era member : Nat} {caller : Caller} {after : Factory ρ}
    (launched : Launched factory after era member caller) : Crewed after := by
  refine ⟨launched.members_iff crewed, ?_, launched.own_flight crewed,
    launched.driver_first crewed, launched.tracked crewed, launched.tracks crewed, ?_⟩
  · -- The new flight has one member.
    intro flight known found
    rcases launched.flights_cases found with ⟨rfl, rfl⟩ | old
    · simp [started]
    · exact crewed.distinct old
  · -- It is of a generation that has begun.
    intro flight known found
    rw [launched.generation]
    rcases launched.flights_cases found with ⟨rfl, rfl⟩ | old
    · exact launched.past
    · exact crewed.past old

/-- A caller on no flight joins one for its identifier, as under a generation that has begun. -/
theorem join_under (crewed : Crewed factory) {generation member : Nat} {caller : Caller}
    (past : generation ≤ factory.generation) (here : factory.callers[member]? = some caller)
    (free : caller.stage.flight? = none) :
    Crewed { { factory with generation }.join member caller.id with
      generation := factory.generation } := by
  unfold Factory.join
  -- The table decides whether the caller boards a flight or starts one.
  cases joinable : { factory with generation }.joinable? caller.id with
  | some flight =>
    obtain ⟨known, found, ids, crowded⟩ := joinable?_eq_some crewed joinable
    exact crewed.board here free found ids crowded
  | none => exact crewed.launch ⟨here, free, past, joinable, rfl, rfl, rfl, rfl⟩

/-- A caller on no flight joins one for its identifier. -/
theorem join (crewed : Crewed factory) {member : Nat} {caller : Caller}
    (here : factory.callers[member]? = some caller) (free : caller.stage.flight? = none) :
    Crewed (factory.join member caller.id) :=
  (crewed.join_under (Nat.le_refl _) here free).congr rfl rfl rfl (join_frame ..).generation

/-- A touch changes nothing that the agreement is about. -/
theorem touched (crewed : Crewed factory) {other : Factory ρ} (touched : Touched factory other) :
    Crewed other :=
  crewed.congr touched.callers touched.flights touched.table touched.generation

/-- Every transition keeps callers, flights and table in agreement. -/
theorem transition [Releasable ρ] (crewed : Crewed factory) {event : Event ρ} {after : Factory ρ}
    (transition : Transition factory event after) : Crewed after := by
  cases transition with
  -- What a transition does to callers, flights and table is one of the changes above.
  | idle touched => exact crewed.touched touched
  | call id => exact crewed.call id
  | walk touched here wanders without =>
    rw [← touched.callers] at here
    exact (crewed.touched touched).move here (Stage.flight?_of_wanders wanders) without
  | quit here wanders => exact crewed.move here (Stage.flight?_of_wanders wanders) rfl
  | join touched here wanders =>
    rw [← touched.callers] at here
    exact (crewed.touched touched).join here (Stage.flight?_of_wanders wanders)
  | conclude here joined found ended =>
    exact crewed.depart here (by rw [joined]; rfl) (Attempt.flight?_stage _)
  | leave here on =>
    rcases on with joined | ⟨build, checks⟩
    · exact crewed.depart here (by rw [joined]; rfl) rfl
    · exact crewed.depart here (by rw [checks]; rfl) rfl
  | @abandon _ _ build _ here builds =>
    have same : Crewed (factory.updateBuild build ({ · with status := .cancelled })) :=
      crewed.congr rfl rfl rfl rfl
    exact same.depart here (by rw [builds]; rfl) rfl
  | reuse touched here joined found opened turn =>
    rw [← touched.callers] at here
    rw [← touched.flights] at found
    exact (crewed.touched touched).land here (by rw [joined]; rfl) found turn _
  | @start between caller flight resource known flown touched here joined found opened turn =>
    have same : Crewed { between with
        builds := factory.builds.push { id := known.id, flight, resource } } :=
      crewed.congr touched.callers touched.flights touched.table touched.generation
    rw [← touched.callers] at here
    rw [← touched.flights] at found
    exact same.restage here (by rw [joined]; rfl) rfl found ⟨opened, turn⟩
  | @deliver between caller flight build known here builds touched =>
    have same : Crewed between :=
      crewed.congr touched.callers touched.flights touched.table touched.generation
    have on : known.stage.flight? = some flight := by rw [builds]; rfl
    have drives : known.stage.drives = true := by rw [builds]; rfl
    replace here : between.callers[caller]? = some known := by rw [touched.callers]; exact here
    obtain ⟨flown, found, _⟩ := same.own here on
    exact same.restage here on rfl found (same.driver here on drives found)
  | @fail between caller flight build _ known status error here builds touched =>
    have same : Crewed between :=
      crewed.congr touched.callers touched.flights touched.table touched.generation
    replace here : between.callers[caller]? = some known := by rw [touched.callers]; exact here
    exact same.land_driver here (by rw [builds]; rfl) (by rw [builds]; rfl) _
  | @discard between caller flight build _ known attempt touched here checks =>
    -- Releasing touches none of them, so the landing is that of any driver.
    have freed := release_frame between build
    have same : Crewed (between.release build) :=
      (crewed.touched touched).congr freed.callers freed.flights freed.table freed.generation
    replace here : (between.release build).callers[caller]? = some known := by
      rw [freed.callers, touched.callers]
      exact here
    exact same.land_driver here (by rw [checks]; rfl) (by rw [checks]; rfl) _
  | @store caller flight build _ known flown here checks =>
    -- Nor does storing, whatever is displaced.
    obtain ⟨freed, _⟩ := store_frame factory build known.id
    have same : Crewed (factory.store build known.id) :=
      crewed.congr freed.callers freed.flights freed.table freed.generation
    replace here : (factory.store build known.id).callers[caller]? = some known := by
      rw [freed.callers]
      exact here
    exact same.land_driver here (by rw [checks]; rfl) (by rw [checks]; rfl) _
  | reset runs generation cache table flights builds callers =>
    exact crewed.reset callers flights table generation

end Crewed

end PackGate.Factory
