import PackGate.Factory.Step
import PackGate.Proofs.Cache.Contents

/-! What the parts of a step change in a factory, and what they leave as it was. -/

namespace PackGate.Factory

variable {ρ : Type}

/-! ## Stages -/

/-- The flight that a caller at a stage is on. -/
def Stage.flight? : Stage → Option Nat
  | .joined flight | .building flight _ | .checking flight _ => some flight
  | .entering | .activating | .served _ | .refused _ | .cancelled => none

/-- Whether a caller at a stage drives its flight: nobody else may start a build on it. -/
def Stage.drives : Stage → Bool
  | .building _ _ | .checking _ _ => true
  | .joined _ | .entering | .activating | .served _ | .refused _ | .cancelled => false

/-- The stage of a caller that takes what its flight ended with. -/
def Attempt.stage : Attempt → Stage
  | .ready build => .served build
  | .failed error => .refused error
  | .stale => .entering

/-- A caller that takes what its flight ended with is on no flight. -/
@[simp] theorem Attempt.flight?_stage (attempt : Attempt) : attempt.stage.flight? = none := by
  -- Whatever the end is, it answers the caller or sends it back to the start.
  cases attempt <;> rfl

/-- A caller that has joined a flight is on it. -/
@[simp] theorem Stage.flight?_joined (flight : Nat) :
    (Stage.joined flight).flight? = some flight :=
  rfl

/-- A caller that drives a flight is on one. -/
theorem Stage.exists_flight_of_drives {stage : Stage} (drives : stage.drives = true) :
    ∃ flight, stage.flight? = some flight := by
  -- Only two stages drive, and both of them name their flight.
  cases stage with
  | building flight build => exact ⟨flight, rfl⟩
  | checking flight build => exact ⟨flight, rfl⟩
  | _ => cases drives

/-- A caller leaves its flight and goes on at a stage without one. -/
def depart (factory : Factory ρ) (caller flight : Nat) (stage : Stage) : Factory ρ :=
  (factory.leave caller flight).move caller stage

/-- Taking the end of a flight is leaving it. -/
theorem conclude_eq_depart (factory : Factory ρ) (caller flight : Nat) (attempt : Attempt) :
    factory.conclude caller flight attempt = factory.depart caller flight attempt.stage := by
  -- The three ends of a flight differ in the stage alone that the caller goes on at.
  cases attempt <;> rfl

/-! ## Arrays -/

/-- A changed element is the change of the element that was there. -/
theorem getElem?_modify_self {α : Type} {items : Array α} {index : Nat} {item : α}
    (found : items[index]? = some item) (change : α → α) :
    (items.modify index change)[index]? = some (change item) := by
  rw [Array.getElem?_modify, if_pos rfl, found]
  rfl

/-- Changing one element leaves every other as it was. -/
theorem getElem?_modify_ne {α : Type} (items : Array α) {index other : Nat} (apart : index ≠ other)
    (change : α → α) : (items.modify index change)[other]? = items[other]? := by
  rw [Array.getElem?_modify, if_neg apart]

/-- After a change of one element that is there, every position is known. -/
theorem getElem?_modify_of_some {α : Type} {items : Array α} {index : Nat} {item : α}
    (found : items[index]? = some item) (change : α → α) (position : Nat) :
    (items.modify index change)[position]? =
      if index = position then some (change item) else items[position]? := by
  by_cases here : index = position
  · subst here
    rw [if_pos rfl, getElem?_modify_self found]
  · rw [if_neg here, getElem?_modify_ne _ here]

/-- An element of an array with one change is the changed one or was there before. -/
theorem getElem?_modify_cases {α : Type} {items : Array α} {index position : Nat} {change : α → α}
    {item : α} (found : (items.modify index change)[position]? = some item) :
    (position = index ∧ ∃ old, items[index]? = some old ∧ item = change old) ∨
      (position ≠ index ∧ items[position]? = some item) := by
  -- The position that is asked for is the changed one or another one.
  by_cases here : index = position
  · subst here
    rw [Array.getElem?_modify, if_pos rfl] at found
    obtain ⟨old, there, same⟩ := Option.map_eq_some_iff.mp found
    exact .inl ⟨rfl, old, there, same.symm⟩
  · rw [getElem?_modify_ne _ here] at found
    exact .inr ⟨Ne.symm here, found⟩

/-- An element stays where it is when another one comes behind it. -/
theorem getElem?_push_of_some {α : Type} {items : Array α} {index : Nat} {item : α}
    (found : items[index]? = some item) (last : α) : (items.push last)[index]? = some item := by
  -- The last element comes at a position that was outside before.
  have inside := (Array.getElem?_eq_some_iff.mp found).1
  rw [Array.getElem?_push, if_neg (by omega)]
  exact found

/-- An element of an array with a new last one is the new one or was there before. -/
theorem getElem?_push_cases {α : Type} {items : Array α} {index : Nat} {last item : α}
    (found : (items.push last)[index]? = some item) :
    (index = items.size ∧ item = last) ∨ items[index]? = some item := by
  rw [Array.getElem?_push] at found
  split at found
  · rename_i newest
    exact .inl ⟨newest, (Option.some.inj found).symm⟩
  · exact .inr found

/-- Two changes of one element are one change. -/
theorem modify_modify {α : Type} (items : Array α) (index : Nat) (first second : α → α) :
    (items.modify index first).modify index second =
      items.modify index fun item => second (first item) := by
  -- Position by position, only the changed element is touched, and twice.
  apply Array.ext_getElem?
  intro position
  rw [Array.getElem?_modify, Array.getElem?_modify, Array.getElem?_modify]
  by_cases here : index = position
  · cases items[position]? <;> simp [here]
  · simp [here]

/-- A change that an image does not show leaves the image of an array as it is. -/
theorem map_modify_eq {α β : Type} {image : α → β} {change : α → α}
    (hidden : ∀ item, image (change item) = image item) (items : Array α) (index : Nat) :
    (items.modify index change).map image = items.map image := by
  -- Position by position, the image of the changed element is that of the old one.
  apply Array.ext_getElem?
  intro position
  rw [Array.getElem?_map, Array.getElem?_map, Array.getElem?_modify]
  split
  · cases items[position]? <;> simp [hidden]
  · rfl

/-! ## Callers and flights -/

/-- Where a caller stands is its stage. -/
theorem stage?_of_caller {factory : Factory ρ} {member : Nat} {known : Caller} {stage : Stage}
    (here : factory.callers[member]? = some known) (stands : known.stage = stage) :
    factory.stage? member = some stage := by
  rw [stage?, here, ← stands]
  rfl

/-- Nothing changed but where callers stand, the flights, and the table of flights. -/
structure Reseated (before after : Factory ρ) : Prop where
  /-- The phase is the same. -/
  phase : after.phase = before.phase
  /-- The generation is the same. -/
  generation : after.generation = before.generation
  /-- The cache is the same. -/
  cache : after.cache = before.cache
  /-- The builds are the same. -/
  builds : after.builds = before.builds
  /-- The releases are the same. -/
  released : after.released = before.released

/-- Moving a caller changes the callers alone. -/
theorem move_frame (factory : Factory ρ) (caller : Nat) (stage : Stage) :
    Reseated factory (factory.move caller stage) :=
  ⟨rfl, rfl, rfl, rfl, rfl⟩

/-- The callers after one of them has moved. -/
@[simp] theorem move_callers (factory : Factory ρ) (caller : Nat) (stage : Stage) :
    (factory.move caller stage).callers = factory.callers.modify caller ({ · with stage }) :=
  rfl

/-- The flights are the same after a caller has moved. -/
@[simp] theorem move_flights (factory : Factory ρ) (caller : Nat) (stage : Stage) :
    (factory.move caller stage).flights = factory.flights :=
  rfl

/-- Leaving a flight changes the table and the flights alone. -/
theorem leave_frame (factory : Factory ρ) (caller flight : Nat) :
    Reseated factory (factory.leave caller flight) := by
  unfold leave
  -- Whether the flight exists or not, only flights and table are written.
  split <;> exact ⟨rfl, rfl, rfl, rfl, rfl⟩

/-- The callers are the same after one of them has left a flight. -/
theorem leave_callers (factory : Factory ρ) (caller flight : Nat) :
    (factory.leave caller flight).callers = factory.callers := by
  -- Where the caller goes on is not for the flight to say.
  unfold leave
  split <;> rfl

/-- The flights after a caller has left one of them. -/
@[simp] theorem leave_flights (factory : Factory ρ) (caller flight : Nat) :
    (factory.leave caller flight).flights =
      factory.flights.modify flight fun known =>
        { known with members := known.members.erase caller } := by
  unfold leave
  split
  · -- There is no such flight, so there is nothing to change.
    rename_i absent
    apply Array.ext_getElem?
    intro position
    rw [Array.getElem?_modify]
    by_cases here : flight = position
    · subst here
      simp [absent]
    · simp [here]
  · rfl

/-- The table after a caller has left a flight: only its last member takes the flight out. -/
theorem leave_table {factory : Factory ρ} {caller flight : Nat} {known : Flight}
    (found : factory.flights[flight]? = some known) :
    (factory.leave caller flight).table =
      if known.members.length = 1 ∧ factory.table[known.id]? = some flight then
        factory.table.erase known.id
      else factory.table := by
  unfold leave
  -- The flight exists, so the table is what its number of members makes of it.
  rw [found]
  simp [updateFlight]

/-- Departing changes the table, the flights and the callers alone. -/
theorem depart_frame (factory : Factory ρ) (caller flight : Nat) (stage : Stage) :
    Reseated factory (factory.depart caller flight stage) := by
  obtain ⟨phase, generation, cache, builds, released⟩ := leave_frame factory caller flight
  exact ⟨phase, generation, cache, builds, released⟩

/-- The callers after one of them has departed. -/
@[simp] theorem depart_callers (factory : Factory ρ) (caller flight : Nat) (stage : Stage) :
    (factory.depart caller flight stage).callers =
      factory.callers.modify caller ({ · with stage }) := by
  rw [depart, move_callers, leave_callers]

/-- The flights after a caller has departed from one of them. -/
@[simp] theorem depart_flights (factory : Factory ρ) (caller flight : Nat) (stage : Stage) :
    (factory.depart caller flight stage).flights =
      factory.flights.modify flight fun known =>
        { known with members := known.members.erase caller } :=
  leave_flights factory caller flight

/-- The flights after one of them has ended. -/
@[simp] theorem settle_flights (factory : Factory ρ) (flight : Nat) (attempt : Attempt) :
    (factory.settle flight attempt).flights =
      factory.flights.modify flight fun known => { known with cell := some attempt } :=
  rfl

/-- A driver may as well leave its flight first and end it then. -/
theorem land_eq (factory : Factory ρ) (caller flight : Nat) (attempt : Attempt) :
    factory.land caller flight attempt =
      (factory.depart caller flight attempt.stage).settle flight attempt := by
  rw [land, conclude_eq_depart]
  -- Leaving reads the members and the identifier of the flight, and ending changes neither.
  cases found : factory.flights[flight]? with
  | none =>
    -- Where there is no such flight, neither of the two does anything to it.
    have settled : (factory.settle flight attempt).flights[flight]? = none := by
      rw [settle_flights, Array.getElem?_modify, if_pos rfl, found]
      rfl
    unfold depart leave
    rw [found, settled]
    rfl
  | some known =>
    -- The table is decided by members and identifier, and the flight takes both changes in turn.
    have settled : (factory.settle flight attempt).flights[flight]? =
        some { known with cell := some attempt } := by
      rw [settle_flights]
      exact getElem?_modify_self found _
    unfold depart leave
    rw [found, settled]
    simp only [settle, updateFlight, move, Factory.mk.injEq, true_and, and_true]
    exact ⟨rfl, by rw [modify_modify, modify_modify]⟩

/-- Landing changes the table, the flights and the callers alone. -/
theorem land_frame (factory : Factory ρ) (caller flight : Nat) (attempt : Attempt) :
    Reseated factory (factory.land caller flight attempt) := by
  obtain ⟨phase, generation, cache, builds, released⟩ :=
    depart_frame factory caller flight attempt.stage
  rw [land_eq]
  exact ⟨phase, generation, cache, builds, released⟩

/-- The flights after a driver has landed. -/
@[simp] theorem land_flights (factory : Factory ρ) (caller flight : Nat) (attempt : Attempt) :
    (factory.land caller flight attempt).flights =
      factory.flights.modify flight fun known =>
        { known with cell := some attempt, members := known.members.erase caller } := by
  -- Both changes are of the one flight, so they are one change.
  rw [land_eq, settle_flights, depart_flights, modify_modify]

/-- The callers after a driver has landed. -/
@[simp] theorem land_callers (factory : Factory ρ) (caller flight : Nat) (attempt : Attempt) :
    (factory.land caller flight attempt).callers =
      factory.callers.modify caller ({ · with stage := attempt.stage }) := by
  rw [land_eq]
  exact depart_callers factory caller flight attempt.stage

/-- Landing treats the table as leaving does. -/
theorem land_table (factory : Factory ρ) (caller flight : Nat) (attempt : Attempt) :
    (factory.land caller flight attempt).table = (factory.leave caller flight).table := by
  rw [land_eq]
  rfl

/-- Joining changes the table, the flights and the callers alone. -/
theorem join_frame (factory : Factory ρ) (caller : Nat) (id : Identifier) :
    Reseated factory (factory.join caller id) := by
  -- A flight gets one more member, or a new one is entered in the table.
  unfold join
  split <;> exact ⟨rfl, rfl, rfl, rfl, rfl⟩

/-- A caller that joins is on an open flight afterwards, which is of no older generation. -/
theorem join_flight (factory : Factory ρ) (caller : Nat) (id : Identifier) :
    ∃ flight flown, (factory.join caller id).callers =
        factory.callers.modify caller ({ · with stage := .joined flight }) ∧
      (factory.join caller id).flights[flight]? = some flown ∧ flown.cell = none ∧
        factory.generation ≤ flown.generation := by
  unfold join
  split
  · -- A flight that may be joined is open, and one more member does not end it.
    rename_i flight joinable
    unfold joinable? at joinable
    rw [Option.filter_eq_some_iff, Option.any_eq_true] at joinable
    obtain ⟨_, known, found, fits⟩ := joinable
    rw [Bool.and_eq_true, decide_eq_true_iff, Option.isNone_iff_eq_none] at fits
    exact ⟨flight, { known with members := known.members ++ [caller] }, rfl,
      getElem?_modify_self found _, fits.2, fits.1⟩
  · -- A new flight starts open, with the caller as its only member.
    exact ⟨factory.flights.size, { id, generation := factory.generation, members := [caller] }, rfl,
      Array.getElem?_push_size, rfl, Nat.le_refl _⟩

/-! ## Releasing -/

section Release

variable [Releasable ρ]

/-- Nothing changed but the releases, the counters and the log. -/
structure Freed (before after : Factory ρ) : Prop where
  /-- The phase is the same. -/
  phase : after.phase = before.phase
  /-- The generation is the same. -/
  generation : after.generation = before.generation
  /-- The cache is the same. -/
  cache : after.cache = before.cache
  /-- The table is the same. -/
  table : after.table = before.table
  /-- The flights are the same. -/
  flights : after.flights = before.flights
  /-- The builds are the same. -/
  builds : after.builds = before.builds
  /-- The callers are the same. -/
  callers : after.callers = before.callers

omit [Releasable ρ] in
/-- Releasing nothing changes nothing. -/
theorem Freed.refl (factory : Factory ρ) : Freed factory factory :=
  ⟨rfl, rfl, rfl, rfl, rfl, rfl, rfl⟩

omit [Releasable ρ] in
/-- Releasing twice is releasing. -/
theorem Freed.trans {first second third : Factory ρ} (early : Freed first second)
    (late : Freed second third) : Freed first third :=
  ⟨late.phase.trans early.phase, late.generation.trans early.generation,
    late.cache.trans early.cache, late.table.trans early.table, late.flights.trans early.flights,
    late.builds.trans early.builds, late.callers.trans early.callers⟩

omit [Releasable ρ] in
/-- Counting changes the counters alone. -/
theorem count_frame (factory : Factory ρ) (change : Metrics → Metrics) :
    Freed factory (factory.count change) :=
  ⟨rfl, rfl, rfl, rfl, rfl, rfl, rfl⟩

/-- Running a release hook changes the counters, the log and the releases alone. -/
theorem release_frame (factory : Factory ρ) (build : Nat) :
    Freed factory (factory.release build) := by
  unfold release
  split
  · exact .refl factory
  · -- A hook that fails is counted and logged besides.
    dsimp only
    split <;> exact ⟨rfl, rfl, rfl, rfl, rfl, rfl, rfl⟩

/-- The hook of every known build runs, whether or not it fails. -/
theorem release_released (factory : Factory ρ) (build : Nat) :
    (factory.release build).released =
      factory.released ++ [build].filter (· < factory.builds.size) := by
  unfold release
  split
  · -- There is no such build, so there is no hook to run.
    rename_i absent
    have outside := Array.getElem?_eq_none_iff.mp absent
    simp [Nat.not_lt.mpr outside]
  · -- A failure is counted and logged, but the resource is gone all the same.
    rename_i found
    have inside := (Array.getElem?_eq_some_iff.mp found).1
    dsimp only
    split <;> simp [count, note, inside]

/-- Running hooks one after the other changes what one of them changes, and runs each of them. -/
theorem foldl_release_frame (entries : List (Identifier × Nat)) (factory : Factory ρ) :
    let after := entries.foldl (fun factory (_, build) => factory.release build) factory
    Freed factory after ∧ after.released =
      factory.released ++ (entries.map (·.2)).filter (· < factory.builds.size) := by
  -- Each release keeps the builds, so the later ones are filtered by the same bound.
  induction entries generalizing factory with
  | nil => exact ⟨.refl factory, by simp⟩
  | cons entry rest ih =>
    obtain ⟨freed, released⟩ := ih (factory.release entry.2)
    have first := release_frame factory entry.2
    refine ⟨first.trans freed, ?_⟩
    rw [List.foldl_cons, released, release_released, first.builds, List.append_assoc,
      ← List.filter_append]
    rfl

/-- Emptying the cache forgets the flights in the table and releases what the cache drains. -/
theorem releaseAll_frame (factory : Factory ρ) :
    Freed { factory with table := ∅, cache := factory.cache.drain.2 } factory.releaseAll.2 ∧
      factory.releaseAll.2.released = factory.released ++
        (factory.cache.drain.1.map (·.2)).filter (· < factory.builds.size) := by
  -- The hooks run on a factory whose cache and table are empty already.
  obtain ⟨freed, released⟩ := foldl_release_frame factory.cache.drain.1
    { factory with table := ∅, cache := factory.cache.drain.2 }
  exact ⟨freed.trans (count_frame _ fun metrics => { metrics with cacheEntries := 0 }), released⟩

/-- Storing a resource changes the cache, and releases what it displaces. -/
theorem store_frame (factory : Factory ρ) (build : Nat) (id : Identifier) :
    Freed { factory with cache := (factory.cache.insert id build).2 } (factory.store build id) ∧
      (factory.store build id).released = factory.released ++
        (((factory.cache.insert id build).1.displaced id).toList.map (·.2)).filter
          (· < factory.builds.size) := by
  unfold store
  -- At most one resource is displaced, and at most that one is released.
  rcases factory.cache.insert id build with ⟨insertion, cache⟩
  cases insertion with
  | inserted => exact ⟨count_frame .., by simp [count, Cache.Insertion.displaced]⟩
  | updated previous =>
    exact ⟨(release_frame ..).trans (count_frame ..), release_released _ previous⟩
  | evicted oldId oldest =>
    exact ⟨((count_frame ..).trans (release_frame ..)).trans (count_frame ..),
      release_released _ oldest⟩

end Release

end PackGate.Factory
