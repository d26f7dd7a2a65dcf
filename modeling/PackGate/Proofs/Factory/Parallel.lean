import PackGate.Factory.Parallel
import PackGate.Proofs.Factory.Passage

/-! Callers that run in parallel: they keep a factory sound, and without an overlap run in turn. -/

namespace PackGate.Factory

variable {ρ : Type}

/-! ## Late flights -/

section Late

variable (factory : Factory ρ) (generation caller : Nat) (id : Identifier)

/-- A caller that has read the current generation joins a flight as if it had not waited. -/
theorem joinUnder_self :
    factory.joinUnder factory.generation caller id = factory.join caller id := by
  have same := (join_frame factory caller id).generation
  show { factory.join caller id with generation := factory.generation } = factory.join caller id
  generalize factory.join caller id = joined at same
  rw [← same]

/-- Joining late changes the table, the flights and the callers alone. -/
theorem joinUnder_frame : Reseated factory (factory.joinUnder generation caller id) := by
  obtain ⟨phase, _, cache, builds, released⟩ := join_frame { factory with generation } caller id
  exact ⟨phase, rfl, cache, builds, released⟩

/-- A caller that joins late is on a flight afterwards. -/
theorem joinUnder_callers :
    ∃ flight, (factory.joinUnder generation caller id).callers =
      factory.callers.modify caller ({ · with stage := .joined flight }) := by
  obtain ⟨flight, _, callers, _⟩ := join_flight { factory with generation } caller id
  exact ⟨flight, callers⟩

/-- Joining late is growth. -/
theorem Grows.joinUnder : Grows factory (factory.joinUnder generation caller id) := by
  obtain ⟨_, closed, flights, builds, released⟩ := Grows.join { factory with generation } caller id
  exact ⟨Nat.le_refl _, closed, flights, builds, released⟩

variable {factory generation caller}

/-- Joining late keeps a factory sound, under whatever generation that has begun. -/
theorem Sound.joinUnder {known : Caller} (sound : Sound factory)
    (past : generation ≤ factory.generation) (here : factory.callers[caller]? = some known)
    (wanders : known.stage.wanders = true) :
    Sound (factory.joinUnder generation caller known.id) := by
  obtain ⟨flight, callers⟩ := joinUnder_callers factory generation caller known.id
  have seats := joinUnder_frame factory generation caller known.id
  have grows := Grows.joinUnder factory generation caller known.id
  have crewed := sound.crewed.join_under past here (Stage.flight?_of_wanders wanders)
  -- The caller has no build in hand, neither before nor on its flight.
  have passes : Handling factory (factory.joinUnder generation caller known.id) caller known
      (.joined flight) :=
    .pass sound.worked here callers seats.builds (by simp [Stage.task?_of_wanders wanders]) rfl
  exact ⟨crewed, sound.worked.handle sound.crewed crewed grows passes,
    sound.kept.reseat (.refl factory) seats grows callers fun _ _ never => by cases never⟩

end Late

/-- A touch may come about at any time. -/
theorem Touched.transition [Releasable ρ] {before after : Factory ρ}
    (touched : Touched before after) : Transition before .activate after :=
  .idle touched

namespace Parallel

/-! ## Steps -/

/-- What an event can make of a factory whose callers run in parallel. -/
inductive Motion [Releasable ρ] (parallel : Parallel ρ) : Parallel ρ → Prop where
  /-- Nothing. -/
  | rest : Motion parallel parallel
  /-- What the factory does in one go, with nobody who has yet to join a flight. -/
  | whole (event : Factory.Event ρ)
      (free : ∀ caller, event.actor? = some caller → parallel.read? caller = none) :
      Motion parallel { parallel with factory := parallel.factory.step event }
  /-- A caller misses, and has yet to join a flight. -/
  | miss {caller : Nat} {id : Identifier} {between : Factory ρ}
      (touched : Touched parallel.factory between)
      (here : parallel.factory.callers[caller]? = some ⟨id, .entering⟩)
      (free : parallel.read? caller = none)
      (serves : parallel.factory.phase = .active ∨ parallel.factory.phase = .invalidating)
      (missed : (parallel.factory.cache.get id).1 = none) :
      Motion parallel
        { factory := between, misses := (caller, parallel.factory.generation) :: parallel.misses }
  /-- A caller that has missed joins a flight under the generation that it has read. -/
  | board {caller generation : Nat} {known : Caller} {between : Factory ρ}
      (touched : Touched parallel.factory between)
      (here : parallel.factory.callers[caller]? = some known)
      (missed : (caller, generation) ∈ parallel.misses) :
      Motion parallel
        { factory := between.joinUnder generation caller known.id
          misses := parallel.misses.filter (·.1 != caller) }

/-- A caller that has read no generation is none of those that have missed. -/
theorem read?_eq_none_iff {parallel : Parallel ρ} {caller : Nat} :
    parallel.read? caller = none ↔ ∀ entry ∈ parallel.misses, entry.1 ≠ caller := by
  rw [read?, List.lookup_eq_none_iff]
  refine forall₂_congr fun entry _ => ?_
  simp [eq_comm (a := caller)]

/-- A caller that has read a generation is one of those that have missed. -/
theorem mem_of_read? {parallel : Parallel ρ} {caller generation : Nat}
    (read : parallel.read? caller = some generation) : (caller, generation) ∈ parallel.misses := by
  obtain ⟨front, back, cut, _⟩ := List.lookup_eq_some_iff.mp read
  rw [cut]
  exact List.mem_append_right _ List.mem_cons_self

variable [Releasable ρ]

/-- A caller that looks at the cache misses, or does nothing yet. -/
theorem miss_motion (parallel : Parallel ρ) (caller : Nat) :
    Motion parallel (parallel.miss caller) := by
  unfold miss
  split
  · rename_i id here free
    split
    · exact .rest
    · exact .rest
    -- During a refresh callers look at the cache as they do while the factory is active.
    all_goals
      rename_i phase
      split
      · exact .rest
      · rename_i cache looked
        have touched := Touched.looked parallel.factory id parallel.factory.metrics
        rw [looked] at touched
        exact .miss touched here free (by simp [phase]) (by rw [looked])
  · exact .rest

/-- A caller joins a flight if it has missed. -/
theorem board_motion (parallel : Parallel ρ) (caller : Nat) :
    Motion parallel (parallel.board caller) := by
  unfold board
  split
  · rename_i known generation here read
    exact .board (.noted _ _ _) here (mem_of_read? read)
  · exact .rest

/-- Every step is one of the motions. -/
theorem step_motion (parallel : Parallel ρ) (event : Event ρ) :
    Motion parallel (parallel.step event) := by
  cases event with
  | whole event =>
    dsimp only [step]
    split
    · exact .rest
    · rename_i free
      refine .whole event fun caller acts => ?_
      rw [acts, Option.bind_some, Option.not_isSome_iff_eq_none] at free
      exact free
  | miss caller => exact parallel.miss_motion caller
  | board caller => exact parallel.board_motion caller

/-! ## Callers in turn -/

/-- Somebody who has a flight or has not missed acts as in the factory alone. -/
theorem step_whole {parallel : Parallel ρ} {event : Factory.Event ρ}
    (free : ∀ caller, event.actor? = some caller → parallel.read? caller = none) :
    parallel.step (.whole event) = { parallel with factory := parallel.factory.step event } := by
  dsimp only [step]
  rw [if_neg]
  cases acts : event.actor? with
  | none => simp
  | some caller => simp [free caller acts]

/-- As long as nobody comes between a miss and a flight, the factory does what it does alone. -/
theorem run_whole (factory : Factory ρ) (events : List (Factory.Event ρ)) :
    run { factory } (events.map .whole) = { factory := factory.run events } := by
  induction events generalizing factory with
  | nil => rfl
  | cons event rest ih =>
    -- Nobody has missed, and an event in one go leaves it so.
    rw [List.map_cons, run, List.foldl_cons, step_whole fun _ _ => rfl]
    exact ih (factory.step event)

/-- A caller that misses and joins a flight before anybody else runs has entered in one go. -/
theorem board_miss {parallel : Parallel ρ} {caller : Nat} {id : Identifier}
    (here : parallel.factory.callers[caller]? = some ⟨id, .entering⟩)
    (free : parallel.read? caller = none)
    (serves : parallel.factory.phase = .active ∨ parallel.factory.phase = .invalidating)
    (missed : (parallel.factory.cache.get id).1 = none) (resource : ρ) :
    (parallel.step (.miss caller)).step (.board caller) =
      parallel.step (.whole (.advance caller resource)) := by
  rcases looked : parallel.factory.cache.get id with ⟨found, cache⟩
  obtain rfl : found = none := by rw [looked] at missed; exact missed
  have misses : parallel.step (.miss caller) =
      { factory := { parallel.factory with cache }
        misses := (caller, parallel.factory.generation) :: parallel.misses } := by
    show parallel.miss caller = _
    unfold miss
    rw [here, free]
    rcases serves with phase | phase <;> simp only [phase, looked]
  -- Once the caller has a flight, those that have missed are the ones from before.
  have others : parallel.misses.filter (·.1 != caller) = parallel.misses := by
    rw [List.filter_eq_self]
    simpa using read?_eq_none_iff.mp free
  have enters : parallel.factory.step (.advance caller resource) =
      ({ parallel.factory with cache }.count fun metrics =>
        { metrics with cacheMisses := metrics.cacheMisses + 1 }).join caller id := by
    simp only [Factory.step, advance, here, enter]
    rcases serves with phase | phase <;> simp only [phase, looked]
  -- The generation that the caller has read is still the one of the factory.
  rw [misses, step_whole (by rintro _ ⟨⟩; exact free), enters, ← joinUnder_self]
  show board _ caller = _
  simp [board, read?, here, others, count]

/-! ## What a run keeps -/

/-- The factory is sound; whoever has missed has yet to enter, and has read no later generation. -/
structure Orderly (parallel : Parallel ρ) : Prop where
  /-- All parts of the factory agree with each other. -/
  sound : parallel.factory.Sound
  /-- A caller that has missed stands where it stood, and what it has read has begun. -/
  late : ∀ entry ∈ parallel.misses, entry.2 ≤ parallel.factory.generation ∧
    ∃ id, parallel.factory.callers[entry.1]? = some ⟨id, .entering⟩

/-- Every motion keeps a factory sound. -/
theorem Orderly.motion {parallel after : Parallel ρ} (orderly : Orderly parallel)
    (motion : Motion parallel after) : Orderly after := by
  obtain ⟨sound, late⟩ := orderly
  cases motion with
  | rest => exact ⟨sound, late⟩
  | whole event free =>
    refine ⟨sound.step event, fun entry missed => ?_⟩
    obtain ⟨past, id, here⟩ := late entry missed
    -- Whoever has missed does not act, and nobody else moves it.
    have apart : event.actor? ≠ some entry.1 := fun acts =>
      read?_eq_none_iff.mp (free _ acts) entry missed rfl
    exact ⟨Nat.le_trans past (sound.step_grows event).generation, id,
      (step_transition _ event).bystander sound here apart⟩
  | @miss caller id between touched here =>
    refine ⟨sound.transition touched.transition, fun entry missed => ?_⟩
    rw [touched.generation, touched.callers]
    -- The caller that misses now has read the generation of this very moment.
    rcases List.mem_cons.mp missed with rfl | before
    · exact ⟨Nat.le_refl _, id, here⟩
    · exact late entry before
  | @board caller generation known between touched here missed =>
    obtain ⟨past, id, there⟩ := late _ missed
    obtain rfl : known = ⟨id, .entering⟩ := Option.some.inj (here.symm.trans there)
    have same : Sound between := sound.transition touched.transition
    obtain ⟨flight, callers⟩ := joinUnder_callers between generation caller id
    rw [← touched.generation] at past
    rw [← touched.callers] at there
    refine ⟨same.joinUnder past there rfl, fun entry waits => ?_⟩
    -- The others that have missed are other callers, who have not moved.
    obtain ⟨waits, apart⟩ := List.mem_filter.mp waits
    obtain ⟨earlier, name, stands⟩ := late entry waits
    refine ⟨?_, name, ?_⟩
    · rw [(joinUnder_frame ..).generation, touched.generation]
      exact earlier
    · show (between.joinUnder generation caller id).callers[entry.1]? = _
      rw [callers, getElem?_modify_ne _ (Ne.symm (bne_iff_ne.mp apart)), touched.callers]
      exact stands

omit [Releasable ρ] in
/-- In a new factory nobody has missed. -/
theorem Orderly.create {capacity : Nat} {budget : Duration} {start : Factory ρ}
    (created : Factory.create capacity budget = .ok start) : Orderly { factory := start } :=
  ⟨create_sound created, by simp⟩

/-- Every run keeps a factory sound. -/
theorem Orderly.run {parallel : Parallel ρ} (orderly : Orderly parallel) (events : List (Event ρ)) :
    Orderly (parallel.run events) := by
  induction events generalizing parallel with
  | nil => exact orderly
  | cons event rest ih => exact ih (orderly.motion (parallel.step_motion event))

end Parallel

end PackGate.Factory
