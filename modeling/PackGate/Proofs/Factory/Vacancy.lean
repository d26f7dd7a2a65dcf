import PackGate.Proofs.Factory.Filing
import PackGate.Proofs.Factory.Parallel
import PackGate.Proofs.Factory.Release
import PackGate.Proofs.Factory.SingleFlight

/-! What a caller builds is not in the cache until it puts it there, however callers overlap. -/

namespace PackGate.Factory

variable {ρ : Type}

/-- A flight for an identifier is open, of the current generation, and somebody is on it. -/
def Aloft (factory : Factory ρ) (id : Identifier) (flight : Nat) : Prop :=
  ∃ known, factory.flights[flight]? = some known ∧ known.id = id ∧
    known.generation = factory.generation ∧ known.cell = none ∧ known.members ≠ []

/-- A caller has begun to build an identifier on a flight, and has yet to end the flight. -/
def Drives (factory : Factory ρ) (id : Identifier) (flight member : Nat) : Prop :=
  ∃ caller, factory.callers[member]? = some caller ∧ caller.id = id ∧
    caller.stage.flight? = some flight ∧ caller.stage.drives = true

/-- A flight is of the current generation. -/
def Timely (factory : Factory ρ) (flight : Nat) : Prop :=
  ∃ known, factory.flights[flight]? = some known ∧ known.generation = factory.generation

/-- A caller is about to put the resource of a build into the cache. -/
def Inserts (factory : Factory ρ) (id : Identifier) (build member : Nat) : Prop :=
  factory.phase ≠ .shutdown ∧ ∃ flight,
    factory.callers[member]? = some ⟨id, .checking flight build⟩ ∧ Timely factory flight

/-- What is built on a flight of the current generation is not cached. -/
def Vacant (factory : Factory ρ) : Prop :=
  ∀ id flight member, Drives factory id flight member → Timely factory flight →
    ∀ build, (id, build) ∉ factory.cache.toList

variable {factory after : Factory ρ}

/-- An identifier is cached if there is an entry for it. -/
theorem Kept.isCached_iff (kept : Kept factory) {id : Identifier} :
    factory.isCached id = true ↔ ∃ build, (id, build) ∈ factory.cache.toList := by
  rw [isCached, Cache.Lru.peekContains_eq kept.wellFormed, Cache.Recency.peekContains_iff,
    Cache.Recency.keys, List.mem_map]
  constructor
  · rintro ⟨⟨_, build⟩, entry, rfl⟩
    exact ⟨build, entry⟩
  · rintro ⟨build, entry⟩
    exact ⟨_, entry, rfl⟩

/-- A flight that is current after growth was current before. -/
theorem Timely.before {flight : Nat} {early : Flight} (current : Timely after flight)
    (crewed : Crewed factory) (grows : Grows factory after)
    (found : factory.flights[flight]? = some early) : early.generation = factory.generation := by
  obtain ⟨late, there, era⟩ := current
  obtain ⟨again, here, continues⟩ := grows.flights flight early found
  obtain rfl : late = again := Option.some.inj (there.symm.trans here)
  -- The flight keeps its generation, which had begun and has not been left behind since.
  have past := crewed.past found
  have later := grows.generation
  have same := continues.generation
  omega

namespace Crewed

/-- For one identifier at most one flight is under way. -/
theorem aloft_unique (crewed : Crewed factory) {id : Identifier} {one two : Nat}
    (first : Aloft factory id one) (second : Aloft factory id two) : one = two := by
  obtain ⟨early, found, ids, current, opened, crowded⟩ := first
  obtain ⟨late, there, same, era, too, full⟩ := second
  exact crewed.open_unique found there (ids.trans same.symm) current era opened too crowded full

/-- A flight that somebody is on is under way if it is open and current. -/
theorem aloft (crewed : Crewed factory) {member flight : Nat} {caller : Caller} {known : Flight}
    (here : factory.callers[member]? = some caller) (on : caller.stage.flight? = some flight)
    (found : factory.flights[flight]? = some known)
    (current : known.generation = factory.generation) (opened : known.cell = none) :
    Aloft factory caller.id flight := by
  obtain ⟨again, there, ids⟩ := crewed.own here on
  obtain rfl : known = again := Option.some.inj (found.symm.trans there)
  exact ⟨known, found, ids, current, opened,
    List.ne_nil_of_mem ((crewed.members found member).mpr ⟨caller, here, on⟩)⟩

end Crewed

section Step

variable [Releasable ρ] {event : Event ρ}

/-- Whoever builds after a step was on its flight before, and built, or found nothing cached. -/
theorem Transition.drives_cases (transition : Transition factory event after)
    (sound : Sound factory) {id : Identifier} {flight member : Nat}
    (drives : Drives after id flight member) :
    ∃ known, factory.callers[member]? = some known ∧ known.id = id ∧
      known.stage.flight? = some flight ∧
        (known.stage.drives = true ∨ ∀ build, (id, build) ∉ factory.cache.toList) := by
  obtain ⟨later, there, rfl, on, leads⟩ := drives
  rcases transition.caller_cases sound there with here | ⟨_, entering⟩ | ⟨known, here, ids, passage⟩
  · exact ⟨later, here, rfl, on, .inl leads⟩
  · rw [entering] at leads
    cases leads
  · rcases passage.to_flight on with ⟨aboard, _, begins⟩ | ⟨joined, _⟩
    · refine ⟨known, here, ids, aboard, begins.imp_right fun missed build entry => ?_⟩
      -- A caller that begins to build has just looked the cache up.
      have absent := (Cache.Lru.get_matches sound.kept.wellFormed known.id).answer
      rw [missed, Cache.Recency.get_answer] at absent
      exact Cache.Recency.peek_eq_none_iff.mp absent.symm _ entry ids.symm
    · -- Whoever has just joined does not build yet.
      rw [joined] at leads
      cases leads

/-- Whoever builds on a current flight after a step was on that flight, which is open throughout. -/
theorem Transition.aloft (transition : Transition factory event after) (sound : Sound factory)
    {id : Identifier} {flight member : Nat} {known : Caller}
    (here : factory.callers[member]? = some known) (ids : known.id = id)
    (on : known.stage.flight? = some flight) (drives : Drives after id flight member)
    (current : Timely after flight) :
    Aloft factory id flight ∧
      ∃ later, after.flights[flight]? = some later ∧ later.cell = none := by
  obtain ⟨caller, there, _, still, leads⟩ := drives
  have grows := sound.grows transition
  obtain ⟨early, found, _⟩ := sound.crewed.own here on
  obtain ⟨later, flies, continues⟩ := grows.flights flight early found
  have opened := ((sound.transition transition).crewed.driver there still leads flies).1
  refine ⟨?_, later, flies, opened⟩
  -- A flight that had ended before the step would have ended after it.
  have unended : early.cell = none := by
    by_contra done
    obtain ⟨attempt, done⟩ := Option.ne_none_iff_exists'.mp done
    rw [continues.cell attempt done] at opened
    cases opened
  rw [← ids]
  exact sound.crewed.aloft here on found (current.before sound.crewed grows found) unended

/-- Whoever has brought an entry into the cache was on a current flight, which has ended with it. -/
theorem Transition.brings (transition : Transition factory event after) (sound : Sound factory)
    {id : Identifier} {build flight member : Nat} {known : Caller}
    (entry : (id, build) ∈ after.cache.toList) (here : factory.callers[member]? = some known)
    (checks : known.stage = .checking flight build) :
    Aloft factory known.id flight ∧
      ∃ later, after.flights[flight]? = some later ∧ later.cell = some (.ready build) := by
  have grows := sound.grows transition
  -- The flight of what is cached is current and has ended, and it is the flight of the caller.
  obtain ⟨_, work, later, built, _, _, flies, era, ended⟩ :=
    (sound.transition transition).kept.cached entry
  obtain ⟨held, stood, _, on, _⟩ := sound.worked.holds here (by rw [checks]; rfl)
  obtain ⟨again, kept, continues⟩ := grows.builds build held stood
  obtain rfl : work = again := Option.some.inj (built.symm.trans kept)
  rw [← continues.flight, checks] at on
  cases on
  refine ⟨?_, later, flies, ended⟩
  have aboard : known.stage.flight? = some work.flight := by rw [checks]; rfl
  obtain ⟨early, found, _⟩ := sound.crewed.own here aboard
  exact sound.crewed.aloft here aboard found
    (Timely.before ⟨later, flies, era⟩ sound.crewed grows found)
    (sound.crewed.driver here aboard (by rw [checks]; rfl) found).1

/-- What is built stays vacant in every transition. -/
theorem Vacant.transition (vacant : Vacant factory) (sound : Sound factory)
    (transition : Transition factory event after) : Vacant after := by
  intro id flight member drives current build entry
  obtain ⟨known, here, ids, on, begins⟩ := transition.drives_cases sound drives
  obtain ⟨aloft, later, flies, opened⟩ := transition.aloft sound here ids on drives current
  rcases (transition.recached sound.kept.wellFormed).brought _ entry with
    before | ⟨rival, asker, elsewhere, there, checks, same⟩
  · -- The entry was there before, when the caller built already or has begun to build.
    rcases begins with drove | absent
    · obtain ⟨early, found, _, era, _⟩ := aloft
      exact vacant id flight member ⟨known, here, ids, on, drove⟩ ⟨early, found, era⟩ build before
    · exact absent build before
  · -- The entry is new, from a flight that is the caller's own; but that one is open still.
    obtain ⟨rivals, ended, there, filled⟩ := transition.brings sound entry there checks
    obtain rfl := sound.crewed.aloft_unique aloft (same ▸ rivals)
    rw [there] at flies
    cases flies
    rw [filled] at opened
    cases opened

end Step

/-! ## Callers in parallel -/

/-- A caller that joins late builds nothing yet. -/
theorem Vacant.joinUnder (vacant : Vacant factory) (sound : Sound factory) (generation caller : Nat)
    (id : Identifier) : Vacant (factory.joinUnder generation caller id) := by
  -- Joining writes neither the cache nor what others build.
  intro name flight member drives current build entry
  obtain ⟨boarded, callers⟩ := joinUnder_callers factory generation caller id
  have grows := Grows.joinUnder factory generation caller id
  rw [(joinUnder_frame factory generation caller id).cache] at entry
  obtain ⟨later, there, ids, on, leads⟩ := drives
  rw [callers] at there
  rcases getElem?_modify_cases there with ⟨_, _, _, rfl⟩ | ⟨_, here⟩
  · cases leads
  · -- Everybody else builds what it has built before.
    obtain ⟨early, found, _⟩ := sound.crewed.own here on
    exact vacant _ _ _ ⟨later, here, ids, on, leads⟩
      ⟨early, found, current.before sound.crewed grows found⟩ build entry

section Run

variable [Releasable ρ]

/-- What is built stays vacant in every motion. -/
theorem Vacant.motion {parallel later : Parallel ρ} (vacant : Vacant parallel.factory)
    (orderly : Parallel.Orderly parallel) (motion : Parallel.Motion parallel later) :
    Vacant later.factory := by
  have sound := orderly.sound
  cases motion with
  | rest => exact vacant
  | whole event => exact vacant.transition sound (step_transition _ event)
  | miss touched => exact vacant.transition sound touched.transition
  | board touched =>
    -- Counters come first, and joining after them.
    have rests := touched.transition
    exact (vacant.transition sound rests).joinUnder (sound.transition rests) _ _ _

/-- What is built is vacant after every run. -/
theorem Vacant.run {parallel : Parallel ρ} (vacant : Vacant parallel.factory)
    (orderly : Parallel.Orderly parallel) (events : List (Parallel.Event ρ)) :
    Vacant (parallel.run events).factory := by
  -- The induction is on the events, each of which is a motion of the factory.
  induction events generalizing parallel with
  | nil => exact vacant
  | cons event rest ih =>
    have motion := parallel.step_motion event
    exact ih (vacant.motion orderly motion) (orderly.motion motion)

end Run

/-- In a new factory nothing is built. -/
theorem create_vacant {capacity : Nat} {budget : Duration} {start : Factory ρ}
    (created : create capacity budget = .ok start) : Vacant start := by
  -- There is nobody who could build.
  obtain ⟨_, _, callers, _⟩ := create_blank created
  rintro id flight member ⟨caller, here, _⟩
  simp [callers] at here

/-! ## Insertions -/

section Insertion

/-- Whoever is about to put a resource into the cache builds it on a current flight. -/
theorem Inserts.absent {id : Identifier} {build member : Nat}
    (inserts : Inserts factory id build member) (vacant : Vacant factory) (other : Nat) :
    (id, other) ∉ factory.cache.toList := by
  obtain ⟨_, flight, here, current⟩ := inserts
  exact vacant id flight member ⟨_, here, rfl, rfl, rfl⟩ current other

/-- An insertion under a key that is not there enters it, or evicts an entry of another key. -/
theorem Kept.insert_vacant (kept : Kept factory) {id : Identifier}
    (absent : ∀ build, (id, build) ∉ factory.cache.toList) (build : Nat) :
    (factory.cache.insert id build).1 = .inserted ∨
      ∃ other old, other ≠ id ∧ (factory.cache.insert id build).1 = .evicted other old := by
  -- The answer is read off the plain list: an update would need an old value of the key.
  have proper := kept.wellFormed.proper
  rw [(Cache.Lru.insert_matches kept.wellFormed id build).answer]
  rcases proper.insert_cases id build with ⟨old, found, _⟩ | ⟨_, _, done⟩ |
    ⟨rest, last, missing, _, cut, done⟩
  · exact absurd (proper.peek_eq_some_iff.mp found) (absent old)
  · exact .inl (by rw [done])
  · -- What is evicted is an entry, and no entry is one of the key.
    have listed : last ∈ factory.cache.toRecency.entries := by
      rw [cut]
      exact List.mem_append_right _ List.mem_cons_self
    exact .inr ⟨last.1, last.2, Cache.Recency.peek_eq_none_iff.mp missing last listed, by rw [done]⟩

variable [Releasable ρ] {event : Event ρ}

/-- What is about to be put into the cache is there after the next stretch of its caller. -/
theorem Inserts.cached {id : Identifier} {build member : Nat}
    (inserts : Inserts factory id build member) (sound : Sound factory) (resource : ρ) :
    (factory.step (.advance member resource)).cache.peek id = some build := by
  obtain ⟨runs, flight, here, known, found, current⟩ := inserts
  have kept := (sound.step (.advance member resource)).kept
  have stores : factory.step (.advance member resource) =
      (factory.store build id).land member flight (.ready build) := by
    simp only [step, advance, here, check, runs, found, current, Option.any_some, decide_true,
      if_false, if_true]
  rw [Cache.Lru.peek_eq kept.wellFormed, kept.wellFormed.proper.peek_eq_some_iff]
  show (id, build) ∈ (factory.step (.advance member resource)).cache.toList
  -- The caller stores its resource, and what is entered is not what is displaced.
  rw [stores, (land_frame ..).cache, (store_frame factory build id).1.cache,
    (Cache.Lru.insert_contents sound.kept.wellFormed id build).2]
  exact .inl rfl

/-- Whatever a caller with a build in hand does, no other resource of its identifier is released. -/
theorem Vacant.spares (vacant : Vacant factory) (sound : Sound factory) {member build other : Nat}
    {caller : Caller} {work : Build ρ} (acts : event.actor? = some member)
    (here : factory.callers[member]? = some caller) (handles : caller.stage.Handles build)
    (found : factory.builds[other]? = some work) (ids : work.id = caller.id)
    (apart : other ≠ build) (transition : Transition factory event after) :
    other ∈ after.released ↔ other ∈ factory.released := by
  -- No release is taken back, so a new one is to be excluded, whatever its cause.
  refine ⟨fun gone => ?_, fun gone => (sound.grows transition).released.subset gone⟩
  rcases transition.released_cases sound.kept gone with
    before | ⟨actor, known, flight, moves, there, checks⟩ | ⟨id, entry, cause⟩
  · exact before
  · -- The caller has one build in hand, and this is another one.
    rw [acts] at moves
    cases moves
    rw [here] at there
    cases there
    obtain ⟨status, holds⟩ := handles
    rw [checks] at holds
    cases holds
    exact absurd rfl apart
  · -- What is displaced was cached, and nothing of the identifier was.
    rcases cause with nobody | ⟨actor, known, flight, _, flown, moves, there, checks, flies, era⟩
    · rw [acts] at nobody
      cases nobody
    · rw [acts] at moves
      cases moves
      rw [here] at there
      cases there
      obtain ⟨_, again, _, built, named, _⟩ := sound.kept.cached entry
      obtain rfl : work = again := Option.some.inj (found.symm.trans built)
      rw [← named, ids] at entry
      exact absurd entry (vacant _ flight member ⟨caller, here, rfl, by rw [checks]; rfl,
        by rw [checks]; rfl⟩ ⟨flown, flies, era⟩ other)

end Insertion

section Collision

variable [Releasable ρ]

/--
What is built for the current generation is not in the cache until it is put there, over every run.

This holds even where other callers run between the miss of a caller and its flight.
For one identifier at most one flight is open, of the current generation, and has somebody on it.
Whoever begins to build an identifier has found that it is not cached, and as long as its flight is
of the current generation, it stays so.
So a new resource of a current flight never replaces another one: it is entered, or it evicts the
resource of another identifier, and is found in the cache then.
Whatever a caller does with the build in its hand, no other resource of the identifier is released.
-/
theorem run_never_collides {capacity : Nat} {budget : Duration} {start : Factory ρ}
    (created : create capacity budget = .ok start) (past : List (Parallel.Event ρ)) :
    let now := (Parallel.run { factory := start } past).factory
    (∀ id one two, Aloft now id one → Aloft now id two → one = two) ∧
      (∀ event id flight member, Drives (now.step event) id flight member →
        Drives now id flight member ∨ now.isCached id = false) ∧
      (∀ id flight member, Drives now id flight member → Timely now flight →
        now.isCached id = false) ∧
      (∀ id build member resource, Inserts now id build member →
        now.isCached id = false ∧
          ((now.cache.insert id build).1 = .inserted ∨
            ∃ other old, other ≠ id ∧ (now.cache.insert id build).1 = .evicted other old) ∧
          (now.step (.advance member resource)).cache.peek id = some build) ∧
      ∀ (event : Event ρ) (member build other : Nat) caller work, event.actor? = some member →
        now.callers[member]? = some caller → caller.stage.Handles build →
          now.builds[other]? = some work → work.id = caller.id → other ≠ build →
            (now.step event).releases other = now.releases other := by
  intro now
  -- All five parts follow from the two invariants of the parallel machine.
  have orderly := (Parallel.Orderly.create created).run past
  have vacant : Vacant now := (create_vacant created).run (.create created) past
  have sound : Sound now := orderly.sound
  have uncached {id : Identifier} (absent : ∀ build, (id, build) ∉ now.cache.toList) :
      now.isCached id = false := by
    rw [Bool.eq_false_iff, ne_eq, sound.kept.isCached_iff]
    exact fun ⟨build, entry⟩ => absent build entry
  refine ⟨fun id one two => sound.crewed.aloft_unique, ?_, ?_, ?_, ?_⟩
  · intro event id flight member drives
    obtain ⟨known, here, ids, on, begins⟩ := (step_transition now event).drives_cases sound drives
    exact begins.imp (fun drove => ⟨known, here, ids, on, drove⟩) uncached
  · intro id flight member drives current
    exact uncached (vacant id flight member drives current)
  · intro id build member resource inserts
    have absent := inserts.absent vacant
    exact ⟨uncached absent, sound.kept.insert_vacant absent build, inserts.cached sound resource⟩
  · intro event member build other caller work acts here handles found ids apart
    rw [(sound.step event).kept.releases_eq, sound.kept.releases_eq]
    simp only [vacant.spares sound acts here handles found ids apart (step_transition now event)]

/-- After a caller has missed, its identifier is built and evicted before it builds for itself. -/
def Parallel.rebuilding (id other : Identifier) (resource : ρ) : List (Parallel.Event ρ) :=
  [.whole .activate, .whole (.call id), .whole (.call id), .whole (.call other), .miss 0,
    .whole (.advance 1 resource), .whole (.advance 1 resource), .whole (.finish 1 .ready),
    .whole (.advance 1 resource), .whole (.advance 2 resource), .whole (.advance 2 resource),
    .whole (.finish 2 .ready), .whole (.advance 2 resource), .board 0,
    .whole (.advance 0 resource), .whole (.finish 0 .ready)]

open Evaluation in
/-- What is built again after an eviction goes into the cache, and the first one stays as it was. -/
theorem run_never_collides_rebuilt :
    ∃ (start : Factory Repository) (resource : Repository) (other : Identifier),
      create 1 { seconds := 30, nanos := 0 } = .ok start ∧
        let now := (Parallel.run { factory := start }
          (Parallel.rebuilding resource.id other resource)).factory
        now.stage? 1 = some (.served 0) ∧ Inserts now resource.id 2 0 ∧
          now.isCached resource.id = false ∧
          (now.step (.advance 0 resource)).cache.peek resource.id = some 2 ∧
          (now.step (.advance 0 resource)).releases 0 = now.releases 0 := by
  obtain ⟨start, created⟩ :
      ∃ start : Factory Repository, create 1 { seconds := 30, nanos := 0 } = .ok start := ⟨_, rfl⟩
  refine ⟨start, ⟨⟨"a.git"⟩, "/srv/a.git"⟩, ⟨"b.git"⟩, created, ?_⟩
  have facts := run_never_collides created
    (Parallel.rebuilding ⟨"a.git"⟩ ⟨"b.git"⟩ (⟨⟨"a.git"⟩, "/srv/a.git"⟩ : Repository))
  have state :
      let now := (Parallel.run { factory := start }
        (Parallel.rebuilding ⟨"a.git"⟩ ⟨"b.git"⟩ (⟨⟨"a.git"⟩, "/srv/a.git"⟩ : Repository))).factory
      now.phase = .active ∧ now.generation = 0 ∧
        now.callers = #[⟨⟨"a.git"⟩, .checking 2 2⟩, ⟨⟨"a.git"⟩, .served 0⟩,
          ⟨⟨"b.git"⟩, .served 1⟩] ∧
        (now.flights[2]?).map (·.generation) = some 0 ∧
        (now.builds[0]?).map (·.id) = some ⟨"a.git"⟩ := by
    cases created
    simp [Parallel.rebuilding, Parallel.run, Parallel.step, Event.actor?, Parallel.read?,
      Parallel.miss, Parallel.board, joinUnder]
  generalize (Parallel.run { factory := start } (Parallel.rebuilding ⟨"a.git"⟩ ⟨"b.git"⟩
    (⟨⟨"a.git"⟩, "/srv/a.git"⟩ : Repository))).factory = now at facts state ⊢
  obtain ⟨_, _, _, inserts, spares⟩ := facts
  obtain ⟨active, generation, callers, flights, builds⟩ := state
  obtain ⟨known, found, current⟩ := Option.map_eq_some_iff.mp flights
  obtain ⟨work, built, ids⟩ := Option.map_eq_some_iff.mp builds
  have here : now.callers[0]? = some ⟨⟨"a.git"⟩, .checking 2 2⟩ := by
    rw [callers]
    rfl
  have ready : Inserts now ⟨"a.git"⟩ 2 0 :=
    ⟨by rw [active]; simp, 2, here, known, found, current.trans generation.symm⟩
  obtain ⟨absent, _, cached⟩ := inserts _ _ _ ⟨⟨"a.git"⟩, "/srv/a.git"⟩ ready
  refine ⟨?_, ready, absent, cached, spares _ 0 2 0 _ work rfl here ⟨_, rfl⟩ built ids (by simp)⟩
  rw [stage?, callers]
  rfl

end Collision

end PackGate.Factory
