import PackGate.Proofs.Factory.Holds
import PackGate.Proofs.Factory.Lookup

/-! A lookup that nothing comes in between, stretch by stretch, beside the register. -/

namespace PackGate.Factory

variable {ρ : Type}

/-! ## A caller alone on a flight -/

/-- What a flight ends with when its callers are answered. -/
def attemptOf : Except FactoryError Nat → Attempt
  | .ok build => .ready build
  | .error error => .failed error

/-- Nobody is on a flight, and a register tells what the factory has done. -/
structure Rests (factory : Factory ρ) (register : Register ρ) : Prop
    extends Holds factory register where
  /-- No flight is tracked. -/
  table : factory.table.size = 0
  /-- No refresh is under way. -/
  calm : register.phase ≠ .invalidating

/-- A caller has been answered, and the factory rests again. -/
structure Answered (done : Factory ρ) (caller : Nat) (id : Identifier)
    (reply : Except FactoryError Nat × Register ρ) : Prop where
  /-- The factory rests with what the register tells. -/
  rests : Rests done reply.2
  /-- The caller stands at its answer. -/
  stands : done.callers[caller]? = some ⟨id, (attemptOf reply.1).stage⟩

/-- A caller is the only one on the only flight. -/
structure Aboard (factory : Factory ρ) (caller : Nat) (id : Identifier) (flight : Nat)
    (stage : Stage) : Prop where
  /-- The caller stands at a stage. -/
  stands : factory.callers[caller]? = some ⟨id, stage⟩
  /-- The flight is open, of the current generation, and has no other member. -/
  flown : factory.flights[flight]? =
    some { id, generation := factory.generation, members := [caller] }
  /-- The flight is tracked. -/
  tracked : factory.table[id]? = some flight
  /-- No other flight is. -/
  alone : factory.table.size = 1

variable {factory : Factory ρ} {register : Register ρ} {caller flight build : Nat}
  {id : Identifier} {stage : Stage}

namespace Aboard

/-- The last caller to leave a flight takes it out of the table. -/
theorem land (aboard : Aboard factory caller id flight stage) (holds : Holds factory register)
    (calm : register.phase ≠ .invalidating) (result : Except FactoryError Nat) :
    Answered (factory.land caller flight (attemptOf result)) caller id (result, register) := by
  refine ⟨⟨holds.reseated (land_frame ..) (land_budget ..), ?_, calm⟩, ?_⟩
  · -- The flight had one member and was tracked, so its entry is erased, the only one there was.
    have member : id ∈ factory.table := by
      rw [← Std.HashMap.isSome_getElem?_iff_mem, aboard.tracked]
      rfl
    have single : ([caller].length = 1 ∧ factory.table[id]? = some flight) :=
      ⟨rfl, aboard.tracked⟩
    rw [land_table, leave_table aboard.flown, if_pos single, Std.HashMap.size_erase,
      if_pos member, aboard.alone]
  · rw [land_callers]
    exact getElem?_modify_self aboard.stands _

end Aboard

/-- A builder that hands out nothing has the flight end with its report. -/
theorem finish_report (factory : Factory ρ) (caller flight build : Nat) {outcome : Outcome}
    {error : FactoryError} (told : outcome.report? id factory.budget = some error) :
    ∃ status metrics journal, factory.finish caller flight build id outcome =
      { factory.updateBuild build ({ · with status }) with metrics, journal }.land caller flight
        (.failed error) := by
  unfold finish
  -- The two kinds of error differ in the report alone.
  cases outcome with
  | ready => cases told
  | failed error =>
    cases error <;> cases told <;> exact ⟨_, _, _, rfl⟩
  | overdue =>
    cases told
    exact ⟨_, _, _, rfl⟩

variable [Releasable ρ] {work : Work ρ} {limit : Nat}

/-! ## A lookup alone, from its end to its start -/

/-- A caller that has been answered does not go on. -/
theorem Answered.proceed {reply : Except FactoryError Nat × Register ρ}
    (answered : Answered factory caller id reply) (work : Work ρ) (limit : Nat) :
    Answered (factory.proceed caller work limit) caller id reply := by
  -- An answer is a stage that no stretch leads on from.
  have stands : factory.stage? caller = some (attemptOf reply.1).stage :=
    stage?_of_caller answered.stands rfl
  have ended : factory.proceed? caller work = none := by
    rw [proceed?, stands]
    cases reply.1 <;> rfl
  cases limit with
  | zero => exact answered
  | succ limit =>
    rw [Factory.proceed, ended]
    exact answered

/-- A caller that neither waits for a builder nor has been answered runs its next stretch. -/
theorem proceed_advance (stands : factory.callers[caller]? = some ⟨id, stage⟩)
    (goes : stage = .entering ∨ stage = .activating ∨ (∃ flight, stage = .joined flight) ∨
      ∃ flight build, stage = .checking flight build) :
    factory.proceed caller work (limit + 1) =
      (factory.advance caller work.resource).proceed caller work limit := by
  have stands : factory.stage? caller = some stage := stage?_of_caller stands rfl
  have next : factory.proceed? caller work = some (factory.advance caller work.resource) := by
    rw [proceed?, stands]
    -- At each of these stages the next stretch needs nothing from outside.
    rcases goes with rfl | rfl | ⟨flight, rfl⟩ | ⟨flight, build, rfl⟩ <;> rfl
  rw [proceed, next]

/-- A caller with a new resource stores it, as nothing has come in between. -/
theorem Aboard.checks (aboard : Aboard factory caller id flight (.checking flight build))
    (holds : Holds factory register) (serves : register.phase = .active)
    (absent : register.entries.lookup id = none) (inside : build < register.calls.length) :
    Answered (factory.proceed caller work (limit + 1)) caller id
      (.ok build, register.push id build) := by
  have runs : factory.phase = .active := holds.phase.trans serves
  have stores : factory.advance caller work.resource =
      -- The flight is of the current generation, so the resource is still wanted.
      (factory.store build id).land caller flight (.ready build) := by
    simp [advance, aboard.stands, check, runs, aboard.flown]
  obtain ⟨freed, _⟩ := store_frame factory build id
  have calm : (register.push id build).phase ≠ .invalidating := by
    have same : (register.push id build).phase = register.phase := by
      unfold Register.push
      split <;> rfl
    rw [same, serves]
    simp
  -- Storing leaves the flight, the table and the callers alone.
  have still : Aboard (factory.store build id) caller id flight (.checking flight build) := by
    refine ⟨?_, ?_, ?_, ?_⟩
    · rw [freed.callers]
      exact aboard.stands
    · rw [freed.flights, freed.generation]
      exact aboard.flown
    · rw [freed.table]
      exact aboard.tracked
    · rw [freed.table]
      exact aboard.alone
  rw [proceed_advance aboard.stands (.inr (.inr (.inr ⟨_, _, rfl⟩))), stores]
  exact (still.land (holds.stored absent inside) calm (.ok build)).proceed work limit

/-- A caller that drives a build is answered as the builder's work ends. -/
theorem Aboard.builds (aboard : Aboard factory caller id flight (.building flight build))
    (holds : Holds factory register) (serves : register.phase = .active)
    (absent : register.entries.lookup id = none) (inside : build < register.calls.length) :
    Answered (factory.proceed caller work (limit + 2)) caller id
      (match work.outcome.report? id register.budget with
        | none => (.ok build, register.push id build)
        | some error => (.error error, register)) := by
  -- What the builder logs is no part of what happens next.
  have stands : factory.stage? caller = some (.building flight build) :=
    stage?_of_caller aboard.stands rfl
  have next : factory.proceed caller work (limit + 2) =
      (({ factory with journal := factory.journal ++ work.notices }.finish caller flight build id
        work.outcome).proceed caller work (limit + 1)) := by
    rw [proceed, proceed?, stands]
    dsimp only
    rw [foldl_note_frame]
    simp only [step, aboard.stands]
  rw [next, ← holds.budget]
  cases told : work.outcome.report? id factory.budget with
  | none =>
    rw [Outcome.report?_eq_none.mp told]
    -- The caller goes on to see whether the resource is still wanted.
    have checking : Aboard
        ({ factory with journal := factory.journal ++ work.notices }.finish caller flight build id
          .ready) caller id flight (.checking flight build) :=
      { aboard with stands := getElem?_modify_self aboard.stands _ }
    exact checking.checks (((holds.progressed build .ready).noted _ _).reseated (move_frame ..) rfl)
      serves absent inside
  | some error =>
    obtain ⟨status, metrics, journal, ends⟩ :=
      finish_report { factory with journal := factory.journal ++ work.notices } caller flight build
        told
    -- Nothing has been cached, and the flight ends with the report.
    have still : Aboard { factory.updateBuild build ({ · with status }) with metrics, journal }
        caller id flight (.building flight build) := { aboard with }
    rw [ends]
    exact (still.land ((holds.progressed build status).noted metrics journal)
      (by rw [serves]; simp) (.error error)).proceed work (limit + 1)

/-- A caller whose turn it is has the builder called. -/
theorem Aboard.starts (aboard : Aboard factory caller id flight (.joined flight))
    (holds : Holds factory register) (serves : register.phase = .active)
    (absent : register.entries.lookup id = none) :
    Answered (factory.proceed caller work (limit + 3)) caller id (register.build work id) := by
  obtain ⟨missed, looked⟩ := holds.miss absent
  have parts : factory.cache.get id = (none, (factory.cache.get id).2) := by rw [← missed]
  have starts : factory.advance caller work.resource =
      ({ factory with
        -- The caller is first on its flight, and the cache still has nothing for it.
        cache := (factory.cache.get id).2
        builds := factory.builds.push { id, flight, resource := work.resource } }).move caller
          (.building flight factory.builds.size) := by
    simp only [advance, aboard.stands, resume, aboard.flown, List.head?_cons, if_true]
    rw [start, parts]
  -- The new build gets the number that the register gives the call.
  have driving : Aboard (factory.advance caller work.resource) caller id flight
      (.building flight register.calls.length) := by
    rw [starts, holds.size_builds]
    exact { aboard with stands := getElem?_modify_self aboard.stands _ }
  have holds : Holds (factory.advance caller work.resource)
      { register with calls := register.calls ++ [(id, work.resource)] } := by
    rw [starts]
    exact (looked.called id flight work.resource).reseated (move_frame ..) rfl
  have inside : register.calls.length < (register.calls ++ [(id, work.resource)]).length := by
    simp
  rw [proceed_advance aboard.stands (.inr (.inr (.inl ⟨_, rfl⟩)))]
  exact driving.builds holds serves absent inside

omit [Releasable ρ] in
/-- Nobody can be joined where no flight is tracked. -/
theorem Rests.joins (rests : Rests factory register)
    (stands : factory.callers[caller]? = some ⟨id, stage⟩) :
    Aboard (factory.join caller id) caller id factory.flights.size
      (.joined factory.flights.size) := by
  -- The table is empty, so a new flight is opened under the number of all flights before it.
  have untracked : factory.table[id]? = none :=
    Std.HashMap.getElem?_of_isEmpty (by rw [Std.HashMap.isEmpty_eq_size_eq_zero, rests.table]; rfl)
  -- The caller is the only member of the new flight, which is the only one tracked.
  have launches : factory.join caller id = { factory with
      flights := factory.flights.push
        { id, generation := factory.generation, members := [caller] }
      table := factory.table.insert id factory.flights.size }.move caller
        (.joined factory.flights.size) := by
    rw [join, joinable?, untracked]
    rfl
  have absent : id ∉ factory.table := by
    rw [← Std.HashMap.isSome_getElem?_iff_mem, untracked]
    simp
  rw [launches]
  refine ⟨getElem?_modify_self stands _, Array.getElem?_push_size, ?_, ?_⟩
  · exact Std.HashMap.getElem?_insert_self
  · show (factory.table.insert id _).size = 1
    rw [Std.HashMap.size_insert, if_neg absent, rests.table]

/-- A caller that finds the factory serving is answered from the cache or by a build. -/
theorem Rests.looks (rests : Rests factory register)
    (stands : factory.callers[caller]? = some ⟨id, .entering⟩)
    (serves : register.phase = .active) :
    Answered (factory.proceed caller work (limit + 4)) caller id (register.look work id) := by
  have runs : factory.phase = .active := rests.phase.trans serves
  rw [proceed_advance stands (.inl rfl), Register.look]
  cases found : register.entries.lookup id with
  | some build =>
    -- A hit is served at once.
    obtain ⟨answer, moved⟩ := rests.hit found
    have parts : factory.cache.get id = (some build, (factory.cache.get id).2) := by rw [← answer]
    have hits : factory.advance caller work.resource =
        ({ factory with cache := (factory.cache.get id).2 }.count fun metrics =>
          { metrics with cacheHits := metrics.cacheHits + 1 }).move caller (.served build) := by
      simp only [advance, stands, enter, runs]
      rw [parts]
    rw [hits]
    have served : Answered (({ factory with cache := (factory.cache.get id).2 }.count fun metrics =>
          { metrics with cacheHits := metrics.cacheHits + 1 }).move caller (.served build))
        caller id (.ok build, { register with
          entries := (id, build) :: register.entries.filter (·.1 != id) }) :=
      ⟨⟨(moved.noted _ _).reseated (move_frame ..) rfl, rests.table, rests.calm⟩,
        getElem?_modify_self stands _⟩
    exact served.proceed work (limit + 3)
  | none =>
    -- A miss opens a flight, on which the caller is alone.
    obtain ⟨missed, looked⟩ := rests.miss found
    have parts : factory.cache.get id = (none, (factory.cache.get id).2) := by rw [← missed]
    have joins : factory.advance caller work.resource =
        ({ factory with cache := (factory.cache.get id).2 }.count fun metrics =>
          { metrics with cacheMisses := metrics.cacheMisses + 1 }).join caller id := by
      simp only [advance, stands, enter, runs]
      rw [parts]
    have still : Rests ({ factory with cache := (factory.cache.get id).2 }.count fun metrics =>
        { metrics with cacheMisses := metrics.cacheMisses + 1 }) register :=
      ⟨looked.noted _ _, rests.table, rests.calm⟩
    rw [joins]
    exact (still.joins stands).starts (still.reseated (join_frame ..) (join_budget ..)) serves found

omit [Releasable ρ] in
/-- A factory that begins to serve does so as it is told. -/
theorem Rests.activate (rests : Rests factory register) :
    Rests factory.activate register.activate := by
  unfold Factory.activate Register.activate
  by_cases new : register.phase = .uninitialized
  · rw [if_pos (rests.phase.trans new), if_pos new]
    exact { rests with phase := rfl, calm := by simp }
  · rw [if_neg (by rw [rests.phase]; exact new), if_neg new]
    exact rests

omit [Releasable ρ] in
/-- Where a caller stands is not told. -/
theorem Rests.move (rests : Rests factory register) (caller : Nat) (stage : Stage) :
    Rests (factory.move caller stage) register :=
  ⟨rests.reseated (move_frame ..) rfl, rests.table, rests.calm⟩

/-- A caller that finds the factory new makes it serve, and enters once more. -/
theorem Rests.wakes (rests : Rests factory register) (work : Work ρ) (limit : Nat)
    (stands : factory.callers[caller]? = some ⟨id, .entering⟩)
    (new : register.phase = .uninitialized) :
    ∃ awake : Factory ρ, Rests awake register.activate ∧
      awake.callers[caller]? = some ⟨id, .entering⟩ ∧
      factory.proceed caller work (limit + 2) = awake.proceed caller work limit := by
  -- Two stretches: one to see that the factory is new, one to make it serve.
  have waits : factory.advance caller work.resource = factory.move caller .activating := by
    simp only [advance, stands, enter, rests.phase.trans new]
  have stood : (factory.move caller .activating).callers[caller]? = some ⟨id, .activating⟩ :=
    getElem?_modify_self stands _
  have wakes : (factory.move caller .activating).advance caller work.resource =
      (factory.move caller .activating).activate.move caller .entering := by
    simp only [advance, stood]
  refine ⟨_, (rests.move caller .activating).activate.move caller .entering, ?_, ?_⟩
  · rw [move_callers, (Touched.activate _).callers]
    exact getElem?_modify_self stood _
  · rw [proceed_advance stands (.inl rfl), waits, proceed_advance stood (.inr (.inl rfl)), wakes]

/-- A caller that comes while the factory rests is answered as the register answers it. -/
theorem Rests.enters (rests : Rests factory register)
    (stands : factory.callers[caller]? = some ⟨id, .entering⟩) (builder : Identifier → Work ρ) :
    Answered (factory.proceed caller (builder id) longestLookup) caller id
      (register.get builder id) := by
  unfold Register.get longestLookup
  cases phase : register.phase with
  | active =>
    have same : register.activate = register := by
      -- A factory that serves already stays as it is.
      rw [Register.activate, if_neg (by simp [phase])]
    rw [if_neg (by simp), same]
    exact rests.looks stands phase
  | invalidating => exact absurd phase rests.calm
  | shutdown =>
    -- A factory that is shut down refuses whoever enters.
    have refuses : factory.advance caller (builder id).resource =
        factory.move caller (.refused .closed) := by
      simp only [advance, stands, enter, rests.phase.trans phase]
    have refused : Answered (factory.move caller (.refused .closed)) caller id
        (.error .closed, register) :=
      ⟨rests.move caller (.refused .closed), getElem?_modify_self stands _⟩
    rw [proceed_advance stands (.inl rfl), refuses]
    exact refused.proceed (builder id) 5
  | uninitialized =>
    -- A new factory needs two stretches more before it serves.
    obtain ⟨awake, serving, entering, next⟩ :=
      rests.wakes (builder id) 4 stands phase
    have serves : register.activate.phase = .active := by
      rw [Register.activate, if_pos phase]
    rw [if_neg (by simp), next]
    exact serving.looks entering serves

/-- A lookup with nobody else under way is answered as the register answers it. -/
theorem Rests.get (rests : Rests factory register) (builder : Identifier → Work ρ)
    (id : Identifier) :
    (factory.get builder id).1 = some (register.get builder id).1 ∧
      Rests (factory.get builder id).2 (register.get builder id).2 := by
  -- A caller that has just come is not told of, and all that it does is one lookup.
  have come : Rests (factory.step (.call id)) register := { rests with }
  have stands : (factory.step (.call id)).callers[factory.callers.size]? = some ⟨id, .entering⟩ :=
    Array.getElem?_push_size
  obtain ⟨rests, answered⟩ := come.enters stands builder
  have stage : (factory.get builder id).2.stage? factory.callers.size =
      some (attemptOf (register.get builder id).1).stage := by
    rw [get_after, stage?, answered]
    rfl
  refine ⟨?_, get_after factory builder id ▸ rests⟩
  -- The answer is read off the stage of the caller.
  have told : (factory.get builder id).1 =
      (factory.get builder id).2.answer? factory.callers.size := rfl
  rw [told, answer?, stage]
  cases (register.get builder id).1 <;> rfl

end PackGate.Factory
