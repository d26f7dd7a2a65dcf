import PackGate.Proofs.Factory.Account

/-! What one step enters into the books: it is one of a few postings, and which one is told by
what its caller does. -/

namespace PackGate

namespace Factory

variable {ρ : Type}

/-- What a caller does in a step, as far as the books go. -/
inductive Act where
  /-- It finds its resource in the cache. -/
  | hit
  /-- It joins a flight. -/
  | join
  /-- Its builder is done. -/
  | finish
  /-- It puts its new resource into the cache. -/
  | store
  /-- It finds that its new resource is not wanted. -/
  | discard
  /-- It goes away with its new resource. -/
  | forsake
  /-- Nothing that is counted. -/
  | other
deriving DecidableEq, Repr

/-- What a caller has done that stood at one stage and stands at another. -/
def Act.between : Option Stage → Option Stage → Act
  | some .entering, some (.served _) => .hit
  | some .entering, some (.joined _) => .join
  | some (.building _ _), some (.checking _ _) => .finish
  | some (.building _ _), some (.refused _) => .finish
  | some (.checking _ _), some (.served _) => .store
  | some (.checking _ _), some (.refused _) => .discard
  | some (.checking _ _), some .entering => .discard
  | some (.checking _ _), some .cancelled => .forsake
  | _, _ => .other

section Posting

variable [Releasable ρ] (factory : Factory ρ)

/-- What happens with an event, as far as the books go. -/
def act (event : Event ρ) : Act :=
  match event.actor? with
  | none => .other
  | some caller => .between (factory.stage? caller) ((factory.step event).stage? caller)

/-- All that a step can do to an account. -/
inductive Posting (before : Account) : Act → Account → Prop where
  /-- Nothing is counted. -/
  | other : Posting before .other before
  /-- A hit. -/
  | hit : Posting before .hit { before with hits := before.hits + 1 }
  /-- A miss. -/
  | join : Posting before .join { before with misses := before.misses + 1 }
  /-- A builder hands out a resource. -/
  | deliver : Posting before .finish
      { before with
        observed := before.observed + 1, ready := before.ready + 1, held := before.held + 1 }
  /-- A builder fails. -/
  | fail : Posting before .finish
      { before with
        observed := before.observed + 1, failed := before.failed + 1, unmade := before.unmade + 1 }
  /-- A budget runs out. -/
  | expire : Posting before .finish
      { before with
        observed := before.observed + 1, timeout := before.timeout + 1
        expired := before.expired + 1 }
  /-- A resource that was held is cached, and what it displaces is released. -/
  | store {held cached released faulty : Nat} (gone : before.held = held + 1)
      (room : cached + released = before.cached + 1) (some : faulty ≤ released) :
      Posting before .store
        { before.free released faulty with
          ok := before.ok + 1, entries := .ofNat cached, cached, held }
  /-- A resource that was held is released. -/
  | discard {held faulty : Nat} (gone : before.held = held + 1) (some : faulty ≤ 1) :
      Posting before .discard { before.free 1 faulty with stale := before.stale + 1, held }
  /-- A resource that was held is lost. -/
  | forsake {held : Nat} (gone : before.held = held + 1) :
      Posting before .forsake { before with held }
  /-- All that is cached is released. -/
  | reset {faulty : Nat} (some : faulty ≤ before.cached) :
      Posting before .other { before.free before.cached faulty with cached := 0, entries := 0 }

/-- An account that is the same has nothing posted. -/
theorem Posting.of_eq {before after : Account} (same : after = before) :
    Posting before .other after := by
  rw [same]
  exact .other

variable {factory}

omit [Releasable ρ] in
/-- A caller that has moved stands where it has moved to. -/
theorem stage?_of_moved {after : Factory ρ} {caller : Nat} {known : Caller} {stage : Stage}
    (here : factory.callers[caller]? = some known)
    (moved : after.callers = factory.callers.modify caller ({ · with stage })) :
    after.stage? caller = some stage := by
  rw [stage?, moved, getElem?_modify_self here]
  rfl

/-! ## Steps -/

/-- What a caller does in a step is one of the postings. -/
def Posts (factory : Factory ρ) (caller : Nat) (after : Factory ρ) : Prop :=
  Posting factory.account (.between (factory.stage? caller) (after.stage? caller)) after.account

variable {after : Factory ρ} {caller : Nat} {known : Caller}

/-- For a caller that has moved the two stages say what it has done. -/
theorem Posts.of_moved {stage : Stage} (here : factory.callers[caller]? = some known)
    (moved : after.callers = factory.callers.modify caller ({ · with stage }))
    (posting : Posting factory.account (.between (some known.stage) (some stage)) after.account) :
    Posts factory caller after := by
  -- The act is told by these two stages alone.
  have stood : factory.stage? caller = some known.stage := stage?_of_caller here rfl
  rw [Posts, stood, stage?_of_moved here moved]
  exact posting

/-- Where nothing happens nothing is posted. -/
theorem Posts.refl (factory : Factory ρ) (caller : Nat) : Posts factory caller factory := by
  -- Between equal stages no act is counted, whichever they are.
  unfold Posts
  rcases factory.stage? caller with _ | stage
  · exact .other
  · cases stage <;> exact .other

/-- A caller that looks at the phase and the cache. -/
theorem Sound.enter_posts (sound : Sound factory) (here : factory.callers[caller]? = some known)
    (enters : known.stage = .entering) : Posts factory caller (factory.enter caller known.id) := by
  -- The caller has nothing in hand, and a lookup leaves the account as it is.
  have before : known.stage.holds = false := by
    rw [enters]
    rfl
  have looked {found : Option Nat} {cache : Cache.Lru Identifier Nat}
      (answer : factory.cache.get known.id = (found, cache)) :
      { factory with cache }.account = factory.account := by
    have same := account_get sound.kept.wellFormed known.id
    rw [answer] at same
    exact same
  unfold enter
  split
  · -- A closed factory turns the caller away.
    refine .of_moved here (move_callers ..) ?_
    rw [enters]
    exact .of_eq (account_move_idle here before rfl)
  · -- A new factory has to be made to serve first.
    refine .of_moved here (move_callers ..) ?_
    rw [enters]
    exact .of_eq (account_move_idle here before rfl)
  -- In the other two phases the cache is looked up, and the answer is counted.
  all_goals
    split
    · rename_i build cache answer
      have counted : Posting factory.account .hit
          ({ factory with cache }.count fun metrics =>
            { metrics with cacheHits := metrics.cacheHits + 1 }).account := by
        rw [← looked answer]
        exact .hit
      refine .of_moved here (move_callers ..) ?_
      rw [enters, account_move_idle (by exact here) before rfl]
      exact counted
    · rename_i cache answer
      have counted : Posting factory.account .join
          ({ factory with cache }.count fun metrics =>
            { metrics with cacheMisses := metrics.cacheMisses + 1 }).account := by
        rw [← looked answer]
        exact .join
      obtain ⟨flight, _, callers, _⟩ := join_flight
        ({ factory with cache }.count fun metrics =>
          { metrics with cacheMisses := metrics.cacheMisses + 1 }) caller known.id
      refine .of_moved here callers ?_
      rw [enters, account_join (by exact here) before]
      exact counted

/-- A caller on a flight that looks at its end, or at its turn. -/
theorem Sound.resume_posts (sound : Sound factory) {flight : Nat} (resource : ρ)
    (here : factory.callers[caller]? = some known) (joined : known.stage = .joined flight) :
    Posts factory caller (factory.resume caller flight known.id resource) := by
  have before : known.stage.holds = false := by
    rw [joined]
    rfl
  unfold resume
  split
  · exact .refl factory caller
  split
  · -- Whatever the end is, it is not the caller that has made it.
    rename_i attempt _
    rw [conclude_eq_depart]
    refine .of_moved here (depart_callers ..) ?_
    rw [account_depart, joined]
    cases attempt <;> rw [account_move_idle here before rfl] <;> exact .other
  split
  · -- It is the caller's turn to drive; an earlier flight may have cached the resource.
    have looked := account_get sound.kept.wellFormed known.id
    unfold start
    rcases answer : factory.cache.get known.id with ⟨_ | build, cache⟩
    · rw [answer] at looked
      -- The new build is running, so it counts nowhere yet.
      have known : ∀ build ∈ factory.released, build < factory.builds.size := by
        intro build gone
        obtain ⟨_, found, _⟩ := sound.kept.settled gone
        exact (Array.getElem?_eq_some_iff.mp found).1
      refine .of_moved here (move_callers ..) ?_
      rw [account_move_idle (by exact here) before rfl, joined]
      exact .of_eq ((account_push { factory with cache } known rfl).trans looked)
    · rw [answer] at looked
      refine .of_moved here (land_callers ..) ?_
      rw [account_land, account_move_idle (by exact here) before rfl, looked, joined]
      exact .other
  · exact .refl factory caller

/-- A builder that is done with a build. -/
theorem Sound.finish_posts (sound : Sound factory) {flight build : Nat} (outcome : Outcome)
    (here : factory.callers[caller]? = some known)
    (builds : known.stage = .building flight build) :
    Posts factory caller (factory.finish caller flight build known.id outcome) := by
  have before : known.stage.holds = false := by
    rw [builds]
    rfl
  obtain ⟨work, found, _, _, running⟩ := sound.worked.holds here (by rw [builds]; rfl)
  -- Whatever the outcome, the duration is observed and the build is over.
  have ended (status : BuildStatus) :
      ((factory.count fun metrics =>
          { metrics with buildDuration := metrics.buildDuration.observe 0.0 }).updateBuild build
            ({ · with status })).account =
        { factory.account with observed := factory.account.observed + 1 }.conclude status := by
    rw [account_updateBuild (by exact found) running]
    congr 1
    simp only [account, count, Histogram.count_observe]
    rfl
  unfold finish
  cases outcome with
  | ready =>
    refine .of_moved here (move_callers ..) ?_
    rw [account_move_toward (by exact here) before rfl, ended, builds]
    exact .deliver
  | failed error =>
    refine .of_moved here (land_callers ..) ?_
    rw [account_land, account_move_idle (by exact here) before rfl, account_recordBuild,
      account_note, ended, builds]
    cases error <;> exact .fail
  | overdue =>
    refine .of_moved here (land_callers ..) ?_
    rw [account_land, account_move_idle (by exact here) before rfl, account_recordBuild,
      account_note, ended, builds]
    exact .expire

/-- A caller that finds its new resource unwanted. -/
theorem Sound.discard_posts (sound : Sound factory) {flight build : Nat} {attempt : Attempt}
    (here : factory.callers[caller]? = some known) (checks : known.stage = .checking flight build)
    (late : attempt = .failed .closed ∨ attempt = .stale) :
    Posts factory caller
      (((factory.count (·.recordBuild .stale)).release build).land caller flight attempt) := by
  have holds : known.stage.holds = true := by
    rw [checks]
    rfl
  obtain ⟨work, found, _⟩ := sound.worked.holds here (by rw [checks]; rfl)
  -- The outcome is recorded first, then the hook runs, and then the caller lands.
  obtain ⟨faulty, few, released⟩ := account_release (factory.count (·.recordBuild .stale)) found
  have freed := release_frame (factory.count (·.recordBuild .stale)) build
  have there : ((factory.count (·.recordBuild .stale)).release build).callers[caller]? =
      some known := by
    rw [freed.callers]
    exact here
  refine .of_moved here (by rw [land_callers, freed.callers]; rfl) ?_
  -- Releasing changes nobody's hands, and the caller's are empty afterwards.
  have gone := account_move_away there holds attempt.stage (by cases attempt <;> rfl)
  rw [account_land, account_move, released, account_recordBuild, checks]
  rw [released, account_recordBuild] at gone
  rcases late with rfl | rfl <;> exact .discard gone few

/-- A caller that sees whether its new resource is still wanted. -/
theorem Sound.check_posts (sound : Sound factory) {flight build : Nat}
    (here : factory.callers[caller]? = some known) (checks : known.stage = .checking flight build) :
    Posts factory caller (factory.check caller flight build known.id) := by
  have holds : known.stage.holds = true := by
    rw [checks]
    rfl
  unfold check
  dsimp only
  split
  · -- After the shutdown nothing is wanted.
    exact sound.discard_posts here checks (.inl rfl)
  split
  · -- The flight is of this generation, so its resource is cached.
    obtain ⟨freed, _⟩ := store_frame factory build known.id
    obtain ⟨cached, released, faulty, room, few, stored⟩ :=
      account_store sound.kept.wellFormed known.id build sound.kept.cached_known
    have there : (factory.store build known.id).callers[caller]? = some known := by
      rw [freed.callers]
      exact here
    refine .of_moved here (by rw [land_callers, freed.callers]) ?_
    have gone := account_move_away there holds (.served build) rfl
    rw [account_land, account_move, stored, checks]
    rw [stored] at gone
    exact .store gone room few
  · -- A refresh has come in between.
    exact sound.discard_posts here checks (.inr rfl)

/-- A caller that goes away. -/
theorem Sound.cancel_posts (sound : Sound factory) (here : factory.callers[caller]? = some known) :
    Posts factory caller (factory.cancel caller) := by
  unfold cancel
  -- What going away costs depends on the stage: only a build in hand is lost.
  have stands : factory.stage? caller = some known.stage := stage?_of_caller here rfl
  rw [stands]
  cases stage : known.stage with
  | entering =>
    refine .of_moved here (move_callers ..) ?_
    rw [stage]
    exact .of_eq (account_move_idle here (by rw [stage]; rfl) rfl)
  | activating =>
    refine .of_moved here (move_callers ..) ?_
    rw [stage]
    exact .of_eq (account_move_idle here (by rw [stage]; rfl) rfl)
  | joined flight =>
    refine .of_moved here (depart_callers factory caller flight .cancelled) ?_
    rw [stage]
    exact .of_eq ((account_depart factory caller flight .cancelled).trans
      (account_move_idle here (by rw [stage]; rfl) rfl))
  | building flight build =>
    -- The build ends without anything that is counted.
    obtain ⟨work, found, _, _, running⟩ := sound.worked.holds here (by rw [stage]; rfl)
    have ended := account_updateBuild found running .cancelled
    refine .of_moved here (depart_callers
      (factory.updateBuild build ({ · with status := .cancelled })) caller flight .cancelled) ?_
    rw [stage]
    exact .of_eq ((account_depart _ caller flight .cancelled).trans
      ((account_move_idle (by exact here) (by rw [stage]; rfl) rfl).trans ended))
  | checking flight build =>
    -- Its resource goes with it, and nobody is told.
    have gone := account_move_away here (by rw [stage]; rfl) .cancelled rfl
    refine .of_moved here (depart_callers factory caller flight .cancelled) ?_
    have left := account_depart factory caller flight .cancelled
    rw [account_move] at left
    rw [stage]
    exact left ▸ .forsake gone
  -- Whoever has its answer is gone already.
  | served build => exact .refl factory caller
  | refused error => exact .refl factory caller
  | cancelled => exact .refl factory caller

/-- A refresh or the shutdown. -/
theorem Sound.reset_posts (sound : Sound factory) (phase : Phase) (generation : Nat) :
    Posting factory.account .other
      ({ factory with phase, generation }.releaseAll.2).account := by
  obtain ⟨faulty, few, emptied⟩ :=
    account_releaseAll { factory with phase, generation } sound.kept.wellFormed
      sound.kept.cached_known
  rw [emptied]
  exact .reset few

/-- Beginning to serve is counted nowhere. -/
theorem account_activate (factory : Factory ρ) : factory.activate.account = factory.account := by
  unfold activate
  split <;> rfl

/-- A caller that runs to its next wait. -/
theorem Sound.advance_posts (sound : Sound factory) (caller : Nat) (resource : ρ) :
    Posts factory caller (factory.advance caller resource) := by
  unfold advance
  split
  · exact .refl factory caller
  rename_i known here
  split
  · rename_i enters
    exact sound.enter_posts here enters
  · rename_i stage
    have there : factory.activate.callers[caller]? = some known := by
      rw [(Touched.activate factory).callers]
      exact here
    refine .of_moved here (by rw [move_callers, (Touched.activate factory).callers]) ?_
    rw [stage]
    exact .of_eq ((account_move_idle there (by rw [stage]; rfl) rfl).trans
      (account_activate factory))
  · rename_i joined
    exact sound.resume_posts resource here joined
  · rename_i checks
    exact sound.check_posts here checks
  all_goals exact .refl factory caller

/-- What a step does to the account is what happens with its event. -/
theorem Sound.step_posts (sound : Sound factory) (event : Event ρ) :
    Posting factory.account (factory.act event) (factory.step event).account := by
  cases event with
  | call id =>
    -- The new caller holds nothing.
    refine .of_eq ?_
    have held : (factory.callers.push { id }).countP (·.stage.holds) =
        factory.callers.countP (·.stage.holds) := Array.countP_push_of_neg (by simp [Stage.holds])
    simp only [Factory.step, account, held]
    rfl
  | advance caller resource => exact sound.advance_posts caller resource
  | finish caller outcome =>
    show Posts factory caller _
    dsimp only [Factory.step]
    split
    · rename_i here
      have posts := sound.finish_posts outcome here rfl
      exact posts
    · exact .refl factory caller
  | cancel caller =>
    show Posts factory caller (factory.cancel caller)
    cases here : factory.callers[caller]? with
    | some known => exact sound.cancel_posts here
    | none =>
      unfold cancel stage?
      rw [here]
      exact .refl factory caller
  | activate => exact .of_eq (account_activate factory)
  | invalidate =>
    show Posting factory.account .other factory.invalidate.2.account
    unfold invalidate
    split
    · exact .other
    · have posting := sound.reset_posts .invalidating (factory.generation + 1)
      dsimp only
      -- What a refresh does to the emptied factory is counted nowhere.
      generalize { factory with
        phase := Phase.invalidating, generation := factory.generation + 1 }.releaseAll = emptied
        at posting ⊢
      exact posting
  | shutdown =>
    show Posting factory.account .other factory.shutdown.2.account
    unfold shutdown
    split
    · -- It is closed already.
      exact .other
    · exact sound.reset_posts .shutdown (factory.generation + 1)

end Posting

end Factory
end PackGate
