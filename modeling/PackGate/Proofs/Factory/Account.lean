import PackGate.Proofs.Factory.Passage

/-! The books of a factory: its counters, what there is for them to count, and what each part of
a step does to the two. -/

namespace PackGate

/-- Adding to one counter of a family leaves the others as they are. -/
theorem Family.value_add {label : Type} [DecidableEq label] (family : Family label)
    (key other : label) (amount : UInt64) :
    (family.add key amount).value other =
      family.value other + if other = key then amount else 0 := by
  -- The counter that a list of one more counter shows is the first, or one of the rest.
  have shown (name : label) (count : UInt64) (rest : Family label) :
      Family.value ((name, count) :: rest) other =
        if other = name then count else rest.value other := by
    by_cases same : other = name
    · simp [value, same]
    · simp [value, List.lookup_cons, beq_false_of_ne same, same]
  -- The addition walks the list as the reading does, so both meet the same counter first.
  induction family with
  | nil =>
    -- A counter that nobody has used yet starts at zero.
    rw [add, shown]
    simp [value]
  | cons entry rest ih =>
    obtain ⟨name, count⟩ := entry
    rw [add]
    split
    · -- The counter of the key has been found.
      rename_i here
      subst here
      rw [shown, shown]
      split <;> simp
    · -- The first counter belongs to another key, and it may be the one that is read.
      rename_i elsewhere
      rw [shown, shown, ih]
      split
      · rename_i same
        rw [if_neg (by rw [same]; exact elsewhere), UInt64.add_zero]
      · rfl

/-- One more build is counted under its outcome. -/
theorem Metrics.value_recordBuild (metrics : Metrics) (outcome other : BuildOutcome) :
    (metrics.recordBuild outcome).builds.value other =
      metrics.builds.value other + if other = outcome then 1 else 0 :=
  Family.value_add ..

/-- Every observation is counted. -/
theorem Histogram.count_observe (histogram : Histogram) (seconds : Float) :
    (histogram.observe seconds).count = histogram.count + 1 := by
  unfold observe
  dsimp only
  split <;> rfl

namespace Factory

variable {ρ : Type}

/-- A change of one element changes a count by that element alone. -/
theorem countP_modify {α : Type} {items : Array α} {index : Nat} {item : α}
    (found : items[index]? = some item) (counts : α → Bool) (change : α → α) :
    (items.modify index change).countP counts + (counts item).toNat =
      items.countP counts + (counts (change item)).toNat := by
  obtain ⟨inside, rfl⟩ := Array.getElem?_eq_some_iff.mp found
  -- The library counts after a `set`, so the change is written as one.
  have changed : items.modify index change = items.set index (change items[index]) inside := by
    apply Array.ext_getElem?
    intro position
    rw [getElem?_modify_of_some found, Array.getElem?_set]
  -- The old element is part of the count, so the subtraction of it is exact.
  have there : (if counts items[index] then 1 else 0) ≤ items.countP counts :=
    Array.boole_getElem_le_countP inside
  rw [changed, Array.countP_set]
  generalize counts items[index] = before at there ⊢
  generalize counts (change items[index]) = now
  generalize items.countP counts = total at there ⊢
  cases before <;> cases now <;> simp at there ⊢ <;> omega

/-! ## Accounts -/

/-- A caller at a stage holds a new resource. -/
def Stage.holds : Stage → Bool
  | .checking _ _ => true
  | .entering | .activating | .joined _ | .building _ _ | .served _ | .refused _ | .cancelled =>
    false

/-- How many runs of release hooks fail, if those of some builds have gone before. -/
def failing (fails : Nat → Nat → Bool) (before : List Nat) : List Nat → Nat
  | [] => 0
  | build :: rest =>
    (fails build (before.count build)).toNat + failing fails (before ++ [build]) rest

/-- The failures of two lists of runs are those of the one and then those of the other. -/
theorem failing_append (fails : Nat → Nat → Bool) (before one two : List Nat) :
    failing fails before (one ++ two) =
      failing fails before one + failing fails (before ++ one) two := by
  induction one generalizing before with
  | nil => simp [failing]
  | cons build rest ih =>
    simp only [List.cons_append, failing, ih, List.append_assoc, List.nil_append]
    omega

/-- Only the builds in the list count. -/
theorem failing_congr {fails other : Nat → Nat → Bool} (before list : List Nat)
    (same : ∀ build ∈ list, ∀ ran, fails build ran = other build ran) :
    failing fails before list = failing other before list := by
  induction list generalizing before with
  | nil => rfl
  | cons build rest ih =>
    rw [failing, failing, same build (by simp),
      ih _ fun later member => same later (by simp [member])]

/-- What the counters say, and what there is for them to count. -/
structure Account where
  /-- The counter of hits. -/
  hits : UInt64
  /-- The counter of misses. -/
  misses : UInt64
  /-- The counter of builds that were cached. -/
  ok : UInt64
  /-- The counter of builds whose budget ran out. -/
  timeout : UInt64
  /-- The counter of builds that failed. -/
  failed : UInt64
  /-- The counter of builds that came too late. -/
  stale : UInt64
  /-- The number of observed durations. -/
  observed : UInt64
  /-- The counter of releases. -/
  releases : UInt64
  /-- The counter of releases that failed. -/
  releaseFailures : UInt64
  /-- The gauge of cached resources. -/
  entries : Int64
  /-- How many resources are cached. -/
  cached : Nat
  /-- How many release hooks have run. -/
  released : Nat
  /-- How many of them have failed. -/
  faulty : Nat
  /-- How many callers hold a new resource. -/
  held : Nat
  /-- How many builds have handed out a resource. -/
  ready : Nat
  /-- How many builds have ended with an error. -/
  unmade : Nat
  /-- How many builds have run out of their budget. -/
  expired : Nat

/-- Some release hooks have run, and some of them have failed. -/
def Account.free (account : Account) (released faulty : Nat) : Account :=
  { account with
    releases := account.releases + .ofNat released
    released := account.released + released
    releaseFailures := account.releaseFailures + .ofNat faulty
    faulty := account.faulty + faulty }

/-- One more build is counted under its outcome. -/
def Account.record (account : Account) : BuildOutcome → Account
  | .ok => { account with ok := account.ok + 1 }
  | .timeout => { account with timeout := account.timeout + 1 }
  | .failed => { account with failed := account.failed + 1 }
  | .stale => { account with stale := account.stale + 1 }

/-- A running build comes to an end. -/
def Account.conclude (account : Account) : BuildStatus → Account
  | .running | .cancelled => account
  | .ready => { account with ready := account.ready + 1 }
  | .missing | .failed => { account with unmade := account.unmade + 1 }
  | .expired => { account with expired := account.expired + 1 }

/-- Running hooks in two goes is running them in one. -/
theorem Account.free_free (account : Account) (one two first second : Nat) :
    (account.free one first).free two second = account.free (one + two) (first + second) := by
  simp only [free, UInt64.ofNat_add, UInt64.add_assoc, Nat.add_assoc]

/-- No hook has run and none has failed. -/
theorem Account.free_zero (account : Account) : account.free 0 0 = account := by
  simp [free]

section Account

variable [Releasable ρ] (factory : Factory ρ)

/-- Whether the hook of a build's resource fails when it has run a number of times. -/
def hookFails (build ran : Nat) : Bool :=
  (factory.builds[build]?).any fun work => Releasable.releaseFails work.resource ran

/-- The account of a factory. -/
def account : Account where
  hits := factory.metrics.cacheHits
  misses := factory.metrics.cacheMisses
  ok := factory.metrics.builds.value .ok
  timeout := factory.metrics.builds.value .timeout
  failed := factory.metrics.builds.value .failed
  stale := factory.metrics.builds.value .stale
  observed := factory.metrics.buildDuration.count
  releases := factory.metrics.releases
  releaseFailures := factory.metrics.releaseFailures
  entries := factory.metrics.cacheEntries
  cached := factory.cache.size
  released := factory.released.length
  faulty := failing factory.hookFails [] factory.released
  held := factory.callers.countP (·.stage.holds)
  ready := factory.builds.countP (·.status = .ready)
  unmade := factory.builds.countP fun work => work.status = .missing || work.status = .failed
  expired := factory.builds.countP (·.status = .expired)

/-! ## Parts of a step -/

variable {factory}

/-- Releasing a build runs one hook. -/
theorem account_release (factory : Factory ρ) {build : Nat} {work : Build ρ}
    (found : factory.builds[build]? = some work) :
    ∃ faulty ≤ 1, (factory.release build).account = factory.account.free 1 faulty := by
  -- The hook fails or it does not, and a failure is counted beside the release.
  have fails : factory.hookFails build (factory.releases build) =
      Releasable.releaseFails work.resource (factory.releases build) := by
    rw [hookFails, found, Option.any_some]
  have more : failing factory.hookFails [] (factory.released ++ [build]) =
      failing factory.hookFails [] factory.released +
        (Releasable.releaseFails work.resource (factory.releases build)).toNat := by
    rw [failing_append, ← fails]
    rfl
  unfold release
  rw [found]
  dsimp only
  split
  · rename_i fault
    rw [fault] at more
    refine ⟨1, Nat.le_refl 1, ?_⟩
    simp only [account, Account.free, count, note, List.length_append, List.length_singleton,
      Account.mk.injEq, true_and, and_true]
    exact ⟨rfl, rfl, more⟩
  · rename_i fine
    rw [Bool.not_eq_true] at fine
    rw [fine] at more
    refine ⟨0, Nat.zero_le 1, ?_⟩
    simp only [account, Account.free, count, List.length_append, List.length_singleton,
      Account.mk.injEq, true_and, and_true]
    exact ⟨rfl, (UInt64.add_zero _).symm, more⟩

/-- Releasing known builds one after the other runs one hook for each. -/
theorem account_foldl_release (entries : List (Identifier × Nat)) (factory : Factory ρ)
    (known : ∀ entry ∈ entries, ∃ work, factory.builds[entry.2]? = some work) :
    ∃ faulty ≤ entries.length,
      (entries.foldl (fun factory (_, build) => factory.release build) factory).account =
        factory.account.free entries.length faulty := by
  induction entries generalizing factory with
  | nil => exact ⟨0, Nat.le_refl 0, factory.account.free_zero.symm⟩
  | cons entry rest ih =>
    obtain ⟨work, found⟩ := known entry (by simp)
    obtain ⟨first, one, released⟩ := account_release factory found
    -- A release keeps the builds, so the later ones are still known.
    obtain ⟨more, few, others⟩ := ih (factory.release entry.2) fun later member => by
      rw [(release_frame ..).builds]
      exact known later (by simp [member])
    refine ⟨first + more, by rw [List.length_cons]; omega, ?_⟩
    rw [List.foldl_cons, others, released, Account.free_free, List.length_cons, Nat.add_comm 1]

/-- A move changes how many callers hold something by the one that moves. -/
theorem held_move {caller : Nat} {known : Caller} (here : factory.callers[caller]? = some known)
    (stage : Stage) :
    (factory.move caller stage).account.held + known.stage.holds.toNat =
      factory.account.held + stage.holds.toNat :=
  countP_modify here (·.stage.holds) ({ · with stage })

/-- A move changes at most how many callers hold something. -/
theorem account_move (factory : Factory ρ) (caller : Nat) (stage : Stage) :
    (factory.move caller stage).account =
      { factory.account with held := (factory.move caller stage).account.held } :=
  rfl

/-- A caller that holds nothing and gets nothing moves without a change of the account. -/
theorem account_move_idle {caller : Nat} {known : Caller} {stage : Stage}
    (here : factory.callers[caller]? = some known) (before : known.stage.holds = false)
    (now : stage.holds = false) : (factory.move caller stage).account = factory.account := by
  have held := held_move here stage
  rw [before, now] at held
  rw [account_move, show (factory.move caller stage).account.held = factory.account.held from held]

/-- A caller that gets something to hold is one holder more. -/
theorem account_move_toward {caller : Nat} {known : Caller} {stage : Stage}
    (here : factory.callers[caller]? = some known) (before : known.stage.holds = false)
    (now : stage.holds = true) :
    (factory.move caller stage).account =
      { factory.account with held := factory.account.held + 1 } := by
  have held := held_move here stage
  rw [before, now] at held
  rw [account_move, show (factory.move caller stage).account.held = _ + 1 from held]

/-- A caller that holds something and lets go of it is one holder less. -/
theorem account_move_away {caller : Nat} {known : Caller}
    (here : factory.callers[caller]? = some known) (before : known.stage.holds = true)
    (stage : Stage) (now : stage.holds = false) :
    factory.account.held = (factory.move caller stage).account.held + 1 := by
  have held := held_move here stage
  rw [before, now] at held
  exact held.symm

/-- The log is no part of the account. -/
theorem account_note (factory : Factory ρ) (notice : Notice) :
    (factory.note notice).account = factory.account :=
  rfl

/-- Departing from a flight is a move. -/
theorem account_depart (factory : Factory ρ) (caller flight : Nat) (stage : Stage) :
    (factory.depart caller flight stage).account = (factory.move caller stage).account := by
  unfold depart leave
  split <;> rfl

/-- Landing is a move. -/
theorem account_land (factory : Factory ρ) (caller flight : Nat) (attempt : Attempt) :
    (factory.land caller flight attempt).account =
      (factory.move caller attempt.stage).account := by
  rw [land_eq]
  exact account_depart factory caller flight attempt.stage

/-- A caller that holds nothing joins a flight without a change of the account. -/
theorem account_join {caller : Nat} {known : Caller} (here : factory.callers[caller]? = some known)
    (before : known.stage.holds = false) (id : Identifier) :
    (factory.join caller id).account = factory.account := by
  unfold join
  split <;> exact account_move_idle here before rfl

/-- Looking the cache up leaves as much in it. -/
theorem account_get (wellFormed : factory.cache.WellFormed) (id : Identifier) :
    { factory with cache := (factory.cache.get id).2 }.account = factory.account := by
  have size : (factory.cache.get id).2.size = factory.cache.size :=
    Cache.Lru.size_get wellFormed id
  simp only [account, size]
  rfl

/-- A build that is recorded counts under its outcome. -/
theorem account_recordBuild (factory : Factory ρ) (outcome : BuildOutcome) :
    (factory.count (·.recordBuild outcome)).account = factory.account.record outcome := by
  have counted : (factory.count (·.recordBuild outcome)).account =
      { factory.account with
        ok := (factory.metrics.recordBuild outcome).builds.value .ok
        timeout := (factory.metrics.recordBuild outcome).builds.value .timeout
        failed := (factory.metrics.recordBuild outcome).builds.value .failed
        stale := (factory.metrics.recordBuild outcome).builds.value .stale } := rfl
  rw [counted]
  simp only [Metrics.value_recordBuild]
  cases outcome <;> simp [Account.record, account]

/-- A running build that comes to an end counts under its status from then on. -/
theorem account_updateBuild {build : Nat} {work : Build ρ}
    (found : factory.builds[build]? = some work) (running : work.status = .running)
    (status : BuildStatus) :
    (factory.updateBuild build ({ · with status })).account = factory.account.conclude status := by
  -- The resource of the build stays, so its hook fails as before.
  have hooks : (factory.updateBuild build ({ · with status })).hookFails = factory.hookFails := by
    funext other ran
    unfold hookFails updateBuild
    rw [getElem?_modify_of_some found]
    split
    · rename_i same
      rw [← same, found]
      rfl
    · rfl
  -- A running build was counted nowhere, so each count grows by the new status alone.
  have counted (counts : BuildStatus → Bool) (idle : counts .running = false) :
      (factory.builds.modify build ({ · with status })).countP (counts ·.status) =
        factory.builds.countP (counts ·.status) + (counts status).toNat := by
    have changed := countP_modify found (counts ·.status) ({ · with status })
    simp only [running, idle] at changed
    exact changed
  have ready := counted (· = .ready) rfl
  have unmade := counted (fun status => status = .missing || status = .failed) rfl
  have expired := counted (· = .expired) rfl
  unfold account
  rw [hooks]
  simp only [updateBuild, ready, unmade, expired]
  cases status <;> rfl

/-- A build that starts counts nowhere. -/
theorem account_push (factory : Factory ρ) {work : Build ρ}
    (known : ∀ build ∈ factory.released, build < factory.builds.size)
    (running : work.status = .running) :
    { factory with builds := factory.builds.push work }.account = factory.account := by
  -- No hook has run for the new build.
  have hooks : failing { factory with builds := factory.builds.push work }.hookFails []
      factory.released = failing factory.hookFails [] factory.released := by
    refine failing_congr [] factory.released fun build gone ran => ?_
    have inside := known build gone
    unfold hookFails
    rw [Array.getElem?_push, if_neg (by omega)]
  unfold account
  rw [hooks]
  simp [running]

/-- A new resource goes into the cache; at most one other is released. -/
theorem account_store (wellFormed : factory.cache.WellFormed) (id : Identifier) (build : Nat)
    (known : ∀ entry ∈ factory.cache.toList, ∃ work, factory.builds[entry.2]? = some work) :
    ∃ cached released faulty, cached + released = factory.cache.size + 1 ∧ faulty ≤ released ∧
      (factory.store build id).account =
        { factory.account.free released faulty with
          ok := factory.account.ok + 1, entries := .ofNat cached, cached } := by
  have size := Cache.Lru.size_insert wellFormed id build
  have was := (Cache.Lru.insert_contents wellFormed id build).1
  unfold store
  generalize factory.cache.insert id build = done at size was ⊢
  obtain ⟨insertion, cache⟩ := done
  -- The gauge is set, and the outcome counted, after what is displaced has been released.
  have filed (cleared : Factory ρ) (same : cleared.cache = cache) (released faulty : Nat)
      (freed : cleared.account =
        { factory.account.free released faulty with cached := cache.size }) :
      (cleared.count fun metrics =>
          { metrics with cacheEntries := Int64.ofNat cleared.cache.size }.recordBuild .ok).account =
        { factory.account.free released faulty with
          ok := factory.account.ok + 1, entries := .ofNat cache.size, cached := cache.size } := by
    refine (account_recordBuild (cleared.count fun metrics =>
      { metrics with cacheEntries := Int64.ofNat cleared.cache.size }) .ok).trans ?_
    have gauge : (cleared.count fun metrics =>
        { metrics with cacheEntries := Int64.ofNat cleared.cache.size }).account =
          { cleared.account with entries := .ofNat cleared.cache.size } := rfl
    rw [gauge, freed, same]
    rfl
  cases insertion with
  | inserted =>
    refine ⟨cache.size, 0, 0, size, Nat.le_refl 0, ?_⟩
    refine filed _ rfl 0 0 ?_
    rw [Account.free_zero]
    rfl
  | updated previous =>
    obtain ⟨work, found⟩ := known _ (was _ rfl)
    obtain ⟨faulty, few, released⟩ :=
      account_release { factory with cache } found
    refine ⟨cache.size, 1, faulty, size, few, ?_⟩
    refine filed _ (release_frame ..).cache 1 faulty ?_
    exact released
  | evicted oldId oldest =>
    obtain ⟨work, found⟩ := known _ (was _ rfl)
    obtain ⟨faulty, few, released⟩ :=
      account_release ({ factory with cache }.count fun metrics =>
        { metrics with cacheEvictions := metrics.cacheEvictions + 1 }) found
    refine ⟨cache.size, 1, faulty, size, few, ?_⟩
    refine filed _ (release_frame ..).cache 1 faulty ?_
    exact released

/-- Emptying the cache releases all that is in it. -/
theorem account_releaseAll (factory : Factory ρ) (wellFormed : factory.cache.WellFormed)
    (known : ∀ entry ∈ factory.cache.toList, ∃ work, factory.builds[entry.2]? = some work) :
    ∃ faulty ≤ factory.cache.size, factory.releaseAll.2.account =
      { factory.account.free factory.cache.size faulty with cached := 0, entries := 0 } := by
  obtain ⟨drained, left, empty⟩ := Cache.Lru.drain_matches wellFormed
  have drained : factory.cache.drain.1 = factory.cache.toList.reverse := drained
  have empty : factory.cache.drain.2.toList = [] := congrArg Cache.Recency.entries empty
  -- What is drained is the whole list, and nothing is left.
  have nothing : factory.cache.drain.2.size = 0 := by
    rw [Cache.Lru.size, ← left.length_toList, empty, List.length_nil]
  have all : factory.cache.drain.1.length = factory.cache.size := by
    rw [drained, List.length_reverse, wellFormed.length_toList, Cache.Lru.size]
  obtain ⟨faulty, few, released⟩ := account_foldl_release factory.cache.drain.1
    { factory with table := ∅, cache := factory.cache.drain.2 } fun entry out => by
      rw [drained, List.mem_reverse] at out
      exact known entry out
  rw [all] at few released
  refine ⟨faulty, few, ?_⟩
  -- The gauge is set to zero after all has been released.
  have gauge : factory.releaseAll.2.account =
      { (factory.cache.drain.1.foldl (fun (factory : Factory ρ) (_, build) => factory.release build)
          { factory with table := ∅, cache := factory.cache.drain.2 }).account with
        entries := 0 } := rfl
  rw [gauge, released]
  simp only [account, Account.free, nothing]
  rfl

end Account

end Factory
end PackGate
