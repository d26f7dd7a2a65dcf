import PackGate.Proofs.Cache.Room
import PackGate.Proofs.Factory.Filing
import PackGate.Proofs.Factory.Posting

/-! The books balance: over every run each counter says how much there is of what it counts. -/

namespace PackGate.Factory

variable {ρ : Type}

/-- The counters agree with what there is, given all that callers have done so far. -/
structure Balanced (account : Account) (done : List Act) : Prop where
  /-- Hits are counted. -/
  hits : account.hits = .ofNat (done.count .hit)
  /-- Misses are counted. -/
  misses : account.misses = .ofNat (done.count .join)
  /-- Resources that are cached are counted. -/
  ok : account.ok = .ofNat (done.count .store)
  /-- Resources that come too late are counted. -/
  stale : account.stale = .ofNat (done.count .discard)
  /-- Builds whose budget has run out are counted. -/
  timeout : account.timeout = .ofNat account.expired
  /-- Builds that have failed are counted. -/
  failed : account.failed = .ofNat account.unmade
  /-- Builds whose builder is done are counted. -/
  observed : account.observed = .ofNat (done.count .finish)
  /-- Releases are counted. -/
  releases : account.releases = .ofNat account.released
  /-- Releases that fail are counted. -/
  releaseFailures : account.releaseFailures = .ofNat account.faulty
  /-- The gauge says how many resources are cached. -/
  entries : account.entries = .ofNat account.cached
  /-- Only hooks that run fail. -/
  fewer : account.faulty ≤ account.released
  /-- What has been cached or has come too late is cached, or has been released. -/
  stock : done.count .store + done.count .discard = account.cached + account.released
  /-- What builders have handed out is cached, released, lost or held. -/
  hands : account.cached + account.released + done.count .forsake + account.held = account.ready
  /-- A builder that is done has handed out a resource, has failed or has run out of time. -/
  settled : done.count .finish = account.ready + account.unmade + account.expired

/-- Every posting keeps the books in balance. -/
theorem Balanced.post {before after : Account} {done : List Act} {act : Act}
    (balanced : Balanced before done) (posting : Posting before act after) :
    Balanced after (done ++ [act]) := by
  obtain ⟨hits, misses, ok, stale, timeout, failed, observed, releases, releaseFailures, entries,
    fewer, stock, hands, settled⟩ := balanced
  -- Counters and what they count move together, so every equation is kept by its two sides.
  cases posting with
  | other => constructor <;> simp [*]
  | hit => constructor <;> simp [*]
  | join => constructor <;> simp [*]
  | deliver => constructor <;> simp [*] <;> omega
  | fail =>
    constructor <;> simp [*]
    omega
  | expire =>
    constructor <;> simp [*]
    omega
  | store gone room some => constructor <;> simp [Account.free, *] <;> omega
  | discard gone some => constructor <;> simp [Account.free, *] <;> omega
  | forsake gone =>
    constructor <;> simp [*]
    omega
  | reset some => constructor <;> simp [Account.free, *] <;> omega

section Run

variable [Releasable ρ] {factory : Factory ρ}

/-- A new factory has nothing counted, and there is nothing to count. -/
theorem create_balanced {capacity : Nat} {budget : Duration} {start : Factory ρ}
    (created : create capacity budget = .ok start) : Balanced start.account [] := by
  obtain ⟨_, made, rfl⟩ := create_made created
  obtain ⟨rfl, _⟩ := Cache.Lru.create_made made
  -- All counters start at zero, and there are no callers, no builds and no entries.
  constructor <;> simp [account, failing, Cache.Lru.size] <;> rfl

/-- What callers have done over a run. -/
def acts (factory : Factory ρ) : List (Event ρ) → List Act
  | [] => []
  | event :: rest => factory.act event :: (factory.step event).acts rest

/-- Every event is one thing done. -/
theorem length_acts (factory : Factory ρ) (events : List (Event ρ)) :
    (factory.acts events).length = events.length := by
  induction events generalizing factory with
  | nil => rfl
  | cons event rest ih => rw [acts, List.length_cons, List.length_cons, ih]

/-- The books are in balance after every run. -/
theorem Sound.run_balanced (sound : Sound factory) {done : List Act}
    (balanced : Balanced factory.account done) (events : List (Event ρ)) :
    Balanced (factory.run events).account (done ++ factory.acts events) := by
  -- The induction is on the events, with what has been done before each of them.
  induction events generalizing factory done with
  | nil =>
    rw [acts, List.append_nil]
    exact balanced
  | cons event rest ih =>
    have next := ih (sound.step event) (balanced.post (sound.step_posts event))
    rw [List.append_assoc] at next
    exact next

/-- The capacity of the cache is for good. -/
theorem Sound.run_capacity (sound : Sound factory) (events : List (Event ρ)) :
    (factory.run events).cache.capacity = factory.cache.capacity := by
  induction events generalizing factory with
  | nil => rfl
  | cons event rest ih =>
    have still := ((step_transition factory event).recached sound.kept.wellFormed).capacity
    exact (ih (sound.step event)).trans still

/-- The cache has no more room than there is memory for. -/
theorem Sound.run_room (sound : Sound factory) {capacity : Nat} {budget : Duration}
    (created : create capacity budget = .ok factory) (events : List (Event ρ)) :
    (factory.run events).cache.size < Cache.maxAllocation := by
  have bounded := (sound.run events).kept.wellFormed.bounded
  rw [sound.run_capacity events] at bounded
  obtain ⟨cache, made, rfl⟩ := create_made created
  have same : cache.capacity = capacity :=
    congrArg Cache.Lru.capacity (Cache.Lru.create_made made).1
  exact Nat.lt_of_le_of_lt (same ▸ bounded) (Cache.Lru.capacity_lt_of_create made)

/-! ## An uncontended lock -/

/--
Nothing comes between a builder's success and the look at whether its resource is wanted.

That is so when no caller has to wait for the lock that a refresh takes: the caller that has got
a resource goes on at once.
-/
def Uncontended (factory : Factory ρ) : List (Event ρ) → Prop
  | [] => ∀ caller flight build, factory.stage? caller ≠ some (.checking flight build)
  | event :: rest =>
    (∀ caller flight build, factory.stage? caller = some (.checking flight build) →
      ∃ resource, event = .advance caller resource) ∧ (factory.step event).Uncontended rest

/-- A caller that looks at what became of its resource takes the end that it makes. -/
theorem check_callers (factory : Factory ρ) (caller flight build : Nat) (id : Identifier) :
    ∃ attempt : Attempt, (factory.check caller flight build id).callers =
      factory.callers.modify caller ({ · with stage := attempt.stage }) := by
  unfold check
  dsimp only
  split
  · exact ⟨_, by rw [land_callers, (release_frame ..).callers]; rfl⟩
  split
  · exact ⟨_, by rw [land_callers, (store_frame ..).1.callers]⟩
  · exact ⟨_, by rw [land_callers, (release_frame ..).callers]; rfl⟩

/-- Only who holds something can lose it. -/
theorem Act.checking_of_forsake {before now : Option Stage} (lost : between before now = .forsake) :
    ∃ flight build, before = some (.checking flight build) := by
  unfold between at lost
  split at lost <;> first | exact ⟨_, _, rfl⟩ | cases lost

/-- A caller that goes on does not lose what it holds. -/
theorem act_advance (factory : Factory ρ) (caller : Nat) (resource : ρ) :
    factory.act (.advance caller resource) ≠ .forsake := by
  intro lost
  obtain ⟨flight, build, stands⟩ := Act.checking_of_forsake lost
  obtain ⟨⟨id, _⟩, here, rfl⟩ := Option.map_eq_some_iff.mp stands
  -- The caller takes the end that it gives its flight, and that does not send it away.
  have looks : factory.step (.advance caller resource) = factory.check caller flight build id := by
    simp only [Factory.step, advance, here]
  obtain ⟨attempt, moved⟩ := factory.check_callers caller flight build id
  have done : Act.between (factory.stage? caller)
      ((factory.step (.advance caller resource)).stage? caller) = .forsake := lost
  rw [stands, looks, stage?_of_moved here moved] at done
  cases attempt <;> cases done

/-- With an uncontended lock nothing is lost, and in the end nothing is held. -/
theorem Uncontended.empty_hands {events : List (Event ρ)}
    (uncontended : factory.Uncontended events) :
    (factory.acts events).count .forsake = 0 ∧ (factory.run events).account.held = 0 := by
  induction events generalizing factory with
  | nil =>
    -- A caller that still holds something would have yet to look at what became of it.
    refine ⟨rfl, Array.countP_eq_zero.mpr fun caller member holds => ?_⟩
    obtain ⟨index, found⟩ := Array.getElem?_of_mem member
    obtain ⟨id, stage⟩ := caller
    cases stage with
    | checking flight build =>
      exact uncontended index flight build (congrArg (Option.map Caller.stage) found)
    | _ => cases holds
  | cons event rest ih =>
    obtain ⟨prompt, later⟩ := uncontended
    obtain ⟨kept, empty⟩ := ih later
    refine ⟨?_, empty⟩
    -- Whoever holds something goes on, so this event takes nothing away either.
    have stays : factory.act event ≠ .forsake := by
      intro lost
      cases acts : event.actor? with
      | none =>
        rw [act, acts] at lost
        cases lost
      | some caller =>
        have done := lost
        rw [act, acts] at done
        obtain ⟨flight, build, stands⟩ := Act.checking_of_forsake done
        obtain ⟨resource, rfl⟩ := prompt caller flight build stands
        exact act_advance factory caller resource lost
    rw [acts, List.count_cons_of_ne stays]
    exact kept

/-! ## Every run -/

/-- The builder is done with a build, or has run out of time. -/
def BuildStatus.isOver : BuildStatus → Bool
  | .ready | .missing | .failed | .expired => true
  | .running | .cancelled => false

/-- A builder that is done has handed out a resource, has failed or has run out of time. -/
theorem countP_isOver (factory : Factory ρ) :
    factory.builds.countP (·.status.isOver) =
      factory.account.ready + factory.account.unmade + factory.account.expired := by
  unfold account
  dsimp only
  simp only [← Array.countP_toList]
  induction factory.builds.toList with
  | nil => rfl
  | cons work rest ih =>
    simp only [List.countP_cons, ih]
    cases work.status <;> simp [BuildStatus.isOver] <;> omega

/--
The books balance after every run.

What was cached or came too late is cached still or has been released.
The gauge says how many resources are cached.
Every duration of a builder that is done is observed; unless a caller had to wait for the lock with
a new resource in hand, the builder is counted under one outcome as well.
Every run of a release hook is counted, and so is every failure.
Misses are the flights that callers have joined, and hits the callers served from the cache.
-/
theorem books_balance {capacity : Nat} {budget : Duration} {start : Factory ρ}
    (created : create capacity budget = .ok start) (past : List (Event ρ))
    (few : past.length < UInt64.size) :
    let factory := start.run past
    let built (outcome : BuildOutcome) := (factory.metrics.builds.value outcome).toNat
    built .ok + built .stale =
        factory.cache.toList.length + factory.metrics.releases.toNat ∧
      factory.metrics.cacheEntries.toInt = factory.cache.toList.length ∧
      (start.Uncontended past → built .ok + built .timeout + built .failed + built .stale =
        factory.builds.countP (·.status.isOver)) ∧
      factory.metrics.buildDuration.count.toNat = factory.builds.countP (·.status.isOver) ∧
      factory.metrics.releases.toNat = factory.released.length ∧
      factory.metrics.releaseFailures.toNat = failing factory.hookFails [] factory.released ∧
      factory.metrics.cacheMisses.toNat = (start.acts past).count .join ∧
      factory.metrics.cacheHits.toNat = (start.acts past).count .hit := by
  intro factory built
  have sound := create_sound created
  have later : Sound factory := sound.run past
  have balanced : Balanced factory.account (start.acts past) :=
    sound.run_balanced (create_balanced created) past
  obtain ⟨hits, misses, ok, stale, timeout, failed, observed, releases, releaseFailures, entries,
    fewer, stock, hands, settled⟩ := balanced
  -- Whatever is counted has come with an event, and there are too few events for a counter to wrap.
  have once (act : Act) : (start.acts past).count act ≤ past.length := by
    rw [← length_acts start past]
    exact List.count_le_length
  have read {counter : UInt64} {number : Nat} (same : counter = .ofNat number)
      (small : number ≤ past.length) : counter.toNat = number := by
    rw [same]
    exact UInt64.toNat_ofNat_of_lt (Nat.lt_of_le_of_lt small few)
  have ended := once .finish
  have room : factory.account.cached < Cache.maxAllocation := sound.run_room created past
  have greatest : Cache.maxAllocation = 9223372036854775807 := by decide
  have listed : factory.cache.toList.length = factory.account.cached :=
    later.kept.wellFormed.length_toList
  have readOk : built .ok = _ := read ok (once .store)
  have readStale : built .stale = _ := read stale (once .discard)
  have readTimeout : built .timeout = _ := read timeout (by omega)
  have readFailed : built .failed = _ := read failed (by omega)
  have readReleases : factory.metrics.releases.toNat = factory.account.released :=
    read releases (by omega)
  have readFaulty : factory.metrics.releaseFailures.toNat = factory.account.faulty :=
    read releaseFailures (by omega)
  have gauge : factory.metrics.cacheEntries.toInt = factory.account.cached := by
    rw [show factory.metrics.cacheEntries = _ from entries]
    exact Int64.toInt_ofNat_of_lt (by omega)
  rw [countP_isOver, listed]
  refine ⟨by omega, gauge, fun uncontended => ?_, (read observed ended).trans settled, readReleases,
    readFaulty, read misses (once .join), read hits (once .hit)⟩
  -- Nothing is lost and nothing is held, so what builders have handed out is cached or released.
  obtain ⟨lost, held⟩ := uncontended.empty_hands
  rw [lost, show factory.account.held = 0 from held] at hands
  omega

end Run

open Evaluation in
/-- A resource is built, cached and, with the shutdown, released; it counts as one build. -/
theorem books_balance_shutdown :
    ∃ start : Factory Repository, create 1 { seconds := 30, nanos := 0 } = .ok start ∧
      ∃ past : List (Event Repository), past.length < UInt64.size ∧ start.Uncontended past ∧
        let built (outcome : BuildOutcome) :=
          ((start.run past).metrics.builds.value outcome).toNat
        built .ok + built .stale = 1 ∧
          built .ok + built .timeout + built .failed + built .stale = 1 := by
  obtain ⟨start, created⟩ :
      ∃ start : Factory Repository, create 1 { seconds := 30, nanos := 0 } = .ok start := ⟨_, rfl⟩
  let resource : Repository := ⟨⟨"a.git"⟩, "/srv/a.git"⟩
  let past : List (Event Repository) :=
    opening resource.id resource ++ [.advance 0 resource, .shutdown]
  have few : past.length < UInt64.size := by decide
  obtain ⟨_, _, began⟩ := run_opening created resource.id resource
  have ran : (start.run past).cache.toList = [] ∧ (start.run past).released = [0] ∧
      (start.run past).builds.countP (·.status.isOver) = 1 := by
    simp only [past]
    rw [run_append, began]
    cases created
    simp [BuildStatus.isOver]
  have prompt : start.Uncontended past := by
    cases created
    simp [past, Uncontended, opening, List.getElem?_singleton]
  obtain ⟨empty, gone, one⟩ := ran
  obtain ⟨stored, _, outcomes, _, releases, _⟩ := books_balance created past few
  rw [releases, empty, gone] at stored
  exact ⟨start, created, past, few, prompt, stored, (outcomes prompt).trans one⟩

end PackGate.Factory
