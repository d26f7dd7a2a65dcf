import PackGate.Proofs.Factory.Lookup
import PackGate.Proofs.Factory.Renewal
import PackGate.Repository

/-! Which root each repository of a factory was opened from, wherever the shelf has been moved. -/

namespace PackGate.Factory

/-! ## Resources and identifiers -/

section Supply

variable {ρ : Type}

/-- Whoever is served, and every flight that has ended well, has a resource of its identifier. -/
structure Supplied (factory : Factory ρ) : Prop where
  /-- A flight ends with a resource that was built for its identifier. -/
  ended : ∀ {flight build : Nat} {flown : Flight}, factory.flights[flight]? = some flown →
    flown.cell = some (.ready build) → Provides factory 0 flown.id build
  /-- A caller is served with a resource that was built for its identifier. -/
  served : ∀ {member build : Nat} {caller : Caller}, factory.callers[member]? = some caller →
    caller.stage = .served build → Provides factory 0 caller.id build

variable [Releasable ρ] {factory after : Factory ρ} {event : Event ρ}

/-- No transition serves anybody with another resource. -/
theorem Supplied.transition (supplied : Supplied factory) (sound : Sound factory)
    (transition : Transition factory event after) : Supplied after := by
  have grows := sound.grows transition
  -- What is cached after the step was built for the identifier that it is cached under.
  have cached : ∀ {id : Identifier} {build : Nat}, (id, build) ∈ after.cache.toList →
      Provides after 0 id build := by
    intro id build entry
    obtain ⟨_, work, _, found, ids, ready, _⟩ := (sound.transition transition).kept.cached entry
    exact ⟨Nat.zero_le build, work, found, ids, ready⟩
  have ended : ∀ {flight build : Nat} {flown : Flight}, after.flights[flight]? = some flown →
      flown.cell = some (.ready build) → Provides after 0 flown.id build := by
    intro flight build flown found filled
    rcases transition.settles sound ⟨flown, found, filled⟩ with ⟨earlier, there, same⟩ | ⟨again,
      there, reason⟩
    · obtain ⟨later, here, continues⟩ := grows.flights flight earlier there
      rw [found] at here
      cases here
      rw [continues.id]
      exact (supplied.ended there same).grows grows
    · rw [found] at there
      cases there
      cases reason with
      | cached entry => exact cached entry
  refine ⟨ended, fun {member build caller} there served => ?_⟩
  rcases transition.caller_cases sound there with same | ⟨_, entering⟩ | ⟨known, here, ids, passage⟩
  · exact (supplied.served same served).grows grows
  · rw [entering] at served
    cases served
  · rw [← ids]
    rw [served] at passage
    -- A hit of the cache and the end of a flight are the passages that serve somebody.
    rcases passage.to_served with hit | ⟨flight, flown, on, found, filled, _⟩
    · exact cached hit
    · obtain ⟨earlier, flies, own⟩ := sound.crewed.own here on
      obtain ⟨later, flying, continues⟩ := grows.flights flight earlier flies
      rw [found] at flying
      cases flying
      rw [← own, ← continues.id]
      exact ended found filled

end Supply

/-! ## Resources and roots -/

section Stock

variable {factory between after : Factory Repository} {roots : List String} {shelf : Shelf}
  {event : Event Repository}

/-- A build that begins with an event is of a repository on the shelf. -/
def Reads (shelf : Shelf) (factory : Factory Repository) (event : Event Repository) : Prop :=
  ∀ caller resource known, event = .advance caller resource →
    factory.callers[caller]? = some known → resource = shelf.repository known.id

/-- The same event; a build that begins with it is of a repository on the shelf. -/
def Event.reading (shelf : Shelf) (factory : Factory Repository) :
    Event Repository → Event Repository
  | .advance caller resource =>
    .advance caller ((factory.callers[caller]?.map (shelf.repository ·.id)).getD resource)
  | event => event

/-- The roots read by builds that begin from one state to another while the shelf stands still. -/
def rootsRead (shelf : Shelf) (factory after : Factory Repository) : List String :=
  List.replicate (after.builds.size - factory.builds.size) shelf.root

/-- What becomes of a factory with events one after the other, each with the shelf as it stands. -/
def runOn (factory : Factory Repository) : List (Shelf × Event Repository) → Factory Repository
  | [] => factory
  | (shelf, event) :: rest => (factory.step (event.reading shelf factory)).runOn rest

/-- The roots that the builds of such a run have read, one after the other. -/
def rootsOf (factory : Factory Repository) : List (Shelf × Event Repository) → List String
  | [] => []
  | (shelf, event) :: rest =>
    let after := factory.step (event.reading shelf factory)
    rootsRead shelf factory after ++ after.rootsOf rest

/-- Whoever is served has the repository of its identifier, under the root read by its build. -/
def Placed (factory : Factory Repository) (roots : List String) : Prop :=
  ∀ (caller : Nat) (id : Identifier) (build : Nat),
    factory.callers[caller]? = some ⟨id, .served build⟩ →
      ∃ root, roots[build]? = some root ∧
        (factory.builds[build]?).map (·.resource) = some ⟨id, FilePath.join root id.text⟩

/-- Each build is of the repository that lies under the root which it has read. -/
structure Stock (factory : Factory Repository) (roots : List String) : Prop where
  /-- All parts of the factory agree. -/
  sound : factory.Sound
  /-- Callers are served with resources of their identifiers. -/
  supplied : factory.Supplied
  /-- Each build has read one root. -/
  size : roots.length = factory.builds.size
  /-- It has opened the repository of its identifier there. -/
  read : ∀ {build : Nat} {root : String} {work : Build Repository}, roots[build]? = some root →
    factory.builds[build]? = some work → work.resource = Shelf.repository ⟨root⟩ work.id

/-- A new factory has no builds. -/
theorem create_stock {capacity : Nat} {budget : Duration}
    (created : create capacity budget = .ok factory) : Stock factory [] := by
  obtain ⟨_, _, callers, flights, builds⟩ := create_blank created
  refine ⟨create_sound created, ⟨?_, ?_⟩, ?_, ?_⟩
  all_goals simp [callers, flights, builds]

/-- A transition keeps the stock, and a build that begins with it has read the shelf. -/
theorem Stock.transition (stock : Stock factory roots) (transition : Transition factory event after)
    (reads : Reads shelf factory event) : Stock after (roots ++ rootsRead shelf factory after) := by
  have grows := stock.sound.grows transition
  have larger := grows.builds.size_le
  refine ⟨stock.sound.transition transition, stock.supplied.transition stock.sound transition,
    ?_, ?_⟩
  · rw [List.length_append, rootsRead, List.length_replicate, stock.size]
    omega
  intro build root work listed found
  cases before : factory.builds[build]? with
  | some earlier =>
    -- A build that was there stays what it is, and so does the root that it has read.
    obtain ⟨later, there, continues⟩ := grows.builds build earlier before
    rw [found] at there
    cases there
    have inside := (Array.getElem?_eq_some_iff.mp before).1
    rw [List.getElem?_append_left (by rw [stock.size]; exact inside)] at listed
    rw [continues.resource, continues.id]
    exact stock.read listed before
  | none =>
    obtain ⟨caller, resource, known, same, here, ids, resources⟩ := transition.begun before found
    have outside := Array.getElem?_eq_none_iff.mp before
    rw [List.getElem?_append_right (by rw [stock.size]; exact outside), rootsRead] at listed
    obtain rfl : root = shelf.root := List.eq_of_mem_replicate (List.mem_of_getElem? listed)
    rw [resources, ids]
    exact reads caller resource known same here

/-- What begins with such an event is on the shelf. -/
theorem reads_reading (shelf : Shelf) (factory : Factory Repository) (event : Event Repository) :
    Reads shelf factory (event.reading shelf factory) := by
  intro caller resource known same here
  cases event with
  | advance other given =>
    cases same
    rw [here]
    rfl
  | _ => cases same

/-- Every run keeps the stock, wherever the shelf is moved. -/
theorem Stock.runOn (stock : Stock factory roots) (moments : List (Shelf × Event Repository)) :
    Stock (factory.runOn moments) (roots ++ factory.rootsOf moments) := by
  induction moments generalizing factory roots with
  | nil => simpa [Factory.runOn, rootsOf] using stock
  | cons moment rest ih =>
    obtain ⟨shelf, event⟩ := moment
    have next := stock.transition (step_transition factory (event.reading shelf factory))
      (reads_reading shelf factory event)
    have later := ih next
    rwa [List.append_assoc] at later

/-- In stock everything is placed. -/
theorem Stock.placed (stock : Stock factory roots) : Placed factory roots := by
  intro caller id build served
  obtain ⟨_, work, found, same, _⟩ := stock.supplied.served served rfl
  have inside := (Array.getElem?_eq_some_iff.mp found).1
  have listed := List.getElem?_eq_getElem (stock.size.symm ▸ inside)
  refine ⟨_, listed, ?_⟩
  rw [found, Option.map_some, stock.read listed found, same]
  rfl

/-! ## Lookups -/

/-- What can become of a factory while the shelf stands still. -/
inductive Works (shelf : Shelf) (factory : Factory Repository) : Factory Repository → Prop
  /-- Nothing. -/
  | refl : Works shelf factory factory
  /-- Something more. -/
  | step {between after : Factory Repository} {event : Event Repository}
      (works : Works shelf factory between) (transition : Transition between event after)
      (reads : Reads shelf between event) : Works shelf factory after

/-- Counters and log may change at any time. -/
theorem Works.noted (works : Works shelf factory between) (metrics : Metrics)
    (journal : List Notice) : Works shelf factory { between with metrics, journal } :=
  have rests : Transition between .activate { between with metrics, journal } :=
    .idle (.noted between metrics journal)
  works.step rests (by simp [Reads])

/-- What becomes of a factory later is also what becomes of it. -/
theorem Works.trans (early : Works shelf factory between) (late : Works shelf between after) :
    Works shelf factory after := by
  induction late with
  | refl => exact early
  | step _ transition reads ih => exact ih.step transition reads

/-- Roots that are read from one state to another and from there to a third. -/
theorem rootsRead_append (early : factory.builds.size ≤ between.builds.size)
    (late : between.builds.size ≤ after.builds.size) :
    rootsRead shelf factory between ++ rootsRead shelf between after =
      rootsRead shelf factory after := by
  rw [rootsRead, rootsRead, rootsRead, List.replicate_append_replicate]
  congr 1
  omega

/-- Work keeps the stock, and all builds that begin with it have read the shelf. -/
theorem Stock.works (stock : Stock factory roots) (works : Works shelf factory after) :
    Stock after (roots ++ rootsRead shelf factory after) := by
  induction works with
  | refl => simpa [rootsRead] using stock
  | @step between after event _ transition reads ih =>
    -- The builds only get more, so the roots of the two stretches are those of both together.
    have larger : factory.builds.size ≤ between.builds.size := by
      have size := ih.size
      rw [List.length_append, stock.size] at size
      omega
    have more := (ih.sound.grows transition).builds.size_le
    have next := ih.transition transition reads
    rwa [List.append_assoc, rootsRead_append larger more] at next

/-- The next stretch of a caller opens the repository of its identifier at most. -/
theorem works_stretch {caller : Nat} {id : Identifier} {files : FileSystem}
    (asked : factory.asked[caller]? = some id)
    (goes : factory.proceed? caller (shelf.work files id) = some after) :
    Works shelf factory after := by
  rcases stretch_cases goes with ⟨_, _, _, rfl⟩ | ⟨_, _, _, rfl⟩
  · -- What the builder logs comes before the end of the build.
    have noted : Works shelf factory
        { factory with journal := factory.journal ++ (shelf.work files id).notices } :=
      Works.refl.noted factory.metrics _
    exact noted.step (step_transition _ _) (by simp [Reads])
  · refine .step .refl (step_transition factory (.advance caller (shelf.repository id))) ?_
    rintro _ _ known ⟨⟩ here
    have same := asked_of_caller here
    rw [asked] at same
    cases same
    rfl

/-- Running a caller on opens the repository of its identifier at most. -/
theorem works_proceed {caller : Nat} {id : Identifier} (files : FileSystem)
    (asked : factory.asked[caller]? = some id) (limit : Nat) :
    Works shelf factory (proceed caller (shelf.work files id) limit factory) := by
  -- The induction carries that the caller still asks for the same.
  induction limit generalizing factory with
  | zero => exact .refl
  | succ limit ih =>
    rw [proceed]
    split
    · exact .refl
    · rename_i next goes
      exact (works_stretch asked goes).trans (ih (by rw [stretch_asked goes]; exact asked))

/-- A lookup opens the repository of its identifier at most. -/
theorem works_get (shelf : Shelf) (factory : Factory Repository) (files : FileSystem)
    (id : Identifier) : Works shelf factory (factory.get (shelf.work files) id).2 := by
  rw [get_after]
  have comes : Works shelf factory (factory.step (.call id)) :=
    .step .refl (step_transition factory (.call id)) (by simp [Reads])
  -- The caller is the one that has just come.
  exact comes.trans (works_proceed files (asked_of_caller (new_caller factory id)) longestLookup)

end Stock

end PackGate.Factory
