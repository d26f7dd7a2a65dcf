import Mathlib.Data.List.Induction
import PackGate.Proofs.Factory.Filing

/-! Who has a resource from the end of its builder's work to its release, and how it gets lost. -/

namespace PackGate.Factory

variable {ρ : Type}

/-- The builder handed out a resource at the end of a build. -/
def Handed (factory : Factory ρ) (build : Nat) : Prop :=
  ∃ work, factory.builds[build]? = some work ∧ work.status = .ready

/-- A caller holds the resource of a build and has yet to see whether it is wanted. -/
def Held (factory : Factory ρ) (build : Nat) : Prop :=
  ∃ caller flight, factory.stage? caller = some (.checking flight build)

/-- The resource of a build is cached, or its release hook has run. -/
def Secured (factory : Factory ρ) (build : Nat) : Prop :=
  (∃ id, (id, build) ∈ factory.cache.toList) ∨ build ∈ factory.released

/-- The caller that holds the resource of a build goes away. -/
def Forsakes (build : Nat) (factory : Factory ρ) (event : Event ρ) : Prop :=
  ∃ caller flight, event = .cancel caller ∧ factory.stage? caller = some (.checking flight build)

variable {factory after : Factory ρ} {event : Event ρ} {build : Nat}

/-- Whoever takes the end of a flight holds nothing that it has yet to see about. -/
theorem Attempt.stage_ne_checking {build : Nat} (attempt : Attempt) (flight : Nat) :
    attempt.stage ≠ .checking flight build := by
  cases attempt <;> simp [Attempt.stage]

/-- After one caller has moved, a caller stands where that one went to, or where it stood. -/
theorem stage?_moved {actor member : Nat} {stage now : Stage}
    (moved : after.callers = factory.callers.modify actor ({ · with stage }))
    (stands : after.stage? member = some now) :
    now = stage ∨ factory.stage? member = some now := by
  obtain ⟨caller, there, rfl⟩ := Option.map_eq_some_iff.mp stands
  rw [moved] at there
  rcases getElem?_modify_cases there with ⟨_, _, _, rfl⟩ | ⟨_, there⟩
  · exact .inl rfl
  · exact .inr (stage?_of_caller there rfl)

/-- As long as the callers stand where they stood, they hold what they held. -/
theorem Held.of_callers (held : Held after build) (same : after.callers = factory.callers) :
    Held factory build := by
  obtain ⟨caller, flight, stands⟩ := held
  exact ⟨caller, flight, by rw [stage?, ← same]; exact stands⟩

/-- A move to a stage that holds nothing gives nobody a resource. -/
theorem Held.of_moved {actor : Nat} {stage : Stage} (held : Held after build)
    (moved : after.callers = factory.callers.modify actor ({ · with stage }))
    (empty : ∀ flight, stage ≠ .checking flight build) : Held factory build := by
  obtain ⟨caller, flight, stands⟩ := held
  rcases stage?_moved moved stands with same | before
  · exact absurd same.symm (empty flight)
  · exact ⟨caller, flight, before⟩

section Step

variable [Releasable ρ]

/-- A caller that looks at what became of its resource caches or releases it. -/
theorem Sound.check_secures (sound : Sound factory) {member flight : Nat} {caller : Caller}
    (here : factory.callers[member]? = some caller)
    (checks : caller.stage = .checking flight build) :
    Secured (factory.check member flight build caller.id) build := by
  unfold check
  dsimp only
  split
  · exact .inr (sound.discard_releases here checks _ _)
  · split
    · -- The new entry is in the cache, whatever it has displaced.
      obtain ⟨freed, _⟩ := store_frame factory build caller.id
      refine .inl ⟨caller.id, ?_⟩
      rw [(land_frame ..).cache, freed.cache,
        (Cache.Lru.insert_contents sound.kept.wellFormed caller.id build).2]
      exact .inl rfl
    · exact .inr (sound.discard_releases here checks _ _)

/-- What is secured stays so. -/
theorem Sound.step_secured (sound : Sound factory) (secured : Secured factory build)
    (event : Event ρ) : Secured (factory.step event) build := by
  -- What leaves the cache is released, and no release is taken back.
  rcases secured with ⟨id, entry⟩ | gone
  · rcases (step_transition factory event).retains sound.kept entry with stays | gone
    · exact .inl ⟨id, stays⟩
    · exact .inr gone
  · exact .inr ((sound.step_grows event).released.subset gone)

/-- A resource that is held is held or secured after a step, unless its holder goes away. -/
theorem Sound.step_custody (sound : Sound factory) (held : Held factory build)
    (event : Event ρ) (stays : ¬Forsakes build factory event) :
    Held (factory.step event) build ∨ Secured (factory.step event) build := by
  obtain ⟨member, flight, stands⟩ := held
  obtain ⟨caller, here, checks⟩ := Option.map_eq_some_iff.mp stands
  -- All that the holder can do is look, since it does not go away.
  have careful : event ≠ .cancel member := fun leaves => stays ⟨member, flight, leaves, stands⟩
  rcases sound.step_held here checks event careful with waits | ⟨resource, rfl⟩
  · exact .inl ⟨member, flight, stage?_of_caller waits checks⟩
  · have looks : factory.step (.advance member resource) =
        factory.check member flight build caller.id := by
      simp only [Factory.step, advance, here, checks]
    rw [looks]
    exact .inr (sound.check_secures here checks)

/-- A resource that has been handed out does not come into somebody's hands again. -/
theorem Transition.held (transition : Transition factory event after) (sound : Sound factory)
    {work : Build ρ} (found : factory.builds[build]? = some work) (ready : work.status = .ready)
    (later : Held after build) : Held factory build := by
  -- But for the end of a build, callers move to stages that hold nothing.
  cases transition with
  | idle touched => exact later.of_callers touched.callers
  | call =>
    obtain ⟨caller, flight, stands⟩ := later
    obtain ⟨known, there, checks⟩ := Option.map_eq_some_iff.mp stands
    rcases getElem?_push_cases there with ⟨_, rfl⟩ | here
    · cases checks
    · exact ⟨caller, flight, stage?_of_caller here checks⟩
  | walk touched _ _ without =>
    refine later.of_moved (by rw [move_callers, touched.callers]) ?_
    rintro flight rfl
    cases without
  | quit => exact later.of_moved (move_callers ..) (by simp)
  | @join between caller _ known touched =>
    obtain ⟨flight, _, callers, _⟩ := join_flight between caller known.id
    exact later.of_moved (by rw [callers, touched.callers]) (by simp)
  | @conclude _ _ _ _ _ attempt =>
    exact later.of_moved (depart_callers ..) attempt.stage_ne_checking
  | leave => exact later.of_moved (depart_callers ..) (by simp)
  | abandon => exact later.of_moved (depart_callers ..) (by simp)
  | reuse touched =>
    exact later.of_moved (by rw [land_callers, touched.callers]) (Attempt.stage_ne_checking _)
  | start touched => exact later.of_moved (by rw [move_callers, touched.callers]) (by simp)
  | deliver here builds touched =>
    refine later.of_moved (by rw [move_callers, touched.callers]; rfl) ?_
    -- The build that is handed out now was running, so it is another one.
    rintro _ ⟨⟩
    obtain ⟨running, there, _, _, runs⟩ := sound.worked.holds here (by rw [builds]; rfl)
    rw [found] at there
    cases there
    rw [ready] at runs
    cases runs
  | fail _ _ touched =>
    exact later.of_moved (by rw [land_callers, touched.callers]; rfl) (Attempt.stage_ne_checking _)
  | discard touched =>
    exact later.of_moved (by rw [land_callers, (release_frame ..).callers, touched.callers])
      (Attempt.stage_ne_checking _)
  | store =>
    exact later.of_moved (by rw [land_callers, (store_frame ..).1.callers])
      (Attempt.stage_ne_checking _)
  | reset _ _ _ _ _ _ callers => exact later.of_callers callers

/-- What has been released after a step was in somebody's hands before, or was secured. -/
theorem Transition.freed (transition : Transition factory event after) (sound : Sound factory)
    (gone : build ∈ after.released) : Held factory build ∨ Secured factory build := by
  -- A release is an old one, that of a resource in hand, or that of an entry.
  rcases transition.released_cases sound.kept gone with
    before | ⟨actor, known, flight, _, here, checks⟩ | ⟨id, entry, _⟩
  · exact .inr (.inr before)
  · exact .inl ⟨actor, flight, stage?_of_caller here checks⟩
  · exact .inr (.inl ⟨id, entry⟩)

/-- A resource that has been handed out comes into no hands, no cache and no release anew. -/
theorem Transition.custody (transition : Transition factory event after) (sound : Sound factory)
    {work : Build ρ} (found : factory.builds[build]? = some work) (ready : work.status = .ready)
    (later : Held after build ∨ Secured after build) :
    Held factory build ∨ Secured factory build := by
  have holder {actor flight fresh : Nat} {known : Caller}
      (here : factory.callers[actor]? = some known)
      (checks : known.stage = .checking flight fresh) : Held factory fresh :=
    ⟨actor, flight, stage?_of_caller here checks⟩
  -- What is cached was cached before, or some caller has had it in hand.
  rcases later with held | ⟨id, entry⟩ | gone
  · exact .inl (transition.held sound found ready held)
  · rcases (transition.recached sound.kept.wellFormed).brought _ entry with
      before | ⟨actor, caller, flight, here, checks, _⟩
    · exact .inr (.inl ⟨id, before⟩)
    · exact .inl (holder here checks)
  · exact transition.freed sound gone

/-- A resource that is new after a step is held by the caller that it was handed to. -/
theorem Transition.handed (transition : Transition factory event after) {work : Build ρ}
    (found : after.builds[build]? = some work) (ready : work.status = .ready) :
    Handed factory build ∨ Held after build := by
  -- Only the end of a builder's work can make a resource of a build.
  have old (same : after.builds = factory.builds) : Handed factory build ∨ Held after build :=
    .inl ⟨work, by rw [← same]; exact found, ready⟩
  have ended {index : Nat} {status : BuildStatus} (nothing : status ≠ .ready)
      (changed : after.builds = factory.builds.modify index ({ · with status })) :
      Handed factory build ∨ Held after build := by
    rw [changed] at found
    rcases getElem?_modify_cases found with ⟨_, _, _, rfl⟩ | ⟨_, there⟩
    · exact absurd ready nothing
    · exact .inl ⟨work, there, ready⟩
  cases transition with
  | idle touched => exact old touched.builds
  | call => exact old rfl
  | walk touched => exact old touched.builds
  | quit => exact old rfl
  | join touched => exact old ((join_frame ..).builds.trans touched.builds)
  | conclude => exact old (depart_frame ..).builds
  | leave => exact old (depart_frame ..).builds
  | abandon => exact ended (by simp) (depart_frame ..).builds
  | reuse touched => exact old ((land_frame ..).builds.trans touched.builds)
  | start =>
    rcases getElem?_push_cases found with ⟨_, rfl⟩ | there
    · cases ready
    · exact .inl ⟨work, there, ready⟩
  | @deliver between caller flight fresh known here builds touched =>
    rw [(move_frame ..).builds, touched.builds] at found
    rcases getElem?_modify_cases found with ⟨rfl, _⟩ | ⟨_, there⟩
    · -- The driver of the build has its resource in hand now.
      have there : between.callers[caller]? = some known := by
        rw [touched.callers]
        exact here
      refine .inr ⟨caller, flight, ?_⟩
      rw [stage?, move_callers, getElem?_modify_self there]
      rfl
    · exact .inl ⟨work, there, ready⟩
  | fail _ _ touched _ nothing => exact ended nothing ((land_frame ..).builds.trans touched.builds)
  | discard touched =>
    exact old (((land_frame ..).builds.trans (release_frame ..).builds).trans touched.builds)
  | store => exact old ((land_frame ..).builds.trans (store_frame ..).1.builds)
  | reset _ _ _ _ _ builds => exact old builds

/-! ## Runs -/

/-- A resource that was handed out and that nobody has any more. -/
structure Lost (factory : Factory ρ) (build : Nat) : Prop where
  /-- It was handed out. -/
  handed : Handed factory build
  /-- Nobody holds it. -/
  unheld : ¬Held factory build
  /-- It is neither cached nor released. -/
  unsecured : ¬Secured factory build

/-- What is lost stays lost. -/
theorem Lost.step (lost : Lost factory build) (sound : Sound factory) (event : Event ρ) :
    Lost (factory.step event) build := by
  obtain ⟨⟨work, found, ready⟩, unheld, unsecured⟩ := lost
  -- A resource that comes back would have been held or secured before.
  have nowhere : ¬(Held (factory.step event) build ∨ Secured (factory.step event) build) :=
    fun later => ((step_transition factory event).custody sound found ready later).elim unheld
      unsecured
  obtain ⟨later, there, continues⟩ := (sound.step_grows event).builds build work found
  exact ⟨⟨later, there, (continues.status (by rw [ready]; simp)).trans ready⟩,
    fun held => nowhere (.inl held), fun secured => nowhere (.inr secured)⟩

/-- A resource is lost when its holder goes away. -/
theorem Sound.forsaken (sound : Sound factory) (forsakes : Forsakes build factory event) :
    Lost (factory.step event) build := by
  obtain ⟨member, flight, rfl, stands⟩ := forsakes
  obtain ⟨caller, here, checks⟩ := Option.map_eq_some_iff.mp stands
  -- The resource was handed out, as its holder is past the builder's work.
  obtain ⟨work, found, _, _, ready⟩ := sound.worked.holds here (by rw [checks]; rfl)
  have left : factory.step (.cancel member) = factory.depart member flight .cancelled := by
    simp only [Factory.step, cancel, stands, depart]
  have seats := depart_frame factory member flight .cancelled
  rw [left]
  refine ⟨⟨work, by rw [seats.builds]; exact found, ready⟩, ?_, ?_⟩
  · -- Nobody but the caller held the resource.
    rintro ⟨other, held, again⟩
    obtain ⟨asker, there, holds⟩ := Option.map_eq_some_iff.mp again
    exact sound.worked.unheld sound.crewed here checks (depart_callers ..) rfl other asker held
      there holds
  · -- What is held is neither cached nor released, and going away changes neither.
    rintro (⟨id, entry⟩ | gone)
    · rw [seats.cache] at entry
      exact sound.kept.not_cached sound.crewed sound.worked here checks id entry
    · rw [seats.released] at gone
      exact sound.kept.held here checks gone

variable {start : Factory ρ} {past : List (Event ρ)}

/-- What its holder has forsaken during a run is lost at the end. -/
theorem Sound.run_forsaken (sound : Sound start)
    (during : start.During past (Forsakes build)) : Lost (start.run past) build := by
  -- The induction is on the run from its end, so that the state before the last event is sound.
  induction past using List.reverseRecOn with
  | nil =>
    obtain ⟨before, event, behind, cut, _⟩ := during
    simp at cut
  | append_singleton before last ih =>
    rw [run_concat]
    rcases during.concat_cases with earlier | now
    · exact (ih earlier).step (sound.run before) last
    · exact (sound.run before).forsaken now

/-- What was handed out and never forsaken is held or secured at the end of a run. -/
theorem Sound.run_custody (sound : Sound start) (blank : start.builds = #[])
    (handed : Handed (start.run past) build) (kept : ¬start.During past (Forsakes build)) :
    Held (start.run past) build ∨ Secured (start.run past) build := by
  induction past using List.reverseRecOn with
  | nil =>
    -- A new factory has handed out nothing.
    obtain ⟨work, found, _⟩ := handed
    rw [show start.run [] = start from rfl, blank] at found
    cases found
  | append_singleton before last ih =>
    have sooner := sound.run before
    rw [run_concat] at handed ⊢
    obtain ⟨work, found, ready⟩ := handed
    rcases (step_transition (start.run before) last).handed found ready with earlier | held
    · -- It was there before the last event, which did not take it away.
      rcases ih earlier fun during => kept (during.append [last]) with held | secured
      · exact sooner.step_custody held last fun now => kept (.last now)
      · exact .inr (sooner.step_secured secured last)
    · exact .inl held

/--
A resource that nobody holds any more is cached or released, unless its holder went away with it.

A caller that goes away between the end of its builder's work and the look at what became of it
takes the resource along: it is never cached, and its release hook never runs.
-/
theorem handed_secured_iff {capacity : Nat} {budget : Duration}
    (created : create capacity budget = .ok start) (past : List (Event ρ)) {build : Nat}
    (handed : Handed (start.run past) build) (unheld : ¬Held (start.run past) build) :
    Secured (start.run past) build ↔ ¬start.During past (Forsakes build) := by
  have sound := create_sound created
  obtain ⟨_, _, _, _, blank⟩ := create_blank created
  constructor
  · -- What was forsaken is lost for good.
    intro secured during
    exact (sound.run_forsaken during).unsecured secured
  · intro kept
    exact (sound.run_custody blank handed kept).resolve_left unheld

end Step

open Evaluation in
/-- A caller that goes away as soon as its builder has succeeded takes the resource along. -/
theorem handed_secured_iff_forsaken :
    ∃ start : Factory Repository, create 1 { seconds := 30, nanos := 0 } = .ok start ∧
      ∃ resource : Repository,
        Handed (start.run (opening resource.id resource ++ [.cancel 0])) 0 ∧
          ¬Held (start.run (opening resource.id resource ++ [.cancel 0])) 0 ∧
            ¬Secured (start.run (opening resource.id resource ++ [.cancel 0])) 0 := by
  obtain ⟨start, created⟩ :
      ∃ start : Factory Repository, create 1 { seconds := 30, nanos := 0 } = .ok start := ⟨_, rfl⟩
  refine ⟨start, created, ⟨⟨"a.git"⟩, "/srv/a.git"⟩, ?_⟩
  generalize (⟨⟨"a.git"⟩, "/srv/a.git"⟩ : Repository) = resource
  obtain ⟨_, _, began⟩ := run_opening created resource.id resource
  have holds : (start.run (opening resource.id resource)).stage? 0 = some (.checking 0 0) := by
    rw [began]
    simp
  have forsaken : start.During (opening resource.id resource ++ [.cancel 0]) (Forsakes 0) :=
    .last ⟨0, 0, rfl, holds⟩
  obtain ⟨handed, unheld, _⟩ := (create_sound created).run_forsaken forsaken
  exact ⟨handed, unheld,
    fun secured => (handed_secured_iff created _ handed unheld).mp secured forsaken⟩

end PackGate.Factory
