import PackGate.Proofs.App.Course
import PackGate.Proofs.App.Opening

/-! One trade is enough for one disturbance: what an opening hands out, and how often it asks. -/

namespace PackGate

namespace Factory

/-! ## Callers that come after a release -/

section Clear

variable {ρ : Type} [Releasable ρ] {factory after : Factory ρ} {event : Event ρ}
  {gone : List Nat} {member : Nat}

/-- A caller comes to none of the resources that were released before it came. -/
structure ClearOf (factory : Factory ρ) (gone : List Nat) (member : Nat) : Prop where
  /-- It waits on no flight that has ended with one of them. -/
  waits : ∀ {build flight : Nat}, Overtaken factory build member flight → build ∉ gone
  /-- It has not been served with one of them. -/
  served : ∀ {build : Nat}, factory.stage? member = some (.served build) → build ∉ gone

/-- Whatever happens, a caller stays clear of what has been released. -/
theorem ClearOf.transition (clear : ClearOf factory gone member) (sound : Sound factory)
    (transition : Transition factory event after) (released : gone ⊆ after.released) :
    ClearOf after gone member := by
  -- Nothing that is cached after the step has been released.
  have cached : ∀ {id : Identifier} {build : Nat}, (id, build) ∈ after.cache.toList →
      build ∉ gone := fun entry old =>
    ((sound.transition transition).kept.cached entry).1 (released old)
  refine ⟨fun overtaken => ?_, fun served => ?_⟩
  · -- The flight had ended before, or has just ended with what is cached.
    have joined := transition.joined sound overtaken
    rcases transition.filled sound overtaken.2 with before | ⟨_, entry⟩
    · exact clear.waits ⟨joined, before⟩
    · exact cached entry
  · rcases transition.served sound served with before | ⟨_, overtaken⟩ | ⟨_, entry⟩
    · exact clear.served before
    · exact clear.waits overtaken
    · exact cached entry

/-- A caller that has just come is clear of everything. -/
theorem clearOf_call (factory : Factory ρ) (id : Identifier) (gone : List Nat) :
    ClearOf (factory.step (.call id)) gone factory.callers.size := by
  have enters : (factory.step (.call id)).stage? factory.callers.size = some .entering := by
    rw [stage?, new_caller]
    rfl
  -- It stands neither on a flight nor at an answer.
  refine ⟨fun overtaken => ?_, fun served => ?_⟩
  · have joined := overtaken.1
    rw [enters] at joined
    cases joined
  · rw [enters] at served
    cases served

end Clear

end Factory

namespace App

variable {before app after : App} {id : Identifier}

/-! ## Later servers -/

/-- One server is what has become of another one. -/
structure Later (before app : App) : Prop where
  /-- Every build has read a root. -/
  stock : ∃ roots, Factory.Stock app.factory roots
  /-- Nothing has been taken back. -/
  grows : Factory.Grows before.factory app.factory

/-- What becomes of a server later is what has become of the earlier one. -/
theorem Later.transition (later : Later before app) {happens : Factory.Event Repository}
    (transition : Factory.Transition app.factory happens after.factory)
    (reads : Factory.Reads app.shelf app.factory happens) : Later before after := by
  -- The stock is the invariant of every transition, and growth adds up.
  obtain ⟨roots, stock⟩ := later.stock
  exact ⟨⟨_, stock.transition transition reads⟩,
    later.grows.trans (stock.sound.grows transition)⟩

/-- The factory of a later server is sound. -/
theorem Later.sound (later : Later before app) : app.factory.Sound :=
  let ⟨_, stock⟩ := later.stock
  stock.sound

/-- One more lookup makes a server later. -/
theorem Later.called (later : Later before app) (name : Identifier) :
    Later before (app.step (.call name)) :=
  later.transition (Factory.step_transition app.factory (.call name)) (by simp [Factory.Reads])

/-- Interference makes a server later. -/
theorem Later.disturb (later : Later before app) (interference : Interference) :
    Later before (app.disturb interference) := by
  obtain ⟨happens, transition, reads⟩ := disturb_transition app interference
  exact later.transition transition reads

/-- Interference leaves a server one that others can be later than. -/
theorem later_disturbAll (later : Later app app) (past : List Interference) :
    Later (app.disturbAll past) (app.disturbAll past) := by
  -- Only the stock is carried along, for the moment that counts is the last one.
  induction past generalizing app with
  | nil => exact later
  | cons first rest ih => exact ih ⟨(later.disturb first).stock, .refl _⟩

/-- Whoever asks for an identifier is served with a repository of it. -/
theorem Later.served {caller build : Nat} (later : Later before app)
    (asks : app.factory.asked[caller]? = some id)
    (served : app.factory.stage? caller = some (.served build)) :
    ∃ work, app.factory.builds[build]? = some work ∧ work.id = id ∧ work.resource.id = id := by
  obtain ⟨roots, stock⟩ := later.stock
  have here := Factory.caller_of_stage asks served
  -- The build is one for the identifier, and so is the repository that it has opened.
  obtain ⟨_, work, found, ids, _⟩ := stock.supplied.served here rfl
  obtain ⟨root, _, opened⟩ := stock.placed caller id build here
  rw [found, Option.map_some, Option.some_inj] at opened
  exact ⟨work, found, ids, by rw [opened]⟩

/-! ## Releases -/

/-- From one state to another the resource of a build for an identifier is released. -/
def ReleasedBetween (before after : App) (id : Identifier) (build : Nat) : Prop :=
  build ∉ before.factory.released ∧ build ∈ after.factory.released ∧
    ∃ work, after.factory.builds[build]? = some work ∧ work.id = id

/-- What has been released meanwhile stays so. -/
theorem ReleasedBetween.grows {build : Nat} (released : ReleasedBetween before app id build)
    (grows : Factory.Grows app.factory after.factory) : ReleasedBetween before after id build := by
  -- No release is undone, and the build keeps its identifier.
  obtain ⟨held, gone, work, found, ids⟩ := released
  obtain ⟨later, there, continues⟩ := grows.builds build work found
  exact ⟨held, grows.released.subset gone, later, there, continues.id.trans ids⟩

/-! ## What is known of an opening -/

namespace Opening

/-- What is known of the releases since an opening began, at each of its stages. -/
inductive Stands (before : App) (id : Identifier) (app : App) : Stage → Prop where
  /-- Its first lookup is clear of what had been released before the opening began. -/
  | looking {caller : Nat} (clear : app.factory.ClearOf before.factory.released caller) :
      Stands before id app (.looking id caller)
  /-- Its second lookup is also clear of the repository that was released meanwhile. -/
  | trading {caller build : Nat} {gone : List Nat} (earlier : before.factory.released ⊆ gone)
      (traded : build ∈ gone) (released : ReleasedBetween before app id build)
      (stays : gone ⊆ app.factory.released) (clear : app.factory.ClearOf gone caller) :
      Stands before id app (.trading caller)
  /-- What it hands out is of the identifier; if released, it is the second one to be so. -/
  | served {build : Nat} (carries : ∃ work, app.factory.builds[build]? = some work ∧
        work.resource.id = id)
      (late : build ∈ app.factory.released → ∃ other, other ≠ build ∧
        ReleasedBetween before app id other ∧ ReleasedBetween before app id build) :
      Stands before id app (.done (.ok build))
  /-- It is over without a repository. -/
  | refused {error : FactoryError} : Stands before id app (.done (.error error))
  /-- It has been given up. -/
  | dropped : Stands before id app .dropped

/-- An opening that began at an earlier state of the server. -/
structure Sane (before : App) (id : Identifier) (met : List Interference) (opening : Opening) :
    Prop where
  /-- The server has gone on from there. -/
  later : Later before opening.app
  /-- Its lookups ask for the identifier. -/
  asks : Asks before id met opening
  /-- What is known at its stage. -/
  stands : Stands before id opening.app opening.stage

variable {opening : Opening} {met : List Interference}

/-- An opening begins sane. -/
theorem sane_begin {text : String} (resolved : resolve (some text) = .ok id)
    (later : Later app app) : Sane app id [] (begin app text) := by
  refine ⟨?_, (asks_begin resolved).1, ?_⟩
  all_goals
    unfold begin
    rw [resolved]
  · exact later.called id
  · -- The first lookup is a new caller's, so it is clear of everything.
    exact .looking (Factory.clearOf_call app.factory id _)

/-- Interference leaves an opening that waits as it is. -/
theorem Sane.disturb (sane : Sane before id met opening) (interference : Interference)
    {caller : Nat} (waits : opening.stage.caller? = some caller) :
    Sane before id (met ++ [interference])
      { opening with app := opening.app.disturb interference } := by
  -- What is known is about the server alone, and it is kept by the factory's transition.
  have asks := sane.asks.disturb waits interference
  obtain ⟨app, stage, lookups⟩ := opening
  obtain ⟨later, _, stands⟩ := sane
  obtain ⟨happens, transition, reads⟩ := disturb_transition app interference
  have sound : app.factory.Sound := later.sound
  have grows := sound.grows transition
  refine ⟨later.transition transition reads, asks, ?_⟩
  cases stands with
  | looking clear =>
    -- What was released before the opening began is released still.
    have gone := (later.transition transition reads).grows.released.subset
    exact .looking (clear.transition sound transition gone)
  | trading earlier traded released stays clear =>
    -- So is what was released before the second lookup, the traded repository included.
    have gone := List.Subset.trans stays grows.released.subset
    exact .trading earlier traded (released.grows grows) gone
      (clear.transition sound transition gone)
  | served | refused | dropped => cases waits

/-- An opening that takes the answer of its lookup stays sane. -/
theorem Sane.resume (sane : Sane before id met opening) : Sane before id met opening.resume := by
  -- An opening that is over has nothing to take, and one that waits takes the four ends apart.
  have settled : Later before opening.resume.app ∧
      Stands before id opening.resume.app opening.resume.stage := by
    obtain ⟨app, stage, lookups⟩ := opening
    obtain ⟨later, asks, stands⟩ := sane
    have still := stands
    unfold Opening.resume
    cases stands with
    | @looking caller clear =>
      dsimp only
      split
      · rename_i build served
        obtain ⟨work, found, ids, carries⟩ := later.served (asks.awaited rfl) served
        have held : build ∉ before.factory.released := clear.served served
        split
        · -- The repository has been released since the opening began, so it is traded.
          rename_i gone
          have gone : build ∈ app.factory.released := List.contains_iff_mem.mp gone
          have released : ReleasedBetween before app id build := ⟨held, gone, work, found, ids⟩
          have grows : app.factory.Grows (app.step (.call id)).factory :=
            Factory.Sound.step_grows later.sound (.call id)
          exact ⟨later.called id, .trading later.grows.released.subset gone
            (released.grows grows) grows.released.subset (Factory.clearOf_call app.factory id _)⟩
        · -- The repository can be used, so the opening is over.
          rename_i live
          refine ⟨later, .served ⟨work, found, carries⟩ fun gone => ?_⟩
          exact absurd (List.contains_iff_mem.mpr gone) live
      · exact ⟨later, .refused⟩
      · exact ⟨later, .dropped⟩
      · exact ⟨later, still⟩
    | @trading caller traded gone earlier among released _ clear =>
      dsimp only
      split
      · rename_i build served
        obtain ⟨work, found, ids, carries⟩ := later.served (asks.awaited rfl) served
        have apart : build ∉ gone := clear.served served
        refine ⟨later, .served ⟨work, found, carries⟩ fun late => ?_⟩
        -- The traded repository was released before the second lookup, and this one after it.
        exact ⟨traded, fun same => apart (same ▸ among), released,
          fun old => apart (earlier old), late, work, found, ids⟩
      · exact ⟨later, .refused⟩
      · exact ⟨later, .dropped⟩
      · exact ⟨later, still⟩
    | served | refused | dropped => exact ⟨later, still⟩
  exact ⟨settled.1, sane.asks.resume.1, settled.2⟩

/-- Every step leaves an opening sane. -/
theorem Sane.step (sane : Sane before id met opening) {caller : Nat}
    (waits : opening.stage.caller? = some caller) (interference : Interference) :
    Sane before id (met ++ [interference]) (opening.step interference) := by
  -- A step is interference and then a look at the lookup.
  rw [step_waits waits]
  exact (sane.disturb interference waits).resume

end Opening

/--
A repository that an opening hands out is not released, if at most one of its identifier was.

That is so for every interference with the opening, and every state in which it can begin.
The repository is of the identifier, and the opening has asked for it at most twice.
-/
theorem one_trade_suffices {path : String} {config : Config} {start : App}
    (created : create path config = .ok start) (past during : List Interference) (text : String) :
    let begun := start.disturbAll past
    let opening := (Opening.begin begun text).run during
    opening.lookups.length ≤ 2 ∧
      ∀ id, resolve (some text) = .ok id →
        (∀ caller ∈ opening.lookups, opening.app.factory.asked[caller]? = some id) ∧
        ∀ build, opening.stage = .done (.ok build) →
          (∃ work, opening.app.factory.builds[build]? = some work ∧ work.resource.id = id) ∧
          ((∀ one other, ReleasedBetween begun opening.app id one →
              ReleasedBetween begun opening.app id other → one = other) →
            opening.app.factory.isReleased build = false) := by
  intro begun opening
  -- The opening began at a state to which interference has led a server from its start.
  have fresh : Later start start := ⟨⟨[], create_stock created⟩, .refl _⟩
  have sane (id : Identifier) (resolved : resolve (some text) = .ok id) :
      ∃ met, Opening.Sane begun id met opening := by
    obtain ⟨met, _, sane⟩ := Opening.run_keeps (Opening.Sane begun id)
      (fun waits sane interference => sane.step waits interference)
      (Opening.sane_begin resolved (later_disturbAll fresh past)) during
    exact ⟨_, sane⟩
  refine ⟨?_, fun id resolved => ?_⟩
  · cases resolved : resolve (some text) with
    | error error =>
      -- Without an identifier nothing is asked for.
      have began : Opening.begin begun text = { app := begun, stage := .done (.error error) } := by
        unfold Opening.begin
        rw [resolved]
      have ended : opening = Opening.begin begun text :=
        Opening.run_over (by rw [began]; rfl) during
      rw [ended, began]
      exact Nat.zero_le 2
    | ok id =>
      obtain ⟨_, sane⟩ := sane id resolved
      exact sane.asks.few.2
  · obtain ⟨_, sane⟩ := sane id resolved
    refine ⟨fun caller member => (sane.asks.account.asks caller member).2, fun build answered => ?_⟩
    have stands := sane.stands
    rw [answered] at stands
    cases stands with
    | served carries late =>
      refine ⟨carries, fun once => ?_⟩
      -- If it were released, another one would have been released before it.
      rw [Bool.eq_false_iff]
      intro released
      obtain ⟨other, apart, first, second⟩ := late (List.contains_iff_mem.mp released)
      exact apart (once other build first second)

/-- The repository that an opening waits for is built by another lookup, and then released. -/
def untimely : List Interference :=
  [.event (.call ⟨"a.git"⟩), .event (.advance 1), .event (.advance 0), .event (.advance 1),
    .event (.finish 1 .ready), .event (.advance 1), .event .invalidate, .event (.advance 0),
    .event (.advance 2), .event (.advance 2), .event (.finish 2 .ready), .event (.advance 2)]

open Evaluation Factory.Evaluation in
/-- An opening that comes too late for one repository hands out the next one. -/
theorem one_trade_suffices_untimely :
    ∃ start : App, create "config.yaml" { reposPath := "/srv" } = .ok start ∧
      resolve (some "/a.git/info/refs") = .ok ⟨"a.git"⟩ ∧
      ((Opening.begin start "/a.git/info/refs").run untimely).lookups = [0, 2] ∧
      ((Opening.begin start "/a.git/info/refs").run untimely).stage = .done (.ok 1) ∧
      ((Opening.begin start "/a.git/info/refs").run untimely).app.factory.isReleased 0 = true ∧
      ((Opening.begin start "/a.git/info/refs").run untimely).app.factory.isReleased 1 = false := by
  obtain ⟨start, created⟩ :
      ∃ start : App, create "config.yaml" { reposPath := "/srv" } = .ok start := ⟨_, rfl⟩
  have resolved : resolve (some "/a.git/info/refs") = .ok ⟨"a.git"⟩ := by decide +kernel
  have state : ((Opening.begin start "/a.git/info/refs").run untimely).lookups = [0, 2] ∧
      ((Opening.begin start "/a.git/info/refs").run untimely).stage = .done (.ok 1) ∧
      ((Opening.begin start "/a.git/info/refs").run untimely).app.factory.released = [0] := by
    cases created
    refine ⟨?_, ?_, ?_⟩ <;> simp [untimely, Opening.run, Opening.begin, resolved, Opening.ask,
      Opening.step, disturb, Opening.resume]
  obtain ⟨lookups, stage, released⟩ := state
  obtain ⟨_, served⟩ := one_trade_suffices created [] untimely "/a.git/info/refs"
  have live := ((served _ resolved).2 1 stage).2
  refine ⟨start, created, resolved, lookups, stage, ?_, live fun one other first second => ?_⟩
  · rw [Factory.isReleased, released]
    rfl
  · -- Only one repository has been released at all.
    have only {build : Nat} (gone : ReleasedBetween start
        ((Opening.begin start "/a.git/info/refs").run untimely).app ⟨"a.git"⟩ build) :
        build = 0 := by
      obtain ⟨_, gone, _⟩ := gone
      rw [released] at gone
      exact List.mem_singleton.mp gone
    rw [only first, only second]

end App

end PackGate
