import PackGate.Proofs.App.Course
import PackGate.Proofs.Factory.Filing

/-! Every state that a server can come to, and what holds in all of them. -/

namespace PackGate

namespace Context

/-! ## Tasks -/

/-- All refreshes that were asked for have lower numbers. -/
structure Below (context : Context) (bound : Nat) : Prop where
  /-- Those that wait. -/
  waiting : ∀ task ∈ context.waiting, task < bound
  /-- The one whose event is on its way. -/
  delivery : ∀ delivery, context.delivery = some delivery → delivery.task < bound
  /-- Those that have come to their end. -/
  completed : ∀ entry ∈ context.completed, entry.1 < bound

namespace Below

variable {context after : Context} {event : Event} {bound : Nat}

/-- Lower numbers stay lower. -/
theorem mono (below : context.Below bound) {more : Nat} (up : bound ≤ more) :
    context.Below more :=
  ⟨fun task member => Nat.lt_of_lt_of_le (below.waiting task member) up,
    fun delivery here => Nat.lt_of_lt_of_le (below.delivery delivery here) up,
    fun entry member => Nat.lt_of_lt_of_le (below.completed entry member) up⟩

/-- Only a request brings a number. -/
theorem turn (below : context.Below bound) (turn : Turn context event after)
    (asked : ∀ task, event = .request task → task < bound) : after.Below bound := by
  obtain ⟨waiting, delivery, completed⟩ := below
  cases turn with
  | idle => exact ⟨waiting, delivery, completed⟩
  | hold => exact ⟨waiting, delivery, completed⟩
  | drop => exact ⟨waiting, delivery, completed⟩
  | subscribe => exact ⟨waiting, delivery, completed⟩
  | request task =>
    refine ⟨fun other member => ?_, delivery, completed⟩
    rcases List.mem_append.mp member with old | new
    · exact waiting other old
    -- The number that is new is the one that was asked for.
    · rw [List.mem_singleton.mp new]
      exact asked task rfl
  | @start task obtains =>
    -- The refresh that starts has waited before.
    refine ⟨fun other member => waiting other (List.mem_of_mem_erase member), ?_, completed⟩
    rintro _ ⟨⟩
    exact waiting task (List.mem_of_mem_head? obtains.2)
  | @call going _ here =>
    refine ⟨waiting, ?_, completed⟩
    rintro _ ⟨⟩
    exact delivery going here
  | @finish going here =>
    -- The refresh that ends is the one whose event was on its way.
    refine ⟨waiting, by simp [Context.finish, publish], fun entry member => ?_⟩
    rcases List.mem_append.mp member with old | new
    · exact completed entry old
    · rw [List.mem_singleton.mp new]
      exact delivery going here
  | @answer going here =>
    refine ⟨waiting, ?_, completed⟩
    rintro _ ⟨⟩
    exact delivery going here
  | leave =>
    exact ⟨fun other member => waiting other (List.mem_of_mem_erase member), delivery, completed⟩
  | halt =>
    exact ⟨fun other member => waiting other (List.mem_of_mem_erase member), by simp, completed⟩

/-- A number that is not lower has not come to its end. -/
theorem unnotified (below : context.Below bound) : context.notified? bound = none := by
  rw [notified?, List.lookup_eq_none_iff]
  intro entry member
  have lower := below.completed entry member
  simp only [bne_iff_ne, ne_eq]
  omega

end Below

end Context

namespace App

/-! ## States -/

/-- A server that was started with some settings has come to a state. -/
inductive Reached (path : String) (config : Config) : App → Prop where
  /-- It has just started. -/
  | create {app : App} (created : create path config = .ok app) : Reached path config app
  /-- Something has happened to it. -/
  | step {app : App} (reached : Reached path config app) (event : Event) :
      Reached path config (app.step event)
  /-- Its factory listens to refresh events once more. -/
  | attach {app : App} (reached : Reached path config app) : Reached path config app.attach
  /-- Requests have been counted and logged, and git processes started. -/
  | serve {app : App} (reached : Reached path config app) (metrics : Metrics)
      (journal : List Notice) (launches : List Git.Launch) :
      Reached path config
        { app with launches, factory := { app.factory with metrics, journal } }
  /-- Somebody has released a repository out of turn. -/
  | release {app after : App} (reached : Reached path config app) {build : Nat}
      (released : app.releaseHandle build = .ok after) : Reached path config after

/-- What holds of a server at every moment, even where repositories are released out of turn. -/
structure Standing (path : String) (config : Config) (app : App) : Prop where
  /-- The settings file is the one given at the start. -/
  path : app.configPath = path
  /-- What is cached was built for its identifier. -/
  filed : app.factory.Filed
  /-- The factory is subscribed to refresh events. -/
  subscribed : listener ∈ app.context.subscriptions
  /-- The factory is alive. -/
  held : listener ∈ app.context.held
  /-- No refresh has the number that the next one will have. -/
  below : app.context.Below app.refreshes
  /-- The cache has the capacity given at the start. -/
  capacity : app.factory.cache.capacity = config.cache.maxSize.toNat
  /-- A build has the budget given at the start. -/
  budget : app.factory.budget = config.cache.budget

section Reach

variable {path : String} {config : Config} {app after : App}

/-- A server stands from its start on. -/
theorem create_standing (created : create path config = .ok app) : Standing path config app := by
  have running := (create_running created).1
  -- What is known of a running server holds, and the rest is read off its parts.
  obtain ⟨_, opened, rfl⟩ := create_cases created
  obtain ⟨cache, made, rfl⟩ := Factory.create_made opened
  have capacity : cache.capacity = config.cache.maxSize.toNat :=
    congrArg Cache.Lru.capacity (Cache.Lru.create_made made).1
  refine ⟨rfl, running.sound.filed, running.subscribed, running.held, ?_, capacity, rfl⟩
  exact ⟨by simp [attach, Context.step, Context.isAlive, listener], by
    simp [attach, Context.step, Context.isAlive, listener], by
    simp [attach, Context.step, Context.isAlive, listener]⟩

namespace Standing

/-- A server keeps standing where something happens to its factory. -/
theorem drive (standing : Standing path config app) (happens : Factory.Event Repository) :
    Standing path config (app.drive happens) :=
  have transition := Factory.step_transition app.factory happens
  { standing with
    filed := standing.filed.step happens
    capacity := (transition.recached standing.filed.wellFormed).capacity.trans standing.capacity
    budget := (Factory.step_budget app.factory happens).trans standing.budget }

/-- Counters, log, releases and git processes are no part of it. -/
theorem noted (standing : Standing path config app) (metrics : Metrics) (journal : List Notice)
    (released : List Nat) (launches : List Git.Launch) :
    Standing path config
      { app with launches, factory := { app.factory with metrics, journal, released } } :=
  { standing with filed := standing.filed.noted metrics journal released }

/-- Nor are settings and shelf. -/
theorem adopts (standing : Standing path config app) (fresh : Config) (shelf : Shelf) :
    Standing path config { app with config := fresh, shelf } :=
  { standing with }

/-- A server keeps standing where a refresh goes on, or somebody else comes or goes away. -/
theorem turns (standing : Standing path config app) (event : Context.Event) {refreshes : Nat}
    (kept : event ≠ .drop listener)
    (asked : ∀ task, event = .request task → task < refreshes) (up : app.refreshes ≤ refreshes) :
    Standing path config { app with refreshes, context := app.context.step event } := by
  -- Nobody drops the factory, so it stays alive and subscribed.
  have turn := Context.step_turn app.context event
  obtain ⟨subscribed, held⟩ :=
    stays_subscribed turn standing.subscribed standing.held kept
  exact { standing with
    subscribed
    held
    below := (standing.below.mono up).turn turn asked }

/-- A server keeps standing where its factory listens to refresh events once more. -/
theorem attach (standing : Standing path config app) : Standing path config app.attach := by
  have driven := standing.drive .activate
  have alive : app.context.isAlive listener = true := by
    simp [Context.isAlive, standing.held]
  have subscribed : app.attach.context =
      { app.context with subscriptions := app.context.subscriptions ++ [listener] } := by
    simp only [App.attach, Context.step, alive, if_true]
  -- One more subscription of the same listener leaves all others where they are.
  refine ⟨standing.path, driven.filed, ?_, ?_, ?_, driven.capacity, driven.budget⟩
  · rw [subscribed]
    exact List.mem_append_left _ standing.subscribed
  · rw [subscribed]
    exact standing.held
  · rw [subscribed]
    exact ⟨standing.below.waiting, standing.below.delivery, standing.below.completed⟩

/-- Along every course a server keeps standing. -/
theorem course {event : Event} (standing : Standing path config app)
    (course : Course app event after) : Standing path config after := by
  -- A request takes the next number, and the one after it is then the next.
  have asks : Standing path config app.request.2 := by
    refine standing.turns (.request app.refreshes) (by simp) ?_ (Nat.le_succ _)
    rintro task ⟨⟩
    exact Nat.lt_succ_self _
  cases course with
  | works happens => exact standing.drive happens
  | idle => exact standing
  | asks => exact asks
  | goes task journal =>
    have turned := standing.turns (.proceed task) (by simp) (by simp) (Nat.le_refl _)
    exact turned.noted app.factory.metrics journal app.factory.released app.launches
  | delivers task =>
    exact (standing.drive .invalidate).turns (.answer task) (by simp) (by simp) (Nat.le_refl _)
  | passes task => exact standing.turns (.answer task) (by simp) (by simp) (Nat.le_refl _)
  | yields task => exact standing.turns (.abort task) (by simp) (by simp) (Nat.le_refl _)
  | welcomes guest =>
    have here := standing.turns (.hold (guestName guest)) (by simp) (by simp) (Nat.le_refl _)
    exact here.turns (.subscribe (guestName guest)) (by simp) (by simp) (Nat.le_refl _)
  | dismisses guest =>
    exact standing.turns (.drop (guestName guest)) (by simp [guestName, listener]) (by simp)
      (Nat.le_refl _)
  | reloads fresh journal =>
    exact (asks.adopts fresh (app.shelf.move fresh.reposPath)).noted app.factory.metrics journal
      app.factory.released app.launches

end Standing

/-- Every run leads to a state that a server can come to. -/
theorem Reached.run (reached : Reached path config app) (events : List Event) :
    Reached path config (app.run events) := by
  induction events generalizing app with
  | nil => exact reached
  | cons event rest ih => exact ih (reached.step event)

/-- Every server stands in every state that it can come to. -/
theorem Reached.standing (reached : Reached path config app) : Standing path config app := by
  induction reached with
  | create created => exact create_standing created
  | step _ event standing => exact standing.course (step_course _ event)
  | attach _ standing => exact standing.attach
  | @serve app _ metrics journal launches standing =>
    exact standing.noted metrics journal app.factory.released launches
  | @release app after _ build released standing =>
    -- At most one release has been added to the list.
    have noted (list : List Nat) :=
      standing.noted app.factory.metrics app.factory.journal list app.launches
    unfold releaseHandle at released
    split at released
    · cases released
      exact standing
    · split at released
      · cases released
      · cases released
        exact noted _

end Reach

end App

end PackGate
