import PackGate.App.Step
import PackGate.Proofs.Context.Turn
import PackGate.Proofs.Factory.Evaluation
import PackGate.Proofs.Factory.Stock

/-! All that one step of the server can do, and what holds of the server over every run. -/

namespace PackGate.App

/-- What an event can make of a server; settings and log change beside the machines. -/
inductive Course (app : App) : Event → App → Prop where
  /-- Something happens to the factory; a build that begins reads the shelf. -/
  | works {event : Event} (happens : Factory.Event Repository)
      (reads : ∀ caller resource known, happens = .advance caller resource →
        app.factory.callers[caller]? = some known → resource = app.shelf.repository known.id)
      (calls : ∀ id, happens = .call id → event = .call id) :
      Course app event (app.drive happens)
  /-- Nothing happens. -/
  | idle {event : Event} : Course app event app
  /-- A refresh takes its place in the queue. -/
  | asks {event : Event} : Course app event app.request.2
  /-- A refresh runs to its next wait. -/
  | goes {event : Event} (task : Nat) (journal : List Notice) :
      Course app event
        { app with
          context := app.context.step (.proceed task)
          factory := { app.factory with journal } }
  /-- The callback of the factory empties the cache. -/
  | delivers {event : Event} (task : Nat) (mine : app.context.current? task = some listener) :
      Course app event { app.drive .invalidate with context := app.context.step (.answer task) }
  /-- The callback of somebody else ends. -/
  | passes {event : Event} (task : Nat) (other : app.context.current? task ≠ some listener) :
      Course app event { app with context := app.context.step (.answer task) }
  /-- A refresh is given up. -/
  | yields (task : Nat) :
      Course app (.abort task) { app with context := app.context.step (.abort task) }
  /-- Somebody else listens. -/
  | welcomes (guest : Nat) :
      Course app (.welcome guest)
        { app with
          context := (app.context.step (.hold (guestName guest))).step
            (.subscribe (guestName guest)) }
  /-- Somebody else goes away. -/
  | dismisses (guest : Nat) :
      Course app (.dismiss guest)
        { app with context := app.context.step (.drop (guestName guest)) }
  /-- Other settings are taken over, and a refresh takes its place in the queue. -/
  | reloads {files : FileSystem} (fresh : Config) (journal : List Notice)
      (accepted : (app.beginReload files).1 = .ok app.refreshes) :
      Course app (.reload files)
        { app with
          config := fresh
          shelf := app.shelf.move fresh.reposPath
          factory := { app.factory with journal }
          context := app.context.step (.request app.refreshes)
          refreshes := app.refreshes + 1 }

/-- Log records are the last thing in the log. -/
theorem foldl_note (app : App) (notices : List Notice) :
    notices.foldl note app =
      { app with
        factory := { app.factory with journal := app.factory.journal ++ notices } } := by
  induction notices generalizing app with
  | nil => simp
  | cons notice rest ih =>
    rw [List.foldl_cons, ih]
    simp [note, Factory.note]

/-- Every step takes one of the courses. -/
theorem step_course (app : App) (event : Event) : Course app event (app.step event) := by
  -- Event by event; only reading the settings and the callbacks have courses to choose from.
  cases event with
  | call id => exact .works (.call id) (by simp) (by simp)
  | advance caller =>
    show Course app _ (app.advance caller)
    unfold advance
    split
    · exact .idle
    · -- What the caller would build is looked up under the identifier that it asks for.
      rename_i known here
      refine .works _ (fun other resource asker same there => ?_) (by simp)
      cases same
      rw [here] at there
      cases there
      rfl
  | finish caller outcome => exact .works (.finish caller outcome) (by simp) (by simp)
  | cancel caller => exact .works (.cancel caller) (by simp) (by simp)
  | invalidate => exact .works .invalidate (by simp) (by simp)
  | shutdown => exact .works .shutdown (by simp) (by simp)
  | reload files =>
    show Course app _ (app.beginReload files).2
    cases loaded : Config.load files app.configPath with
    | error error =>
      -- Settings that cannot be read change nothing at all.
      have same : (app.beginReload files).2 = app := by simp only [beginReload, loaded]
      rw [same]
      exact .idle
    | ok fresh =>
      -- Taking settings over is told in the log, before the refresh is asked for.
      have accepted : app.beginReload files = (.ok app.refreshes, (app.adopt fresh).request.2) := by
        simp only [beginReload, loaded, adopt, foldl_note, request]
      have course := Course.reloads fresh (app.factory.journal ++
        (changeNotices app.config fresh ++ app.shelf.moveNotices fresh.reposPath))
        (congrArg Prod.fst accepted)
      rw [accepted]
      simpa only [adopt, foldl_note, request] using course
  | refresh => exact .asks
  | proceed task =>
    show Course app _ (app.proceed task)
    unfold proceed
    -- A refresh that comes to its end is logged, and any other one is not.
    dsimp only
    split
    · exact .goes task _
    · exact .goes task app.factory.journal
  | deliver task =>
    show Course app _ (app.deliver task)
    unfold deliver
    split
    · exact .idle
    · -- Only the callback of the factory has to do with the cache.
      rename_i name current
      by_cases mine : name = listener
      · rw [if_pos mine]
        exact .delivers task (mine ▸ current)
      · rw [if_neg mine]
        exact .passes task (by simp [current, mine])
  | abort task => exact .yields task
  | welcome guest => exact .welcomes guest
  | dismiss guest => exact .dismisses guest

/-- Along every course the factory makes a transition; a build that begins reads the shelf. -/
theorem Course.transition {app after : App} {event : Event} (course : Course app event after) :
    ∃ happens, Factory.Transition app.factory happens after.factory ∧
      ∀ caller resource known, happens = .advance caller resource →
        app.factory.callers[caller]? = some known → resource = app.shelf.repository known.id := by
  -- Where the factory only takes a note, the event is one that starts no build.
  have noted (journal : List Notice) :
      Factory.Transition app.factory .activate { app.factory with journal } :=
    .idle (.noted app.factory app.factory.metrics journal)
  cases course with
  | works happens reads _ => exact ⟨happens, Factory.step_transition _ _, reads⟩
  | idle => exact ⟨.activate, .idle (.refl _), by simp⟩
  | asks => exact ⟨.activate, .idle (.refl _), by simp⟩
  | goes task journal => exact ⟨.activate, noted journal, by simp⟩
  | delivers task => exact ⟨.invalidate, Factory.step_transition _ _, by simp⟩
  | passes task => exact ⟨.activate, .idle (.refl _), by simp⟩
  | yields task => exact ⟨.activate, .idle (.refl _), by simp⟩
  | welcomes guest => exact ⟨.activate, .idle (.refl _), by simp⟩
  | dismisses guest => exact ⟨.activate, .idle (.refl _), by simp⟩
  | reloads fresh journal => exact ⟨.activate, noted journal, by simp⟩

/-- With an event nobody asks for anything, unless it is a lookup that starts. -/
theorem Course.asked {app after : App} {event : Event} (course : Course app event after)
    (other : ∀ id, event ≠ .call id) : after.factory.asked = app.factory.asked := by
  -- Only what happens to the factory matters, and of that only a call.
  have same {happens : Factory.Event Repository} (silent : ∀ id, happens ≠ .call id) :
      (app.factory.step happens).asked = app.factory.asked :=
    (Factory.step_transition app.factory happens).asked.resolve_right
      fun ⟨id, called, _⟩ => silent id called
  cases course with
  | works happens _ calls => exact same fun id called => other id (calls id called)
  | delivers => exact same (by simp)
  | _ => rfl

/-- With an event a server starts no process. -/
theorem Course.launches {app after : App} {event : Event} (course : Course app event after) :
    after.launches = app.launches := by
  cases course <;> rfl

/-! ## Every run -/

/-- What holds of a server at every moment. -/
structure Running (app : App) : Prop where
  /-- The factory is sound. -/
  sound : app.factory.Sound
  /-- The factory is subscribed to refresh events. -/
  subscribed : listener ∈ app.context.subscriptions
  /-- The factory is alive. -/
  held : listener ∈ app.context.held
  /-- The shelf stands where the settings say, whatever the spelling. -/
  placed : FilePath.same app.shelf.root app.config.reposPath = true

/-- A shelf that has moved stands where it was told to. -/
theorem same_move (shelf : Shelf) (root : String) :
    FilePath.same (shelf.move root).root root = true := by
  -- A shelf only stays where it is if it stands there already.
  unfold Shelf.move
  split
  · assumption
  · exact beq_self_eq_true _

/-- A server that starts has a new factory, whose listening is the first thing that happens. -/
theorem create_cases {path : String} {config : Config} {start : App}
    (created : create path config = .ok start) :
    ∃ factory : Factory Repository,
      Factory.create config.cache.maxSize.toNat config.cache.budget = .ok factory ∧
        start = attach
          { configPath := path, config, shelf := { root := config.reposPath }, factory
            context := Context.step {} (.hold listener) } := by
  unfold create assemble at created
  -- A cache that cannot be created is the one thing that can fail.
  cases made : (Factory.create config.cache.maxSize.toNat config.cache.budget :
      Except Cache.CreateFault (Factory Repository)) with
  | error fault =>
    rw [made] at created
    cases created
  | ok factory =>
    rw [made] at created
    cases created
    exact ⟨factory, rfl, rfl⟩

/-- A server is running from its start on, and has not built anything yet. -/
theorem create_running {path : String} {config : Config} {start : App}
    (created : create path config = .ok start) :
    Running start ∧ start.factory.builds = #[] := by
  obtain ⟨factory, made, rfl⟩ := create_cases created
  have sound := Factory.create_sound made
  obtain ⟨_, _, _, _, builds⟩ := Factory.create_blank made
  -- The factory that nobody else knows yet subscribes and begins to serve.
  have activated := sound.step .activate
  refine ⟨⟨activated, List.mem_singleton_self listener, List.mem_singleton_self listener,
    beq_self_eq_true _⟩, ?_⟩
  exact (Factory.Touched.activate factory).builds.trans builds

/-- A server that has just started has read no root. -/
theorem create_stock {path : String} {config : Config} {start : App}
    (created : create path config = .ok start) : Factory.Stock start.factory [] := by
  have blank := (create_running created).2
  obtain ⟨factory, made, rfl⟩ := create_cases created
  -- The factory has been activated, which begins no build.
  have stock := (Factory.create_stock made).transition (Factory.step_transition factory .activate)
    (show Factory.Reads ⟨config.reposPath⟩ factory .activate by simp [Factory.Reads])
  have empty := List.length_eq_zero_iff.mp (stock.size.trans (congrArg Array.size blank))
  rwa [empty] at stock

/-- A listener that is kept alive stays subscribed. -/
theorem stays_subscribed {context after : Context} {event : Context.Event} {listener : Nat}
    (turn : Context.Turn context event after) (subscribed : listener ∈ context.subscriptions)
    (held : listener ∈ context.held) (kept : event ≠ .drop listener) :
    listener ∈ after.subscriptions ∧ listener ∈ after.held := by
  -- Two turns take somebody off a list: one drops a listener, the other forgets the dead.
  cases turn with
  | hold other => exact ⟨subscribed, List.mem_cons_of_mem _ held⟩
  | drop other =>
    have apart : listener ≠ other := fun same => kept (by rw [same])
    exact ⟨subscribed, List.mem_filter.mpr ⟨held, by simpa using apart⟩⟩
  | subscribe => exact ⟨List.mem_append_left _ subscribed, held⟩
  | start =>
    -- Only listeners that have died are forgotten.
    refine ⟨List.mem_filter.mpr ⟨subscribed, ?_⟩, held⟩
    simp [Context.isAlive, held]
  | _ => exact ⟨subscribed, held⟩

section Run

variable {app after : App} {event : Event}

/-- Along every course a server keeps running. -/
theorem Running.course (running : Running app) (course : Course app event after) :
    Running after := by
  obtain ⟨happens, transition, _⟩ := course.transition
  have sound := running.sound.transition transition
  -- No event of a server drops the factory, since every guest has another name.
  have stays (happens : Context.Event) (kept : happens ≠ .drop listener) :=
    stays_subscribed (Context.step_turn app.context happens) running.subscribed running.held kept
  cases course with
  | works => exact ⟨sound, running.subscribed, running.held, running.placed⟩
  | idle => exact running
  | asks =>
    obtain ⟨subscribed, held⟩ := stays (.request app.refreshes) (by simp)
    exact ⟨sound, subscribed, held, running.placed⟩
  | goes task =>
    obtain ⟨subscribed, held⟩ := stays (.proceed task) (by simp)
    exact ⟨sound, subscribed, held, running.placed⟩
  | delivers task =>
    obtain ⟨subscribed, held⟩ := stays (.answer task) (by simp)
    exact ⟨sound, subscribed, held, running.placed⟩
  | passes task =>
    obtain ⟨subscribed, held⟩ := stays (.answer task) (by simp)
    exact ⟨sound, subscribed, held, running.placed⟩
  | yields task =>
    obtain ⟨subscribed, held⟩ := stays (.abort task) (by simp)
    exact ⟨sound, subscribed, held, running.placed⟩
  | welcomes guest =>
    -- A guest is held first and subscribes then, which makes two turns.
    obtain ⟨subscribed, held⟩ := stays (.hold (guestName guest)) (by simp)
    obtain ⟨still, alive⟩ := stays_subscribed
      (Context.step_turn _ (.subscribe (guestName guest))) subscribed held (by simp)
    exact ⟨sound, still, alive, running.placed⟩
  | dismisses guest =>
    obtain ⟨subscribed, held⟩ := stays (.drop (guestName guest)) (by simp [guestName, listener])
    exact ⟨sound, subscribed, held, running.placed⟩
  | reloads fresh =>
    obtain ⟨subscribed, held⟩ := stays (.request app.refreshes) (by simp)
    exact ⟨sound, subscribed, held, same_move app.shelf fresh.reposPath⟩

/-- A run can be cut at any moment. -/
theorem run_append (app : App) (past future : List Event) :
    app.run (past ++ future) = (app.run past).run future :=
  List.foldl_append

/-- The last event of a run is one more step. -/
theorem run_concat (app : App) (past : List Event) (event : Event) :
    app.run (past ++ [event]) = (app.run past).step event :=
  run_append app past [event]

/-- Over every run a server keeps running, and its factory grows. -/
theorem Running.run (running : Running app) (events : List Event) :
    Running (app.run events) ∧ Factory.Grows app.factory (app.run events).factory := by
  -- The induction is on the events, and growth adds up.
  induction events generalizing app with
  | nil => exact ⟨running, .refl app.factory⟩
  | cons event rest ih =>
    have course := step_course app event
    obtain ⟨happens, transition, _⟩ := course.transition
    obtain ⟨last, grows⟩ := ih (running.course course)
    exact ⟨last, (running.sound.grows transition).trans grows⟩

end Run

/-! ## Runs that are known in full -/

namespace Evaluation

-- With these definitions a run of a server is computed, once those of its factory are open too.
attribute [scoped simp] run App.step drive App.advance attach request App.proceed deliver App.note
attribute [scoped simp] welcome guestName listener beginReload adopt foldl_note changeNotices
attribute [scoped simp] Context.step Context.run Context.isAlive Context.proceed Context.start
attribute [scoped simp] Context.call Context.finish Context.answer Context.publish
attribute [scoped simp] Context.current? Context.Delivery.current? Context.notified?
attribute [scoped simp] Shelf.move Shelf.moveNotices

end Evaluation

open Evaluation Factory.Evaluation

/-- A lookup starts a build. -/
def underway (id : Identifier) : List Event :=
  [.call id, .advance 0, .advance 0]

/-- The first lookup of a server starts a build of what lies on the shelf. -/
theorem run_underway {path : String} {config : Config} {start : App}
    (created : create path config = .ok start) (id : Identifier) :
    ∃ metrics, start.run (underway id) =
      { start with
        factory := { start.factory with
          table := start.factory.table.insert id 0
          flights := #[{ id, generation := 0, members := [0] }]
          builds := #[{ id, flight := 0, resource := start.shelf.repository id }]
          callers := #[⟨id, .building 0 0⟩]
          metrics } } := by
  refine ⟨(start.run (underway id)).factory.metrics, ?_⟩
  obtain ⟨_, opened, rfl⟩ := create_cases created
  obtain ⟨_, made, rfl⟩ := Factory.create_made opened
  obtain ⟨rfl, _⟩ := Cache.Lru.create_made made
  simp [underway]

end PackGate.App
