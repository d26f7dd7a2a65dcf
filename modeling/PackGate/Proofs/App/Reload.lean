import Mathlib.Data.List.Induction
import PackGate.Proofs.App.Course

/-! Where the server's repositories are opened from, and what reloads do to those opened before. -/

namespace PackGate

namespace Context

/-- A refresh has been asked for and has not come to its end. -/
def Pending (context : Context) (task : Nat) : Prop :=
  task ∈ context.waiting ∨ ∃ delivery, context.delivery = some delivery ∧ delivery.task = task

/-- A refresh is going to reach a listener, or has reached it and waits for its callback. -/
def Due (context : Context) (listener task : Nat) : Prop :=
  task ∈ context.waiting ∨ ∃ delivery, context.delivery = some delivery ∧ delivery.task = task ∧
    (delivery.current? = some listener ∨ listener ∈ delivery.live.drop delivery.called)

variable {context after : Context} {event : Event} {listener task : Nat}

/-- A refresh that is due has not come to its end. -/
theorem Due.pending (due : context.Due listener task) : context.Pending task := by
  rcases due with waits | ⟨delivery, here, mine, _⟩
  · exact .inl waits
  · exact .inr ⟨delivery, here, mine⟩

/-- As long as the listener does not answer and nobody gives it up, a refresh stays due. -/
theorem Due.turn (due : context.Due listener task) (turn : Turn context event after)
    (subscribed : listener ∈ context.subscriptions) (alive : context.isAlive listener = true)
    (kept : event ≠ .abort task)
    (silent : ∀ other, event = .answer other → context.current? other ≠ some listener) :
    after.Due listener task := by
  cases turn with
  | idle | hold | drop | subscribe => exact due
  | request other =>
    rcases due with waits | delivers
    · exact .inl (List.mem_append_left _ waits)
    · exact .inr delivers
  | @start other obtains =>
    rcases due with waits | ⟨delivery, here, _⟩
    · by_cases mine : other = task
      · -- The event is going to reach the listener that is alive.
        subst mine
        have reached : listener ∈ context.subscriptions.filter context.isAlive :=
          List.mem_filter.mpr ⟨subscribed, alive⟩
        exact .inr ⟨_, rfl, rfl, .inr reached⟩
      · exact .inl ((List.mem_erase_of_ne (Ne.symm mine)).mpr waits)
    · rw [obtains.1] at here
      cases here
  | @call delivery name here outside next =>
    rcases due with waits | ⟨known, there, mine, left⟩
    · exact .inl waits
    · rw [here] at there
      cases there
      have idle : delivery.current? = none := by simp [Delivery.current?, outside]
      have ahead : listener ∈ delivery.live.drop delivery.called :=
        left.resolve_left (by simp [idle])
      -- The callback that begins is the listener's own, or that one is still ahead.
      obtain ⟨inside, same⟩ := List.getElem?_eq_some_iff.mp next
      rw [List.drop_eq_getElem_cons inside, same] at ahead
      refine .inr ⟨_, rfl, mine, ?_⟩
      rcases List.mem_cons.mp ahead with rfl | later
      · exact .inl (by simpa [Delivery.current?] using next)
      · exact .inr later
  | @finish delivery here outside done =>
    rcases due with waits | ⟨known, there, _, left⟩
    · exact .inl waits
    · -- An event that has reached all listeners is not due any more.
      rw [here] at there
      cases there
      rw [List.drop_eq_nil_of_le done] at left
      simp [Delivery.current?, outside] at left
  | @answer delivery here =>
    rcases due with waits | ⟨known, there, mine, left⟩
    · exact .inl waits
    · rw [here] at there
      cases there
      -- The callback that ends is somebody else's.
      have other : delivery.current? ≠ some listener := by
        simpa [current?, here] using silent delivery.task rfl
      exact .inr ⟨_, rfl, mine, .inr (left.resolve_left other)⟩
  | @leave other =>
    rcases due with waits | delivers
    · exact .inl ((List.mem_erase_of_ne fun same => kept (by rw [same])).mpr waits)
    · exact .inr delivers
  | @halt delivery here =>
    rcases due with waits | ⟨known, there, mine, _⟩
    · exact .inl ((List.mem_erase_of_ne fun same => kept (by rw [same])).mpr waits)
    · rw [here] at there
      cases there
      exact absurd (by rw [mine]) kept

end Context

namespace App

/-! ## Reloads -/

/-- The refresh that a step asks for because it takes other settings over. -/
def reloadTask? (app : App) : Event → Option Nat
  | .reload files =>
    match (app.beginReload files).1 with
    | .ok task => some task
    | .error _ => none
  | .call _ | .advance _ | .finish _ _ | .cancel _ | .invalidate | .shutdown | .refresh
  | .proceed _ | .deliver _ | .abort _ | .welcome _ | .dismiss _ => none

/-- The refreshes of all reloads of a run. -/
def reloads (app : App) : List Event → List Nat
  | [] => []
  | event :: rest => (app.reloadTask? event).toList ++ (app.step event).reloads rest

/-- A reload that has taken other settings over is due. -/
theorem reload_due {app : App} {files : FileSystem} {task : Nat}
    (accepted : (app.beginReload files).1 = .ok task) :
    (app.step (.reload files)).context.Due listener task := by
  show (app.beginReload files).2.context.Due listener task
  unfold beginReload at accepted ⊢
  split at accepted
  · cases accepted
  · -- The refresh is the last one in the queue.
    cases accepted
    simp only [adopt, foldl_note, request]
    exact .inl (List.mem_append_right _ (List.mem_singleton_self _))

/-- No reload is given up before its end. -/
def Patient (app : App) (events : List Event) : Prop :=
  ∀ past task future, events = past ++ .abort task :: future → task ∈ app.reloads past →
    ¬(app.run past).context.Pending task

/-- The reloads of a run are those of its parts. -/
theorem reloads_append (app : App) (past future : List Event) :
    app.reloads (past ++ future) = app.reloads past ++ (app.run past).reloads future := by
  induction past generalizing app with
  | nil => rfl
  | cons event rest ih =>
    rw [List.cons_append, reloads, ih, reloads, List.append_assoc]
    rfl

/-- The reloads of a run that goes on for one more step. -/
theorem reloads_concat (app : App) (past : List Event) (event : Event) :
    app.reloads (past ++ [event]) =
      app.reloads past ++ ((app.run past).reloadTask? event).toList := by
  rw [reloads_append, reloads, reloads, List.append_nil]

section Step

variable {app after : App} {event : Event}

/-- A reload that is due stays so until a callback has outdated all builds begun before. -/
theorem Running.due_course (running : Running app) (course : Course app event after) {task : Nat}
    (due : app.context.Due listener task)
    (patient : event = .abort task → ¬app.context.Pending task) :
    after.context.Due listener task ∨
      ∀ build < app.factory.builds.size, Factory.Expired after.factory build := by
  have alive : app.context.isAlive listener = true := by simp [Context.isAlive, running.held]
  have goes (happens : Context.Event) (kept : happens ≠ .abort task)
      (silent : ∀ other, happens = .answer other → app.context.current? other ≠ some listener) :
      (app.context.step happens).Due listener task :=
    due.turn (Context.step_turn app.context happens) running.subscribed alive kept silent
  cases course with
  | works | idle => exact .inl due
  | asks => exact .inl (goes (.request app.refreshes) (by simp) (by simp))
  | goes other => exact .inl (goes (.proceed other) (by simp) (by simp))
  | delivers => exact .inr fun build earlier => running.sound.expired_invalidate earlier
  | passes other unlike =>
    -- What somebody else does in its callback leaves the factory's own ahead.
    refine .inl (goes (.answer other) (by simp) fun answered same => ?_)
    cases same
    exact unlike
  | yields other =>
    refine .inl (goes (.abort other) (fun same => ?_) (by simp))
    cases same
    exact patient rfl due.pending
  | welcomes guest =>
    -- Somebody else who comes is called behind those who are there.
    have held : (app.context.step (.hold (guestName guest))).isAlive listener = true := by
      simp [Context.step, Context.isAlive, running.held]
    exact .inl ((goes (.hold (guestName guest)) (by simp) (by simp)).turn
      (Context.step_turn _ (.subscribe (guestName guest))) running.subscribed held (by simp)
      (by simp))
  | dismisses guest => exact .inl (goes (.drop (guestName guest)) (by simp) (by simp))
  | reloads => exact .inl (goes (.request app.refreshes) (by simp) (by simp))

/-- Every build has read the shelf as it stands, comes too late, or there is a reload due. -/
def Shelved (app : App) (tasks : List Nat) : Prop :=
  ∀ build work, app.factory.builds[build]? = some work →
    work.resource = app.shelf.repository work.id ∨ Factory.Expired app.factory build ∨
      ∃ task ∈ tasks, app.context.Due listener task

/-- Only a reload moves the shelf, and then it is due. -/
theorem Course.shelf (course : Course app event after) :
    after.shelf = app.shelf ∨
      ∃ task ∈ (app.reloadTask? event).toList, after.context.Due listener task := by
  cases course with
  | reloads fresh journal accepted =>
    refine .inr ⟨app.refreshes, ?_, .inl (List.mem_append_right _ (List.mem_singleton_self _))⟩
    simp [reloadTask?, accepted]
  | _ => exact .inl rfl

/-- Along every course builds stay shelved. -/
theorem Running.shelved_course (running : Running app) (course : Course app event after)
    {tasks : List Nat} (shelved : Shelved app tasks)
    (patient : ∀ task ∈ tasks, event = .abort task → ¬app.context.Pending task) :
    Shelved after (tasks ++ (app.reloadTask? event).toList) := by
  intro build work found
  obtain ⟨happens, transition, reads⟩ := course.transition
  have grows := running.sound.grows transition
  -- What has read the shelf as it was has read it as it is, unless the reload is due.
  have fits : work.resource = app.shelf.repository work.id →
      work.resource = after.shelf.repository work.id ∨ Factory.Expired after.factory build ∨
        ∃ task ∈ tasks ++ (app.reloadTask? event).toList, after.context.Due listener task := by
    intro reads
    rcases course.shelf with same | ⟨task, mine, due⟩
    · exact .inl (by rw [same]; exact reads)
    · exact .inr (.inr ⟨task, List.mem_append_right _ mine, due⟩)
  cases before : app.factory.builds[build]? with
  | none =>
    obtain ⟨caller, resource, known, same, here, ids, resources⟩ := transition.begun before found
    exact fits (by rw [resources, ids]; exact reads caller resource known same here)
  | some earlier =>
    obtain ⟨later, there, continues⟩ := grows.builds build earlier before
    rw [found] at there
    cases there
    rcases shelved build earlier before with read | expired | ⟨task, mine, due⟩
    · exact fits (by rw [continues.resource, continues.id]; exact read)
    · exact .inr (.inl (expired.grows grows))
    · rcases running.due_course course due (patient task mine) with still | expired
      · exact .inr (.inr ⟨task, List.mem_append_left _ mine, still⟩)
      · exact .inr (.inl (expired build (Array.getElem?_eq_some_iff.mp before).1))

end Step

/-! ## Every run -/

section Run

variable {app : App}

/-- Over every run without a reload given up, builds stay shelved. -/
theorem Running.shelved (running : Running app) (events : List Event)
    (patient : app.Patient events) (shelved : Shelved app []) :
    Shelved (app.run events) (app.reloads events) := by
  -- The induction is on the last event, since reloads are counted from the start.
  induction events using List.reverseRecOn with
  | nil => exact shelved
  | append_singleton past event ih =>
    have earlier : app.Patient past := fun before task future same mine =>
      patient before task (future ++ [event]) (by simp [same]) mine
    rw [reloads_concat, run_concat]
    refine (running.run past).1.shelved_course (step_course _ event) (ih earlier) ?_
    rintro task mine rfl
    exact patient past task [] rfl mine

/-- A reload that is due stays so over a run, or outdates all builds begun before. -/
theorem Running.due_run (running : Running app) {task first : Nat}
    (known : first ≤ app.factory.builds.size)
    (due : app.context.Due listener task ∨ ∀ build < first, Factory.Expired app.factory build)
    (events : List Event) (patient : ∀ past future, events = past ++ .abort task :: future →
      ¬(app.run past).context.Pending task) :
    (app.run events).context.Due listener task ∨
      ∀ build < first, Factory.Expired (app.run events).factory build := by
  induction events generalizing app with
  | nil => exact due
  | cons event rest ih =>
    have course := step_course app event
    obtain ⟨happens, transition, _⟩ := course.transition
    have grows := running.sound.grows transition
    refine ih (running.course course) ?_ ?_ fun past future same =>
      patient (event :: past) future (by rw [same]; rfl)
    · exact Nat.le_trans known grows.builds.size_le
    · rcases due with due | expired
      · have given : event = .abort task → ¬app.context.Pending task := by
          rintro rfl
          exact patient [] rest rfl
        rcases running.due_course course due given with still | expired
        · exact .inl still
        · exact .inr fun build earlier => expired build (Nat.lt_of_lt_of_le earlier known)
      · exact .inr fun build earlier => (expired build earlier).grows grows

/--
The root that repositories are served from follows the settings, over every run of a server.

The shelf stands where the settings say, whatever the spelling.
When no reload is under way, every cached repository lies on the shelf, under its identifier.
Builds begun before a reload are not cached any more once it has come to its end.
-/
theorem root_follows_settings {path : String} {config : Config} {start : App}
    (created : create path config = .ok start) (events : List Event)
    (patient : start.Patient events) :
    FilePath.same (start.run events).shelf.root (start.run events).config.reposPath = true ∧
      ((∀ task ∈ start.reloads events, ¬(start.run events).context.Pending task) →
        ∀ id build, (id, build) ∈ (start.run events).factory.cache.toList →
          ∃ work, (start.run events).factory.builds[build]? = some work ∧
            work.resource.id = id ∧
              work.resource.path = FilePath.join (start.run events).shelf.root id.text) ∧
      ∀ past files middle rest task, events = past ++ .reload files :: (middle ++ rest) →
        ((start.run past).beginReload files).1 = .ok task →
          ¬(start.run (past ++ .reload files :: middle)).context.Pending task →
            ∀ id, ∀ build < (start.run past).factory.builds.size,
              (id, build) ∉ (start.run events).factory.cache.toList := by
  obtain ⟨running, blank⟩ := create_running created
  obtain ⟨now, _⟩ := running.run events
  refine ⟨now.placed, ?_, ?_⟩
  · intro quiet id build entry
    obtain ⟨_, work, _, found, ids, _⟩ := now.sound.kept.cached entry
    have shelved := running.shelved events patient fun build work found => by simp [blank] at found
    -- No build that is cached comes too late, and no reload is due.
    rcases shelved build work found with read | expired | ⟨task, mine, due⟩
    · exact ⟨work, found, by rw [read, ids]; rfl, by rw [read, ids]; rfl⟩
    · exact absurd entry (expired.not_cached now.sound.kept id)
    · exact absurd due.pending (quiet task mine)
  · rintro past files middle rest task rfl accepted ended id build earlier
    have before := (running.run past).1
    have course := step_course (start.run past) (.reload files)
    obtain ⟨happens, transition, _⟩ := course.transition
    have known := (before.sound.grows transition).builds.size_le
    have later : ∀ events, ((start.run past).step (.reload files)).run events =
        start.run (past ++ .reload files :: events) :=
      fun events => (run_append start past (.reload files :: events)).symm
    -- The reload has been due until a callback outdated what had been built before it.
    have replaced := (before.course course).due_run known (.inl (reload_due accepted)) middle
      fun early late same => by
        rw [later]
        refine patient (past ++ .reload files :: early) task (late ++ rest) (by simp [same]) ?_
        rw [reloads_append, reloads, reloadTask?, accepted]
        simp
    rw [later] at replaced
    have expired := replaced.resolve_left fun due => ended due.pending
    have whole : start.run (past ++ .reload files :: (middle ++ rest)) =
        (start.run (past ++ .reload files :: middle)).run rest := by
      rw [← run_append]
      simp
    rw [whole] at now ⊢
    have grows := ((running.run (past ++ .reload files :: middle)).1.run rest).2
    exact ((expired build earlier).grows grows).not_cached now.sound.kept id

/-! ## A reload during a build -/

/-- A machine whose settings file asks for the shelf to be moved. -/
def moved : FileSystem :=
  FileSystem.fresh.put ["tmp", "work", "config.yaml"]
    (.file (Text.Utf8.encode "storage:\n  repos_path: /new\n"))

/-- A machine whose settings file has the given text. -/
def written (text : String) : FileSystem :=
  FileSystem.fresh.put ["tmp", "work", "config.yaml"] (.file (Text.Utf8.encode text))

/-- The settings of such a machine are those that the text spells. -/
theorem load_written {text : String} {config : Config}
    (decoded : Text.Utf8.decodeString? (Text.Utf8.encode text) = some text)
    (parsed : (Config.parse text).toOption = some config) :
    Config.load (written text) "config.yaml" = .ok config := by
  have located : (written text).locate "config.yaml" = .ok ["tmp", "work", "config.yaml"] := by
    unfold FileSystem.locate
    rw [if_neg (by simp), if_neg (by decide), if_neg (by decide +kernel)]
    rfl
  have bytes : (written text).read "config.yaml" = .ok (Text.Utf8.encode text) := by
    unfold FileSystem.read FileSystem.metadata
    rw [located]
    rfl
  have read : (written text).readText "config.yaml" = .ok text := by
    simp only [FileSystem.readText, bytes, bind, Except.bind, decoded, pure, Except.pure]
  -- The text yields settings, so it yields no error.
  cases yields : Config.parse text with
  | error error =>
    rw [yields] at parsed
    cases parsed
  | ok found =>
    rw [yields] at parsed
    cases parsed
    simp only [Config.load, read, yields]

/-- The settings of the machine whose shelf is to be moved. -/
theorem load_moved : Config.load moved "config.yaml" = .ok { reposPath := "/new" } :=
  load_written (by decide +kernel) (by decide +kernel)

/-- The build ends while the reload is under way; the lookup builds once more. -/
def renewal : List Event :=
  [.proceed 0, .proceed 0, .finish 0 .ready, .deliver 0, .proceed 0, .advance 0, .advance 0,
    .advance 0, .finish 0 .ready, .advance 0]

open Evaluation Factory.Evaluation in
/-- A lookup that a reload comes in between is answered from the new shelf. -/
theorem root_follows_settings_moved :
    ∃ start : App, create "config.yaml" { reposPath := "/old" } = .ok start ∧
      let events := underway ⟨"a.git"⟩ ++ .reload moved :: renewal
      start.Patient events ∧ (start.run (underway ⟨"a.git"⟩)).factory.builds.size = 1 ∧
      (⟨"a.git"⟩, 1) ∈ (start.run events).factory.cache.toList ∧
      (∃ work, (start.run events).factory.builds[1]? = some work ∧
        work.resource.path = "/new/a.git") ∧
      ∀ id, (id, 0) ∉ (start.run events).factory.cache.toList := by
  obtain ⟨start, created⟩ :
      ∃ start : App, create "config.yaml" { reposPath := "/old" } = .ok start := ⟨_, rfl⟩
  refine ⟨start, created, ?_⟩
  intro events
  have patient : start.Patient events := by
    intro past task future same
    have given : Event.abort task ∈ events := by simp [same]
    simp [events, underway, renewal] at given
  obtain ⟨_, served, replaced⟩ := root_follows_settings created events patient
  obtain ⟨_, began⟩ := run_underway created ⟨"a.git"⟩
  have before : (start.run (underway ⟨"a.git"⟩)).factory.builds.size = 1 ∧
      ((start.run (underway ⟨"a.git"⟩)).beginReload moved).1 = .ok 0 := by
    rw [began]
    cases created
    simp [load_moved]
  have after : (start.run events).factory.cache.toList = [(⟨"a.git"⟩, 1)] ∧
      (start.run events).context.waiting = [] ∧ (start.run events).context.delivery = none ∧
      (start.run events).shelf.root = "/new" := by
    have apart : FilePath.same "/old" "/new" = false := by decide +kernel
    simp only [events]
    rw [run_append, began]
    cases created
    simp [renewal, load_moved, apart]
  obtain ⟨size, accepted⟩ := before
  obtain ⟨cached, waiting, delivery, root⟩ := after
  have ended (task : Nat) : ¬(start.run events).context.Pending task := by
    rw [Context.Pending, waiting, delivery]
    simp
  have entry : (⟨"a.git"⟩, 1) ∈ (start.run events).factory.cache.toList := by
    rw [cached]
    exact List.mem_singleton_self _
  obtain ⟨work, found, _, place⟩ := served (fun task _ => ended task) _ _ entry
  refine ⟨patient, size, entry, ⟨work, found, ?_⟩, fun id => ?_⟩
  · rw [place, root]
    decide +kernel
  · exact replaced (underway ⟨"a.git"⟩) moved renewal [] 0 (by rw [List.append_nil]) accepted
      (ended 0)
      id 0 (by rw [size]; exact Nat.zero_lt_one)

end Run

end App

end PackGate
