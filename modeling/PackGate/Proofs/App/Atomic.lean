import PackGate.App.Sequential
import PackGate.Proofs.App.Reload
import PackGate.Proofs.App.Standing
import PackGate.Proofs.Context.Alone

/-! A reload that nothing comes in between takes all of the other settings over, or nothing. -/

namespace PackGate

namespace Context

variable {context : Context} {task : Nat}

/-- While an event is on its way its refresh has not come to its end. -/
theorem midway_notified? (called : Nat) (inside : Bool) :
    (context.midway task called inside).notified? task = context.notified? task :=
  rfl

/-- After its event a refresh has notified all listeners that were alive. -/
theorem refreshed_notified? (unnotified : context.notified? task = none) :
    (context.refreshed task).notified? task = some context.live.length := by
  unfold notified? at unnotified ⊢
  simp [refreshed, List.lookup_append, unnotified]

end Context

namespace App

/-! ## A refresh alone -/

/-- A refresh that has come to its end goes no further. -/
theorem complete_ended {app : App} {task : Nat} (ended : (app.context.notified? task).isSome = true)
    (limit : Nat) : complete task limit app = app := by
  cases limit with
  | zero => rfl
  | succ limit => rw [complete, if_pos ended]

/-- A refresh of which no callback is under way proceeds. -/
theorem complete_proceeds {app : App} {task : Nat} (going : app.context.notified? task = none)
    (outside : app.context.delivery.any (·.inside) = false) (limit : Nat) :
    complete task (limit + 1) app = complete task limit (app.proceed task) := by
  rw [complete, going, outside]
  rfl

/-- The callback of a refresh that is under way is delivered. -/
theorem complete_delivers {app : App} {task : Nat} (going : app.context.notified? task = none)
    (inside : app.context.delivery.any (·.inside) = true) (limit : Nat) :
    complete task (limit + 1) app = complete task limit (app.deliver task) := by
  rw [complete, going, inside]
  rfl

variable {app : App} {context : Context} {task called : Nat}

/-- A refresh that comes to no end with its next stretch logs nothing. -/
theorem proceed_quiet (going : app.context.notified? task = none)
    (still : (app.context.step (.proceed task)).notified? task = none) :
    app.proceed task = { app with context := app.context.step (.proceed task) } := by
  unfold App.proceed
  dsimp only
  rw [going, still]
  rfl

/-- A callback of a refresh empties the cache if it is the factory's own. -/
theorem round_midway {name : Nat} (unnotified : context.notified? task = none)
    (here : app.context = context.midway task called false)
    (next : context.live[called]? = some name) (limit : Nat) :
    complete task (limit + 2) app = complete task limit
      { app with
        context := context.midway task (called + 1) false
        factory := app.factory.run (List.replicate ([name].count listener) .invalidate) } := by
  obtain ⟨more, _⟩ := List.getElem?_eq_some_iff.mp next
  have going : app.context.notified? task = none := by
    rw [here, Context.midway_notified?, unnotified]
  -- The callback begins in one stretch, and does its work and ends in the next.
  have calls : app.context.step (.proceed task) = context.midway task (called + 1) true := by
    rw [here, Context.midway_calls more]
  have begun : app.proceed task =
      { app with context := context.midway task (called + 1) true } := by
    rw [proceed_quiet going (by rw [calls]; exact unnotified), calls]
  rw [complete_proceeds going (by rw [here]; rfl), begun,
    complete_delivers (by exact unnotified) rfl]
  -- The callback under way is that of the next listener.
  have waits : (context.midway task (called + 1) true).current? task = some name := by
    simp [Context.midway, Context.current?, Context.Delivery.current?, next]
  unfold deliver
  dsimp only
  rw [waits]
  dsimp only
  rw [Context.midway_answers]
  by_cases mine : name = listener
  · rw [if_pos mine, mine, List.count_singleton_self]
    rfl
  · rw [if_neg mine, List.count_singleton, if_neg (by simpa using mine)]
    rfl

/-- After its last callback a refresh comes to its end, which is logged. -/
theorem last_midway (unnotified : context.notified? task = none)
    (here : app.context = context.midway task context.live.length false) (limit : Nat) :
    complete task (limit + 1) app =
      { app with context := context.refreshed task }.note
        (.info "execution context refreshed") := by
  have going : app.context.notified? task = none := by
    rw [here, Context.midway_notified?, unnotified]
  have ends : app.context.step (.proceed task) = context.refreshed task := by
    rw [here, Context.midway_finishes]
  have ended : app.proceed task = { app with context := context.refreshed task }.note
      (.info "execution context refreshed") := by
    unfold App.proceed
    dsimp only
    rw [going, ends, Context.refreshed_notified? unnotified]
    rfl
  rw [complete_proceeds going (by rw [here]; rfl), ended]
  refine complete_ended ?_ limit
  show ((context.refreshed task).notified? task).isSome = true
  rw [Context.refreshed_notified? unnotified]
  rfl

/-- A refresh that is alone empties the cache once for each callback of the factory that is left. -/
theorem complete_midway (unnotified : context.notified? task = none) (names : List Nat)
    (here : app.context = context.midway task called false)
    (remain : context.live.drop called = names) (known : called ≤ context.live.length)
    (spare : Nat) :
    complete task (2 * names.length + 1 + spare) app =
      { app with
        context := context.refreshed task
        factory :=
          app.factory.run (List.replicate (names.count listener) .invalidate) }.note
            (.info "execution context refreshed") := by
  -- On the callbacks that are left, two stretches for each, and one stretch for the end.
  induction names generalizing app called with
  | nil =>
    obtain rfl : called = context.live.length :=
      Nat.le_antisymm known (List.drop_eq_nil_iff.mp remain)
    -- All callbacks have ended, and one stretch is left.
    rw [List.length_nil, Nat.mul_zero, Nat.zero_add, Nat.add_comm]
    exact last_midway unnotified here spare
  | cons name rest ih =>
    -- The first callback takes two stretches, and the others find the source one further.
    have next : context.live[called]? = some name := by
      rw [← List.head?_drop, remain, List.head?_cons]
    have others : context.live.drop (called + 1) = rest := by
      rw [← List.drop_drop, remain]
      rfl
    obtain ⟨more, _⟩ := List.getElem?_eq_some_iff.mp next
    have limit : 2 * (name :: rest).length + 1 + spare = 2 * rest.length + 1 + spare + 2 := by
      simp only [List.length_cons]
      omega
    have count : (name :: rest).count listener = [name].count listener + rest.count listener := by
      rw [← List.count_append, List.singleton_append]
    rw [limit, round_midway unnotified here next, ih rfl others more, count,
      List.replicate_add, Factory.run_append]

/-! ## A reload alone -/

section Reach

variable {path : String} {config : Config}

namespace Standing

/-- The factory is among the listeners that are alive. -/
theorem attached (standing : Standing path config app) :
    0 < app.context.live.count listener := by
  refine List.count_pos_iff.mpr (List.mem_filter.mpr ⟨standing.subscribed, ?_⟩)
  simp [Context.isAlive, standing.held]

/-- A refresh that nothing comes in between empties the cache once for each attachment. -/
theorem concludes (standing : Standing path config app) (idle : app.context.Idle) :
    app.request.2.conclude app.refreshes = (app.context.live.length,
      { app with
        refreshes := app.refreshes + 1
        context := app.context.refreshed app.refreshes
        factory := app.factory.run
          (List.replicate (app.context.live.count listener) .invalidate) }.note
            (.info "execution context refreshed")) := by
  have unnotified := standing.below.unnotified
  have starts : app.request.2.context.step (.proceed app.refreshes) =
      app.context.midway app.refreshes 0 false :=
    idle.starts app.refreshes
  have going : app.request.2.context.notified? app.refreshes = none := unnotified
  have outside : app.request.2.context.delivery.any (·.inside) = false := by
    have none : app.request.2.context.delivery = none := idle.delivery
    rw [none]
    rfl
  -- There are as many stretches as are needed, and more for subscriptions that have died.
  obtain ⟨spare, enough⟩ : ∃ spare, app.request.2.stretches =
      2 * app.context.live.length + 1 + spare + 1 := by
    have fewer : app.context.live.length ≤ app.context.subscriptions.length :=
      List.length_filter_le _ _
    have total : app.request.2.stretches = 2 * app.context.subscriptions.length + 2 := rfl
    exact ⟨2 * (app.context.subscriptions.length - app.context.live.length), by omega⟩
  have begun : app.request.2.proceed app.refreshes =
      { app.request.2 with context := app.context.midway app.refreshes 0 false } := by
    rw [proceed_quiet going (by rw [starts]; exact unnotified), starts]
  rw [conclude, enough, complete_proceeds going outside, begun,
    complete_midway unnotified app.context.live rfl rfl (Nat.zero_le _)]
  -- The answer is read off the refreshes that have come to their end.
  refine Prod.ext ?_ rfl
  show ((app.context.refreshed app.refreshes).notified? app.refreshes).getD 0 = _
  rw [Context.refreshed_notified? unnotified]
  rfl

end Standing

/-- Reloading leads from one state to another that a server can come to. -/
theorem Reached.reload (reached : Reached path config app) (files : FileSystem) :
    Reached path config (app.reload files).2 := by
  have completed (task limit : Nat) {app : App} (reached : Reached path config app) :
      Reached path config (complete task limit app) := by
    induction limit generalizing app with
    | zero => exact reached
    | succ limit ih =>
      rw [complete]
      split
      · exact reached
      split
      · exact ih (reached.step (.deliver task))
      · exact ih (reached.step (.proceed task))
  -- A reload is its first step, the stretches of its refresh, and a record in the log.
  have begun := reached.step (.reload files)
  unfold App.reload
  cases asked : app.beginReload files with
  | mk result next =>
    have same : app.step (.reload files) = next := congrArg Prod.snd asked
    rw [same] at begun
    cases result with
    | error error => exact begun
    | ok task =>
      have done := completed task next.stretches begun
      exact done.serve _ _ _

/-! ## All or nothing -/

/-- All that hangs on the settings has changed over to others. -/
structure Reloaded (app after : App) (fresh : Config) : Prop where
  /-- The settings are the other ones. -/
  config : after.config = fresh
  /-- Repositories are opened from where they say, whatever the spelling. -/
  root : FilePath.same after.shelf.root fresh.reposPath = true
  /-- One more event has started. -/
  epoch : after.context.epoch = app.context.epoch + 1
  /-- It is over. -/
  phase : after.context.phase = .active
  /-- A factory that is shut down is as it was, but for its log. -/
  closed : app.factory.phase = .shutdown →
    ∃ journal, after.factory = { app.factory with journal }
  /-- Any other factory has been emptied under a new generation for each live attachment. -/
  emptied : app.factory.phase ≠ .shutdown →
    app.factory.Emptied after.factory (app.context.live.count listener)
  /-- Every repository that was cached has been released once, and no other one. -/
  released : app.factory.phase ≠ .shutdown → ∀ build,
    after.factory.releases build = app.factory.releases build +
      if build ∈ app.factory.cache.toList.map (·.2) then 1 else 0

/-- Taking other settings over changes shelf and log besides. -/
theorem adopt_eq (app : App) (fresh : Config) :
    ∃ journal, app.adopt fresh = { app with
      config := fresh
      shelf := app.shelf.move fresh.reposPath
      factory := { app.factory with journal } } := by
  refine ⟨app.factory.journal ++
    (changeNotices app.config fresh ++ app.shelf.moveNotices fresh.reposPath), ?_⟩
  simp only [adopt, foldl_note]

/-- Settings that can be read are taken over as a whole. -/
theorem Standing.reloads (standing : Standing path config app) (idle : app.context.Idle)
    {files : FileSystem} {fresh : Config} (loaded : Config.load files app.configPath = .ok fresh) :
    (app.reload files).1 = .ok app.context.live.length ∧
      Reloaded app (app.reload files).2 fresh := by
  obtain ⟨journal, adopted⟩ := app.adopt_eq fresh
  -- The refresh starts from the settings, the shelf and the log that have been taken over.
  have next : Standing path config (app.adopt fresh) := by
    rw [adopted]
    exact { standing with filed := standing.filed.noted _ journal _ }
  have concluded := next.concludes (by rw [adopted]; exact idle)
  have begun : app.beginReload files =
      (.ok (app.adopt fresh).refreshes, (app.adopt fresh).request.2) := by
    simp only [beginReload, loaded]
    rfl
  rw [App.reload, begun]
  dsimp only
  rw [concluded, adopted]
  -- What the callbacks do to the factory does not depend on its log.
  have filed : Factory.Filed { app.factory with journal } := standing.filed.noted _ journal _
  have some := standing.attached
  refine ⟨rfl, ⟨rfl, same_move app.shelf fresh.reposPath, rfl, rfl, ?_, ?_, ?_⟩⟩
  · intro shut
    have still : Factory.run { app.factory with journal }
        (List.replicate (app.context.live.count listener) .invalidate) =
          { app.factory with journal } :=
      Factory.run_invalidates_shut (by exact shut) _
    dsimp only [App.note]
    rw [still]
    exact ⟨_, rfl⟩
  · intro runs
    have emptied := filed.empties runs some
    exact ⟨emptied.phase, emptied.generation, emptied.empty, emptied.released⟩
  · intro runs build
    have emptied := filed.empties runs some
    exact filed.releases_emptied emptied build

/-- Capacity and budget of the factory are those of some settings. -/
def Sized (app : App) (config : Config) : Prop :=
  app.factory.stats.capacity = config.cache.maxSize.toNat ∧
    app.factory.budget = config.cache.budget

/--
A reload takes all of the other settings over, or it changes nothing at all.

Capacity and budget stay those of the start in either case.
-/
theorem reload_all_or_nothing (reached : Reached path config app) (idle : app.context.Idle)
    (files : FileSystem) :
    (match Config.load files path with
      | .error error => app.reload files = (.error error, app)
      | .ok fresh => (app.reload files).1 = .ok app.context.live.length ∧
          Reloaded app (app.reload files).2 fresh) ∧
      app.Sized config ∧ (app.reload files).2.Sized config := by
  have standing := reached.standing
  have later := (reached.reload files).standing
  refine ⟨?_, ⟨standing.capacity, standing.budget⟩, later.capacity, later.budget⟩
  rw [← standing.path]
  cases loaded : Config.load files app.configPath with
  | error error => simp only [App.reload, beginReload, loaded]
  | ok fresh => exact standing.reloads idle loaded

/-- A lookup that has the repository cached at its end, and somebody else who listens. -/
def caching : List Event :=
  underway ⟨"a.git"⟩ ++ [.finish 0 .ready, .advance 0, .welcome 0]

/-- A new machine has no settings. -/
theorem load_fresh :
    Config.load .fresh "config.yaml" = .error (.unreadable "config.yaml" .notFound) := by
  have located : FileSystem.fresh.locate "config.yaml" = .error .notFound := by
    unfold FileSystem.locate
    rw [if_neg (by simp), if_neg (by decide), if_neg (by decide +kernel)]
    rfl
  have text : FileSystem.fresh.readText "config.yaml" = .error .notFound := by
    unfold FileSystem.readText FileSystem.read FileSystem.metadata
    rw [located]
    rfl
  rw [Config.load, text]

open Evaluation Factory.Evaluation in
/-- A factory that listens twice is emptied under two new generations, or stays as it is. -/
theorem reload_all_or_nothing_twice :
    ∃ app : App, Reached "config.yaml" { reposPath := "/old" } app ∧ app.context.Idle ∧
      app.factory.cache.toList = [(⟨"a.git"⟩, 0)] ∧
      (app.reload moved).1 = .ok 3 ∧ (app.reload moved).2.config = { reposPath := "/new" } ∧
      (app.reload moved).2.factory.generation = 2 ∧
      (app.reload moved).2.factory.cache.toList = [] ∧
      (app.reload moved).2.factory.releases 0 = 1 ∧
      ∃ error, app.reload .fresh = (.error error, app) := by
  obtain ⟨start, created⟩ :
      ∃ start : App, create "config.yaml" { reposPath := "/old" } = .ok start := ⟨_, rfl⟩
  have reached : Reached "config.yaml" { reposPath := "/old" } (start.run caching).attach :=
    ((Reached.create created).run caching).attach
  obtain ⟨_, began⟩ := run_underway created ⟨"a.git"⟩
  have state : (start.run caching).attach.factory.cache.toList = [(⟨"a.git"⟩, 0)] ∧
      (start.run caching).attach.context.waiting = [] ∧
      (start.run caching).attach.context.delivery = none ∧
      (start.run caching).attach.context.live = [listener, guestName 0, listener] ∧
      (start.run caching).attach.factory.phase = .active ∧
      (start.run caching).attach.factory.generation = 0 ∧
      (start.run caching).attach.factory.released = [] := by
    rw [caching, run_append, began]
    cases created
    simp [Context.live]
  generalize (start.run caching).attach = app at reached state
  obtain ⟨cached, waiting, delivery, live, phase, generation, released⟩ := state
  have idle : app.context.Idle := ⟨waiting, delivery⟩
  have turned := (reload_all_or_nothing reached idle moved).1
  have failed := (reload_all_or_nothing reached idle .fresh).1
  rw [load_moved] at turned
  obtain ⟨answer, reloaded⟩ := turned
  have runs : app.factory.phase ≠ .shutdown := by simp [phase]
  have emptied := reloaded.emptied runs
  rw [live] at answer emptied
  rw [load_fresh] at failed
  refine ⟨app, reached, idle, cached, answer, reloaded.config, ?_, emptied.empty, ?_, _, failed⟩
  · rw [emptied.generation, generation]
    rfl
  · rw [reloaded.released runs, cached, Factory.releases, released]
    rfl

end Reach

end App

end PackGate
