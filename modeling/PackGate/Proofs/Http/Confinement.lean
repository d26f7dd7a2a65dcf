import PackGate.Proofs.Factory.Stock
import PackGate.Proofs.Http.Routing
import PackGate.Proofs.Path.Confinement

/-! Git is only ever started on what lies directly under a root, in every run of a server. -/

namespace PackGate

/-- A process is one that reads the repository at a place. -/
def Git.Launch.ReadsAt (launch : Git.Launch) (place : String) : Prop :=
  launch = Git.advertising place ∨ ∃ request, launch = Git.uploading place request

namespace Http

open Factory (Works Stock rootsRead)

variable {app after : App} {roots : List String}

/-! ## Requests -/

/--
All that can become of a server at once, with its shelf standing still.

Git is started on one place at most, where the repository lies that a caller was served with.
-/
structure Attends (app after : App) : Prop where
  /-- Builds that begin read the shelf. -/
  works : Works app.shelf app.factory after.factory
  /-- A process that is started reads the repository that the path of a request names. -/
  launches : after.launches = app.launches ∨
    ∃ (path : String) (id : Identifier) (caller build : Nat) (launch : Git.Launch),
      resolve (some path) = .ok id ∧ after.factory.callers[caller]? = some ⟨id, .served build⟩ ∧
        launch.ReadsAt (after.repositoryPath build) ∧ after.launches = app.launches ++ [launch]

/-- A request may leave all but the log as it is. -/
theorem Undisturbed.attends (undisturbed : Undisturbed app after) : Attends app after := by
  -- The log is neither a build nor a process.
  obtain ⟨journal, same⟩ := undisturbed
  rw [same]
  exact ⟨Works.refl.noted app.factory.metrics journal, .inl rfl⟩

/-- Or it may change nothing at all. -/
theorem Attends.refl (app : App) : Attends app app :=
  Undisturbed.attends ⟨app.factory.journal, rfl⟩

/-- Opening a repository makes builds read the shelf. -/
theorem works_open (app : App) (files : FileSystem) (path : String) :
    Works app.shelf app.factory (app.openRepository files path).2.factory := by
  unfold App.openRepository
  split
  · exact .refl
  · rename_i id _
    have once : Works app.shelf app.factory (app.get files id).2.factory :=
      Factory.works_get app.shelf app.factory files id
    -- The shelf is the same for the second lookup, which is made if the handle came released.
    have shelf : (app.get files id).2.shelf = app.shelf := rfl
    generalize app.get files id = reply at once shelf ⊢
    obtain ⟨answer, next⟩ := reply
    rcases answer with _ | error | build
    · exact once
    · exact once
    · dsimp only
      split
      · have again : Works next.shelf next.factory (next.get files id).2.factory :=
          Factory.works_get next.shelf next.factory files id
        have same : next.shelf = app.shelf := shelf
        rw [same] at again
        exact once.trans again
      · exact once

/-- The process of an errand reads the repository in its place. -/
theorem Errand.process_readsAt (errand : Errand) (place : String) :
    (errand.process place).ReadsAt place := by
  -- Each of the two processes names the place once, as its last argument.
  cases errand with
  | refs => exact .inl rfl
  | objects content => exact .inr ⟨content, rfl⟩

/-- A request goes no further than the repository that it has opened. -/
theorem conclude_attends (host : Host) (errand : Errand) {path : String} {id : Identifier}
    (resolved : resolve (some path) = .ok id) {opened : App}
    (works : Works app.shelf app.factory opened.factory)
    (idle : opened.launches = app.launches) {answer : Except FactoryError Nat}
    (served : ∀ build, answer = .ok build →
      ∃ caller : Nat, opened.factory.callers[caller]? = some ⟨id, .served build⟩) :
    Attends app (errand.conclude host opened answer).2 := by
  cases answer with
  | error error =>
    -- A request that could not open its repository fails, and starts nothing.
    obtain ⟨journal, same⟩ := fail_undisturbed opened (.factory error)
    rw [Errand.conclude, same]
    exact ⟨works.noted opened.factory.metrics journal, .inl idle⟩
  | ok build =>
    -- Git is started where the repository lies that the caller was served with.
    obtain ⟨caller, here⟩ := served build rfl
    obtain ⟨_, journal, same⟩ := errand.run_launches host opened build
    rw [Errand.conclude, same]
    refine ⟨works.noted opened.factory.metrics journal, .inr ⟨path, id, caller, build, _, resolved,
      here, errand.process_readsAt _, ?_⟩⟩
    exact congrArg (· ++ _) idle

/-- A request is turned down, or opens the repository that its path names. -/
theorem follow_attends (host : Host) (app : App) (path : String) (errand : Errand)
    (decision : Decision) : Attends app (follow host app path errand decision).2 := by
  cases refused : decision.refusal? with
  | some status =>
    -- Turning a request down touches nothing but the log.
    obtain ⟨response, after, turned, _, undisturbed⟩ := Decision.turnDown?_refused app path refused
    rw [follow, turned]
    exact undisturbed.attends
  | none =>
    have serves : decision = .serve := by
      cases decision <;> first | rfl | cases refused
    subst serves
    -- Counting the request comes first, and the log last.
    have counted : Works app.shelf app.factory
        (app.count (·.countRequest errand.label)).factory :=
      Works.refl.noted _ app.factory.journal
    have works := counted.trans
      (works_open (app.count (·.countRequest errand.label)) host.files path)
    unfold follow
    dsimp only [Decision.turnDown?]
    cases resolved : resolve (some path) with
    | error error =>
      -- Where the path names nothing, the request fails without a lookup.
      unfold App.openRepository
      rw [resolved]
      obtain ⟨journal, same⟩ :=
        fail_undisturbed (app.count (·.countRequest errand.label)) (.factory error)
      dsimp only
      rw [Errand.conclude, same]
      exact ⟨counted.noted _ journal, .inl rfl⟩
    | ok id =>
      have idle := App.Opening.openRepository_launches
        (app.count (·.countRequest errand.label)) host.files resolved
      have served {build : Nat} := @App.Opening.openRepository_served
        (app.count (·.countRequest errand.label)) host.files path id resolved build
      generalize (app.count (·.countRequest errand.label)).openRepository host.files path = reply
        at works idle served ⊢
      obtain ⟨answer, next⟩ := reply
      cases answer with
      | none => exact ⟨works, .inl idle⟩
      | some answer =>
        -- With an answer the request comes to its end at once.
        exact conclude_attends host errand resolved works idle fun build same =>
          served (congrArg some same)

/-- A request that waits for a lookup of what its path names, and goes on. -/
def resume (host : Host) (app : App) (path : String) (errand : Errand) (caller : Nat)
    (traded : Bool) : App :=
  match resolve (some path) with
  | .error _ => app
  | .ok id =>
    if app.factory.asked[caller]? = some id then
      let stage := if traded then .trading caller else .looking id caller
      (Exchange.settle host errand (App.Opening.resume { app, stage })).app
    else app

/-- Wherever it waits, it asks once more, waits on, or comes to what the lookup comes to. -/
theorem resume_attends (host : Host) (app : App) (path : String) (errand : Errand) (caller : Nat)
    (traded : Bool) : Attends app (resume host app path errand caller traded) := by
  unfold resume
  split
  · exact .refl app
  rename_i id resolved
  split
  · rename_i asks
    dsimp only
    generalize staged : (if traded then App.Opening.Stage.trading caller
      else .looking id caller) = stage
    have waits : stage.caller? = some caller := by
      rw [← staged]
      cases traded <;> rfl
    rcases @App.Opening.resume_cases { app, stage } caller waits with ⟨name, asked⟩ | ⟨same, ends⟩
    · -- A second lookup is one more caller, and that is all.
      rw [asked]
      exact ⟨.step .refl (Factory.step_transition app.factory (.call name))
        (by simp [Factory.Reads]), .inl rfl⟩
    · generalize App.Opening.resume { app, stage } = last at same ends ⊢
      obtain ⟨next, stage, lookups⟩ := last
      cases same
      cases stage with
      | looking | trading | dropped => exact .refl app
      | done answer =>
        exact conclude_attends host errand resolved .refl rfl fun build answered =>
          ⟨caller, Factory.caller_of_stage asks (ends build (by rw [answered]))⟩
  · exact .refl app

/-- Where a refresh that is alone runs to its end, no build begins and no process is started. -/
theorem complete_works (shelf : Shelf) (task limit : Nat) (app : App) :
    Works shelf app.factory (App.complete task limit app).factory ∧
      (App.complete task limit app).launches = app.launches := by
  -- The induction is on the stretches that are left, each a callback or the way to the next one.
  induction limit generalizing app with
  | zero => exact ⟨.refl, rfl⟩
  | succ limit ih =>
    have delivers : Works shelf app.factory (app.deliver task).factory ∧
        (app.deliver task).launches = app.launches := by
      unfold App.deliver
      split
      · exact ⟨.refl, rfl⟩
      · -- Only the callback of the factory has to do with the cache.
        dsimp only
        split
        · exact ⟨.step .refl (Factory.step_transition app.factory .invalidate)
            (by simp [Factory.Reads]), rfl⟩
        · exact ⟨.refl, rfl⟩
    have proceeds : Works shelf app.factory (app.proceed task).factory ∧
        (app.proceed task).launches = app.launches := by
      unfold App.proceed
      dsimp only
      split
      · exact ⟨Works.refl.noted app.factory.metrics _, rfl⟩
      · exact ⟨.refl, rfl⟩
    rw [App.complete]
    split
    · exact ⟨.refl, rfl⟩
    split
    · obtain ⟨works, same⟩ := ih (app.deliver task)
      exact ⟨delivers.1.trans works, same.trans delivers.2⟩
    · obtain ⟨works, same⟩ := ih (app.proceed task)
      exact ⟨proceeds.1.trans works, same.trans proceeds.2⟩

/-- A request to reload the settings begins no build and starts no process. -/
theorem reload_attends (host : Host) (app : App) : Attends app (reload host app).2 := by
  unfold reload App.reload App.beginReload
  cases loaded : Config.load host.files app.configPath with
  | error error => exact (fail_undisturbed app _).attends
  | ok fresh =>
    -- Taking the settings over is told in the log, and then the refresh is under way.
    have adopted : Works app.shelf app.factory (app.adopt fresh).request.2.factory := by
      simp only [App.adopt, App.foldl_note, App.request]
      exact Works.refl.noted app.factory.metrics _
    have begun : (app.adopt fresh).request.2.launches = app.launches := by
      simp only [App.adopt, App.foldl_note, App.request]
    dsimp only [App.conclude]
    generalize (app.adopt fresh).request = asked at adopted begun ⊢
    obtain ⟨task, next⟩ := asked
    obtain ⟨works, same⟩ := complete_works app.shelf task next.stretches next
    exact ⟨(adopted.trans works).noted _ _, .inl (same.trans begun)⟩

/-- Every request does no more than that. -/
theorem respond_attends (host : Host) (app : App) (request : Request) :
    Attends app (respond host app request).2 := by
  -- Sending the answer changes nothing more, and of all places only two change anything.
  unfold respond
  dsimp only
  split
  · exact .refl app
  split
  · exact .refl app
  show Attends app (answer host app request (Place.ofPath request.uri.path)).2
  cases Place.ofPath request.uri.path with
  | health => exact .refl app
  | metrics => exact .refl app
  | reload => exact reload_attends host app
  | nowhere => exact .refl app
  | repository written =>
    show Attends app (visit host app request written).2
    unfold visit
    split
    · exact .refl app
    split
    · split
      · exact .refl app
      · exact follow_attends host app _ (.objects request.body) _
    · split
      · exact .refl app
      · exact follow_attends host app _ .refs _

/-! ## Runs -/

/-- What a server meets with. -/
inductive Happening where
  /-- Something happens in it. -/
  | event (event : App.Event)
  /-- A request comes and is answered before anything else happens, unless it has to wait. -/
  | request (host : Host) (request : Request)
  /-- A request goes on that waits for its first lookup, or for its second one. -/
  | resume (host : Host) (path : String) (errand : Errand) (caller : Nat) (traded : Bool)

/-- What becomes of a server with what it meets with. -/
def meet (app : App) : Happening → App
  | .event event => app.step event
  | .request host request => (respond host app request).2
  | .resume host path errand caller traded => resume host app path errand caller traded

/-- What becomes of a server over a run. -/
def meetAll (app : App) : List Happening → App
  | [] => app
  | happening :: rest => meetAll (meet app happening) rest

/-- The roots that the builds of a run have read, one after the other. -/
def rootsMet (app : App) : List Happening → List String
  | [] => []
  | happening :: rest =>
    let after := meet app happening
    rootsRead app.shelf app.factory after.factory ++ rootsMet after rest

/-- A process reads a repository directly under one of the roots, which a request has named. -/
def Confined (roots : List String) (launch : Git.Launch) : Prop :=
  ∃ root ∈ roots, ∃ path id, resolve (some path) = .ok id ∧
    launch.ReadsAt (FilePath.join root id.text)

/-- A process stays confined when more roots are read. -/
theorem Confined.append {launch : Git.Launch} (confined : Confined roots launch)
    (more : List String) : Confined (roots ++ more) launch := by
  obtain ⟨root, listed, named⟩ := confined
  exact ⟨root, List.mem_append_left more listed, named⟩

/-- What a server has read and started so far. -/
structure Guarded (app : App) (roots : List String) : Prop where
  /-- Each build is of the repository that lies under the root which it has read. -/
  stock : Stock app.factory roots
  /-- Git was started on what lies directly under one of these roots. -/
  launches : ∀ launch ∈ app.launches, Confined roots launch

/-- Whatever a server meets with does no more than that. -/
theorem meet_attends (app : App) (happening : Happening) : Attends app (meet app happening) := by
  cases happening with
  | event event =>
    -- An event makes the factory take one transition, and starts no process.
    have course := App.step_course app event
    obtain ⟨happens, transition, reads⟩ := course.transition
    exact ⟨.step .refl transition reads, .inl course.launches⟩
  | request host request => exact respond_attends host app request
  | resume host path errand caller traded => exact resume_attends host app path errand caller traded

/-- A server stays guarded, as long as each process reads where a build has opened a repository. -/
theorem Guarded.attends (guarded : Guarded app roots) (attends : Attends app after) :
    Guarded after (roots ++ rootsRead app.shelf app.factory after.factory) := by
  obtain ⟨works, launches⟩ := attends
  -- The roots that have been read grow by those of the builds that began.
  have stock := guarded.stock.works works
  refine ⟨stock, fun launch member => ?_⟩
  rcases launches with same | ⟨path, id, caller, build, started, resolved, here, reads, same⟩
  · rw [same] at member
    exact (guarded.launches launch member).append _
  rw [same, List.mem_append, List.mem_singleton] at member
  rcases member with old | rfl
  · exact (guarded.launches launch old).append _
  -- The caller was served with a repository under the root that its build has read.
  obtain ⟨root, listed, opened⟩ := stock.placed caller id build here
  refine ⟨root, List.mem_of_getElem? listed, path, id, resolved, ?_⟩
  obtain ⟨work, found, resource⟩ := Option.map_eq_some_iff.mp opened
  rw [App.repositoryPath, found, Option.map_some, Option.getD_some, resource] at reads
  exact reads

/-- Over every run a server stays guarded. -/
theorem Guarded.meetAll (guarded : Guarded app roots) (happenings : List Happening) :
    Guarded (meetAll app happenings) (roots ++ rootsMet app happenings) := by
  -- The induction is on what the server meets with, and the roots that are read add up.
  induction happenings generalizing app roots with
  | nil => simpa [Http.meetAll, rootsMet] using guarded
  | cons happening rest ih =>
    have later := ih (guarded.attends (meet_attends app happening))
    rwa [List.append_assoc] at later

/-- A machine with a repository whose name looks like the way up. -/
def hidden : Host where
  files := ((FileSystem.fresh.put ["srv"] .directory).put ["srv", "..git"] .directory).put
    ["srv", "..git", "HEAD"] (.file [])
  git := fun _ => .error .notFound

/-- A lookup that opens a repository. -/
def lookup (id : Identifier) (caller : Nat) : List (Factory.Event Repository) :=
  let looks := Factory.Event.advance caller ⟨id, ""⟩
  [.call id, looks, looks, .finish caller .ready, looks]

end Http

end PackGate
