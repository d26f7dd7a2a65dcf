import PackGate.App.Step

/-! The opening of a repository while other things happen to the server. -/

namespace PackGate.App

/-! ## Interference -/

/-- What can come between two stretches of a task. -/
inductive Interference where
  /-- Something happens to the server; that may be the next stretch of any lookup. -/
  | event (event : Event)
  /-- Requests are counted and logged, and builders log. -/
  | record (metrics : Metrics) (journal : List Notice)
  /-- A git process is started for another request. -/
  | launch (process : Git.Launch)

/-- What becomes of a server with that. -/
def disturb (app : App) : Interference → App
  | .event event => app.step event
  | .record metrics journal => { app with factory := { app.factory with metrics, journal } }
  | .launch process => { app with launches := app.launches ++ [process] }

/-- What becomes of a server with one interference after the other. -/
def disturbAll (app : App) (past : List Interference) : App :=
  past.foldl disturb app

/-! ## Openings -/

/-- How far the opening of a repository has come. -/
inductive Opening.Stage where
  /-- Waiting for a lookup of the identifier. -/
  | looking (id : Identifier) (caller : Nat)
  /-- Waiting for a second lookup, since the first one has brought a released repository. -/
  | trading (caller : Nat)
  /-- Over, with an answer. -/
  | done (answer : Except FactoryError Nat)
  /-- Given up together with the lookup that it waits for. -/
  | dropped

/-- A repository that is being opened on a server. -/
structure Opening where
  /-- The server. -/
  app : App
  /-- How far the opening has come. -/
  stage : Opening.Stage
  /-- The lookups that it has started, each by its caller, the latest last. -/
  lookups : List Nat := []

namespace Opening

/-- Starts one more lookup and waits for it. -/
def ask (app : App) (lookups : List Nat) (id : Identifier) (waits : Nat → Stage) : Opening :=
  let caller := app.factory.callers.size
  { app := app.step (.call id), stage := waits caller, lookups := lookups ++ [caller] }

/-- Begins to open the repository that a request path names. -/
def begin (app : App) (path : String) : Opening :=
  match resolve (some path) with
  | .error error => { app, stage := .done (.error error) }
  | .ok id => ask app [] id (.looking id)

/-- Takes the answer of the lookup that it waits for, if there is one. -/
-- Only the first lookup is followed by a look at the repository.
def resume (opening : Opening) : Opening :=
  match opening.stage with
  | .looking id caller =>
    match opening.app.factory.stage? caller with
    | some (.served build) =>
      if opening.app.factory.isReleased build then
        ask opening.app opening.lookups id .trading
      else { opening with stage := .done (.ok build) }
    | some (.refused error) => { opening with stage := .done (.error error) }
    | some .cancelled => { opening with stage := .dropped }
    | _ => opening
  | .trading caller =>
    match opening.app.factory.stage? caller with
    | some (.served build) => { opening with stage := .done (.ok build) }
    | some (.refused error) => { opening with stage := .done (.error error) }
    | some .cancelled => { opening with stage := .dropped }
    | _ => opening
  | .done _ | .dropped => opening

/-- What becomes of an opening with an interference; nothing interferes with one that is over. -/
def step (opening : Opening) (interference : Interference) : Opening :=
  match opening.stage with
  | .done _ | .dropped => opening
  | .looking _ _ | .trading _ =>
    { opening with app := opening.app.disturb interference }.resume

/-- What becomes of an opening with one interference after the other. -/
def run (opening : Opening) (interferences : List Interference) : Opening :=
  interferences.foldl step opening

end Opening

end PackGate.App
