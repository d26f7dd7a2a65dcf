import PackGate.App.Step
import PackGate.Health

/-! What the server does when one thing happens at a time. -/

namespace PackGate.App

/-! ## Lookups -/

/-- Looks up the repository of an identifier, as far as that goes without others. -/
def get (app : App) (files : FileSystem) (id : Identifier) :
    Option (Except FactoryError Nat) × App :=
  let (answer, factory) := app.factory.get (app.shelf.work files) id
  (answer, { app with factory })

/-- Looks up the repository that a request path names, and once more if it comes released. -/
def openRepository (app : App) (files : FileSystem) (path : String) :
    Option (Except FactoryError Nat) × App :=
  match resolve (some path) with
  | .error error => (some (.error error), app)
  | .ok id =>
    match app.get files id with
    | (some (.ok build), next) =>
      if next.factory.isReleased build then next.get files id else (some (.ok build), next)
    | (answer, next) => (answer, next)

/-- Where the repository of a build lies. -/
def repositoryPath (app : App) (build : Nat) : String :=
  ((app.factory.builds[build]?).map (·.resource.path)).getD ""

/-! ## Refreshes and reloads -/

/-- Lets a refresh that is alone run to its end, in at most `limit` stretches. -/
def complete (task : Nat) : Nat → App → App
  | 0, app => app
  | limit + 1, app =>
    if (app.context.notified? task).isSome then app
    else if app.context.delivery.any (·.inside) then complete task limit (app.deliver task)
    else complete task limit (app.proceed task)

/-- The stretches of a refresh: its start, two for every callback, and its end. -/
def stretches (app : App) : Nat :=
  2 * app.context.subscriptions.length + 2

/-- Lets a refresh that is alone run to its end; answers how many listeners it notified. -/
def conclude (app : App) (task : Nat) : Nat × App :=
  let done := complete task app.stretches app
  ((done.context.notified? task).getD 0, done)

/-- Sends a refresh event; answers how many listeners it notified. -/
def refresh (app : App) : Nat × App :=
  let (task, asked) := app.request
  asked.conclude task

/-- Reads the settings anew and sends a refresh event. -/
def reload (app : App) (files : FileSystem) : Except Config.LoadError Nat × App :=
  match app.beginReload files with
  | (.error error, same) => (.error error, same)
  | (.ok task, asked) =>
    let (number, done) := asked.conclude task
    (.ok number, done.note (.info "configuration reloaded"))

/-- Empties the cache; answers how many repositories were in it. -/
def invalidate (app : App) : Nat × App :=
  let (number, factory) := app.factory.invalidate
  (number, { app with factory })

/-- Closes the factory; answers how many repositories were in its cache. -/
def shutdown (app : App) : Nat × App :=
  let (number, factory) := app.factory.shutdown
  (number, { app with factory })

/-- The health of the server. -/
def health (app : App) (files : FileSystem) : Health :=
  .examine files app.config.reposPath app.factory.stats app.context

end PackGate.App
