import PackGate.Config.Load
import PackGate.Context
import PackGate.Git
import PackGate.Repository

/-! The server's state: settings, a factory of repositories, and the refresh events between them. -/

namespace PackGate

/-- What the machine offers to the server. -/
structure Host where
  /-- The file system. -/
  files : FileSystem
  /-- The git program. -/
  git : Git.Program

/-- The server's state. -/
structure App where
  /-- The path of the settings file. -/
  configPath : String
  /-- The settings read last. -/
  config : Config
  /-- The directory that repositories are opened from. -/
  shelf : Shelf
  /-- The source of refresh events. -/
  context : Context := {}
  /-- The factory of repositories; its log is the server's. -/
  factory : Factory Repository
  /-- How many refreshes have been asked for. -/
  refreshes : Nat := 0
  /-- Every git process that was asked for. -/
  launches : List Git.Launch := []

namespace App

/-- The name of the factory among the listeners. -/
def listener : Nat :=
  0

/-- The server with a new factory that does not listen to refresh events yet. -/
def assemble (configPath : String) (config : Config) : Except Cache.CreateFault App := do
  let factory ← Factory.create config.cache.maxSize.toNat config.cache.budget
  let shelf : Shelf := { root := config.reposPath }
  return { configPath, config, shelf, factory, context := Context.step {} (.hold listener) }

/-- The same server with its factory listening to refresh events, once more if it did already. -/
def attach (app : App) : App :=
  { app with
    factory := app.factory.activate
    context := app.context.step (.subscribe listener) }

/-- The server as it starts with the given settings. -/
def create (configPath : String) (config : Config) : Except Cache.CreateFault App := do
  let app ← assemble configPath config
  return app.attach

/-- What is told when the server cannot be created. -/
def startFailure (fault : Cache.CreateFault) : Report :=
  (Report.ofMessage fault.message).wrap "invalid cache configuration"

/-- The same server with one more log record. -/
def note (app : App) (notice : Notice) : App :=
  { app with factory := app.factory.note notice }

/-- The same server with its counters changed. -/
def count (app : App) (change : Metrics → Metrics) : App :=
  { app with factory := app.factory.count change }

/-- Releases the repository of a build out of turn, as somebody who holds it can. -/
def releaseHandle (app : App) (build : Nat) : Except Report App :=
  match app.factory.builds[build]? with
  | none => .ok app
  | some known =>
    if app.factory.isReleased build then .error known.resource.releasedTwice
    else
      let released := app.factory.released ++ [build]
      .ok { app with factory := { app.factory with released } }

end App

end PackGate
