import PackGate.App

/-! The server as a machine: lookups, reloads and refreshes that take turns. -/

namespace PackGate.App

/-- What can happen to a server. -/
inductive Event where
  /-- A lookup starts. -/
  | call (id : Identifier)
  /-- A lookup runs to its next wait; a build that it starts reads the shelf. -/
  | advance (caller : Nat)
  /-- The build that a lookup drives ends. -/
  | finish (caller : Nat) (outcome : Factory.Outcome)
  /-- A lookup is given up. -/
  | cancel (caller : Nat)
  /-- The cache is emptied outside of a refresh. -/
  | invalidate
  /-- The factory is closed. -/
  | shutdown
  /-- The settings are read anew and a refresh asked for. -/
  | reload (files : FileSystem)
  /-- A refresh is asked for. -/
  | refresh
  /-- A refresh runs to its next wait. -/
  | proceed (task : Nat)
  /-- The callback that a refresh waits for does its work. -/
  | deliver (task : Nat)
  /-- A refresh is given up. -/
  | abort (task : Nat)
  /-- Somebody else begins to listen to refresh events. -/
  | welcome (guest : Nat)
  /-- Somebody else goes away, and is forgotten as a listener. -/
  | dismiss (guest : Nat)

/-- Lets an event happen to the factory. -/
def drive (app : App) (event : Factory.Event Repository) : App :=
  { app with factory := app.factory.step event }

/-- Lets a caller run to its next wait. -/
def advance (app : App) (caller : Nat) : App :=
  match app.factory.callers[caller]? with
  | none => app
  | some known => app.drive (.advance caller (app.shelf.repository known.id))

/-! ## Refreshes -/

/-- Asks for a refresh, which is known by a number of its own. -/
def request (app : App) : Nat × App :=
  let task := app.refreshes
  (task, { app with context := app.context.step (.request task), refreshes := task + 1 })

/-- Lets a refresh run to its next wait; its end is logged. -/
def proceed (app : App) (task : Nat) : App :=
  let context := app.context.step (.proceed task)
  let next := { app with context }
  if (app.context.notified? task).isNone && (context.notified? task).isSome then
    next.note (.info "execution context refreshed")
  else next

/-- Runs the callback that a refresh waits for: that of the factory empties the cache. -/
def deliver (app : App) (task : Nat) : App :=
  match app.context.current? task with
  | none => app
  | some name =>
    let served := if name = listener then app.drive .invalidate else app
    { served with context := app.context.step (.answer task) }

/-- The name of somebody else among the listeners. -/
def guestName (guest : Nat) : Nat :=
  listener + 1 + guest

/-- Lets somebody else listen to refresh events; who is there already is called once more. -/
def welcome (app : App) (guest : Nat) : App :=
  let name := guestName guest
  { app with context := app.context.run [.hold name, .subscribe name] }

/-! ## Settings -/

/-- What reading other settings leaves in the log, apart from a move of the shelf. -/
def changeNotices (old fresh : Config) : List Notice :=
  let cache := if fresh.cache = old.cache then []
    else [.warn "cache settings changed; restart to apply"]
  let address := if fresh.httpListen = old.httpListen then []
    else [.warn "listen address changed; restart to apply"]
  cache ++ address

/-- Takes other settings over: the shelf moves, the cache stays as it was created. -/
def adopt (app : App) (fresh : Config) : App :=
  let notices := changeNotices app.config fresh ++ app.shelf.moveNotices fresh.reposPath
  { notices.foldl note app with shelf := app.shelf.move fresh.reposPath, config := fresh }

/-- Reads the settings anew and asks for a refresh; settings that cannot be read change nothing. -/
def beginReload (app : App) (files : FileSystem) : Except Config.LoadError Nat × App :=
  match Config.load files app.configPath with
  | .error error => (.error error, app)
  | .ok fresh =>
    let (task, asked) := (app.adopt fresh).request
    (.ok task, asked)

/-! ## Runs -/

/-- What becomes of a server with an event; one that cannot happen changes nothing. -/
def step (app : App) : Event → App
  | .call id => app.drive (.call id)
  | .advance caller => app.advance caller
  | .finish caller outcome => app.drive (.finish caller outcome)
  | .cancel caller => app.drive (.cancel caller)
  | .invalidate => app.drive .invalidate
  | .shutdown => app.drive .shutdown
  | .reload files => (app.beginReload files).2
  | .refresh => app.request.2
  | .proceed task => app.proceed task
  | .deliver task => app.deliver task
  | .abort task => { app with context := app.context.step (.abort task) }
  | .welcome guest => app.welcome guest
  | .dismiss guest => { app with context := app.context.step (.drop (guestName guest)) }

/-- What becomes of a server with events one after the other. -/
def run (app : App) (events : List Event) : App :=
  events.foldl step app

end PackGate.App
