import PackGate.Context

/-! Refreshes under a virtual clock, with listeners that take time and subscribe others. -/

namespace PackGate.Simulation.Refreshes

/-- A listener that records its callbacks. -/
structure Listener where
  /-- The name it is known by. -/
  label : String
  /-- How long a callback takes in milliseconds; without a delay it takes no time at all. -/
  delay : Option Nat := none
  /-- The name of the plain listener that a callback subscribes at its end. -/
  subscribes : Option String := none
deriving DecidableEq, Repr

/-- A line of the listeners' record. -/
inductive Line where
  /-- A callback has begun under the given phase. -/
  | began (label : String) (epoch : Nat) (phase : Context.Phase)
  /-- A callback that took time has ended. -/
  | ended (label : String) (epoch : Nat)
deriving DecidableEq, Repr

/-- How a refresh came to its end. -/
inductive Ending where
  /-- It notified so many listeners. -/
  | notified (number : Nat)
  /-- It was given up. -/
  | aborted
deriving DecidableEq, Repr

/-- Everything in the scene at one moment. -/
structure Scene where
  /-- The source of refresh events. -/
  context : Context := {}
  /-- The time in milliseconds. -/
  clock : Nat := 0
  /-- Every listener so far. -/
  listeners : Array Listener := #[]
  /-- The listeners that are kept alive, under their names. -/
  kept : List (String × Nat) := []
  /-- The name of every refresh so far. -/
  tasks : Array String := #[]
  /-- When the callback under way ends. -/
  due : Nat := 0
  /-- What every watcher has seen, as the number of publications. -/
  watchers : List (String × Nat) := []
  /-- What the listeners recorded. -/
  record : List Line := []
  /-- The refreshes that came to their end. -/
  done : List (String × Ending) := []

/-- What can be asked of a scene. -/
inductive Command where
  /-- Create a listener and subscribe it. -/
  | subscribe (listener : Listener)
  /-- Subscribe a listener once more. -/
  | again (label : String)
  /-- Let go of a listener. -/
  | drop (label : String)
  /-- Start a refresh. -/
  | refresh (task : String)
  /-- Give a refresh up. -/
  | abort (task : String)
  /-- Let time pass. -/
  | sleep (millis : Nat)
  /-- Start to watch. -/
  | watch (watcher : String)
  /-- Ask whether something was published that a watcher has not seen. -/
  | changed (watcher : String)
  /-- Look at the state without marking it as seen. -/
  | borrow (watcher : String)
  /-- Look at the state and mark it as seen. -/
  | update (watcher : String)
deriving Repr

/-- What a command answers. -/
inductive Answer where
  /-- Nothing. -/
  | nothing
  /-- Yes or no. -/
  | flag (value : Bool)
  /-- The published state. -/
  | state (phase : Context.Phase) (epoch : Nat)
deriving DecidableEq, Repr

namespace Scene

/-- Keeps a new listener under its name, in place of an older one, and subscribes it. -/
def enrol (scene : Scene) (listener : Listener) : Scene :=
  let number := scene.listeners.size
  let released := match scene.kept.lookup listener.label with
    | some old => scene.context.step (.drop old)
    | none => scene.context
  { scene with
    context := released.run [.hold number, .subscribe number]
    listeners := scene.listeners.push listener
    kept := (listener.label, number) :: scene.kept.filter (·.1 != listener.label) }

/-- Writes down a callback that has just begun and when it will end. -/
def begin (scene : Scene) (call : Context.Call) : Scene :=
  match scene.listeners[call.listener]? with
  | none => scene
  | some listener =>
    { scene with
      due := scene.clock + listener.delay.getD 0
      record := scene.record ++ [.began listener.label call.epoch scene.context.phase] }

/-- Lets the refresh `task` run to its next wait. -/
def proceed (scene : Scene) (task : Nat) : Scene :=
  let context := scene.context.step (.proceed task)
  let next := { scene with context }
  match context.calls.drop scene.context.calls.length, context.notified? task with
  | call :: _, _ => next.begin call
  | [], some number =>
    { next with done := scene.done ++ [(scene.tasks.getD task "", .notified number)] }
  | [], none => next

/-- Ends the callback under way. -/
def answer (scene : Scene) (task : Nat) : Scene :=
  match scene.context.calls.getLast? with
  | none => scene
  | some call =>
    match scene.listeners[call.listener]? with
    | none => scene
    | some listener =>
      let line := Line.ended listener.label call.epoch
      let written := if listener.delay.isSome then scene.record ++ [line] else scene.record
      let ended := { scene with record := written, context := scene.context.step (.answer task) }
      match listener.subscribes with
      | some label => ended.enrol { label }
      | none => ended

/-- The next thing that happens without time passing; none if everything waits. -/
def next? (scene : Scene) : Option Scene :=
  match scene.context.delivery with
  | some delivery =>
    if !delivery.inside then some (scene.proceed delivery.task)
    else if scene.due ≤ scene.clock then some (scene.answer delivery.task)
    else none
  | none => scene.context.waiting.head?.map scene.proceed

/-- Enough turns for every refresh under way: each calls the listeners and some that join. -/
def turns (scene : Scene) : Nat :=
  let tasks := scene.context.waiting.length + 2
  let listeners := scene.context.subscriptions.length
    + (scene.context.delivery.map (·.live.length)).getD 0 + 2
  3 * tasks * tasks * listeners

/-- Lets happen what can happen without time passing, in at most `limit` turns. -/
def settle : Nat → Scene → Scene
  | 0, scene => scene
  | limit + 1, scene =>
    match scene.next? with
    | none => scene
    | some next => settle limit next

/-- Lets time pass until `target`, stopping at most `limit` times where a callback ends. -/
def elapse (target : Nat) : Nat → Scene → Scene
  | 0, scene => { scene with clock := target }
  | limit + 1, scene =>
    let inside := scene.context.delivery.any (·.inside)
    if inside && scene.due ≤ target then
      let reached := { scene with clock := scene.due }
      elapse target limit (settle reached.turns reached)
    else { scene with clock := target }

/-- The newest refresh of a name. -/
def task? (scene : Scene) (name : String) : Option Nat :=
  (List.range scene.tasks.size).reverse.find? fun number => scene.tasks[number]? == some name

/-- Whether a refresh has neither ended nor been given up. -/
def isPending (scene : Scene) (task : Nat) : Bool :=
  scene.context.waiting.contains task || scene.context.delivery.any (·.task == task)

/-- Marks the published state as seen by a watcher. -/
def mark (scene : Scene) (watcher : String) : Scene :=
  let others := scene.watchers.filter (·.1 != watcher)
  { scene with watchers := (watcher, scene.context.version) :: others }

/-- Carries a command out, apart from what happens by itself afterwards. -/
def obey (scene : Scene) : Command → Answer × Scene
  | .subscribe listener => (.nothing, scene.enrol listener)
  | .again label =>
    match scene.kept.lookup label with
    | none => (.nothing, scene)
    | some listener =>
      (.nothing, { scene with context := scene.context.step (.subscribe listener) })
  | .drop label =>
    match scene.kept.lookup label with
    | none => (.nothing, scene)
    | some listener =>
      (.nothing, { scene with
        context := scene.context.step (.drop listener)
        kept := scene.kept.filter (·.1 != label) })
  | .refresh name =>
    (.nothing, { scene with
      context := scene.context.step (.request scene.tasks.size), tasks := scene.tasks.push name })
  | .abort name =>
    match (scene.task? name).filter scene.isPending with
    | none => (.nothing, scene)
    | some task =>
      (.nothing, { scene with
        context := scene.context.step (.abort task), done := scene.done ++ [(name, .aborted)] })
  | .sleep millis => (.nothing, scene.elapse (scene.clock + millis) scene.turns)
  | .watch watcher => (.nothing, scene.mark watcher)
  | .changed watcher =>
    (.flag ((scene.watchers.lookup watcher).any (· != scene.context.version)), scene)
  | .borrow _ => (.state scene.context.phase scene.context.epoch, scene)
  | .update watcher => (.state scene.context.phase scene.context.epoch, scene.mark watcher)

/-- Carries a command out with all that follows at once; record and endings start anew. -/
def perform (scene : Scene) (command : Command) : Answer × Scene :=
  let (answer, scene) := { scene with record := [], done := [] }.obey command
  (answer, settle scene.turns scene)

end Scene

end PackGate.Simulation.Refreshes
