import PackGate.Factory.Attached

/-! Lookups under a virtual clock: many callers of one factory whose builder follows a script. -/

namespace PackGate.Simulation.Lookups

/-- A resource of which nothing is known but whether its release hook fails. -/
structure Stub where
  /-- Whether the release hook fails. -/
  releaseFails : Bool
deriving DecidableEq, Repr

instance : Releasable Stub where
  releaseFails stub _ := stub.releaseFails

/-- What a build waits for before it ends. -/
inductive Wait where
  /-- Nothing. -/
  | none
  /-- So many milliseconds. -/
  | time (millis : Nat)
  /-- Its gate, which somebody opens. -/
  | gate
  /-- Something that never comes. -/
  | forever
deriving DecidableEq, Repr

/-- How a build ends after its wait. -/
inductive Result where
  /-- With a resource. -/
  | ready
  /-- Nothing is found under the given name, or else under the identifier's. -/
  | missing (name : Option String)
  /-- With any other failure. -/
  | failed (report : Report)
deriving DecidableEq, Repr

/-- The script that a build follows, fixed when it starts. -/
structure Script where
  /-- What it waits for. -/
  wait : Wait := .none
  /-- How it ends. -/
  result : Result := .ready
  /-- Whether the release hook of its resource fails. -/
  releaseFails : Bool := false
deriving DecidableEq, Repr

/-- How the build of `id` ends after its wait. -/
def Script.outcome (script : Script) (id : Identifier) : Factory.Outcome :=
  match script.result with
  | .ready => .ready
  | .missing name => .failed (.missing (name.getD id.text))
  | .failed report => .failed (.other report)

/-- A running build with its times in milliseconds. -/
structure Job where
  /-- The number of the build. -/
  build : Nat
  /-- The caller that drives it. -/
  caller : Nat
  /-- The script that it follows. -/
  script : Script
  /-- When it started. -/
  started : Nat
  /-- When its budget runs out. -/
  deadline : Nat
deriving Repr

/-- When a build has waited long enough, if that is a matter of time. -/
def Job.ripe? (job : Job) : Option Nat :=
  match job.script.wait with
  | .none => some job.started
  | .time millis => some (job.started + millis)
  | .gate | .forever => none

/-- The next time at which something happens to a build by itself. -/
def Job.due (job : Job) : Nat :=
  min (job.ripe?.getD job.deadline) job.deadline

/-- How a lookup came to its end. -/
inductive Ending where
  /-- With the resource of a build. -/
  | served (build : Nat)
  /-- With an error. -/
  | refused (error : FactoryError)
  /-- It was given up. -/
  | aborted
deriving DecidableEq, Repr

/-- Everything in the scene at one moment. -/
structure Scene extends Factory.Attached Stub where
  /-- The script of the builds that start from now on. -/
  script : Script := {}
  /-- The time in milliseconds. -/
  clock : Nat := 0
  /-- The running builds in the order they started. -/
  jobs : List Job := []
  /-- The builds whose gates are open. -/
  opened : List Nat := []
  /-- The callers that can go on, in the order they were woken. -/
  ready : List Nat := []
  /-- The name of every caller. -/
  labels : Array String := #[]
  /-- The lookups that came to their end. -/
  done : List (String × Ending) := []

/-- What can be asked of a scene. -/
inductive Command where
  /-- Let builds follow another script. -/
  | script (script : Script)
  /-- Start lookups together. -/
  | lookUp (callers : List (String × Identifier))
  /-- Give a lookup up. -/
  | abort (label : String)
  /-- Let time pass. -/
  | sleep (millis : Nat)
  /-- Open the gate of a build. -/
  | openGate (build : Nat)
  /-- Empty the cache. -/
  | invalidate
  /-- Close the factory. -/
  | shutdown
  /-- Make the factory listen to refresh events. -/
  | attach
  /-- Send a refresh event. -/
  | refresh
deriving Repr

namespace Scene

/-- A scene with a new factory. -/
def create (capacity : Nat) (budget : Duration) (script : Script) :
    Except Cache.CreateFault Scene := do
  let attached ← Factory.Attached.create capacity budget
  return { toAttached := attached, script }

/-! ## Callers -/

/-- The callers that an event has set free, the longest waiting first. -/
def woken (before after : Factory Stub) (caller : Nat) : List Nat :=
  match before.stage? caller with
  | some (.joined flight) | some (.building flight _) | some (.checking flight _) =>
    let members := match after.flights[flight]? with
      | some known => known.members
      | none => []
    members.filter fun member => before.isBlocked member && !after.isBlocked member
  | _ => []

/-- What `caller` came to, if it has come to its end. -/
def ending? (factory : Factory Stub) (caller : Nat) : Option Ending :=
  match factory.stage? caller with
  | some (.served build) => some (.served build)
  | some (.refused error) => some (.refused error)
  | some .cancelled => some .aborted
  | _ => none

/-- Lets an event happen to a caller and wakes the callers that it sets free. -/
def act (scene : Scene) (caller : Nat) (event : Factory.Event Stub) : Scene :=
  let factory := scene.factory.step event
  let awake := (woken scene.factory factory caller).filter (!scene.ready.contains ·)
  let ended := match ending? factory caller with
    | some ending => [(scene.labels.getD caller "", ending)]
    | none => []
  { scene with factory, ready := scene.ready ++ awake, done := scene.done ++ ended }

/-- Takes note of a build that a caller has just started. -/
def register (scene : Scene) (caller build : Nat) : Scene :=
  let deadline := scene.clock + (scene.factory.budget.toNanos + 999999) / 1000000
  let job := { build, caller, script := scene.script, started := scene.clock, deadline }
  { scene with jobs := scene.jobs ++ [job] }

/-- Lets a caller that does not drive a build run to its next wait. -/
def advance (scene : Scene) (caller : Nat) : Scene :=
  let build := scene.factory.builds.size
  let next := scene.act caller (.advance caller ⟨scene.script.releaseFails⟩)
  if build < next.factory.builds.size then next.register caller build else next

/-- How a running build ends now, if it does; a wait that is over comes before the budget. -/
def outcome? (scene : Scene) (job : Job) : Option Factory.Outcome :=
  let isOpen := job.script.wait = .gate && scene.opened.contains job.build
  if isOpen || job.ripe?.any (· ≤ scene.clock) then
    (scene.factory.builds[job.build]?).map fun build => job.script.outcome build.id
  else if job.deadline ≤ scene.clock then some .overdue
  else none

/-- What a caller does next without waiting; none if it waits or is done. -/
def next? (scene : Scene) (caller : Nat) : Option Scene :=
  match scene.factory.stage? caller with
  | some (.building _ build) => do
    let job ← scene.jobs.find? (·.build == build)
    let outcome ← scene.outcome? job
    let jobs := scene.jobs.filter (·.build != build)
    return { scene with jobs }.act caller (.finish caller outcome)
  | _ => if scene.factory.isBlocked caller then none else some (scene.advance caller)

/-- More stretches than a caller can run without a refresh in between. -/
-- It may take a stale end, and then goes at most once through entry, build and check.
def stretches : Nat :=
  16

/-- Lets a caller run until it waits, for at most `limit` stretches. -/
def poll (caller : Nat) : Nat → Scene → Scene
  | 0, scene => scene
  | limit + 1, scene =>
    match scene.next? caller with
    | none => scene
    | some next => poll caller limit next

/-- Lets the woken callers run one after the other, at most `limit` of them. -/
def drain : Nat → Scene → Scene
  | 0, scene => scene
  | limit + 1, scene =>
    match scene.ready with
    | [] => scene
    | caller :: rest => drain limit (poll caller stretches { scene with ready := rest })

/-- Lets everything happen that can happen without time passing. -/
-- Within one moment a caller is woken by the turn to drive and by the ends of two flights at most.
def settle (scene : Scene) : Scene :=
  drain (4 * scene.factory.callers.size + scene.ready.length) scene

/-- Wakes a caller unless it is awake. -/
def wake (scene : Scene) (caller : Nat) : Scene :=
  if scene.ready.contains caller then scene else { scene with ready := scene.ready ++ [caller] }

/-- Lets time pass until `target`, stopping at most `limit` times where something happens. -/
def elapse (target : Nat) : Nat → Scene → Scene
  | 0, scene => { scene with clock := target }
  | limit + 1, scene =>
    match (scene.jobs.map Job.due).min? with
    | none => { scene with clock := target }
    | some due =>
      if target < due then { scene with clock := target }
      else
        let callers := (scene.jobs.filter (·.due ≤ due)).map (·.caller)
        let reached := callers.foldl wake { scene with clock := max scene.clock due }
        elapse target limit reached.settle

/-! ## Commands -/

/-- Starts a lookup. -/
def call (scene : Scene) (label : String) (id : Identifier) : Scene :=
  let caller := scene.factory.callers.size
  { scene with
    factory := scene.factory.step (.call id)
    ready := scene.ready ++ [caller]
    labels := scene.labels.push label }

/-- Gives a lookup up, unless it has come to its end. -/
def abort (scene : Scene) (caller : Nat) : Scene :=
  match ending? scene.factory caller with
  | some _ => scene
  | none =>
    let jobs := scene.jobs.filter (·.caller != caller)
    { scene with jobs, ready := scene.ready.erase caller }.act caller (.cancel caller)

/-- The newest caller of a name. -/
def caller? (scene : Scene) (label : String) : Option Nat :=
  (List.range scene.labels.size).reverse.find? fun caller => scene.labels[caller]? == some label

/-- Carries a command out, apart from what happens by itself afterwards. -/
def obey (scene : Scene) : Command → Option Nat × Scene
  | .script script => (none, { scene with script })
  | .lookUp callers => (none, callers.foldl (fun scene (label, id) => scene.call label id) scene)
  | .abort label =>
    match scene.caller? label with
    | none => (none, scene)
    | some caller => (none, scene.abort caller)
  | .sleep millis =>
    (none, scene.elapse (scene.clock + millis) (2 * scene.factory.callers.size + 1))
  | .openGate build =>
    let opened := if build < scene.factory.builds.size then build :: scene.opened else scene.opened
    let callers := (scene.jobs.filter (·.build == build)).map (·.caller)
    (none, callers.foldl wake { scene with opened })
  | .invalidate =>
    let (number, factory) := scene.factory.invalidate
    (some number, { scene with factory })
  | .shutdown =>
    let (number, factory) := scene.factory.shutdown
    (some number, { scene with factory })
  | .attach => (none, { scene with toAttached := scene.attach })
  | .refresh =>
    let (number, attached) := scene.toAttached.refresh
    (some number, { scene with toAttached := attached })

/-- Carries a command out with all that follows at once; log and endings start anew. -/
def perform (scene : Scene) (command : Command) : Option Nat × Scene :=
  let fresh := { scene with done := [], factory := { scene.factory with journal := [] } }
  let (answer, next) := fresh.obey command
  (answer, next.settle)

/-- Every identifier that was asked for so far. -/
def requested (scene : Scene) : List Identifier :=
  (scene.factory.callers.toList.map (·.id)).eraseDups

end Scene

end PackGate.Simulation.Lookups
