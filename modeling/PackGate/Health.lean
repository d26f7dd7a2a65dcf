import PackGate.Context
import PackGate.Factory
import PackGate.FileSystem
import PackGate.Http.Response
import PackGate.Text.JsonText

/-! What the server says about its own health. -/

namespace PackGate

/-- How the server is. -/
inductive HealthStatus where
  /-- Everything works. -/
  | ok
  /-- The directory of the repositories cannot be used. -/
  | degraded
  /-- Nothing can be served. -/
  | unhealthy
deriving DecidableEq, Repr

/-- The status in words. -/
def HealthStatus.name : HealthStatus → String
  | .ok => "ok"
  | .degraded => "degraded"
  | .unhealthy => "unhealthy"

/-- The outcome of one check. -/
structure HealthCheck where
  /-- Whether the check passed. -/
  ok : Bool
  /-- What there is to say about it. -/
  detail : Option String := none
deriving DecidableEq, Repr

/-- What the server says about its own health. -/
structure Health where
  /-- Whether the directory of the repositories can be used. -/
  directory : HealthCheck
  /-- Whether the factory serves. -/
  service : HealthCheck
  /-- The factory at this moment. -/
  stats : Factory.Stats
  /-- The phase of the refresh events. -/
  phase : Context.Phase
  /-- The number of the last refresh event. -/
  epoch : Nat
deriving DecidableEq, Repr

namespace Health

open Text

/-- Checks the directory of the repositories. -/
def checkDirectory (files : FileSystem) (path : String) : HealthCheck :=
  match files.metadata path with
  | .ok .directory => { ok := true }
  | .ok _ => { ok := false, detail := some s!"{path} is not a directory" }
  | .error error => { ok := false, detail := some s!"{path}: {error.message}" }

/-- Checks the factory by its phase. -/
def checkService : Factory.Phase → HealthCheck
  | .shutdown => { ok := false, detail := some "resource factory is shut down" }
  | .invalidating => { ok := true, detail := some "invalidation in progress" }
  | .uninitialized | .active => { ok := true }

/-- Examines the server. -/
def examine (files : FileSystem) (path : String) (stats : Factory.Stats) (context : Context) :
    Health where
  directory := checkDirectory files path
  service := checkService stats.phase
  stats
  phase := context.phase
  epoch := context.epoch

/-- The status that follows from the checks. -/
def status (health : Health) : HealthStatus :=
  if !health.service.ok then .unhealthy
  else if !health.directory.ok then .degraded
  else .ok

/-- A check in JSON. -/
def checkJson (check : HealthCheck) : String :=
  let detail := check.detail.map fun detail => ("detail", JsonText.string detail)
  JsonText.object (("ok", JsonText.flag check.ok) :: detail.toList)

/-- The whole of it in JSON. -/
def json (health : Health) : String :=
  let checks := [("repos_path", checkJson health.directory), ("factory", checkJson health.service)]
  let factory :=
    [("phase", JsonText.string health.stats.phase.name),
      ("generation", toString health.stats.generation), ("cached", toString health.stats.cached),
      ("capacity", toString health.stats.capacity), ("in_flight", toString health.stats.inFlight)]
  let context := [("phase", JsonText.string health.phase.name), ("epoch", toString health.epoch)]
  JsonText.object
    [("status", JsonText.string health.status.name), ("checks", JsonText.object checks),
      ("factory", JsonText.object factory), ("context", JsonText.object context)]

/-- The answer to a question after the server's health: only an unhealthy server refuses. -/
def response (health : Health) : Http.Response :=
  .json (if health.status = .unhealthy then 503 else 200) health.json

end Health

end PackGate
