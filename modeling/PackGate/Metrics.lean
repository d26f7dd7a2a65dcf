/-! Counters of the running server. -/

namespace PackGate

/-- How a build ended. -/
inductive BuildOutcome where
  /-- A resource was built and cached. -/
  | ok
  /-- The budget ran out. -/
  | timeout
  /-- The builder failed. -/
  | failed
  /-- A resource was built under settings that no longer hold. -/
  | stale
deriving DecidableEq, Repr

/-- The value of the `outcome` label. -/
def BuildOutcome.label : BuildOutcome → String
  | .ok => "Ok"
  | .timeout => "Timeout"
  | .failed => "Failed"
  | .stale => "Stale"

/-- Counters told apart by a label; a label appears with its first use. -/
abbrev Family (label : Type) :=
  List (label × UInt64)

namespace Family

/-- The counter under `key`, which is zero until it is first used. -/
def value {label : Type} [DecidableEq label] (family : Family label) (key : label) : UInt64 :=
  (family.lookup key).getD 0

/-- Adds `amount` to the counter under `key`, wrapping at 64 bits. -/
def add {label : Type} [DecidableEq label] (key : label) (amount : UInt64) :
    Family label → Family label
  | [] => [(key, amount)]
  | (name, count) :: rest =>
    if name = key then (name, count + amount) :: rest else (name, count) :: add key amount rest

end Family

/-- Observed durations: their number, their sum, and how many fell in each bucket. -/
structure Histogram where
  /-- The number of observations. -/
  count : UInt64 := 0
  /-- The sum of the observations in seconds. -/
  sum : Float := 0.0
  /-- The upper bounds of the buckets with the observations that fell in each. -/
  buckets : List (Float × UInt64)
  /-- The observations above every bound. -/
  beyond : UInt64 := 0

namespace Histogram

/-- Bounds that start at `start` and double `steps` times. -/
def doubling (start : Float) : Nat → List Float
  | 0 => []
  | steps + 1 => start :: doubling (start * 2.0) steps

/-- A histogram of durations from a millisecond to half a minute, without observations. -/
def empty : Histogram where
  buckets := (doubling 0.001 16).map (·, 0)

/-- Counts an observation in the first bucket whose bound it does not exceed, if there is one. -/
def place (seconds : Float) : List (Float × UInt64) → Option (List (Float × UInt64))
  | [] => none
  | (bound, count) :: rest =>
    if seconds ≤ bound then some ((bound, count + 1) :: rest)
    else (place seconds rest).map ((bound, count) :: ·)

/-- Records one duration. -/
def observe (histogram : Histogram) (seconds : Float) : Histogram :=
  let counted :=
    { histogram with count := histogram.count + 1, sum := histogram.sum + seconds }
  match place seconds histogram.buckets with
  | some buckets => { counted with buckets := buckets }
  | none => { counted with beyond := histogram.beyond + 1 }

end Histogram

/-- Every number that the server reports about itself. -/
structure Metrics where
  /-- Lookups answered from the cache. -/
  cacheHits : UInt64 := 0
  /-- Lookups that joined or started a build. -/
  cacheMisses : UInt64 := 0
  /-- Entries that made room for newer ones. -/
  cacheEvictions : UInt64 := 0
  /-- Resources in the cache. -/
  cacheEntries : Int64 := 0
  /-- Builds by how they ended. -/
  builds : Family BuildOutcome := []
  /-- How long builds took. -/
  buildDuration : Histogram := .empty
  /-- Resources whose release hook ran. -/
  releases : UInt64 := 0
  /-- Release hooks that failed. -/
  releaseFailures : UInt64 := 0
  /-- Invalidations of the whole cache. -/
  invalidations : UInt64 := 0
  /-- Requests for git services by service. -/
  requests : Family String := []

namespace Metrics

/-- Counts one more build with the given end. -/
def recordBuild (metrics : Metrics) (outcome : BuildOutcome) : Metrics :=
  { metrics with builds := metrics.builds.add outcome 1 }

/-- Counts one more request for a git service. -/
def countRequest (metrics : Metrics) (service : String) : Metrics :=
  { metrics with requests := metrics.requests.add service 1 }

end Metrics

end PackGate
