import PackGate.Decimal.Estimate
import PackGate.Metrics

/-! The metrics as OpenMetrics text. -/

namespace PackGate.Exposition

/-- The two lines that introduce a metric. -/
def heading (name help kind : String) : String :=
  s!"# HELP {name} {help}.\n# TYPE {name} {kind}\n"

/-- A counter with its introduction. -/
def counter (name help : String) (value : UInt64) : String :=
  heading name help "counter" ++ s!"{name}_total {value.toNat}\n"

/-- A counter for each label, with their introduction. -/
-- The label's value is written as it is.
def family (name help label : String) (values : List (String × UInt64)) : String :=
  let lines := values.map fun (key, value) =>
    s!"{name}_total" ++ "\x7b" ++ s!"{label}=\"" ++ key ++ "\"\x7d " ++ s!"{value.toNat}\n"
  heading name help "counter" ++ String.join lines

/-- Each bound with the observations at or below it. -/
def cumulative (total : UInt64) : List (Float × UInt64) → List (String × UInt64)
  | [] => []
  | (bound, count) :: rest =>
    (Decimal.Estimate.text bound, total + count) :: cumulative (total + count) rest

/-- A histogram with its introduction: sum, count and cumulative buckets. -/
def histogram (name help : String) (values : Histogram) : String :=
  let inner := values.buckets.foldl (fun total (_, count) => total + count) 0
  let rows := cumulative 0 values.buckets ++ [("+Inf", inner + values.beyond)]
  let lines := rows.map fun (bound, count) =>
    s!"{name}_bucket" ++ "\x7b" ++ s!"le=\"" ++ bound ++ "\"\x7d " ++ s!"{count.toNat}\n"
  heading name help "histogram" ++ s!"{name}_sum {Decimal.Estimate.text values.sum}\n" ++
    s!"{name}_count {values.count.toNat}\n" ++ String.join lines

/-- All metrics in the order of their registration, closed by the end mark. -/
def render (metrics : Metrics) : String :=
  String.join [
    counter "packgate_cache_hits" "Resource lookups served from the cache" metrics.cacheHits,
    counter "packgate_cache_misses" "Resource lookups not served from the cache"
      metrics.cacheMisses,
    counter "packgate_cache_evictions" "Least-recently-used entries evicted to make room"
      metrics.cacheEvictions,
    heading "packgate_cache_entries" "Resources currently held in the cache" "gauge",
    s!"packgate_cache_entries {metrics.cacheEntries.toInt}\n",
    family "packgate_builds" "Resource builds by outcome" "outcome"
      (metrics.builds.map fun (outcome, count) => (outcome.label, count)),
    histogram "packgate_build_duration_seconds" "Resource build latency in seconds"
      metrics.buildDuration,
    counter "packgate_releases" "Resources released after eviction, refresh or shutdown"
      metrics.releases,
    counter "packgate_release_failures" "Resource release hooks that returned an error"
      metrics.releaseFailures,
    counter "packgate_invalidations" "Cache invalidations triggered by context refresh"
      metrics.invalidations,
    family "packgate_requests" "Smart-HTTP requests by service" "service" metrics.requests,
    "# EOF\n"]

/-- The lines of a text, without the empty piece behind its last line break. -/
def splitLines (text : String) : List String :=
  let pieces := text.splitOn "\n"
  if pieces.getLast? = some "" then pieces.dropLast else pieces

/-- Puts the lines that satisfy `chosen` into the places of such lines, one after the other. -/
def refill (chosen : String → Bool) : List String → List String → List String
  | [], _ => []
  | line :: rest, supply =>
    if chosen line then
      match supply with
      | [] => line :: refill chosen rest []
      | next :: others => next :: refill chosen rest others
    else line :: refill chosen rest supply

/-- `lines` with those that satisfy `chosen` brought into order among themselves. -/
def sortChosen (chosen : String → Bool) (lines : List String) : List String :=
  refill chosen lines ((lines.filter chosen).mergeSort fun a b => decide (a ≤ b))

/-- The lines of an exposition, with the labelled counters of each family in order. -/
def lines (text : String) : List String :=
  let builds := "packgate_builds_total\x7b"
  let requests := "packgate_requests_total\x7b"
  sortChosen (·.startsWith requests) (sortChosen (·.startsWith builds) (splitLines text))

/-- Lines without those that tell how long builds took. -/
def withoutTimings (lines : List String) : List String :=
  lines.filter fun line =>
    !(line.startsWith "packgate_build_duration_seconds_sum" ||
      line.startsWith "packgate_build_duration_seconds_bucket")

end PackGate.Exposition
