import TrafficMap.Identity.Resolver
import TrafficMap.Refresh.Outcome

/-!
# Fetching a snapshot

The configuration and the statistics are requested together; the first failure ends the fetch.
When both have arrived, the identities of all clients with traffic are resolved, which cannot
fail.
-/

namespace TrafficMap

/-- A request that is answered, or fails, some milliseconds after it was made. -/
structure Request (β : Type) where
  delay : Nat
  result : Except RequestError β

namespace Fetch

/-- Both answers or the first failure, and the time after which they are known. The configuration
is looked at before the statistics are requested, so it wins if it fails at once; of two failures
that come later at the same time the one of the statistics is reported. -/
def join {β γ : Type} (config : Request β) (stats : Request γ) :
    Nat × Except RequestError (β × γ) :=
  match config.result, stats.result with
  | .ok c, .ok s => (max config.delay stats.delay, .ok (c, s))
  | .error e, .ok _ => (config.delay, .error e)
  | .ok _, .error e => (stats.delay, .error e)
  | .error e, .error f =>
    if config.delay = 0 || config.delay < stats.delay then (config.delay, .error e)
    else (stats.delay, .error f)

/-- Whether the statistics are requested at all: not if the request for the configuration fails at
once. -/
def asksStats {β : Type} (config : Request β) : Bool :=
  match config.result with
  | .error _ => config.delay != 0
  | .ok _ => true

/-- The outcome of a fetch from the two answers, and the resolver after it. -/
def finish (lookup : Lookup) (r : Resolver)
    (answers : Except RequestError (Configuration × Statistics)) :
    Except Failure Snapshot × Resolver :=
  match answers with
  | .error e => (.error (Failure.ofRequest e), r)
  | .ok (config, stats) =>
    let (identities, r) := r.resolveAll lookup (stats.sources.map (·.sourceIp))
    (.ok { config, stats, identities }, r)

/-- Fetches a snapshot: the time it takes, its outcome, and the resolver after it. -/
def run (lookup : Lookup) (r : Resolver) (config : Request Configuration)
    (stats : Request Statistics) : Nat × Except Failure Snapshot × Resolver :=
  let (time, answers) := join config stats
  (time, finish lookup r answers)

end Fetch

end TrafficMap
