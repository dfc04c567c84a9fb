import RedisBridge.AppState

/-!
The guard of an operation's metrics. It is made when the operation begins. A
method that counts how the operation ended consumes it, and so does the end of
the operation's future. In either case the guard is dropped, and the drop lowers
the gauge and observes the timer. What a method does to the metrics is the list
of its updates.
-/
namespace RedisBridge.App

/-- An update of `redis_operations_total`, `redis_operations_inflight` or
`redis_operation_duration`. -/
inductive Sample
  | counted (target kind status : String)
  | inflight (target kind : String) (change : ℤ)
  | observed (target kind : String)
  deriving DecidableEq

namespace Metrics

def record (metrics : Metrics) : Sample → Metrics
  | .counted target kind status =>
      { metrics with redisOperationsTotal := fun a b c =>
          if a = target ∧ b = kind ∧ c = status then metrics.redisOperationsTotal a b c + 1
          else metrics.redisOperationsTotal a b c }
  | .inflight target kind change => metrics.moveInflight target kind change
  | .observed target kind =>
      { metrics with
        redisOperationDuration := bump metrics.redisOperationDuration target kind }

def recordAll (metrics : Metrics) (samples : List Sample) : Metrics :=
  samples.foldl record metrics

end Metrics

/-- A timer of the duration histogram, by the labels that it was started under. -/
structure HistogramTimer where
  target : String
  kind : String
  deriving DecidableEq

def HistogramTimer.observeDuration (timer : HistogramTimer) : List Sample :=
  [.observed timer.target timer.kind]

structure Guard where
  target : String
  kind : String
  timer : Option HistogramTimer
  completed : Bool
  deriving DecidableEq

namespace Guard

def new (target kind : String) (timer : HistogramTimer) : Guard :=
  ⟨target, kind, some timer, false⟩

/-- `Metrics::begin_operation`. -/
def beginOperation (target kind : String) : Guard × List Sample :=
  (new target kind ⟨target, kind⟩, [.inflight target kind 1])

/-- The timer is taken out before it is observed, so no second observation is
left for the drop of the fields. -/
def drop (guard : Guard) : List Sample :=
  (if guard.completed then [] else [.counted guard.target guard.kind "cancelled"]) ++
    .inflight guard.target guard.kind (-1) ::
      match guard.timer with
      | some timer => timer.observeDuration
      | none => []

/-- A consuming method: it marks the guard, counts a status, and drops the guard. -/
def complete (guard : Guard) (status : String) : List Sample :=
  .counted guard.target guard.kind status :: { guard with completed := true }.drop

def success (guard : Guard) : List Sample := guard.complete "ok"

def error (guard : Guard) : List Sample := guard.complete "error"

def timeout (guard : Guard) : List Sample := guard.complete "timeout"

/-- A consuming method leaves nothing to count for the drop that follows it. -/
theorem complete_eq (target kind status : String) (timer : HistogramTimer) :
    (new target kind timer).complete status =
      [.counted target kind status, .inflight target kind (-1),
        .observed timer.target timer.kind] := rfl

/-- A guard that no method consumed counts the operation as cancelled. -/
theorem drop_eq (target kind : String) (timer : HistogramTimer) :
    (new target kind timer).drop =
      [.counted target kind "cancelled", .inflight target kind (-1),
        .observed timer.target timer.kind] := rfl

end Guard

end RedisBridge.App
