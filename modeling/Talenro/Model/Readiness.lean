import Mathlib.Data.List.DropRight

/-!
# Readiness of the Redis dependency

Redis counts as degraded after one failed probe, as down after several failed probes in a row, and
as up again after several successful ones in a row.  A mutex makes the calls of `record` follow
each other, so the state after a number of calls depends only on the outcomes in that order.

Sources are in `internal/readiness`.
-/

set_option autoImplicit false

namespace Talenro.Readiness

/-- Go's `int` (on a 64-bit platform) and `int64`; durations are nanoseconds.

SOURCE: policy.go:19-26 -/
structure Policy where
  redisDownAfterFailures : Int64
  redisRecoverAfterSuccesses : Int64
  outboxDegradedBacklog : Int64
  outboxDownBacklog : Int64
  outboxDegradedAge : Int64
  outboxDownAge : Int64

def second : Int64 := 1000000000

/-- SOURCE: policy.go:29-38 -/
def defaultPolicy : Policy where
  redisDownAfterFailures := 3
  redisRecoverAfterSuccesses := 2
  outboxDegradedBacklog := 1000
  outboxDownBacklog := 10000
  outboxDegradedAge := 60 * second
  outboxDownAge := 300 * second

/-- SOURCE: policy.go:114-121 -/
def validPolicy (policy : Policy) : Bool :=
  1 ≤ policy.redisDownAfterFailures && policy.redisDownAfterFailures ≤ 10 &&
  1 ≤ policy.redisRecoverAfterSuccesses && policy.redisRecoverAfterSuccesses ≤ 10 &&
  100 ≤ policy.outboxDegradedBacklog && policy.outboxDegradedBacklog ≤ 10000 &&
  policy.outboxDegradedBacklog < policy.outboxDownBacklog && policy.outboxDownBacklog ≤ 100000 &&
  10 * second ≤ policy.outboxDegradedAge && policy.outboxDegradedAge ≤ 600 * second &&
  policy.outboxDegradedAge + second ≤ policy.outboxDownAge && policy.outboxDownAge ≤ 3600 * second

/-- SOURCE: checker.go:14-18 -/
inductive Status where
  | up
  | degraded
  | down
deriving DecidableEq, Repr

/-- No status is the empty text of a state that was never recorded to.

SOURCE: checker.go:210-215 -/
structure RedisState where
  status : Option Status := none
  failures : Int64 := 0
  successes : Int64 := 0

/-- The status that is returned, and the state that is left.

SOURCE: checker.go:217-248 -/
def RedisState.record (state : RedisState) (success : Bool) (policy : Policy) :
    Status × RedisState :=
  let status := state.status.getD .up
  if !success then
    let failures := state.failures + 1
    let status := if policy.redisDownAfterFailures ≤ failures then .down else .degraded
    (status, { status := some status, failures := failures, successes := 0 })
  else if status = .up then
    (.up, { status := some .up, failures := 0, successes := 0 })
  else
    let successes := state.successes + 1
    if policy.redisRecoverAfterSuccesses ≤ successes then
      (.up, { status := some .up, failures := 0, successes := 0 })
    else
      (.degraded, { status := some .degraded, failures := 0, successes := successes })

/-- The state of a checker after the outcomes were recorded one after the other. -/
def recorded (policy : Policy) (outcomes : List Bool) : RedisState :=
  outcomes.foldl (fun state success => (state.record success policy).2) {}

end Talenro.Readiness
