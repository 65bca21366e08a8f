/-
What the durable operations of an Audit event share: the outcomes, and the test
by which a reaper of `core/tasks.py` tells a row whose worker is gone from one
whose worker is slow.
-/
import PveHelper.Lib.Trans
import PveHelper.Lib.Table

namespace PveHelper.Operations

/-- The outcomes an operation's Audit event takes. -/
inductive Outcome
  | queued
  | running
  | success
  | warning
  | failed
  | cancelled
  deriving DecidableEq

/-- `outcome__in=("queued", "running")`. -/
def Outcome.active : Outcome → Bool
  | .queued | .running => true
  | .success | .warning | .failed | .cancelled => false

/-- `STALE_GUEST_TASK_SECONDS`. -/
def staleGuestTaskSeconds : Nat := 15 * 60

/-- What the queue knows of its tasks: the rows of the finished ones, with their
success, and the ones still waiting. -/
structure Broker where
  finished : String → Option Bool
  waiting : String → Bool

/-- The task is waiting in the queue, so its row is left alone. -/
def Broker.inFlight (broker : Broker) (taskId : String) : Bool :=
  taskId != "" && (broker.finished taskId).isNone && broker.waiting taskId

/-- `activity_at <= now - STALE_GUEST_TASK_SECONDS`. -/
def stale (activityAt now : Nat) : Bool := decide (activityAt + staleGuestTaskSeconds ≤ now)

end PveHelper.Operations
