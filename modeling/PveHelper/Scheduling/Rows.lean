/-
The rows of scheduled actions and their runs (`core/models.py`), and the pure
rules of `core/services/scheduled_actions.py` that read them: which statuses
are in flight, when a schedule's run limit is reached, when a planned time is
missed, how claiming an occurrence advances the schedule, and what closing a
run writes.

Times are seconds. A field is left out when no rule here and no step of
`Scheduling.System` reads or writes it (names, targets, the operator's
account).
-/
import PveHelper.Lib.Table

namespace PveHelper.Scheduling

abbrev Time := Int

/-- `ScheduledActionRun.Status`. -/
inductive RunStatus
  | queued | preflight | submitted | polling
  | completed | failed | skipped | missed | timeout | stale | cancelled
deriving DecidableEq, Repr

/-- `IN_FLIGHT_RUN_STATUSES`. -/
def inFlight : RunStatus → Bool
  | .queued | .preflight | .submitted | .polling => true
  | _ => false

/-- `RETIREMENT_NOT_STARTED_RUN_STATUSES`. -/
def retirementNotStarted : RunStatus → Bool
  | .queued | .preflight => true
  | _ => false

/-- `RETIREMENT_ACTIVE_RUN_STATUSES`. -/
def retirementActive : RunStatus → Bool
  | .submitted | .polling => true
  | _ => false

/-- `RETIREMENT_TERMINAL_RUN_STATUSES`. -/
def retirementTerminal : RunStatus → Bool
  | .completed | .failed | .skipped | .missed | .timeout | .stale | .cancelled => true
  | _ => false

theorem inFlight_eq_retirement (st : RunStatus) :
    inFlight st = (retirementNotStarted st || retirementActive st) := by
  cases st <;> rfl

/-- `ScheduledActionRun.Outcome`; the column is blank until the run closes. -/
inductive Outcome
  | blank | success | successNoop | failure | skipped | missed | timeout | stale | cancelled
deriving DecidableEq, Repr

/-- `ScheduledAction.LastStatus`. -/
inductive LastStatus
  | neverRun | queued | completed | failed | skipped | missed | timeout | cancelled
deriving DecidableEq, Repr

/-- `ScheduledAction.ActionType`. -/
inductive ActionType
  | start | shutdown | stop | reboot
deriving DecidableEq, Repr

/-- `ScheduledAction.ScheduleType`. -/
inductive ScheduleType
  | once | recurring
deriving DecidableEq, Repr

/-- `ScheduledAction.CatchUpPolicy`. -/
inductive CatchUpPolicy
  | skipMissed | runOnceLate
deriving DecidableEq, Repr

/-- `ScheduledAction.EndCondition`. -/
inductive EndCondition
  | none | runUntil | runCount
deriving DecidableEq, Repr

/-- `ScheduledActionRun.occurrence_key`: the planned time's ISO text, or
`manual:<action>:<time>:<user>`. An ISO text starts with a digit, so the
source's test for the prefix `manual:` is the test for the constructor. -/
inductive OccurrenceKey
  | planned (plannedFor : Time)
  | manual (action : Nat) (plannedFor : Time) (username : String)
deriving DecidableEq, Repr

/-- `ScheduledActionRun.result`, by the shapes its writers store. -/
inductive RunResult
  | empty
  | message (text : String)
  | proxmoxTask (raw : String) (projectionRefreshError : String)
  | cancelled (cancelledBy : String) (cancelledAt : Time)
  | retirement (code : String)
deriving DecidableEq, Repr

/-- What `_no_op_outcome`, `_skip_reason` and `_store_preflight` read of a
preflight snapshot. -/
structure Preflight where
  node : String
  status : String
  lock : String
deriving DecidableEq, Repr

structure ScheduledAction where
  pk : Nat
  cluster : Nat
  enabled : Bool
  actionType : ActionType
  actionTimeoutSeconds : Nat
  scheduleType : ScheduleType
  catchUpPolicy : CatchUpPolicy
  maxLatenessMinutes : Nat
  endCondition : EndCondition
  runUntil : Option Time
  maxScheduledRuns : Option Nat
  scheduledRunCount : Nat
  lastRunAt : Option Time
  nextRunAt : Option Time
  lastStatus : LastStatus
  deletedAt : Option Time
deriving DecidableEq, Repr

structure ScheduledActionRun where
  pk : Nat
  scheduledAction : Nat
  plannedFor : Time
  occurrenceKey : OccurrenceKey
  createdAt : Time
  startedAt : Option Time
  finishedAt : Option Time
  status : RunStatus
  outcome : Outcome
  proxmoxTaskUpid : String
  proxmoxTaskNode : String
  preflightSnapshot : Option Preflight
  result : RunResult
  error : String
deriving DecidableEq, Repr

/-- `not run.occurrence_key.startswith("manual:")`. -/
def ScheduledActionRun.automated (r : ScheduledActionRun) : Bool :=
  match r.occurrenceKey with
  | .planned _ => true
  | .manual _ _ _ => false

/-! ## Limits and due times -/

/-- `DISPATCH_GRACE`, in seconds. -/
def dispatchGrace : Time := 120

/-- `STALE_RUN_GRACE`, in seconds. -/
def staleRunGrace : Time := 300

def scheduledActionRunLimitReached (a : ScheduledAction) : Bool :=
  match a.endCondition, a.maxScheduledRuns with
  | .runCount, some limit => decide (limit ≤ a.scheduledRunCount)
  | _, _ => false

def scheduledActionNextRunAllowed (a : ScheduledAction) (nextRunAt : Option Time) : Bool :=
  match nextRunAt with
  | none => false
  | some next =>
    if scheduledActionRunLimitReached a then false
    else match a.endCondition with
      | .runUntil =>
        match a.runUntil with
        | none => false
        | some limit => decide (next ≤ limit)
      | _ => true

def isMissed (a : ScheduledAction) (plannedFor now : Time) : Bool :=
  if now ≤ plannedFor then false
  else
    let allowedLateness := match a.catchUpPolicy with
      | .runOnceLate => max ((a.maxLatenessMinutes : Int) * 60) dispatchGrace
      | .skipMissed => dispatchGrace
    decide (allowedLateness < now - plannedFor)

/-- `_advance_action_after_claim`: the action as saved, and the text of a
recurrence error. `next` is what `next_run_after` answers. -/
def advanceActionAfterClaim (a : ScheduledAction) (now : Time) (next : Except String (Option Time))
    (status : LastStatus) : ScheduledAction × String :=
  match a.scheduleType with
  | .once => ({ a with enabled := false, nextRunAt := none, lastRunAt := some now, lastStatus := status }, "")
  | .recurring =>
    match next with
    | .error message =>
      ({ a with enabled := false, nextRunAt := none, lastRunAt := some now, lastStatus := .failed }, message)
    | .ok nextRunAt =>
      let allowed := scheduledActionNextRunAllowed a nextRunAt
      ({ a with
          enabled := allowed
          nextRunAt := if allowed then nextRunAt else none
          lastRunAt := some now
          lastStatus := status }, "")

/-- What claiming an occurrence leaves alone. -/
theorem advanceActionAfterClaim_frame (a : ScheduledAction) (now : Time) (next : Except String (Option Time))
    (status : LastStatus) :
    let a' := (advanceActionAfterClaim a now next status).1
    a'.pk = a.pk ∧ a'.cluster = a.cluster ∧ a'.endCondition = a.endCondition ∧
      a'.maxScheduledRuns = a.maxScheduledRuns ∧ a'.scheduledRunCount = a.scheduledRunCount ∧
      a'.deletedAt = a.deletedAt := by
  unfold advanceActionAfterClaim
  cases a.scheduleType with
  | once => simp
  | recurring => cases next <;> simp

/-- `_no_op_outcome`. -/
def noOpOutcome (a : ScheduledAction) (p : Preflight) : String :=
  match a.actionType with
  | .start => if p.status == "running" then "Guest is already running." else ""
  | .shutdown | .stop => if p.status == "stopped" then "Guest is already stopped." else ""
  | .reboot => ""

/-- `_skip_reason`. -/
def skipReason (a : ScheduledAction) (p : Preflight) : String :=
  if p.lock ≠ "" then "Guest is locked by Proxmox operation: " ++ p.lock ++ "."
  else if a.actionType = .reboot ∧ p.status = "stopped" then "Cannot reboot a stopped guest."
  else ""

/-! ## Closing a run -/

/-- The arguments of one call of `_finish_run`. Every caller closes the run:
it passes a status outside the in-flight set, and never a retirement code. -/
structure Finish where
  status : RunStatus
  outcome : Outcome
  actionStatus : LastStatus
  error : String
  result : RunResult
  closed : inFlight status = false
  ownResult : ∀ code, result ≠ .retirement code

/-- The guest already is in the wanted state. -/
def finishNoOp (text : String) : Finish :=
  ⟨.completed, .successNoop, .completed, "", .message text, rfl, by simp⟩

def finishSkipped (reason : String) : Finish :=
  ⟨.skipped, .skipped, .skipped, reason, .empty, rfl, by simp⟩

def finishTimeout (message : String) : Finish :=
  ⟨.timeout, .timeout, .timeout, message, .empty, rfl, by simp⟩

/-- A lookup, provider or unexpected failure. -/
def finishFailed (message : String) : Finish :=
  ⟨.failed, .failure, .failed, message, .empty, rfl, by simp⟩

/-- The Proxmox task ended badly. -/
def finishTaskFailed (message raw : String) : Finish :=
  ⟨.failed, .failure, .failed, message, .proxmoxTask raw "", rfl, by simp⟩

def finishCompleted (raw projectionRefreshError : String) : Finish :=
  ⟨.completed, .success, .completed, "", .proxmoxTask raw projectionRefreshError, rfl, by simp⟩

/-- The reaper's own call. -/
def finishStale : Finish :=
  ⟨.stale, .stale, .failed, "Scheduled action run was marked stale after worker timeout.", .empty, rfl, by simp⟩

/-- The columns `_finish_run` writes on the run. -/
def Finish.onRun (f : Finish) (now : Time) (r : ScheduledActionRun) : ScheduledActionRun :=
  { r with status := f.status, outcome := f.outcome, error := f.error, result := f.result, finishedAt := some now }

@[simp] theorem Finish.onRun_pk (f : Finish) (now : Time) (r : ScheduledActionRun) : (f.onRun now r).pk = r.pk := rfl

/-- The columns `_finish_run` writes on the action. -/
def Finish.onAction (f : Finish) (now : Time) (a : ScheduledAction) : ScheduledAction :=
  { a with lastStatus := f.actionStatus, lastRunAt := some now }

@[simp] theorem Finish.onAction_pk (f : Finish) (now : Time) (a : ScheduledAction) :
    (f.onAction now a).pk = a.pk := rfl

/-- The columns `_mark_submitted` writes. -/
def submittedRun (node upid : String) (r : ScheduledActionRun) : ScheduledActionRun :=
  { r with status := .polling, proxmoxTaskNode := node, proxmoxTaskUpid := upid }

@[simp] theorem submittedRun_pk (node upid : String) (r : ScheduledActionRun) :
    (submittedRun node upid r).pk = r.pk := rfl

/-- The columns the operator's cancel view saves. -/
def cancelledRun (username : String) (now : Time) (r : ScheduledActionRun) : ScheduledActionRun :=
  { r with
    status := .cancelled
    outcome := .cancelled
    error := "Cancelled by " ++ username ++ "."
    finishedAt := some now
    result := .cancelled username now }

@[simp] theorem cancelledRun_pk (username : String) (now : Time) (r : ScheduledActionRun) :
    (cancelledRun username now r).pk = r.pk := rfl

/-- `ProxmoxCluster.RetirementMode`. -/
inductive RetirementMode
  | verified | forced
deriving DecidableEq, Repr

def codeRetiredBeforeStart : String := "cluster_retired_before_start"
def codeForceRetiredUnresolvable : String := "cluster_force_retired_unresolvable"

/-- The code retirement leaves on a run that had not started. -/
def notStartedCode : RetirementMode → String
  | .forced => codeForceRetiredUnresolvable
  | .verified => codeRetiredBeforeStart

/-- The columns retirement writes on a run it terminalises. -/
def retiredRun (code : String) (retiredAt : Time) (r : ScheduledActionRun) : ScheduledActionRun :=
  { r with
    status := .cancelled
    outcome := .cancelled
    finishedAt := some retiredAt
    error := code
    result := .retirement code }

@[simp] theorem retiredRun_pk (code : String) (retiredAt : Time) (r : ScheduledActionRun) :
    (retiredRun code retiredAt r).pk = r.pk := rfl

end PveHelper.Scheduling
