/-
The parties that move a scheduled run: the dispatcher's claim transaction,
manual queueing, the workers executing a delivered task, the stale-run
reaper, the operator's cancel, toggle and delete views, history pruning and
cluster retirement.
Each database transaction or unconditional `update` is one step; what a party
keeps in memory between two steps (a worker's phase, the rows a reaper has
read, the run a cancel view is about to save) is part of the state, so every
interleaving of the source is a list of steps here.

A task may be delivered to any worker any number of times. A transaction the
database rolls back changes nothing and is no step.
-/
import PveHelper.Lib.Trans
import PveHelper.Scheduling.Rows

namespace PveHelper.Scheduling

open Lib

/-- Where a worker stands in `execute_scheduled_action_run`. -/
inductive Phase
  /-- `_start_run` has returned the run; the guest is being looked up. -/
  | started
  /-- The preflight is stored and asks for the action; `power_action` is next. -/
  | ready
  /-- `_mark_submitted` ran; `wait_for_task` is running. -/
  | polling
  /-- The task ended; `_run_was_cancelled` is next. -/
  | waited (success : Bool) (raw failure : String)
  /-- `_finish_run` is next. -/
  | closing (f : Finish)

/-- A worker between two of its database steps, with its copy of the action. -/
structure Worker where
  id : Nat
  run : Nat
  action : ScheduledAction
  phase : Phase

/-- A reaper in the loop of `reap_stale_scheduled_action_runs`: the runs it
read in flight, each with its action's timeout, not yet visited. -/
structure Reaper where
  id : Nat
  now : Time
  settingsTimeout : Nat
  rows : List (ScheduledActionRun × Nat)

/-- A cancel view past its checks, about to save its copy of the run. -/
structure CancelView where
  id : Nat
  run : ScheduledActionRun

/-- A run that entered preflight, kept as history. -/
structure Entry where
  run : Nat
  action : Nat
  automated : Bool
deriving DecidableEq

structure Sys where
  actions : Table ScheduledAction.pk
  runs : Table ScheduledActionRun.pk
  workers : Table Worker.id
  reapers : Table Reaper.id
  cancels : Table CancelView.id
  /-- The runs' primary-key sequence. -/
  nextPk : Nat
  /-- Not stored by the source: every entry into preflight, newest first. -/
  entered : List Entry

/-- `_has_in_flight_run`. -/
def hasInFlightRun (runs : Table ScheduledActionRun.pk) (action : Nat) : Bool :=
  runs.rows.any fun r => decide (r.scheduledAction = action) && inFlight r.status

/-- The run belongs to an action of the cluster. -/
def ofCluster (actions : Table ScheduledAction.pk) (cluster : Nat) (r : ScheduledActionRun) : Bool :=
  (actions.get r.scheduledAction).any fun a => decide (a.cluster = cluster)

/-- One action of a dispatch, with what `next_run_after` answers for it. -/
structure Claim where
  action : Nat
  next : Except String (Option Time)

/-- The steps of the parties. -/
inductive Act
  | deliver (worker run : Nat) (now : Time)
  | lookUp (worker : Nat) (p : Preflight)
  | lookUpFailed (worker : Nat) (p : Option Preflight) (message : String)
  | submit (worker : Nat) (node upid : String)
  | taskEnds (worker : Nat) (success : Bool) (raw failure : String)
  | timesOut (worker : Nat) (message : String)
  | fails (worker : Nat) (message : String)
  | checkCancelled (worker : Nat) (projectionRefreshError : String)
  | finish (worker : Nat) (now : Time)
  | crash (worker : Nat)
  | reap (reaper : Nat) (now : Time) (settingsTimeout : Nat)
  | reapNext (reaper : Nat) (now : Time)
  | cancelRead (view run : Nat)
  | cancelSave (view : Nat) (username : String) (now : Time)
  | cancelAbandon (view : Nat)
  | claim (now : Time) (c : Claim)
  | queueManual (action : Nat) (username : String) (now : Time)
  | toggle (action : Nat) (enabled : Bool) (nextRunAt : Option Time)
  | deleteAction (action : Nat) (now : Time)
  | prune (now : Time) (retentionDays : Nat)
  | retire (cluster : Nat) (mode : RetirementMode) (retiredAt : Time)

/-! ## The worker -/

def Sys.moveWorker (s : Sys) (w : Worker) (p : Phase) : Sys :=
  { s with workers := s.workers.put { w with phase := p } }

def Sys.dropWorker (s : Sys) (id : Nat) : Sys :=
  { s with workers := s.workers.keep fun w => decide (w.id ≠ id) }

/-- `_store_preflight`: an empty snapshot writes nothing. -/
def storePreflight (runs : Table ScheduledActionRun.pk) (run : Nat) : Option Preflight →
    Table ScheduledActionRun.pk
  | none => runs
  | some p => runs.alter run (fun r => { r with preflightSnapshot := some p, proxmoxTaskNode := p.node }) fun _ => rfl

/-- `_mark_submitted`: by primary key, whatever the stored status is. -/
def markSubmitted (runs : Table ScheduledActionRun.pk) (run : Nat) (node upid : String) :
    Table ScheduledActionRun.pk :=
  runs.alter run (submittedRun node upid) (submittedRun_pk node upid)

/-- `_finish_run`: by primary key, whatever the stored status is. -/
def finishRun (s : Sys) (run action : Nat) (f : Finish) (now : Time) : Sys :=
  { s with
    runs := s.runs.alter run (f.onRun now) (f.onRun_pk now)
    actions := s.actions.alter action (f.onAction now) (f.onAction_pk now) }

/-- The phase after the preflight is stored. -/
def afterPreflight (a : ScheduledAction) (p : Preflight) : Phase :=
  if noOpOutcome a p ≠ "" then .closing (finishNoOp (noOpOutcome a p))
  else if skipReason a p ≠ "" then .closing (finishSkipped (skipReason a p))
  else .ready

/-- `_start_run`, and the worker it leaves running. -/
def startRun (s : Sys) (worker run : Nat) (now : Time) : Option Sys :=
  match s.runs.get run with
  | none => some s
  | some r =>
    if r.status ≠ .queued then some s
    else match s.actions.get r.scheduledAction with
      | none => none
      | some a =>
        if r.automated && scheduledActionRunLimitReached a then
          some { s with
            runs := s.runs.put { r with
              status := .cancelled, outcome := .cancelled, finishedAt := some now
              error := "The scheduled run limit was already reached." }
            actions := s.actions.put { a with enabled := false, nextRunAt := none } }
        else
          let counted := { a with scheduledRunCount := a.scheduledRunCount + 1 }
          let a' := if !r.automated then a
            else if scheduledActionRunLimitReached counted then { counted with enabled := false, nextRunAt := none }
            else counted
          some { s with
            runs := s.runs.put { r with status := .preflight, startedAt := some now }
            actions := s.actions.put a'
            workers := s.workers.put ⟨worker, run, a', .started⟩
            entered := ⟨run, a.pk, r.automated⟩ :: s.entered }

/-- `_run_was_cancelled`. -/
def runWasCancelled (runs : Table ScheduledActionRun.pk) (run : Nat) : Bool :=
  (runs.get run).any fun r => decide (r.status = .cancelled)

/-! ## Queueing, reaping, retiring -/

/-- A new run as the queueing paths create it. -/
def newRun (pk action : Nat) (plannedFor : Time) (key : OccurrenceKey) (createdAt : Time) (error : String) :
    ScheduledActionRun where
  pk := pk
  scheduledAction := action
  plannedFor := plannedFor
  occurrenceKey := key
  createdAt := createdAt
  startedAt := none
  finishedAt := none
  status := .queued
  outcome := .blank
  proxmoxTaskUpid := ""
  proxmoxTaskNode := ""
  preflightSnapshot := none
  result := .empty
  error := error

/-- The unique constraint on (action, occurrence key). -/
def occurrenceTaken (runs : Table ScheduledActionRun.pk) (action : Nat) (key : OccurrenceKey) : Bool :=
  runs.rows.any fun r => decide (r.scheduledAction = action) && decide (r.occurrenceKey = key)

/-- One action of the claim transaction of `dispatch_due_scheduled_actions`;
not enabled unless the action is due. -/
def claimAction (s : Sys) (now : Time) (c : Claim) : Option Sys :=
  match s.actions.get c.action with
  | none => none
  | some a =>
    if !a.enabled || a.deletedAt.isSome then none
    else match a.nextRunAt with
      | none => none
      | some plannedFor =>
        if now < plannedFor then none
        else if hasInFlightRun s.runs a.pk then some s
        else if occurrenceTaken s.runs a.pk (.planned plannedFor) then
          some { s with actions := s.actions.put (advanceActionAfterClaim a now c.next .skipped).1 }
        else if isMissed a plannedFor now then
          let (a', advanceError) := advanceActionAfterClaim a now c.next .missed
          let error := if advanceError = "" then "Scheduled run was outside its allowed dispatch window."
            else advanceError
          some { s with
            actions := s.actions.put a'
            runs := s.runs.put { newRun s.nextPk a.pk plannedFor (.planned plannedFor) now error with
              status := .missed, outcome := .missed, finishedAt := some now }
            nextPk := s.nextPk + 1 }
        else
          let (a', advanceError) := advanceActionAfterClaim a now c.next .queued
          some { s with
            actions := s.actions.put a'
            runs := s.runs.put (newRun s.nextPk a.pk plannedFor (.planned plannedFor) now advanceError)
            nextPk := s.nextPk + 1 }

/-- `queue_manual_scheduled_action_run`; a refusal is no step. -/
def queueManual (s : Sys) (action : Nat) (username : String) (now : Time) : Option Sys :=
  match s.actions.get action with
  | none => none
  | some a =>
    let key := OccurrenceKey.manual a.pk now username
    if a.deletedAt.isSome || hasInFlightRun s.runs a.pk || occurrenceTaken s.runs a.pk key then none
    else some { s with
      runs := s.runs.put (newRun s.nextPk a.pk now key now "")
      actions := s.actions.put { a with lastStatus := .queued, lastRunAt := some now }
      nextPk := s.nextPk + 1 }

/-- The two columns `scheduled_task_toggle` saves, from what it read earlier. -/
def toggledAction (enabled : Bool) (nextRunAt : Option Time) (a : ScheduledAction) : ScheduledAction :=
  { a with enabled := enabled, nextRunAt := nextRunAt }

@[simp] theorem toggledAction_pk (enabled : Bool) (nextRunAt : Option Time) (a : ScheduledAction) :
    (toggledAction enabled nextRunAt a).pk = a.pk := rfl

/-- `scheduled_task_delete`; a refusal is no step. -/
def deleteAction (s : Sys) (action : Nat) (now : Time) : Option Sys :=
  match s.actions.get action with
  | none => none
  | some a =>
    if a.deletedAt.isSome || hasInFlightRun s.runs a.pk then none
    else some { s with
      actions := s.actions.put { a with enabled := false, nextRunAt := none, deletedAt := some now } }

/-- The rows one pass of the reaper reads. -/
def staleCandidates (s : Sys) : List (ScheduledActionRun × Nat) :=
  (s.runs.rows.filter fun r => inFlight r.status).map fun r =>
    (r, ((s.actions.get r.scheduledAction).map (·.actionTimeoutSeconds)).getD 0)

/-- `stale_after > now` does not hold, for a run as the reaper read it. -/
def isStale (now : Time) (settingsTimeout : Nat) (row : ScheduledActionRun × Nat) : Bool :=
  let referenceTime := row.1.startedAt.getD row.1.createdAt
  let timeout : Int := max row.2 settingsTimeout
  decide (referenceTime + timeout + staleRunGrace ≤ now)

/-- `prune_scheduled_action_runs`. -/
def pruneRuns (runs : Table ScheduledActionRun.pk) (now : Time) (retentionDays : Nat) :
    Table ScheduledActionRun.pk :=
  runs.keep fun r => inFlight r.status || !(r.finishedAt.any fun t => decide (t < now - retentionDays * 86400))

/-- `ScheduledActionRetirementPreflight.gate_clear`, over the locked rows. -/
def retirementGateClear (s : Sys) (cluster : Nat) (mode : RetirementMode) : Bool :=
  let rows := s.runs.rows.filter fun r => ofCluster s.actions cluster r && !retirementTerminal r.status
  let notStarted := (rows.filter fun r => retirementNotStarted r.status).length
  let active := (rows.filter fun r => retirementActive r.status).length
  decide (rows.length - notStarted - active = 0) && (decide (mode = .forced) || decide (active = 0))

/-- `finalize_cluster_retirement_scheduled_actions`; a blocked retirement is no step. -/
def finalizeRetirement (s : Sys) (cluster : Nat) (mode : RetirementMode) (retiredAt : Time) : Option Sys :=
  if !retirementGateClear s cluster mode then none
  else
    let notStartedCancelled := s.runs.updateWhere
      (fun r => ofCluster s.actions cluster r && retirementNotStarted r.status)
      (retiredRun (notStartedCode mode) retiredAt) (retiredRun_pk _ _)
    some { s with
      actions := s.actions.updateWhere (fun a => decide (a.cluster = cluster) && a.deletedAt.isNone)
        (fun a => { a with enabled := false, nextRunAt := none, deletedAt := some retiredAt }) fun _ => rfl
      runs := match mode with
        | .verified => notStartedCancelled
        | .forced => notStartedCancelled.updateWhere
            (fun r => ofCluster s.actions cluster r && retirementActive r.status)
            (retiredRun codeForceRetiredUnresolvable retiredAt) (retiredRun_pk _ _) }

/-! ## Steps -/

/-- One step of one party. -/
def act (s : Sys) : Act → Option Sys
  | .deliver worker run now => if (s.workers.get worker).isSome then none else startRun s worker run now
  | .lookUp worker p => (s.workers.get worker).bind fun w =>
    match w.phase with
    | .started =>
      some ({ s with runs := storePreflight s.runs w.run (some p) }.moveWorker w (afterPreflight w.action p))
    | _ => none
  | .lookUpFailed worker p message => (s.workers.get worker).bind fun w =>
    match w.phase with
    | .started =>
      some ({ s with runs := storePreflight s.runs w.run p }.moveWorker w (.closing (finishFailed message)))
    | _ => none
  | .submit worker node upid => (s.workers.get worker).bind fun w =>
    match w.phase with
    | .ready => some ({ s with runs := markSubmitted s.runs w.run node upid }.moveWorker w .polling)
    | _ => none
  | .taskEnds worker success raw failure => (s.workers.get worker).bind fun w =>
    match w.phase with
    | .polling => some (s.moveWorker w (.waited success raw failure))
    | _ => none
  | .timesOut worker message => (s.workers.get worker).bind fun w =>
    match w.phase with
    | .polling => some (s.moveWorker w (.closing (finishTimeout message)))
    | _ => none
  | .fails worker message => (s.workers.get worker).bind fun w =>
    match w.phase with
    | .started | .ready | .polling => some (s.moveWorker w (.closing (finishFailed message)))
    | _ => none
  | .checkCancelled worker projectionRefreshError => (s.workers.get worker).bind fun w =>
    match w.phase with
    | .waited success raw failure =>
      if runWasCancelled s.runs w.run then some (s.dropWorker w.id)
      else if success then some (s.moveWorker w (.closing (finishCompleted raw projectionRefreshError)))
      else some (s.moveWorker w (.closing (finishTaskFailed failure raw)))
    | _ => none
  | .finish worker now => (s.workers.get worker).bind fun w =>
    match w.phase with
    | .closing f => some ((finishRun s w.run w.action.pk f now).dropWorker w.id)
    | _ => none
  | .crash worker => (s.workers.get worker).map fun w => s.dropWorker w.id
  | .reap reaper now settingsTimeout =>
    if (s.reapers.get reaper).isSome then none
    else some { s with reapers := s.reapers.put ⟨reaper, now, settingsTimeout, staleCandidates s⟩ }
  | .reapNext reaper now => (s.reapers.get reaper).bind fun p =>
    match p.rows with
    | [] => some { s with reapers := s.reapers.keep fun q => decide (q.id ≠ p.id) }
    | row :: rows =>
      let s' := { s with reapers := s.reapers.put { p with rows := rows } }
      if isStale p.now p.settingsTimeout row then
        some (finishRun s' row.1.pk row.1.scheduledAction finishStale now)
      else some s'
  | .cancelRead view run => (s.runs.get run).bind fun r =>
    if (s.cancels.get view).isSome || !retirementActive r.status || r.proxmoxTaskUpid = "" ||
      r.proxmoxTaskNode = "" then none
    else some { s with cancels := s.cancels.put ⟨view, r⟩ }
  | .cancelSave view username now => (s.cancels.get view).map fun v =>
    let s' := { s with cancels := s.cancels.keep fun q => decide (q.id ≠ v.id) }
    -- Saving named columns of a row that is gone raises before anything is written.
    if (s.runs.get v.run.pk).isNone then s'
    else { s' with
      runs := s.runs.alter v.run.pk (cancelledRun username now) (cancelledRun_pk username now)
      actions := s.actions.alter v.run.scheduledAction
        (fun a => { a with lastStatus := .cancelled, lastRunAt := some now }) fun _ => rfl }
  | .cancelAbandon view => (s.cancels.get view).map fun v =>
    { s with cancels := s.cancels.keep fun q => decide (q.id ≠ v.id) }
  | .claim now c => claimAction s now c
  | .queueManual action username now => queueManual s action username now
  | .toggle action enabled nextRunAt =>
    some { s with actions := s.actions.alter action (toggledAction enabled nextRunAt) (toggledAction_pk _ _) }
  | .deleteAction action now => deleteAction s action now
  | .prune now retentionDays => some { s with runs := pruneRuns s.runs now retentionDays }
  | .retire cluster mode retiredAt => finalizeRetirement s cluster mode retiredAt

/-- A step of the system: one party's step, or one whole claim transaction of
a dispatcher, over the due actions it managed to lock. -/
inductive Label
  | one (a : Act)
  | dispatch (now : Time) (claims : List Claim)

def step (s : Sys) : Label → Option Sys
  | .one a => act s a
  | .dispatch now claims =>
    if (claims.map (·.action)).Nodup then run act s (claims.map (.claim now)) else none

/-- What every party's step preserves, every step preserves. -/
theorem step_inv {I : Sys → Prop} (hact : ∀ {s x s'}, I s → act s x = some s' → I s') {s s' : Sys} {l : Label}
    (hi : I s) (h : step s l = some s') : I s' := by
  cases l with
  | one x => exact hact hi h
  | dispatch now claims =>
    simp only [step] at h
    split at h
    · exact run_inv hact hi h
    · cases h

/-- Where the runs below start: any schedules, none of them run yet, and no
party under way. -/
structure Initial (s : Sys) : Prop where
  noRuns : s.runs.rows = []
  noWorkers : s.workers.rows = []
  noReapers : s.reapers.rows = []
  noCancels : s.cancels.rows = []
  nothingEntered : s.entered = []
  uncounted : ∀ pk a, s.actions.get pk = some a → a.scheduledRunCount = 0

end PveHelper.Scheduling
