/-
The fan-out of one tag operation over its guests, after
`core/services/tag_actions.py` and `_reap_stale_tag_operations`. The state is one
`tag.bulk_operation` event and the parties about it: the enqueuers with their copy
of the details, the workers with theirs. A retry and the reaper hold the row's
lock; every other write saves a copy as it is.

What a provider answers (the outcome of one guest's update, the verification at
the end) and what the broker knows are inputs of the steps.
-/
import PveHelper.Operations.Events

namespace PveHelper.Operations

open Lib

/-! ## Rows -/

/-- A guest the operation is for; `guestRef` is its `_target_key`. -/
structure FanoutTarget where
  guestRef : String
  clusterKey : String
  node : String
  objectType : String
  vmid : Nat
  name : String
  deriving DecidableEq

/-- A target with what came of it; a failure of the registry has no target. -/
structure FanoutItem where
  target : Option FanoutTarget
  reason : String
  deriving DecidableEq

structure FanoutDetails where
  operation : String
  clusterKey : String
  sourceTag : String
  newTag : String
  username : String
  targets : List FanoutTarget
  succeeded : List FanoutItem := []
  skipped : List FanoutItem := []
  failed : List FanoutItem := []
  retryAttempt : Nat := 0
  stage : String := "queued"
  queuedAt : Option Nat := none
  heartbeatAt : Option Nat := none
  finishedAt : Option Nat := none
  interruptedAt : Option Nat := none
  error : Option String := none
  queueErrorType : Option String := none
  retryable : Option Bool := none
  workerTaskId : Option String := none
  postconditionComplete : Option Bool := none
  postconditionErrors : List String := []
  remainingTargets : List FanoutTarget := []
  summaryAuditId : Option Nat := none
  deriving DecidableEq

/-- The guests the details have as done. -/
def FanoutDetails.recorded (d : FanoutDetails) : List FanoutItem × List FanoutItem := (d.succeeded, d.skipped)

/-- The first save of `enqueue_tag_operation`. -/
def queuedDetails (now : Nat) (d : FanoutDetails) : FanoutDetails :=
  { d with
    stage := "queued", queuedAt := some now, finishedAt := none, interruptedAt := none, heartbeatAt := none,
    error := none, retryable := none }

/-- Its save when the broker fails. -/
def queueFailedDetails (errorType : String) (now : Nat) (d : FanoutDetails) : FanoutDetails :=
  { d with
    stage := "enqueue failed"
    error := some "The background task could not be queued; retry is safe."
    queueErrorType := some errorType
    retryable := some true
    finishedAt := some now }

/-- What `retry_tag_operation` commits. -/
def retriedDetails (d : FanoutDetails) : FanoutDetails :=
  { d with
    retryAttempt := d.retryAttempt + 1, stage := "retry requested", failed := [], finishedAt := none,
    interruptedAt := none, heartbeatAt := none, error := none, queueErrorType := none, retryable := none,
    workerTaskId := none }

/-- Whether `retry_tag_operation` goes on. -/
def retryAdmitted (outcome : Outcome) (d : FanoutDetails) (broker : Broker) : Bool :=
  outcome == .failed && d.retryable == some true && !d.targets.isEmpty &&
    !(d.workerTaskId.getD "" != "" && broker.waiting (d.workerTaskId.getD ""))

/-- The claim of `execute_tag_operation`. -/
def claimedDetails (now : Nat) (d : FanoutDetails) : FanoutDetails :=
  { d with stage := "updating guests", heartbeatAt := some now }

/-- The targets a worker still has to visit. -/
def FanoutDetails.open (d : FanoutDetails) : List FanoutTarget :=
  let terminal := (d.succeeded ++ d.skipped).filterMap fun item => item.target.map (·.guestRef)
  d.targets.filter fun t => !terminal.contains t.guestRef

def clusterGoneDetails (now : Nat) (d : FanoutDetails) : FanoutDetails :=
  { d with
    stage := "failed", error := some "The selected Proxmox cluster no longer exists.", finishedAt := some now }

/-- The bucket `_update_target` names. -/
inductive Bucket
  | succeeded
  | skipped
  | failed
  deriving DecidableEq

/-- The save after one target. -/
def visitedDetails (t : FanoutTarget) (bucket : Bucket) (message : String) (now : Nat) (d : FanoutDetails) :
    FanoutDetails :=
  let item : FanoutItem := ⟨some t, message⟩
  match bucket with
  | .succeeded => { d with succeeded := d.succeeded ++ [item], heartbeatAt := some now }
  | .skipped => { d with skipped := d.skipped ++ [item], heartbeatAt := some now }
  | .failed => { d with failed := d.failed ++ [item], heartbeatAt := some now }

/-- What the worker finds when it has visited its targets. -/
structure Verification where
  complete : Bool
  errors : List String
  remaining : List FanoutTarget
  /-- The error of `unregister_tag`, empty where there is none. -/
  unregisterError : String

/-- The failures after the verification. -/
def verified (v : Verification) (d : FanoutDetails) : FanoutDetails :=
  let reason :=
    if !v.complete then ["Could not verify tag membership on every Proxmox endpoint."]
    else if !v.remaining.isEmpty then
      ["The source tag is still assigned to " ++ toString v.remaining.length ++ " guest(s)."]
    else []
  { d with
    postconditionComplete := some v.complete
    postconditionErrors := v.errors
    remainingTargets := v.remaining
    failed := d.failed ++ reason.map (⟨none, ·⟩) }

/-- The last save of `execute_tag_operation`. -/
def fanoutEnding (v : Verification) (now : Nat) (d : FanoutDetails) : Outcome × FanoutDetails :=
  let d := verified v d
  if !d.failed.isEmpty then
    (.failed, { d with stage := "partial failure", retryable := some true, finishedAt := some now })
  else if v.unregisterError != "" then
    (.failed, { d with
      failed := d.failed ++ [⟨none, v.unregisterError⟩], retryable := some true, finishedAt := some now })
  else (.success, { d with stage := "completed", finishedAt := some now })

/-- `_reap_stale_tag_operations`, what it says of the task. -/
def reapedError (broker : Broker) (taskId : String) : String :=
  match if taskId = "" then none else broker.finished taskId with
  | some false => "The background worker reported that the operation failed; retry is safe."
  | some true => "The background task finished without finalizing the operation; retry is safe."
  | none =>
    if taskId != "" then "The queued background task is no longer present; retry is safe."
    else "The operation was not attached to a background task; retry is safe."

def reapedDetails (broker : Broker) (now : Nat) (d : FanoutDetails) : FanoutDetails :=
  { d with
    stage := "interrupted"
    error := some (reapedError broker (d.workerTaskId.getD ""))
    retryable := some true
    interruptedAt := some now
    finishedAt := some now }

/-! ## The system -/

/-- Where an enqueuer stands in `enqueue_tag_operation`. -/
inductive EnqueuePhase
  | saving
  | sending
  /-- The broker has the task; its id is to be saved. -/
  | noting (taskId : String)
  deriving DecidableEq

structure FanoutEnqueuer where
  id : Nat
  copy : FanoutDetails
  phase : EnqueuePhase

/-- Where a worker stands in `execute_tag_operation`. -/
inductive FanoutPhase
  /-- It has read the event queued at its attempt. -/
  | claimed
  /-- It has saved the event running; the cluster and its inventory are read. -/
  | started
  | working (rest : List FanoutTarget)
  /-- It has finished with success; the summary is next. -/
  | summarizing
  deriving DecidableEq

structure FanoutWorker where
  id : Nat
  copy : FanoutDetails
  phase : FanoutPhase

structure FanoutSystem where
  timestamp : Nat
  outcome : Outcome
  details : FanoutDetails
  enqueuers : Table FanoutEnqueuer.id
  workers : Table FanoutWorker.id
  /-- The attempts whose task the broker has taken. -/
  sent : List Nat
  /-- Not stored by the source: the attempts that workers have begun, newest first. -/
  executed : List Nat

inductive FanoutAction
  | saveQueued (enqueuer now : Nat)
  | send (enqueuer : Nat) (taskId : String)
  | enqueueFails (enqueuer : Nat) (errorType : String) (now : Nat)
  | note (enqueuer : Nat)
  /-- `retry_tag_operation` up to its commit; the enqueuer goes on. -/
  | retry (enqueuer : Nat) (broker : Broker)
  /-- A delivery: the worker reads the event. -/
  | deliver (worker attempt : Nat)
  | claim (worker now : Nat)
  | clusterGone (worker now : Nat)
  /-- The cluster and its inventory have been read. -/
  | begin (worker : Nat)
  | visit (worker : Nat) (bucket : Bucket) (message : String) (now : Nat)
  | finish (worker : Nat) (v : Verification) (now : Nat)
  | summarize (worker auditId : Nat)
  | reap (broker : Broker) (now : Nat)

section
variable (s : FanoutSystem)

def FanoutSystem.without (id : Nat) : Table FanoutWorker.id := s.workers.keep (·.id != id)

/-- The event the creating view or a retry left, its enqueuer next. -/
def fanoutStep : FanoutAction → Option FanoutSystem
  | .saveQueued enqueuer now => do
    let q ← s.enqueuers.get enqueuer
    if q.phase = .saving then
      let details := queuedDetails now q.copy
      return { s with
        outcome := .queued, details := details
        enqueuers := s.enqueuers.put ⟨enqueuer, details, .sending⟩ }
    else none
  | .send enqueuer taskId => do
    let q ← s.enqueuers.get enqueuer
    if q.phase = .sending then
      return { s with
        enqueuers := s.enqueuers.put ⟨enqueuer, q.copy, .noting taskId⟩
        sent := q.copy.retryAttempt :: s.sent }
    else none
  | .enqueueFails enqueuer errorType now => do
    let q ← s.enqueuers.get enqueuer
    if q.phase = .sending then
      return { s with
        outcome := .failed, details := queueFailedDetails errorType now q.copy
        enqueuers := s.enqueuers.keep (·.id != enqueuer) }
    else none
  | .note enqueuer => do
    let q ← s.enqueuers.get enqueuer
    match q.phase with
    | .noting taskId =>
      return { s with
        details := { q.copy with workerTaskId := some taskId }
        enqueuers := s.enqueuers.keep (·.id != enqueuer) }
    | _ => none
  | .retry enqueuer broker =>
    if (s.enqueuers.get enqueuer).isNone && retryAdmitted s.outcome s.details broker then
      let details := retriedDetails s.details
      some { s with
        outcome := .queued, details := details
        enqueuers := s.enqueuers.put ⟨enqueuer, details, .saving⟩ }
    else none
  | .deliver worker attempt =>
    if s.sent.contains attempt && (s.workers.get worker).isNone && s.details.retryAttempt == attempt
        && s.outcome == .queued then
      some { s with workers := s.workers.put ⟨worker, s.details, .claimed⟩ }
    else none
  | .claim worker now => do
    let w ← s.workers.get worker
    if w.phase = .claimed then
      let details := claimedDetails now w.copy
      return { s with
        outcome := .running, details := details
        -- the copy in memory starts with no failures
        workers := s.workers.put ⟨worker, { details with failed := [] }, .started⟩
        executed := details.retryAttempt :: s.executed }
    else none
  | .clusterGone worker now => do
    let w ← s.workers.get worker
    if w.phase = .started then
      return { s with
        outcome := .failed, details := clusterGoneDetails now w.copy, workers := s.without worker }
    else none
  | .begin worker => do
    let w ← s.workers.get worker
    if w.phase = .started then
      return { s with workers := s.workers.put ⟨worker, w.copy, .working w.copy.open⟩ }
    else none
  | .visit worker bucket message now => do
    let w ← s.workers.get worker
    match w.phase with
    | .working (t :: rest) =>
      let details := visitedDetails t bucket message now w.copy
      return { s with
        details := details, workers := s.workers.put ⟨worker, details, .working rest⟩ }
    | _ => none
  | .finish worker v now => do
    let w ← s.workers.get worker
    match w.phase with
    | .working [] =>
      let e := fanoutEnding v now w.copy
      return { s with
        outcome := e.1, details := e.2
        workers := if e.1 = .success then s.workers.put ⟨worker, e.2, .summarizing⟩ else s.without worker }
    | _ => none
  | .summarize worker auditId => do
    let w ← s.workers.get worker
    if w.phase = .summarizing then
      return { s with
        details :=
          if w.copy.summaryAuditId.isSome then s.details else { w.copy with summaryAuditId := some auditId }
        workers := s.without worker }
    else none
  | .reap broker now =>
    let d := s.details
    if s.outcome.active && stale ((d.heartbeatAt <|> d.queuedAt).getD s.timestamp) now
        && !broker.inFlight (d.workerTaskId.getD "") then
      some { s with outcome := .failed, details := reapedDetails broker now d }
    else some s

end

/-! ## Saves in turn -/

/-- The event is at the attempt of the copy. -/
def FanoutSystem.atAttempt (s : FanoutSystem) (copy : FanoutDetails) : Bool :=
  s.details.retryAttempt == copy.retryAttempt

/-- A save from a copy finds the event where its writer left it: an enqueuer's first
save and a claim, queued at their attempt; the save of the task, at its attempt with
nothing recorded since; a worker's saves, at its attempt, and the ones that end the
operation running. -/
def FanoutInTurn (s : FanoutSystem) (l : FanoutAction) (_ : FanoutSystem) : Prop :=
  (match l with
  | .saveQueued q _ => (s.enqueuers.get q).all fun q => s.outcome == .queued && s.atAttempt q.copy
  | .enqueueFails q _ _ => (s.enqueuers.get q).all fun q => s.atAttempt q.copy
  | .note q => (s.enqueuers.get q).all fun q => s.atAttempt q.copy && s.details.recorded == q.copy.recorded
  | .claim w _ => (s.workers.get w).all fun w => s.outcome == .queued && s.atAttempt w.copy
  | .clusterGone w _ | .finish w _ _ => (s.workers.get w).all fun w => s.outcome == .running && s.atAttempt w.copy
  | .visit w _ _ _ | .summarize w _ => (s.workers.get w).all fun w => s.atAttempt w.copy
  | .send .. | .retry .. | .deliver .. | .begin .. | .reap .. => true) = true

instance (s : FanoutSystem) (l : FanoutAction) (s' : FanoutSystem) : Decidable (FanoutInTurn s l s') :=
  inferInstanceAs (Decidable (_ = true))

/-- What a step must not do: begin an attempt a worker has begun before, drop a target
from the lists of the done, or change a terminal outcome unless it is a retry. -/
structure FanoutSafe (s : FanoutSystem) (l : FanoutAction) (s' : FanoutSystem) : Prop where
  once : s'.executed.Nodup
  succeeded : s.details.succeeded ⊆ s'.details.succeeded
  skipped : s.details.skipped ⊆ s'.details.skipped
  terminal : s.outcome.active = false → s'.outcome = s.outcome ∨ ∃ enqueuer broker, l = .retry enqueuer broker

/-! ## The invariant -/

/-- The worker has begun its attempt. -/
def FanoutWorker.begun (w : FanoutWorker) : Prop := w.phase ≠ .claimed

/-- What holds as long as the saves are in turn. -/
structure FanoutSystem.Inv (s : FanoutSystem) : Prop where
  once : s.executed.Nodup
  /-- Only an attempt in the broker's hands is executed, and none beyond the event's. -/
  sent : s.executed ⊆ s.sent
  executed : ∀ a ∈ s.sent, a ≤ s.details.retryAttempt
  queued : s.outcome = .queued → s.details.retryAttempt ∉ s.executed
  waiting : s.details.retryAttempt ∉ s.executed → s.outcome = .queued ∨ s.outcome = .failed
  enqueuers : s.enqueuers.All fun q => q.copy.retryAttempt ≤ s.details.retryAttempt
  apart : ∀ i j q q', s.enqueuers.get i = some q → s.enqueuers.get j = some q' →
    q.copy.retryAttempt = q'.copy.retryAttempt → i = j
  /-- An enqueuer that has not handed over its task has the lists of the event. -/
  unsent : ∀ i q, s.enqueuers.get i = some q → q.phase = .saving ∨ q.phase = .sending →
    q.copy.retryAttempt ∉ s.sent ∧
      (q.copy.retryAttempt = s.details.retryAttempt → q.copy.recorded = s.details.recorded)
  workers : s.workers.All fun w => w.copy.retryAttempt ∈ s.sent
  claimed : s.workers.All fun w => w.phase = .claimed → s.outcome = .queued →
    w.copy.retryAttempt = s.details.retryAttempt → w.copy.recorded = s.details.recorded
  begun : s.workers.All fun w => w.begun → w.copy.retryAttempt ∈ s.executed ∧
    (w.copy.retryAttempt = s.details.retryAttempt → w.copy.recorded = s.details.recorded)
  alone : ∀ i j w w', s.workers.get i = some w → s.workers.get j = some w' → w.begun → w'.begun →
    w.copy.retryAttempt = w'.copy.retryAttempt → i = j

namespace FanoutSystem.Inv

variable {s : FanoutSystem}

/-- The event saved at its attempt, with its lists. -/
theorem stored (hs : s.Inv) {o : Outcome} {d : FanoutDetails} (ha : d.retryAttempt = s.details.retryAttempt)
    (hr : d.recorded = s.details.recorded) (ho : o = .queued → s.outcome = .queued)
    (hw : d.retryAttempt ∉ s.executed → o = .queued ∨ o = .failed) : { s with outcome := o, details := d }.Inv where
  once := hs.once
  sent := hs.sent
  executed := fun a h => ha ▸ hs.executed a h
  queued h := ha ▸ hs.queued (ho h)
  waiting h := hw h
  enqueuers i q hq := ha ▸ hs.enqueuers i q hq
  apart := hs.apart
  unsent i q hq hp := by
    obtain ⟨hn, hrec⟩ := hs.unsent i q hq hp
    exact ⟨hn, fun h => (hrec (h.trans ha)).trans hr.symm⟩
  workers := hs.workers
  claimed i w hw' hp hq h := (hs.claimed i w hw' hp (ho hq) (h.trans ha)).trans hr.symm
  begun i w hw' hp := by
    obtain ⟨he, hrec⟩ := hs.begun i w hw' hp
    exact ⟨he, fun h => (hrec (h.trans ha)).trans hr.symm⟩
  alone := hs.alone

/-- An enqueuer is done. -/
theorem dropEnqueuer (hs : s.Inv) (p : FanoutEnqueuer → Bool) : { s with enqueuers := s.enqueuers.keep p }.Inv := by
  have hget : ∀ i q, (s.enqueuers.keep p).get i = some q → s.enqueuers.get i = some q := by
    intro i q hq
    rw [Table.get_keep, Option.filter_eq_some_iff] at hq
    exact hq.1
  exact { hs with
    enqueuers := hs.enqueuers.keep p
    apart := fun i j q q' hq hq' => hs.apart i j q q' (hget i q hq) (hget j q' hq')
    unsent := fun i q hq => hs.unsent i q (hget i q hq) }

/-- A worker is done. -/
theorem dropWorker (hs : s.Inv) (p : FanoutWorker → Bool) : { s with workers := s.workers.keep p }.Inv := by
  have hget : ∀ i w, (s.workers.keep p).get i = some w → s.workers.get i = some w := by
    intro i w hw
    rw [Table.get_keep, Option.filter_eq_some_iff] at hw
    exact hw.1
  exact { hs with
    workers := hs.workers.keep p
    claimed := hs.claimed.keep p
    begun := hs.begun.keep p
    alone := fun i j w w' hw hw' => hs.alone i j w w' (hget i w hw) (hget j w' hw') }

/-- An enqueuer goes on, with its attempt and its lists. -/
theorem setEnqueuer (hs : s.Inv) {q : FanoutEnqueuer} (q' : FanoutEnqueuer) (hq : s.enqueuers.get q.id = some q)
    (hid : q'.id = q.id)
    (ha : q'.copy.retryAttempt = q.copy.retryAttempt) (hr : q'.copy.recorded = q.copy.recorded)
    (hp : q'.phase = .saving ∨ q'.phase = .sending → q.phase = .saving ∨ q.phase = .sending) :
    { s with enqueuers := s.enqueuers.put q' }.Inv := by
  have hget : ∀ i x, (s.enqueuers.put q').get i = some x →
      (i = q.id ∧ x = q') ∨ (i ≠ q.id ∧ s.enqueuers.get i = some x) := by
    intro i x hx
    rw [Table.get_put, hid] at hx
    split at hx
    · exact .inl ⟨‹_›, (Option.some.inj hx).symm⟩
    · exact .inr ⟨‹_›, hx⟩
  refine { hs with enqueuers := hs.enqueuers.put (ha ▸ hs.enqueuers _ q hq), apart := ?_, unsent := ?_ }
  · intro i j x y hx hy hxy
    rcases hget i x hx with ⟨rfl, rfl⟩ | ⟨-, hx'⟩ <;> rcases hget j y hy with ⟨rfl, rfl⟩ | ⟨-, hy'⟩
    · rfl
    · exact hs.apart _ _ q y hq hy' (ha.symm.trans hxy)
    · exact hs.apart _ _ x q hx' hq (hxy.trans ha)
    · exact hs.apart _ _ x y hx' hy' hxy
  · intro i x hx hphase
    rcases hget i x hx with ⟨rfl, rfl⟩ | ⟨-, hx⟩
    · obtain ⟨hn, hrec⟩ := hs.unsent _ q hq (hp hphase)
      exact ⟨ha ▸ hn, fun h => hr.trans (hrec (ha.symm.trans h))⟩
    · exact hs.unsent i x hx hphase

/-- A worker at work goes on, with its attempt and its lists. -/
theorem setWorker (hs : s.Inv) {w w' : FanoutWorker} (hw : s.workers.get w.id = some w) (hid : w'.id = w.id)
    (hb : w.begun) (hb' : w'.begun) (ha : w'.copy.retryAttempt = w.copy.retryAttempt)
    (hr : w'.copy.recorded = w.copy.recorded) : { s with workers := s.workers.put w' }.Inv := by
  have hget : ∀ i x, (s.workers.put w').get i = some x →
      (i = w.id ∧ x = w') ∨ (i ≠ w.id ∧ s.workers.get i = some x) := by
    intro i x hx
    rw [Table.get_put, hid] at hx
    split at hx
    · exact .inl ⟨‹_›, (Option.some.inj hx).symm⟩
    · exact .inr ⟨‹_›, hx⟩
  refine { hs with
    workers := hs.workers.put (ha ▸ hs.workers _ w hw)
    claimed := hs.claimed.put fun hc => absurd hc hb'
    begun := hs.begun.put fun _ => ?_
    alone := ?_ }
  · obtain ⟨he, hrec⟩ := hs.begun _ w hw hb
    exact ⟨ha ▸ he, fun h => hr.trans (hrec (ha.symm.trans h))⟩
  · intro i j x y hx hy hbx hby hxy
    rcases hget i x hx with ⟨rfl, rfl⟩ | ⟨-, hx'⟩ <;> rcases hget j y hy with ⟨rfl, rfl⟩ | ⟨-, hy'⟩
    · rfl
    · exact hs.alone _ _ w y hw hy' hb hby (ha.symm.trans hxy)
    · exact hs.alone _ _ x w hx' hw hbx hb (hxy.trans ha)
    · exact hs.alone _ _ x y hx' hy' hbx hby hxy

/-- The broker takes the task of an enqueuer. -/
theorem sends (hs : s.Inv) {q : FanoutEnqueuer} (hq : s.enqueuers.get q.id = some q) (taskId : String) :
    { s with
      enqueuers := s.enqueuers.put ⟨q.id, q.copy, .noting taskId⟩
      sent := q.copy.retryAttempt :: s.sent }.Inv := by
  have hput := hs.setEnqueuer ⟨q.id, q.copy, .noting taskId⟩ hq rfl rfl rfl (by simp)
  refine { hput with
    sent := fun a h => List.mem_cons_of_mem _ (hs.sent h)
    executed := ?_
    unsent := ?_
    workers := fun i w hw => List.mem_cons_of_mem _ (hs.workers i w hw) }
  · intro a h
    rcases List.mem_cons.mp h with rfl | h
    · exact hs.enqueuers _ q hq
    · exact hs.executed a h
  · intro i x hx hphase
    obtain ⟨hn, hrec⟩ := hput.unsent i x hx hphase
    refine ⟨?_, hrec⟩
    rw [List.mem_cons, not_or]
    refine ⟨fun he => ?_, hn⟩
    -- an enqueuer of the same attempt is this one, which is past sending
    have hself : (s.enqueuers.put ⟨q.id, q.copy, .noting taskId⟩).get q.id = some ⟨q.id, q.copy, .noting taskId⟩ := by
      rw [Table.get_put, if_pos rfl]
    obtain rfl := hput.apart i q.id x _ hx hself he
    rw [hself] at hx
    obtain rfl := Option.some.inj hx
    rcases hphase with h | h <;> cases h

/-- A retry of the event. -/
theorem retries (hs : s.Inv) (enqueuer : Nat) :
    { s with
      outcome := .queued, details := retriedDetails s.details
      enqueuers := s.enqueuers.put ⟨enqueuer, retriedDetails s.details, .saving⟩ }.Inv := by
  have hnext : (retriedDetails s.details).retryAttempt = s.details.retryAttempt + 1 := rfl
  have hsent : (retriedDetails s.details).retryAttempt ∉ s.sent := by
    intro h
    have := hs.executed _ h
    omega
  have hget : ∀ i x, (s.enqueuers.put ⟨enqueuer, retriedDetails s.details, .saving⟩).get i = some x →
      (i = enqueuer ∧ x.copy.retryAttempt = s.details.retryAttempt + 1 ∧ x.copy = retriedDetails s.details) ∨
        (s.enqueuers.get i = some x ∧ x.copy.retryAttempt ≤ s.details.retryAttempt) := by
    intro i x hx
    rw [Table.get_put] at hx
    split at hx
    · obtain rfl := Option.some.inj hx
      exact .inl ⟨‹_›, rfl, rfl⟩
    · exact .inr ⟨hx, hs.enqueuers i x hx⟩
  refine
    { once := hs.once, sent := hs.sent, executed := fun a h => Nat.le_succ_of_le (hs.executed a h),
      queued := fun _ h => hsent (hs.sent h), waiting := fun _ => .inl rfl, enqueuers := ?_, apart := ?_, unsent := ?_,
      workers := hs.workers, claimed := ?_, begun := ?_, alone := hs.alone }
  · intro i x hx
    rcases hget i x hx with ⟨-, ha, -⟩ | ⟨-, ha⟩
    · exact Nat.le_of_eq ha
    · exact Nat.le_succ_of_le ha
  · intro i j x y hx hy hxy
    rcases hget i x hx with ⟨hi, ha, -⟩ | ⟨hx, ha⟩ <;> rcases hget j y hy with ⟨hj, hb, -⟩ | ⟨hy, hb⟩
    · rw [hi, hj]
    · omega
    · omega
    · exact hs.apart i j x y hx hy hxy
  · intro i x hx hphase
    rcases hget i x hx with ⟨-, -, hc⟩ | ⟨hx, ha⟩
    · rw [hc]
      exact ⟨hsent, fun _ => rfl⟩
    · refine ⟨(hs.unsent i x hx hphase).1, fun h => ?_⟩
      dsimp only at h
      omega
  · intro i w hw _ _ ha
    have := hs.executed _ (hs.workers i w hw)
    dsimp only at ha
    omega
  · intro i w hw hb
    refine ⟨(hs.begun i w hw hb).1, fun ha => ?_⟩
    have := hs.executed _ (hs.workers i w hw)
    dsimp only at ha
    omega

/-- A delivery reads the event queued. -/
theorem delivers (hs : s.Inv) (worker : Nat) (hsent : s.details.retryAttempt ∈ s.sent) :
    { s with workers := s.workers.put ⟨worker, s.details, .claimed⟩ }.Inv := by
  have hnot : ¬ (⟨worker, s.details, .claimed⟩ : FanoutWorker).begun := fun h => h rfl
  refine { hs with
    workers := hs.workers.put hsent
    claimed := hs.claimed.put fun _ _ _ => rfl
    begun := hs.begun.put fun h => absurd h hnot
    alone := ?_ }
  have hget : ∀ i x, (s.workers.put ⟨worker, s.details, .claimed⟩).get i = some x → x.begun → s.workers.get i = some x := by
    intro i x hx hb
    rw [Table.get_put] at hx
    split at hx
    · obtain rfl := Option.some.inj hx
      exact absurd hb hnot
    · exact hx
  intro i j x y hx hy hbx hby
  exact hs.alone i j x y (hget i x hx hbx) (hget j y hy hby) hbx hby

/-- A claim in turn. -/
theorem claims (hs : s.Inv) {w : FanoutWorker} (hw : s.workers.get w.id = some w) (hphase : w.phase = .claimed)
    (hqueued : s.outcome = .queued) (ha : w.copy.retryAttempt = s.details.retryAttempt) (now : Nat) :
    { s with
      outcome := .running, details := claimedDetails now w.copy
      workers := s.workers.put ⟨w.id, { claimedDetails now w.copy with failed := [] }, .started⟩
      executed := w.copy.retryAttempt :: s.executed }.Inv := by
  have hnew : s.details.retryAttempt ∉ s.executed := hs.queued hqueued
  have hsent : w.copy.retryAttempt ∈ s.sent := hs.workers _ w hw
  have hrec : w.copy.recorded = s.details.recorded := hs.claimed _ w hw hphase hqueued ha
  have hget : ∀ i x, (s.workers.put ⟨w.id, { claimedDetails now w.copy with failed := [] }, .started⟩).get i = some x →
      (i = w.id ∧ x.copy.retryAttempt = s.details.retryAttempt ∧ x.copy.recorded = s.details.recorded) ∨
        s.workers.get i = some x := by
    intro i x hx
    rw [Table.get_put] at hx
    split at hx
    · obtain rfl := Option.some.inj hx
      exact .inl ⟨‹_›, ha, hrec⟩
    · exact .inr hx
  -- a worker that had begun is of another attempt
  have hother : ∀ i x, s.workers.get i = some x → x.begun → x.copy.retryAttempt ≠ s.details.retryAttempt := by
    intro i x hx hb he
    exact hnew (he ▸ (hs.begun i x hx hb).1)
  exact
    { once := List.nodup_cons.mpr ⟨ha ▸ hnew, hs.once⟩
      sent := List.cons_subset.mpr ⟨hsent, hs.sent⟩
      executed := fun a h => Nat.le_trans (hs.executed a h) (Nat.le_of_eq ha.symm)
      queued := fun h => by cases h
      waiting := fun h => absurd (List.mem_cons_self ..) h
      enqueuers := fun i q hq => Nat.le_trans (hs.enqueuers i q hq) (Nat.le_of_eq ha.symm)
      apart := hs.apart
      unsent := fun i q hq hp => by
        obtain ⟨hn, -⟩ := hs.unsent i q hq hp
        refine ⟨hn, fun h => absurd ?_ hn⟩
        have : q.copy.retryAttempt = w.copy.retryAttempt := h
        exact this ▸ hsent
      workers := hs.workers.put hsent
      claimed := fun _ _ _ _ h => by cases h
      begun := fun i x hx hb => by
        rcases hget i x hx with ⟨-, hxa, hxr⟩ | hx
        · exact ⟨(hxa.trans ha.symm) ▸ List.mem_cons_self .., fun _ => hxr.trans hrec.symm⟩
        · refine ⟨List.mem_cons_of_mem _ (hs.begun i x hx hb).1, fun h => ?_⟩
          have hxa : x.copy.retryAttempt = w.copy.retryAttempt := h
          exact absurd (hxa.trans ha) (hother i x hx hb)
      alone := fun i j x y hx hy hbx hby hxy => by
        rcases hget i x hx with ⟨rfl, hxa, -⟩ | hx' <;> rcases hget j y hy with ⟨rfl, hya, -⟩ | hy'
        · rfl
        · exact absurd (hxy.symm.trans hxa) (hother j y hy' hby)
        · exact absurd (hxy.trans hya) (hother i x hx' hbx)
        · exact hs.alone i j x y hx' hy' hbx hby hxy }

/-- A target visited, at the event's attempt. -/
theorem visits (hs : s.Inv) {w : FanoutWorker} (hw : s.workers.get w.id = some w) (hb : w.begun)
    (ha : w.copy.retryAttempt = s.details.retryAttempt) {d : FanoutDetails} (hd : d.retryAttempt = w.copy.retryAttempt)
    (phase : FanoutPhase) :
    { s with details := d, workers := s.workers.put ⟨w.id, d, phase⟩ }.Inv := by
  have hin : s.details.retryAttempt ∈ s.executed := ha ▸ (hs.begun _ w hw hb).1
  have hda : d.retryAttempt = s.details.retryAttempt := hd.trans ha
  have hget : ∀ i x, (s.workers.put ⟨w.id, d, phase⟩).get i = some x →
      (i = w.id ∧ x.copy = d) ∨ (i ≠ w.id ∧ s.workers.get i = some x) := by
    intro i x hx
    rw [Table.get_put] at hx
    split at hx
    · obtain rfl := Option.some.inj hx
      exact .inl ⟨‹_›, rfl⟩
    · exact .inr ⟨‹_›, hx⟩
  exact
    { once := hs.once
      sent := hs.sent
      executed := fun a h => Nat.le_trans (hs.executed a h) (Nat.le_of_eq hda.symm)
      queued := fun h => absurd hin (hs.queued h)
      waiting := fun h => absurd (hda.symm ▸ hin) h
      enqueuers := fun i q hq => Nat.le_trans (hs.enqueuers i q hq) (Nat.le_of_eq hda.symm)
      apart := hs.apart
      unsent := fun i q hq hp => by
        obtain ⟨hn, -⟩ := hs.unsent i q hq hp
        refine ⟨hn, fun h => absurd (hs.sent hin) ?_⟩
        have hqa : q.copy.retryAttempt = d.retryAttempt := h
        exact hda ▸ hqa ▸ hn
      workers := hs.workers.put (by
        rw [hd]
        exact hs.workers _ w hw)
      claimed := fun _ _ _ _ h => absurd hin (hs.queued h)
      begun := fun i x hx hbx => by
        rcases hget i x hx with ⟨-, rfl⟩ | ⟨hne, hx⟩
        · exact ⟨hda.symm ▸ hin, fun _ => rfl⟩
        · refine ⟨(hs.begun i x hx hbx).1, fun h => ?_⟩
          have hxa : x.copy.retryAttempt = d.retryAttempt := h
          exact absurd (hs.alone i w.id x w hx hw hbx hb (hxa.trans hd)) hne
      alone := fun i j x y hx hy hbx hby hxy => by
        rcases hget i x hx with ⟨rfl, rfl⟩ | ⟨-, hx'⟩ <;> rcases hget j y hy with ⟨rfl, hyd⟩ | ⟨-, hy'⟩
        · rfl
        · exact hs.alone _ _ w y hw hy' hb hby (hd.symm.trans hxy)
        · exact hs.alone _ _ x w hx' hw hbx hb (hxy.trans (hyd ▸ hd))
        · exact hs.alone i j x y hx' hy' hbx hby hxy }

end FanoutSystem.Inv

/-! ## Runs in turn -/

section
variable {s s' : FanoutSystem} {l : FanoutAction}

theorem FanoutSafe.of_stored (hs : s.Inv) (he : s'.executed = s.executed) (hr : s'.details.recorded = s.details.recorded)
    (ho : s.outcome.active = false → s'.outcome = s.outcome) : FanoutSafe s l s' := by
  simp only [FanoutDetails.recorded, Prod.mk.injEq] at hr
  exact ⟨he ▸ hs.once, by simp [hr.1], by simp [hr.2], fun h => .inl (ho h)⟩

theorem fanoutEnding_recorded (v : Verification) (now : Nat) (d : FanoutDetails) :
    (fanoutEnding v now d).2.recorded = d.recorded := by
  unfold fanoutEnding
  simp only
  split_ifs <;> rfl

theorem fanoutEnding_attempt (v : Verification) (now : Nat) (d : FanoutDetails) :
    (fanoutEnding v now d).2.retryAttempt = d.retryAttempt := by
  unfold fanoutEnding
  simp only
  split_ifs <;> rfl

theorem fanoutEnding_ne_queued (v : Verification) (now : Nat) (d : FanoutDetails) :
    (fanoutEnding v now d).1 ≠ .queued := by
  unfold fanoutEnding
  simp only
  split_ifs <;> simp

theorem visitedDetails_attempt (t : FanoutTarget) (bucket : Bucket) (message : String) (now : Nat) (d : FanoutDetails) :
    (visitedDetails t bucket message now d).retryAttempt = d.retryAttempt := by
  cases bucket <;> rfl

theorem visitedDetails_succeeded (t : FanoutTarget) (bucket : Bucket) (message : String) (now : Nat)
    (d : FanoutDetails) : d.succeeded ⊆ (visitedDetails t bucket message now d).succeeded := by
  cases bucket <;> simp [visitedDetails]

theorem visitedDetails_skipped (t : FanoutTarget) (bucket : Bucket) (message : String) (now : Nat)
    (d : FanoutDetails) : d.skipped ⊆ (visitedDetails t bucket message now d).skipped := by
  cases bucket <;> simp [visitedDetails]

/-- **One step in turn** keeps the invariant and is safe. -/
theorem fanoutStep_safe (hs : s.Inv) (h : fanoutStep s l = some s') (hturn : FanoutInTurn s l s') :
    s'.Inv ∧ FanoutSafe s l s' := by
  cases l with
  | saveQueued enqueuer now =>
    simp only [fanoutStep, Option.bind_eq_bind, Option.bind_eq_some_iff] at h
    obtain ⟨q, hq, h⟩ := h
    split at h
    · rename_i hphase
      cases h
      simp only [FanoutInTurn, hq, Option.all_some, FanoutSystem.atAttempt, Bool.and_eq_true, beq_iff_eq] at hturn
      obtain ⟨ho, ha⟩ := hturn
      obtain rfl : q.id = enqueuer := Table.key_of_get hq
      have hrec := (hs.unsent _ q hq (.inl hphase)).2 ha.symm
      have hset := hs.setEnqueuer ⟨q.id, queuedDetails now q.copy, .sending⟩ hq rfl rfl rfl (by simp [hphase])
      exact ⟨hset.stored (o := .queued) ha.symm hrec (fun _ => ho) fun _ => .inl rfl,
        .of_stored hs rfl hrec fun hc => by simp [ho, Outcome.active] at hc⟩
    · cases h
  | send enqueuer taskId =>
    simp only [fanoutStep, Option.bind_eq_bind, Option.bind_eq_some_iff] at h
    obtain ⟨q, hq, h⟩ := h
    split at h
    · cases h
      obtain rfl : q.id = enqueuer := Table.key_of_get hq
      exact ⟨hs.sends hq taskId, .of_stored hs rfl rfl fun _ => rfl⟩
    · cases h
  | enqueueFails enqueuer errorType now =>
    simp only [fanoutStep, Option.bind_eq_bind, Option.bind_eq_some_iff] at h
    obtain ⟨q, hq, h⟩ := h
    split at h
    · rename_i hphase
      cases h
      simp only [FanoutInTurn, hq, Option.all_some, FanoutSystem.atAttempt, beq_iff_eq] at hturn
      obtain ⟨hsent, hrec⟩ := hs.unsent _ q hq (.inr hphase)
      have hrec := hrec hturn.symm
      have hnot : s.details.retryAttempt ∉ s.executed := fun he => hsent (hturn ▸ hs.sent he)
      refine ⟨(hs.dropEnqueuer _).stored (o := .failed) hturn.symm hrec (fun h => by cases h) fun _ => .inr rfl,
        .of_stored hs rfl hrec fun hc => ?_⟩
      -- nobody has begun the attempt, so the terminal outcome it may have is a failure
      rcases hs.waiting hnot with ho | ho
      · simp [ho, Outcome.active] at hc
      · exact ho.symm
    · cases h
  | note enqueuer =>
    simp only [fanoutStep, Option.bind_eq_bind, Option.bind_eq_some_iff] at h
    obtain ⟨q, hq, h⟩ := h
    split at h
    · cases h
      simp only [FanoutInTurn, hq, Option.all_some, FanoutSystem.atAttempt, Bool.and_eq_true, beq_iff_eq] at hturn
      obtain ⟨ha, hrec⟩ := hturn
      exact ⟨(hs.dropEnqueuer _).stored ha.symm hrec.symm id fun hn => hs.waiting (ha ▸ hn),
        .of_stored hs rfl hrec.symm fun _ => rfl⟩
    · cases h
  | retry enqueuer broker =>
    simp only [fanoutStep] at h
    split at h
    · cases h
      exact ⟨hs.retries enqueuer, ⟨hs.once, fun _ h => h, fun _ h => h, fun _ => .inr ⟨enqueuer, broker, rfl⟩⟩⟩
    · cases h
  | deliver worker attempt =>
    simp only [fanoutStep] at h
    split at h
    · rename_i hc
      cases h
      simp only [Bool.and_eq_true, List.contains_iff_mem, beq_iff_eq] at hc
      exact ⟨hs.delivers worker (hc.1.2 ▸ hc.1.1.1), .of_stored hs rfl rfl fun _ => rfl⟩
    · cases h
  | claim worker now =>
    simp only [fanoutStep, Option.bind_eq_bind, Option.bind_eq_some_iff] at h
    obtain ⟨w, hw, h⟩ := h
    split at h
    · rename_i hphase
      cases h
      simp only [FanoutInTurn, hw, Option.all_some, FanoutSystem.atAttempt, Bool.and_eq_true, beq_iff_eq] at hturn
      obtain ⟨ho, ha⟩ := hturn
      obtain rfl : w.id = worker := Table.key_of_get hw
      have hinv := hs.claims hw hphase ho ha.symm now
      have hrec : w.copy.recorded = s.details.recorded := hs.claimed _ w hw hphase ho ha.symm
      simp only [FanoutDetails.recorded, Prod.mk.injEq] at hrec
      refine ⟨hinv, ⟨hinv.once, ?_, ?_, fun hc => ?_⟩⟩
      · simp [claimedDetails, hrec.1]
      · simp [claimedDetails, hrec.2]
      · simp [ho, Outcome.active] at hc
    · cases h
  | clusterGone worker now =>
    simp only [fanoutStep, Option.bind_eq_bind, Option.bind_eq_some_iff] at h
    obtain ⟨w, hw, h⟩ := h
    split at h
    · rename_i hphase
      cases h
      simp only [FanoutInTurn, hw, Option.all_some, FanoutSystem.atAttempt, Bool.and_eq_true, beq_iff_eq] at hturn
      obtain ⟨ho, ha⟩ := hturn
      have hrec := (hs.begun _ w hw (by simp [FanoutWorker.begun, hphase])).2 ha.symm
      exact ⟨(hs.dropWorker _).stored (o := .failed) ha.symm hrec (fun h => by cases h) fun _ => .inr rfl,
        .of_stored hs rfl hrec fun hc => by simp [ho, Outcome.active] at hc⟩
    · cases h
  | begin worker =>
    simp only [fanoutStep, Option.bind_eq_bind, Option.bind_eq_some_iff] at h
    obtain ⟨w, hw, h⟩ := h
    split at h
    · rename_i hphase
      cases h
      obtain rfl : w.id = worker := Table.key_of_get hw
      exact ⟨hs.setWorker hw rfl (by simp [FanoutWorker.begun, hphase]) (by simp [FanoutWorker.begun]) rfl rfl,
        .of_stored hs rfl rfl fun _ => rfl⟩
    · cases h
  | visit worker bucket message now =>
    simp only [fanoutStep, Option.bind_eq_bind, Option.bind_eq_some_iff] at h
    obtain ⟨w, hw, h⟩ := h
    split at h
    · rename_i t rest hphase
      cases h
      simp only [FanoutInTurn, hw, Option.all_some, FanoutSystem.atAttempt, beq_iff_eq] at hturn
      obtain rfl : w.id = worker := Table.key_of_get hw
      have hb : w.begun := by simp [FanoutWorker.begun, hphase]
      have hrec := (hs.begun _ w hw hb).2 hturn.symm
      simp only [FanoutDetails.recorded, Prod.mk.injEq] at hrec
      refine ⟨hs.visits hw hb hturn.symm (visitedDetails_attempt ..) _, ⟨hs.once, ?_, ?_, fun _ => .inl rfl⟩⟩
      · rw [← hrec.1]
        exact visitedDetails_succeeded ..
      · rw [← hrec.2]
        exact visitedDetails_skipped ..
    · cases h
  | finish worker v now =>
    simp only [fanoutStep, Option.bind_eq_bind, Option.bind_eq_some_iff] at h
    obtain ⟨w, hw, h⟩ := h
    split at h
    · rename_i hphase
      cases h
      simp only [FanoutInTurn, hw, Option.all_some, FanoutSystem.atAttempt, Bool.and_eq_true, beq_iff_eq] at hturn
      obtain ⟨ho, ha⟩ := hturn
      obtain rfl : w.id = worker := Table.key_of_get hw
      have hb : w.begun := by simp [FanoutWorker.begun, hphase]
      obtain ⟨hin, hrec⟩ := hs.begun _ w hw hb
      have hrec : (fanoutEnding v now w.copy).2.recorded = s.details.recorded :=
        (fanoutEnding_recorded ..).trans (hrec ha.symm)
      have hattempt : (fanoutEnding v now w.copy).2.retryAttempt = w.copy.retryAttempt := fanoutEnding_attempt ..
      refine ⟨?_, .of_stored hs rfl hrec fun hc => by simp [ho, Outcome.active] at hc⟩
      have hworkers : ({ s with
          workers :=
            if (fanoutEnding v now w.copy).1 = .success then
              s.workers.put ⟨w.id, (fanoutEnding v now w.copy).2, .summarizing⟩
            else s.without w.id } : FanoutSystem).Inv := by
        split
        · exact hs.setWorker hw rfl hb (by simp [FanoutWorker.begun]) hattempt (fanoutEnding_recorded ..)
        · exact hs.dropWorker _
      exact hworkers.stored (hattempt.trans ha.symm) hrec (fun hq => absurd hq (fanoutEnding_ne_queued _ _ _))
        fun hn => absurd (hattempt ▸ hin) hn
    · cases h
  | summarize worker auditId =>
    simp only [fanoutStep, Option.bind_eq_bind, Option.bind_eq_some_iff] at h
    obtain ⟨w, hw, h⟩ := h
    split at h
    · rename_i hphase
      cases h
      simp only [FanoutInTurn, hw, Option.all_some, FanoutSystem.atAttempt, beq_iff_eq] at hturn
      have hrec := (hs.begun _ w hw (by simp [FanoutWorker.begun, hphase])).2 hturn.symm
      split
      · exact ⟨hs.dropWorker _, .of_stored hs rfl rfl fun _ => rfl⟩
      · exact ⟨(hs.dropWorker _).stored hturn.symm hrec id fun hn => hs.waiting (hturn ▸ hn),
          .of_stored hs rfl hrec fun _ => rfl⟩
    · cases h
  | reap broker now =>
    simp only [fanoutStep] at h
    split at h
    · rename_i hc
      cases h
      simp only [Bool.and_eq_true] at hc
      refine ⟨hs.stored (o := .failed) rfl rfl (fun h => by cases h) fun _ => .inr rfl, .of_stored hs rfl rfl fun hn => ?_⟩
      rw [hc.1.1] at hn
      cases hn
    · cases h
      exact ⟨hs, .of_stored hs rfl rfl fun _ => rfl⟩

end

/-- The event as the creating view left it, its enqueuer about to save it. -/
def FanoutSystem.Prepared (s : FanoutSystem) : Prop :=
  s.outcome = .queued ∧ s.sent = [] ∧ s.executed = [] ∧ s.workers = .empty ∧
    ∃ id, s.enqueuers = Table.empty.put ⟨id, s.details, .saving⟩

theorem FanoutSystem.Prepared.inv {s : FanoutSystem} (h : s.Prepared) : s.Inv := by
  obtain ⟨ho, hsent, hex, hw, id, hq⟩ := h
  have hget : ∀ i q, s.enqueuers.get i = some q → i = id ∧ q = ⟨id, s.details, .saving⟩ := by
    intro i q h
    rw [hq, Table.get_put] at h
    split at h
    · exact ⟨‹_›, (Option.some.inj h).symm⟩
    · simp at h
  have hnone : ∀ i, s.workers.get i = none := fun i => by simp [hw]
  exact
    { once := by simp [hex]
      sent := by simp [hex]
      executed := by simp [hsent]
      queued := by simp [hex]
      waiting := fun _ => .inl ho
      enqueuers := fun i q h => Nat.le_of_eq (by rw [(hget i q h).2])
      apart := fun i j q q' h h' _ => by rw [(hget i q h).1, (hget j q' h').1]
      unsent := fun i q h _ => by
        rw [(hget i q h).2]
        exact ⟨by simp [hsent], fun _ => rfl⟩
      workers := fun i w h => by simp [hnone] at h
      claimed := fun i w h => by simp [hnone] at h
      begun := fun i w h => by simp [hnone] at h
      alone := fun i j w w' h => by simp [hnone] at h }

/-- **The fan-out protocol.** In every run whose saves are in turn, no step begins an
attempt that a worker has begun before, drops a target recorded as done, or changes a
terminal outcome without being a retry. -/
theorem fanout_safe_of_in_turn {s₀ : FanoutSystem} (h₀ : s₀.Prepared) {ls : List FanoutAction}
    (h : Along fanoutStep FanoutInTurn s₀ ls) : Along fanoutStep FanoutSafe s₀ ls := by
  suffices ∀ s, s.Inv → Along fanoutStep FanoutInTurn s ls → Along fanoutStep FanoutSafe s ls from this s₀ h₀.inv h
  clear h₀ h
  induction ls with
  | nil => exact fun _ _ _ => trivial
  | cons l ls ih =>
    intro s hs h s' hst
    obtain ⟨hturn, hrest⟩ := h s' hst
    obtain ⟨hinv, hsafe⟩ := fanoutStep_safe hs hst hturn
    exact ⟨hsafe, ih s' hinv hrest⟩

/-- A tag on one guest is to be removed. -/
def oneGuest : FanoutDetails :=
  { operation := "delete", clusterKey := "lab", sourceTag := "old", newTag := "", username := "ops"
    targets := [⟨"gr1:lab:vm:100@pve1", "lab", "pve1", "vm", 100, "web"⟩] }

def oneGuestPrepared : FanoutSystem :=
  ⟨0, .queued, oneGuest, Table.empty.put ⟨1, oneGuest, .saving⟩, .empty, [], []⟩

theorem oneGuest_prepared : oneGuestPrepared.Prepared := ⟨rfl, rfl, rfl, rfl, 1, rfl⟩

/-- The task is noted before it is delivered. -/
def orderlyFanout : List FanoutAction :=
  [.saveQueued 1 10, .send 1 "t", .note 1, .deliver 1 0, .claim 1 11, .begin 1, .visit 1 .succeeded "" 12,
    .finish 1 ⟨true, [], [], ""⟩ 13, .summarize 1 77]

theorem orderly_fanout_safe : Along fanoutStep FanoutSafe oneGuestPrepared orderlyFanout :=
  fanout_safe_of_in_turn oneGuest_prepared (by decide +kernel)

/-- The guest is done before the enqueuer has saved the task. -/
def fastFanout : List FanoutAction :=
  [.saveQueued 1 10, .send 1 "t", .deliver 1 0, .claim 1 11, .begin 1, .visit 1 .succeeded "" 12]

/-- The save of the task puts back the details of before the task ran. -/
theorem note_drops_succeeded : ¬ ∀ s₀ ls, FanoutSystem.Prepared s₀ → Along fanoutStep FanoutSafe s₀ ls := by
  intro h
  have hlast := (h oneGuestPrepared (fastFanout ++ [.note 1]) oneGuest_prepared).after rfl
  have hsubset := (hlast _ rfl).1.succeeded
  have := hsubset (List.mem_singleton.mpr rfl)
  cases this

end PveHelper.Operations
