/-
The durable refresh of one host-projection scope, after
`core/services/cluster_host_refresh.py` and its reaper in `core/tasks.py`. Each
transaction of the source is one step: recording a refresh, the two ways its
enqueueing ends, a retry, a worker's acquisition, its last write, a reap. What a
party holds between two of its steps (the ticket it enqueues or works on, the
scope a retry has read) is part of the state. A task may be delivered any number
of times, at any time, with any attempt number.

Every writer reads the row again under its lock and compares the attempt number
with its own, which is what the protocol rests on.
-/
import PveHelper.Operations.Events
import PveHelper.Lib.Text

namespace PveHelper.Operations

open Lib

/-! ## Scopes -/

/-- `HOST_REFRESH_SCOPES`. -/
inductive HostScope
  | membership
  | nodeRuntime
  deriving DecidableEq

/-- The scope a request names. -/
def HostScope.parse (text : String) : Option HostScope :=
  let text := Text.strip text
  if text = "membership" then some .membership else if text = "node_runtime" then some .nodeRuntime else none

/-- `NodeRef`, kept parsed: neither part has a colon, so `parse` reads back what
`serialize` writes. -/
structure NodeRef where
  clusterKey : String
  node : String
  deriving DecidableEq

/-- `_CLUSTER_KEY_RE`; the `$` of a pattern also matches before a last line break. -/
def validClusterKey (key : String) : Bool :=
  let chars := key.toList
  let chars := if chars.getLast? = some '\n' then chars.dropLast else chars
  let alphanumeric := fun c : Char => ('a' ≤ c && c ≤ 'z') || ('0' ≤ c && c ≤ '9')
  match chars with
  | [] => false
  | c :: rest => alphanumeric c && rest.length ≤ 62 && rest.all fun c => alphanumeric c || c = '-'

/-- The construction of a `NodeRef`, where `__post_init__` does not raise. -/
def NodeRef.make (clusterKey node : String) : Option NodeRef :=
  if validClusterKey clusterKey && node != "" && !node.toList.contains ':' then some ⟨clusterKey, node⟩ else none

/-- `_scope_identity`, for the scope already read. -/
def scopeIdentity (clusterKey : String) (scope : Option HostScope) (nodeName : String) :
    Except String (HostScope × Option NodeRef) :=
  let node := Text.strip nodeName
  match scope with
  | none => .error "This host projection scope cannot be refreshed."
  | some .membership =>
    if node != "" then .error "A membership refresh cannot target one node." else .ok (.membership, none)
  | some .nodeRuntime =>
    match NodeRef.make clusterKey node with
    | none => .error "Select a valid node to refresh."
    | some ref => .ok (.nodeRuntime, some ref)

/-! ## Rows -/

/-- The details of a refresh. -/
structure HostDetails where
  clusterKey : String
  scope : HostScope
  nodeRef : Option NodeRef
  attempt : Nat
  stage : String
  queuedAt : Nat
  workerTaskId : Option String := none
  startedAt : Option Nat := none
  heartbeatAt : Option Nat := none
  finishedAt : Option Nat := none
  interruptedAt : Option Nat := none
  error : Option String := none
  coverageError : Option String := none
  queueErrorType : Option String := none
  retryable : Option Bool := none
  generation : Option Nat := none
  basedOnGeneration : Option Nat := none
  deriving DecidableEq

/-- The Audit event of a refresh. -/
structure HostEvent where
  pk : Nat
  cluster : Nat
  outcome : Outcome
  details : HostDetails
  deriving DecidableEq

/-- What a refresh is of. -/
def HostEvent.target (e : HostEvent) : Nat × HostScope × Option NodeRef :=
  (e.cluster, e.details.scope, e.details.nodeRef)

/-- The event is queued or running at the attempt. -/
def HostEvent.at (outcome : Outcome) (attempt : Nat) (e : HostEvent) : Bool :=
  e.outcome == outcome && e.details.attempt == attempt

/-- The columns of the cluster and of its membership state that the operation reads. -/
structure HostCluster where
  enabled : Bool := true
  retired : Bool := false
  transitionPending : Bool := false

/-- Why `_locked_operable_cluster` refuses, if it does. -/
def HostCluster.refusal (c : HostCluster) (scope : HostScope) : Option String :=
  if c.retired then some "The selected Proxmox cluster has been retired."
  else if !c.enabled then some "The selected Proxmox cluster is disabled."
  else if scope != .membership && c.transitionPending then
    some "Node-runtime refresh is blocked until the standalone/corosync identity hand-off is completed."
  else none

/-- `_active_scope_exists`. -/
def activeScopeExists (events : Table HostEvent.pk) (target : Nat × HostScope × Option NodeRef)
    (excludeId : Option Nat) : Bool :=
  events.rows.any fun e => e.outcome.active && e.target == target && excludeId != some e.pk

/-! ## What each transaction makes of the row -/

/-- The enqueueing failed. -/
def enqueueFailed (attempt : Nat) (errorType : String) (now : Nat) (e : HostEvent) : HostEvent :=
  if e.at .queued attempt then
    { e with
      outcome := .failed
      details := { e.details with
        stage := "enqueue failed"
        error := some "The host projection refresh could not be queued."
        queueErrorType := some errorType
        retryable := some true
        finishedAt := some now } }
  else e

/-- The enqueueing succeeded. -/
def enqueued (attempt : Nat) (taskId : String) (e : HostEvent) : HostEvent :=
  if e.details.attempt == attempt then { e with details := { e.details with workerTaskId := some taskId } } else e

/-- The row a retry leaves. -/
def requeued (now : Nat) (e : HostEvent) : HostEvent :=
  { e with
    outcome := .queued
    details := { e.details with
      coverageError := none
      error := none
      finishedAt := none
      heartbeatAt := none
      interruptedAt := none
      queueErrorType := none
      retryable := none
      startedAt := none
      workerTaskId := none
      attempt := e.details.attempt + 1
      stage := "queued"
      queuedAt := now } }

/-- A failure that ends an attempt. -/
def HostEvent.failed (stage error : String) (retryable : Bool) (now : Nat) (e : HostEvent) : HostEvent :=
  { e with
    outcome := .failed
    details := { e.details with
      stage := stage
      error := some error
      retryable := some retryable
      finishedAt := some now } }

/-- `_worker_acquisition`: the attempt ends at once, or enters running. -/
def workerAcquisition (cluster : HostCluster) (acquired : Bool) (attempt now : Nat) (e : HostEvent) : HostEvent :=
  if !e.at .queued attempt then e
  else if cluster.retired then e.failed "failed" "The selected Proxmox cluster has been retired." false now
  else if !cluster.enabled then e.failed "failed" "The selected Proxmox cluster is disabled." false now
  else if !acquired then
    e.failed "blocked" "Another host projection refresh is already running; retry is safe." true now
  else
    { e with
      outcome := .running
      details := { e.details with
        stage := if e.details.scope = .membership then "refreshing membership" else "refreshing node runtime"
        startedAt := some now
        heartbeatAt := some now } }

/-- What the publisher of the scope came back with. -/
inductive HostResult
  | raised (message : String)
  | complete (generation : Nat) (basedOnGeneration : Option Nat)
  | incomplete (generation : Nat) (basedOnGeneration : Option Nat) (errorCode : String)

/-- `_finish`, with what the worker passes for its result. -/
def finish (attempt : Nat) (result : HostResult) (now : Nat) (e : HostEvent) : HostEvent :=
  if !e.at .running attempt then e
  else match result with
    | .raised message => e.failed "failed" message true now
    | .complete generation basedOn =>
      { e with
        outcome := .success
        details := { e.details with
          generation := some generation
          basedOnGeneration := basedOn <|> e.details.basedOnGeneration
          stage := "completed"
          finishedAt := some now } }
    | .incomplete generation basedOn code =>
      { e.failed "incomplete" "The host projection scope could not be refreshed." true now with
        details := { (e.failed "incomplete" "The host projection scope could not be refreshed." true now).details with
          coverageError := some code
          generation := some generation
          basedOnGeneration := basedOn <|> e.details.basedOnGeneration } }

/-- `_reap_stale_heartbeat_operations`, one row under its lock. The list of
candidates read before only narrows which rows are tried. -/
def reaped (broker : Broker) (now : Nat) (e : HostEvent) : HostEvent :=
  if e.outcome.active && stale (e.details.heartbeatAt.getD e.details.queuedAt) now
      && !broker.inFlight (e.details.workerTaskId.getD "") then
    { e with
      outcome := .failed
      details := { e.details with
        stage := "interrupted"
        error := some "The host projection refresh worker stopped reporting progress; retry is safe."
        retryable := some true
        interruptedAt := some now
        finishedAt := some now } }
  else e

/-! ## Keys -/

theorem enqueueFailed_pk (attempt : Nat) (errorType : String) (now : Nat) (e : HostEvent) :
    (enqueueFailed attempt errorType now e).pk = e.pk := by
  unfold enqueueFailed
  split <;> rfl

theorem enqueued_pk (attempt : Nat) (taskId : String) (e : HostEvent) : (enqueued attempt taskId e).pk = e.pk := by
  unfold enqueued
  split <;> rfl

theorem requeued_pk (now : Nat) (e : HostEvent) : (requeued now e).pk = e.pk := rfl

theorem workerAcquisition_pk (cluster : HostCluster) (acquired : Bool) (attempt now : Nat) (e : HostEvent) :
    (workerAcquisition cluster acquired attempt now e).pk = e.pk := by
  unfold workerAcquisition
  split_ifs <;> rfl

theorem finish_pk (attempt : Nat) (result : HostResult) (now : Nat) (e : HostEvent) :
    (finish attempt result now e).pk = e.pk := by
  unfold finish
  split
  · rfl
  · cases result <;> rfl

theorem reaped_pk (broker : Broker) (now : Nat) (e : HostEvent) : (reaped broker now e).pk = e.pk := by
  unfold reaped
  split <;> rfl

/-! ## The system -/

/-- An attempt of an event, as an enqueuer or a worker holds it. -/
structure Ticket where
  event : Nat
  attempt : Nat
  deriving DecidableEq

/-- A retry that has read the event's scope, before its transaction. -/
structure RetryRead where
  event : Nat
  cluster : Nat
  scope : HostScope
  nodeRef : Option NodeRef
  deriving DecidableEq

structure HostSystem where
  clusters : Nat → HostCluster
  events : Table HostEvent.pk
  enqueuing : List Ticket
  workers : List Ticket
  retries : List RetryRead

/-- Before the first refresh. -/
def HostSystem.Initial (s : HostSystem) : Prop :=
  s.events = Table.empty ∧ s.enqueuing = [] ∧ s.workers = [] ∧ s.retries = []

section
variable (keyOf : Nat → String)

/-- `queue_cluster_host_refresh` up to its commit; keys of clusters do not change. -/
def queueClusterHostRefresh (s : HostSystem) (pk cluster : Nat) (scope nodeName : String) (now : Nat) :
    Except String HostSystem :=
  match scopeIdentity (keyOf cluster) (HostScope.parse scope) nodeName with
  | .error message => .error message
  | .ok (scope, nodeRef) =>
    match (s.clusters cluster).refusal scope with
    | some message => .error message
    | none =>
      if activeScopeExists s.events (cluster, scope, nodeRef) none then
        .error "This host projection scope is already queued or running."
      else
        .ok { s with
          events := s.events.put ⟨pk, cluster, .queued,
            { clusterKey := keyOf cluster, scope := scope, nodeRef := nodeRef, attempt := 0, stage := "queued",
              queuedAt := now }⟩
          enqueuing := ⟨pk, 0⟩ :: s.enqueuing }

/-- `retry_cluster_host_refresh` up to its transaction. -/
def readRetry (e : HostEvent) : Except String RetryRead :=
  match scopeIdentity (keyOf e.cluster) (some e.details.scope) ((e.details.nodeRef.map (·.node)).getD "") with
  | .error _ => .error "This host projection refresh is not available for retry."
  | .ok (scope, nodeRef) => .ok ⟨e.pk, e.cluster, scope, nodeRef⟩

/-- The transaction of `retry_cluster_host_refresh`. -/
def retryClusterHostRefresh (s : HostSystem) (read : RetryRead) (e : HostEvent) (now : Nat) :
    Except String HostSystem :=
  match (s.clusters read.cluster).refusal read.scope with
  | some message => .error message
  | none =>
    if e.outcome != .failed || e.details.retryable != some true then
      .error "This host projection refresh is not available for retry."
    else if activeScopeExists s.events (read.cluster, read.scope, read.nodeRef) (some e.pk) then
      .error "This host projection scope is already queued or running."
    else
      .ok { s with
        events := s.events.alter e.pk (requeued now) (requeued_pk now)
        enqueuing := ⟨e.pk, e.details.attempt + 1⟩ :: s.enqueuing
        retries := s.retries.erase read }

inductive HostAction
  /-- A cluster is enabled, disabled, retired or in transition. -/
  | clusterChanged (pk : Nat) (cluster : HostCluster)
  | queue (pk cluster : Nat) (scope nodeName : String) (now : Nat)
  | enqueued (ticket : Ticket) (taskId : String)
  | enqueueFailed (ticket : Ticket) (errorType : String) (now : Nat)
  | readRetry (event : Nat)
  | retry (read : RetryRead) (now : Nat)
  /-- A delivery of the task, with the answer of the single-flight lock. -/
  | deliver (ticket : Ticket) (acquired : Bool) (now : Nat)
  | finish (ticket : Ticket) (result : HostResult) (now : Nat)
  | reap (event : Nat) (broker : Broker) (now : Nat)

/-- A step; a transaction that raises changes nothing and is no step. -/
def hostStep (s : HostSystem) : HostAction → Option HostSystem
  | .clusterChanged pk cluster =>
    some { s with clusters := fun k => if k = pk then cluster else s.clusters k }
  | .queue pk cluster scope nodeName now =>
    if (s.events.get pk).isSome then none else (queueClusterHostRefresh keyOf s pk cluster scope nodeName now).toOption
  | .enqueued ticket taskId =>
    if s.enqueuing.contains ticket then
      some { s with
        events := s.events.alter ticket.event (enqueued ticket.attempt taskId) (enqueued_pk _ _)
        enqueuing := s.enqueuing.erase ticket }
    else none
  | .enqueueFailed ticket errorType now =>
    if s.enqueuing.contains ticket then
      some { s with
        events := s.events.alter ticket.event (enqueueFailed ticket.attempt errorType now) (enqueueFailed_pk _ _ _)
        enqueuing := s.enqueuing.erase ticket }
    else none
  | .readRetry event => do
    let e ← s.events.get event
    let read ← (readRetry keyOf e).toOption
    return { s with retries := read :: s.retries }
  | .retry read now => do
    let e ← s.events.get read.event
    if s.retries.contains read then (retryClusterHostRefresh s read e now).toOption else none
  | .deliver ticket acquired now => do
    let e ← s.events.get ticket.event
    let events := s.events.alter ticket.event
      (workerAcquisition (s.clusters e.cluster) acquired ticket.attempt now) (workerAcquisition_pk _ _ _ _)
    -- the worker goes on where its transaction has left the row running
    let ready := (workerAcquisition (s.clusters e.cluster) acquired ticket.attempt now e).outcome == .running
      && e.outcome != .running
    return { s with events := events, workers := if ready then ticket :: s.workers else s.workers }
  | .finish ticket result now =>
    if s.workers.contains ticket then
      some { s with
        events := s.events.alter ticket.event (finish ticket.attempt result now) (finish_pk _ _ _)
        workers := s.workers.erase ticket }
    else none
  | .reap event broker now =>
    some { s with events := s.events.alter event (reaped broker now) (reaped_pk _ _) }

end

/-! ## What a step does to a row -/

/-- A change that starts no new attempt: the row stays what it is of, at its
attempt, and its outcome stays, ends, or goes from queued to running. -/
structure HostEvent.Kept (e e' : HostEvent) : Prop where
  target : e'.target = e.target
  clusterKey : e'.details.clusterKey = e.details.clusterKey
  attempt : e'.details.attempt = e.details.attempt
  outcome : e'.outcome = e.outcome ∨ (e.outcome.active = true ∧ e'.outcome.active = false) ∨
    (e.outcome = .queued ∧ e'.outcome = .running)

namespace HostEvent.Kept

variable {e e' : HostEvent}

theorem refl (e : HostEvent) : e.Kept e := ⟨rfl, rfl, rfl, .inl rfl⟩

theorem active (h : e.Kept e') (ha : e'.outcome.active = true) : e.outcome.active = true := by
  rcases h.outcome with ho | ⟨-, ho⟩ | ⟨ho, -⟩
  · rwa [← ho]
  · rw [ho] at ha
    cases ha
  · simp [ho, Outcome.active]

theorem terminal (h : e.Kept e') (ha : e.outcome.active = false) : e'.outcome = e.outcome := by
  rcases h.outcome with ho | ⟨ho, -⟩ | ⟨ho, -⟩
  · exact ho
  · rw [ho] at ha
    cases ha
  · simp [ho, Outcome.active] at ha

theorem not_queued (h : e.Kept e') (ho : e.outcome ≠ .queued) : e'.outcome ≠ .queued := by
  rcases h.outcome with he | ⟨-, he⟩ | ⟨he, -⟩
  · rwa [he]
  · intro hq
    simp [hq, Outcome.active] at he
  · exact absurd he ho

end HostEvent.Kept

section
variable (e : HostEvent)

theorem HostEvent.at_iff {outcome : Outcome} {attempt : Nat} :
    e.at outcome attempt = true ↔ e.outcome = outcome ∧ e.details.attempt = attempt := by
  simp [HostEvent.at]

theorem HostEvent.failed_kept (stage error : String) (retryable : Bool) (now : Nat)
    (h : e.outcome.active = true) : e.Kept (e.failed stage error retryable now) :=
  ⟨rfl, rfl, rfl, .inr (.inl ⟨h, rfl⟩)⟩

theorem enqueueFailed_kept (attempt : Nat) (errorType : String) (now : Nat) :
    e.Kept (enqueueFailed attempt errorType now e) := by
  unfold enqueueFailed
  split
  · rename_i h
    have hq := (e.at_iff.mp h).1
    exact ⟨rfl, rfl, rfl, .inr (.inl ⟨by simp [hq, Outcome.active], rfl⟩)⟩
  · exact .refl e

theorem enqueued_kept (attempt : Nat) (taskId : String) : e.Kept (enqueued attempt taskId e) := by
  unfold enqueued
  split
  · exact ⟨rfl, rfl, rfl, .inl rfl⟩
  · exact .refl e

theorem workerAcquisition_kept (cluster : HostCluster) (acquired : Bool) (attempt now : Nat) :
    e.Kept (workerAcquisition cluster acquired attempt now e) := by
  unfold workerAcquisition
  split
  · exact .refl e
  · rename_i h
    simp only [Bool.not_eq_true, Bool.not_eq_false'] at h
    have hq := (e.at_iff.mp h).1
    have hactive : e.outcome.active = true := by simp [hq, Outcome.active]
    split
    · exact e.failed_kept _ _ _ _ hactive
    · split
      · exact e.failed_kept _ _ _ _ hactive
      · split
        · exact e.failed_kept _ _ _ _ hactive
        · exact ⟨rfl, rfl, rfl, .inr (.inr ⟨hq, rfl⟩)⟩

theorem finish_kept (attempt : Nat) (result : HostResult) (now : Nat) : e.Kept (finish attempt result now e) := by
  unfold finish
  split
  · exact .refl e
  · rename_i h
    simp only [Bool.not_eq_true, Bool.not_eq_false'] at h
    have hr := (e.at_iff.mp h).1
    have hactive : e.outcome.active = true := by simp [hr, Outcome.active]
    cases result with
    | raised message => exact e.failed_kept _ _ _ _ hactive
    | complete generation basedOn => exact ⟨rfl, rfl, rfl, .inr (.inl ⟨hactive, rfl⟩)⟩
    | incomplete generation basedOn code => exact ⟨rfl, rfl, rfl, .inr (.inl ⟨hactive, rfl⟩)⟩

theorem reaped_kept (broker : Broker) (now : Nat) : e.Kept (reaped broker now e) := by
  unfold reaped
  split
  · rename_i h
    simp only [Bool.and_eq_true] at h
    exact ⟨rfl, rfl, rfl, .inr (.inl ⟨h.1.1, rfl⟩)⟩
  · exact .refl e

/-- A worker's acquisition with another attempt number than the row's does nothing. -/
theorem workerAcquisition_stale {cluster : HostCluster} {acquired : Bool} {attempt now : Nat}
    (h : e.details.attempt ≠ attempt) : workerAcquisition cluster acquired attempt now e = e := by
  have : e.at .queued attempt = false := by simp [HostEvent.at, h]
  simp [workerAcquisition, this]

theorem finish_stale {attempt now : Nat} {result : HostResult} (h : e.details.attempt ≠ attempt) :
    finish attempt result now e = e := by
  have : e.at .running attempt = false := by simp [HostEvent.at, h]
  simp [finish, this]

end

/-! ## What a step does -/

/-- Everything a step can do to the events. -/
inductive HostEffect (keyOf : Nat → String) (s : HostSystem) (l : HostAction) (s' : HostSystem) : Prop
  /-- Rows change one by one; no attempt begins. -/
  | kept (f : HostEvent → HostEvent) (hf : ∀ e : HostEvent, e.Kept (f e))
      (hget : ∀ pk, s'.events.get pk = s.events.get pk ∨ s'.events.get pk = (s.events.get pk).map f)
      (hretries : ∀ r ∈ s'.retries, r ∈ s.retries ∨ ∃ e, s.events.get r.event = some e ∧ readRetry keyOf e = .ok r)
  /-- A refresh is recorded. -/
  | queued (e : HostEvent) (hfresh : s.events.get e.pk = none) (hget : s'.events = s.events.put e)
      (outcome : e.outcome = .queued)
      (hidentity : ∃ scope node, scopeIdentity (keyOf e.cluster) scope node = .ok (e.details.scope, e.details.nodeRef))
      (hfree : activeScopeExists s.events e.target none = false) (hretries : s'.retries = s.retries)
  /-- A failed attempt is tried again. -/
  | retried (r : RetryRead) (e : HostEvent) (now : Nat) (hl : l = .retry r now) (hread : r ∈ s.retries) (hrow : s.events.get r.event = some e)
      (hfailed : e.outcome = .failed) (hretryable : e.details.retryable = some true)
      (hfree : activeScopeExists s.events (r.cluster, r.scope, r.nodeRef) (some e.pk) = false)
      (hget : s'.events = s.events.alter e.pk (requeued now) (requeued_pk now)) (hretries : s'.retries ⊆ s.retries)

/-- A change of one row. -/
theorem HostEffect.alter {keyOf : Nat → String} {s s' : HostSystem} {l : HostAction} {pk : Nat} {f : HostEvent → HostEvent}
    (hkept : ∀ e : HostEvent, e.Kept (f e)) (hget : ∃ hf, s'.events = s.events.alter pk f hf)
    (hretries : s'.retries = s.retries) : HostEffect keyOf s l s' := by
  obtain ⟨hf, hget⟩ := hget
  refine .kept f hkept (fun k => ?_) fun r hr => .inl (hretries ▸ hr)
  rw [hget, Table.get_alter]
  split
  · exact .inr rfl
  · exact .inl rfl

theorem hostStep_effect {keyOf : Nat → String} {s s' : HostSystem} {l : HostAction} (h : hostStep keyOf s l = some s') :
    HostEffect keyOf s l s' := by
  cases l with
  | clusterChanged pk cluster =>
    cases h
    exact .kept id .refl (fun _ => .inl rfl) fun r hr => .inl hr
  | queue pk cluster scope nodeName now =>
    simp only [hostStep] at h
    split at h
    · cases h
    · rename_i hfresh
      rw [Option.not_isSome_iff_eq_none] at hfresh
      unfold queueClusterHostRefresh at h
      split at h
      · cases h
      · rename_i scope' nodeRef hidentity
        split at h
        · cases h
        · split at h
          · cases h
          · rename_i hfree
            cases h
            exact .queued _ hfresh rfl rfl ⟨_, _, hidentity⟩ (eq_false_of_ne_true hfree) rfl
  | enqueued ticket taskId =>
    simp only [hostStep] at h
    split at h
    · cases h
      exact .alter (enqueued_kept · _ _) ⟨enqueued_pk _ _, rfl⟩ rfl
    · cases h
  | enqueueFailed ticket errorType now =>
    simp only [hostStep] at h
    split at h
    · cases h
      exact .alter (enqueueFailed_kept · _ _ _) ⟨enqueueFailed_pk _ _ _, rfl⟩ rfl
    · cases h
  | readRetry event =>
    simp only [hostStep, Option.bind_eq_bind, Option.bind_eq_some_iff] at h
    obtain ⟨e, he, r, hr, hs'⟩ := h
    cases hs'
    refine .kept id .refl (fun _ => .inl rfl) fun x hx => ?_
    rcases List.mem_cons.mp hx with rfl | hx
    · cases hread : readRetry keyOf e with
      | error m => simp [hread, Except.toOption] at hr
      | ok x' =>
        obtain rfl : x' = x := by simpa [hread, Except.toOption] using hr
        have hevent : x'.event = e.pk := by
          unfold readRetry at hread
          split at hread
          · cases hread
          · cases hread
            rfl
        refine .inr ⟨e, ?_, hread⟩
        rw [hevent, Table.key_of_get he]
        exact he
    · exact .inl hx
  | retry read now =>
    simp only [hostStep, Option.bind_eq_bind, Option.bind_eq_some_iff] at h
    obtain ⟨e, he, hstep⟩ := h
    split at hstep
    · rename_i hread
      unfold retryClusterHostRefresh at hstep
      split at hstep
      · cases hstep
      · split at hstep
        · cases hstep
        · rename_i hstate
          simp only [Bool.or_eq_true, bne_iff_ne, ne_eq, not_or, not_not] at hstate
          split at hstep
          · cases hstep
          · rename_i hfree
            cases hstep
            exact .retried read e now rfl (List.contains_iff_mem.mp hread) he hstate.1 hstate.2 (eq_false_of_ne_true hfree) rfl
              (List.erase_subset ..)
    · cases hstep
  | deliver ticket acquired now =>
    simp only [hostStep, Option.bind_eq_bind, Option.bind_eq_some_iff] at h
    obtain ⟨e, he, hs'⟩ := h
    cases hs'
    exact .alter (workerAcquisition_kept · _ _ _ _) ⟨workerAcquisition_pk _ _ _ _, rfl⟩ rfl
  | finish ticket result now =>
    simp only [hostStep] at h
    split at h
    · cases h
      exact .alter (finish_kept · _ _ _) ⟨finish_pk _ _ _, rfl⟩ rfl
    · cases h
  | reap event broker now =>
    cases h
    exact .alter (reaped_kept · _ _) ⟨reaped_pk _ _, rfl⟩ rfl

/-! ## The invariant -/

/-- A retry of the event finds the scope it was recorded with. -/
def Identified (keyOf : Nat → String) (e : HostEvent) : Prop :=
  scopeIdentity (keyOf e.cluster) (some e.details.scope) ((e.details.nodeRef.map (·.node)).getD "")
    = .ok (e.details.scope, e.details.nodeRef)

/-- What `_scope_identity` answers, it answers again for its own answer. -/
theorem scopeIdentity_again {key node : String} {scope : Option HostScope} {answer : HostScope} {ref : Option NodeRef}
    (h : scopeIdentity key scope node = .ok (answer, ref)) :
    scopeIdentity key (some answer) ((ref.map (·.node)).getD "") = .ok (answer, ref) := by
  unfold scopeIdentity at h
  cases scope with
  | none => cases h
  | some scope =>
    cases scope with
    | membership =>
      simp only at h
      split at h
      · cases h
      · cases h
        rfl
    | nodeRuntime =>
      simp only at h
      split at h
      · cases h
      · rename_i r hmake
        cases h
        have hnode : r.node = Text.strip node := by
          unfold NodeRef.make at hmake
          split at hmake
          · cases hmake
            rfl
          · cases hmake
        simp [scopeIdentity, hnode, Text.strip_strip, hmake]

structure HostSystem.Inv (keyOf : Nat → String) (s : HostSystem) : Prop where
  identified : s.events.All (Identified keyOf)
  retries : ∀ r ∈ s.retries, ∃ e, s.events.get r.event = some e ∧ (r.cluster, r.scope, r.nodeRef) = e.target
  unique : ∀ pk pk' e e', s.events.get pk = some e → s.events.get pk' = some e' → e.outcome.active = true →
    e'.outcome.active = true → e.target = e'.target → pk = pk'

theorem HostSystem.Initial.inv {keyOf : Nat → String} {s : HostSystem} (h : s.Initial) : s.Inv keyOf := by
  obtain ⟨he, -, -, hr⟩ := h
  refine ⟨fun pk e hg => ?_, by simp [hr], fun pk pk' e e' hg => ?_⟩ <;> simp [he] at hg

theorem HostEvent.Kept.identified {keyOf : Nat → String} {e e' : HostEvent} (h : e.Kept e')
    (hi : Identified keyOf e) : Identified keyOf e' := by
  have ht := h.target
  simp only [HostEvent.target, Prod.mk.injEq] at ht
  unfold Identified at hi ⊢
  rw [ht.1, ht.2.1, ht.2.2]
  exact hi

theorem readRetry_target {keyOf : Nat → String} {e : HostEvent} {r : RetryRead} (hi : Identified keyOf e)
    (h : readRetry keyOf e = .ok r) : (r.cluster, r.scope, r.nodeRef) = e.target := by
  unfold readRetry at h
  rw [hi] at h
  cases h
  rfl

theorem not_active_of_free {events : Table HostEvent.pk} {target : Nat × HostScope × Option NodeRef}
    {excludeId : Option Nat} (h : activeScopeExists events target excludeId = false) {pk : Nat} {e : HostEvent}
    (hg : events.get pk = some e) (hactive : e.outcome.active = true) (ht : e.target = target) : excludeId = some pk := by
  simp only [activeScopeExists, List.any_eq_false, Bool.and_eq_true, beq_iff_eq, bne_iff_ne, ne_eq, not_and,
    not_not] at h
  rw [← Table.key_of_get hg]
  exact h e (Table.mem_of_get hg) ⟨hactive, ht⟩

/-- The row behind a row after changes that begin no attempt. -/
theorem kept_before {s s' : HostSystem} {f : HostEvent → HostEvent} (hf : ∀ e : HostEvent, e.Kept (f e))
    (hget : ∀ pk, s'.events.get pk = s.events.get pk ∨ s'.events.get pk = (s.events.get pk).map f) {pk : Nat}
    {e' : HostEvent} (h : s'.events.get pk = some e') : ∃ e, s.events.get pk = some e ∧ e.Kept e' := by
  rcases hget pk with hg | hg
  · exact ⟨e', hg ▸ h, .refl e'⟩
  · rw [hg, Option.map_eq_some_iff] at h
    obtain ⟨e, he, rfl⟩ := h
    exact ⟨e, he, hf e⟩

theorem kept_after {s s' : HostSystem} {f : HostEvent → HostEvent} (hf : ∀ e : HostEvent, e.Kept (f e))
    (hget : ∀ pk, s'.events.get pk = s.events.get pk ∨ s'.events.get pk = (s.events.get pk).map f) {pk : Nat}
    {e : HostEvent} (h : s.events.get pk = some e) : ∃ e', s'.events.get pk = some e' ∧ e.Kept e' := by
  rcases hget pk with hg | hg
  · exact ⟨e, hg.trans h, .refl e⟩
  · exact ⟨f e, by rw [hg, h]; rfl, hf e⟩

/-- **One step.** -/
theorem hostStep_inv {keyOf : Nat → String} {s s' : HostSystem} {l : HostAction} (hs : s.Inv keyOf)
    (h : hostStep keyOf s l = some s') : s'.Inv keyOf := by
  cases hostStep_effect h with
  | kept f hf hget hretries =>
    refine ⟨fun pk e' he' => ?_, fun r hr => ?_, fun pk pk' e₁ e₂ h₁ h₂ ha₁ ha₂ ht => ?_⟩
    · obtain ⟨e, he, hk⟩ := kept_before hf hget he'
      exact hk.identified (hs.identified pk e he)
    · obtain ⟨e, he, htarget⟩ : ∃ e, s.events.get r.event = some e ∧ (r.cluster, r.scope, r.nodeRef) = e.target := by
        rcases hretries r hr with hr | ⟨x, hx, hread⟩
        · exact hs.retries r hr
        · exact ⟨x, hx, readRetry_target (hs.identified _ x hx) hread⟩
      obtain ⟨e', he', hk⟩ := kept_after hf hget he
      exact ⟨e', he', htarget.trans hk.target.symm⟩
    · obtain ⟨d₁, hd₁, hk₁⟩ := kept_before hf hget h₁
      obtain ⟨d₂, hd₂, hk₂⟩ := kept_before hf hget h₂
      refine hs.unique pk pk' d₁ d₂ hd₁ hd₂ (hk₁.active ha₁) (hk₂.active ha₂) ?_
      rw [← hk₁.target, ← hk₂.target, ht]
  | queued e hfresh hget outcome hidentity hfree hretries =>
    obtain ⟨scope, node, hidentity⟩ := hidentity
    -- no other active event has the target of the one recorded
    have hother : ∀ pk x, s.events.get pk = some x → x.outcome.active = true → x.target ≠ e.target := by
      intro pk x hx ha ht
      have := not_active_of_free hfree hx ha ht
      cases this
    refine ⟨?_, fun r hr => ?_, fun pk pk' e₁ e₂ h₁ h₂ ha₁ ha₂ ht => ?_⟩
    · rw [hget]
      exact hs.identified.put (scopeIdentity_again hidentity)
    · obtain ⟨x, hx, htarget⟩ := hs.retries r (hretries ▸ hr)
      have hne : r.event ≠ e.pk := by
        intro he
        rw [he, hfresh] at hx
        cases hx
      exact ⟨x, by rw [hget, Table.get_put, if_neg hne, hx], htarget⟩
    · rw [hget, Table.get_put] at h₁ h₂
      split at h₁ <;> split at h₂
      · simp_all
      · cases h₁
        exact absurd ht.symm (hother pk' e₂ h₂ ha₂)
      · cases h₂
        exact absurd ht (hother pk e₁ h₁ ha₁)
      · exact hs.unique pk pk' e₁ e₂ h₁ h₂ ha₁ ha₂ ht
  | retried r e now hl hread hrow hfailed hretryable hfree hget hretries =>
    obtain ⟨x, hx, htarget⟩ := hs.retries r hread
    rw [Option.some.inj (hx.symm.trans hrow)] at htarget
    rw [htarget] at hfree
    have hpk : e.pk = r.event := Table.key_of_get hrow
    have hbefore : ∀ pk x, s'.events.get pk = some x →
        (pk = e.pk ∧ x = requeued now e) ∨ (pk ≠ e.pk ∧ s.events.get pk = some x) := by
      intro pk x hx
      rw [hget, Table.get_alter] at hx
      split at hx
      · rename_i hp
        rw [hp, hpk, hrow] at hx
        exact .inl ⟨hp, (Option.some.inj hx).symm⟩
      · exact .inr ⟨‹_›, hx⟩
    have hother : ∀ pk x, s.events.get pk = some x → x.outcome.active = true → pk ≠ e.pk → x.target ≠ e.target := by
      intro pk x hx ha hne ht
      exact hne (Option.some.inj (not_active_of_free hfree hx ha ht)).symm
    refine ⟨fun pk x hx => ?_, fun r' hr' => ?_, fun pk pk' e₁ e₂ h₁ h₂ ha₁ ha₂ ht => ?_⟩
    · rcases hbefore pk x hx with ⟨-, rfl⟩ | ⟨-, hx⟩
      · exact hs.identified _ e hrow
      · exact hs.identified pk x hx
    · obtain ⟨x, hx, htarget'⟩ := hs.retries r' (hretries hr')
      rw [hget, Table.get_alter]
      split
      · exact ⟨requeued now x, by rw [hx]; rfl, htarget'⟩
      · exact ⟨x, hx, htarget'⟩
    · rcases hbefore pk e₁ h₁ with ⟨hp₁, rfl⟩ | ⟨hne₁, h₁⟩ <;> rcases hbefore pk' e₂ h₂ with ⟨hp₂, rfl⟩ | ⟨hne₂, h₂⟩
      · rw [hp₁, hp₂]
      · exact absurd ht.symm (hother pk' e₂ h₂ ha₂ hne₂)
      · exact absurd ht (hother pk e₁ h₁ ha₁ hne₁)
      · exact hs.unique pk pk' e₁ e₂ h₁ h₂ ha₁ ha₂ ht

/-! ## The protocol -/

/-- The ticket of a worker's step. -/
def HostAction.ticket : HostAction → Option Ticket
  | .deliver ticket _ _ | .finish ticket _ _ => some ticket
  | _ => none

/-- The step puts the event into running, at this attempt. -/
def Enters (s s' : HostSystem) (ticket : Ticket) : Prop :=
  ∃ e e', s.events.get ticket.event = some e ∧ s'.events.get ticket.event = some e' ∧ e.outcome ≠ .running ∧
    e'.outcome = .running ∧ e'.details.attempt = ticket.attempt

/-- The attempt is over, or no longer waiting to start. -/
def Spent (ticket : Ticket) (s : HostSystem) : Prop :=
  ∃ e, s.events.get ticket.event = some e ∧
    (ticket.attempt < e.details.attempt ∨ (ticket.attempt = e.details.attempt ∧ e.outcome ≠ .queued))

section
variable {keyOf : Nat → String} {s s' : HostSystem} {l : HostAction}

theorem spent_stays {ticket : Ticket} (hs : Spent ticket s) (h : hostStep keyOf s l = some s') : Spent ticket s' := by
  obtain ⟨e, he, hspent⟩ := hs
  cases hostStep_effect h with
  | kept f hf hget hretries =>
    obtain ⟨e', he', hk⟩ := kept_after hf hget he
    refine ⟨e', he', ?_⟩
    rw [hk.attempt]
    exact hspent.imp id fun ⟨ha, ho⟩ => ⟨ha, hk.not_queued ho⟩
  | queued x hfresh hget =>
    have hne : ticket.event ≠ x.pk := by
      intro hpk
      rw [hpk, hfresh] at he
      cases he
    exact ⟨e, by rw [hget, Table.get_put, if_neg hne, he], hspent⟩
  | retried r x now hl hread hrow hfailed hretryable hfree hget hretries =>
    by_cases hpk : ticket.event = x.pk
    · refine ⟨requeued now e, by rw [hget, Table.get_alter, if_pos hpk, he]; rfl, .inl ?_⟩
      have hattempt : (requeued now e).details.attempt = e.details.attempt + 1 := rfl
      omega
    · exact ⟨e, by rw [hget, Table.get_alter, if_neg hpk, he], hspent⟩

/-- Only an event queued at the attempt enters running with it, and the attempt is spent then. -/
theorem enters_iff_queued {ticket : Ticket} (h : hostStep keyOf s l = some s') (hen : Enters s s' ticket) :
    (∃ e, s.events.get ticket.event = some e ∧ e.outcome = .queued ∧ e.details.attempt = ticket.attempt) ∧
      Spent ticket s' := by
  obtain ⟨e, e', he, he', hne, hrunning, hattempt⟩ := hen
  refine ⟨?_, e', he', .inr ⟨hattempt.symm, by simp [hrunning]⟩⟩
  cases hostStep_effect h with
  | kept f hf hget hretries =>
    obtain ⟨x, hx, hk⟩ := kept_before hf hget he'
    obtain rfl : x = e := Option.some.inj (hx.symm.trans he)
    rcases hk.outcome with ho | ⟨-, ho⟩ | ⟨ho, -⟩
    · exact absurd (ho.symm.trans hrunning) hne
    · simp [hrunning, Outcome.active] at ho
    · exact ⟨x, he, ho, hk.attempt ▸ hattempt⟩
  | queued x hfresh hget outcome hidentity hfree hretries =>
    rw [hget, Table.get_put] at he'
    split at he'
    · obtain rfl := Option.some.inj he'
      rw [outcome] at hrunning
      cases hrunning
    · rw [he] at he'
      exact absurd (Option.some.inj he' ▸ hrunning) hne
  | retried r x now hl hread hrow hfailed hretryable hfree hget hretries =>
    rw [hget, Table.get_alter] at he'
    split at he'
    · rw [he] at he'
      obtain rfl := Option.some.inj he'
      cases hrunning
    · rw [he] at he'
      exact absurd (Option.some.inj he' ▸ hrunning) hne

/-- A worker whose attempt is not the row's leaves the row as it is. -/
theorem stale_worker {ticket : Ticket} {e : HostEvent} (hl : l.ticket = some ticket)
    (he : s.events.get ticket.event = some e) (hstale : e.details.attempt ≠ ticket.attempt)
    (h : hostStep keyOf s l = some s') : s'.events.get ticket.event = some e := by
  cases l with
  | deliver t acquired now =>
    obtain rfl : t = ticket := Option.some.inj hl
    simp only [hostStep, Option.bind_eq_bind, Option.bind_eq_some_iff] at h
    obtain ⟨x, hx, hs'⟩ := h
    cases hs'
    simp [he, workerAcquisition_stale e hstale]
  | finish t result now =>
    obtain rfl : t = ticket := Option.some.inj hl
    simp only [hostStep] at h
    split at h
    · cases h
      simp [he, finish_stale e hstale]
    · cases h
  | clusterChanged | queue | enqueued | enqueueFailed | readRetry | retry | reap => cases hl

/-- A terminal outcome stays, but for a retry of a retryable failure. -/
theorem terminal_stays {pk : Nat} {e : HostEvent} (he : s.events.get pk = some e) (hend : e.outcome.active = false)
    (h : hostStep keyOf s l = some s') : ∃ e', s'.events.get pk = some e' ∧
      ((e'.outcome = e.outcome ∧ e'.details.attempt = e.details.attempt) ∨
        ((∃ r now, l = .retry r now ∧ r.event = pk) ∧ e.outcome = .failed ∧ e.details.retryable = some true ∧
          e'.outcome = .queued ∧ e'.details.attempt = e.details.attempt + 1)) := by
  cases hostStep_effect h with
  | kept f hf hget hretries =>
    obtain ⟨e', he', hk⟩ := kept_after hf hget he
    exact ⟨e', he', .inl ⟨hk.terminal hend, hk.attempt⟩⟩
  | queued x hfresh hget =>
    have hne : pk ≠ x.pk := by
      intro hpk
      rw [hpk, hfresh] at he
      cases he
    exact ⟨e, by rw [hget, Table.get_put, if_neg hne, he], .inl ⟨rfl, rfl⟩⟩
  | retried r x now hl hread hrow hfailed hretryable hfree hget hretries =>
    by_cases hpk : pk = x.pk
    · have hevent : r.event = pk := (Table.key_of_get hrow).symm.trans hpk.symm
      rw [hevent, he] at hrow
      obtain rfl := Option.some.inj hrow
      exact ⟨requeued now e, by rw [hget, Table.get_alter, if_pos hpk, he]; rfl,
        .inr ⟨⟨r, now, hl, hevent⟩, hfailed, hretryable, rfl, rfl⟩⟩
    · exact ⟨e, by rw [hget, Table.get_alter, if_neg hpk, he], .inl ⟨rfl, rfl⟩⟩

end

/-- **The host-refresh protocol.** In every state that any interleaving of the parties
reaches: one event at most is queued or running for a cluster, scope and node; an attempt
that enters running never does so again; a worker with an attempt number that is not the
event's changes nothing; and a terminal outcome is changed by a retry only, from a
retryable failure to queued at the next attempt. -/
theorem host_refresh_protocol {keyOf : Nat → String} {s : HostSystem}
    (h : Reachable (hostStep keyOf) HostSystem.Initial s) :
    (∀ pk pk' e e', s.events.get pk = some e → s.events.get pk' = some e' → e.outcome.active = true →
      e'.outcome.active = true → e.target = e'.target → pk = pk') ∧
    ∀ l s', hostStep keyOf s l = some s' →
      (∀ ticket, Enters s s' ticket → ∀ ls s₁ l' s₁', run (hostStep keyOf) s' ls = some s₁ →
        hostStep keyOf s₁ l' = some s₁' → ¬ Enters s₁ s₁' ticket) ∧
      (∀ ticket e, l.ticket = some ticket → s.events.get ticket.event = some e → e.details.attempt ≠ ticket.attempt →
        s'.events.get ticket.event = some e) ∧
      (∀ pk e, s.events.get pk = some e → e.outcome.active = false → ∃ e', s'.events.get pk = some e' ∧
        ((e'.outcome = e.outcome ∧ e'.details.attempt = e.details.attempt) ∨
          ((∃ r now, l = .retry r now ∧ r.event = pk) ∧ e.outcome = .failed ∧ e.details.retryable = some true ∧
            e'.outcome = .queued ∧ e'.details.attempt = e.details.attempt + 1))) := by
  have hinv : s.Inv keyOf := h.inv (fun _ h₀ => h₀.inv) hostStep_inv
  refine ⟨hinv.unique, fun l s' hstep => ⟨fun ticket hen ls s₁ l' s₁' hrun hstep' hen' => ?_,
    fun ticket e hl he hstale => stale_worker hl he hstale hstep, fun pk e he hend => terminal_stays he hend hstep⟩⟩
  have hspent : Spent ticket s₁ := run_inv (fun hs h => spent_stays hs h) (enters_iff_queued hstep hen).2 hrun
  obtain ⟨⟨e, he, hqueued, hattempt⟩, -⟩ := enters_iff_queued hstep' hen'
  obtain ⟨x, hx, hx'⟩ := hspent
  obtain rfl : x = e := Option.some.inj (hx.symm.trans he)
  rcases hx' with hlt | ⟨-, hne⟩
  · omega
  · exact hne hqueued

/-- Nothing recorded, every cluster enabled. -/
def noHostRefresh : HostSystem := ⟨fun _ => {}, Table.empty, [], [], []⟩

/-- A worker stops reporting, its attempt is reaped, and the event is queued again. -/
def lateWorkerRun : List HostAction :=
  [.queue 1 7 "membership" "" 100, .enqueued ⟨1, 0⟩ "t0", .deliver ⟨1, 0⟩ true 101,
    .reap 1 ⟨fun _ => none, fun _ => false⟩ 5000, .readRetry 1, .retry ⟨1, 7, .membership, none⟩ 5001]

/-- The first worker comes back and finds the event at the next attempt. -/
theorem host_refresh_protocol_late_worker : ∃ s s' e,
    run (hostStep fun _ => "lab") noHostRefresh lateWorkerRun = some s ∧
    hostStep (fun _ => "lab") s (.finish ⟨1, 0⟩ (.complete 3 none) 5002) = some s' ∧
    s.events.get 1 = some e ∧ e.outcome = .queued ∧ e.details.attempt = 1 ∧ s'.events.get 1 = some e := by
  obtain ⟨s, e, hrun, he, ho, ha, hw⟩ : ∃ s e, run (hostStep fun _ => "lab") noHostRefresh lateWorkerRun = some s ∧
      s.events.get 1 = some e ∧ e.outcome = .queued ∧ e.details.attempt = 1 ∧ s.workers.contains ⟨1, 0⟩ = true :=
    ⟨_, _, rfl, rfl, rfl, rfl, rfl⟩
  obtain ⟨s', hstep⟩ : ∃ s', hostStep (fun _ => "lab") s (.finish ⟨1, 0⟩ (.complete 3 none) 5002) = some s' :=
    ⟨_, if_pos hw⟩
  have hreach : Reachable (hostStep fun _ => "lab") HostSystem.Initial s :=
    ⟨noHostRefresh, lateWorkerRun, ⟨rfl, rfl, rfl, rfl⟩, hrun⟩
  obtain ⟨-, hstale, -⟩ := (host_refresh_protocol hreach).2 _ s' hstep
  exact ⟨s, s', e, hrun, hstep, he, ho, ha, hstale ⟨1, 0⟩ e rfl he (by simp [ha])⟩

end PveHelper.Operations
