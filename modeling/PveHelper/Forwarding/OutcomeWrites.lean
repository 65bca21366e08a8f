/-
How a changed outcome of an Audit event comes into the outbox. `enqueue_audit_event`
hangs on `post_save` of the model (`core/signals.py`), so what a write commits depends on
how it is made. A save inside a transaction commits the outcome and the delivery
together. A save in autocommit mode commits the outcome first; the signal is sent after
that, and the delivery has a transaction of its own, if the process lives to make it.
`bulk_update`, by which retirement cancels the operations of a cluster, sends no signal.

A step is one committed transaction.
-/
import PveHelper.Forwarding.Outbox
import PveHelper.Retirement.Finalizers

namespace PveHelper.Forwarding

open Lib Retirement

/-! ## The writers -/

/-- The functions that change an event's outcome with `event.save(..)`. -/
inductive OutcomeWriter
  -- core/services/tag_actions.py, core/views/tags.py
  | enqueueTagOperation | retryTagOperation | prepareTagOperation | executeTagOperation | tagBulkOperationView
  -- core/services/cluster_host_refresh.py
  | hostRefreshEnqueue | retryClusterHostRefresh | hostRefreshFinish | hostRefreshWorkerAcquisition
  -- core/services/tag_inventory_refresh.py
  | queueTagInventoryRefresh | executeTagInventoryRefresh | executeTagInventoryRefreshClaim
  -- core/services/cluster_inventory_bootstrap.py
  | queueClusterInventoryBootstrap | inventoryBootstrapFinish | executeClusterInventoryBootstrapClaim
  -- core/services/storage_catalog_refresh.py
  | queueStorageCatalogRefresh | catalogRefreshFinish | executeStorageCatalogRefreshClaim
  -- core/services/task_failures.py, core/template_clone_tasks.py, core/ovf_import_tasks.py
  | recordEventFailure | cloneGuestToTemplateTask | ovfImportTask
  -- core/views/scheduling.py, core/views/guests/operation_lifecycle.py
  | cancelGuestRecentTask | finishGuestRunningAudit
  -- core/tasks.py
  | pollGuestAuditTask | reapStaleGuestTasks | reapOrphanedClusterOperations | reapStaleTagOperations
  | reapStaleHeartbeatOperations | migrateGuestDisksTask | restoreGuestBackupTask | registerImportVmTask
deriving DecidableEq

/-- The save stands in a `transaction.atomic()` block. -/
def OutcomeWriter.inTransaction : OutcomeWriter → Bool
  | .retryTagOperation | .hostRefreshEnqueue | .retryClusterHostRefresh | .hostRefreshFinish
  | .hostRefreshWorkerAcquisition | .executeTagInventoryRefreshClaim | .executeClusterInventoryBootstrapClaim
  | .executeStorageCatalogRefreshClaim | .reapOrphanedClusterOperations | .reapStaleTagOperations
  | .reapStaleHeartbeatOperations => true
  | _ => false

/-! ## The log -/

def outcomeText : AuditOutcome → String
  | .queued => "queued"
  | .running => "running"
  | .cancelled => "cancelled"
  | .failed => "failed"
  | .failure => "failure"
  | .missed => "missed"
  | .refused => "refused"
  | .skipped => "skipped"
  | .success => "success"
  | .warning => "warning"
  | .other text => text

/-- The event as `_safe_payload` sees it, over the columns that no step here writes. -/
def snapshot (columns : AuditSnapshot) (e : AuditEvent) : AuditSnapshot :=
  { columns with
    pk := e.pk, action := e.action, outcome := outcomeText e.outcome, objectType := e.objectType, objectId := e.objectId }

/-- The events, the outbox, and the signals of committed saves that are still to be handled. -/
structure AuditLog where
  enabled : Bool
  events : Serial AuditEvent.pk
  deliveries : Serial Delivery.pk
  signals : List AuditEvent

/-- `enqueue_audit_event`. -/
def AuditLog.enqueue (s : AuditLog) (columns : AuditSnapshot) (e : AuditEvent) (now : Time) : AuditLog :=
  if !s.enabled then s else { s with deliveries := enqueueAuditEvent s.deliveries (snapshot columns e) now }

/-- The columns that `save(update_fields=["outcome", "details"])` writes. -/
def withOutcome (outcome : AuditOutcome) (details : Json) (e : AuditEvent) : AuditEvent :=
  { e with outcome := outcome, details := details }

theorem withOutcome_pk (outcome : AuditOutcome) (details : Json) (e : AuditEvent) :
    (withOutcome outcome details e).pk = e.pk := rfl

/-- The row of the save, and no signal yet. -/
def AuditLog.saved (s : AuditLog) (event : Nat) (outcome : AuditOutcome) (details : Json) : AuditLog :=
  { s with events := s.events.alter event (withOutcome outcome details) (withOutcome_pk outcome details) }

inductive AuditAction
  | configure (enabled : Bool)
  | write (writer : OutcomeWriter) (event : Nat) (outcome : AuditOutcome) (details : Json) (columns : AuditSnapshot) (now : Time)
  | signal (i : Nat) (columns : AuditSnapshot) (now : Time)
  | died (i : Nat)
  | retire (cluster : Nat) (mode : Scheduling.RetirementMode) (retiredAt : Time)

def auditStep (s : AuditLog) : AuditAction → Option AuditLog
  | .configure enabled => some { s with enabled := enabled }
  | .write writer event outcome details columns now =>
    match s.events.table.get event with
    | none => none
    | some e =>
      if writer.inTransaction then
        some ((s.saved event outcome details).enqueue columns (withOutcome outcome details e) now)
      else
        some { s.saved event outcome details with signals := s.signals ++ [withOutcome outcome details e] }
  | .signal i columns now =>
    match s.signals[i]? with
    | none => none
    | some e => some ({ s with signals := s.signals.eraseIdx i }.enqueue columns e now)
  | .died i => if i < s.signals.length then some { s with signals := s.signals.eraseIdx i } else none
  | .retire cluster mode retiredAt =>
    (finalizeAuditOperations cluster mode retiredAt s.events).map fun events => { s with events := events }

/-! ## Outcomes in the outbox -/

/-- The transaction made a delivery with the event's new outcome. -/
def Delivered (s s' : AuditLog) (e : AuditEvent) : Prop :=
  ∃ pk d, s'.deliveries.table.get pk = some d ∧ s.deliveries.next ≤ pk ∧ d.auditEventId = e.pk ∧
    ("outcome", outcomeText e.outcome) ∈ d.payload

/-- While forwarding is enabled, every outcome the transaction changed is in the outbox. -/
def Outboxed (s : AuditLog) (_ : AuditAction) (s' : AuditLog) : Prop :=
  s.enabled = true → ∀ pk e e', s.events.table.get pk = some e → s'.events.table.get pk = some e' →
    e.outcome ≠ e'.outcome → Delivered s s' e'

/-- The operation is one that the retirement cancels. -/
def cancels (events : Serial AuditEvent.pk) (cluster : Nat) (mode : Scheduling.RetirementMode) (e : AuditEvent) : Bool :=
  let preflight := auditRetirementPreflight cluster mode true events.table
  (participantIds cluster preflight events.table).contains e.pk && e.cancellable mode

/-- While forwarding is enabled, an outcome is changed by a save in a transaction only: not
by a save in autocommit mode, and not by a retirement that has operations to cancel. -/
def SavedInTransaction (s : AuditLog) (a : AuditAction) (_ : AuditLog) : Prop :=
  s.enabled = true → match a with
    | .write writer event outcome .. =>
      writer.inTransaction = true ∨ ∀ e, s.events.table.get event = some e → e.outcome = outcome
    | .retire cluster mode _ => ∀ e ∈ s.events.table.rows, cancels s.events cluster mode e = false
    | _ => True

section
variable {s s' : AuditLog}

theorem outcome_mem_safePayload (e : AuditSnapshot) : ("outcome", e.outcome) ∈ safePayload e := by
  simp [safePayload]

theorem not_delivered_of_deliveries (h : s'.deliveries = s.deliveries) (e : AuditEvent) : ¬ Delivered s s' e := by
  intro hd
  obtain ⟨pk, d, hget, hnew, -⟩ := hd
  rw [h] at hget
  exact absurd (s.deliveries.below hget) (Nat.not_lt.mpr hnew)

/-- A step that makes no delivery changes no outcome, or is short of one. -/
theorem outboxed_iff_of_deliveries {a : AuditAction} (henabled : s.enabled = true) (h : s'.deliveries = s.deliveries) :
    Outboxed s a s' ↔ ∀ pk e e', s.events.table.get pk = some e → s'.events.table.get pk = some e' → e.outcome = e'.outcome := by
  constructor
  · intro hout pk e e' he he'
    exact Classical.byContradiction fun hne => not_delivered_of_deliveries h e' (hout henabled pk e e' he he' hne)
  · intro hsame _ pk e e' he he' hne
    exact absurd (hsame pk e e' he he') hne

theorem outboxed_of_events {a : AuditAction} (h : s'.events = s.events) : Outboxed s a s' := by
  intro _ pk e e' he he' hne
  rw [h, he] at he'
  cases he'
  exact absurd rfl hne

theorem AuditLog.enqueue_events (columns : AuditSnapshot) (e : AuditEvent) (now : Time) :
    (s.enqueue columns e now).events = s.events := by
  unfold AuditLog.enqueue
  split <;> rfl

theorem saved_get (event : Nat) (outcome : AuditOutcome) (details : Json) (pk : Nat) :
    (s.saved event outcome details).events.table.get pk =
      if pk = event then (s.events.table.get pk).map (withOutcome outcome details) else s.events.table.get pk :=
  Serial.get_alter ..

/-- A save in a transaction brings the new outcome into the outbox. -/
theorem outboxed_of_save {a : AuditAction} {event : Nat} {outcome : AuditOutcome} {details : Json} {columns : AuditSnapshot}
    {now : Time} {e : AuditEvent} (hget : s.events.table.get event = some e) :
    Outboxed s a ((s.saved event outcome details).enqueue columns (withOutcome outcome details e) now) := by
  intro henabled pk e₀ e' he₀ he' hne
  rw [AuditLog.enqueue_events, saved_get] at he'
  split at he'
  · rename_i hpk
    subst hpk
    rw [hget] at he₀ he'
    cases he₀
    cases he'
    refine ⟨s.deliveries.next, newDelivery s.deliveries (snapshot columns (withOutcome outcome details e)) now
      s.deliveries.next, ?_, Nat.le_refl _, rfl, outcome_mem_safePayload (snapshot columns (withOutcome outcome details e))⟩
    have henqueue : (s.saved pk outcome details).enqueue columns (withOutcome outcome details e) now =
        { s.saved pk outcome details with
          deliveries := enqueueAuditEvent s.deliveries (snapshot columns (withOutcome outcome details e)) now } := by
      simp [AuditLog.enqueue, AuditLog.saved, henabled]
    rw [henqueue]
    exact enqueueAuditEvent_next ..
  · rw [he₀] at he'
    cases he'
    exact absurd rfl hne

/-- In autocommit mode the outcome is committed alone. -/
theorem outboxed_autocommit_iff {a : AuditAction} {event : Nat} {outcome : AuditOutcome} {details : Json}
    {signals : List AuditEvent} (henabled : s.enabled = true) :
    Outboxed s a { s.saved event outcome details with signals := signals } ↔
      ∀ e, s.events.table.get event = some e → e.outcome = outcome := by
  refine Iff.trans (outboxed_iff_of_deliveries henabled ?_) ?_
  · rfl
  constructor
  · intro h e he
    exact h event e (withOutcome outcome details e) he (by rw [saved_get, if_pos rfl, he]; rfl)
  · intro h pk e e' he he'
    rw [saved_get] at he'
    split at he'
    · rename_i hpk
      rw [he] at he'
      cases he'
      exact h e (hpk ▸ he)
    · rw [he] at he'
      cases he'
      rfl

theorem cancellable_outcome_ne {mode : Scheduling.RetirementMode} {e : AuditEvent} (h : e.cancellable mode = true) :
    e.outcome ≠ .cancelled := by
  intro ho
  rw [AuditEvent.cancellable, ho] at h
  cases h

/-- A retirement that goes through is short of a delivery for each operation it cancels. -/
theorem outboxed_retire_iff {a : AuditAction} {cluster : Nat} {mode : Scheduling.RetirementMode} {retiredAt : Time}
    {events : Serial AuditEvent.pk} (henabled : s.enabled = true)
    (h : finalizeAuditOperations cluster mode retiredAt s.events = some events) :
    Outboxed s a { s with events := events } ↔ ∀ e ∈ s.events.table.rows, cancels s.events cluster mode e = false := by
  obtain ⟨hgate, hget, -⟩ := finalizeAuditOperations_some h
  have hrow : ∀ pk, events.table.get pk = (s.events.table.get pk).map fun e =>
      if cancels s.events cluster mode e then e.cancelledBy mode retiredAt else e := by
    intro pk
    rw [hget]
    refine Option.map_congr fun e he => if_congr ?_ rfl rfl
    rw [← cancels_iff hgate (Table.mem_of_get he), cancels, Bool.and_eq_true, List.contains_iff_mem]
  refine Iff.trans (outboxed_iff_of_deliveries henabled ?_) ?_
  · rfl
  constructor
  · intro hsame e he
    cases hcancels : cancels s.events cluster mode e with
    | false => rfl
    | true =>
      have hget : s.events.table.get e.pk = some e := Table.get_of_mem he
      have hafter := hsame e.pk e _ hget (by rw [hrow, hget, Option.map_some, if_pos hcancels])
      exact absurd hafter (cancellable_outcome_ne (Bool.and_eq_true_iff.mp hcancels).2)
  · intro hnone pk e e' he he'
    rw [hrow, he, Option.map_some, hnone e (Table.mem_of_get he)] at he'
    cases he'
    rfl

theorem auditStep_outboxed_iff {a : AuditAction} (h : auditStep s a = some s') :
    Outboxed s a s' ↔ SavedInTransaction s a s' := by
  cases hen : s.enabled with
  | false => exact ⟨fun _ ht => by simp [hen] at ht, fun _ ht => by simp [hen] at ht⟩
  | true =>
    cases a with
    | configure enabled =>
      cases h
      exact ⟨fun _ _ => trivial, fun _ => outboxed_of_events rfl⟩
    | write writer event outcome details columns now =>
      simp only [auditStep] at h
      split at h
      · cases h
      · rename_i e hget
        simp only [SavedInTransaction, hen, forall_const]
        split at h
        · rename_i htransaction
          cases h
          exact ⟨fun _ => .inl htransaction, fun _ => outboxed_of_save hget⟩
        · rename_i hauto
          cases h
          rw [outboxed_autocommit_iff hen]
          exact ⟨.inr, fun hor => hor.resolve_left hauto⟩
    | signal i columns now =>
      simp only [auditStep] at h
      split at h
      · cases h
      · cases h
        exact ⟨fun _ _ => trivial, fun _ => outboxed_of_events (AuditLog.enqueue_events ..)⟩
    | died i =>
      simp only [auditStep] at h
      split at h
      · cases h
        exact ⟨fun _ _ => trivial, fun _ => outboxed_of_events rfl⟩
      · cases h
    | retire cluster mode retiredAt =>
      obtain ⟨events, hevents, rfl⟩ := Option.map_eq_some_iff.mp h
      rw [outboxed_retire_iff hen hevents]
      simp only [SavedInTransaction, hen, forall_const]

end

/-- **The outbox is complete exactly where outcomes are saved in a transaction.** In every
run, each transaction that commits a changed outcome while forwarding is enabled commits a
delivery with it, if and only if every change is a `save` inside a transaction: no save in
autocommit mode, and no retirement that finds operations to cancel. -/
theorem outboxed_iff_savedInTransaction (s : AuditLog) (ls : List AuditAction) :
    Along auditStep Outboxed s ls ↔ Along auditStep SavedInTransaction s ls := by
  refine along_congr_of (J := fun _ => True) (Q := fun _ => True) (fun _ _ _ => trivial) ?_ (fun _ _ => trivial) trivial
  intro s a s' _ _ h
  exact auditStep_outboxed_iff h

/-- One queued provider operation on the cluster 1. -/
def queuedOperation : AuditLog where
  enabled := true
  events := Serial.empty.insert (fun pk => { pk := pk, cluster := some 1, action := "guest.stop", outcome := .queued })
    fun _ => rfl
  deliveries := .empty
  signals := []

/-- Retirement cancels the operation, and the outbox does not hear of it. -/
theorem retirement_not_outboxed : ¬ ∀ s ls, Along auditStep Outboxed s ls := by
  intro h
  have hout := h queuedOperation [.retire 1 .forced 100] _ rfl
  obtain ⟨pk, d, hget, -⟩ := hout.1 rfl 1 _ _ rfl rfl (by decide +kernel)
  cases hget

end PveHelper.Forwarding
