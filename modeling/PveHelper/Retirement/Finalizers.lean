/-
What each owner does when a cluster is retired: the scheduled actions, the
console sessions, the Audit operations, the storage rows, the guest and host
projections, the enrollments and the connection's own configuration
(`core/services/{scheduled_actions,console_sessions,audit_events,
storage_retirement,current_guest_inventory,cluster_projection,
cluster_enrollment}.py`), and the blockers `_local_impact` finds among them. Each
one leaves the rows of every other cluster as they were (`..._otherRows`); only
deleting the endpoints is felt elsewhere, where a row refers to one of them.
-/
import PveHelper.Retirement.AuditGate
import PveHelper.Scheduling.Retirement

namespace PveHelper.Retirement

open Lib Scheduling
open Clusters (ConsoleSession consoleGateClear finalizeConsoles)

section
variable (cluster : Nat) (mode : RetirementMode) (retiredAt : Time)

/-! ## Gates -/

/-- `_scheduled_retirement_preflight`. -/
def scheduledCounts (s : Sys) : GateCounts :=
  let rows := s.runs.rows.filter fun r => ofCluster s.actions cluster r && !retirementTerminal r.status
  let notStarted := (rows.filter fun r => retirementNotStarted r.status).length
  let active := (rows.filter fun r => retirementActive r.status).length
  ⟨(rows.length : Int) - notStarted - active, active⟩

/-- `_console_retirement_preflight`. -/
def consoleCounts (sessions : Table ConsoleSession.pk) : GateCounts :=
  let rows := sessions.rows.filter fun s => s.of cluster && !s.status.terminal
  let pending := (rows.filter fun s => s.status == .pending).length
  let active := (rows.filter fun s => s.status.active).length
  ⟨(rows.length : Int) - pending - active, active⟩

/-! ## Audit operations -/

/-- `finalize_cluster_retirement_audit_operations`; nothing where it raises. -/
def finalizeAuditOperations (events : Serial AuditEvent.pk) : Option (Serial AuditEvent.pk) :=
  match finalizeClusterRetirementAuditOperations cluster retiredAt (modeText mode) events with
  | .ok _ events => some events
  | .error _ _ => none

/-! ## Storage -/

/-- The rows of one kind that belong to the cluster, by primary key. -/
def ownedBy (db : Db) (kind : OwnedKind) : List OwnedRow :=
  ((db.owned kind).rows.filter (·.cluster == cluster)).insertionSort (·.pk ≤ ·.pk)

def storedBy (db : Db) (kind : StorageRowKind) : List StorageRow :=
  ((db.storageRows kind).rows.filter (ofStorage db.storages cluster)).insertionSort (·.pk ≤ ·.pk)

/-- What `_storage_snapshot` hashes; a binding and a consumer with the columns joined to them. -/
structure StorageImpact where
  clusterPk : Nat
  clusterKey : String
  mode : RetirementMode
  catalogStates : List OwnedRow
  definitions : List ClusterStorage
  nodeStates : List StorageRow
  coverages : List StorageRow
  observations : List StorageRow
  handoffIntents : List OwnedRow
  bindings : List (StorageRow × Option String × Option String)
  consumers : List (OwnedRow × Option StorageMount)

/-- `_storage_snapshot`, up to the hash. -/
def storageSnapshot (c : ProxmoxCluster) (db : Db) : StorageImpact where
  clusterPk := c.pk
  clusterKey := c.key
  mode := mode
  catalogStates := ownedBy c.pk db .storageCatalogState
  definitions := (db.storages.rows.filter (·.cluster == c.pk)).insertionSort (·.pk ≤ ·.pk)
  nodeStates := storedBy c.pk db .nodeState
  coverages := storedBy c.pk db .volumeCoverage
  observations := storedBy c.pk db .volumeObservation
  handoffIntents := ownedBy c.pk db .topologyHandoffStorageBinding
  bindings := (storedBy c.pk db .mount).map fun r =>
    (r, (db.storages.get r.clusterStorage).map (·.storageId), (r.mount.bind db.mounts.get).map (·.mountKey))
  consumers := (ownedBy c.pk db .proxmoxStorageConsumer).map fun r => (r, r.mount.bind db.mounts.get)

/-- The deletion of the cluster's rows of some kinds. -/
def deleteOwned (kinds : List OwnedKind) (db : Db) : Db :=
  { db with owned := fun kind =>
      if kinds.contains kind then (db.owned kind).keep (·.cluster != cluster) else db.owned kind }

def ClusterStorage.unmanaged (unmanagedAt : Time) (s : ClusterStorage) : ClusterStorage :=
  { s with unmanagedAt := some unmanagedAt }

theorem ClusterStorage.unmanaged_pk (unmanagedAt : Time) (s : ClusterStorage) : (s.unmanaged unmanagedAt).pk = s.pk := rfl

/-- The definitions are kept and unmanaged; all that hangs on them is deleted. -/
def retireStorageRows (db : Db) : Db :=
  { db with
    storages := db.storages.updateWhere (fun s => s.cluster == cluster && s.unmanagedAt.isNone) (·.unmanaged retiredAt)
      (ClusterStorage.unmanaged_pk retiredAt)
    storageRows := fun kind => (db.storageRows kind).keep fun r => !ofStorage db.storages cluster r }

/-- The kinds the storage finalizer deletes; consumers only when forced. -/
def retiredStorageKinds : List OwnedKind :=
  [.topologyHandoffStorageBinding, .storageCatalogState] ++ if mode = .forced then [.proxmoxStorageConsumer] else []

/-! ## Projections and configuration -/

/-- `retire_cluster_guest_inventory`. -/
def retireGuestInventory (db : Db) : Db :=
  deleteOwned cluster [.currentGuestInventoryState] { db with guests := db.guests.keep (·.cluster != cluster) }

/-- `retire_cluster_projection`. -/
def retireProjection (db : Db) : Db :=
  deleteOwned cluster [.clusterProjectionCoverage, .clusterNodeInterface, .clusterNodeState, .clusterMembershipState] db

/-- `retire_cluster_enrollments`. -/
def retireEnrollments (db : Db) : Db := { db with enrollments := db.enrollments.keep (·.cluster != cluster) }

/-- The deletion of the cluster's endpoints, with the references to them. -/
def deleteEndpoints (db : Db) : Db :=
  { db with
    endpoints := db.endpoints.keep (·.cluster != cluster)
    guests := db.guests.modify (·.detached (ofEndpoint db.endpoints cluster)) (CurrentGuest.detached_pk _)
    enrollments := db.enrollments.modify (·.detached (ofEndpoint db.endpoints cluster)) (NodeEnrollment.detached_pk _) }

end

section
variable {cluster : Nat} {mode : RetirementMode} {retiredAt : Time}

/-! ## Other clusters' rows: deletions -/

theorem deleteOwned_otherRows (kinds : List OwnedKind) (db : Db) :
    otherRows cluster (deleteOwned cluster kinds db) = otherRows cluster db := by
  have howned : ∀ kind k, ((if kinds.contains kind then (db.owned kind).keep (·.cluster != cluster) else db.owned kind).get k).filter
      (·.cluster != cluster) = ((db.owned kind).get k).filter (·.cluster != cluster) := by
    intro kind k
    split
    · exact Table.filter_get_keep (fun _ h => h) k
    · rfl
  exact congrArg (fun o => { otherRows cluster db with owned := o }) (funext fun kind => funext (howned kind))

theorem retireGuestInventory_otherRows (db : Db) :
    otherRows cluster (retireGuestInventory cluster db) = otherRows cluster db := by
  refine (deleteOwned_otherRows _ _).trans ?_
  exact congrArg (fun o => { otherRows cluster db with guests := o }) (funext (Table.filter_get_keep fun _ h => h))

theorem retireEnrollments_otherRows (db : Db) : otherRows cluster (retireEnrollments cluster db) = otherRows cluster db :=
  congrArg (fun o => { otherRows cluster db with enrollments := o }) (funext (Table.filter_get_keep fun _ h => h))

/-- The cluster of a definition stays. -/
theorem ofStorage_unmanaged {storages : Table ClusterStorage.pk} {p : ClusterStorage → Bool} (r : StorageRow) :
    ofStorage (storages.updateWhere p (·.unmanaged retiredAt) (ClusterStorage.unmanaged_pk retiredAt)) cluster r =
      ofStorage storages cluster r := by
  rw [ofStorage, ofStorage, Table.get_updateWhere]
  cases storages.get r.clusterStorage with
  | none => rfl
  | some s => by_cases hp : p s = true <;> simp [hp, ClusterStorage.unmanaged]

theorem retireStorageRows_otherRows (db : Db) :
    otherRows cluster (retireStorageRows cluster retiredAt db) = otherRows cluster db := by
  have hstorages : ∀ k, ((db.storages.updateWhere (fun s => s.cluster == cluster && s.unmanagedAt.isNone)
      (·.unmanaged retiredAt) (ClusterStorage.unmanaged_pk retiredAt)).get k).filter (·.cluster != cluster) =
        (db.storages.get k).filter (·.cluster != cluster) := by
    refine Table.filter_get_updateWhere (ClusterStorage.unmanaged_pk retiredAt) fun k s _ hs => ?_
    simp only [Bool.and_eq_true, beq_iff_eq] at hs
    simp [ClusterStorage.unmanaged, hs.1]
  have hrows : ∀ kind k, (((db.storageRows kind).keep fun r => !ofStorage db.storages cluster r).get k).filter
      (fun r => !ofStorage (retireStorageRows cluster retiredAt db).storages cluster r) =
        ((db.storageRows kind).get k).filter fun r => !ofStorage db.storages cluster r := by
    intro kind k
    simp only [retireStorageRows, ofStorage_unmanaged]
    exact Table.filter_get_keep (fun _ h => h) k
  exact OtherRows.ext rfl rfl rfl rfl rfl (funext hstorages) (funext fun kind => funext (hrows kind)) rfl rfl rfl rfl rfl rfl

/-- Deleting the endpoints is felt by who refers to one. -/
theorem deleteEndpoints_otherRows (db : Db) :
    otherRows cluster (deleteEndpoints cluster db) = (otherRows cluster db).detached (ofEndpoint db.endpoints cluster) := by
  have hguests : ∀ k, ((db.guests.modify (·.detached (ofEndpoint db.endpoints cluster)) (CurrentGuest.detached_pk _)).get k).filter
      (·.cluster != cluster) =
        ((db.guests.get k).filter (·.cluster != cluster)).map (·.detached (ofEndpoint db.endpoints cluster)) := by
    intro k
    rw [Table.get_modify, Option.filter_map]
    rfl
  have henrollments : ∀ k, ((db.enrollments.modify (·.detached (ofEndpoint db.endpoints cluster))
      (NodeEnrollment.detached_pk _)).get k).filter (·.cluster != cluster) =
        ((db.enrollments.get k).filter (·.cluster != cluster)).map (·.detached (ofEndpoint db.endpoints cluster)) := by
    intro k
    rw [Table.get_modify, Option.filter_map]
    rfl
  have hendpoints : ∀ k, ((db.endpoints.keep (·.cluster != cluster)).get k).filter (·.cluster != cluster) =
      (db.endpoints.get k).filter (·.cluster != cluster) := Table.filter_get_keep fun _ h => h
  exact OtherRows.ext rfl (funext hendpoints) rfl (funext hguests) (funext henrollments) rfl rfl rfl rfl rfl rfl rfl rfl

/-! ## Scheduled actions -/

/-- A clear gate of a verified retirement finds no run of the cluster under way. -/
theorem retirementGateClear_verified {s : Sys} (h : retirementGateClear s cluster .verified = true) {r : ScheduledActionRun}
    (hr : r ∈ s.runs.rows) (hof : ofCluster s.actions cluster r = true) : retirementActive r.status = false := by
  unfold retirementGateClear at h
  simp only [Bool.and_eq_true, Bool.or_eq_true, decide_eq_true_eq, reduceCtorEq, false_or] at h
  cases hactive : retirementActive r.status with
  | false => rfl
  | true =>
    have hrow : r ∈ s.runs.rows.filter fun r => ofCluster s.actions cluster r && !retirementTerminal r.status := by
      refine List.mem_filter.mpr ⟨hr, ?_⟩
      cases hst : r.status <;> simp_all [retirementActive, retirementTerminal]
    exact hactive.symm.trans (none_of_counted h.2 hrow)

/-- In either mode every run of the cluster in flight is cancelled, and no other is touched. -/
theorem finalizeRetirement_get {s s' : Sys} (h : finalizeRetirement s cluster mode retiredAt = some s') (pk : Nat) :
    s'.runs.get pk = (s.runs.get pk).map fun r =>
      if ofCluster s.actions cluster r && inFlight r.status then retiredRun (notStartedCode mode) retiredAt r else r := by
  cases mode with
  | forced => exact finalizeRetirement_runs h pk
  | verified =>
    obtain ⟨hgate, h⟩ := Option.ite_none_left_eq_some.mp h
    simp only [Bool.not_eq_true', Bool.not_eq_false] at hgate
    cases h
    rw [Table.get_updateWhere]
    cases hr : s.runs.get pk with
    | none => rfl
    | some r =>
      simp only [Option.map_some, inFlight_eq_retirement]
      cases hof : ofCluster s.actions cluster r with
      | false => rfl
      | true => simp [retirementGateClear_verified hgate (Table.mem_of_get hr) hof]

/-- The cluster of an action stays. -/
theorem finalizeRetirement_ofCluster {s s' : Sys} (h : finalizeRetirement s cluster mode retiredAt = some s')
    (r : ScheduledActionRun) : ofCluster s'.actions cluster r = ofCluster s.actions cluster r :=
  ofCluster_congr (act_clusters (x := .retire cluster mode retiredAt) h) rfl

theorem finalizeRetirement_quiet {s s' : Sys} (h : finalizeRetirement s cluster mode retiredAt = some s')
    {r : ScheduledActionRun} (hr : r ∈ s'.runs.rows) (hof : ofCluster s'.actions cluster r = true) :
    inFlight r.status = false := by
  have hget := Table.get_of_mem hr
  rw [finalizeRetirement_get h, Option.map_eq_some_iff] at hget
  obtain ⟨r₀, -, rfl⟩ := hget
  split
  · rfl
  · rename_i hkept
    rw [if_neg hkept, finalizeRetirement_ofCluster h] at hof
    simpa [hof] using hkept

theorem finalizeRetirement_otherRows {db : Db} {s' : Sys} (h : finalizeRetirement db.schedules cluster mode retiredAt = some s') :
    otherRows cluster { db with schedules := s' } = otherRows cluster db := by
  have hactions : ∀ k, (s'.actions.get k).filter (·.cluster != cluster) =
      (db.schedules.actions.get k).filter (·.cluster != cluster) := by
    obtain ⟨-, h⟩ := Option.ite_none_left_eq_some.mp h
    cases h
    refine Table.filter_get_updateWhere ?_ fun k a _ ha => ?_
    · exact fun _ => rfl
    simp only [Bool.and_eq_true, decide_eq_true_eq] at ha
    simp [ha.1]
  have hruns : ∀ k, (s'.runs.get k).filter (fun r => !ofCluster s'.actions cluster r) =
      (db.schedules.runs.get k).filter fun r => !ofCluster db.schedules.actions cluster r := by
    intro k
    simp only [finalizeRetirement_ofCluster h]
    rw [finalizeRetirement_get h]
    cases hr : db.schedules.runs.get k with
    | none => rfl
    | some r =>
      rw [Option.map_some]
      split
      · rename_i hof
        have hof' : ofCluster db.schedules.actions cluster r = true := (Bool.and_eq_true_iff.mp hof).1
        have hretired : ofCluster db.schedules.actions cluster (retiredRun (notStartedCode mode) retiredAt r) = true := hof'
        simp [Option.filter, hof', hretired]
      · rfl
  exact OtherRows.ext rfl rfl rfl rfl rfl rfl rfl (funext hactions) (funext hruns) rfl rfl rfl rfl

/-! ## Console sessions -/

theorem finalizeConsoles_otherRows {db : Db} {consoles : Table ConsoleSession.pk}
    (h : finalizeConsoles db.consoles cluster mode retiredAt = some consoles) :
    otherRows cluster { db with consoles := consoles } = otherRows cluster db := by
  have hconsoles : ∀ k, (consoles.get k).filter (fun s => !s.of cluster) =
      (db.consoles.get k).filter fun s => !s.of cluster := by
    intro k
    rw [Clusters.finalizeConsoles_get h]
    cases db.consoles.get k with
    | none => rfl
    | some s =>
      rw [Option.map_some]
      split
      · rename_i hof
        have hretired : (s.retired mode retiredAt).of cluster = true := by
          rw [ConsoleSession.of, Clusters.ConsoleSession.retired_cluster]
          exact hof
        simp [Option.filter, hof, hretired]
      · rfl
  exact congrArg (fun o => { otherRows cluster db with consoles := o }) (funext hconsoles)

/-! ## Audit operations -/

/-- Where it is through, the gate was clear, exactly the operations to be cancelled have changed, and none of the
cluster is under way. -/
theorem finalizeAuditOperations_some {events events' : Serial AuditEvent.pk}
    (h : finalizeAuditOperations cluster mode retiredAt events = some events') :
    (auditRetirementPreflight cluster mode true events.table).gateClear = true ∧
      (∀ pk, events'.table.get pk = (events.table.get pk).map fun e =>
        if e.Cancels cluster mode then e.cancelledBy mode retiredAt else e) ∧
      ∀ e ∈ events'.table.rows, e.cluster = some cluster → isProviderAction e.action = true → e.outcome.active = false := by
  unfold finalizeAuditOperations at h
  cases hgate : (auditRetirementPreflight cluster mode true events.table).gateClear with
  | false =>
    rw [finalize_blocked (retirementMode_modeText mode) hgate] at h
    cases h
  | true =>
    obtain ⟨result, found, hrun, -, hget, hquiet⟩ :=
      @finalize_clear cluster mode retiredAt events _ (retirementMode_modeText mode) hgate
    rw [hrun] at h
    cases h
    exact ⟨rfl, hget, hquiet⟩

theorem finalizeAuditOperations_quiet {events events' : Serial AuditEvent.pk}
    (h : finalizeAuditOperations cluster mode retiredAt events = some events') {e : AuditEvent} (he : e ∈ events'.table.rows)
    (hof : e.cluster = some cluster) (hprovider : isProviderAction e.action = true) : e.outcome.active = false :=
  (finalizeAuditOperations_some h).2.2 e he hof hprovider

theorem finalizeAuditOperations_otherRows {db : Db} {events : Serial AuditEvent.pk}
    (h : finalizeAuditOperations cluster mode retiredAt db.events = some events) :
    otherRows cluster { db with events := events } = otherRows cluster db := by
  refine congrArg (fun o => { otherRows cluster db with events := o }) (funext fun k => ?_)
  rw [(finalizeAuditOperations_some h).2.1 k]
  cases he : db.events.table.get k with
  | none => rfl
  | some e =>
    rw [Option.map_some]
    split
    · rename_i hcancels
      have hcluster : (e.cancelledBy mode retiredAt).cluster = some cluster := hcancels.1
      simp [Option.filter, hcluster, hcancels.1]
    · rfl

end

end PveHelper.Retirement
