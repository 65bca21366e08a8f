/-
The physical deletion of a connection nobody has used, after `_delete_unused_connection_atomic` of
`core/services/cluster_deletion.py`: the verdict of `cluster_deletion_eligibility.py` under the lock,
the rows the next refresh would rebuild, the enrollments, the event, the history detached from the
cluster, its own rows and the cluster itself, all in one transaction. The relations of a cluster are
one family (`ReverseRelation`); what the database does with the rows that refer to a deleted one is
theirs (`ReverseRelation.onDelete`).

A deletion that raises leaves every row as it was. One that commits leaves no row of the cluster, keeps
every event there was, and touches the rows of another cluster only where they refer to an endpoint it
deletes; and a managed connection that is eligible is deleted (`deletion_keeps_history`,
`eligible_deleted`).
-/
import Mathlib
import PveHelper.Clusters.Footprint
import PveHelper.Retirement.Rows

namespace PveHelper.Retirement.Deletion

open Lib

/-! ## Rows -/

/-- What refers to a cluster, its endpoints and its Audit events apart. -/
inductive ReverseRelation
  | credential
  | transportTrust
  | consoleSessions
  | storageCatalogState
  | storageDefinitions
  | proxmoxObjects
  | currentGuests
  | inventoryState
  | storageConsumers
  | scanObservations
  | scheduledActions
  | storageSpaceSnapshots
  | membershipState
  | topologyHandoffStorageBindings
  | nodeStates
  | projectionCoverage
  | nodeInterfaces
  | nodeEnrollments
deriving DecidableEq

/-- `on_delete` of a foreign key. -/
inductive OnDelete
  | cascade
  | protect
  | setNull
deriving DecidableEq

namespace ReverseRelation

def accessor : ReverseRelation → String
  | credential => "credential"
  | transportTrust => "transport_trust"
  | consoleSessions => "console_sessions"
  | storageCatalogState => "storage_catalog_state"
  | storageDefinitions => "storage_definitions"
  | proxmoxObjects => "proxmox_objects"
  | currentGuests => "current_guests"
  | inventoryState => "inventory_state"
  | storageConsumers => "storage_consumers"
  | scanObservations => "scan_observations"
  | scheduledActions => "scheduled_actions"
  | storageSpaceSnapshots => "storage_space_snapshots"
  | membershipState => "membership_state"
  | topologyHandoffStorageBindings => "topology_handoff_storage_bindings"
  | nodeStates => "node_states"
  | projectionCoverage => "projection_coverage"
  | nodeInterfaces => "node_interfaces"
  | nodeEnrollments => "node_enrollments"

def onDelete : ReverseRelation → OnDelete
  | consoleSessions => .setNull
  | storageDefinitions | proxmoxObjects | currentGuests | storageConsumers | scanObservations | scheduledActions
  | storageSpaceSnapshots => .protect
  | credential | transportTrust | storageCatalogState | inventoryState | membershipState
  | topologyHandoffStorageBindings
  | nodeStates | projectionCoverage | nodeInterfaces | nodeEnrollments => .cascade

def all : List ReverseRelation :=
  [credential, transportTrust, consoleSessions, storageCatalogState, storageDefinitions, proxmoxObjects, currentGuests,
    inventoryState, storageConsumers, scanObservations, scheduledActions, storageSpaceSnapshots, membershipState,
    topologyHandoffStorageBindings, nodeStates, projectionCoverage, nodeInterfaces, nodeEnrollments]

theorem mem_all (rel : ReverseRelation) : rel ∈ all := by cases rel <;> decide

end ReverseRelation

structure RelatedRow where
  pk : Nat
  cluster : Option Nat
  /-- The endpoint it names, where its model has such a column. -/
  endpoint : Option Nat := none
  columns : Columns := []

/-- `ProxmoxCluster`, with its display name. -/
structure Connection extends Clusters.ProxmoxCluster where
  displayName : String := ""

def Connection.id (c : Connection) : Nat := c.pk

structure AuditEvent where
  pk : Nat
  cluster : Option Nat
  clusterKeySnapshot : String := ""
  action : String
  outcome : AuditOutcome
  objectType : String := ""
  objectId : String := ""
  user : Option Nat := none
  details : Json := .obj []

structure Db where
  clusters : Table Connection.id
  endpoints : Table ProxmoxEndpoint.pk
  related : ReverseRelation → Table RelatedRow.pk
  /-- The rows below the storage definitions. -/
  storageRows : StorageRowKind → Table StorageRow.pk
  events : Serial AuditEvent.pk

def ofCluster (cluster : Nat) (r : RelatedRow) : Bool := r.cluster == some cluster

/-- `cluster_storage__cluster_id=cluster`. -/
def ofStorage (db : Db) (cluster : Nat) (r : StorageRow) : Bool :=
  ((db.related .storageDefinitions).get r.clusterStorage).any (ofCluster cluster)

/-! ## Eligibility -/

/-- `_reverse_relation_fields`, in the order of the models. -/
def reverseRelationFields : List String :=
  ["audit_events", "credential", "transport_trust", "endpoints", "console_sessions", "storage_catalog_state",
    "storage_definitions", "proxmox_objects", "current_guests", "inventory_state", "storage_consumers", "scan_observations",
    "scheduled_actions", "storage_space_snapshots", "membership_state", "topology_handoff_storage_bindings", "node_states",
    "projection_coverage", "node_interfaces", "node_enrollments"]

/-- The rows of every relation that name a cluster. -/
def relatedRows (db : Db) : List Clusters.RelatedRow :=
  (db.events.table.rows.filterMap fun e => e.cluster.map (⟨"audit_events", ·, e.action⟩)) ++
    (db.endpoints.rows.map fun e => ⟨"endpoints", e.cluster, ""⟩) ++
    ReverseRelation.all.flatMap fun rel => (db.related rel).rows.filterMap fun r => r.cluster.map (⟨rel.accessor, ·, ""⟩)

def eligibility (c : Connection) (db : Db) : Clusters.DeletionEligibility :=
  Clusters.unusedConnectionDeletionEligibility c.toProxmoxCluster reverseRelationFields (relatedRows db)

/-! ## The writes -/

def RelatedRow.detached (gone : Nat → Bool) (r : RelatedRow) : RelatedRow := { r with endpoint := detachRef gone r.endpoint }

theorem RelatedRow.detached_pk (gone : Nat → Bool) (r : RelatedRow) : (r.detached gone).pk = r.pk := rfl

def RelatedRow.orphaned (cluster : Nat) (r : RelatedRow) : RelatedRow :=
  if ofCluster cluster r then { r with cluster := none } else r

theorem RelatedRow.orphaned_pk (cluster : Nat) (r : RelatedRow) : (r.orphaned cluster).pk = r.pk := by
  unfold orphaned
  split <;> rfl

/-- The rows of a relation deleted; with the storage definitions go the rows below them. -/
def deleteRelated (cluster : Nat) (rel : ReverseRelation) (db : Db) : Db :=
  { db with
    related := fun other => if other = rel then (db.related rel).keep fun r => !ofCluster cluster r else db.related other
    storageRows := fun kind =>
      if rel = .storageDefinitions then (db.storageRows kind).keep fun r => !ofStorage db cluster r else db.storageRows kind }

/-- What `delete()` counts. -/
def deletedCount (cluster : Nat) (rel : ReverseRelation) (db : Db) : Nat :=
  (db.related rel).rows.countP (ofCluster cluster) +
    if rel = .storageDefinitions then
      (StorageRowKind.all.map fun kind => (db.storageRows kind).rows.countP (ofStorage db cluster)).sum
    else 0

/-- `_RECONSTRUCTIBLE_RELATIONS`. -/
def reconstructibleRelations : List ReverseRelation :=
  [.projectionCoverage, .nodeStates, .nodeInterfaces, .membershipState, .currentGuests, .inventoryState, .storageCatalogState,
    .storageDefinitions, .scanObservations, .proxmoxObjects, .storageSpaceSnapshots]

/-- `on_delete=SET_NULL` where a row names one of the endpoints deleted. -/
def deleteEndpoints (cluster : Nat) (db : Db) : Db :=
  { db with
    endpoints := db.endpoints.keep (·.cluster != cluster)
    related := fun rel => (db.related rel).modify (·.detached (ofEndpoint db.endpoints cluster))
      (RelatedRow.detached_pk (ofEndpoint db.endpoints cluster)) }

def AuditEvent.detachedFrom (cluster : Nat) (e : AuditEvent) : AuditEvent :=
  if e.cluster = some cluster then { e with cluster := none } else e

theorem AuditEvent.detachedFrom_pk (cluster : Nat) (e : AuditEvent) : (e.detachedFrom cluster).pk = e.pk := by
  unfold detachedFrom
  split <;> rfl

/-- `AuditEvent.objects.filter(cluster_id=..).update(cluster=None)`. -/
def detachEvents (cluster : Nat) (db : Db) : Db :=
  { db with events := db.events.updateWhere (fun _ => true) (·.detachedFrom cluster) (AuditEvent.detachedFrom_pk cluster) }

inductive DeletionError
  | notAllowed (message : String)
  | blocked (message relation kind : String)
  | postcondition (message : String)
  /-- `ProtectedError`. -/
  | protectedRows

def noLongerManaged : DeletionError :=
  .notAllowed "This cluster connection no longer exists or has been retired and cannot be deleted."

def enrollmentsLeft : DeletionError :=
  .postcondition "The enrollment owner did not prove its deletion postcondition; no changes were committed."

def rowsLeft : DeletionError :=
  .postcondition "The unused connection could not prove its deletion postconditions; no changes were committed."

/-- A row of a relation names the cluster. -/
def holds (cluster : Nat) (db : Db) (rel : ReverseRelation) : Bool := (db.related rel).rows.any (ofCluster cluster)

def eventsLeft (cluster : Nat) (db : Db) : Bool := db.events.table.rows.any (·.cluster == some cluster)

def endpointsLeft (cluster : Nat) (db : Db) : Bool := db.endpoints.rows.any (·.cluster == cluster)

/-- A row that `on_delete=PROTECT` keeps the cluster for. -/
def protectsCluster (cluster : Nat) (db : Db) : Bool :=
  eventsLeft cluster db || endpointsLeft cluster db ||
    ReverseRelation.all.any fun rel => rel.onDelete == .protect && holds cluster db rel

/-- What `on_delete` does to the rows of a relation that name the cluster. -/
def released (cluster : Nat) (rel : ReverseRelation) (rows : Table RelatedRow.pk) : Table RelatedRow.pk :=
  match rel.onDelete with
  | .cascade => rows.keep fun r => !ofCluster cluster r
  | .setNull => rows.modify (·.orphaned cluster) (RelatedRow.orphaned_pk cluster)
  | .protect => rows

/-- `managed_clusters().filter(pk=..).delete()`. -/
def deleteCluster (cluster : Nat) (db : Db) : Except DeletionError Db := do
  ensure (!protectsCluster cluster db) .protectedRows
  pure { db with
    clusters := db.clusters.keep (·.pk != cluster)
    related := fun rel => released cluster rel (db.related rel) }

/-- `_assert_deletion_postconditions`: something is left. -/
def leftOver (cluster : Nat) (db : Db) : Bool :=
  (db.clusters.get cluster).isSome || holds cluster db .credential || holds cluster db .transportTrust ||
    endpointsLeft cluster db || eventsLeft cluster db || holds cluster db .nodeEnrollments ||
    reconstructibleRelations.any (holds cluster db)

/-! ## The event -/

/-- `DELETION_AUDIT_DETAIL_LIMIT`. -/
def deletionAuditDetailLimit : Nat := 100

/-- `ENROLLMENT_RETIREMENT_DETAIL_LIMIT`. -/
def enrollmentRetirementDetailLimit : Nat := 100

/-- A text column of a row. -/
def RelatedRow.text (r : RelatedRow) (column : String) : String :=
  match Json.lookup r.columns column with
  | some (.str text) => text
  | _ => ""

/-- The first row of a relation of the cluster has a text column, blank without one. -/
def firstText (cluster : Nat) (db : Db) (rel : ReverseRelation) (column : String) : String :=
  (((db.related rel).rows.find? (ofCluster cluster)).map (·.text column)).getD ""

/-- `_endpoint_snapshots`. -/
def endpointSnapshots (cluster : Nat) (db : Db) : List Json × Nat :=
  let rows := (db.endpoints.rows.filter (·.cluster == cluster)).insertionSort (·.pk ≤ ·.pk)
  ((rows.take deletionAuditDetailLimit).map fun e =>
    .obj [("name", .str e.name), ("url", .str e.normalizedUrl), ("enabled", .bool e.enabled)], rows.length)

/-- The snapshot of `retire_cluster_enrollments`, and how many there are. -/
def enrollmentSnapshots (cluster : Nat) (db : Db) : List Json × Nat :=
  let rows := ((db.related .nodeEnrollments).rows.filter (ofCluster cluster)).insertionSort
    fun a b => ¬ b.text "node_name" < a.text "node_name"
  ((rows.take enrollmentRetirementDetailLimit).map fun r =>
    .obj [("node_ref_snapshot", .str (r.text "node_ref_snapshot")), ("mode", .str (r.text "mode"))], rows.length)

/-- What is read before anything is removed. -/
structure Snapshot where
  endpoints : List Json × Nat
  credentialTokenId : String
  trustMode : String
  configAuditCount : Nat

def takeSnapshot (cluster : Nat) (db : Db) : Snapshot where
  endpoints := endpointSnapshots cluster db
  credentialTokenId := firstText cluster db .credential "token_id"
  trustMode := firstText cluster db .transportTrust "mode"
  configAuditCount := db.events.table.rows.countP (·.cluster == some cluster)

def deletionDetails (locked : Connection) (read : Snapshot) (removed : List (String × Nat)) (enrollments : List Json × Nat)
    (enrollmentsDeleted : Nat) : Json :=
  .obj [("display_name", .str locked.displayName), ("cluster_key", .str locked.key), ("endpoint_count", .int read.endpoints.2),
    ("endpoints", .arr read.endpoints.1), ("endpoints_omitted", .int (read.endpoints.2 - read.endpoints.1.length : Nat)),
    ("credential_token_id", .str read.credentialTokenId), ("trust_mode", .str read.trustMode),
    ("configuration_audit_events_detached", .int read.configAuditCount),
    ("footprint_reason", .str locked.operationalFootprintReason),
    ("reconstructible_rows_deleted", .obj ((removed.insertionSort fun a b => ¬ b.1 < a.1).map fun r => (r.1, .int r.2))),
    ("reconstructible_rows_deleted_total", .int ((removed.map (·.2)).sum : Nat)),
    ("cluster_node_enrollments_deleted", .int enrollmentsDeleted), ("node_enrollments", .arr enrollments.1),
    ("node_enrollments_omitted", .int (enrollments.2 - enrollments.1.length : Nat))]

def deletionEvent (locked : Connection) (actor : Option Nat) (details : Json) (pk : Nat) : AuditEvent where
  pk := pk
  cluster := some locked.pk
  clusterKeySnapshot := locked.key
  action := "cluster.unused_connection_deleted"
  outcome := .success
  objectType := "cluster"
  objectId := locked.key
  user := actor
  details := details

theorem deletionEvent_pk (locked : Connection) (actor : Option Nat) (details : Json) (pk : Nat) :
    (deletionEvent locked actor details pk).pk = pk := rfl

/-- `record_audit_event`; a configuration action stamps no footprint. -/
def recordDeletion (locked : Connection) (actor : Option Nat) (details : Json) (db : Db) : Db :=
  { db with events := db.events.insert (deletionEvent locked actor details) (deletionEvent_pk locked actor details) }

/-! ## The transaction -/

structure DeletionResult where
  clusterPk : Nat
  clusterKey : String
  displayName : String
  auditEventId : Nat
  endpointsDeleted : Nat
  credentialDeleted : Bool
  trustDeleted : Bool
  auditEventsDetached : Nat
  projectionRowsDeleted : Nat
  enrollmentRowsDeleted : Nat

/-- `managed_clusters().select_for_update().get(pk=..)`. -/
def lockManaged (cluster : Nat) (db : Db) : Except DeletionError Connection := do
  let locked ← orRaise (db.clusters.get cluster) noLongerManaged
  ensure locked.retiredAt.isNone noLongerManaged
  pure locked

def requireEligible (locked : Connection) (db : Db) : Except DeletionError Unit :=
  match (eligibility locked db).blockers with
  | [] => .ok ()
  | first :: _ => .error (.blocked "This connection has operational history or unresolved state and cannot be deleted."
      first.relation first.kind)

/-- `_delete_reconstructible_state`: what was removed, by relation. -/
def deleteReconstructibleState (cluster : Nat) : List ReverseRelation → EStateM DeletionError Db (List (String × Nat))
  | [] => pure []
  | rel :: rels => do
    let deleted ← query fun db => .ok (deletedCount cluster rel db)
    change fun db => .ok (deleteRelated cluster rel db)
    let removed ← deleteReconstructibleState cluster rels
    pure (if deleted = 0 then removed else (rel.accessor, deleted) :: removed)

/-- What is counted, then deleted. -/
def countedDelete (cluster : Nat) (rel : ReverseRelation) : EStateM DeletionError Db Nat := do
  let deleted ← query fun db => .ok (deletedCount cluster rel db)
  change fun db => .ok (deleteRelated cluster rel db)
  pure deleted

/-- `_delete_unused_connection_atomic`. -/
def deleteUnusedConnectionAtomic (cluster : Nat) (actor : Option Nat) : EStateM DeletionError Db DeletionResult := atomic do
  let locked ← query (lockManaged cluster)
  query (requireEligible locked)
  let read ← query fun db => .ok (takeSnapshot locked.pk db)
  let removed ← deleteReconstructibleState locked.pk reconstructibleRelations
  let enrollments ← query fun db => .ok (enrollmentSnapshots locked.pk db)
  let enrollmentsDeleted ← countedDelete locked.pk .nodeEnrollments
  query fun db => ensure (!holds locked.pk db .nodeEnrollments) enrollmentsLeft
  let event ← query fun db => .ok db.events.next
  change fun db => .ok (recordDeletion locked actor (deletionDetails locked read removed enrollments enrollmentsDeleted) db)
  let eventsDetached ← query fun db => .ok (db.events.table.rows.countP (·.cluster == some locked.pk))
  change fun db => .ok (detachEvents locked.pk db)
  let endpointsDeleted ← query fun db => .ok (db.endpoints.rows.countP (·.cluster == locked.pk))
  change fun db => .ok (deleteEndpoints locked.pk db)
  let credentialDeleted ← countedDelete locked.pk .credential
  let trustDeleted ← countedDelete locked.pk .transportTrust
  change (deleteCluster locked.pk)
  query fun db => ensure (!leftOver locked.pk db) rowsLeft
  pure {
    clusterPk := locked.pk
    clusterKey := locked.key
    displayName := locked.displayName
    auditEventId := event
    endpointsDeleted := endpointsDeleted
    credentialDeleted := credentialDeleted != 0
    trustDeleted := trustDeleted != 0
    auditEventsDetached := eventsDetached
    projectionRowsDeleted := (removed.map (·.2)).sum
    enrollmentRowsDeleted := enrollmentsDeleted }

/-! ## The rows of every other cluster -/

@[ext] structure OtherRows where
  clusters : List Connection
  endpoints : List ProxmoxEndpoint
  related : ReverseRelation → List RelatedRow

/-- The rows that do not belong to the cluster, those of no cluster among them. -/
def otherRows (cluster : Nat) (db : Db) : OtherRows where
  clusters := db.clusters.rows.filter (·.pk != cluster)
  endpoints := db.endpoints.rows.filter (·.cluster != cluster)
  related rel := (db.related rel).rows.filter fun r => !ofCluster cluster r

/-- The same rows with every reference to an endpoint that is gone null. -/
def OtherRows.detached (gone : Nat → Bool) (o : OtherRows) : OtherRows :=
  { o with related := fun rel => (o.related rel).map (·.detached gone) }

/-- The rows below the storage definitions of other clusters. -/
def otherStorageRows (cluster : Nat) (db : Db) (kind : StorageRowKind) : List StorageRow :=
  (db.storageRows kind).rows.filter fun r => !ofStorage db cluster r

/-! ## What one write does -/

section
variable {cluster : Nat} {rel : ReverseRelation} {db db' : Db} {gone : Nat → Bool}

theorem ofCluster_detached (r : RelatedRow) : ofCluster cluster (r.detached gone) = ofCluster cluster r := rfl

theorem deleteRelated_others : otherRows cluster (deleteRelated cluster rel db) = otherRows cluster db := by
  ext1
  · rfl
  · rfl
  · funext other
    by_cases hrel : other = rel
    · subst hrel
      simp [otherRows, deleteRelated, Table.keep]
    · simp [otherRows, deleteRelated, hrel]

theorem deleteRelated_holds (other : ReverseRelation) :
    holds cluster (deleteRelated cluster rel db) other = (decide (other ≠ rel) && holds cluster db other) := by
  by_cases hrel : other = rel
  · simp [holds, deleteRelated, hrel, Table.keep]
  · simp [holds, deleteRelated, hrel]

/-- A definition kept has the rows below it kept. -/
theorem ofStorage_deleteRelated {r : StorageRow} : ofStorage (deleteRelated cluster rel db) cluster r =
    (decide (rel ≠ .storageDefinitions) && ofStorage db cluster r) := by
  by_cases hrel : rel = .storageDefinitions
  · subst hrel
    cases hget : (db.related .storageDefinitions).get r.clusterStorage with
    | none => simp [ofStorage, deleteRelated, hget]
    | some d => by_cases hd : ofCluster cluster d = true <;> simp [ofStorage, deleteRelated, hget, Option.filter, hd]
  · simp [ofStorage, deleteRelated, hrel, Ne.symm hrel]

theorem deleteRelated_otherStorage :
    otherStorageRows cluster (deleteRelated cluster rel db) = otherStorageRows cluster db := by
  funext kind
  unfold otherStorageRows
  simp only [ofStorage_deleteRelated]
  by_cases hrel : rel = .storageDefinitions
  · simp [deleteRelated, hrel, Table.keep]
  · simp [deleteRelated, hrel]

theorem deleteEndpoints_others : otherRows cluster (deleteEndpoints cluster db) =
    (otherRows cluster db).detached (ofEndpoint db.endpoints cluster) := by
  ext1
  · rfl
  · simp [otherRows, deleteEndpoints, OtherRows.detached, Table.keep]
  · funext other
    simp [otherRows, deleteEndpoints, OtherRows.detached, Table.modify, List.filter_map, Function.comp_def,
      ofCluster_detached]

theorem deleteEndpoints_holds (other : ReverseRelation) :
    holds cluster (deleteEndpoints cluster db) other = holds cluster db other := by
  simp [holds, deleteEndpoints, Table.modify, Function.comp_def, ofCluster_detached]

theorem ofStorage_deleteEndpoints {r : StorageRow} : ofStorage (deleteEndpoints cluster db) cluster r =
    ofStorage db cluster r := by
  simp [ofStorage, deleteEndpoints, Option.any_map, ofCluster_detached]

theorem deleteEndpoints_otherStorage :
    otherStorageRows cluster (deleteEndpoints cluster db) = otherStorageRows cluster db := by
  funext kind
  simp only [otherStorageRows, ofStorage_deleteEndpoints]
  rfl

/-- With no row left that protects it, the cluster goes. -/
theorem deleteCluster_ok : deleteCluster cluster db = .ok db' ↔ protectsCluster cluster db = false ∧
    db' = { db with
      clusters := db.clusters.keep (·.pk != cluster)
      related := fun rel => released cluster rel (db.related rel) } := by
  unfold deleteCluster ensure
  cases protectsCluster cluster db with
  | true => simp [bind, Except.bind]
  | false => exact ⟨fun h => ⟨rfl, (Except.ok.inj h).symm⟩, fun h => congrArg Except.ok h.2.symm⟩

theorem deleteCluster_holds (h : deleteCluster cluster db = .ok db') (rel : ReverseRelation) :
    holds cluster db' rel = false := by
  obtain ⟨hprotects, rfl⟩ := deleteCluster_ok.mp h
  show (released cluster rel (db.related rel)).rows.any (ofCluster cluster) = false
  rw [List.any_eq_false]
  intro r hr
  cases hdelete : rel.onDelete with
  | cascade =>
    simp only [released, hdelete, Table.mem_keep, Bool.not_eq_true'] at hr
    simp [hr.2]
  | setNull =>
    simp only [released, hdelete, Table.modify, List.mem_map] at hr
    obtain ⟨r₀, -, rfl⟩ := hr
    unfold RelatedRow.orphaned
    split
    · simp [ofCluster]
    · assumption
  | protect =>
    simp only [released, hdelete] at hr
    have hnone := List.any_eq_false.mp (Bool.or_eq_false_iff.mp hprotects).2 rel (ReverseRelation.mem_all rel)
    simp only [hdelete, holds, beq_self_eq_true, Bool.true_and, Bool.not_eq_true, List.any_eq_false] at hnone
    simp [hnone r hr]

/-- Where no console names the cluster, its deletion touches no row of another. -/
theorem deleteCluster_others (h : deleteCluster cluster db = .ok db')
    (hconsole : ∀ rel, rel.onDelete = .setNull → holds cluster db rel = false) :
    otherRows cluster db' = otherRows cluster db := by
  obtain ⟨hprotects, rfl⟩ := deleteCluster_ok.mp h
  ext1
  · simp [otherRows, Table.keep]
  · rfl
  · funext rel
    cases hdelete : rel.onDelete with
    | cascade => simp [otherRows, released, hdelete, Table.keep]
    | protect => simp [otherRows, released, hdelete]
    | setNull =>
      have hnone := List.any_eq_false.mp (hconsole rel hdelete)
      have hid : (db.related rel).rows.map (·.orphaned cluster) = (db.related rel).rows := by
        refine (List.map_congr_left fun r hr => ?_).trans (List.map_id _)
        simp [RelatedRow.orphaned, hnone r hr]
      simp only [otherRows, released, hdelete, Table.modify, hid]

theorem deleteCluster_events (h : deleteCluster cluster db = .ok db') : db'.events = db.events := by
  obtain ⟨-, rfl⟩ := deleteCluster_ok.mp h
  rfl

theorem deleteCluster_endpoints (h : deleteCluster cluster db = .ok db') :
    endpointsLeft cluster db' = endpointsLeft cluster db := by
  obtain ⟨-, rfl⟩ := deleteCluster_ok.mp h
  rfl

theorem deleteCluster_otherStorage (h : deleteCluster cluster db = .ok db') :
    otherStorageRows cluster db' = otherStorageRows cluster db := by
  obtain ⟨-, rfl⟩ := deleteCluster_ok.mp h
  rfl

end

/-! ## The writes together -/

/-- The rows of several relations deleted, one relation after another. -/
def deleteAll (cluster : Nat) (rels : List ReverseRelation) (db : Db) : Db :=
  rels.foldl (fun db rel => deleteRelated cluster rel db) db

/-- What the transaction has written before it deletes the cluster itself. -/
def cleared (locked : Connection) (actor : Option Nat) (details : Json) (db : Db) : Db :=
  let bare := deleteRelated locked.pk .nodeEnrollments (deleteAll locked.pk reconstructibleRelations db)
  let detached := detachEvents locked.pk (recordDeletion locked actor details bare)
  deleteRelated locked.pk .transportTrust (deleteRelated locked.pk .credential (deleteEndpoints locked.pk detached))

section
variable {cluster : Nat} {rels : List ReverseRelation} {db db' : Db} {locked : Connection} {actor : Option Nat}
  {details : Json}

theorem deleteAll_others : otherRows cluster (deleteAll cluster rels db) = otherRows cluster db := by
  induction rels generalizing db with
  | nil => rfl
  | cons rel rels ih => exact ih.trans deleteRelated_others

theorem deleteAll_otherStorage : otherStorageRows cluster (deleteAll cluster rels db) = otherStorageRows cluster db := by
  induction rels generalizing db with
  | nil => rfl
  | cons rel rels ih => exact ih.trans deleteRelated_otherStorage

theorem deleteAll_holds (other : ReverseRelation) :
    holds cluster (deleteAll cluster rels db) other = (decide (other ∉ rels) && holds cluster db other) := by
  induction rels generalizing db with
  | nil => simp [deleteAll]
  | cons rel rels ih =>
    show holds cluster (deleteAll cluster rels (deleteRelated cluster rel db)) other = _
    rw [ih, deleteRelated_holds]
    by_cases hrel : other = rel <;> simp [hrel]

theorem deleteAll_endpoints : (deleteAll cluster rels db).endpoints = db.endpoints := by
  induction rels generalizing db with
  | nil => rfl
  | cons rel rels ih => exact ih

theorem deleteAll_events : (deleteAll cluster rels db).events = db.events := by
  induction rels generalizing db with
  | nil => rfl
  | cons rel rels ih => exact ih

theorem recordDeletion_others : otherRows cluster (recordDeletion locked actor details db) = otherRows cluster db := rfl

theorem detachEvents_others : otherRows cluster (detachEvents cluster db) = otherRows cluster db := rfl

theorem recordDeletion_otherStorage :
    otherStorageRows cluster (recordDeletion locked actor details db) = otherStorageRows cluster db := rfl

theorem detachEvents_otherStorage : otherStorageRows cluster (detachEvents cluster db) = otherStorageRows cluster db := rfl

theorem cleared_others : otherRows locked.pk (cleared locked actor details db) =
    (otherRows locked.pk db).detached (ofEndpoint db.endpoints locked.pk) := by
  simp only [cleared, deleteRelated_others, deleteEndpoints_others, detachEvents_others, recordDeletion_others,
    deleteAll_others]
  show OtherRows.detached (ofEndpoint (deleteAll locked.pk reconstructibleRelations db).endpoints locked.pk) _ = _
  rw [deleteAll_endpoints]

theorem cleared_otherStorage :
    otherStorageRows locked.pk (cleared locked actor details db) = otherStorageRows locked.pk db := by
  simp only [cleared, deleteRelated_otherStorage, deleteEndpoints_otherStorage, detachEvents_otherStorage,
    recordDeletion_otherStorage, deleteAll_otherStorage]

/-- The relations whose rows are deleted before the cluster. -/
def clearedRelations : List ReverseRelation := .nodeEnrollments :: .credential :: .transportTrust :: reconstructibleRelations

theorem cleared_holds (rel : ReverseRelation) : holds locked.pk (cleared locked actor details db) rel =
    (decide (rel ∉ clearedRelations) && holds locked.pk db rel) := by
  unfold cleared
  simp only [deleteRelated_holds, deleteEndpoints_holds]
  show (_ && (_ && holds locked.pk (deleteRelated locked.pk .nodeEnrollments _) rel)) = _
  rw [deleteRelated_holds, deleteAll_holds]
  cases rel <;> rfl

theorem cleared_endpoints : endpointsLeft locked.pk (cleared locked actor details db) = false := by
  simp [endpointsLeft, cleared, deleteRelated, deleteEndpoints, Table.keep]

theorem cleared_eventTable : (cleared locked actor details db).events =
    (db.events.insert (deletionEvent locked actor details) (deletionEvent_pk locked actor details)).updateWhere
      (fun _ => true) (·.detachedFrom locked.pk) (AuditEvent.detachedFrom_pk locked.pk) := by
  show ((deleteAll locked.pk reconstructibleRelations db).events.insert (deletionEvent locked actor details)
    (deletionEvent_pk locked actor details)).updateWhere _ _ _ = _
  rw [deleteAll_events]

/-- Every event is kept, detached from the cluster, and the deletion's own is among them. -/
theorem cleared_events (e' : AuditEvent) : e' ∈ (cleared locked actor details db).events.table.rows ↔
    (∃ e ∈ db.events.table.rows, e' = e.detachedFrom locked.pk) ∨
      e' = (deletionEvent locked actor details db.events.next).detachedFrom locked.pk := by
  rw [cleared_eventTable]
  simp only [Serial.updateWhere, Table.updateWhere, Table.modify, List.mem_map, Serial.mem_insert, if_true]
  constructor
  · rintro ⟨e, he | rfl, rfl⟩
    · exact .inl ⟨e, he, rfl⟩
    · exact .inr rfl
  · rintro (⟨e, he, rfl⟩ | rfl)
    · exact ⟨e, .inl he, rfl⟩
    · exact ⟨_, .inr rfl, rfl⟩

theorem detachedFrom_cluster (e : AuditEvent) : (e.detachedFrom cluster).cluster ≠ some cluster := by
  unfold AuditEvent.detachedFrom
  split <;> simp_all

theorem cleared_eventsLeft : eventsLeft locked.pk (cleared locked actor details db) = false := by
  unfold eventsLeft
  rw [List.any_eq_false]
  intro e' he'
  rcases (cleared_events e').mp he' with ⟨e, -, rfl⟩ | rfl <;> simpa using detachedFrom_cluster _

end

/-! ## Eligible connections -/

/-- A row of the relation makes a connection ineligible. -/
def ReverseRelation.blocks (rel : ReverseRelation) : Bool :=
  (Clusters.clusterReverseRelations.find? (·.accessor == rel.accessor)).any (·.blocksHardDelete)

theorem ReverseRelation.accessor_mem (rel : ReverseRelation) :
    rel.accessor ∈ reverseRelationFields ∧ (rel.accessor == "audit_events") = false := by
  cases rel <;> decide

/-- The rows of a relation are deleted first, go with the cluster, or make it ineligible. -/
theorem ReverseRelation.covered (rel : ReverseRelation) :
    rel ∈ clearedRelations ∨ rel.onDelete = .cascade ∨ rel.blocks = true := by
  cases rel <;> decide

theorem ReverseRelation.blocks_of_setNull {rel : ReverseRelation} (h : rel.onDelete = .setNull) : rel.blocks = true := by
  cases rel <;> first | rfl | cases h

section
variable {c : Connection} {db : Db} {rel : ReverseRelation}

theorem eligible_iff : (eligibility c db).eligible = true ↔ (eligibility c db).blockers = [] := List.isEmpty_iff

/-- A relation that blocks has no row of an eligible cluster. -/
theorem holds_of_eligible (h : (eligibility c db).eligible = true) (hblocks : rel.blocks = true) :
    holds c.pk db rel = false := by
  obtain ⟨hfield, hevents⟩ := rel.accessor_mem
  have hnone : Clusters.relationBlocker c.toProxmoxCluster (relatedRows db) rel.accessor = [] :=
    List.flatMap_eq_nil_iff.mp (List.append_eq_nil_iff.mp (eligible_iff.mp h)).2 _ hfield
  unfold ReverseRelation.blocks at hblocks
  unfold Clusters.relationBlocker at hnone
  cases hfind : Clusters.clusterReverseRelations.find? (·.accessor == rel.accessor) with
  | none => simp [hfind] at hblocks
  | some classification =>
    simp only [hfind, Option.any_some] at hblocks
    simp only [hfind, hblocks, Bool.true_and, bne_iff_ne, ne_eq, ite_not, ite_eq_left_iff, List.cons_ne_nil,
      imp_false, not_not, List.countP_eq_zero] at hnone
    rw [holds, List.any_eq_false]
    intro r hr hcluster
    refine hnone ⟨rel.accessor, c.pk, ""⟩ ?_ (by simp [Clusters.countsAgainst, hevents])
    refine List.mem_append_right _ (List.mem_flatMap.mpr ⟨rel, rel.mem_all, List.mem_filterMap.mpr ⟨r, hr, ?_⟩⟩)
    rw [beq_iff_eq.mp hcluster]
    rfl

/-- Once an eligible cluster is cleared, nothing protects it. -/
theorem protectsCluster_cleared {actor : Option Nat} {details : Json} (h : (eligibility c db).eligible = true) :
    protectsCluster c.pk (cleared c actor details db) = false := by
  simp only [protectsCluster, cleared_eventsLeft, cleared_endpoints, Bool.false_or, List.any_eq_false,
    Bool.and_eq_true, beq_iff_eq, not_and, Bool.not_eq_true]
  intro rel _ hprotect
  rw [cleared_holds]
  rcases rel.covered with hcleared | hcascade | hblocks
  · simp [hcleared]
  · rw [hcascade] at hprotect
    cases hprotect
  · rw [holds_of_eligible h hblocks, Bool.and_false]

end

/-! ## The transaction -/

section
variable {cluster : Nat} {actor : Option Nat} {db db' : Db} {locked : Connection}

theorem deleteReconstructibleState_run (cluster : Nat) (rels : List ReverseRelation) (db : Db) :
    ∃ removed, deleteReconstructibleState cluster rels db = .ok removed (deleteAll cluster rels db) := by
  induction rels generalizing db with
  | nil => exact ⟨[], rfl⟩
  | cons rel rels ih =>
    obtain ⟨removed, hrun⟩ := ih (deleteRelated cluster rel db)
    exact ⟨_, query_bind_ok.mpr ⟨_, rfl, change_bind_ok.mpr ⟨_, rfl, bind_ok.mpr ⟨_, _, hrun, rfl⟩⟩⟩⟩

theorem deleteReconstructibleState_ok {rels : List ReverseRelation} {removed : List (String × Nat)}
    (h : deleteReconstructibleState cluster rels db = .ok removed db') : db' = deleteAll cluster rels db := by
  obtain ⟨removed', hrun⟩ := deleteReconstructibleState_run cluster rels db
  rw [hrun] at h
  cases h
  rfl

theorem lockManaged_ok : lockManaged cluster db = .ok locked ↔
    db.clusters.get cluster = some locked ∧ locked.retiredAt = none := by
  unfold lockManaged
  simp only [except_bind_ok, orRaise_ok, ensure_ok, Option.isNone_iff_eq_none]
  constructor
  · rintro ⟨c, hget, -, hretired, hc⟩
    cases hc
    exact ⟨hget, hretired⟩
  · rintro ⟨hget, hretired⟩
    exact ⟨locked, hget, (), hretired, rfl⟩

theorem requireEligible_ok : requireEligible locked db = .ok () ↔ (eligibility locked db).eligible = true := by
  rw [eligible_iff, requireEligible]
  cases (eligibility locked db).blockers with
  | nil => simp
  | cons first rest => simp

theorem deleteUnusedConnectionAtomic_ok {result : DeletionResult}
    (h : deleteUnusedConnectionAtomic cluster actor db = .ok result db') :
    ∃ locked details, lockManaged cluster db = .ok locked ∧ requireEligible locked db = .ok () ∧
      deleteCluster locked.pk (cleared locked actor details db) = .ok db' := by
  unfold deleteUnusedConnectionAtomic at h
  rw [atomic_ok] at h
  obtain ⟨locked, hlock, h⟩ := query_bind_ok.mp h
  obtain ⟨⟨⟩, heligible, h⟩ := query_bind_ok.mp h
  obtain ⟨read, -, h⟩ := query_bind_ok.mp h
  obtain ⟨removed, _, hremoved, h⟩ := bind_ok.mp h
  cases deleteReconstructibleState_ok hremoved
  obtain ⟨enrollments, -, h⟩ := query_bind_ok.mp h
  obtain ⟨deleted, _, hdeleted, h⟩ := bind_ok.mp h
  cases hdeleted
  obtain ⟨⟨⟩, -, h⟩ := query_bind_ok.mp h
  obtain ⟨event, -, h⟩ := query_bind_ok.mp h
  obtain ⟨_, hrecorded, h⟩ := change_bind_ok.mp h
  cases hrecorded
  obtain ⟨eventsDetached, -, h⟩ := query_bind_ok.mp h
  obtain ⟨_, hdetached, h⟩ := change_bind_ok.mp h
  cases hdetached
  obtain ⟨endpointsDeleted, -, h⟩ := query_bind_ok.mp h
  obtain ⟨_, hendpoints, h⟩ := change_bind_ok.mp h
  cases hendpoints
  obtain ⟨credentialDeleted, _, hcredential, h⟩ := bind_ok.mp h
  cases hcredential
  obtain ⟨trustDeleted, _, htrust, h⟩ := bind_ok.mp h
  cases htrust
  obtain ⟨_, hcluster, h⟩ := change_bind_ok.mp h
  obtain ⟨⟨⟩, -, h⟩ := query_bind_ok.mp h
  cases h
  exact ⟨locked, _, hlock, heligible, hcluster⟩

/-- The deletion of the cluster leaves nothing the postconditions find. -/
theorem leftOver_deleteCluster {d : Db} (hevents : eventsLeft cluster d = false)
    (hendpoints : endpointsLeft cluster d = false) (h : deleteCluster cluster d = .ok db') : leftOver cluster db' = false := by
  have hholds := deleteCluster_holds h
  obtain ⟨-, rfl⟩ := deleteCluster_ok.mp h
  have hgone : (d.clusters.keep (·.pk != cluster)).get cluster = none := by
    rw [Table.get_keep]
    cases hget : d.clusters.get cluster with
    | none => rfl
    | some c =>
      have hpk : c.id = cluster := Table.key_of_get hget
      simp [Option.filter, show c.pk = cluster from hpk]
  have hrels : reconstructibleRelations.any (holds cluster _) = false := List.any_eq_false.mpr fun rel _ => by
    rw [hholds rel]
    exact Bool.false_ne_true
  unfold leftOver
  rw [hholds, hholds, hholds, hrels, hgone]
  simpa [endpointsLeft, eventsLeft] using And.intro hendpoints hevents

/-- A managed connection that is eligible is deleted. -/
theorem eligible_deleted (hlock : lockManaged cluster db = .ok locked) (heligible : requireEligible locked db = .ok ()) :
    Answers (deleteUnusedConnectionAtomic cluster actor) db := by
  have hprotects : ∀ details, protectsCluster locked.pk (cleared locked actor details db) = false := fun details =>
    protectsCluster_cleared (requireEligible_ok.mp heligible)
  obtain ⟨removed, hremoved⟩ := deleteReconstructibleState_run locked.pk reconstructibleRelations db
  have hcluster := fun details => deleteCluster_ok.mpr ⟨hprotects details, rfl⟩
  refine atomic_answers (query_bind_answers hlock (query_bind_answers heligible (query_bind_answers rfl ?_)))
  refine bind_answers hremoved (query_bind_answers rfl (bind_answers rfl (query_bind_answers (a := ()) ?_ ?_)))
  · rw [ensure_ok, deleteRelated_holds]
    simp
  refine query_bind_answers rfl (change_bind_answers rfl (query_bind_answers rfl (change_bind_answers rfl ?_)))
  refine query_bind_answers rfl (change_bind_answers rfl (bind_answers rfl (bind_answers rfl ?_)))
  refine change_bind_answers (hcluster _) (query_bind_answers (a := ()) ?_ ⟨_, _, rfl⟩)
  rw [ensure_ok, leftOver_deleteCluster cleared_eventsLeft cleared_endpoints (hcluster _)]
  rfl

end

/-- What a committed deletion has done. -/
structure Deleted (locked : Connection) (actor : Option Nat) (details : Json) (db db' : Db) : Prop where
  cluster : db'.clusters.get locked.pk = none
  relations : ∀ rel, holds locked.pk db' rel = false
  endpoints : endpointsLeft locked.pk db' = false
  /-- The rows below the storage definitions of the cluster are gone, and no others. -/
  storageRows : ∀ kind, (db'.storageRows kind).rows = (db.storageRows kind).rows.filter fun r => !ofStorage db locked.pk r
  /-- Every event is kept, off the cluster, and one is new. -/
  events : ∀ e', e' ∈ db'.events.table.rows ↔ (∃ e ∈ db.events.table.rows, e' = e.detachedFrom locked.pk) ∨
    e' = { deletionEvent locked actor details db.events.next with cluster := none }
  others : otherRows locked.pk db' = (otherRows locked.pk db).detached (ofEndpoint db.endpoints locked.pk)

/-- How a call of the deletion ends. -/
inductive Ending (cluster : Nat) (actor : Option Nat) (db : Db) : EStateM.Result DeletionError Db DeletionResult → Prop
  | refused (e : DeletionError) : Ending cluster actor db (.error e db)
  | deleted (locked : Connection) (details : Json) (result : DeletionResult) (db' : Db) :
    db.clusters.get cluster = some locked → locked.retiredAt = none → (eligibility locked db).eligible = true →
    Deleted locked actor details db db' → Ending cluster actor db (.ok result db')

theorem deletionEvent_detached (locked : Connection) (actor : Option Nat) (details : Json) (pk : Nat) :
    (deletionEvent locked actor details pk).detachedFrom locked.pk =
      { deletionEvent locked actor details pk with cluster := none } := if_pos rfl

/-- Without a definition of the cluster no row is below one. -/
theorem ofStorage_of_none {cluster : Nat} {db : Db} (h : holds cluster db .storageDefinitions = false) (r : StorageRow) :
    ofStorage db cluster r = false := by
  unfold ofStorage
  cases hget : (db.related .storageDefinitions).get r.clusterStorage with
  | none => rfl
  | some d => exact Bool.eq_false_iff.mpr (List.any_eq_false.mp h d (Table.mem_of_get hget))

theorem deleted_of_ok {cluster : Nat} {actor : Option Nat} {db db' : Db} {result : DeletionResult}
    (h : deleteUnusedConnectionAtomic cluster actor db = .ok result db') : ∃ locked details,
      db.clusters.get cluster = some locked ∧ locked.retiredAt = none ∧ (eligibility locked db).eligible = true ∧
      Deleted locked actor details db db' := by
  obtain ⟨locked, details, hlock, heligible, hcluster⟩ := deleteUnusedConnectionAtomic_ok h
  obtain ⟨hget, hretired⟩ := lockManaged_ok.mp hlock
  have heligible := requireEligible_ok.mp heligible
  have hholds := deleteCluster_holds hcluster
  have hconsole : ∀ rel : ReverseRelation, rel.onDelete = .setNull →
      holds locked.pk (cleared locked actor details db) rel = false := by
    intro rel hnull
    rw [cleared_holds, holds_of_eligible heligible (ReverseRelation.blocks_of_setNull hnull), Bool.and_false]
  have hothers := (deleteCluster_others hcluster hconsole).trans cleared_others
  have hstorage := (deleteCluster_otherStorage hcluster).trans cleared_otherStorage
  have hleft := leftOver_deleteCluster cleared_eventsLeft cleared_endpoints hcluster
  have hendpoints := (deleteCluster_endpoints hcluster).trans cleared_endpoints
  refine ⟨locked, details, hget, hretired, heligible, ?_, hholds, hendpoints, ?_, ?_, hothers⟩
  · simp only [leftOver, Bool.or_eq_false_iff] at hleft
    exact Option.not_isSome_iff_eq_none.mp (by simp [hleft])
  · intro kind
    have hkind := congrFun hstorage kind
    unfold otherStorageRows at hkind
    simpa only [ofStorage_of_none (hholds .storageDefinitions), Bool.not_false, List.filter_true] using hkind
  · intro e'
    rw [deleteCluster_events hcluster, cleared_events, deletionEvent_detached]

/-- **The deletion of an unused connection is whole, and keeps history.** In every database, whatever
the cluster: a call raises and every row is as it was; or the cluster is managed and eligible, and then
no row of it is left, every Audit event is kept as it was but for the reference to the cluster, together
with the event of the deletion, and the rows of other clusters keep everything but their references to
an endpoint that is deleted. -/
theorem deletion_keeps_history (cluster : Nat) (actor : Option Nat) (db : Db) :
    Ending cluster actor db (deleteUnusedConnectionAtomic cluster actor db) := by
  cases h : deleteUnusedConnectionAtomic cluster actor db with
  | error e db' =>
    obtain rfl : db' = db := atomic_error h
    exact .refused e
  | ok result db' =>
    obtain ⟨locked, details, hget, hretired, heligible, hdeleted⟩ := deleted_of_ok h
    exact .deleted locked details result db' hget hretired heligible hdeleted

/-- A call deletes the connection exactly when it is managed and eligible: no relation that eligibility
lets pass keeps the cluster. -/
theorem deleted_iff (cluster : Nat) (actor : Option Nat) (db : Db) :
    Answers (deleteUnusedConnectionAtomic cluster actor) db ↔ ∃ locked, db.clusters.get cluster = some locked ∧
      locked.retiredAt = none ∧ (eligibility locked db).eligible = true := by
  constructor
  · rintro ⟨result, db', h⟩
    obtain ⟨locked, -, hlock, heligible, -⟩ := deleteUnusedConnectionAtomic_ok h
    obtain ⟨hget, hretired⟩ := lockManaged_ok.mp hlock
    exact ⟨locked, hget, hretired, requireEligible_ok.mp heligible⟩
  · rintro ⟨locked, hget, hretired, heligible⟩
    exact eligible_deleted (lockManaged_ok.mpr ⟨hget, hretired⟩) (requireEligible_ok.mpr heligible)

/-- The clusters `old` and `new`; a guest of `new` was last read through the endpoint of `old`. -/
def repointedDb : Db where
  clusters := ⟨[⟨⟨1, "old", none, none, ""⟩, "Old"⟩, ⟨⟨2, "new", none, none, ""⟩, "New"⟩], by decide⟩
  endpoints := ⟨[⟨10, 1, "pve1", "https://pve1:8006", true, "", []⟩], by decide⟩
  related
    | .currentGuests => ⟨[⟨20, some 2, some 10, []⟩], by decide⟩
    | _ => .empty
  storageRows _ := .empty
  events := .empty

theorem repointedDb_eligible : (eligibility ⟨⟨1, "old", none, none, ""⟩, "Old"⟩ repointedDb).eligible = true := by
  decide

/-- The rows of another cluster are not all unchanged: a reference to a deleted endpoint is lost. -/
theorem other_cluster_changed : ¬ ∀ cluster actor db result db',
    deleteUnusedConnectionAtomic cluster actor db = .ok result db' → otherRows cluster db' = otherRows cluster db := by
  intro hclaim
  obtain ⟨result, db', hrun⟩ : Answers (deleteUnusedConnectionAtomic 1 none) repointedDb :=
    eligible_deleted (lockManaged_ok.mpr ⟨rfl, rfl⟩) (requireEligible_ok.mpr repointedDb_eligible)
  obtain ⟨locked, details, hget, -, -, hdeleted⟩ := deleted_of_ok hrun
  cases hget
  have hguest := congrFun (congrArg OtherRows.related (hdeleted.others.symm.trans (hclaim 1 none _ _ _ hrun))) .currentGuests
  have hdetached : [(⟨20, some 2, none, []⟩ : RelatedRow)] = [⟨20, some 2, some 10, []⟩] := hguest
  simp at hdetached

end PveHelper.Retirement.Deletion
