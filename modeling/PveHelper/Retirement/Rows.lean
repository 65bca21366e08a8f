/-
The rows a retirement reads, writes and deletes, after `core/models.py`. A
column that no step of a retirement reads is in `columns`. The tables whose rows
belong to a cluster and are only ever deleted with it are one family
(`OwnedKind`), and so are those whose rows belong to a storage definition
(`StorageRowKind`).

`otherRows` is what the rest of the installation sees: the rows of every other
cluster. Each step of a retirement is judged by it.
-/
import PveHelper.Lib.Json
import PveHelper.Lib.Text
import PveHelper.Lib.Atomic
import PveHelper.Scheduling.System
import PveHelper.Scans.Lifecycle
import PveHelper.Clusters.Consoles

namespace PveHelper.Retirement

open Lib Scheduling
open Scans (ScanStatus)
open Clusters (ConsoleSession)

abbrev Columns := List (String × Json)

/-! ## Rows -/

structure ProxmoxCluster where
  pk : Nat
  key : String
  displayName : String := ""
  enabled : Bool := true
  discoveredCaUuid : String := ""
  discoveredCaFingerprint : String := ""
  retiredAt : Option Time := none
  retiredBy : Option Nat := none
  /-- Blank until the cluster is retired. -/
  retirementMode : Option RetirementMode := none
  retirementReason : String := ""
  retiredCaUuid : String := ""
  retiredCaFingerprint : String := ""
  lifecycleGeneration : Nat := 1
  updatedAt : Time := 0
  columns : Columns := []

structure ProxmoxEndpoint where
  pk : Nat
  cluster : Nat
  name : String
  normalizedUrl : String
  enabled : Bool := true
  lastHealthStatus : String := ""
  columns : Columns := []

/-- The models whose rows belong to one cluster. -/
inductive OwnedKind
  | clusterCredential
  | clusterTransportTrust
  | currentGuestInventoryState
  | clusterMembershipState
  | clusterNodeState
  | clusterNodeInterface
  | clusterProjectionCoverage
  | storageCatalogState
  | topologyHandoffStorageBinding
  | proxmoxStorageConsumer
deriving DecidableEq

def OwnedKind.all : List OwnedKind :=
  [.clusterCredential, .clusterTransportTrust, .currentGuestInventoryState, .clusterMembershipState, .clusterNodeState,
    .clusterNodeInterface, .clusterProjectionCoverage, .storageCatalogState, .topologyHandoffStorageBinding,
    .proxmoxStorageConsumer]

theorem OwnedKind.mem_all (kind : OwnedKind) : kind ∈ OwnedKind.all := by cases kind <;> decide

structure OwnedRow where
  pk : Nat
  cluster : Nat
  /-- The host mount a consumer names. -/
  mount : Option Nat := none
  /-- In microseconds. -/
  updatedAt : Int := 0
  columns : Columns := []

/-- `CurrentGuestInventory`. -/
structure CurrentGuest where
  pk : Nat
  cluster : Nat
  sourceEndpoint : Option Nat := none
  columns : Columns := []

/-- `ClusterNodeEnrollment`. -/
structure NodeEnrollment where
  pk : Nat
  cluster : Nat
  onboardedViaEndpoint : Option Nat := none
  columns : Columns := []

structure ClusterStorage where
  pk : Nat
  cluster : Nat
  storageId : String
  unmanagedAt : Option Time := none
  columns : Columns := []

/-- The models whose rows belong to one storage definition. -/
inductive StorageRowKind
  | nodeState
  | volumeCoverage
  | volumeObservation
  | mount
deriving DecidableEq

def StorageRowKind.all : List StorageRowKind := [.nodeState, .volumeCoverage, .volumeObservation, .mount]

theorem StorageRowKind.mem_all (kind : StorageRowKind) : kind ∈ StorageRowKind.all := by cases kind <;> decide

structure StorageRow where
  pk : Nat
  clusterStorage : Nat
  /-- The host mount a binding names. -/
  mount : Option Nat := none
  columns : Columns := []

structure StorageMount where
  pk : Nat
  mountKey : String
  storageId : String
  displayName : String

/-- `AuditEvent.outcome`, with any other text the column may hold. -/
inductive AuditOutcome
  | queued | running
  | cancelled | failed | failure | missed | refused | skipped | success | warning
  | other (text : String)
deriving DecidableEq

/-- `_RETIREMENT_ACTIVE_OUTCOMES`. -/
def AuditOutcome.active : AuditOutcome → Bool
  | .queued | .running => true
  | _ => false

/-- `_RETIREMENT_TERMINAL_OUTCOMES`. -/
def AuditOutcome.terminal : AuditOutcome → Bool
  | .cancelled | .failed | .failure | .missed | .refused | .skipped | .success | .warning => true
  | _ => false

structure AuditEvent where
  pk : Nat
  cluster : Option Nat
  action : String
  outcome : AuditOutcome
  objectType : String := ""
  objectId : String := ""
  user : Option Nat := none
  details : Json := .obj []

structure ScanRun where
  pk : Nat
  status : ScanStatus

/-- The database, as far as a retirement goes. -/
structure Db where
  clusters : Serial ProxmoxCluster.pk
  endpoints : Table ProxmoxEndpoint.pk
  owned : OwnedKind → Table OwnedRow.pk
  guests : Table CurrentGuest.pk
  enrollments : Table NodeEnrollment.pk
  storages : Table ClusterStorage.pk
  storageRows : StorageRowKind → Table StorageRow.pk
  mounts : Table StorageMount.pk
  schedules : Sys
  consoles : Table ConsoleSession.pk
  events : Serial AuditEvent.pk
  scans : Table ScanRun.pk

/-- `cluster_storage__cluster_id=cluster`. -/
def ofStorage (storages : Table ClusterStorage.pk) (cluster : Nat) (r : StorageRow) : Bool :=
  (storages.get r.clusterStorage).any fun s => s.cluster == cluster

/-! ## The rows of every other cluster -/

/-- What is stored under each key. -/
@[ext] structure OtherRows where
  clusters : Nat → Option ProxmoxCluster
  endpoints : Nat → Option ProxmoxEndpoint
  owned : OwnedKind → Nat → Option OwnedRow
  guests : Nat → Option CurrentGuest
  enrollments : Nat → Option NodeEnrollment
  storages : Nat → Option ClusterStorage
  storageRows : StorageRowKind → Nat → Option StorageRow
  actions : Nat → Option ScheduledAction
  runs : Nat → Option ScheduledActionRun
  consoles : Nat → Option ConsoleSession
  events : Nat → Option AuditEvent
  mounts : Table StorageMount.pk
  scans : Table ScanRun.pk

/-- The rows that do not belong to the cluster, those of no cluster among them. -/
def otherRows (cluster : Nat) (db : Db) : OtherRows where
  clusters k := (db.clusters.table.get k).filter (·.pk != cluster)
  endpoints k := (db.endpoints.get k).filter (·.cluster != cluster)
  owned kind k := ((db.owned kind).get k).filter (·.cluster != cluster)
  guests k := (db.guests.get k).filter (·.cluster != cluster)
  enrollments k := (db.enrollments.get k).filter (·.cluster != cluster)
  storages k := (db.storages.get k).filter (·.cluster != cluster)
  storageRows kind k := ((db.storageRows kind).get k).filter fun r => !ofStorage db.storages cluster r
  actions k := (db.schedules.actions.get k).filter (·.cluster != cluster)
  runs k := (db.schedules.runs.get k).filter fun r => !ofCluster db.schedules.actions cluster r
  consoles k := (db.consoles.get k).filter fun s => !s.of cluster
  events k := (db.events.table.get k).filter (·.cluster != some cluster)
  mounts := db.mounts
  scans := db.scans

/-! ## References to endpoints -/

/-- The endpoint belongs to the cluster. -/
def ofEndpoint (endpoints : Table ProxmoxEndpoint.pk) (cluster endpoint : Nat) : Bool :=
  (endpoints.get endpoint).any fun e => e.cluster == cluster

/-- `on_delete=SET_NULL`: a reference to an endpoint that is gone becomes null. -/
def detachRef (gone : Nat → Bool) (ref : Option Nat) : Option Nat := ref.filter fun e => !gone e

def CurrentGuest.detached (gone : Nat → Bool) (g : CurrentGuest) : CurrentGuest :=
  { g with sourceEndpoint := detachRef gone g.sourceEndpoint }

def NodeEnrollment.detached (gone : Nat → Bool) (e : NodeEnrollment) : NodeEnrollment :=
  { e with onboardedViaEndpoint := detachRef gone e.onboardedViaEndpoint }

theorem CurrentGuest.detached_pk (gone : Nat → Bool) (g : CurrentGuest) : (g.detached gone).pk = g.pk := rfl

theorem NodeEnrollment.detached_pk (gone : Nat → Bool) (e : NodeEnrollment) : (e.detached gone).pk = e.pk := rfl

/-- The same rows with every reference to an endpoint that is gone null. -/
def OtherRows.detached (gone : Nat → Bool) (o : OtherRows) : OtherRows :=
  { o with
    guests := fun k => (o.guests k).map (·.detached gone)
    enrollments := fun k => (o.enrollments k).map (·.detached gone) }

end PveHelper.Retirement
