/-
The published storage catalog of one cluster and how it is read, after
`core/services/storage_catalog.py`: definitions with their node states, the
coverage row of each independently knowable scope, and the volume
observations. A scope is a node of a node-local storage, or none for a shared
one, whose observations live under the empty node.

A generation is a `uuid4`, modelled as the next number of a supply. Capacity
figures, timestamps and the display dictionaries of errors are left out: no
decision reads them.
-/
import Mathlib.Data.List.Sort
import PveHelper.Guests.Inventory
import PveHelper.Storage.Backends

namespace PveHelper.Storage

open Lib Guests

abbrev Gen := Nat

/-- `ClusterStorageVolumeCoverage.Scope`, and that of `ClusterStorageMount`. -/
inductive Scope
  | shared | node
deriving DecidableEq, Repr

/-- `ClusterStorageNodeState`. -/
structure NodeState where
  node : String
  active : Bool
  enabled : Bool
  present : Bool
  unreachable : Bool
  observedMetadataGeneration : Gen

/-- `ClusterStorageVolumeCoverage`. -/
structure Coverage where
  node : Option String
  scope : Scope
  volumeGeneration : Option Gen := none
  basedOnMetadataGeneration : Option Gen := none
  complete : Bool := false
  errorCode : String := ""
  errorReason : String := ""
  agreeingNodes : List String := []

/-- A row of a content listing, as `_normalize_volume` leaves it. -/
structure Volume where
  volid : String
  vmid : Option Int := none
  content : String := ""
  volumeFormat : String := ""
  sizeBytes : Option Int := none
  usedBytes : Option Int := none
  metadata : List (String × Json) := []

/-- `ClusterStorageVolumeObservation`. -/
structure Observation where
  node : String
  volume : Volume
  observedVolumeGeneration : Gen
  basedOnMetadataGeneration : Gen

def Observation.key (o : Observation) : String × String := (o.node, o.volume.volid)

/-- `ClusterStorageMount`; the mount by its primary key. -/
structure MountBinding where
  node : Option String
  scope : Scope
  mount : Nat

/-- `ClusterStorage`, with the rows that refer to it. -/
structure ClusterStorage where
  storageId : String
  storageType : String
  content : List String
  shared : Bool
  nodes : List String
  disabled : Bool
  config : List (String × Json)
  present : Bool
  unmanaged : Bool := false
  observedMetadataGeneration : Gen
  nodeStates : Table NodeState.node
  coverages : Table Coverage.node
  observations : Table Observation.key
  mountBindings : Table MountBinding.node

/-- `StorageCatalogState`. -/
structure CatalogState where
  metadataGeneration : Option Gen := none
  metadataComplete : Bool := false
  volumeComplete : Bool := false

/-- One cluster's catalog; `retired` is `cluster.retired_at`. -/
structure Catalog where
  retired : Bool := false
  state : Option CatalogState
  storages : Table ClusterStorage.storageId
  nextGeneration : Gen

/-- `SHARED_OBSERVATION_NODE`. -/
def sharedObservationNode : String := ""

/-- The node a scope's observations are stored under. -/
def observationNode : Option String → String
  | none => sharedObservationNode
  | some node => node

theorem observationNode_eq (node : Option String) : observationNode node = node.getD "" := by
  cases node <;> rfl

theorem observationNode_inj {m n : Option String} (hm : m ≠ some "") (hn : n ≠ some "")
    (h : observationNode m = observationNode n) : m = n := by
  cases m with
  | none => cases n with
    | none => rfl
    | some n => exact absurd (congrArg some h.symm) hn
  | some m => cases n with
    | none => exact absurd (congrArg some h) hm
    | some n => exact congrArg some h

/-! ## Metadata semantics -/

/-- `_canonical_config`. The `content` column is `sorted(set(_list(...)))` of the
very option, stored by the same write, so it stands for the canonical value. -/
def canonicalConfig (d : ClusterStorage) : List (String × Json) :=
  if d.config.any fun f => f.1 == "content" then Config.set d.config "content" (.str (",".intercalate d.content))
  else d.config

/-- What volume absence depends on, of one definition. -/
structure Semantics where
  storageId : String
  storageType : String
  content : List String
  shared : Bool
  nodes : List String
  disabled : Bool
  present : Bool
  config : String
  nodeStates : List (String × Bool × Bool × Bool)
deriving DecidableEq

/-- Rows sorted by the node they name. -/
def sortedByNode {α : Type} (node : α → String) (rows : List α) : List α :=
  rows.insertionSort fun a b => ¬ node b < node a

def ClusterStorage.semantics (d : ClusterStorage) : Semantics where
  storageId := d.storageId
  storageType := d.storageType
  content := d.content
  shared := d.shared
  nodes := d.nodes
  disabled := d.disabled
  present := d.present
  config := (Json.obj (canonicalConfig d)).dumps
  nodeStates := (sortedByNode NodeState.node d.nodeStates.rows).map fun s => (s.node, s.present, s.active, s.enabled)

/-- `_metadata_semantics(cluster).get(storage_id)`. -/
def metadataSemantics (c : Catalog) (storageId : String) : Option Semantics :=
  if c.retired then none else ((c.storages.get storageId).filter fun d => !d.unmanaged).map (·.semantics)

/-- `_candidate_nodes`. -/
def candidateNodes (d : ClusterStorage) : List String :=
  ((sortedByNode NodeState.node d.nodeStates.rows).filter fun s => s.present && s.active && s.enabled).map (·.node)

/-! ## `storage_view` -/

/-- `StorageCapabilities`. -/
structure StorageCapabilities where
  canListVolumes : Bool
  listVolumesReason : String
  canBrowseFiles : Bool
  browseFilesReason : String
  canWriteFiles : Bool
  writeFilesReason : String

/-- `VolumeScope`: a published observation set. -/
structure VolumeScope where
  node : String
  generation : Gen

/-- `StorageView`. -/
structure StorageView where
  definition : ClusterStorage
  nodes : List NodeState
  observedNodes : List NodeState
  volumeScopes : List VolumeScope
  mount : Option Nat
  capabilities : StorageCapabilities
  metadataStale : Bool
  volumesStale : Bool
  coverageComplete : Bool
  coverageReason : String
  coverageToken : String

/-- `catalog_state`; before the first refresh an unsaved row stands in. -/
def catalogState (c : Catalog) : CatalogState := c.state.getD {}

def observedNodes (d : ClusterStorage) : List NodeState :=
  sortedByNode NodeState.node (d.nodeStates.rows.filter (·.present))

def activeNodes (d : ClusterStorage) : List NodeState := (observedNodes d).filter fun s => s.active && s.enabled

/-- The scopes a view of the definition asks about. -/
def requestedScopes (d : ClusterStorage) (node : String) : List (Option String) :=
  if d.shared then [none]
  else if node ≠ "" then [some node]
  else (activeNodes d).map fun s => some s.node

def requestedCoverages (d : ClusterStorage) (node : String) : List (Option Coverage) :=
  (requestedScopes d node).map d.coverages.get

/-- `coverage_is_current`. -/
def coverageIsCurrent (st : CatalogState) (cov : Option Coverage) : Bool :=
  match cov with
  | none => false
  | some cov => cov.complete && cov.volumeGeneration.isSome && st.metadataComplete &&
      decide (cov.basedOnMetadataGeneration = st.metadataGeneration)

/-- The reason given for the first requested coverage that is not current. -/
def failedReason (st : CatalogState) (requested : List (Option Coverage)) : String :=
  let rest := if !st.metadataComplete then "Storage metadata inventory is incomplete."
    else "Volume coverage has not completed for this storage scope."
  match requested.find? fun cov => !coverageIsCurrent st cov with
  | some (some cov) => if cov.errorReason ≠ "" then cov.errorReason else rest
  | _ => rest

/-- The text a definition's type is shown as. -/
def typeLabel (d : ClusterStorage) : String := if d.storageType = "" then "unknown" else d.storageType

/-- `list_reason`; empty when the volumes of the scope can be listed. -/
def listReason (st : CatalogState) (d : ClusterStorage) (node : String) : String :=
  let requested := requestedCoverages d node
  if !(backendProfile d.storageType).known then "Unsupported storage type: " ++ typeLabel d ++ "."
  else if d.disabled then "Storage is disabled in Proxmox."
  else if decide (node ≠ "") && !(observedNodes d).any fun s => s.node == node && s.active && s.enabled then
    "The selected storage instance is not active."
  else if (activeNodes d).isEmpty then "No permitted active node."
  else if requested.isEmpty || (requested.filter (coverageIsCurrent st)).length ≠ requested.length then
    failedReason st requested
  else ""

/-- `MountHealth`. -/
structure MountHealth where
  available : Bool
  writable : Bool
  reason : String := ""

/-- `scope_conflict`. -/
def scopeConflict (d : ClusterStorage) : Bool :=
  let bindings := d.mountBindings.rows
  if d.shared then bindings.any (fun b => decide (b.scope ≠ .shared) || b.node.isSome) ||
    decide (1 < (bindings.map fun b => (b.scope, b.node)).dedup.length)
  else bindings.any fun b => decide (b.scope ≠ .node) || b.node.getD "" == ""

/-- Bindings by node, the shared one last. -/
def MountBinding.before (a b : MountBinding) : Bool :=
  match a.node, b.node with
  | _, none => true
  | none, some _ => false
  | some m, some n => decide (¬ n < m)

/-- `definition.mount_bindings.all()`, in the order the rows are declared with. -/
def orderedBindings (d : ClusterStorage) : List MountBinding :=
  d.mountBindings.rows.insertionSort fun a b => a.before b

/-- The binding a view of the node reads files through. -/
def viewBinding (d : ClusterStorage) (node : String) : Option MountBinding :=
  (orderedBindings d).find? fun b => d.shared || decide (b.node = some node)

/-- `browse_reason`, and the health of the mount where it was asked for. -/
def browseReason (health : Nat → StorageBackendProfile → MountHealth) (d : ClusterStorage) (node : String) :
    String × Option MountHealth :=
  let profile := backendProfile d.storageType
  if !profile.filesystemEligible then
    (if profile.known then "No file browser: " ++ d.storageType ++ " is not a browsable file-tree backend."
      else "No file browser: unsupported storage type " ++ typeLabel d ++ ".", none)
  else if scopeConflict d then ("Mount scope conflict; explicitly remap this storage.", none)
  else match viewBinding d node with
    | none => ("No host mount is registered for this storage instance.", none)
    | some b => (if (health b.mount profile).available then "" else (health b.mount profile).reason,
        some (health b.mount profile))

def capabilities (health : Nat → StorageBackendProfile → MountHealth) (st : CatalogState) (d : ClusterStorage)
    (node : String) : StorageCapabilities :=
  let (browse, mount) := browseReason health d node
  let canBrowse := browse == ""
  let writable := (mount.map (·.writable)).getD false
  { canListVolumes := listReason st d node == ""
    listVolumesReason := listReason st d node
    canBrowseFiles := canBrowse
    browseFilesReason := browse
    canWriteFiles := canBrowse && writable
    writeFilesReason := if canBrowse && !writable then (mount.map (·.reason)).getD browse else browse }

/-- The published set a requested coverage row names, if any. -/
def volumeScope (profile : StorageBackendProfile) (cov : Option Coverage) : Option VolumeScope :=
  match cov with
  | none => none
  | some cov =>
    if profile.contentListMode ≠ .pveApi then none
    else cov.volumeGeneration.map fun g => ⟨if cov.scope = .node then cov.node.getD "" else "", g⟩

/-- What a current coverage row contributes to the view's token. -/
def tokenPart (cov : Coverage) : String :=
  (match cov.node with | some n => if n = "" then "shared" else n | none => "shared") ++ "=" ++
    (match cov.volumeGeneration with | some g => toString g | none => "None")

/-- `storage_view`, under the mounts' health and the cluster's publication scope. -/
def storageView (health : Nat → StorageBackendProfile → MountHealth) (scope : PublicationScope) (c : Catalog)
    (d : ClusterStorage) (node : String) : StorageView :=
  let st := catalogState c
  let requested := requestedCoverages d node
  let reason := listReason st d node
  { definition := d
    nodes := (observedNodes d).filter fun s => scope.publishes s.node
    observedNodes := observedNodes d
    volumeScopes := requested.filterMap (volumeScope (backendProfile d.storageType))
    mount := (viewBinding d node).map (·.mount)
    capabilities := capabilities health st d node
    metadataStale := !st.metadataComplete
    volumesStale := !(reason == "")
    coverageComplete := reason == ""
    coverageReason := reason
    coverageToken := ",".intercalate (((requested.filter (coverageIsCurrent st)).filterMap (·.map tokenPart)).insertionSort
      fun a b => ¬ b < a) }

/-! ## `storage_volumes` -/

/-- `CatalogVolume`. -/
structure CatalogVolume where
  node : String
  volume : Volume

/-- The `Q` condition of one volume scope. -/
def VolumeScope.admits (s : VolumeScope) (o : Observation) : Bool :=
  decide (o.observedVolumeGeneration = s.generation) && (decide (s.node = "") || decide (o.node = s.node))

/-- `storage_volumes`. -/
def storageVolumes (v : StorageView) : List CatalogVolume :=
  if v.volumeScopes.isEmpty then []
  else
    let observations := v.definition.observations.rows.filter fun o => v.volumeScopes.any (·.admits o)
    let ordered := observations.insertionSort fun a b =>
      ¬ (b.node < a.node ∨ b.node = a.node ∧ b.volume.volid < a.volume.volid)
    (ordered.filter fun o => !v.definition.shared || decide (o.node = sharedObservationNode)).map
      fun o => ⟨o.node, o.volume⟩

end PveHelper.Storage
