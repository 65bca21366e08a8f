/-
Whether anything references a volume, after `_guest_references`, `_usage_scope`,
`_usage_decision` and `_cross_cluster_candidates` of
`core/services/storage_catalog.py`, over the catalogs and guest rows of every
cluster of the installation.
-/
import PveHelper.Storage.Catalog
import PveHelper.Storage.Refresh

namespace PveHelper.Storage

open Lib Guests

/-- `StorageMount`, as far as usage reads it. -/
structure StorageMount where
  pk : Nat
  storageId : String
  backendIdentity : String

/-- `ClusterNodeState`: a member the cluster reported. -/
structure Member where
  nodeName : String
  present : Bool

/-- One cluster with its guests, its storage catalog and the volume pass that is
in flight on it. -/
structure StorageCluster where
  guest : GuestCluster
  catalog : Catalog
  members : List Member
  pass : Option VolumePass := none

def StorageCluster.pk (c : StorageCluster) : Nat := c.guest.pk

/-- `publication_scope(cluster)` of the cluster as stored. -/
def StorageCluster.scope (c : StorageCluster) : PublicationScope := publicationScope c.guest c.guest.copy

structure Installation where
  clusters : Table StorageCluster.pk
  mounts : Table StorageMount.pk
  /-- `str.lower` of a host or a target. -/
  lower : String → String := Text.lower

/-! ## Backend identity -/

section
variable (lower : String → String)

/-- `normalized_backend_identity`; empty where it raises. -/
def normalizedBackendIdentity (value : String) : String :=
  let raw := Text.strip value
  if Text.includes raw "://" || Text.includes raw "@" then ""
  else if Text.startsWith raw "//" then
    match Text.partition '/' (String.ofList (raw.toList.drop 2)) with
    | (server, some rest) => if server = "" then "" else "//" ++ lower server ++ "/" ++ rest
    | (server, none) => if server = "" then "" else "//" ++ lower server
  else match Text.partition ':' raw with
    | (server, some rest) => if server = "" then raw else lower server ++ ":" ++ rest
    | (_, none) => raw

/-- `_hosts`. -/
def hosts (value : String) : String :=
  let parts := (Text.split ',' (String.ofList (value.toList.map fun c => if c = ';' then ',' else c))).map Text.strip
  ",".intercalate (sortedSet ((parts.filter (· != "")).map lower))

/-- `value(*names)`: the first option that says something. -/
def optionText (config : List (String × Json)) (names : List String) : String :=
  ((names.map fun name => Text.strip (((Json.lookup config name).map Json.text).getD "")).find? (· != "")).getD ""

/-- `backend_identity_from_definition`; the key is the cluster's. -/
def backendIdentityFromDefinition (clusterKey : String) (d : ClusterStorage) : String :=
  let storageType := Text.lower (Text.strip d.storageType)
  let value := optionText d.config
  if ["nfs", "cifs", "glusterfs"].contains storageType then
    let server := value ["server"]
    let target := value ["export", "share", "volume"]
    if server = "" || target = "" then ""
    else normalizedBackendIdentity lower
      (if storageType = "cifs" then "//" ++ server ++ "/" ++ Text.lstripChar '/' target
        else if storageType = "glusterfs" then server ++ ":" ++ Text.lstripChar '/' target
        else server ++ ":/" ++ Text.lstripChar '/' target)
  else if ["cephfs", "rbd"].contains storageType then
    let monitors := hosts lower (value ["monhost"])
    let named := value ["pool", "subdir"]
    let target := Text.stripChar '/' (if named = "" then "/" else named)
    if monitors = "" then storageType ++ "://cluster:" ++ clusterKey ++ "/" ++ target
    else
      let space := value ["namespace"]
      storageType ++ "://" ++ monitors ++ "/" ++ target ++ (if space = "" then "" else "/" ++ space)
  else if ["iscsi", "iscsidirect", "zfs"].contains storageType then
    let portal := hosts lower (value ["portal"])
    let target := value ["target"]
    let pool := value ["pool"]
    if portal = "" || target = "" then ""
    else "iscsi://" ++ portal ++ "/" ++ lower target ++ (if pool = "" then "" else "/" ++ pool)
  else if storageType = "pbs" then
    let server := lower (value ["server"])
    let datastore := value ["datastore"]
    if server = "" || datastore = "" then "" else "pbs://" ++ server ++ "/" ++ datastore
  else if storageType = "lvm" then
    let vgname := value ["vgname"]
    if vgname = "" then "" else "lvm://" ++ vgname
  else ""

end

/-! ## Guest references -/

/-- `_GuestReferences`: each reference to the storage with the guest that has it. -/
structure GuestReferences where
  pairs : List (String × String) := []

/-- `_GuestReferences.matching`; the empty volid asks about the whole storage. -/
def GuestReferences.labels (r : GuestReferences) (volid : String) : List String :=
  ((if volid ≠ "" then r.pairs.filter fun p => p.1 == volid else r.pairs).map (·.2)).dedup

def objectTypeText : ObjectType → String
  | .vm => "vm"
  | .ct => "ct"

/-- The guest rows a storage's scope consults. -/
def scopeGuests (c : GuestCluster) (node : String) (shared : Bool) : List CurrentGuest :=
  if node ≠ "" && !shared then c.guests.rows.filter fun g => g.node == node else c.guests.rows

/-- `_guest_references`. -/
def guestReferences (c : GuestCluster) (storageId node : String) (shared : Bool) : GuestReferences where
  pairs := (scopeGuests c node shared).flatMap fun g =>
    (g.diskReferences.filter fun r => Text.startsWith r (storageId ++ ":")).map fun r =>
      (r, objectTypeText g.objectType ++ ":" ++ toString g.vmid)

/-! ## Candidates -/

/-- Another storage instance that may be the same backend, and the node it is asked through. -/
structure Candidate where
  cluster : StorageCluster
  storage : ClusterStorage
  node : String

/-- The definitions of every cluster that is not retired, in the model's order. -/
def presentStorages (inst : Installation) : List (StorageCluster × ClusterStorage) :=
  (inst.clusters.rows.flatMap fun c => (c.catalog.storages.rows.filter fun d =>
      !c.catalog.retired && !d.unmanaged && d.present).map fun d => (c, d)).insertionSort
    fun a b => ¬ (b.1.guest.key < a.1.guest.key ∨ b.1.guest.key = a.1.guest.key ∧ b.2.storageId < a.2.storageId)

/-- `.exclude(pk=definition.pk)`. -/
def otherStorages (inst : Installation) (c : StorageCluster) (d : ClusterStorage) :
    List (StorageCluster × ClusterStorage) :=
  (presentStorages inst).filter fun x => !(x.1.pk == c.pk && x.2.storageId == d.storageId)

/-- `binding.mount.backend_identity`. -/
def mountIdentity (inst : Installation) (b : MountBinding) : String :=
  ((inst.mounts.get b.mount).map (·.backendIdentity)).getD ""

/-- The bindings of another storage that meet one of these. -/
def matchingBindings (inst : Installation) (bindings : List MountBinding) (other : ClusterStorage) :
    List MountBinding :=
  sortedByNode (fun b => b.node.getD "") (other.mountBindings.rows.filter fun b =>
    (bindings.map (·.mount)).contains b.mount || (bindings.map (mountIdentity inst)).contains (mountIdentity inst b))

/-- `_cross_cluster_candidates`: the candidates, or a reason why there is no answer. -/
def crossClusterCandidates (inst : Installation) (c : StorageCluster) (d : ClusterStorage) : List Candidate × String :=
  let bindings := orderedBindings d
  if !bindings.isEmpty then
    if bindings.any fun b => mountIdentity inst b == "" then
      ([], "A registered host mount has no verified backend identity.")
    else ((otherStorages inst c d).flatMap fun x =>
      (matchingBindings inst bindings x.2).map fun b => ⟨x.1, x.2, b.node.getD ""⟩, "")
  else if (backendProfile d.storageType).filesystemEligible then
    ([], "No host mount is registered for this storage, so its backend identity is unproven.")
  else if !d.shared then ([], "")
  else
    let identity := backendIdentityFromDefinition inst.lower c.guest.key d
    if identity = "" then
      ([], "The " ++ typeLabel d ++ " definition does not publish a cross-cluster backend identity.")
    else (((otherStorages inst c d).filter fun x => x.2.shared && x.2.storageType == d.storageType &&
      backendIdentityFromDefinition inst.lower x.1.guest.key x.2 == identity).map fun x => ⟨x.1, x.2, ""⟩, "")

/-- `unobserved_eligible_nodes`. -/
def unobservedEligibleNodes (c : StorageCluster) (d : ClusterStorage) : List String :=
  if !c.scope.filtering then []
  else (((c.members.filter (·.present)).map (·.nodeName)).filter fun n =>
    !c.scope.observes n && (d.nodes.isEmpty || d.nodes.contains n)).insertionSort fun a b => ¬ b < a

/-- `unobserved_node_reason`. -/
def unobservedNodeReason (nodes : List String) : String :=
  let several := decide (1 < nodes.length)
  "Node" ++ (if several then "s" else "") ++ " " ++ ", ".intercalate nodes ++ " could have this storage mounted and " ++
    (if several then "are" else "is") ++ " not enrolled, so nothing here can prove the disk is unused."

/-! ## The decision -/

inductive UsageState
  | referenced | unreferenced | unknown | referencedElsewhere
deriving DecidableEq, Repr

/-- `UsagePreflight`. -/
structure UsagePreflight where
  state : UsageState
  reason : String
  token : String
  references : List String := []

def UsagePreflight.permitsDestructiveAction (p : UsagePreflight) : Bool := decide (p.state = .unreferenced)

/-- `_CandidateScope`. -/
structure CandidateScope where
  clusterKey : String
  storageId : String := ""
  incomplete : Bool := false
  references : GuestReferences := {}

/-- `_UsageScope`. -/
structure UsageScope where
  token : String
  unknownReason : String := ""
  references : GuestReferences := {}
  candidateReason : String := ""
  candidates : List CandidateScope := []
  unobservedNodes : List String := []

section scopes

variable (health : Nat → StorageBackendProfile → MountHealth) (inst : Installation)

/-- `storage_view(candidate)`. -/
def Candidate.view (x : Candidate) : StorageView := storageView health x.cluster.scope x.cluster.catalog x.storage x.node

def Candidate.scope (x : Candidate) : CandidateScope :=
  if !(x.view health).coverageComplete then { clusterKey := x.cluster.guest.key, incomplete := true }
  else
    { clusterKey := x.cluster.guest.key
      storageId := x.storage.storageId
      references := guestReferences x.cluster.guest x.storage.storageId x.node x.storage.shared }

/-- `_usage_scope`. -/
def usageScope (c : StorageCluster) (d : ClusterStorage) (node : String) : UsageScope :=
  let view := storageView health c.scope c.catalog d node
  match c.catalog.state with
  | none =>
    { token := "::" ++ c.guest.key ++ ":" ++ d.storageId ++ ":" ++ node
      unknownReason := "Storage catalog has not completed its first refresh." }
  | some st =>
    let generation := match st.metadataGeneration with | some g => toString g | none => ""
    let token := ":".intercalate [generation, view.coverageToken, c.guest.key, d.storageId, node]
    if !view.coverageComplete then { token := token, unknownReason := view.coverageReason }
    else
      let references := guestReferences c.guest d.storageId node d.shared
      let (candidates, reason) := crossClusterCandidates inst c d
      if reason ≠ "" then
        { token := token, references := references, candidateReason := reason,
          unobservedNodes := unobservedEligibleNodes c d }
      else
        { token := token, references := references, candidates := candidates.map (·.scope health),
          unobservedNodes := unobservedEligibleNodes c d }

end scopes

/-- What follows the first colon of a volid. -/
def relativePart (volid : String) : String := (Text.partition ':' volid).2.getD ""

/-- The volid asked of a candidate. -/
def CandidateScope.volid (cand : CandidateScope) (relative : String) : String :=
  if relative = "" then "" else cand.storageId ++ ":" ++ relative

/-- The candidates in turn; nothing when none of them settles the question. -/
def walkCandidates (token relative : String) : List CandidateScope → Option UsagePreflight
  | [] => none
  | cand :: rest =>
    if cand.incomplete then
      some ⟨.unknown, "The same backend has incomplete coverage in another cluster.", token, []⟩
    else match (cand.references.labels (cand.volid relative)).insertionSort fun a b => ¬ b < a with
      | label :: _ => some ⟨.referencedElsewhere, "The same backend is referenced by another cluster.", token,
          [cand.clusterKey ++ ":" ++ label]⟩
      | [] => walkCandidates token relative rest

/-- `_usage_decision`. -/
def usageDecision (s : UsageScope) (volid : String) : UsagePreflight :=
  if s.unknownReason ≠ "" then ⟨.unknown, s.unknownReason, s.token, []⟩
  else if s.references.labels volid ≠ [] then
    ⟨.referenced, "Storage content is referenced by guests.", s.token,
      (s.references.labels volid).insertionSort fun a b => ¬ b < a⟩
  else if s.candidateReason ≠ "" then ⟨.unknown, s.candidateReason, s.token, []⟩
  else match walkCandidates s.token (relativePart volid) s.candidates with
    | some p => p
    | none =>
      if !s.unobservedNodes.isEmpty then ⟨.unknown, unobservedNodeReason s.unobservedNodes ++
        " Coverage is complete for every node this connection reads.", s.token, []⟩
      else ⟨.unreferenced, "Complete coverage found no references.", s.token, []⟩

end PveHelper.Storage
