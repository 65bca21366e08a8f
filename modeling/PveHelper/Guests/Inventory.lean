/-
The current-guest projection of every cluster, after
`core/services/current_guest_inventory.py`, with the enrollment that decides
what of it is published (`publication_scope.py`, `cluster_enrollment.py`).

A guest is keyed by its type and VMID within its cluster. Runtime metrics, the
display name, pool, HA state, agent enrichment and the refusal texts are left
out: no decision modelled here reads them. A provider's answer stands in a
label as the values the code coerces it to.
-/
import PveHelper.Guests.Config
import PveHelper.Lib.Table
import PveHelper.Lib.Trans

namespace PveHelper.Guests

open Lib

abbrev Time := Int

inductive ObjectType
  | vm | ct
deriving DecidableEq, Repr

/-- `ClusterNodeEnrollment.Mode`. -/
inductive EnrollmentMode
  | managed | safetyOnly
deriving DecidableEq, Repr

structure Enrollment where
  nodeName : String
  mode : EnrollmentMode

structure CurrentGuest where
  objectType : ObjectType
  vmid : Nat
  sourceEndpoint : Option Nat := none
  sourceScan : Option Nat := none
  node : String
  status : String := ""
  config : Config := []
  configComplete : Bool := true
  diskReferences : List String := []
  observedAt : Time
  runtimeObservedAt : Option Time := none
  configObservedAt : Option Time := none
  published : Bool := true
  basedOnEnrollmentGeneration : Nat := 0

/-- A guest's identity within its cluster. -/
abbrev GuestKey := ObjectType × Nat

def CurrentGuest.key (g : CurrentGuest) : GuestKey := (g.objectType, g.vmid)

/-- `CurrentGuestInventoryState`. -/
structure InventoryState where
  refreshedAt : Option Time := none
  lastCompleteAt : Option Time := none
  sourceScan : Option Nat := none
  complete : Bool := false
  unreachable : Bool := false
  endpointsAttempted : List String := []
  endpointsSucceeded : List String := []
  coveredNodes : List String := []

/-- `ProxmoxEndpoint`, as far as guest rows refer to it. -/
structure Endpoint where
  pk : Nat
  name : String
  enabled : Bool
  detailsNode : String

/-- One cluster with its guest projection. -/
structure GuestCluster where
  pk : Nat
  key : String
  enrollmentContractVersion : Nat
  enrollmentGeneration : Nat
  enrollments : Table Enrollment.nodeName
  endpoints : List Endpoint
  guests : Table CurrentGuest.key
  inventoryState : Option InventoryState

/-! ## Publication -/

/-- `PublicationScope`. -/
structure PublicationScope where
  contractVersion : Nat
  generation : Nat
  managedNodes : List String
  safetyNodes : List String

def PublicationScope.filtering (p : PublicationScope) : Bool := decide (1 ≤ p.contractVersion)

def PublicationScope.publishes (p : PublicationScope) (node : String) : Bool :=
  if !p.filtering then true else p.managedNodes.contains node

def PublicationScope.observes (p : PublicationScope) (node : String) : Bool :=
  if !p.filtering then true else p.safetyNodes.contains node

/-- The columns of a cluster row in the memory of a caller. -/
structure ClusterCopy where
  contractVersion : Nat
  generation : Nat
deriving DecidableEq

def GuestCluster.copy (c : GuestCluster) : ClusterCopy := ⟨c.enrollmentContractVersion, c.enrollmentGeneration⟩

/-- The nodes enrolled as managed. -/
def GuestCluster.managedNodes (c : GuestCluster) : List String :=
  (c.enrollments.rows.filter fun e => decide (e.mode = .managed)).map (·.nodeName)

/-- `publication_scope(cluster)`: the enrollments as stored, the version and the
generation from the caller's object. -/
def publicationScope (c : GuestCluster) (copy : ClusterCopy) : PublicationScope :=
  ⟨copy.contractVersion, copy.generation, c.managedNodes, c.enrollments.rows.map (·.nodeName)⟩

/-- The two publication columns rewritten. -/
def CurrentGuest.stamp (scope : PublicationScope) (g : CurrentGuest) : CurrentGuest :=
  { g with published := scope.publishes g.node, basedOnEnrollmentGeneration := scope.generation }

@[simp] theorem CurrentGuest.stamp_key (scope : PublicationScope) (g : CurrentGuest) : (g.stamp scope).key = g.key := rfl

/-- `apply_publication_scope`: rows whose stamp is right keep it, so rewriting
every row is the same. -/
def applyPublicationScope (c : GuestCluster) : GuestCluster :=
  let scope := publicationScope c c.copy
  { c with guests := c.guests.modify (·.stamp scope) (CurrentGuest.stamp_key scope) }

/-- `_commit_generation`. -/
def commitGeneration (c : GuestCluster) : GuestCluster :=
  applyPublicationScope { c with enrollmentGeneration := c.enrollmentGeneration + 1 }

/-- `enroll_node`; an enrolled node stays as it is. -/
def enrollNode (c : GuestCluster) (node : String) (mode : EnrollmentMode) : Option GuestCluster :=
  let name := Text.strip node
  if name = "" || name.toList.contains ':' then none
  else if (c.enrollments.get name).isSome then some c
  else some (commitGeneration { c with enrollments := c.enrollments.put ⟨name, mode⟩ })

/-- `change_enrollment_mode`; `blocked` when durable work targets the node. -/
def changeEnrollmentMode (c : GuestCluster) (node : String) (mode : EnrollmentMode) (blocked : Bool) :
    Option GuestCluster :=
  match c.enrollments.get node with
  | none => none
  | some e =>
    if e.mode = mode then some c
    else if blocked then none
    else some (commitGeneration { c with enrollments := c.enrollments.put { e with mode := mode } })

/-- `remove_enrollment`. -/
def removeEnrollment (c : GuestCluster) (node : String) (blocked : Bool) : Option GuestCluster :=
  if (c.enrollments.get node).isNone || blocked then none
  else some (commitGeneration { c with enrollments := c.enrollments.keep fun e => decide (e.nodeName ≠ node) })

/-! ## Reconciling -/

/-- `_update_state`. -/
def updateState (c : GuestCluster) (refreshedAt : Time) (complete unreachable : Bool)
    (attempted succeeded coveredNodes : List String) (sourceScan : Option Nat) : GuestCluster :=
  let st := c.inventoryState.getD {}
  let fresh := if unreachable then st else { st with
    refreshedAt := some refreshedAt
    lastCompleteAt := if complete then some refreshedAt else st.lastCompleteAt
    sourceScan := sourceScan }
  { c with inventoryState := some { fresh with
      complete := complete
      unreachable := unreachable
      endpointsAttempted := attempted
      endpointsSucceeded := succeeded
      coveredNodes := sortedSet coveredNodes } }

/-- What a scan read of one guest. -/
structure ScanGuest where
  objectType : ObjectType
  vmid : Nat
  node : String
  status : String
  config : Config
  diskReferences : List String
  endpoint : Nat

/-- A scan's answer for one cluster; `copy` is the cluster object its endpoint
rows were loaded with. -/
structure ClusterScan where
  scan : Nat
  copy : ClusterCopy
  observations : List ScanGuest
  attemptedEndpoints : List String
  succeededEndpoints : List String
  attemptedNodes : List String
  coveredNodes : List String
  observedAt : Time

/-- The row one observation is stored as. -/
def ScanGuest.row (scope : PublicationScope) (s : ClusterScan) (g : ScanGuest) : CurrentGuest where
  objectType := g.objectType
  vmid := g.vmid
  sourceEndpoint := some g.endpoint
  sourceScan := some s.scan
  node := g.node
  status := g.status
  config := g.config
  configComplete := true
  diskReferences := g.diskReferences
  observedAt := s.observedAt
  runtimeObservedAt := some s.observedAt
  configObservedAt := some s.observedAt
  published := scope.publishes g.node
  basedOnEnrollmentGeneration := scope.generation

/-- Complete coverage of one cluster by a scan. -/
def ClusterScan.complete (s : ClusterScan) : Bool :=
  !s.attemptedNodes.isEmpty && s.attemptedNodes.all s.coveredNodes.contains &&
    s.coveredNodes.all s.attemptedNodes.contains

/-- `_retire_absent_on_covered_nodes`: the rows a scan keeps. -/
def ClusterScan.keeps (s : ClusterScan) (g : CurrentGuest) : Bool :=
  let placed := s.coveredNodes.contains g.node || (s.complete && g.node = "")
  !placed || s.observations.any fun o => (o.objectType, o.vmid) = g.key

/-- One cluster's turn in `reconcile_scan_guest_inventory`. -/
def reconcileScan (c : GuestCluster) (s : ClusterScan) : GuestCluster :=
  let scope := publicationScope c s.copy
  let kept := c.guests.keep s.keeps
  let written := s.observations.foldl (fun t o => t.put (o.row scope s)) kept
  updateState { c with guests := written } s.observedAt s.complete
    (!s.attemptedNodes.isEmpty && s.coveredNodes.isEmpty) s.attemptedEndpoints s.succeededEndpoints s.coveredNodes
    (some s.scan)

/-- `ProxmoxGuestSummary`; `tags` is `join_tags` of its tags, empty for none. -/
structure LiveGuest where
  objectType : ObjectType
  vmid : Nat
  node : String
  status : String
  isTemplate : Bool
  tags : String

/-- `VerifiedGuestInventory`. -/
structure LiveInventory where
  guests : List LiveGuest
  complete : Bool
  attemptedEndpoints : List String
  successfulEndpoints : List String
  observedAt : Time

/-- `_live_config`. -/
def liveConfig (existing : Option CurrentGuest) (g : LiveGuest) : Config :=
  let config : Config := (existing.map (·.config)).getD []
  let config : Config := if g.tags ≠ "" then config.set "tags" (.str g.tags) else config.pop "tags"
  match g.objectType with
  | .vm => if g.isTemplate then config.set "template" (.str "1") else config.pop "template"
  | .ct => config

/-- `_endpoint_for_live_guest`: the one enabled endpoint that is the guest's node. -/
def endpointForLiveGuest (c : GuestCluster) (node : String) : Option Nat :=
  match c.endpoints.filter fun e => e.enabled && (e.name = node || e.detailsNode = node) with
  | [e] => some e.pk
  | _ => none

/-- The row a live summary is stored as. -/
def LiveGuest.row (c : GuestCluster) (scope : PublicationScope) (observedAt : Time) (existing : Option CurrentGuest)
    (g : LiveGuest) : CurrentGuest where
  objectType := g.objectType
  vmid := g.vmid
  sourceEndpoint := (endpointForLiveGuest c g.node).or (existing.bind (·.sourceEndpoint))
  sourceScan := existing.bind (·.sourceScan)
  node := g.node
  status := g.status
  config := liveConfig existing g
  configComplete := (existing.map (·.configComplete)).getD false
  diskReferences := (existing.map (·.diskReferences)).getD []
  observedAt := observedAt
  runtimeObservedAt := some observedAt
  configObservedAt := existing.bind (·.configObservedAt)
  published := scope.publishes g.node
  basedOnEnrollmentGeneration := scope.generation

/-- One live summary written. -/
def writeLive (c : GuestCluster) (scope : PublicationScope) (observedAt : Time) (guests : Table CurrentGuest.key)
    (g : LiveGuest) : Table CurrentGuest.key :=
  guests.put (g.row c scope observedAt (guests.get (g.objectType, g.vmid)))

/-- `reconcile_live_guest_inventory`; the cluster is read in its transaction. -/
def reconcileLive (c : GuestCluster) (inv : LiveInventory) : GuestCluster :=
  let scope := publicationScope c c.copy
  let kept := if inv.complete then
      c.guests.keep fun g => inv.guests.any fun o => (o.objectType, o.vmid) = g.key
    else c.guests
  let written := inv.guests.foldl (writeLive c scope inv.observedAt) kept
  let prior := c.inventoryState.getD {}
  updateState { c with guests := written } inv.observedAt inv.complete
    (!inv.attemptedEndpoints.isEmpty && inv.successfulEndpoints.isEmpty) inv.attemptedEndpoints
    inv.successfulEndpoints prior.coveredNodes prior.sourceScan

/-! ## Targeted writes -/

/-- `update_current_guest_config`. -/
def updateCurrentGuestConfig (c : GuestCluster) (key : GuestKey) (node : String) (updates : Config)
    (deleted : List String) (now : Time) : GuestCluster :=
  let g := (c.guests.get key).getD
    { objectType := key.1, vmid := key.2, node := node, configComplete := false, observedAt := now }
  { c with guests := c.guests.put { g with
      config := deleted.foldl Config.pop (g.config.update updates)
      node := if node = "" then g.node else node
      observedAt := now
      configObservedAt := some now } }

/-- `upsert_current_guest`. -/
def upsertCurrentGuest (c : GuestCluster) (key : GuestKey) (node status : String) (config : Config) (now : Time) :
    GuestCluster :=
  let g := (c.guests.get key).getD { objectType := key.1, vmid := key.2, node := node, observedAt := now }
  { c with guests := c.guests.put { g with
      node := node
      status := status
      config := config
      configComplete := true
      configObservedAt := some now
      diskReferences := extractDiskReferences config
      observedAt := now
      runtimeObservedAt := some now } }

/-- `delete_current_guest`. -/
def deleteCurrentGuest (c : GuestCluster) (key : GuestKey) : GuestCluster :=
  { c with guests := c.guests.keep fun g => decide (g.key ≠ key) }

/-- One row of `cluster/resources`. -/
structure ResourceRow where
  type : String
  vmid : String
  node : String

/-- What the provider answers to the reads of a targeted refresh; nothing for an
error or a body of the wrong shape. -/
structure GuestClient where
  /-- The endpoint row with the client's URL. -/
  endpoint : Option Nat
  /-- The guest's `status`, per node asked. -/
  guestCurrent : String → Option String
  resources : Option (List ResourceRow)
  guestConfig : String → Option Config

/-- Where a targeted refresh finds the guest. -/
inductive Located
  | at (node status : String)
  | absent
  | failed

/-- The provider's name for the type. -/
def ObjectType.provider : ObjectType → String
  | .vm => "qemu"
  | .ct => "lxc"

/-- The reads of `refresh_current_guest_from_client` up to the status. -/
def locate (client : GuestClient) (key : GuestKey) (node : String) (allowRelocation : Bool) : Located :=
  match (if node = "" then none else client.guestCurrent node) with
  | some status => .at node status
  | none =>
    if !allowRelocation then .failed
    else match client.resources with
      | none => .failed
      | some rows =>
        match rows.filter fun r => r.type = key.1.provider && r.vmid = toString key.2 with
        | [] => .absent
        | [r] =>
          if r.node = "" then .failed
          else match client.guestCurrent r.node with
            | some status => .at r.node status
            | none => .failed
        | _ => .failed

/-- `refresh_current_guest_from_client`. -/
def refreshCurrentGuestFromClient (c : GuestCluster) (client : GuestClient) (key : GuestKey) (node : String)
    (allowRelocation deleteIfAbsent : Bool) (now : Time) : GuestCluster :=
  match locate client key node allowRelocation with
  | .failed => c
  | .absent => if deleteIfAbsent then deleteCurrentGuest c key else c
  | .at found status =>
    let existing := c.guests.get key
    let g := existing.getD { objectType := key.1, vmid := key.2, node := found, observedAt := now }
    let config := (client.guestConfig found).getD ((existing.map (·.config)).getD [])
    { c with guests := c.guests.put { g with
        sourceEndpoint := client.endpoint.or (existing.bind (·.sourceEndpoint))
        sourceScan := existing.bind (·.sourceScan)
        node := found
        status := status
        runtimeObservedAt := some now
        config := config
        configComplete := (client.guestConfig found).isSome || (existing.map (·.configComplete)).getD false
        configObservedAt := if (client.guestConfig found).isSome then some now else existing.bind (·.configObservedAt)
        diskReferences := extractDiskReferences config
        observedAt := now } }

/-! ## Steps -/

/-- The committed transactions that write guest rows or enrollments. -/
inductive GuestStep
  | enroll (cluster : Nat) (node : String) (mode : EnrollmentMode)
  | changeMode (cluster : Nat) (node : String) (mode : EnrollmentMode) (blocked : Bool)
  | remove (cluster : Nat) (node : String) (blocked : Bool)
  /-- One installation-wide scan: its answer for each cluster it attempted. -/
  | scan (scans : List (Nat × ClusterScan))
  | live (cluster : Nat) (inv : LiveInventory)
  | updateConfig (cluster : Nat) (key : GuestKey) (node : String) (updates : Config) (deleted : List String)
      (now : Time)
  | upsert (cluster : Nat) (key : GuestKey) (node status : String) (config : Config) (now : Time)
  | refresh (cluster : Nat) (client : GuestClient) (key : GuestKey) (node : String)
      (allowRelocation deleteIfAbsent : Bool) (now : Time)
  | delete (cluster : Nat) (key : GuestKey)

/-- Every cluster of the installation. -/
abbrev GuestDb := Table GuestCluster.pk

/-- One cluster rewritten; no step for a cluster that is not there, or a refusal. -/
def onCluster (db : GuestDb) (pk : Nat) (f : GuestCluster → Option GuestCluster) : Option GuestDb :=
  (db.get pk).bind fun c => (f c).map db.put

/-- The clusters of a scan, one after the other. -/
def reconcileScans : GuestDb → List (Nat × ClusterScan) → Option GuestDb
  | db, [] => some db
  | db, (pk, s) :: scans => (onCluster db pk fun c => some (reconcileScan c s)).bind (reconcileScans · scans)

def guestStep (db : GuestDb) : GuestStep → Option GuestDb
  | .enroll pk node mode => onCluster db pk fun c => enrollNode c node mode
  | .changeMode pk node mode blocked => onCluster db pk fun c => changeEnrollmentMode c node mode blocked
  | .remove pk node blocked => onCluster db pk fun c => removeEnrollment c node blocked
  | .scan scans => if (scans.map (·.1)).Nodup then reconcileScans db scans else none
  | .live pk inv => onCluster db pk fun c => some (reconcileLive c inv)
  | .updateConfig pk key node updates deleted now =>
    onCluster db pk fun c => some (updateCurrentGuestConfig c key node updates deleted now)
  | .upsert pk key node status config now =>
    onCluster db pk fun c => some (upsertCurrentGuest c key node status config now)
  | .refresh pk client key node allowRelocation deleteIfAbsent now =>
    onCluster db pk fun c =>
      some (refreshCurrentGuestFromClient c client key node allowRelocation deleteIfAbsent now)
  | .delete pk key => onCluster db pk fun c => some (deleteCurrentGuest c key)

/-! ## What a step does to one cluster -/

/-- The ways one step changes the cluster stored under `pk`. -/
inductive ClusterStep (pk : Nat) (c : GuestCluster) : GuestStep → GuestCluster → Prop
  | same : ClusterStep pk c l c
  | committed (es : Table Enrollment.nodeName) :
      (∃ n m, l = .enroll pk n m) ∨ (∃ n m b, l = .changeMode pk n m b) ∨ (∃ n b, l = .remove pk n b) →
      ClusterStep pk c l (commitGeneration { c with enrollments := es })
  | scanned : (pk, s) ∈ scans → ClusterStep pk c (.scan scans) (reconcileScan c s)
  | live : ClusterStep pk c (.live pk inv) (reconcileLive c inv)
  | configUpdated : ClusterStep pk c (.updateConfig pk key node updates deleted now)
      (updateCurrentGuestConfig c key node updates deleted now)
  | upserted : ClusterStep pk c (.upsert pk key node status config now)
      (upsertCurrentGuest c key node status config now)
  | refreshed : ClusterStep pk c (.refresh pk client key node rel del now)
      (refreshCurrentGuestFromClient c client key node rel del now)
  | deleted : ClusterStep pk c (.delete pk key) (deleteCurrentGuest c key)

theorem onCluster_get {db db' : GuestDb} {pk : Nat} {f : GuestCluster → Option GuestCluster}
    (hpk : ∀ c c', f c = some c' → c'.pk = c.pk) (h : onCluster db pk f = some db') (k : Nat) :
    (k ≠ pk ∧ db'.get k = db.get k) ∨ (k = pk ∧ ∃ c c', db.get pk = some c ∧ f c = some c' ∧ db'.get pk = some c') := by
  simp only [onCluster, Option.bind_eq_some_iff, Option.map_eq_some_iff] at h
  obtain ⟨c, hc, c', hf, rfl⟩ := h
  have hk : c'.pk = pk := (hpk c c' hf).trans (Table.key_of_get hc)
  by_cases he : k = pk
  · exact .inr ⟨he, c, c', hc, hf, by rw [Table.get_put, if_pos hk.symm]⟩
  · exact .inl ⟨he, by rw [Table.get_put, if_neg (by rw [hk]; exact he)]⟩

/-- A cluster before and after a step, if it is there at all. -/
def StepAt (db db' : GuestDb) (l : GuestStep) (k : Nat) : Prop :=
  (db.get k = none ∧ db'.get k = none) ∨ ∃ c c', db.get k = some c ∧ db'.get k = some c' ∧ ClusterStep k c l c'

theorem StepAt.same {db db' : GuestDb} {l : GuestStep} {k : Nat} (h : db'.get k = db.get k) : StepAt db db' l k := by
  cases hc : db.get k with
  | none => exact .inl ⟨hc, h.trans hc⟩
  | some c => exact .inr ⟨c, c, hc, h.trans hc, .same⟩

theorem onCluster_step {db db' : GuestDb} {pk : Nat} {l : GuestStep} {f : GuestCluster → Option GuestCluster}
    (hpk : ∀ c c', f c = some c' → c'.pk = c.pk) (hf : ∀ c c', f c = some c' → ClusterStep pk c l c')
    (h : onCluster db pk f = some db') (k : Nat) : StepAt db db' l k := by
  rcases onCluster_get hpk h k with ⟨-, hget⟩ | ⟨rfl, c, c', hc, hfc, hc'⟩
  · exact .same hget
  · exact .inr ⟨c, c', hc, hc', hf c c' hfc⟩

theorem enrollNode_step {c c' : GuestCluster} {node : String} {mode : EnrollmentMode} (pk : Nat)
    (h : enrollNode c node mode = some c') : c'.pk = c.pk ∧ ClusterStep pk c (.enroll pk node mode) c' := by
  simp only [enrollNode] at h
  split at h
  · cases h
  split at h <;> cases h
  · exact ⟨rfl, .same⟩
  · exact ⟨rfl, .committed _ (.inl ⟨_, _, rfl⟩)⟩

theorem changeEnrollmentMode_step {c c' : GuestCluster} {node : String} {mode : EnrollmentMode} {blocked : Bool}
    (pk : Nat) (h : changeEnrollmentMode c node mode blocked = some c') :
    c'.pk = c.pk ∧ ClusterStep pk c (.changeMode pk node mode blocked) c' := by
  simp only [changeEnrollmentMode] at h
  split at h
  · cases h
  split at h
  · cases h
    exact ⟨rfl, .same⟩
  split at h <;> cases h
  exact ⟨rfl, .committed _ (.inr (.inl ⟨_, _, _, rfl⟩))⟩

theorem removeEnrollment_step {c c' : GuestCluster} {node : String} {blocked : Bool} (pk : Nat)
    (h : removeEnrollment c node blocked = some c') :
    c'.pk = c.pk ∧ ClusterStep pk c (.remove pk node blocked) c' := by
  simp only [removeEnrollment] at h
  split at h <;> cases h
  exact ⟨rfl, .committed _ (.inr (.inr ⟨_, _, rfl⟩))⟩

theorem reconcileScans_other {k : Nat} {scans : List (Nat × ClusterScan)} {db db' : GuestDb}
    (h : reconcileScans db scans = some db') (hk : k ∉ scans.map (·.1)) : db'.get k = db.get k := by
  induction scans generalizing db with
  | nil =>
    simp only [reconcileScans, Option.some.injEq] at h
    rw [h]
  | cons scan scans ih =>
    obtain ⟨pk, s⟩ := scan
    simp only [List.map_cons, List.mem_cons, not_or] at hk
    simp only [reconcileScans, Option.bind_eq_some_iff] at h
    obtain ⟨db₁, h₁, h₂⟩ := h
    rw [ih h₂ hk.2]
    rcases onCluster_get (fun c c' hf => by cases hf; rfl) h₁ k with ⟨-, hget⟩ | ⟨rfl, -⟩
    · exact hget
    · exact absurd rfl hk.1

/-- A scan gives each cluster it attempted its own turn. -/
theorem reconcileScans_step {k : Nat} {all scans : List (Nat × ClusterScan)} {db db' : GuestDb}
    (hn : (scans.map (·.1)).Nodup) (hall : ∀ s ∈ scans, s ∈ all) (h : reconcileScans db scans = some db') :
    StepAt db db' (.scan all) k := by
  induction scans generalizing db with
  | nil =>
    simp only [reconcileScans, Option.some.injEq] at h
    exact .same (by rw [h])
  | cons scan scans ih =>
    obtain ⟨pk, s⟩ := scan
    simp only [List.map_cons, List.nodup_cons] at hn
    simp only [reconcileScans, Option.bind_eq_some_iff] at h
    obtain ⟨db₁, h₁, h₂⟩ := h
    rcases onCluster_get (fun c c' hf => by cases hf; rfl) h₁ k with ⟨-, hget⟩ | ⟨rfl, c, c', hc, hf, hc'⟩
    · have hrest := ih hn.2 (fun s hs => hall s (List.mem_cons_of_mem _ hs)) h₂
      rwa [StepAt, hget] at hrest
    · cases hf
      refine .inr ⟨c, _, hc, (reconcileScans_other h₂ hn.1).trans hc', .scanned (hall _ ?_)⟩
      exact List.mem_cons_self ..

/-- Every step changes each cluster in one of the ways of `ClusterStep`. -/
theorem guestStep_at {db db' : GuestDb} {l : GuestStep} (h : guestStep db l = some db') (k : Nat) :
    StepAt db db' l k := by
  cases l with
  | enroll pk node mode =>
    exact onCluster_step (fun _ _ hf => (enrollNode_step pk hf).1) (fun _ _ hf => (enrollNode_step pk hf).2) h k
  | changeMode pk node mode blocked =>
    exact onCluster_step (fun _ _ hf => (changeEnrollmentMode_step pk hf).1)
      (fun _ _ hf => (changeEnrollmentMode_step pk hf).2) h k
  | remove pk node blocked =>
    exact onCluster_step (fun _ _ hf => (removeEnrollment_step pk hf).1)
      (fun _ _ hf => (removeEnrollment_step pk hf).2) h k
  | scan scans =>
    simp only [guestStep] at h
    split at h
    · rename_i hn
      exact reconcileScans_step hn (fun _ hs => hs) h
    · cases h
  | live pk inv => exact onCluster_step (fun _ _ hf => by cases hf; rfl) (fun _ _ hf => by cases hf; exact .live) h k
  | updateConfig =>
    exact onCluster_step (fun _ _ hf => by cases hf; rfl) (fun _ _ hf => by cases hf; exact .configUpdated) h k
  | upsert => exact onCluster_step (fun _ _ hf => by cases hf; rfl) (fun _ _ hf => by cases hf; exact .upserted) h k
  | refresh =>
    refine onCluster_step (fun _ _ hf => ?_) (fun _ _ hf => by cases hf; exact .refreshed) h k
    cases hf
    simp only [refreshCurrentGuestFromClient]
    split
    · rfl
    · split <;> rfl
    · rfl
  | delete => exact onCluster_step (fun _ _ hf => by cases hf; rfl) (fun _ _ hf => by cases hf; exact .deleted) h k

end PveHelper.Guests
