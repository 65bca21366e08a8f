/-
The guest evidence under an UNREFERENCED decision. Volumes and guests are
refreshed by different passes, and a decision asks the catalog only whether its
own coverage is complete: a live reconcile may have added guests whose
configuration nobody read, and a cluster may have no guest projection at all.
What the decision does rest on is that every reference it did not find was
looked for in the rows as stored, and that a row is either what a scan read of
its guest or says itself that it was not read. A body that is no object is read
as an empty configuration.
-/
import PveHelper.Storage.Absence

namespace PveHelper.Storage

open Lib Guests

/-! ## What a scan reads of a guest -/

/-- A guest whose configuration was answered: what its listing says, and the body of the answer. -/
structure GuestReading where
  objectType : ObjectType
  vmid : Nat
  node : String
  status : String
  endpoint : Nat
  body : Json

namespace GuestReading

variable (r : GuestReading)

/-- `_get_config` of an answer: a body that is no object counts as an empty configuration. -/
def config : Config :=
  match r.body with
  | .obj fields => fields
  | _ => []

/-- The references that `inventory` finds in it. -/
def diskReferences : List String := extractDiskReferences r.config

/-- The guest as the scan observes it. -/
def guest : ScanGuest where
  objectType := r.objectType
  vmid := r.vmid
  node := r.node
  status := r.status
  config := r.config
  diskReferences := r.diskReferences
  endpoint := r.endpoint

end GuestReading

/-- A scan's answer for one cluster, with the readings its observations are made of. -/
structure ReadScan extends ClusterScan where
  readings : List GuestReading
  observed : observations = readings.map GuestReading.guest

/-! ## Refreshes and reconciles over all clusters -/

/-- The installation, with every guest a scan has read so far, by cluster. No
step reads the latter. -/
structure EvidenceState where
  inst : Installation
  scanned : List (Nat × GuestReading) := []

inductive EvidenceStep
  | metadata (cluster : Nat) (answer : Except ReadError MetadataReads)
  | readVolumes (cluster : Nat) (clients : Except ReadError Unit) (contentOf : ContentReads)
  | publishVolumes (cluster : Nat)
  | abandonVolumes (cluster : Nat)
  | scan (scans : List (Nat × ReadScan))
  | live (cluster : Nat) (inv : LiveInventory)

/-- One cluster rewritten; no step for a cluster that is not there, or where the
step is not enabled. -/
def withCluster (inst : Installation) (pk : Nat) (f : StorageCluster → Option StorageCluster) : Option Installation :=
  (inst.clusters.get pk).bind fun c => (f c).map fun c' => { inst with clusters := inst.clusters.put c' }

/-- The clusters of a scan, one after the other. -/
def scanClusters : Installation → List (Nat × ReadScan) → Option Installation
  | inst, [] => some inst
  | inst, (pk, s) :: scans =>
    (withCluster inst pk fun c => some { c with guest := reconcileScan c.guest s.toClusterScan }).bind (scanClusters · scans)

/-- The guests a scan read. -/
def readGuests (scans : List (Nat × ReadScan)) : List (Nat × GuestReading) :=
  scans.flatMap fun s => s.2.readings.map fun r => (s.1, r)

def evidenceStep (w : EvidenceState) : EvidenceStep → Option EvidenceState
  | .metadata pk answer => (withCluster w.inst pk fun c =>
      some { c with catalog := refreshStorageMetadata c.scope answer c.catalog }).map ({ w with inst := · })
  | .readVolumes pk clients contentOf => (withCluster w.inst pk fun c =>
      if c.pass.isSome then none
      else
        let (catalog, pass) := readVolumes clients contentOf c.catalog
        some { c with catalog := catalog, pass := pass }).map ({ w with inst := · })
  | .publishVolumes pk => (withCluster w.inst pk fun c =>
      c.pass.map fun p => { c with catalog := publishVolumes p c.catalog, pass := none }).map ({ w with inst := · })
  | .abandonVolumes pk => (withCluster w.inst pk fun c =>
      c.pass.map fun _ => { c with pass := none }).map ({ w with inst := · })
  | .scan scans =>
    if (scans.map (·.1)).Nodup then
      (scanClusters w.inst scans).map fun inst => ⟨inst, readGuests scans ++ w.scanned⟩
    else none
  | .live pk inv => (withCluster w.inst pk fun c =>
      some { c with guest := reconcileLive c.guest inv }).map ({ w with inst := · })

/-- No guest row yet; the catalogs, bindings and enrollments as they may be. -/
def NoGuests (w : EvidenceState) : Prop := w.scanned = [] ∧ w.inst.clusters.All fun c => c.guest.guests.rows = []

/-! ## What a guest row is evidence of -/

/-- The row's references are those of the configuration a scan read of its guest, or the row
says that its configuration was not read and has none. -/
structure RowEvidence (scanned : List (Nat × GuestReading)) (pk : Nat) (g : CurrentGuest) : Prop where
  read : g.configComplete = true →
    ∃ r, (pk, r) ∈ scanned ∧ (r.objectType, r.vmid) = g.key ∧ g.diskReferences = r.diskReferences
  unread : g.configComplete = false → g.diskReferences = []

def EvidenceInv (w : EvidenceState) : Prop :=
  w.inst.clusters.All fun c => c.guest.guests.All (RowEvidence w.scanned c.pk)

theorem RowEvidence.mono {scanned scanned' : List (Nat × GuestReading)} (hs : ∀ o ∈ scanned, o ∈ scanned') {pk : Nat}
    {g : CurrentGuest} (h : RowEvidence scanned pk g) : RowEvidence scanned' pk g := by
  refine ⟨?_, h.unread⟩
  intro hc
  obtain ⟨o, ho, hk, hd⟩ := h.read hc
  exact ⟨o, hs _ ho, hk, hd⟩

theorem reconcileScan_evidence {scanned : List (Nat × GuestReading)} {c : GuestCluster} {s : ReadScan} {pk : Nat}
    (h : c.guests.All (RowEvidence scanned pk)) (hs : ∀ r ∈ s.readings, (pk, r) ∈ scanned) :
    (reconcileScan c s.toClusterScan).guests.All (RowEvidence scanned pk) := by
  refine Table.All.foldl (h.keep s.keeps) fun t o ho ht => ht.put ?_
  rw [s.observed] at ho
  obtain ⟨r, hr, rfl⟩ := List.mem_map.mp ho
  exact ⟨fun _ => ⟨r, hs r hr, rfl, rfl⟩, nofun⟩

theorem writeLive_evidence {scanned : List (Nat × GuestReading)} {c : GuestCluster} {scope : PublicationScope} {pk : Nat}
    {now : Time} {t : Table CurrentGuest.key} (g : LiveGuest) (h : t.All (RowEvidence scanned pk)) :
    (writeLive c scope now t g).All (RowEvidence scanned pk) := by
  refine h.put ?_
  cases hg : t.get (g.objectType, g.vmid) with
  | none => exact ⟨nofun, fun _ => rfl⟩
  | some e =>
    have he := h _ e hg
    refine ⟨?_, he.unread⟩
    intro hc
    obtain ⟨o, ho, hk, hd⟩ := he.read hc
    exact ⟨o, ho, hk.trans (Table.key_of_get hg), hd⟩

theorem reconcileLive_evidence {scanned : List (Nat × GuestReading)} {c : GuestCluster} {inv : LiveInventory} {pk : Nat}
    (h : c.guests.All (RowEvidence scanned pk)) : (reconcileLive c inv).guests.All (RowEvidence scanned pk) := by
  have hkept : Table.All (RowEvidence scanned pk) (if inv.complete then
      c.guests.keep fun g => inv.guests.any fun o => (o.objectType, o.vmid) = g.key else c.guests) := by
    split
    · exact h.keep _
    · exact h
  exact Table.All.foldl hkept fun _ g _ ht => writeLive_evidence g ht

/-! ## Every step -/

theorem withCluster_evidence {scanned : List (Nat × GuestReading)} {inst inst' : Installation} {pk : Nat}
    {f : StorageCluster → Option StorageCluster}
    (hi : inst.clusters.All fun c => c.guest.guests.All (RowEvidence scanned c.pk))
    (hf : ∀ c c', c.pk = pk → f c = some c' → c'.pk = c.pk ∧ (c.guest.guests.All (RowEvidence scanned c.pk) →
      c'.guest.guests.All (RowEvidence scanned c.pk)))
    (h : withCluster inst pk f = some inst') :
    inst'.clusters.All fun c => c.guest.guests.All (RowEvidence scanned c.pk) := by
  simp only [withCluster, Option.bind_eq_some_iff, Option.map_eq_some_iff] at h
  obtain ⟨c, hc, c', hfc, rfl⟩ := h
  obtain ⟨hpk, hg⟩ := hf c c' (Table.key_of_get hc) hfc
  refine hi.put ?_
  rw [hpk]
  exact hg (hi pk c hc)

/-- A storage pass leaves the guests alone. -/
theorem withCluster_storage {w : EvidenceState} {inst' : Installation} {pk : Nat}
    {f : StorageCluster → Option StorageCluster} (hi : EvidenceInv w)
    (hf : ∀ c c', f c = some c' → c'.guest = c.guest) (h : withCluster w.inst pk f = some inst') :
    EvidenceInv { w with inst := inst' } := by
  refine withCluster_evidence hi (fun c c' _ hc => ?_) h
  have hg := hf c c' hc
  exact ⟨congrArg GuestCluster.pk hg, fun h => hg ▸ h⟩

theorem scanClusters_evidence {scanned : List (Nat × GuestReading)} {scans : List (Nat × ReadScan)}
    {inst inst' : Installation} (hi : inst.clusters.All fun c => c.guest.guests.All (RowEvidence scanned c.pk))
    (hs : ∀ o ∈ readGuests scans, o ∈ scanned) (h : scanClusters inst scans = some inst') :
    inst'.clusters.All fun c => c.guest.guests.All (RowEvidence scanned c.pk) := by
  induction scans generalizing inst with
  | nil =>
    simp only [scanClusters, Option.some.injEq] at h
    exact h ▸ hi
  | cons scan scans ih =>
    obtain ⟨pk, s⟩ := scan
    simp only [scanClusters, Option.bind_eq_some_iff] at h
    obtain ⟨inst₁, h₁, h₂⟩ := h
    simp only [readGuests, List.flatMap_cons, List.mem_append] at hs
    refine ih ?_ (fun o ho => hs o (.inr ho)) h₂
    refine withCluster_evidence hi ?_ h₁
    intro c c' hpk hc
    cases hc
    refine ⟨rfl, fun hg => reconcileScan_evidence hg fun o ho => hs _ (.inl ?_)⟩
    rw [hpk]
    exact List.mem_map_of_mem ho

theorem evidenceStep_inv {w w' : EvidenceState} {l : EvidenceStep} (hi : EvidenceInv w)
    (h : evidenceStep w l = some w') : EvidenceInv w' := by
  cases l with
  | metadata pk answer =>
    obtain ⟨inst, hw, rfl⟩ := Option.map_eq_some_iff.mp h
    exact withCluster_storage hi (fun c c' hc => by cases hc; rfl) hw
  | readVolumes pk clients contentOf =>
    obtain ⟨inst, hw, rfl⟩ := Option.map_eq_some_iff.mp h
    refine withCluster_storage hi ?_ hw
    intro c c' hc
    split at hc
    · cases hc
    · cases hc
      rfl
  | publishVolumes pk =>
    obtain ⟨inst, hw, rfl⟩ := Option.map_eq_some_iff.mp h
    refine withCluster_storage hi ?_ hw
    intro c c' hc
    obtain ⟨p, -, rfl⟩ := Option.map_eq_some_iff.mp hc
    rfl
  | abandonVolumes pk =>
    obtain ⟨inst, hw, rfl⟩ := Option.map_eq_some_iff.mp h
    refine withCluster_storage hi ?_ hw
    intro c c' hc
    obtain ⟨p, -, rfl⟩ := Option.map_eq_some_iff.mp hc
    rfl
  | scan scans =>
    simp only [evidenceStep] at h
    split at h
    · obtain ⟨inst, hw, rfl⟩ := Option.map_eq_some_iff.mp h
      refine scanClusters_evidence ?_ (fun o ho => List.mem_append_left _ ho) hw
      intro k c hc key g hg
      exact (hi k c hc key g hg).mono fun o ho => List.mem_append_right _ ho
    · cases h
  | live pk inv =>
    obtain ⟨inst, hw, rfl⟩ := Option.map_eq_some_iff.mp h
    refine withCluster_evidence hi (fun c c' _ hc => ?_) hw
    cases hc
    exact ⟨rfl, reconcileLive_evidence⟩

theorem NoGuests.inv {w : EvidenceState} (h : NoGuests w) : EvidenceInv w := by
  intro k c hc key g hg
  have hnone := Table.mem_of_get hg
  rw [h.2 k c hc] at hnone
  cases hnone

/-! ## What a decision rests on -/

theorem EvidenceInv.scopeGuests {w : EvidenceState} (hi : EvidenceInv w) {c : StorageCluster}
    (hc : c ∈ w.inst.clusters.rows) {node : String} {shared : Bool} {g : CurrentGuest}
    (hg : g ∈ Storage.scopeGuests c.guest node shared) : RowEvidence w.scanned c.pk g := by
  have hmem : g ∈ c.guest.guests.rows := by
    simp only [Storage.scopeGuests] at hg
    split at hg
    · exact (List.mem_filter.mp hg).1
    · exact hg
  exact hi _ c (Table.get_of_mem hc) _ g (Table.get_of_mem hmem)

/-- A candidate is a storage of the catalog of a cluster of the installation. -/
theorem candidate_mem {inst : Installation} {c : StorageCluster} {d : ClusterStorage} {x : Candidate}
    (h : x ∈ (crossClusterCandidates inst c d).1) :
    x.cluster ∈ inst.clusters.rows ∧ x.storage ∈ x.cluster.catalog.storages.rows := by
  have hother : ∀ y ∈ otherStorages inst c d, y.1 ∈ inst.clusters.rows ∧ y.2 ∈ y.1.catalog.storages.rows := by
    intro y hy
    simp only [otherStorages, presentStorages, List.mem_filter, List.mem_insertionSort, List.mem_flatMap,
      List.mem_map] at hy
    obtain ⟨⟨e, he, s, ⟨hs, -⟩, rfl⟩, -⟩ := hy
    exact ⟨he, hs⟩
  simp only [crossClusterCandidates] at h
  split at h
  · split at h
    · cases h
    · simp only [List.mem_flatMap, List.mem_map] at h
      obtain ⟨y, hy, b, -, rfl⟩ := h
      exact hother y hy
  split at h
  · cases h
  split at h
  · cases h
  split at h
  · cases h
  · simp only [List.mem_map, List.mem_filter] at h
    obtain ⟨y, ⟨hy, -⟩, rfl⟩ := h
    exact hother y hy

/-- **The evidence of an UNREFERENCED decision**, in every state that storage
refreshes and guest reconciles reach: every consulted view is complete, no row
of a consulted scope lists the volume, and each of those rows has the references of the
configuration a scan read of its guest or says that its configuration was not read. -/
theorem unreferenced_evidence {w : EvidenceState} (hw : Reachable evidenceStep NoGuests w) {c : StorageCluster}
    (hc : c ∈ w.inst.clusters.rows) (health : Nat → StorageBackendProfile → MountHealth) (d : ClusterStorage)
    (node volid : String)
    (h : (usageDecision (usageScope health w.inst c d node) volid).state = .unreferenced) :
    ((storageView health c.scope c.catalog d node).coverageComplete = true ∧
      ∀ g ∈ scopeGuests c.guest node d.shared, RowEvidence w.scanned c.pk g ∧
        (Text.startsWith volid (d.storageId ++ ":") = true → volid ∉ g.diskReferences)) ∧
    ∀ x ∈ (crossClusterCandidates w.inst c d).1, (x.view health).coverageComplete = true ∧
      ∀ g ∈ scopeGuests x.cluster.guest x.node x.storage.shared, RowEvidence w.scanned x.cluster.pk g ∧
        x.storage.storageId ++ ":" ++ relativePart volid ∉ g.diskReferences := by
  have hi : EvidenceInv w := hw.inv (fun _ => NoGuests.inv) evidenceStep_inv
  obtain ⟨hcomplete, hrefs, hcands⟩ := usageDecision_checked h
  refine ⟨⟨hcomplete, fun g hg => ⟨hi.scopeGuests hc hg, fun hs hr => ?_⟩⟩, fun x hx => ?_⟩
  · exact (hrefs g hg volid hr hs).2 rfl
  · obtain ⟨hcomp, hno⟩ := hcands x hx
    exact ⟨hcomp, fun g hg => ⟨hi.scopeGuests (candidate_mem hx).1 hg, hno g hg⟩⟩

/-! ## A guest nobody has read -/

/-- One node with a local pool. -/
def thinReads : MetadataReads where
  definitions := [{ storage := "local-lvm", type := "lvmthin", content := ["images"], shared := false, nodes := [],
                    disable := false, raw := [("storage", .str "local-lvm"), ("type", .str "lvmthin")] }]
  nodes := [⟨"pve1", "online"⟩]
  storageOf _ := .ok [⟨"local-lvm", true, true⟩]

/-- The cluster before any refresh. -/
def newCluster : StorageCluster where
  guest :=
    { pk := 1, key := "lab", enrollmentContractVersion := 0, enrollmentGeneration := 0, enrollments := .empty,
      endpoints := [], guests := .empty, inventoryState := none }
  catalog := { state := none, storages := .empty, nextGeneration := 0 }
  members := []

def newInstallation : EvidenceState := { inst := { clusters := ⟨[newCluster], by decide⟩, mounts := .empty } }

/-- A full catalog refresh; the pool holds one disk. -/
def poolRefresh : List EvidenceStep :=
  [.metadata 1 (.ok thinReads), .readVolumes 1 (.ok ()) fun _ _ => .ok [{ volid := "local-lvm:vm-100-disk-0" }],
    .publishVolumes 1]

/-- The configuration of the one guest. -/
def guestRead : GuestReading where
  objectType := .vm
  vmid := 100
  node := "pve1"
  status := "running"
  endpoint := 1
  body := .obj [("scsi0", .str "local-lvm:vm-100-disk-0,size=8G")]

/-- A scan that read it. -/
def guestScan : ReadScan where
  scan := 1
  copy := ⟨0, 0⟩
  observations := [guestRead.guest]
  readings := [guestRead]
  observed := rfl
  attemptedEndpoints := ["pve1"]
  succeededEndpoints := ["pve1"]
  attemptedNodes := ["pve1"]
  coveredNodes := ["pve1"]
  observedAt := 10

/-- A complete live answer that names the guest. -/
def guestLive : LiveInventory where
  guests := [⟨.vm, 100, "pve1", "running", false, ""⟩]
  complete := true
  attemptedEndpoints := ["pve1"]
  successfulEndpoints := ["pve1"]
  observedAt := 10

def scannedRun : List EvidenceStep := poolRefresh ++ [.scan [(1, guestScan)]]

def liveRun : List EvidenceStep := poolRefresh ++ [.live 1 guestLive]

/-- The state after the steps, and the cluster and the pool in it. -/
def after (ls : List EvidenceStep) : EvidenceState := (run evidenceStep newInstallation ls).getD newInstallation

def clusterAfter (ls : List EvidenceStep) : StorageCluster := ((after ls).inst.clusters.get 1).getD newCluster

def poolAfter (ls : List EvidenceStep) : ClusterStorage :=
  ((clusterAfter ls).catalog.storages.get "local-lvm").getD (.new "local-lvm" 0)

theorem newInstallation_noGuests : NoGuests newInstallation := by
  refine ⟨rfl, ?_⟩
  intro k c hc
  have hm := Table.mem_of_get hc
  simp only [newInstallation, List.mem_singleton] at hm
  subst hm
  rfl

theorem eq_some_getD {α : Type} {o : Option α} (h : o.isSome = true) (default : α) : o = some (o.getD default) := by
  obtain ⟨x, rfl⟩ := Option.isSome_iff_exists.mp h
  rfl

theorem after_reachable (ls : List EvidenceStep) (h : (run evidenceStep newInstallation ls).isSome = true) :
    Reachable evidenceStep NoGuests (after ls) :=
  ⟨newInstallation, ls, newInstallation_noGuests, eq_some_getD h _⟩

theorem clusterAfter_mem (ls : List EvidenceStep) (h : ((after ls).inst.clusters.get 1).isSome = true) :
    clusterAfter ls ∈ (after ls).inst.clusters.rows :=
  Table.mem_of_get (eq_some_getD h newCluster)

theorem poolAfter_mem (ls : List EvidenceStep)
    (h : ((clusterAfter ls).catalog.storages.get "local-lvm").isSome = true) :
    poolAfter ls ∈ (clusterAfter ls).catalog.storages.rows :=
  Table.mem_of_get (eq_some_getD h (ClusterStorage.new "local-lvm" 0))

/-- A second disk is unreferenced after a scan: the guest's references were read. -/
theorem scanned_unreferenced_evidence :
    (usageDecision (usageScope noMounts (after scannedRun).inst (clusterAfter scannedRun) (poolAfter scannedRun) "pve1")
      "local-lvm:vm-100-disk-1").state = .unreferenced ∧
    ∀ g ∈ scopeGuests (clusterAfter scannedRun).guest "pve1" (poolAfter scannedRun).shared,
      RowEvidence (after scannedRun).scanned (clusterAfter scannedRun).pk g := by
  have hd : (usageDecision (usageScope noMounts (after scannedRun).inst (clusterAfter scannedRun) (poolAfter scannedRun)
      "pve1") "local-lvm:vm-100-disk-1").state = .unreferenced := by decide +kernel
  have h := unreferenced_evidence (after_reachable scannedRun (by decide +kernel))
    (clusterAfter_mem scannedRun (by decide +kernel)) noMounts (poolAfter scannedRun) "pve1"
    "local-lvm:vm-100-disk-1" hd
  exact ⟨hd, fun g hg => (h.1.2 g hg).1⟩

/-- A guest that only a live reconcile has seen: its own disk is UNREFERENCED,
and its row says that its configuration was never read. -/
theorem unread_guest_unreferenced : ¬ ∀ (w : EvidenceState) (c : StorageCluster) (d : ClusterStorage)
    (health : Nat → StorageBackendProfile → MountHealth) (node volid : String),
    Reachable evidenceStep NoGuests w → c ∈ w.inst.clusters.rows → d ∈ c.catalog.storages.rows →
    (usageDecision (usageScope health w.inst c d node) volid).state = .unreferenced →
      (∃ st, c.guest.inventoryState = some st ∧ st.complete = true) ∧
      ∀ g ∈ scopeGuests c.guest node d.shared, g.configComplete = true := by
  intro h
  have hall := (h (after liveRun) (clusterAfter liveRun) (poolAfter liveRun) noMounts "pve1" "local-lvm:vm-100-disk-0"
    (after_reachable liveRun (by decide +kernel)) (clusterAfter_mem liveRun (by decide +kernel))
    (poolAfter_mem liveRun (by decide +kernel)) (by decide +kernel)).2
  have hunread : (scopeGuests (clusterAfter liveRun).guest "pve1" (poolAfter liveRun).shared).any
      (fun g => !g.configComplete) = true := by decide +kernel
  obtain ⟨g, hg, hc⟩ := List.any_eq_true.mp hunread
  simp [hall g hg] at hc

end PveHelper.Storage
