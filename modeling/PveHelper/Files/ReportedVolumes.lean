/-
The volumes that make a file a likely orphan. `MountedVolumeClassifier` says of such
a file that Proxmox reports it, and takes the observation rows themselves for what is
reported, where every other reader goes through the scopes of a view. A row leaves
only when its own scope is published again. So the rows of a node outlive the day the
storage becomes shared, the shared rows the day it becomes node-local, and the rows of
a node the day it is no longer active; a volume nobody lists any more is then still
reported to the classifier.
-/
import PveHelper.Storage.Currency
import PveHelper.Storage.Evidence
import PveHelper.Files.Classifier

namespace PveHelper.Files

open Lib Guests Storage

/-! ## Catalogs under refresh, and their bindings -/

inductive BoundRefreshStep
  | refresh (step : RefreshStep)
  /-- The `ClusterStorageMount` rows of a storage are saved or deleted. -/
  | bind (storageId : String) (bindings : Table MountBinding.node)

def bindMounts (bindings : Table MountBinding.node) (d : ClusterStorage) : ClusterStorage :=
  { d with mountBindings := bindings }

def boundRefreshStep (w : RefreshState) : BoundRefreshStep → Option RefreshState
  | .refresh step => refreshStep w step
  | .bind storageId bindings => some { w with
      catalog := { w.catalog with
        storages := w.catalog.storages.alter storageId (bindMounts bindings) fun _ => rfl } }

theorem boundRefreshStep_inv {w w' : RefreshState} {l : BoundRefreshStep} (hi : RefreshInv w)
    (h : boundRefreshStep w l = some w') : RefreshInv w' := by
  cases l with
  | refresh step => exact hi.step h
  | bind storageId bindings =>
    have hdef : (w.catalog.storages.alter storageId (bindMounts bindings) fun _ => rfl).All
        (DefinitionRight w.published w.snapshots) := by
      refine hi.definitions.alter (fun d _ hd => ⟨hd.managed, hd.named, ?_⟩) fun d _ hd => hd
      intro node cov hget hcomp
      have hr := hd.covered node cov hget hcomp
      exact ⟨hr.scope, hr.generation, hr.current⟩
    cases h
    exact hi.with_catalog w.pass rfl rfl rfl
      (@face_alter _ storageId (bindMounts bindings) (fun _ => rfl) fun _ => rfl) hdef hi.pass

/-- Every catalog is what refreshes and changes of the bindings have made of an
empty one. No step of one cluster reads or writes another's catalog. -/
def Refreshed (inst : Installation) : Prop :=
  ∀ c ∈ inst.clusters.rows, c.catalog.retired = false →
    ∃ w, Reachable boundRefreshStep EmptyCatalog w ∧ w.catalog = c.catalog

/-! ## What the classifier counts, and what a view lists -/

/-- The volume id a path of the mount has in the binding's storage. -/
def BoundStorage.volid (x : BoundStorage) (path : String) : String := x.storage.storageId ++ ":" ++ mountedSuffix path

/-- `storage_volumes(storage_view(binding.cluster_storage, node=binding.node or ""))` has the volume. -/
def BoundStorage.Reports (health : Nat → StorageBackendProfile → MountHealth) (x : BoundStorage) (volid : String) :
    Prop :=
  ∃ v ∈ storageVolumes (storageView health x.cluster.scope x.cluster.catalog x.storage x.node), v.volume.volid = volid

/-- The nodes whose rows the binding's view asks for. -/
def BoundStorage.readNodes (x : BoundStorage) : List String := (requestedScopes x.storage x.node).map observationNode

/-- The volume has a row where the binding's view looks. -/
def BoundStorage.HasRow (x : BoundStorage) (volid : String) : Prop :=
  ∃ o ∈ x.storage.observations.rows, o.volume.volid = volid ∧ o.node ∈ x.readNodes

/-- The classifier counts a row of the volume that is where the view does not
look: another scope's, from before. -/
def BoundStorage.HasLeftover (x : BoundStorage) (volid : String) : Prop :=
  ∃ o ∈ x.storage.observations.rows, o.volume.volid = volid ∧ (x.node ≠ "" → o.node = x.node) ∧ o.node ∉ x.readNodes

instance (health : Nat → StorageBackendProfile → MountHealth) (x : BoundStorage) (volid : String) :
    Decidable (x.Reports health volid) :=
  inferInstanceAs (Decidable (∃ v ∈ storageVolumes _, _))

instance (x : BoundStorage) (volid : String) : Decidable (x.HasRow volid) :=
  inferInstanceAs (Decidable (∃ o ∈ x.storage.observations.rows, _))

theorem BoundStorage.mem_observed {x : BoundStorage} {volid : String} :
    volid ∈ x.observed ↔ ∃ o ∈ x.storage.observations.rows, o.volume.volid = volid ∧ (x.node ≠ "" → o.node = x.node) := by
  simp only [BoundStorage.observed, List.mem_map]
  split
  · rename_i hn
    simp only [List.mem_filter, beq_iff_eq]
    constructor
    · rintro ⟨o, ⟨ho, hon⟩, hv⟩
      exact ⟨o, ho, hv, fun _ => hon⟩
    · rintro ⟨o, ho, hv, hon⟩
      exact ⟨o, ⟨ho, hon hn⟩, hv⟩
  · rename_i hn
    constructor
    · rintro ⟨o, ho, hv⟩
      exact ⟨o, ho, hv, fun h => absurd h hn⟩
    · rintro ⟨o, ho, hv, -⟩
      exact ⟨o, ho, hv⟩

/-- A row the classifier counts is one the view looks for or a leftover. -/
theorem BoundStorage.observed_cases {x : BoundStorage} {volid : String} (h : volid ∈ x.observed) :
    x.HasRow volid ∨ x.HasLeftover volid := by
  obtain ⟨o, ho, hv, hn⟩ := BoundStorage.mem_observed.mp h
  by_cases hread : o.node ∈ x.readNodes
  · exact .inl ⟨o, ho, hv, hread⟩
  · exact .inr ⟨o, ho, hv, hn, hread⟩

theorem BoundStorage.HasLeftover.observed {x : BoundStorage} {volid : String} (h : x.HasLeftover volid) :
    volid ∈ x.observed := by
  obtain ⟨o, ho, hv, hn, -⟩ := h
  exact BoundStorage.mem_observed.mpr ⟨o, ho, hv, hn⟩

theorem mem_clusterBindings {inst : Installation} {mount : StorageMount} {x : BoundStorage}
    (h : x ∈ clusterBindings inst mount) :
    x.cluster ∈ inst.clusters.rows ∧ x.cluster.catalog.retired = false ∧ x.storage ∈ x.cluster.catalog.storages.rows := by
  simp only [clusterBindings, entryBindings, List.mem_insertionSort, List.mem_flatMap, List.mem_filter, List.mem_map,
    Bool.and_eq_true, Bool.not_eq_true'] at h
  obtain ⟨c, hc, d, ⟨hd, hret, -⟩, b, -, rfl⟩ := h
  exact ⟨hc, hret, hd⟩

section classify

variable {health : Nat → StorageBackendProfile → MountHealth} {inst : Installation} {mount : StorageMount}
  {path : String}

/-- Under a complete view, the volumes listed are those with a row where it looks. -/
theorem BoundStorage.reports_iff {x : BoundStorage} {w : RefreshState} (hi : RefreshInv w)
    (hw : w.catalog = x.cluster.catalog) (hx : x.storage ∈ x.cluster.catalog.storages.rows)
    (hc : (storageView health x.cluster.scope x.cluster.catalog x.storage x.node).coverageComplete = true)
    (volid : String) : x.Reports health volid ↔ x.HasRow volid := by
  have hreason : listReason (catalogState w.catalog) x.storage x.node = "" := by
    rw [hw]
    simpa [storageView] using hc
  have hmode := (listReason_empty hreason).1
  have hcov := fun s hs => hi.requested (s := s) (by rw [hw]; exact hx) hreason hs
  constructor
  · rintro ⟨v, hv, rfl⟩
    obtain ⟨s, hs, hvs⟩ := storageVolumes_scope hmode hcov hv
    obtain ⟨o, ho, -, -, rfl⟩ := mem_storageVolumes.mp hv
    exact ⟨o, ho, rfl, List.mem_map.mpr ⟨s, hs, hvs.symm⟩⟩
  · rintro ⟨o, ho, rfl, hread⟩
    obtain ⟨s, hs, hos⟩ := List.mem_map.mp hread
    obtain ⟨cov, hget, rfl, hr⟩ := hcov s hs
    have hobserved : Observed x.storage.observations cov.node o.volume.volid := by
      rw [Observed, hos]
      exact Option.isSome_of_eq_some (Table.get_of_mem ho)
    obtain ⟨v, hv, -, hvv⟩ := (storageVolumes_observed hmode hget hr hs o.volume.volid).mpr hobserved
    exact ⟨v, hv, hvv⟩

/-- What a likely orphan is to the classifier. -/
theorem classify_likelyOrphan {r : ClassificationResult} (h : classifyMountedVolume health inst mount path = some r) :
    r.classification = .likelyOrphan ↔
      (∀ x ∈ clusterBindings inst mount, (x.decision health inst (mountedSuffix path)).state = .unreferenced) ∧
      ∃ x ∈ clusterBindings inst mount, x.volid path ∈ x.observed := by
  simp only [classifyMountedVolume] at h
  split at h
  · cases h
  split at h
  · rename_i hreferenced
    obtain ⟨d, hd, hstate⟩ := List.any_eq_true.mp hreferenced
    obtain ⟨x, hx, rfl⟩ := List.mem_map.mp hd
    cases h
    refine ⟨by simp, fun hall => ?_⟩
    simp [hall.1 x hx] at hstate
  rename_i hreferenced
  split at h
  · rename_i hunknown
    obtain ⟨d, hd, hstate⟩ := List.any_eq_true.mp hunknown
    obtain ⟨x, hx, rfl⟩ := List.mem_map.mp hd
    cases h
    refine ⟨by simp, fun hall => ?_⟩
    simp [hall.1 x hx] at hstate
  rename_i hunknown
  -- Neither a reference nor an unknown: every decision is UNREFERENCED.
  have hall : ∀ x ∈ clusterBindings inst mount, (x.decision health inst (mountedSuffix path)).state = .unreferenced := by
    intro x hx
    have hd := List.mem_map_of_mem (f := BoundStorage.decision health inst (mountedSuffix path)) hx
    simp only [List.any_eq_true, not_exists, not_and, Bool.or_eq_true, decide_eq_true_eq, not_or] at hreferenced hunknown
    have hr := hreferenced _ hd
    have hu := hunknown _ hd
    cases hs : (x.decision health inst (mountedSuffix path)).state with
    | referenced => exact absurd hs hr.1
    | unreferenced => rfl
    | unknown => exact absurd hs hu
    | referencedElsewhere => exact absurd hs hr.2
  split at h
  · rename_i hobserved
    cases h
    refine ⟨by simp, fun hyes => ?_⟩
    obtain ⟨x, hx, hv⟩ := hyes.2
    simp only [Bool.not_eq_true', List.any_eq_false, List.contains_iff_mem] at hobserved
    exact absurd hv (hobserved x hx)
  · rename_i hobserved
    cases h
    simp only [Bool.not_eq_true', Bool.not_eq_false, List.any_eq_true, List.contains_iff_mem] at hobserved
    exact ⟨fun _ => ⟨hall, hobserved⟩, fun _ => rfl⟩

/-- A likely orphan of the mount is a volume that some binding's view lists. -/
def OrphanReported (health : Nat → StorageBackendProfile → MountHealth) (inst : Installation) (mount : StorageMount)
    (path : String) : Prop :=
  ∀ r, classifyMountedVolume health inst mount path = some r → r.classification = .likelyOrphan →
    ∃ x ∈ clusterBindings inst mount, x.Reports health (x.volid path)

theorem classifyMountedVolume_isSome (health : Nat → StorageBackendProfile → MountHealth) (path : String)
    {x : BoundStorage} (hx : x ∈ clusterBindings inst mount) :
    (classifyMountedVolume health inst mount path).isSome = true := by
  simp only [classifyMountedVolume]
  split
  · rename_i he
    rw [List.isEmpty_iff.mp he] at hx
    cases hx
  repeat' split
  all_goals rfl

theorem Refreshed.reports_iff (hinst : Refreshed inst) {x : BoundStorage} (hx : x ∈ clusterBindings inst mount)
    (h : (x.decision health inst (mountedSuffix path)).state = .unreferenced) :
    x.Reports health (x.volid path) ↔ x.HasRow (x.volid path) := by
  obtain ⟨hc, hret, hd⟩ := mem_clusterBindings hx
  obtain ⟨w, hw, hcat⟩ := hinst x.cluster hc hret
  have hi : RefreshInv w := hw.inv (fun _ => emptyCatalog_inv) boundRefreshStep_inv
  exact x.reports_iff hi hcat hd (usageDecision_checked h).1 _

/-- **A likely orphan is a volume that is reported**, in every state that refreshes
reach and under every set of bindings, exactly unless the classifier counts a row
that its binding's view does not look for, no binding's view looks for any row of the
volume, and every binding's decision is UNREFERENCED. -/
theorem orphanReported_iff (hinst : Refreshed inst) (health : Nat → StorageBackendProfile → MountHealth)
    (mount : StorageMount) (path : String) : OrphanReported health inst mount path ↔
      ((∃ x ∈ clusterBindings inst mount, x.HasLeftover (x.volid path)) →
        (∃ x ∈ clusterBindings inst mount, x.HasRow (x.volid path)) ∨
        ∃ x ∈ clusterBindings inst mount, (x.decision health inst (mountedSuffix path)).state ≠ .unreferenced) := by
  constructor
  · intro h hleft
    obtain ⟨x, hx, hleft⟩ := hleft
    by_cases hall : ∀ y ∈ clusterBindings inst mount, (y.decision health inst (mountedSuffix path)).state = .unreferenced
    · left
      obtain ⟨r, hr⟩ := Option.isSome_iff_exists.mp (classifyMountedVolume_isSome health path hx)
      obtain ⟨y, hy, hrep⟩ := h r hr ((classify_likelyOrphan hr).mpr ⟨hall, x, hx, hleft.observed⟩)
      exact ⟨y, hy, (hinst.reports_iff hy (hall y hy)).mp hrep⟩
    · right
      simpa only [not_forall, exists_prop] using hall
  · intro h r hr horphan
    obtain ⟨hall, x, hx, hobserved⟩ := (classify_likelyOrphan hr).mp horphan
    have hrow : ∃ y ∈ clusterBindings inst mount, y.HasRow (y.volid path) := by
      rcases x.observed_cases hobserved with hrow | hleft
      · exact ⟨x, hx, hrow⟩
      · rcases h ⟨x, hx, hleft⟩ with hrow | ⟨y, hy, hne⟩
        · exact hrow
        · exact absurd (hall y hy) hne
    obtain ⟨y, hy, hrow⟩ := hrow
    exact ⟨y, hy, (hinst.reports_iff hy (hall y hy)).mpr hrow⟩

end classify

/-! ## A storage that becomes shared -/

/-- One node with a directory, at first its own and with guest disks, later shared and for images of discs only. -/
def vmstoreReads (shared : Bool) : MetadataReads where
  definitions := [{ storage := "vmstore", type := "dir", content := [if shared then "iso" else "images"], shared := shared,
                    nodes := [], disable := false, raw := [("storage", .str "vmstore"), ("type", .str "dir")] }]
  nodes := [⟨"pve1", "online"⟩]
  storageOf _ := .ok [⟨"vmstore", true, true⟩]

/-- A refresh of both kinds, the storage bound to the mount in between. -/
def vmstoreRefresh (binding : MountBinding) (shared : Bool) (listing : List Volume) : List BoundRefreshStep :=
  [.refresh (.metadata newCluster.scope (.ok (vmstoreReads shared))), .bind "vmstore" ⟨[binding], by simp⟩,
    .refresh (.readVolumes (.ok ()) fun _ _ => .ok listing), .refresh .publishVolumes]

/-- The disk listed while the directory is the node's own. -/
def localVmstore : List BoundRefreshStep :=
  vmstoreRefresh ⟨some "pve1", .node, 1⟩ false [{ volid := "vmstore:100/vm-100-disk-0.qcow2", content := "images" }]

/-- The directory shared, and its listing without the disk. -/
def sharedVmstore : List BoundRefreshStep := localVmstore ++ vmstoreRefresh ⟨none, .shared, 1⟩ true []

def vmstoreMount : StorageMount := ⟨1, "vmstore", "nas1:/vmstore"⟩

def vmstoreAfter (ls : List BoundRefreshStep) : RefreshState :=
  (run boundRefreshStep { catalog := newCluster.catalog } ls).getD { catalog := newCluster.catalog }

def vmstoreInstallation (ls : List BoundRefreshStep) : Installation :=
  { clusters := ⟨[{ newCluster with catalog := (vmstoreAfter ls).catalog }], by simp⟩, mounts := ⟨[vmstoreMount], by simp⟩ }

theorem vmstoreInstallation_refreshed {ls : List BoundRefreshStep}
    (h : (run boundRefreshStep { catalog := newCluster.catalog } ls).isSome = true) :
    Refreshed (vmstoreInstallation ls) := by
  intro c hc _
  simp only [vmstoreInstallation, List.mem_singleton] at hc
  subst hc
  exact ⟨vmstoreAfter ls, ⟨_, ls, rfl, eq_some_getD h _⟩, rfl⟩

/-- While the directory is the node's own, the disk is a likely orphan and its listing has it. -/
theorem local_orphan_reported :
    ((classifyMountedVolume noMounts (vmstoreInstallation localVmstore) vmstoreMount
      "images/100/vm-100-disk-0.qcow2").map (·.classification)) = some .likelyOrphan ∧
    OrphanReported noMounts (vmstoreInstallation localVmstore) vmstoreMount "images/100/vm-100-disk-0.qcow2" := by
  refine ⟨by decide +kernel, ?_⟩
  refine (orphanReported_iff (vmstoreInstallation_refreshed (by decide +kernel)) _ _ _).mpr fun _ => .inl ?_
  decide +kernel

/-- Once it is shared, the disk is in no listing and its row under the node is still counted. -/
theorem shared_orphan_unreported : ¬ ∀ (health : Nat → StorageBackendProfile → MountHealth) (inst : Installation)
    (mount : StorageMount) (path : String), Refreshed inst → OrphanReported health inst mount path := by
  intro h
  have horphan : ((classifyMountedVolume noMounts (vmstoreInstallation sharedVmstore) vmstoreMount
      "images/100/vm-100-disk-0.qcow2").map (·.classification)) = some .likelyOrphan := by decide +kernel
  obtain ⟨r, hr, hclass⟩ := Option.map_eq_some_iff.mp horphan
  have hreported := h _ _ _ _ (vmstoreInstallation_refreshed (by decide +kernel)) r hr hclass
  revert hreported
  decide +kernel

end PveHelper.Files
