/-
Members that enrollment keeps unread. `unobserved_eligible_nodes` names the members
of a cluster that could have a storage mounted and are never asked, and
`_usage_decision` withholds UNREFERENCED over them. `_usage_scope` asks it of the
definition alone: a candidate of another cluster, with an enrollment of its own,
counts as complete when the nodes it may ask have answered.
-/
import PveHelper.Storage.Absence

namespace PveHelper.Storage

open Lib Guests

section
variable (health : Nat → StorageBackendProfile → MountHealth) (inst : Installation) (c : StorageCluster)
  (d : ClusterStorage) (node volid : String)

/-- UNREFERENCED is given only where every consulted cluster has read its eligible members. -/
def UnreadWithholds : Prop :=
  (usageDecision (usageScope health inst c d node) volid).state = .unreferenced →
    unobservedEligibleNodes c d = [] ∧
      ∀ x ∈ (crossClusterCandidates inst c d).1, x.cluster.pk ≠ c.pk → unobservedEligibleNodes x.cluster x.storage = []

/-- Nothing but an unread member of another cluster stands against UNREFERENCED. -/
structure OthersPass : Prop where
  refreshed : c.catalog.state.isSome = true
  complete : (storageView health c.scope c.catalog d node).coverageComplete = true
  unreferenced : ∀ g ∈ scopeGuests c.guest node d.shared, ∀ r ∈ g.diskReferences,
    Text.startsWith r (d.storageId ++ ":") = true → volid ≠ "" ∧ r ≠ volid
  answerable : (crossClusterCandidates inst c d).2 = ""
  candidates : ∀ x ∈ (crossClusterCandidates inst c d).1, (x.scope health).Clear (relativePart volid)
  observed : unobservedEligibleNodes c d = []

/-- A candidate of another cluster has an eligible member that is never asked. -/
def UnreadElsewhere : Prop :=
  ∃ x ∈ (crossClusterCandidates inst c d).1, x.cluster.pk ≠ c.pk ∧ unobservedEligibleNodes x.cluster x.storage ≠ []

end

section
variable {health : Nat → StorageBackendProfile → MountHealth} {inst : Installation} {c : StorageCluster}
  {d : ClusterStorage} {node volid : String}

/-- The scope as it is built once the view is complete. -/
theorem usageScope_of_complete (inst : Installation) (hs : c.catalog.state.isSome = true)
    (hc : (storageView health c.scope c.catalog d node).coverageComplete = true) :
    (usageScope health inst c d node).unknownReason = "" ∧
      (usageScope health inst c d node).references = guestReferences c.guest d.storageId node d.shared ∧
      (usageScope health inst c d node).candidateReason = (crossClusterCandidates inst c d).2 ∧
      ((crossClusterCandidates inst c d).2 = "" →
        (usageScope health inst c d node).candidates = (crossClusterCandidates inst c d).1.map (·.scope health)) ∧
      (usageScope health inst c d node).unobservedNodes = unobservedEligibleNodes c d := by
  obtain ⟨st, hst⟩ := Option.isSome_iff_exists.mp hs
  simp only [usageScope, hst, hc, Bool.not_true, Bool.false_eq_true, if_false]
  by_cases hr : (crossClusterCandidates inst c d).2 = ""
  · simp [hr]
  · simp [hr]

theorem isSome_of_known (h : (usageScope health inst c d node).unknownReason = "") : c.catalog.state.isSome = true := by
  cases hs : c.catalog.state with
  | none =>
    simp only [usageScope, hs] at h
    exact absurd h (by decide)
  | some st => rfl

/-- UNREFERENCED is given exactly when nothing the scope looks at stands against it. -/
theorem unreferenced_iff_othersPass :
    (usageDecision (usageScope health inst c d node) volid).state = .unreferenced ↔
      OthersPass health inst c d node volid := by
  rw [usageDecision_unreferenced]
  constructor
  · rintro ⟨hu, hrefs, hr, hcands, hobs⟩
    have hs := isSome_of_known hu
    have hc := usageScope_complete hu
    obtain ⟨-, hre, hreason, hce, hun⟩ := usageScope_of_complete inst hs hc
    rw [hreason] at hr
    refine ⟨hs, hc, guestReferences_labels.mp (hre ▸ hrefs), hr, fun x hx => ?_, hun ▸ hobs⟩
    rw [hce hr] at hcands
    exact hcands _ (List.mem_map_of_mem hx)
  · intro h
    obtain ⟨hu, hre, hreason, hce, hun⟩ := usageScope_of_complete inst h.refreshed h.complete
    refine ⟨hu, hre ▸ guestReferences_labels.mpr h.unreferenced, hreason.trans h.answerable, ?_, hun.trans h.observed⟩
    rw [hce h.answerable]
    intro cand hcand
    obtain ⟨x, hx, rfl⟩ := List.mem_map.mp hcand
    exact h.candidates x hx

end

/-- An unread member withholds the verdict exactly when it is one of the definition's own cluster, or
another check withholds it anyway. -/
theorem unreadWithholds_iff (health : Nat → StorageBackendProfile → MountHealth) (inst : Installation)
    (c : StorageCluster) (d : ClusterStorage) (node volid : String) :
    UnreadWithholds health inst c d node volid ↔
      ¬ (OthersPass health inst c d node volid ∧ UnreadElsewhere inst c d) := by
  rw [UnreadWithholds, unreferenced_iff_othersPass]
  constructor
  · rintro h ⟨hpass, x, hx, hother, hunread⟩
    exact hunread ((h hpass).2 x hx hother)
  · intro h hpass
    refine ⟨hpass.observed, fun x hx hother => ?_⟩
    by_contra hunread
    exact h ⟨hpass, x, hx, hother, hunread⟩

/-- A pool of one Ceph cluster, as two Proxmox clusters define it. -/
def cephPool (node : String) : ClusterStorage where
  storageId := "ceph"
  storageType := "rbd"
  content := ["images"]
  shared := true
  nodes := []
  disabled := false
  config := [("monhost", .str "10.0.0.1"), ("pool", .str "vm")]
  present := true
  observedMetadataGeneration := 3
  nodeStates := ⟨[⟨node, true, true, true, false, 3⟩], by simp⟩
  coverages := ⟨[{ node := none, scope := .shared, volumeGeneration := some 4, basedOnMetadataGeneration := some 3,
                   complete := true }], by simp⟩
  observations := .empty
  mountBindings := .empty

def cephCatalog (node : String) : Catalog where
  state := some { metadataGeneration := some 3, metadataComplete := true }
  storages := ⟨[cephPool node], by simp⟩
  nextGeneration := 5

/-- The first cluster reads every node. -/
def cephLab : StorageCluster where
  guest :=
    { pk := 1, key := "lab", enrollmentContractVersion := 0, enrollmentGeneration := 0, enrollments := .empty,
      endpoints := [], guests := .empty, inventoryState := none }
  catalog := cephCatalog "pve1"
  members := []

/-- The second has two members, of which one is enrolled. -/
def cephSite : StorageCluster where
  guest :=
    { pk := 2, key := "site", enrollmentContractVersion := 1, enrollmentGeneration := 1,
      enrollments := ⟨[⟨"pve8", .managed⟩], by simp⟩, endpoints := [], guests := .empty, inventoryState := none }
  catalog := cephCatalog "pve8"
  members := [⟨"pve8", true⟩, ⟨"pve9", true⟩]

def cephInstallation : Installation := { clusters := ⟨[cephLab, cephSite], by decide⟩, mounts := .empty }

/-- A guest of the member nobody asks may use the volume, and the verdict is UNREFERENCED. -/
theorem unread_candidate_permits :
    ¬ UnreadWithholds noMounts cephInstallation cephLab (cephPool "pve1") "" "ceph:vm-100-disk-0" := by
  intro h
  have hverdict : (usageDecision (usageScope noMounts cephInstallation cephLab (cephPool "pve1") "")
      "ceph:vm-100-disk-0").state = .unreferenced := by rfl
  obtain ⟨-, hothers⟩ := h hverdict
  have hmem : (⟨cephSite, cephPool "pve8", ""⟩ : Candidate) ∈
      (crossClusterCandidates cephInstallation cephLab (cephPool "pve1")).1 := by
    have hcandidates : (crossClusterCandidates cephInstallation cephLab (cephPool "pve1")).1 =
        [⟨cephSite, cephPool "pve8", ""⟩] := by rfl
    rw [hcandidates]
    exact List.mem_singleton.mpr rfl
  have hread := hothers _ hmem (by decide)
  revert hread
  decide

end PveHelper.Storage
