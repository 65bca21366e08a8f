/-
What an UNREFERENCED decision rests on. A decision permits a destructive action
only after every check passed: the view is complete, no guest of the scope
lists the volume, and every candidate is complete and lists nothing either. The
order in which the candidates are walked decides which refusal is given, never
whether there is one.
-/
import PveHelper.Storage.Usage

namespace PveHelper.Storage

open Lib Guests

/-! ## References -/

theorem startsWith_append (s t : String) : Text.startsWith (s ++ t) s = true := by
  simp [Text.startsWith]

theorem labels_eq_nil {r : GuestReferences} {volid : String} :
    r.labels volid = [] ↔ ∀ p ∈ r.pairs, volid ≠ "" ∧ p.1 ≠ volid := by
  simp only [GuestReferences.labels, List.dedup_eq_nil, List.map_eq_nil_iff]
  split
  · rename_i h
    simp [h]
  · rename_i h
    simp only [List.eq_nil_iff_forall_not_mem, h, false_and, imp_false]

/-- No guest of the scope lists a volume of the storage that the question covers. -/
theorem guestReferences_labels {c : GuestCluster} {storageId node : String} {shared : Bool} {volid : String} :
    (guestReferences c storageId node shared).labels volid = [] ↔
      ∀ g ∈ scopeGuests c node shared, ∀ r ∈ g.diskReferences, Text.startsWith r (storageId ++ ":") = true →
        volid ≠ "" ∧ r ≠ volid := by
  rw [labels_eq_nil]
  simp only [guestReferences, List.mem_flatMap, List.mem_map, List.mem_filter]
  constructor
  · intro h g hg r hr hs
    exact h _ ⟨g, hg, r, ⟨hr, hs⟩, rfl⟩
  · intro h p hx
    obtain ⟨g, hg, r, ⟨hr, hs⟩, rfl⟩ := hx
    exact h g hg r hr hs

/-! ## The candidates -/

/-- A candidate that settles nothing. -/
def CandidateScope.Clear (relative : String) (cand : CandidateScope) : Prop :=
  cand.incomplete = false ∧ cand.references.labels (cand.volid relative) = []

theorem walkCandidates_eq_none (token : String) {relative : String} {cands : List CandidateScope} :
    walkCandidates token relative cands = none ↔ ∀ cand ∈ cands, cand.Clear relative := by
  induction cands with
  | nil => simp [walkCandidates]
  | cons cand rest ih =>
    rw [List.forall_mem_cons, ← ih]
    simp only [walkCandidates, CandidateScope.Clear]
    cases hi : cand.incomplete with
    | true => simp
    | false =>
      simp only [Bool.false_eq_true, if_false, true_and]
      split
      · rename_i label tail hs
        have hne : cand.references.labels (cand.volid relative) ≠ [] := by
          intro he
          simp [he] at hs
        simp [hne]
      · rename_i hs
        have : cand.references.labels (cand.volid relative) = [] := by
          have hp := List.perm_insertionSort (fun a b : String => ¬ b < a) (cand.references.labels (cand.volid relative))
          rw [hs] at hp
          exact hp.nil_eq.symm
        simp [this]

theorem walkCandidates_state {token relative : String} {cands : List CandidateScope} {p : UsagePreflight}
    (h : walkCandidates token relative cands = some p) : p.state ≠ .unreferenced := by
  induction cands with
  | nil => cases h
  | cons cand rest ih =>
    simp only [walkCandidates] at h
    split at h
    · cases h
      simp
    · split at h
      · cases h
        simp
      · exact ih h

/-- Every check that stands before UNREFERENCED. -/
theorem usageDecision_unreferenced {s : UsageScope} {volid : String} :
    (usageDecision s volid).state = .unreferenced ↔ s.unknownReason = "" ∧ s.references.labels volid = [] ∧
      s.candidateReason = "" ∧ (∀ cand ∈ s.candidates, cand.Clear (relativePart volid)) ∧ s.unobservedNodes = [] := by
  simp only [usageDecision, ← walkCandidates_eq_none s.token]
  split
  · rename_i h
    simp [h]
  split
  · rename_i h
    simp [h]
  split
  · rename_i h
    simp [h]
  rename_i hu hr hc
  simp only [Decidable.not_not, ne_eq] at hu hr hc
  split
  · rename_i p hp
    simp [hp, walkCandidates_state hp]
  · rename_i hp
    simp only [hp, hu, hr, hc, true_and]
    split
    · rename_i hn
      simpa using hn
    · rename_i hn
      simpa using hn

/-- Whether a decision permits a destructive action reads the candidates as a set. -/
theorem permits_perm {s : UsageScope} {cands : List CandidateScope} (h : cands.Perm s.candidates) (volid : String) :
    (usageDecision { s with candidates := cands } volid).permitsDestructiveAction
      = (usageDecision s volid).permitsDestructiveAction := by
  simp only [UsagePreflight.permitsDestructiveAction, decide_eq_decide, usageDecision_unreferenced, h.mem_iff]

/-! ## The scope of a definition -/

section scopes

variable {health : Nat → StorageBackendProfile → MountHealth} {inst : Installation} {c : StorageCluster}
  {d : ClusterStorage} {node volid : String}

theorem usageScope_complete (h : (usageScope health inst c d node).unknownReason = "") :
    (storageView health c.scope c.catalog d node).coverageComplete = true := by
  simp only [usageScope] at h
  split at h
  · simp at h
  split at h
  · rename_i hc
    simp only [storageView, Bool.not_eq_true', beq_eq_false_iff_ne, ne_eq] at hc h
    exact absurd h hc
  · rename_i hc
    simpa using hc

/-- What a scope that knows enough was built from. -/
theorem usageScope_known (hu : (usageScope health inst c d node).unknownReason = "")
    (hr : (usageScope health inst c d node).candidateReason = "") :
    (usageScope health inst c d node).references = guestReferences c.guest d.storageId node d.shared ∧
    (usageScope health inst c d node).candidates = (crossClusterCandidates inst c d).1.map (·.scope health) := by
  have hc := usageScope_complete hu
  cases hs : c.catalog.state with
  | none =>
    simp only [usageScope, hs] at hu
    exact absurd hu (by decide)
  | some st =>
    simp only [usageScope, hs, hc, Bool.not_true, Bool.false_eq_true, if_false] at hr ⊢
    split at hr
    · rename_i hne
      exact absurd hr hne
    · rename_i hne
      simp only [if_neg hne, and_self]

/-- A candidate that settles nothing is complete and lists no volume of the question. -/
theorem Candidate.clear {x : Candidate} (h : (x.scope health).Clear (relativePart volid)) :
    (x.view health).coverageComplete = true ∧ ∀ g ∈ scopeGuests x.cluster.guest x.node x.storage.shared,
      x.storage.storageId ++ ":" ++ relativePart volid ∉ g.diskReferences := by
  simp only [CandidateScope.Clear, Candidate.scope] at h
  split at h
  · cases h.1
  rename_i hc
  refine ⟨by simpa using hc, ?_⟩
  intro g hg hr
  have hno := guestReferences_labels.mp h.2 g hg _ hr (startsWith_append _ _)
  simp only [CandidateScope.volid] at hno
  split at hno
  · exact hno.1 rfl
  · exact hno.2 rfl

/-- What an UNREFERENCED decision has checked: the view, every reference to the
storage that a guest of the scope has, and every candidate. -/
theorem usageDecision_checked (h : (usageDecision (usageScope health inst c d node) volid).state = .unreferenced) :
    (storageView health c.scope c.catalog d node).coverageComplete = true ∧
    (∀ g ∈ scopeGuests c.guest node d.shared, ∀ r ∈ g.diskReferences,
      Text.startsWith r (d.storageId ++ ":") = true → volid ≠ "" ∧ r ≠ volid) ∧
    ∀ x ∈ (crossClusterCandidates inst c d).1, (x.view health).coverageComplete = true ∧
      ∀ g ∈ scopeGuests x.cluster.guest x.node x.storage.shared,
        x.storage.storageId ++ ":" ++ relativePart volid ∉ g.diskReferences := by
  obtain ⟨hu, hrefs, hr, hcands, -⟩ := usageDecision_unreferenced.mp h
  obtain ⟨hre, hce⟩ := usageScope_known hu hr
  rw [hre] at hrefs
  rw [hce] at hcands
  refine ⟨usageScope_complete hu, guestReferences_labels.mp hrefs, ?_⟩
  intro x hx
  exact x.clear (hcands _ (List.mem_map_of_mem hx))

/-- **What UNREFERENCED means.** The view is complete; a volume of this storage
is listed by no guest of the scope, and where the whole storage was asked about
no volume of it is; every candidate is complete and none of its guests lists
the volume under the candidate's name. And the order of the candidates never
decides whether a destructive action is permitted. -/
theorem usage_decision_sound (health : Nat → StorageBackendProfile → MountHealth) (inst : Installation)
    (c : StorageCluster) (d : ClusterStorage) (node volid : String) :
    ((usageDecision (usageScope health inst c d node) volid).state = .unreferenced →
      (storageView health c.scope c.catalog d node).coverageComplete = true ∧
      (∀ g ∈ scopeGuests c.guest node d.shared,
        (Text.startsWith volid (d.storageId ++ ":") = true → volid ∉ g.diskReferences) ∧
        (volid = "" → ∀ r ∈ g.diskReferences, Text.startsWith r (d.storageId ++ ":") = false)) ∧
      ∀ x ∈ (crossClusterCandidates inst c d).1, (x.view health).coverageComplete = true ∧
        ∀ g ∈ scopeGuests x.cluster.guest x.node x.storage.shared,
          x.storage.storageId ++ ":" ++ relativePart volid ∉ g.diskReferences) ∧
    ∀ cands : List CandidateScope, cands.Perm (usageScope health inst c d node).candidates →
      (usageDecision { usageScope health inst c d node with candidates := cands } volid).permitsDestructiveAction
        = (usageDecision (usageScope health inst c d node) volid).permitsDestructiveAction := by
  refine ⟨?_, fun cands hp => permits_perm hp volid⟩
  intro h
  obtain ⟨hcomplete, hrefs, hcands⟩ := usageDecision_checked h
  refine ⟨hcomplete, fun g hg => ⟨fun hs hr => ?_, fun he r hr => ?_⟩, hcands⟩
  · exact (hrefs g hg volid hr hs).2 rfl
  · by_contra hs
    exact (hrefs g hg r hr (by simpa using hs)).1 he

end scopes

/-- A node-local pool, listed completely and empty. -/
def thinPool : ClusterStorage where
  storageId := "local-lvm"
  storageType := "lvmthin"
  content := ["images"]
  shared := false
  nodes := []
  disabled := false
  config := []
  present := true
  observedMetadataGeneration := 0
  nodeStates := ⟨[⟨"pve1", true, true, true, false, 0⟩], by decide⟩
  coverages := ⟨[{ node := some "pve1", scope := .node, volumeGeneration := some 1, basedOnMetadataGeneration := some 0,
                   complete := true }], by decide⟩
  observations := .empty
  mountBindings := .empty

/-- One node with the pool, and a guest whose disk is on another storage. -/
def thinCluster : StorageCluster where
  guest :=
    { pk := 1, key := "lab", enrollmentContractVersion := 0, enrollmentGeneration := 0, enrollments := .empty,
      endpoints := [],
      guests := ⟨[{ objectType := .vm, vmid := 100, node := "pve1", status := "running",
                    diskReferences := ["nas:100/vm-100-disk-0.qcow2"], observedAt := 0 }], by decide⟩,
      inventoryState := none }
  catalog :=
    { state := some { metadataGeneration := some 0, metadataComplete := true },
      storages := ⟨[thinPool], by decide⟩, nextGeneration := 2 }
  members := []

def thinInstallation : Installation := { clusters := ⟨[thinCluster], by decide⟩, mounts := .empty }

def noMounts : Nat → StorageBackendProfile → MountHealth := fun _ _ => ⟨false, false, "Mount path is unavailable."⟩

/-- A volume the pool does not have is unreferenced, and indeed no guest lists it. -/
theorem thin_usage_decision_sound :
    (usageDecision (usageScope noMounts thinInstallation thinCluster thinPool "pve1") "local-lvm:vm-100-disk-1").state
      = .unreferenced ∧
    ∀ g ∈ scopeGuests thinCluster.guest "pve1" false, "local-lvm:vm-100-disk-1" ∉ g.diskReferences := by
  have h := (usage_decision_sound noMounts thinInstallation thinCluster thinPool "pve1" "local-lvm:vm-100-disk-1").1 rfl
  exact ⟨rfl, fun g hg => (h.2.1 g hg).1 rfl⟩

/-- Asked about a volume of another storage, the pool's decision is UNREFERENCED
although a running guest of the node lists it: a storage's references are
indexed under its own name. -/
theorem foreign_volid_unreferenced : ¬ ∀ (health : Nat → StorageBackendProfile → MountHealth) (inst : Installation)
    (c : StorageCluster) (d : ClusterStorage) (node volid : String),
    (usageDecision (usageScope health inst c d node) volid).state = .unreferenced →
      ∀ g ∈ scopeGuests c.guest node d.shared, volid ∉ g.diskReferences := by
  intro h
  refine h noMounts thinInstallation thinCluster thinPool "pve1" "nas:100/vm-100-disk-0.qcow2" rfl _
    (List.mem_singleton.mpr rfl) ?_
  decide

end PveHelper.Storage
