/-
`reconcile_scan_guest_inventory` of one installation-wide scan: what the scan
read is grouped by the cluster its endpoints belong to, and each attempted
cluster is reconciled against its own observations and node coverage only. A
row is retired for want of an observation on a node that was read, never for
want of an answer.
-/
import PveHelper.Guests.Inventory

namespace PveHelper.Guests

open Lib

/-- `ProxmoxInventory.ObjectType`. -/
inductive InventoryType
  | vm | ct | storage | node
deriving DecidableEq, Repr

/-- Whether the type is one of `GUEST_TYPES`, and which. -/
def InventoryType.guest : InventoryType → Option ObjectType
  | .vm => some .vm
  | .ct => some .ct
  | .storage => none
  | .node => none

/-- `ProxmoxObject`. -/
structure ProxmoxObject where
  node : String
  objectType : InventoryType
  vmid : Option Nat
  status : String
  config : Config
  diskReferences : List String

/-- The guest an object is, if it is one. -/
def ProxmoxObject.guestKey (o : ProxmoxObject) : Option GuestKey :=
  match o.objectType.guest, o.vmid with
  | some t, some vmid => some (t, vmid)
  | _, _ => none

/-- A `ProxmoxEndpoint` of a scan, with its cluster's id and the cluster object
it was loaded with. -/
structure ScanEndpoint where
  pk : Nat
  name : String
  clusterId : Option Nat
  cluster : ClusterCopy

/-- `ScanGuestObservation`. -/
structure ScanGuestObservation where
  endpoint : ScanEndpoint
  guest : ProxmoxObject

/-- What a scan hands to the reconcile; a cluster missing from a mapping has no node in it. -/
structure ScanInventory where
  scan : Nat
  observations : List ScanGuestObservation
  attemptedEndpoints : List ScanEndpoint
  successfulEndpoints : List ScanEndpoint
  attemptedNodes : Nat → List String
  coveredNodes : Nat → List String
  observedAt : Time

/-- The set of clusters with an attempted endpoint. -/
def ScanInventory.clusterIds (s : ScanInventory) : List Nat := (s.attemptedEndpoints.filterMap (·.clusterId)).dedup

/-- An observation of a guest, as it is stored. -/
def ScanGuestObservation.scanGuest (o : ScanGuestObservation) : Option ScanGuest :=
  o.guest.guestKey.map fun key =>
    { objectType := key.1
      vmid := key.2
      node := o.guest.node
      status := o.guest.status
      config := o.guest.config
      diskReferences := o.guest.diskReferences
      endpoint := o.endpoint.pk }

def inCluster (pk : Nat) (e : ScanEndpoint) : Bool := decide (e.clusterId = some pk)

/-- The scan's answer for one attempted cluster; its object is the first endpoint's. -/
def ScanInventory.clusterScan (s : ScanInventory) (pk : Nat) : ClusterScan :=
  let attempted := s.attemptedEndpoints.filter (inCluster pk)
  { scan := s.scan
    copy := (attempted.head?.map (·.cluster)).getD ⟨0, 0⟩
    observations := (s.observations.filter fun o => inCluster pk o.endpoint).filterMap (·.scanGuest)
    attemptedEndpoints := attempted.map (·.name)
    succeededEndpoints := (s.successfulEndpoints.filter (inCluster pk)).map (·.name)
    attemptedNodes := s.attemptedNodes pk
    coveredNodes := s.coveredNodes pk
    observedAt := s.observedAt }

/-- `reconcile_scan_guest_inventory`, the clusters taken in the order in which
their set yields them; nothing when a cluster's row is gone and the transaction
rolls back. -/
def reconcileScanGuestInventory (db : GuestDb) (s : ScanInventory) (order : List Nat) : Option GuestDb :=
  reconcileScans db (order.map fun pk => (pk, s.clusterScan pk))

/-- The scan tried an endpoint of the cluster. -/
def ScanInventory.Attempts (s : ScanInventory) (pk : Nat) : Prop := ∃ e ∈ s.attemptedEndpoints, e.clusterId = some pk

/-- The scan read the guest through an endpoint of the cluster. -/
def ScanInventory.Observes (s : ScanInventory) (pk : Nat) (key : GuestKey) : Prop :=
  ∃ o ∈ s.observations, o.endpoint.clusterId = some pk ∧ o.guest.guestKey = some key

/-- Every node of the cluster the scan tried was read, and no other. -/
def ScanInventory.CoversAll (s : ScanInventory) (pk : Nat) : Prop :=
  s.coveredNodes pk ≠ [] ∧ ∀ n, n ∈ s.attemptedNodes pk ↔ n ∈ s.coveredNodes pk

/-- What a scan may do to a cluster it finds as `c`. -/
structure ScanFrame (s : ScanInventory) (pk : Nat) (c c' : GuestCluster) : Prop where
  deleted : ∀ key row, c.guests.get key = some row → c'.guests.get key = none →
    s.Attempts pk ∧ ¬ s.Observes pk key ∧ (row.node ∈ s.coveredNodes pk ∨ (row.node = "" ∧ s.CoversAll pk))
  untouched : ¬ s.Attempts pk → c' = c
  observed : s.Attempts pk → ∀ key, s.Observes pk key → ∃! row, row ∈ c'.guests.rows ∧ row.key = key
  unreachable : s.attemptedNodes pk ≠ [] → s.coveredNodes pk = [] →
    let old := c.inventoryState.getD {}
    let new := c'.inventoryState.getD {}
    new.refreshedAt = old.refreshedAt ∧ new.lastCompleteAt = old.lastCompleteAt ∧ new.sourceScan = old.sourceScan

theorem ScanInventory.mem_clusterIds {s : ScanInventory} {pk : Nat} : pk ∈ s.clusterIds ↔ s.Attempts pk := by
  simp [ScanInventory.clusterIds, ScanInventory.Attempts]

/-- The observations handed to a cluster's turn are those of its guests. -/
theorem ScanInventory.observes_iff {s : ScanInventory} {pk : Nat} {key : GuestKey} :
    s.Observes pk key ↔ ∃ g ∈ (s.clusterScan pk).observations, (g.objectType, g.vmid) = key := by
  simp only [ScanInventory.Observes, ScanInventory.clusterScan, List.mem_filterMap, List.mem_filter, inCluster,
    decide_eq_true_eq, ScanGuestObservation.scanGuest, Option.map_eq_some_iff]
  constructor
  · intro h
    obtain ⟨o, ho, hc, hk⟩ := h
    exact ⟨_, ⟨o, ⟨ho, hc⟩, key, hk, rfl⟩, rfl⟩
  · intro h
    obtain ⟨g, ⟨o, ⟨ho, hc⟩, k, hk, rfl⟩, rfl⟩ := h
    exact ⟨o, ho, hc, hk⟩

theorem ClusterScan.complete_iff {s : ClusterScan} :
    s.complete = true ↔ s.coveredNodes ≠ [] ∧ ∀ n, n ∈ s.attemptedNodes ↔ n ∈ s.coveredNodes := by
  simp only [ClusterScan.complete, Bool.and_eq_true, Bool.not_eq_true', List.isEmpty_eq_false_iff, List.all_eq_true,
    List.contains_iff_mem]
  constructor
  · intro h
    obtain ⟨⟨hne, hac⟩, hca⟩ := h
    refine ⟨?_, fun n => ⟨hac n, hca n⟩⟩
    intro hnil
    obtain ⟨n, hn⟩ := List.exists_mem_of_ne_nil _ hne
    have := hac n hn
    rw [hnil] at this
    cases this
  · intro h
    obtain ⟨hne, hiff⟩ := h
    refine ⟨⟨?_, fun n hn => (hiff n).mp hn⟩, fun n hn => (hiff n).mpr hn⟩
    intro hnil
    obtain ⟨n, hn⟩ := List.exists_mem_of_ne_nil _ hne
    have := (hiff n).mpr hn
    rw [hnil] at this
    cases this

/-! ## One cluster's turn -/

/-- The row a turn leaves: the last observation's, or the old one if it is kept. -/
theorem reconcileScan_get (c : GuestCluster) (s : ClusterScan) (key : GuestKey) :
    (reconcileScan c s).guests.get key =
      ((s.observations.reverse.find? fun o => decide ((o.objectType, o.vmid) = key)).map
        (·.row (publicationScope c s.copy) s)).or ((c.guests.get key).filter s.keeps) := by
  have h := Table.get_foldl_put (fun o : ScanGuest => o.row (publicationScope c s.copy) s) key s.observations
    (c.guests.keep s.keeps)
  rw [Table.get_keep] at h
  exact h

theorem reconcileScan_observed {c : GuestCluster} {s : ClusterScan} {key : GuestKey}
    (h : ∃ g ∈ s.observations, (g.objectType, g.vmid) = key) :
    ∃ row, (reconcileScan c s).guests.get key = some row := by
  obtain ⟨g, hg, hk⟩ := h
  rw [reconcileScan_get]
  cases hf : s.observations.reverse.find? fun o => decide ((o.objectType, o.vmid) = key) with
  | some o => exact ⟨_, rfl⟩
  | none =>
    rw [List.find?_eq_none] at hf
    exact absurd (decide_eq_true hk) (hf g (List.mem_reverse.mpr hg))

theorem reconcileScan_deleted {c : GuestCluster} {s : ClusterScan} {key : GuestKey} {row : CurrentGuest}
    (hrow : c.guests.get key = some row) (h : (reconcileScan c s).guests.get key = none) :
    (¬ ∃ g ∈ s.observations, (g.objectType, g.vmid) = key) ∧
      (row.node ∈ s.coveredNodes ∨ (row.node = "" ∧ s.complete = true)) := by
  have hunseen : ¬ ∃ g ∈ s.observations, (g.objectType, g.vmid) = key := by
    intro hx
    obtain ⟨row', hr⟩ := reconcileScan_observed (c := c) hx
    rw [hr] at h
    cases h
  refine ⟨hunseen, ?_⟩
  rw [reconcileScan_get, Option.or_eq_none_iff, hrow] at h
  have hkeep : s.keeps row = false := by
    have := h.2
    rw [Option.filter_eq_none_iff] at this
    simpa using this row rfl
  unfold ClusterScan.keeps at hkeep
  simp only [Bool.or_eq_false_iff, Bool.not_eq_false', Bool.or_eq_true, List.contains_iff_mem, Bool.and_eq_true,
    decide_eq_true_eq] at hkeep
  exact hkeep.1.imp id And.symm

theorem reconcileScan_unreachable {c : GuestCluster} {s : ClusterScan} (ha : s.attemptedNodes ≠ [])
    (hc : s.coveredNodes = []) :
    let old := c.inventoryState.getD {}
    let new := (reconcileScan c s).inventoryState.getD {}
    new.refreshedAt = old.refreshedAt ∧ new.lastCompleteAt = old.lastCompleteAt ∧ new.sourceScan = old.sourceScan := by
  have hun : (!s.attemptedNodes.isEmpty && s.coveredNodes.isEmpty) = true := by simp [ha, hc]
  simp only [reconcileScan, updateState, hun, if_true, Option.getD_some, and_self]

/-- A turn stays within the frame of its cluster. -/
theorem reconcileScan_frame {s : ScanInventory} {pk : Nat} {c : GuestCluster} (ha : s.Attempts pk) :
    ScanFrame s pk c (reconcileScan c (s.clusterScan pk)) where
  deleted := by
    intro key row hrow hnone
    obtain ⟨hunseen, hnode⟩ := reconcileScan_deleted hrow hnone
    refine ⟨ha, fun ho => hunseen (ScanInventory.observes_iff.mp ho), ?_⟩
    exact hnode.imp id fun h => ⟨h.1, (ClusterScan.complete_iff (s := s.clusterScan pk)).mp h.2⟩
  untouched := fun hn => absurd ha hn
  observed := by
    intro _ key ho
    obtain ⟨row, hrow⟩ := reconcileScan_observed (c := c) (ScanInventory.observes_iff.mp ho)
    refine ⟨row, ⟨Table.mem_of_get hrow, Table.key_of_get hrow⟩, ?_⟩
    intro row' hrow'
    exact Table.eq_of_mem_of_key hrow'.1 (Table.mem_of_get hrow) (hrow'.2.trans (Table.key_of_get hrow).symm)
  unreachable := fun hat hco => reconcileScan_unreachable (s := s.clusterScan pk) hat hco

theorem ScanFrame.same {s : ScanInventory} {pk : Nat} {c : GuestCluster} (ha : ¬ s.Attempts pk) :
    ScanFrame s pk c c where
  deleted := by
    intro key row hrow hnone
    rw [hrow] at hnone
    cases hnone
  untouched := fun _ => rfl
  observed := fun h => absurd h ha
  unreachable := fun _ _ => ⟨rfl, rfl, rfl⟩

/-! ## The whole scan -/

/-- With its clusters there, every turn of the scan is taken, once each. -/
theorem reconcileScans_turns {scans : List (Nat × ClusterScan)} (db : GuestDb) (hn : (scans.map (·.1)).Nodup)
    (hdb : ∀ pk ∈ scans.map (·.1), (db.get pk).isSome) :
    ∃ db', reconcileScans db scans = some db' ∧
      (∀ pk s, (pk, s) ∈ scans → db'.get pk = (db.get pk).map (reconcileScan · s)) ∧
      ∀ pk, pk ∉ scans.map (·.1) → db'.get pk = db.get pk := by
  induction scans generalizing db with
  | nil => exact ⟨db, rfl, by simp, fun _ _ => rfl⟩
  | cons scan scans ih =>
    obtain ⟨pk, s⟩ := scan
    simp only [List.map_cons, List.nodup_cons] at hn
    simp only [List.map_cons, List.mem_cons, forall_eq_or_imp] at hdb
    obtain ⟨c, hc⟩ := Option.isSome_iff_exists.mp hdb.1
    have hkey : c.pk = pk := Table.key_of_get hc
    have hpk : (reconcileScan c s).pk = pk := hkey
    have hget : ∀ k, (db.put (reconcileScan c s)).get k = if k = pk then some (reconcileScan c s) else db.get k := by
      intro k
      rw [Table.get_put, hpk]
    have hrest : ∀ k ∈ scans.map (·.1), ((db.put (reconcileScan c s)).get k).isSome := by
      intro k hk
      rw [hget]
      split
      · rfl
      · exact hdb.2 k hk
    obtain ⟨db', hdb', hturns, hothers⟩ := ih _ hn.2 hrest
    refine ⟨db', ?_, ?_, ?_⟩
    · simp only [reconcileScans, onCluster, hc, Option.bind_some, Option.map_some]
      exact hdb'
    · intro k s' hk
      rcases List.mem_cons.mp hk with he | hk
      · obtain ⟨rfl, rfl⟩ := Prod.mk.inj he
        rw [hothers k hn.1, hget, if_pos rfl, hc, Option.map_some]
      · have hne : k ≠ pk := by
          intro he
          exact hn.1 (he ▸ List.mem_map.mpr ⟨_, hk, rfl⟩)
        rw [hturns k s' hk, hget, if_neg hne]
    · intro k hk
      simp only [List.map_cons, List.mem_cons, not_or] at hk
      rw [hothers k hk.2, hget, if_neg hk.1]

/-- The reconcile gives each cluster the scan attempted its turn, and leaves the others alone. -/
theorem reconcileScanGuestInventory_turns (db : GuestDb) {s : ScanInventory} {order : List Nat}
    (horder : order.Perm s.clusterIds)
    (hdb : ∀ e ∈ s.attemptedEndpoints, ∀ pk, e.clusterId = some pk → (db.get pk).isSome) :
    ∃ db', reconcileScanGuestInventory db s order = some db' ∧
      (∀ pk, s.Attempts pk → db'.get pk = (db.get pk).map (reconcileScan · (s.clusterScan pk))) ∧
      ∀ pk, ¬ s.Attempts pk → db'.get pk = db.get pk := by
  have hkeys : ((order.map fun pk => (pk, s.clusterScan pk)).map (·.1)) = order := by simp [Function.comp_def]
  have hmem : ∀ pk, pk ∈ order ↔ s.Attempts pk := fun pk => horder.mem_iff.trans ScanInventory.mem_clusterIds
  have hn : ((order.map fun pk => (pk, s.clusterScan pk)).map (·.1)).Nodup := by
    rw [hkeys]
    exact horder.nodup_iff.mpr (List.nodup_dedup _)
  obtain ⟨db', hdb', hturns, hothers⟩ := reconcileScans_turns db hn (by
    intro pk hpk
    rw [hkeys, hmem] at hpk
    obtain ⟨e, he, hepk⟩ := hpk
    exact hdb e he pk hepk)
  refine ⟨db', hdb', ?_, ?_⟩
  · exact fun pk ha => hturns pk (s.clusterScan pk) (List.mem_map.mpr ⟨pk, (hmem pk).mpr ha, rfl⟩)
  · exact fun pk ha => hothers pk (by rw [hkeys, hmem]; exact ha)

/-- **A scan never claims a false absence.** Every cluster comes out within its
frame, whatever the scan tried, read and failed to read. -/
theorem scan_reconcile_frame (db : GuestDb) (s : ScanInventory) (order : List Nat) (horder : order.Perm s.clusterIds)
    (hdb : ∀ e ∈ s.attemptedEndpoints, ∀ pk, e.clusterId = some pk → (db.get pk).isSome) :
    ∃ db', reconcileScanGuestInventory db s order = some db' ∧
      ∀ pk, (db.get pk = none ∧ db'.get pk = none) ∨
        ∃ c c', db.get pk = some c ∧ db'.get pk = some c' ∧ ScanFrame s pk c c' := by
  obtain ⟨db', hdb', hturns, hothers⟩ := reconcileScanGuestInventory_turns db horder hdb
  refine ⟨db', hdb', fun pk => ?_⟩
  by_cases ha : s.Attempts pk
  · have hget := hturns pk ha
    cases hc : db.get pk with
    | none => exact .inl ⟨rfl, by rw [hget, hc]; rfl⟩
    | some c => exact .inr ⟨c, _, rfl, by rw [hget, hc]; rfl, reconcileScan_frame ha⟩
  · have hget := hothers pk ha
    cases hc : db.get pk with
    | none => exact .inl ⟨rfl, hget.trans hc⟩
    | some c => exact .inr ⟨c, c, rfl, hget.trans hc, .same ha⟩

/-- One cluster with a guest on each of its two nodes and one on neither. -/
def twoNodeCluster : GuestCluster where
  pk := 1
  key := "lab"
  enrollmentContractVersion := 1
  enrollmentGeneration := 1
  enrollments := ⟨[⟨"pve1", .managed⟩, ⟨"pve2", .managed⟩], by decide⟩
  endpoints := []
  guests := ⟨[{ objectType := .vm, vmid := 100, node := "pve1", observedAt := 0 },
    { objectType := .vm, vmid := 101, node := "pve2", observedAt := 0 },
    { objectType := .ct, vmid := 102, node := "", observedAt := 0 }], by decide⟩
  inventoryState := none

/-- A scan that tried both nodes and read the first, where it found a new guest. -/
def halfRead : ScanInventory where
  scan := 7
  observations := [⟨⟨1, "pve1", some 1, ⟨1, 1⟩⟩, ⟨"pve1", .vm, some 103, "running", [], []⟩⟩]
  attemptedEndpoints := [⟨1, "pve1", some 1, ⟨1, 1⟩⟩, ⟨2, "pve2", some 1, ⟨1, 1⟩⟩]
  successfulEndpoints := [⟨1, "pve1", some 1, ⟨1, 1⟩⟩]
  attemptedNodes := fun pk => if pk = 1 then ["pve1", "pve2"] else []
  coveredNodes := fun pk => if pk = 1 then ["pve1"] else []
  observedAt := 50

def twoNodeDb : GuestDb := ⟨[twoNodeCluster], by decide⟩

theorem halfRead_reconcile_frame :
    ∃ db', reconcileScanGuestInventory twoNodeDb halfRead [1] = some db' ∧
      ∀ pk, (twoNodeDb.get pk = none ∧ db'.get pk = none) ∨
        ∃ c c', twoNodeDb.get pk = some c ∧ db'.get pk = some c' ∧ ScanFrame halfRead pk c c' := by
  refine scan_reconcile_frame twoNodeDb halfRead [1] (by decide) ?_
  intro e he pk hpk
  simp only [halfRead, List.mem_cons, List.not_mem_nil, or_false] at he
  rcases he with rfl | rfl <;> cases hpk <;> rfl

/-- Only the unseen guest of the node that was read is gone. -/
example : (reconcileScan twoNodeCluster (halfRead.clusterScan 1)).guests.rows.map (·.vmid) = [101, 102, 103] := by
  decide

end PveHelper.Guests
