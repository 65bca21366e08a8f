/-
The evidence gate of a scan, after `_storage_gate_status` of `core/tasks.py`,
with its readers: the classification loop of the same scan and, later, the
risk of a file action. Coverage is matched on the cluster and the node; what is
stored is bare node names, under the storage id of the mount, which mounts may
share.

The consumer rows' own status columns are left out: only pages read them.
-/
import PveHelper.Files.Risk

namespace PveHelper.Scans

open Lib Guests Storage Files

/-- `ProxmoxStorageConsumer`. A name that `NodeRef` refuses would end the scan. -/
structure Consumer where
  cluster : Nat
  clusterKey : String
  expectedNodeName : String
  named : expectedNodeName ≠ "" ∧ ':' ∉ expectedNodeName.toList

/-- A mount has one consumer row per cluster and node. -/
def Consumer.node (c : Consumer) : Nat × String := (c.cluster, c.expectedNodeName)

/-- `NodeRef.serialize`. -/
def Consumer.ref (c : Consumer) : String := "nr1:" ++ c.clusterKey ++ ":" ++ c.expectedNodeName

/-- `StorageMount` with the consumers it expects and their rows. -/
structure GatedMount where
  mount : StorageMount
  expectedConsumers : List String
  consumers : Table Consumer.node

/-- The nodes a scan read, each with its cluster. -/
abbrev Coverage := List (Nat × String)

/-- One storage's entry in `storage_gate_status`. -/
structure ConsumerGate extends GateStatus where
  status : String
  expectedConsumers : List String
  inventoriedConsumers : List String
  expectedNodeRefs : List String
  missingNodeRefs : List String

/-- `sorted(...)` of texts. -/
def sorted (texts : List String) : List String := texts.insertionSort (· ≤ ·)

/-- The consumer rows the mount expects. -/
def GatedMount.expected (m : GatedMount) : List Consumer :=
  m.consumers.rows.filter fun c => m.expectedConsumers.contains c.expectedNodeName

def Consumer.covered (coverage : Coverage) (c : Consumer) : Bool := coverage.contains c.node

/-- The expectations without a consumer row. -/
def GatedMount.unqualified (m : GatedMount) : List String :=
  sortedSet (m.expectedConsumers.filter fun n => !m.consumers.rows.any fun c => c.expectedNodeName == n)

/-- The names of the expected consumers nobody read. -/
def GatedMount.missing (coverage : Coverage) (m : GatedMount) : List String :=
  (m.expected.filter fun c => !c.covered coverage).map (·.expectedNodeName) ++ m.unqualified

/-- One mount's turn in `_storage_gate_status`. -/
def GatedMount.gate (coverage : Coverage) (m : GatedMount) : ConsumerGate :=
  let uncovered := m.expected.filter fun c => !c.covered coverage
  let missing := m.missing coverage
  { ok := missing.isEmpty
    missingConsumers := sorted missing
    status := if missing.isEmpty then "complete" else "inventory incomplete"
    expectedConsumers := sortedSet m.expectedConsumers
    inventoriedConsumers := sorted ((m.expected.filter (·.covered coverage)).map (·.expectedNodeName))
    expectedNodeRefs := sorted (m.expected.map (·.ref))
    missingNodeRefs := sorted (uncovered.map (·.ref) ++ m.unqualified) }

/-- A dictionary of gates by storage id. -/
abbrev Gates := Table (Prod.fst : String × ConsumerGate → String)

/-- `_storage_gate_status`. -/
def storageGateStatus (storages : List GatedMount) (coverage : Coverage) : Gates :=
  storages.foldl (fun gates m => gates.put (m.mount.storageId, m.gate coverage)) Table.empty

/-- What the classification loop reads for a mount: `gate_ok` and `missing_consumers`. -/
def appliedGate (gates : Gates) (m : StorageMount) : Bool × List String :=
  match gates.get m.storageId with
  | none => (false, [])
  | some g => (g.2.ok, g.2.missingConsumers)

/-- The dictionary as the scan row stores it. -/
def Gates.stored (gates : Gates) : List (String × GateStatus) := gates.rows.map fun g => (g.1, g.2.toGateStatus)

/-! ## Lookups -/

theorem sorted_eq_iff {xs ys : List String} : sorted xs = sorted ys ↔ xs.Perm ys := by
  constructor
  · intro h
    have hx : (sorted xs).Perm xs := List.perm_insertionSort (· ≤ ·) xs
    have hy : (sorted ys).Perm ys := List.perm_insertionSort (· ≤ ·) ys
    exact hx.symm.trans (h ▸ hy)
  · intro h
    refine List.Perm.eq_of_pairwise' (List.pairwise_insertionSort _ _) (List.pairwise_insertionSort _ _) ?_
    exact ((List.perm_insertionSort _ _).trans h).trans (List.perm_insertionSort _ _).symm

/-- The mount whose gate stands under a mount's storage id: the last with the id. -/
def gateMount (storages : List GatedMount) (m : GatedMount) : GatedMount :=
  (storages.reverse.find? fun x => decide (x.mount.storageId = m.mount.storageId)).getD m

section
variable {storages : List GatedMount} {m : GatedMount} (hm : m ∈ storages)
include hm

theorem find?_gateMount : (storages.reverse.find? fun x => decide (x.mount.storageId = m.mount.storageId))
    = some (gateMount storages m) := by
  unfold gateMount
  cases hf : storages.reverse.find? fun x => decide (x.mount.storageId = m.mount.storageId) with
  | none =>
    rw [List.find?_eq_none] at hf
    exact absurd (decide_eq_true rfl) (hf m (List.mem_reverse.mpr hm))
  | some last => rfl

theorem gateMount_mem : gateMount storages m ∈ storages :=
  List.mem_reverse.mp (List.mem_of_find?_eq_some (find?_gateMount hm))

theorem gateMount_id : (gateMount storages m).mount.storageId = m.mount.storageId := by
  simpa using List.find?_some (find?_gateMount hm)

theorem storageGateStatus_get (coverage : Coverage) :
    (storageGateStatus storages coverage).get m.mount.storageId
      = some (m.mount.storageId, (gateMount storages m).gate coverage) := by
  unfold storageGateStatus
  rw [Table.get_foldl_put (fun m : GatedMount => (m.mount.storageId, m.gate coverage)), find?_gateMount hm]
  simp [gateMount_id hm]

end

theorem Gates.find?_stored (gates : Gates) (id : String) :
    (gates.stored.find? fun s => s.1 == id).map (·.2) = (gates.get id).map (·.2.toGateStatus) := by
  unfold Gates.stored Table.get
  rw [List.find?_map, Option.map_map]
  rfl

/-- A file entry reads the gate stored under its mount's id. -/
theorem unverifiedConsumers_stored {e : FileEntry} {gates : Gates} (h : e.storageGateStatus = gates.stored)
    {g : ConsumerGate} (hg : gates.get e.storage.storageId = some (e.storage.storageId, g)) :
    unverifiedConsumers e = if g.ok then [] else g.missingConsumers.filter (· != "") := by
  unfold unverifiedConsumers
  rw [h, Gates.find?_stored, hg]
  rfl

/-! ## Whose verdict -/

/-- Both readers of the scan's gates see, for this mount, its own verdict. -/
def Judged (storages : List GatedMount) (coverage : Coverage) (m : GatedMount) : Prop :=
  appliedGate (storageGateStatus storages coverage) m.mount = ((m.gate coverage).ok, (m.gate coverage).missingConsumers) ∧
    ∀ e : FileEntry, e.storage = m.mount → e.storageGateStatus = (storageGateStatus storages coverage).stored →
      unverifiedConsumers e =
        unverifiedConsumers { e with storageGateStatus := [(m.mount.storageId, (m.gate coverage).toGateStatus)] }

/-- The verdict is determined by who is missing. -/
theorem GatedMount.verdict_eq_iff {coverage : Coverage} {m m' : GatedMount} :
    ((m.gate coverage).ok, (m.gate coverage).missingConsumers) =
      ((m'.gate coverage).ok, (m'.gate coverage).missingConsumers) ↔ (m.missing coverage).Perm (m'.missing coverage) := by
  simp only [GatedMount.gate, Prod.mk.injEq, sorted_eq_iff]
  refine ⟨And.right, fun h => ⟨?_, h⟩⟩
  rw [Bool.eq_iff_iff, List.isEmpty_iff, List.isEmpty_iff]
  constructor
  · intro hnil
    exact List.nil_perm.mp (hnil ▸ h)
  · intro hnil
    exact List.perm_nil.mp (hnil ▸ h)

theorem GatedMount.mem_missing {coverage : Coverage} {m : GatedMount} {n : String} :
    n ∈ m.missing coverage ↔ n ∈ m.expectedConsumers ∧
      ((∃ c ∈ m.consumers.rows, c.expectedNodeName = n ∧ (c.cluster, n) ∉ coverage) ∨
        ∀ c ∈ m.consumers.rows, c.expectedNodeName ≠ n) := by
  unfold GatedMount.missing GatedMount.unqualified GatedMount.expected Consumer.covered Consumer.node
  simp only [List.mem_append, List.mem_map, List.mem_filter, mem_sortedSet, List.contains_iff_mem, Bool.not_eq_true',
    List.any_eq_false, beq_iff_eq]
  constructor
  · intro h
    rcases h with ⟨c, ⟨⟨hc, he⟩, hcov⟩, rfl⟩ | ⟨he, hnone⟩
    · exact ⟨he, .inl ⟨c, hc, rfl, by simpa using hcov⟩⟩
    · exact ⟨he, .inr hnone⟩
  · intro h
    obtain ⟨he, ⟨c, hc, rfl, hcov⟩ | hnone⟩ := h
    · exact .inl ⟨c, ⟨⟨hc, he⟩, by simpa using hcov⟩, rfl⟩
    · exact .inr ⟨he, hnone⟩

/-- How often the mount misses a name it expects: once for each consumer row of
the name that was not read, and once if there is no such row at all. -/
def GatedMount.misses (coverage : Coverage) (m : GatedMount) (n : String) : Nat :=
  if m.expectedConsumers.contains n then
    if m.consumers.rows.any fun c => c.expectedNodeName == n then
      m.consumers.rows.countP fun c => c.expectedNodeName == n && !coverage.contains (c.cluster, n)
    else 1
  else 0

theorem GatedMount.count_uncovered {coverage : Coverage} {m : GatedMount} {n : String} (hn : n ∈ m.expectedConsumers) :
    ((m.expected.filter fun c => !c.covered coverage).map (·.expectedNodeName)).count n =
      m.consumers.rows.countP fun c => c.expectedNodeName == n && !coverage.contains (c.cluster, n) := by
  rw [List.count_eq_countP, List.countP_map, List.countP_filter, GatedMount.expected, List.countP_filter]
  refine List.countP_congr fun c _ => ?_
  simp only [Function.comp_apply, Bool.and_eq_true, beq_iff_eq, List.contains_iff_mem, Consumer.covered, Consumer.node]
  constructor
  · intro h
    obtain ⟨⟨rfl, hcov⟩, -⟩ := h
    exact ⟨rfl, hcov⟩
  · intro h
    obtain ⟨rfl, hcov⟩ := h
    exact ⟨⟨rfl, hcov⟩, hn⟩

theorem GatedMount.count_unqualified {m : GatedMount} {n : String} (hn : n ∈ m.expectedConsumers) :
    m.unqualified.count n = if m.consumers.rows.any fun c => c.expectedNodeName == n then 0 else 1 := by
  unfold GatedMount.unqualified sortedSet
  rw [(List.perm_insertionSort _ _).count_eq, List.count_dedup]
  by_cases hrow : (m.consumers.rows.any fun c => c.expectedNodeName == n) = true
  · rw [if_pos hrow, if_neg]
    simp [List.mem_filter, hrow]
  · rw [if_neg hrow, if_pos]
    simp [List.mem_filter, hn, Bool.eq_false_iff.mpr hrow]

theorem GatedMount.count_missing {coverage : Coverage} {m : GatedMount} {n : String} :
    (m.missing coverage).count n = m.misses coverage n := by
  unfold GatedMount.misses
  by_cases hn : n ∈ m.expectedConsumers
  · rw [if_pos (List.contains_iff_mem.mpr hn), GatedMount.missing, List.count_append, GatedMount.count_uncovered hn,
      GatedMount.count_unqualified hn]
    by_cases hrow : (m.consumers.rows.any fun c => c.expectedNodeName == n) = true
    · rw [if_pos hrow, if_pos hrow, Nat.add_zero]
    · rw [if_neg hrow, if_neg hrow, List.countP_eq_zero.mpr]
      intro c hc hname
      exact hrow (List.any_eq_true.mpr ⟨c, hc, (Bool.and_eq_true_iff.mp hname).1⟩)
  · have hnot : ¬ m.expectedConsumers.contains n = true := fun h => hn (List.contains_iff_mem.mp h)
    rw [if_neg hnot, List.count_eq_zero, GatedMount.mem_missing]
    exact fun h => hn h.1

/-- A mount is judged by its own gate exactly when the last mount with its id misses the same consumers. -/
theorem judged_iff {storages : List GatedMount} {coverage : Coverage} {m last : GatedMount}
    (hget : (storageGateStatus storages coverage).get m.mount.storageId = some (m.mount.storageId, last.gate coverage)) :
    Judged storages coverage m ↔ (last.missing coverage).Perm (m.missing coverage) := by
  have happlied : appliedGate (storageGateStatus storages coverage) m.mount =
      ((last.gate coverage).ok, (last.gate coverage).missingConsumers) := by
    unfold appliedGate
    rw [hget]
  unfold Judged
  rw [happlied, GatedMount.verdict_eq_iff]
  refine ⟨And.left, fun h => ⟨h, ?_⟩⟩
  intro e he hgates
  obtain ⟨hok, hmissing⟩ := Prod.mk.inj (GatedMount.verdict_eq_iff.mpr h)
  rw [unverifiedConsumers_stored hgates (by rw [he]; exact hget), hok, hmissing]
  simp [unverifiedConsumers, he]

/-- **Every mount is judged by its own gate exactly when, of mounts that share
a storage id, each misses every node name as often as the other.** -/
theorem mounts_judged_by_own_gate_iff (storages : List GatedMount) (coverage : Coverage) :
    (∀ m ∈ storages, Judged storages coverage m) ↔
      ∀ m ∈ storages, ∀ m' ∈ storages, m.mount.storageId = m'.mount.storageId →
        ∀ n, m.misses coverage n = m'.misses coverage n := by
  constructor
  · intro h m hm m' hm' hid n
    have hget := storageGateStatus_get hm coverage
    have hown := (judged_iff hget).mp (h m hm)
    rw [hid] at hget
    rw [← GatedMount.count_missing, ← GatedMount.count_missing]
    exact (hown.symm.trans ((judged_iff hget).mp (h m' hm'))).count_eq n
  · intro h m hm
    refine (judged_iff (storageGateStatus_get hm coverage)).mpr (List.perm_iff_count.mpr fun n => ?_)
    rw [GatedMount.count_missing, GatedMount.count_missing]
    exact h _ (gateMount_mem hm) m hm (gateMount_id hm) n

/-- Two mounts under one storage id: the node of the first was read, that of the second was not. -/
def sharedId : List GatedMount :=
  [⟨⟨1, "local", "nas:/a"⟩, ["pve1"], ⟨[⟨1, "alpha", "pve1", by decide⟩], by decide⟩⟩,
    ⟨⟨2, "local", "nas:/b"⟩, ["pve2"], ⟨[⟨1, "alpha", "pve2", by decide⟩], by decide⟩⟩]

/-- The first mount's files are judged by the second mount's gate. -/
theorem mount_judged_by_another : ¬ ∀ storages coverage, ∀ m ∈ storages, Judged storages coverage m := by
  intro h
  have hfirst := (h sharedId [(1, "pve1")] _ (List.mem_cons_self ..)).1
  revert hfirst
  decide +kernel

/-! ## Whose node -/

/-- The running-guest check refuses on account of this guest. -/
def BlocksOn (confirmedReason unconfirmedReason : String) (objects : List ReferencedObject) (unverified : List String)
    (o : ReferencedObject) : Prop :=
  ∃ risk, runningGuestRisk objects unverified confirmedReason unconfirmedReason = some risk ∧ risk.blocked = true ∧
    o ∈ risk.referencedObjects

/-- Over any two coverages that agree on the cluster's node, the check blocks
on the cluster's guests there the same. -/
def ClusterQualified (storages : List GatedMount) (m : GatedMount) (b : GuestCluster) (n : String) : Prop :=
  ∀ coverage coverage' : Coverage, ((b.pk, n) ∈ coverage ↔ (b.pk, n) ∈ coverage') →
    ∀ e e' : FileEntry, e.storage = m.mount → e'.storage = m.mount →
      e.storageGateStatus = (storageGateStatus storages coverage).stored →
      e'.storageGateStatus = (storageGateStatus storages coverage').stored →
      ∀ (confirmed unconfirmed : String) (objects : List ReferencedObject), ∀ o ∈ objects,
        o.clusterKey = b.key → o.node = n →
        (BlocksOn confirmed unconfirmed objects (unverifiedConsumers e) o ↔
          BlocksOn confirmed unconfirmed objects (unverifiedConsumers e') o)

theorem blocksOn_iff {confirmed unconfirmed : String} {objects : List ReferencedObject} {unverified : List String}
    {o : ReferencedObject} (ho : o ∈ objects) :
    BlocksOn confirmed unconfirmed objects unverified o ↔ ¬ (o.node ≠ "" ∧ o.node ∈ unverified) := by
  have hside : o.unconfirmed unverified = true ↔ o.node ≠ "" ∧ o.node ∈ unverified := by
    simp [ReferencedObject.unconfirmed]
  rw [← hside]
  unfold BlocksOn runningGuestRisk
  constructor
  · intro h
    obtain ⟨risk, hrisk, hblocked, hin⟩ := h
    simp only at hrisk
    split at hrisk
    · obtain rfl := Option.some.inj hrisk
      simpa using (List.mem_filter.mp hin).2
    · split at hrisk
      · obtain rfl := Option.some.inj hrisk
        cases hblocked
      · cases hrisk
  · intro h
    have hin : o ∈ objects.filter fun o => !o.unconfirmed unverified := List.mem_filter.mpr ⟨ho, by simpa using h⟩
    have hne : (!(objects.filter fun o => !o.unconfirmed unverified).isEmpty) = true := by
      simpa using List.ne_nil_of_mem hin
    rw [if_pos hne]
    exact ⟨_, rfl, rfl, hin⟩

/-- The nodes an entry of the mount names as not asked. -/
theorem mem_unverifiedConsumers {storages : List GatedMount} {m : GatedMount} (hm : m ∈ storages) {coverage : Coverage}
    {e : FileEntry} (he : e.storage = m.mount)
    (hgates : e.storageGateStatus = (storageGateStatus storages coverage).stored) {n : String} :
    n ∈ unverifiedConsumers e ↔ n ≠ "" ∧ n ∈ (gateMount storages m).missing coverage := by
  have hget := storageGateStatus_get hm coverage
  generalize gateMount storages m = last at hget ⊢
  rw [unverifiedConsumers_stored hgates (by rw [he]; exact hget)]
  by_cases hnil : (last.missing coverage).isEmpty = true
  · have hok : (last.gate coverage).ok = true := hnil
    rw [if_pos hok]
    simp [List.isEmpty_iff.mp hnil]
  · have hok : ¬ (last.gate coverage).ok = true := hnil
    rw [if_neg hok]
    simp [GatedMount.gate, sorted, and_comm]

/-- **The gate's evidence is qualified by cluster exactly when no other
cluster's consumer of the gate's mount has the expected node's name.** -/
theorem gate_cluster_qualified_iff {storages : List GatedMount} {m : GatedMount} (hm : m ∈ storages) (b : GuestCluster)
    (n : String) :
    ClusterQualified storages m b n ↔
      n = "" ∨ n ∉ (gateMount storages m).expectedConsumers ∨
        ∀ c ∈ (gateMount storages m).consumers.rows, c.expectedNodeName = n → c.cluster = b.pk := by
  constructor
  · intro h
    by_contra hcond
    simp only [not_or, not_not, not_forall] at hcond
    obtain ⟨hne, hexp, a, ha, hname, hcluster⟩ := hcond
    -- Every consumer read, and every consumer but the namesake of the other cluster.
    let full : Coverage := (gateMount storages m).consumers.rows.map (·.node) ++ [(b.pk, n)]
    let less : Coverage := full.filter fun x => decide (x ≠ (a.cluster, n))
    have hb : (b.pk, n) ≠ (a.cluster, n) := fun he => hcluster (Prod.mk.inj he).1.symm
    have hfull : (b.pk, n) ∈ full := List.mem_append_right _ (List.mem_singleton.mpr rfl)
    have hless : (b.pk, n) ∈ less := List.mem_filter.mpr ⟨hfull, decide_eq_true hb⟩
    let entry (coverage : Coverage) : FileEntry :=
      ⟨m.mount, "", "", "", .file, .unknown, (storageGateStatus storages coverage).stored⟩
    let guest : ReferencedObject := ⟨b.key, .vm, 100, n, "running"⟩
    have hsame := h full less (iff_of_true hfull hless) (entry full) (entry less) rfl rfl rfl rfl "" "" [guest] guest
      (List.mem_singleton.mpr rfl) rfl rfl
    rw [blocksOn_iff (List.mem_singleton.mpr rfl), blocksOn_iff (List.mem_singleton.mpr rfl),
      mem_unverifiedConsumers hm (e := entry full) rfl rfl,
      mem_unverifiedConsumers hm (e := entry less) rfl rfl] at hsame
    have hseen : n ∉ (gateMount storages m).missing full := by
      intro hin
      rw [GatedMount.mem_missing] at hin
      obtain ⟨-, ⟨c, hc, hcn, hcov⟩ | hnone⟩ := hin
      · refine hcov (List.mem_append_left _ (List.mem_map.mpr ⟨c, hc, ?_⟩))
        rw [Consumer.node, hcn]
      · exact hnone a ha hname
    have hunseen : n ∈ (gateMount storages m).missing less := by
      rw [GatedMount.mem_missing]
      refine ⟨hexp, .inl ⟨a, ha, hname, fun hin => ?_⟩⟩
      exact of_decide_eq_true (List.mem_filter.mp hin).2 rfl
    have hblocks := hsame.mp fun hx => hseen hx.2.2
    exact hblocks ⟨hne, hne, hunseen⟩
  · intro hcond coverage coverage' hagree e e' he he' hg hg' confirmed unconfirmed objects o ho _ hnode
    subst hnode
    rw [blocksOn_iff ho, blocksOn_iff ho, mem_unverifiedConsumers hm he hg, mem_unverifiedConsumers hm he' hg']
    rcases hcond with hblank | hunexpected | hnamesake
    · simp [hblank]
    · have hnot : ∀ cov : Coverage, o.node ∉ (gateMount storages m).missing cov :=
        fun cov hin => hunexpected (GatedMount.mem_missing.mp hin).1
      simp [hnot]
    · have hmissing : o.node ∈ (gateMount storages m).missing coverage ↔
          o.node ∈ (gateMount storages m).missing coverage' := by
        rw [GatedMount.mem_missing, GatedMount.mem_missing]
        refine and_congr_right fun _ => or_congr_left ?_
        refine exists_congr fun c => and_congr_right fun hc => and_congr_right fun hcn => ?_
        rw [hnamesake c hc hcn]
        exact not_congr hagree
      rw [hmissing]

def beta : GuestCluster where
  pk := 2
  key := "beta"
  enrollmentContractVersion := 1
  enrollmentGeneration := 1
  enrollments := Table.empty
  endpoints := []
  guests := Table.empty
  inventoryState := none

/-- A mount that a node of each of two clusters consumes. -/
def sharedMount (nodeA nodeB : String) (ha : nodeA ≠ "" ∧ ':' ∉ nodeA.toList) (hb : nodeB ≠ "" ∧ ':' ∉ nodeB.toList) :
    GatedMount :=
  ⟨⟨1, "nfs-vm", "nas:/vm"⟩, [nodeA, nodeB], ⟨[⟨1, "alpha", nodeA, ha⟩, ⟨2, "beta", nodeB, hb⟩], by simp [Consumer.node]⟩⟩

/-- Distinct node names keep the clusters apart. -/
theorem distinct_names_cluster_qualified :
    ClusterQualified [sharedMount "pve1" "pve2" (by decide) (by decide)]
      (sharedMount "pve1" "pve2" (by decide) (by decide)) beta "pve2" := by
  refine (gate_cluster_qualified_iff (List.mem_singleton.mpr rfl) beta "pve2").mpr (.inr (.inr ?_))
  intro c hc hname
  simp only [gateMount, sharedMount, List.reverse_singleton, List.find?_singleton, decide_true, if_true,
    Option.getD_some, List.mem_cons, List.not_mem_nil, or_false] at hc
  rcases hc with rfl | rfl
  · exact absurd hname (by decide)
  · rfl

/-- Both clusters call their node `pve1`. -/
def namesakes : GatedMount := sharedMount "pve1" "pve1" (by decide) (by decide)

def namesakeEntry (coverage : Coverage) : FileEntry :=
  ⟨namesakes.mount, "images/100/vm-100-disk-0.raw", "", "vm_disk", .file, .referenced,
    (storageGateStatus [namesakes] coverage).stored⟩

/-- The second cluster's guest runs on a node that was read; whether it blocks turns on the first cluster's node. -/
theorem namesake_turns_block_into_warning :
    ¬ ∀ storages (m : GatedMount) b n, m ∈ storages → ClusterQualified storages m b n := by
  intro h
  have hq := h [namesakes] namesakes beta "pve1" (List.mem_singleton.mpr rfl)
  have hsame := hq [(1, "pve1"), (2, "pve1")] [(2, "pve1")] (by decide) (namesakeEntry [(1, "pve1"), (2, "pve1")])
    (namesakeEntry [(2, "pve1")]) rfl rfl rfl rfl "" "" [⟨"beta", .vm, 100, "pve1", "running"⟩]
    ⟨"beta", .vm, 100, "pve1", "running"⟩ (List.mem_singleton.mpr rfl) rfl rfl
  rw [blocksOn_iff (List.mem_singleton.mpr rfl), blocksOn_iff (List.mem_singleton.mpr rfl)] at hsame
  have hclear : unverifiedConsumers (namesakeEntry [(1, "pve1"), (2, "pve1")]) = [] := by decide +kernel
  have hnamed : unverifiedConsumers (namesakeEntry [(2, "pve1")]) = ["pve1"] := by decide +kernel
  rw [hclear, hnamed] at hsame
  exact hsame.mp (by simp) ⟨by decide, by decide⟩

end PveHelper.Scans
