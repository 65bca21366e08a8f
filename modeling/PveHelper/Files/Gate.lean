/-
The gate before a file action, `_require_file_not_blocked` of
`core/services/storage_actions.py`, and what it does not let an operator
acknowledge away. The gate says that a reachable node reporting a guest running
on the file does not yield. Some such guests do: one whose VMID the image
directory names, once some other running guest on an unreachable node
references the file, because the first check then answers for both; one of
another cluster on the same backend, which only the preflight sees; and one
with that VMID on a node other than a node-local binding's, which is not asked
about.
-/
import PveHelper.Files.Risk

namespace PveHelper.Files

open Lib Guests Storage

/-! ## The gate -/

/-- `StorageOperationScope`: the clusters refreshed, and the token each preflight saw. -/
structure OperationScope where
  refreshed : List String := []
  tokens : List ((String × String × String) × String) := []

/-- What the gate meets outside the tables: the health of the mounts, what a
catalog refresh of a cluster leaves, and the live check of an in-place rewrite. -/
structure GateEnv where
  health : Nat → StorageBackendProfile → MountHealth
  refresh : StorageCluster → Catalog
  liveGuestStopped : FileEntry → Bool

/-- `ensure_fresh`. -/
def OperationScope.ensureFresh (env : GateEnv) (s : OperationScope) (inst : Installation) (c : StorageCluster) :
    Installation × OperationScope :=
  if s.refreshed.contains c.guest.key then (inst, s)
  else
    let c' := (inst.clusters.get c.pk).getD c
    ({ inst with clusters := inst.clusters.put { c' with catalog := env.refresh c' } },
      { s with refreshed := c.guest.key :: s.refreshed })

/-- What a token is remembered under. -/
def BoundStorage.tokenKey (x : BoundStorage) : String × String × String :=
  (x.cluster.guest.key, x.storage.storageId, x.binding.node.getD "")

/-- `StorageOperationScope.preflight`; no answer when the catalog was republished
in between. -/
def OperationScope.preflight (env : GateEnv) (s : OperationScope) (inst : Installation) (x : BoundStorage)
    (volid : String) : Installation × OperationScope × Option UsagePreflight :=
  let (inst, s) := s.ensureFresh env inst x.cluster
  let c := (inst.clusters.get x.cluster.pk).getD x.cluster
  let d := (c.catalog.storages.get x.storage.storageId).getD x.storage
  let result := usageDecision (usageScope env.health inst c d (x.binding.node.getD "")) volid
  match (s.tokens.find? fun t => t.1 == x.tokenKey).map (·.2) with
  | none => (inst, { s with tokens := (x.tokenKey, result.token) :: s.tokens }, some result)
  | some previous => (inst, s, if previous = result.token then some result else none)

/-- What the gate raises; a block carries the risk its message is made from. -/
inductive FileActionError
  | blocked (risk : FileActionRisk)
  | unassociated
  | referenced (reason : String)
  | unproven (reason : String)
  | aborted
  | guestRunning

/-- The preflight of every binding in turn. -/
def checkBindings (env : GateEnv) (acknowledgedRisk : Bool) (relative : String) :
    List BoundStorage → Installation → OperationScope → Except FileActionError Unit
  | [], _, _ => .ok ()
  | x :: rest, inst, s =>
    match s.preflight env inst x (x.storage.storageId ++ ":" ++ relative) with
    | (_, _, none) => .error .aborted
    | (inst, s, some result) => match result.state with
      | .referenced | .referencedElsewhere =>
        if !acknowledgedRisk then .error (.referenced result.reason)
        else checkBindings env acknowledgedRisk relative rest inst s
      | .unreferenced => checkBindings env acknowledgedRisk relative rest inst s
      | .unknown =>
        if !acknowledgedRisk then .error (.unproven result.reason)
        else checkBindings env acknowledgedRisk relative rest inst s

/-- The path as a volume of the storage names it. -/
def FileEntry.relative (e : FileEntry) : String :=
  let path := Text.lstripChar '/' e.path
  if Text.startsWith path "images/" then String.ofList (path.toList.drop "images/".length) else path

/-- `_require_file_not_blocked`, with an operation scope of its own. -/
def requireFileNotBlocked (env : GateEnv) (inst : Installation) (e : FileEntry)
    (blockRunningGuests relocatesFile acknowledgedRisk : Bool) : Except FileActionError Unit :=
  let risk := fileActionRisk inst e blockRunningGuests
  if risk.blocked then .error (.blocked risk)
  else if relocatesFile && ["vm_disk", "base_image", "ct_private"].contains e.contentCategory then
    if (entryBindings inst e).isEmpty then
      if !acknowledgedRisk then .error .unassociated else .ok ()
    else checkBindings env acknowledgedRisk e.relative (entryBindings inst e) inst {}
  else if env.liveGuestStopped e then .ok () else .error .guestRunning

/-! ## Who runs on the file -/

section guests

variable (inst : Installation) (e : FileEntry)

/-- Running, on a node that is not one of the entry's unverified consumers. -/
def Confirmed (g : CurrentGuest) : Prop := g.status = "running" ∧ g.node ∉ unverifiedConsumers e

/-- The guest references the file's volume through a binding of the mount. -/
def ReferencesFile (g : CurrentGuest) : Prop :=
  ∃ x ∈ entryBindings inst e, ∃ suffix, e.volumeSuffix = some suffix ∧ g ∈ x.guests ∧
    x.storage.storageId ++ ":" ++ suffix ∈ g.diskReferences

/-- The guest references it through another cluster's storage of the same backend. -/
def ReferencesElsewhere (g : CurrentGuest) : Prop :=
  ∃ x ∈ entryBindings inst e, ∃ y ∈ (crossClusterCandidates inst x.cluster x.storage).1, ∃ suffix,
    e.volumeSuffix = some suffix ∧ y.cluster.pk ≠ x.cluster.pk ∧
    g ∈ scopeGuests y.cluster.guest y.node y.storage.shared ∧ y.storage.storageId ++ ":" ++ suffix ∈ g.diskReferences

/-- The guest of a bound cluster has the VMID of the file's image directory. -/
def HasImageVmid (g : CurrentGuest) : Prop :=
  ∃ x ∈ entryBindings inst e, g ∈ x.cluster.guest.guests.rows ∧ extractVmidFromImagePath e.path = some (g.vmid : Int)

/-- The same, on the binding's node when it has one. -/
def HasImageVmidHere (g : CurrentGuest) : Prop :=
  ∃ x ∈ entryBindings inst e, g ∈ x.guests ∧ extractVmidFromImagePath e.path = some (g.vmid : Int)

/-- A confirmed running guest is on the file, so the gate raises whatever is acknowledged. -/
def NeverAcknowledgedAway (env : GateEnv) : Prop :=
  (∃ g, Confirmed e g ∧ (ReferencesFile inst e g ∨ ReferencesElsewhere inst e g ∨ HasImageVmid inst e g)) →
    ∀ acknowledged, ∃ err, requireFileNotBlocked env inst e true true acknowledged = .error err

/-- When the gate meets that: the entry is trash; or a confirmed running guest
references the file through a binding; or no running guest at all does and the
VMID of the image directory is that of a confirmed running guest on a binding's
node; or no confirmed running guest has the VMID or references the file from
another cluster. -/
def BlockReached : Prop :=
  e.classification = .trash ∨ (∃ g, Confirmed e g ∧ ReferencesFile inst e g) ∨
  ((¬ ∃ g, g.status = "running" ∧ ReferencesFile inst e g) ∧ ∃ g, Confirmed e g ∧ HasImageVmidHere inst e g) ∨
  ¬ ∃ g, Confirmed e g ∧ (ReferencesElsewhere inst e g ∨ HasImageVmid inst e g)

end guests

/-! ## When the risk blocks -/

theorem runningCheck_eq_none {objects : List ReferencedObject} {unverified : List String} {a b : String} :
    runningCheck true objects unverified a b = none ↔ running objects = [] := by
  simp only [runningCheck, Bool.true_and]
  split
  · rename_i h
    simp only [Bool.not_eq_true', List.isEmpty_eq_false_iff] at h
    simp only [h, iff_false, runningGuestRisk]
    split
    · simp
    split
    · simp
    · -- Neither side has an object, so none runs.
      rename_i hc hu
      simp only [Bool.not_eq_true', Bool.not_eq_false, List.isEmpty_iff, List.filter_eq_nil_iff] at hc hu
      obtain ⟨o, rest, ho⟩ := List.exists_cons_of_ne_nil h
      have hm : o ∈ running objects := by
        rw [ho]
        exact List.mem_cons_self ..
      exact absurd (by simpa using hc o hm) (hu o hm)
  · rename_i h
    simpa using h

theorem runningCheck_blocked {objects : List ReferencedObject} {unverified : List String} {a b : String}
    {risk : FileActionRisk} (h : runningCheck true objects unverified a b = some risk) :
    risk.blocked = true ↔ ∃ o ∈ running objects, o.unconfirmed unverified = false := by
  simp only [runningCheck, Bool.true_and] at h
  split at h
  · simp only [runningGuestRisk] at h
    split at h
    · rename_i hc
      cases h
      simp only [Bool.not_eq_true', List.isEmpty_eq_false_iff_exists_mem, List.mem_filter] at hc
      simpa using hc
    · rename_i hc
      simp only [Bool.not_eq_true', Bool.not_eq_false, List.isEmpty_iff, List.filter_eq_nil_iff] at hc
      have hno : ¬ ∃ o ∈ running objects, o.unconfirmed unverified = false := by
        intro hx
        obtain ⟨o, ho, hu⟩ := hx
        simp [hc o ho] at hu
      split at h
      · cases h
        simpa using hno
      · cases h
  · cases h

theorem restingFileRisk_blocked (inst : Installation) (e : FileEntry) : (restingFileRisk inst e).blocked = false := by
  simp only [restingFileRisk]
  split
  · rfl
  split
  · rfl
  split <;> rfl

/-- The two checks of a regular file, the second reached only when no guest of
the first runs. -/
theorem fileActionRisk_blocked {inst : Installation} {e : FileEntry} (hfile : e.entryType = .file)
    (hcat : e.contentCategory ≠ "trash") : (fileActionRisk inst e true).blocked = true ↔
      e.classification = .trash ∨
      (∃ o ∈ running (referencedObjects inst e), o.unconfirmed (unverifiedConsumers e) = false) ∨
      (running (referencedObjects inst e) = [] ∧
        ∃ o ∈ running (vmidObjects inst e), o.unconfirmed (unverifiedConsumers e) = false) := by
  simp only [fileActionRisk, hcat, or_false]
  split
  · rename_i ht
    simp [ht]
  rename_i ht
  simp only [hfile, ht, false_or, reduceCtorEq, if_false, ne_eq, not_true_eq_false]
  generalize hr : runningCheck true (referencedObjects inst e) _ _ _ = first
  cases first with
  | some risk =>
    have hne : running (referencedObjects inst e) ≠ [] := by
      rw [ne_eq, ← runningCheck_eq_none, hr]
      nofun
    simp [runningCheck_blocked hr, hne]
  | none =>
    have hnil := runningCheck_eq_none.mp hr
    simp only [hnil, List.not_mem_nil, false_and, exists_false, false_or, true_and, Option.none_or]
    generalize hv : runningCheck true (vmidObjects inst e) _ _ _ = second
    cases second with
    | some risk => simp [runningCheck_blocked hv]
    | none => simp [restingFileRisk_blocked, runningCheck_eq_none.mp hv]

theorem not_mem_unverifiedConsumers (e : FileEntry) : "" ∉ unverifiedConsumers e := by
  simp only [unverifiedConsumers]
  split
  · simp
  split
  · simp
  · simp

theorem unconfirmed_eq_false {e : FileEntry} {o : ReferencedObject} :
    o.unconfirmed (unverifiedConsumers e) = false ↔ o.node ∉ unverifiedConsumers e := by
  by_cases h : o.node = ""
  · simp [ReferencedObject.unconfirmed, h, not_mem_unverifiedConsumers]
  · simp [ReferencedObject.unconfirmed, h]

theorem mem_running_referenced (inst : Installation) (e : FileEntry) (P : String → Prop) :
    (∃ o ∈ running (referencedObjects inst e), P o.node) ↔
      ∃ g, g.status = "running" ∧ P g.node ∧ ReferencesFile inst e g := by
  simp only [running, referencedObjects, List.mem_filter, ReferencesFile]
  cases e.volumeSuffix with
  | none => simp
  | some suffix =>
    simp only [List.mem_flatMap, List.mem_map, List.mem_filter, List.contains_iff_mem, beq_iff_eq]
    constructor
    · intro h
      obtain ⟨o, ⟨⟨x, hx, g, ⟨hg, hr⟩, rfl⟩, hs⟩, hp⟩ := h
      exact ⟨g, hs, hp, x, hx, suffix, rfl, hg, hr⟩
    · intro hex
      obtain ⟨g, hs, hp, x, hx, suffix', he, hg, hr⟩ := hex
      obtain rfl := Option.some.inj he
      exact ⟨x.object g, ⟨⟨x, hx, g, ⟨hg, hr⟩, rfl⟩, hs⟩, hp⟩

theorem mem_running_vmid (inst : Installation) (e : FileEntry) (P : String → Prop) :
    (∃ o ∈ running (vmidObjects inst e), P o.node) ↔
      ∃ g, g.status = "running" ∧ P g.node ∧ HasImageVmidHere inst e g := by
  simp only [running, vmidObjects, List.mem_filter, HasImageVmidHere]
  cases extractVmidFromImagePath e.path with
  | none => simp
  | some vmid =>
    simp only [List.mem_flatMap, List.mem_map, List.mem_filter, decide_eq_true_eq, beq_iff_eq, Option.some.injEq]
    constructor
    · intro h
      obtain ⟨o, ⟨⟨x, hx, g, ⟨hg, hr⟩, rfl⟩, hs⟩, hp⟩ := h
      exact ⟨g, hs, hp, x, hx, hg, hr.symm⟩
    · intro hex
      obtain ⟨g, hs, hp, x, hx, hg, hr⟩ := hex
      exact ⟨x.object g, ⟨⟨x, hx, g, ⟨hg, hr.symm⟩, rfl⟩, hs⟩, hp⟩

/-- The block, by the guests it is about. -/
theorem fileActionRisk_blocked_iff (inst : Installation) {e : FileEntry} (hfile : e.entryType = .file)
    (hcat : e.contentCategory ≠ "trash") : (fileActionRisk inst e true).blocked = true ↔
      e.classification = .trash ∨ (∃ g, Confirmed e g ∧ ReferencesFile inst e g) ∨
      ((¬ ∃ g, g.status = "running" ∧ ReferencesFile inst e g) ∧ ∃ g, Confirmed e g ∧ HasImageVmidHere inst e g) := by
  have hnil : running (referencedObjects inst e) = [] ↔ ¬ ∃ g, g.status = "running" ∧ ReferencesFile inst e g := by
    have := mem_running_referenced inst e fun _ => True
    simp only [and_true, true_and] at this
    rw [← this, List.eq_nil_iff_forall_not_mem, not_exists]
  rw [fileActionRisk_blocked hfile hcat, hnil]
  simp only [unconfirmed_eq_false, Confirmed, and_assoc]
  rw [mem_running_referenced inst e (· ∉ unverifiedConsumers e), mem_running_vmid inst e (· ∉ unverifiedConsumers e)]

/-! ## What an acknowledgement passes -/

theorem ensureFresh_tokens (env : GateEnv) (s : OperationScope) (inst : Installation) (c : StorageCluster) :
    (s.ensureFresh env inst c).2.tokens = s.tokens := by
  simp only [OperationScope.ensureFresh]
  split <;> rfl

/-- A scope that has not met the binding yet answers, and remembers it. -/
theorem preflight_fresh (env : GateEnv) {s : OperationScope} (inst : Installation) {x : BoundStorage} (volid : String)
    (h : ∀ t ∈ s.tokens, t.1 ≠ x.tokenKey) : ∃ inst' s' result,
      s.preflight env inst x volid = (inst', s', some result) ∧
      ∀ t ∈ s'.tokens, t.1 = x.tokenKey ∨ t ∈ s.tokens := by
  have hnone : ((s.ensureFresh env inst x.cluster).2.tokens.find? fun t => t.1 == x.tokenKey) = none := by
    rw [ensureFresh_tokens, List.find?_eq_none]
    intro t ht
    simpa using h t ht
  simp only [OperationScope.preflight, hnone, Option.map_none]
  refine ⟨_, _, _, rfl, ?_⟩
  intro t ht
  rcases List.mem_cons.mp ht with rfl | ht
  · exact .inl rfl
  · rw [ensureFresh_tokens] at ht
    exact .inr ht

/-- No token is met twice, so an acknowledged walk over the bindings ends. -/
theorem checkBindings_acknowledged {env : GateEnv} {relative : String} {xs : List BoundStorage} {inst : Installation}
    {s : OperationScope} (hn : (xs.map BoundStorage.tokenKey).Nodup)
    (hs : ∀ x ∈ xs, ∀ t ∈ s.tokens, t.1 ≠ x.tokenKey) : checkBindings env true relative xs inst s = .ok () := by
  induction xs generalizing inst s with
  | nil => rfl
  | cons x xs ih =>
    simp only [List.map_cons, List.nodup_cons, List.mem_map, not_exists, not_and] at hn
    obtain ⟨inst', s', result, hp, ht⟩ :=
      preflight_fresh env inst (x.storage.storageId ++ ":" ++ relative) (hs x (List.mem_cons_self ..))
    have hrest : checkBindings env true relative xs inst' s' = .ok () := by
      refine ih hn.2 ?_
      intro y hy t ht'
      rcases ht t ht' with he | hold
      · rw [he]
        exact fun hk => hn.1 y hy hk.symm
      · exact hs y (List.mem_cons_of_mem _ hy) t hold
    simp only [checkBindings, hp, hrest, Bool.not_true, Bool.false_eq_true, if_false]
    cases result.state <;> rfl

theorem boundStorages_tokenKey (c : StorageCluster) (d : ClusterStorage) (p : MountBinding → Bool)
    (hnodes : ∀ b ∈ d.mountBindings.rows, b.node ≠ some "") :
    (((d.mountBindings.rows.filter p).map fun b => (⟨c, d, b⟩ : BoundStorage)).map BoundStorage.tokenKey).Nodup := by
  have hu : (d.mountBindings.rows.map MountBinding.node).Nodup := d.mountBindings.unique
  rw [List.map_map]
  refine List.pairwise_map.mpr (((List.pairwise_map.mp hu).sublist List.filter_sublist).imp_of_mem ?_)
  intro a b ha hb hne he
  simp only [Function.comp_apply, BoundStorage.tokenKey, Prod.mk.injEq, true_and, ← observationNode_eq] at he
  have ha' := hnodes a (List.mem_of_mem_filter ha)
  have hb' := hnodes b (List.mem_of_mem_filter hb)
  exact hne (observationNode_inj ha' hb' he)

/-- The bindings of one mount have distinct token keys. -/
theorem entryBindings_tokenKey {inst : Installation} (e : FileEntry)
    (hclusters : (inst.clusters.rows.map (·.guest.key)).Nodup)
    (hnodes : ∀ c ∈ inst.clusters.rows, ∀ d ∈ c.catalog.storages.rows, ∀ b ∈ d.mountBindings.rows, b.node ≠ some "") :
    ((entryBindings inst e).map BoundStorage.tokenKey).Nodup := by
  rw [entryBindings, ((List.perm_insertionSort _ _).map _).nodup_iff]
  refine nodup_map_flatMap (·.guest.key) (·.1) hclusters (fun c hc => ?_) fun c hc x hx => ?_
  · refine nodup_map_flatMap ClusterStorage.storageId (·.2.1) ?_ (fun d hd => ?_) fun d hd x hx => ?_
    · exact c.catalog.storages.unique.sublist (List.filter_sublist.map _)
    · exact boundStorages_tokenKey c d _ (hnodes c hc d (List.mem_of_mem_filter hd))
    · obtain ⟨b, -, rfl⟩ := List.mem_map.mp hx
      rfl
  · obtain ⟨d, -, hx⟩ := List.mem_flatMap.mp hx
    obtain ⟨b, -, rfl⟩ := List.mem_map.mp hx
    rfl

/-- What does not block, an acknowledgement carries through. -/
theorem requireFileNotBlocked_acknowledged {inst : Installation} {e : FileEntry} (env : GateEnv)
    (hcat : e.contentCategory = "vm_disk" ∨ e.contentCategory = "base_image")
    (hclusters : (inst.clusters.rows.map (·.guest.key)).Nodup)
    (hnodes : ∀ c ∈ inst.clusters.rows, ∀ d ∈ c.catalog.storages.rows, ∀ b ∈ d.mountBindings.rows, b.node ≠ some "")
    (hb : (fileActionRisk inst e true).blocked = false) :
    requireFileNotBlocked env inst e true true true = .ok () := by
  have hlist : ["vm_disk", "base_image", "ct_private"].contains e.contentCategory = true := by
    rcases hcat with h | h <;> simp [h]
  simp only [requireFileNotBlocked, hb, hlist, Bool.false_eq_true, if_false, Bool.and_true, if_true]
  split
  · rfl
  · exact checkBindings_acknowledged (entryBindings_tokenKey e hclusters hnodes) (by simp)

/-- **A running guest is never acknowledged away, exactly when the block is
reached.** No two clusters share a key (`unique_cluster_key_case_insensitive`),
and a binding's node is not the empty name (`bind_storage_mount`). -/
theorem never_acknowledged_away_iff {inst : Installation} {e : FileEntry} (env : GateEnv) (hfile : e.entryType = .file)
    (hcat : e.contentCategory = "vm_disk" ∨ e.contentCategory = "base_image")
    (hclusters : (inst.clusters.rows.map (·.guest.key)).Nodup)
    (hnodes : ∀ c ∈ inst.clusters.rows, ∀ d ∈ c.catalog.storages.rows, ∀ b ∈ d.mountBindings.rows, b.node ≠ some "") :
    NeverAcknowledgedAway inst e env ↔ BlockReached inst e := by
  have hnot : e.contentCategory ≠ "trash" := by rcases hcat with h | h <;> simp [h]
  have hblocked := fileActionRisk_blocked_iff inst hfile hnot
  cases hb : (fileActionRisk inst e true).blocked with
  | true =>
    -- Blocked: both answers raise.
    refine ⟨fun _ => ?_, fun _ _ acknowledged => ⟨.blocked (fileActionRisk inst e true), ?_⟩⟩
    · rcases hblocked.mp hb with h | h | h
      · exact .inl h
      · exact .inr (.inl h)
      · exact .inr (.inr (.inl h))
    · simp [requireFileNotBlocked, hb]
  | false =>
    -- Not blocked: the acknowledged action passes, so no confirmed guest may be on the file.
    have hno := mt hblocked.mpr (by simp [hb])
    simp only [not_or] at hno
    have hpass := requireFileNotBlocked_acknowledged env hcat hclusters hnodes hb
    constructor
    · intro h
      refine .inr (.inr (.inr ?_))
      intro hx
      obtain ⟨g, hg, hon⟩ := hx
      obtain ⟨err, he⟩ := h ⟨g, hg, .inr hon⟩ true
      rw [hpass] at he
      cases he
    · rintro (h | h | h | h)
      · exact absurd h hno.1
      · exact absurd h hno.2.1
      · exact absurd h hno.2.2
      · intro hex
        obtain ⟨g, hg, hr | hon⟩ := hex
        · exact absurd ⟨g, hg, hr⟩ hno.2.1
        · exact absurd ⟨g, hg, hon⟩ h

/-- A shared export bound to a mount. -/
def boundNas : ClusterStorage where
  storageId := "nas"
  storageType := "nfs"
  content := ["images"]
  shared := true
  nodes := []
  disabled := false
  config := []
  present := true
  observedMetadataGeneration := 0
  nodeStates := .empty
  coverages := .empty
  observations := .empty
  mountBindings := ⟨[⟨none, .shared, 7⟩], by decide⟩

def nasMount : StorageMount := ⟨7, "nas", "nas:/export"⟩

/-- One cluster with these guests on the export. -/
def nasCluster (guests : Table CurrentGuest.key) : StorageCluster where
  guest :=
    { pk := 1, key := "lab", enrollmentContractVersion := 0, enrollmentGeneration := 0, enrollments := .empty,
      endpoints := [], guests := guests, inventoryState := none }
  catalog := { state := none, storages := ⟨[boundNas], by decide⟩, nextGeneration := 0 }
  members := []

def nasInstallation (guests : Table CurrentGuest.key) : Installation :=
  { clusters := ⟨[nasCluster guests], List.nodup_singleton _⟩, mounts := ⟨[nasMount], by decide⟩ }

/-- VM 100, on the file its image directory is named after. -/
def owner : CurrentGuest :=
  { objectType := .vm, vmid := 100, node := "pve1", status := "running",
    diskReferences := ["nas:100/vm-100-disk-0.qcow2"], observedAt := 0 }

/-- VM 100 without a reference that a scan saw, and VM 200 on the file from a node that did not answer. -/
def ownerAndOther : Table CurrentGuest.key :=
  ⟨[{ owner with diskReferences := [] }, { owner with vmid := 200, node := "pve2" }], by decide⟩

def ownerDisk : FileEntry where
  storage := nasMount
  path := "images/100/vm-100-disk-0.qcow2"
  derivedVolid := "nas:100/vm-100-disk-0.qcow2"
  contentCategory := "vm_disk"
  entryType := .file
  classification := .classificationBlocked
  storageGateStatus := [("nas", ⟨false, ["pve2"]⟩)]

theorem entryBindings_ownerDisk (guests : Table CurrentGuest.key) :
    entryBindings (nasInstallation guests) ownerDisk = [⟨nasCluster guests, boundNas, ⟨none, .shared, 7⟩⟩] := rfl

/-- A gate whose refreshes change nothing. -/
def quietGate : GateEnv := ⟨fun _ _ => ⟨true, true, ""⟩, (·.catalog), fun _ => true⟩

/-- The owner runs on a reachable node, and the block is reached. -/
theorem owner_never_acknowledged_away :
    NeverAcknowledgedAway (nasInstallation ⟨[owner], by decide⟩) ownerDisk quietGate := by
  refine (never_acknowledged_away_iff quietGate rfl (.inl rfl) (by decide) ?_).mpr
    (.inr (.inl ⟨owner, ⟨rfl, by decide⟩, ?_⟩))
  · simp [nasInstallation, nasCluster, boundNas]
  · rw [ReferencesFile, entryBindings_ownerDisk]
    exact ⟨_, List.mem_singleton.mpr rfl, "100/vm-100-disk-0.qcow2", rfl, List.mem_singleton.mpr rfl,
      List.mem_singleton.mpr rfl⟩

/-- VM 200 answers for both guests: the risk is only unconfirmed, and an
acknowledgement carries the action past running VM 100. -/
theorem vmid_guest_acknowledged_away : ¬ ∀ (env : GateEnv) (inst : Installation) (e : FileEntry),
    e.entryType = .file → (e.contentCategory = "vm_disk" ∨ e.contentCategory = "base_image") →
    NeverAcknowledgedAway inst e env := by
  intro h
  have howner : HasImageVmid (nasInstallation ownerAndOther) ownerDisk { owner with diskReferences := [] } := by
    rw [HasImageVmid, entryBindings_ownerDisk]
    exact ⟨_, List.mem_singleton.mpr rfl, List.mem_cons_self .., rfl⟩
  have hpass : requireFileNotBlocked quietGate (nasInstallation ownerAndOther) ownerDisk true true true = .ok () := rfl
  obtain ⟨err, he⟩ := h quietGate (nasInstallation ownerAndOther) ownerDisk rfl (.inl rfl)
    ⟨_, ⟨rfl, by decide⟩, .inr (.inr howner)⟩ true
  rw [hpass] at he
  cases he

end PveHelper.Files
