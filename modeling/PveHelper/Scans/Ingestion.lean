/-
What a scan reads of the guests, after passes 1 and 2 of `_run_scan`: each
endpoint's own node through that endpoint, then the nodes nobody read through
the cluster's first member that answered. Identity is asked once per cluster,
of whichever endpoint answers first; guests are read through every one. A broken
node listing raises at its endpoint, and then nothing is ingested.
-/
import PveHelper.Scans.Identity

namespace PveHelper.Scans

open Lib Guests

/-- An object handed to `_ingest_scan_objects`, with the endpoint it was read
through. The referenced volumes, the stored rows and the guest observations
are each read off these. -/
structure Ingested where
  endpoint : ProxmoxEndpoint
  object : ProxmoxObject

/-- The accumulators of the two passes. -/
structure ScanRead where
  ingested : List Ingested := []
  attempts : List (Nat × String) := []
  coverage : List (Nat × String) := []
  /-- `cluster_member`. -/
  members : Table ProxmoxEndpoint.cluster := Table.empty
  successful : List ProxmoxEndpoint := []

/-- `referenced_volids`. -/
def ScanRead.referencedVolids (r : ScanRead) : List String := r.ingested.flatMap (·.object.diskReferences)

/-- `cluster_member.setdefault`. -/
def addMember (members : Table ProxmoxEndpoint.cluster) (e : ProxmoxEndpoint) : Table ProxmoxEndpoint.cluster :=
  if (members.get e.cluster).isSome then members else members.put e

section
variable (answers : Nat → Client)

/-- The node an endpoint is read as. -/
def ownNode (e : ProxmoxEndpoint) : String := (answers e.pk).discoverNodeName e.name

/-- What an endpoint answers for its own node. -/
def ownInventory (e : ProxmoxEndpoint) : InventoryResult := (answers e.pk).inventory (ownNode answers e)

/-- One endpoint in pass 1. -/
def readEndpoint (quarantined : List Nat) (r : ScanRead) (e : ProxmoxEndpoint) : ScanRead :=
  let node := ownNode answers e
  let r := { r with attempts := r.attempts ++ [(e.cluster, node)] }
  if e.cluster ∈ quarantined then r
  else
    let result := ownInventory answers e
    -- Objects are ingested also when the read of some other object failed.
    let r := { r with ingested := r.ingested ++ result.objects.map (⟨e, ·⟩) }
    if result.ok then { r with
      coverage := r.coverage ++ [(e.cluster, node)]
      members := addMember r.members e
      successful := r.successful ++ [e] }
    else r

/-- One node in pass 2, through the member `e`. -/
def fillNode (e : ProxmoxEndpoint) (r : ScanRead) (node : String) : ScanRead :=
  if (e.cluster, node) ∈ r.coverage then r
  else
    let result := (answers e.pk).inventory node
    let r := { r with attempts := r.attempts ++ [(e.cluster, node)] }
    if result.ok then { r with
      coverage := r.coverage ++ [(e.cluster, node)]
      ingested := r.ingested ++ result.objects.map (⟨e, ·⟩) }
    else r

/-- One cluster in pass 2. -/
def fillGaps (r : ScanRead) (e : ProxmoxEndpoint) : ScanRead :=
  ((answers e.pk).nodeNames "").foldl (fillNode answers e) r

/-- Both passes. -/
def readInventory (quarantined : List Nat) (scanned : List ProxmoxEndpoint) : ScanRead :=
  let r := scanned.foldl (readEndpoint answers quarantined) {}
  r.members.rows.foldl (fillGaps answers) r

end

/-! ## A scan's provider half -/

/-- The endpoints a scan contacts. -/
def Fleet.scanned (fleet : Fleet) : List ProxmoxEndpoint :=
  fleet.endpoints.rows.filter fun e =>
    e.enabled && (fleet.clusters.get e.cluster).any fun c => c.enabled && !c.transitionPending

theorem get_addMember (members : Table ProxmoxEndpoint.cluster) (e : ProxmoxEndpoint) (k : Nat) :
    (addMember members e).get k = (members.get k).or (if k = e.cluster then some e else none) := by
  unfold addMember
  by_cases hk : k = e.cluster
  · subst hk
    cases hm : members.get e.cluster with
    | none => simp [Table.get_put]
    | some m => simp [hm]
  · split <;> simp [Table.get_put, hk]

section
variable {answers : Nat → Client} {quarantined : List Nat}

variable (answers) in
/-- The first endpoint of the cluster, in the order of the scan, that read its own node without an error. -/
def firstAnswering (scanned : List ProxmoxEndpoint) (pk : Nat) : Option ProxmoxEndpoint :=
  scanned.find? fun e => e.cluster == pk && (ownInventory answers e).ok

theorem readEndpoint_coverage {r : ScanRead} {e : ProxmoxEndpoint} {x : Nat × String} :
    x ∈ (readEndpoint answers quarantined r e).coverage ↔
      x ∈ r.coverage ∨ (e.cluster ∉ quarantined ∧ (ownInventory answers e).ok = true ∧ x = (e.cluster, ownNode answers e)) := by
  unfold readEndpoint
  by_cases hq : e.cluster ∈ quarantined
  · simp [hq]
  · by_cases hok : (ownInventory answers e).ok = true <;> simp [hq, hok]

theorem readEndpoint_member {r : ScanRead} {e : ProxmoxEndpoint} {k : Nat} (hk : k ∉ quarantined) :
    (readEndpoint answers quarantined r e).members.get k =
      (r.members.get k).or (firstAnswering answers [e] k) := by
  unfold readEndpoint firstAnswering
  by_cases hq : e.cluster ∈ quarantined
  · have hne : e.cluster ≠ k := fun he => hk (he ▸ hq)
    simp [hq, hne]
  · by_cases hok : (ownInventory answers e).ok = true
    · by_cases he : k = e.cluster
      · simp [hq, hok, he, get_addMember]
      · simp [hq, hok, he, Ne.symm he, get_addMember]
    · simp [hq, hok]

theorem readEndpoint_member_quarantined {r : ScanRead} {e : ProxmoxEndpoint} {k : Nat} (hk : k ∈ quarantined) :
    (readEndpoint answers quarantined r e).members.get k = r.members.get k := by
  unfold readEndpoint
  by_cases hq : e.cluster ∈ quarantined
  · simp [hq]
  · have hne : k ≠ e.cluster := fun he => hq (he ▸ hk)
    by_cases hok : (ownInventory answers e).ok = true <;> simp [hq, hok, get_addMember, hne]

/-- The nodes pass 1 covers. -/
theorem pass_coverage {es : List ProxmoxEndpoint} {r : ScanRead} {x : Nat × String} :
    x ∈ (es.foldl (readEndpoint answers quarantined) r).coverage ↔
      x ∈ r.coverage ∨ ∃ e ∈ es, e.cluster ∉ quarantined ∧ (ownInventory answers e).ok = true ∧
        x = (e.cluster, ownNode answers e) := by
  induction es generalizing r with
  | nil => simp
  | cons e es ih =>
    rw [List.foldl_cons, ih, readEndpoint_coverage, or_assoc]
    simp only [List.mem_cons, exists_eq_or_imp]

/-- The member pass 1 finds for a cluster. -/
theorem pass_member {es : List ProxmoxEndpoint} {r : ScanRead} {k : Nat} (hk : k ∉ quarantined) :
    (es.foldl (readEndpoint answers quarantined) r).members.get k =
      (r.members.get k).or (firstAnswering answers es k) := by
  induction es generalizing r with
  | nil => simp [firstAnswering]
  | cons e es ih =>
    have hsplit : firstAnswering answers (e :: es) k = (firstAnswering answers [e] k).or (firstAnswering answers es k) := by
      unfold firstAnswering
      rw [List.find?_cons, List.find?_cons]
      split <;> simp
    rw [List.foldl_cons, ih, readEndpoint_member hk, hsplit, Option.or_assoc]

theorem pass_member_quarantined {es : List ProxmoxEndpoint} {r : ScanRead} {k : Nat} (hk : k ∈ quarantined) :
    (es.foldl (readEndpoint answers quarantined) r).members.get k = r.members.get k := by
  induction es generalizing r with
  | nil => rfl
  | cons e es ih => rw [List.foldl_cons, ih, readEndpoint_member_quarantined hk]

/-! ## Pass 2 -/

theorem fillNode_coverage {e : ProxmoxEndpoint} {r : ScanRead} {n : String} {x : Nat × String} :
    x ∈ (fillNode answers e r n).coverage ↔
      x ∈ r.coverage ∨ (((answers e.pk).inventory n).ok = true ∧ x = (e.cluster, n)) := by
  unfold fillNode
  by_cases hc : (e.cluster, n) ∈ r.coverage
  · rw [if_pos hc]
    refine ⟨.inl, fun h => h.elim id fun h => ?_⟩
    rw [h.2]
    exact hc
  · by_cases hok : ((answers e.pk).inventory n).ok = true <;> simp [hc, hok]

/-- Pass 2 covers nodes of the member's cluster, and uncovers none. -/
theorem fillNodes_coverage {e : ProxmoxEndpoint} {ns : List String} {r : ScanRead} {x : Nat × String} :
    (x ∈ r.coverage → x ∈ (ns.foldl (fillNode answers e) r).coverage) ∧
      (x ∈ (ns.foldl (fillNode answers e) r).coverage → x ∈ r.coverage ∨ x.1 = e.cluster) := by
  induction ns generalizing r with
  | nil => exact ⟨id, .inl⟩
  | cons n ns ih =>
    rw [List.foldl_cons]
    refine ⟨fun hx => ih.1 (fillNode_coverage.mpr (.inl hx)), fun hx => ?_⟩
    rcases ih.2 hx with hx | hx
    · rcases fillNode_coverage.mp hx with hx | ⟨-, rfl⟩
      · exact .inl hx
      · exact .inr rfl
    · exact .inr hx

theorem fillMembers_coverage {ms : List ProxmoxEndpoint} {r : ScanRead} {x : Nat × String} :
    (x ∈ r.coverage → x ∈ (ms.foldl (fillGaps answers) r).coverage) ∧
      (x ∈ (ms.foldl (fillGaps answers) r).coverage → x ∈ r.coverage ∨ ∃ m ∈ ms, x.1 = m.cluster) := by
  induction ms generalizing r with
  | nil => exact ⟨id, .inl⟩
  | cons m ms ih =>
    rw [List.foldl_cons]
    refine ⟨fun hx => ih.1 (fillNodes_coverage.1 hx), fun hx => ?_⟩
    rcases ih.2 hx with hx | ⟨m', hm', he⟩
    · rcases fillNodes_coverage.2 hx with hx | he
      · exact .inl hx
      · exact .inr ⟨m, List.mem_cons_self .., he⟩
    · exact .inr ⟨m', List.mem_cons_of_mem _ hm', he⟩

/-! ## Both passes -/

theorem firstAnswering_mem {scanned : List ProxmoxEndpoint} {k : Nat} {e : ProxmoxEndpoint}
    (h : firstAnswering answers scanned k = some e) :
    e ∈ scanned ∧ e.cluster = k ∧ (ownInventory answers e).ok = true := by
  have hp := List.find?_some h
  simp only [Bool.and_eq_true, beq_iff_eq] at hp
  exact ⟨List.mem_of_find?_eq_some h, hp⟩

/-- The members pass 2 reads through. -/
theorem mem_members {scanned : List ProxmoxEndpoint} {m : ProxmoxEndpoint} :
    m ∈ (scanned.foldl (readEndpoint answers quarantined) {}).members.rows ↔
      m.cluster ∉ quarantined ∧ firstAnswering answers scanned m.cluster = some m := by
  rw [Table.mem_iff_get]
  by_cases hq : m.cluster ∈ quarantined
  · rw [pass_member_quarantined hq]
    simp [hq]
  · rw [pass_member hq]
    simp [hq]

/-- A cluster is covered somewhere exactly when an endpoint of it answered for its own node. -/
theorem readInventory_covers {scanned : List ProxmoxEndpoint} {k : Nat} :
    (∃ n, (k, n) ∈ (readInventory answers quarantined scanned).coverage) ↔
      k ∉ quarantined ∧ ∃ e ∈ scanned, e.cluster = k ∧ (ownInventory answers e).ok = true := by
  have hfirst : (∃ n, (k, n) ∈ (scanned.foldl (readEndpoint answers quarantined) {}).coverage) ↔
      k ∉ quarantined ∧ ∃ e ∈ scanned, e.cluster = k ∧ (ownInventory answers e).ok = true := by
    simp only [pass_coverage, List.not_mem_nil, false_or, Prod.mk.injEq]
    constructor
    · intro h
      obtain ⟨n, e, he, hq, hok, rfl, -⟩ := h
      exact ⟨hq, e, he, rfl, hok⟩
    · intro h
      obtain ⟨hq, e, he, rfl, hok⟩ := h
      exact ⟨_, e, he, hq, hok, rfl, rfl⟩
  rw [← hfirst]
  unfold readInventory
  constructor
  · intro h
    obtain ⟨n, hn⟩ := h
    rcases fillMembers_coverage.2 hn with hn | ⟨m, hm, hk⟩
    · exact ⟨n, hn⟩
    · obtain ⟨hq, hm⟩ := mem_members.mp hm
      obtain ⟨hin, -, hok⟩ := firstAnswering_mem hm
      have hkm : k = m.cluster := hk
      exact hfirst.mpr ⟨hkm ▸ hq, m, hin, hkm.symm, hok⟩
  · intro h
    obtain ⟨n, hn⟩ := h
    exact ⟨n, fillMembers_coverage.1 hn⟩

end

/-! ## Whose guests they are -/

/-- Asked in this scan, the endpoint reports this CA. -/
def Reports (answers : Nat → Client) (e : ProxmoxEndpoint) (uuid : String) : Prop :=
  ∃ id, reportedIdentity answers e = some id ∧ id.caUuid = uuid

def alpha : IdentityCluster := { pk := 1, key := "alpha", discoveredCaUuid := uuidA }

/-- One pinned cluster with two endpoints. -/
def twoEndpoints : Fleet where
  clusters := ⟨[alpha], by decide⟩
  endpoints := ⟨[⟨10, "pve1", 1, true, ""⟩, ⟨11, "pve2", 1, true, ""⟩], by decide⟩
  known := by decide

theorem reports_iff {answers : Nat → Client} {e : ProxmoxEndpoint} {uuid : String} :
    Reports answers e uuid ↔ (reportedIdentity answers e).map (·.caUuid) = some uuid := by
  rw [Option.map_eq_some_iff]
  rfl

end PveHelper.Scans
