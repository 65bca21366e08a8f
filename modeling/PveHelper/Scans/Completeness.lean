/-
What a scan counts as read, after `node_names`, `inventory`, `_get_list` and
`_get_config` of `core/services/proxmox.py` below the two passes of `_run_scan`.
A read that fails is an error of its node. An answer of the wrong shape is none:
a listing that is no list reads as empty, a configuration that is no object as
empty too, a row without a VMID is passed over, and a node listing that fails or
is no list names no further node. A row that is not an object or whose VMID is
infinite raises, and the scan fails with nothing marked.
-/
import PveHelper.Lib.Loop
import PveHelper.Lib.Numbers
import PveHelper.Scans.Ingestion
import Mathlib.Data.List.Find

namespace PveHelper.Scans

open Lib Guests

/-! ## One provider -/

/-- The paths a scan reads; the listings and configurations are those below
`nodes/<node>/qemu` and `nodes/<node>/lxc`. -/
inductive Path
  | nodes
  | guests (kind : ObjectType) (node : String)
  | config (kind : ObjectType) (node : String) (vmid : Int)

/-- What `get` answers to each path, with no answer for a `ProxmoxAPIError`. -/
structure Provider where
  get : Path → Option Json
  certificates : String → Option (List Certificate)

/-- An entry of the `errors` of an inventory. -/
structure CollectedError where
  action : String
  path : Path
  vmid : Option Int

def isObject : Json → Bool
  | .obj _ => true
  | _ => false

def isList : Json → Bool
  | .arr _ => true
  | _ => false

/-- `row.get(key)`. -/
def rowGet (row : Json) (key : String) : Option Json :=
  match row with
  | .obj fields => Json.lookup fields key
  | _ => none

def inventoryType : ObjectType → InventoryType
  | .vm => .vm
  | .ct => .ct

def listAction : ObjectType → String
  | .vm => "qemu.list"
  | .ct => "lxc.list"

def configAction : ObjectType → String
  | .vm => "qemu.config"
  | .ct => "lxc.config"

/-- `_int_or_none`, where it does not raise. -/
def intOrNone (value : Option Json) : Option Int := value.bind Json.toInt

/-- The row has a `get`, and the VMID in it does not raise. -/
def readable (row : Json) : Bool := isObject row && !(rowGet row "vmid").any Json.intOverflows

namespace Provider

variable (p : Provider)

/-- `_get_list`. -/
def getList (path : Path) (action : String) : List Json × List CollectedError :=
  match p.get path with
  | none => ([], [⟨action, path, none⟩])
  | some (.arr rows) => (rows, [])
  | some _ => ([], [])

/-- `_get_config`. -/
def getConfig (path : Path) (action : String) (vmid : Int) : Option Config × List CollectedError :=
  match p.get path with
  | none => (none, [⟨action, path, some vmid⟩])
  | some (.obj fields) => (some fields, [])
  | some _ => (some [], [])

/-- One row of a listing in `inventory`: what it adds to the objects and to the errors. -/
def readRow (kind : ObjectType) (node : String) (row : Json) : List ProxmoxObject × List CollectedError :=
  match intOrNone (rowGet row "vmid") with
  | none => ([], [])
  | some vmid =>
    match p.getConfig (.config kind node vmid) (configAction kind) vmid with
    | (none, errors) => ([], errors)
    | (some config, errors) => ([
        { node := node
          objectType := inventoryType kind
          vmid := vmid.toNat?
          status := ((rowGet row "status").map Json.text).getD ""
          config := config
          diskReferences := extractDiskReferences config }], errors)

/-- One of the two loops of `inventory`; nothing when a row raises. -/
def readGuests (kind : ObjectType) (node : String) : Option (List ProxmoxObject × List CollectedError) :=
  let listing := p.getList (.guests kind node) (listAction kind)
  if listing.1.all readable then
    some (listing.1.flatMap fun row => (p.readRow kind node row).1,
      listing.2 ++ listing.1.flatMap fun row => (p.readRow kind node row).2)
  else none

/-- `inventory`. -/
def inventory (node : String) : Option InventoryResult :=
  (p.readGuests .vm node).bind fun vms => (p.readGuests .ct node).map fun cts =>
    ⟨(vms.2 ++ cts.2).isEmpty, vms.1 ++ cts.1⟩

/-- What a `nodes` answer comes to; its texts hold no lone surrogate. -/
def nodes : NodesAnswer :=
  match p.get .nodes with
  | some (.arr rows) =>
    if rows.all isObject then .listed (rows.filterMap fun row => ((rowGet row "node").filter Json.truthy).map Json.text)
    else .broken
  | _ => .unread

/-- The reads of a scan, as long as none of them raises. -/
def client : Client where
  nodes := p.nodes
  certificates := p.certificates
  inventory := fun node => (p.inventory node).getD ⟨false, []⟩

/-- The rows of a listing. -/
def rows (kind : ObjectType) (node : String) : List Json := (p.getList (.guests kind node) (listAction kind)).1

/-- The listing is answered, and the configuration of each VMID in it. -/
def answersGuests (kind : ObjectType) (node : String) : Bool :=
  (p.get (.guests kind node)).isSome &&
    (p.rows kind node).all fun row => (intOrNone (rowGet row "vmid")).all fun vmid => (p.get (.config kind node vmid)).isSome

/-- Every read of the node is answered. -/
def answers (node : String) : Bool := p.answersGuests .vm node && p.answersGuests .ct node

/-- The listing is no list, a row of it has no VMID, or a configuration is no object. -/
def malformedGuests (kind : ObjectType) (node : String) : Bool :=
  (p.get (.guests kind node)).any (!isList ·) ||
    (p.rows kind node).any fun row =>
      (intOrNone (rowGet row "vmid")).all fun vmid => (p.get (.config kind node vmid)).any (!isObject ·)

/-- Some answer for the node has another shape than it should. -/
def malformed (node : String) : Bool := p.malformedGuests .vm node || p.malformedGuests .ct node

/-- Both listings of the node were read as lists, and of every guest in them the
configuration as an object. -/
def WellRead (node : String) : Prop :=
  ∀ kind, ∃ rows, p.get (.guests kind node) = some (.arr rows) ∧
    ∀ row ∈ rows, ∃ vmid fields, intOrNone (rowGet row "vmid") = some vmid ∧
      p.get (.config kind node vmid) = some (.obj fields)

end Provider

/-! ## The two passes, with what raises -/

section
variable (providers : Nat → Provider)

/-- The answers of the endpoints, by key. -/
def clients (pk : Nat) : Client := (providers pk).client

/-- The node an endpoint is read as, by its provider's answers. -/
def nodeOf (e : ProxmoxEndpoint) : String := ownNode (clients providers) e

/-- One endpoint in pass 1. -/
def readsEndpoint (quarantined : List Nat) (r : ScanRead) (e : ProxmoxEndpoint) : Option ScanRead :=
  if (clients providers e.pk).broken then none
  else if !quarantined.contains e.cluster && ((providers e.pk).inventory (nodeOf providers e)).isNone then none
  else some (readEndpoint (clients providers) quarantined r e)

/-- One node in pass 2. -/
def fillsNode (e : ProxmoxEndpoint) (r : ScanRead) (node : String) : Option ScanRead :=
  if !r.coverage.contains (e.cluster, node) && ((providers e.pk).inventory node).isNone then none
  else some (fillNode (clients providers) e r node)

/-- One cluster in pass 2. -/
def fillsGaps (r : ScanRead) (e : ProxmoxEndpoint) : Option ScanRead :=
  if (clients providers e.pk).broken then none
  else ((clients providers e.pk).nodeNames "").foldlM (fillsNode providers e) r

/-- Passes 1 and 2 of `_run_scan`; nothing when a read raises and the scan fails. -/
def readsInventory (quarantined : List Nat) (scanned : List ProxmoxEndpoint) : Option ScanRead :=
  (scanned.foldlM (readsEndpoint providers quarantined) {}).bind fun r => r.members.rows.foldlM (fillsGaps providers) r

/-- What a scan hands to the reconcile; `copy` is the cluster object an endpoint was loaded with. -/
def ScanRead.scanInventory (r : ScanRead) (scan : Nat) (copy : Nat → ClusterCopy) (scanned : List ProxmoxEndpoint) (now : Time) :
    ScanInventory :=
  let endpoint := fun e : ProxmoxEndpoint => (⟨e.pk, e.name, some e.cluster, copy e.pk⟩ : ScanEndpoint)
  { scan := scan
    observations := r.ingested.map fun i => ⟨endpoint i.endpoint, i.object⟩
    attemptedEndpoints := scanned.map endpoint
    successfulEndpoints := r.successful.map endpoint
    attemptedNodes := fun pk => (r.attempts.filter fun x => x.1 == pk).map (·.2)
    coveredNodes := fun pk => (r.coverage.filter fun x => x.1 == pk).map (·.2)
    observedAt := now }

/-! ## What was earned -/

variable (scanned : List ProxmoxEndpoint) (k : Nat)

/-- The first endpoint of the cluster whose own node answers every read; the gaps are read through it. -/
def member : Option ProxmoxEndpoint :=
  scanned.find? fun e => e.cluster == k && (providers e.pk).answers (nodeOf providers e)

/-- The nodes the member's listing names. -/
def listed (m : ProxmoxEndpoint) : List String := (clients providers m.pk).nodeNames ""

/-- The scan reads the node through the endpoint: as its own, or as one that the member names
and that is no endpoint's own and answered. -/
def ReadsNode (e : ProxmoxEndpoint) (n : String) : Prop :=
  e ∈ scanned ∧ e.cluster = k ∧
    (nodeOf providers e = n ∨ (member providers scanned k = some e ∧ n ∈ listed providers e ∧
      ∀ e' ∈ scanned, e'.cluster = k → (providers e'.pk).answers (nodeOf providers e') = true → nodeOf providers e' ≠ n))

/-- The cluster's node listing was read as a list, every node in it through some endpoint, and
whatever counts as read, through any endpoint, has both guest listings and every configuration as they
should be. -/
structure Earned : Prop where
  listed : ∃ m, member providers scanned k = some m ∧ (∃ rows, (providers m.pk).get .nodes = some (.arr rows)) ∧
    ∀ n ∈ listed providers m, ∃ e, ReadsNode providers scanned k e n ∧ (providers e.pk).WellRead n
  counted : ∀ e n, ReadsNode providers scanned k e n → (providers e.pk).answers n = true → (providers e.pk).WellRead n

/-- Some node the scan tries is answered by none of the endpoints it is read through. -/
def Unanswered : Prop :=
  ∃ n, (∃ e, ReadsNode providers scanned k e n) ∧
    ∀ e, ReadsNode providers scanned k e n → (providers e.pk).answers n = false

/-- What a scan counts as coverage though it is none. -/
inductive Miscounted : Prop
  /-- The member's node listing failed, or is no list. -/
  | listing (m : ProxmoxEndpoint) (hm : member providers scanned k = some m)
      (h : ((providers m.pk).get .nodes).all (!isList ·) = true)
  /-- An endpoint that a node is read through answers every read of it, and one answer is malformed. -/
  | node (e : ProxmoxEndpoint) (n : String) (he : ReadsNode providers scanned k e n)
      (hans : (providers e.pk).answers n = true) (h : (providers e.pk).malformed n = true)

end

/-- The reconcile of a scan leaves the cluster's inventory state marked complete. -/
def MarksComplete (db : GuestDb) (s : ScanInventory) (order : List Nat) (pk : Nat) : Prop :=
  ∃ db' c st, reconcileScanGuestInventory db s order = some db' ∧ db'.get pk = some c ∧ c.inventoryState = some st ∧
    st.complete = true

/-! ## One inventory -/

section
variable {p : Provider} {node : String}

theorem getList_ok {path : Path} {action : String} : (p.getList path action).2 = [] ↔ (p.get path).isSome = true := by
  unfold Provider.getList
  cases p.get path with
  | none => simp
  | some data => cases data <;> simp

theorem readRow_ok {kind : ObjectType} {row : Json} :
    (p.readRow kind node row).2 = [] ↔
      (intOrNone (rowGet row "vmid")).all (fun vmid => (p.get (.config kind node vmid)).isSome) = true := by
  unfold Provider.readRow
  cases intOrNone (rowGet row "vmid") with
  | none => simp
  | some vmid =>
    rw [Option.all_some]
    dsimp only
    unfold Provider.getConfig
    cases p.get (.config kind node vmid) with
    | none => simp
    | some data => cases data <;> simp

theorem readGuests_ok {kind : ObjectType} {read : List ProxmoxObject × List CollectedError}
    (h : p.readGuests kind node = some read) : read.2 = [] ↔ p.answersGuests kind node = true := by
  unfold Provider.readGuests at h
  obtain ⟨-, h⟩ := Option.ite_none_right_eq_some.mp h
  cases h
  unfold Provider.answersGuests
  rw [List.append_eq_nil_iff, getList_ok, List.flatMap_eq_nil_iff, Bool.and_eq_true, List.all_eq_true]
  simp only [readRow_ok, Provider.rows]

/-- A read of a node that does not raise is without errors exactly when everything is answered. -/
theorem inventory_ok {result : InventoryResult} (h : p.inventory node = some result) :
    result.ok = true ↔ p.answers node = true := by
  obtain ⟨vms, hvms, h⟩ := Option.bind_eq_some_iff.mp h
  obtain ⟨cts, hcts, rfl⟩ := Option.map_eq_some_iff.mp h
  rw [List.isEmpty_iff, List.append_eq_nil_iff, readGuests_ok hvms, readGuests_ok hcts, Provider.answers, Bool.and_eq_true]

theorem client_ok (h : (p.inventory node).isSome = true) : (p.client.inventory node).ok = p.answers node := by
  obtain ⟨result, hresult⟩ := Option.isSome_iff_exists.mp h
  rw [Bool.eq_iff_iff, ← inventory_ok hresult]
  simp [Provider.client, hresult]

/-- A row and its configuration, answered and not malformed. -/
theorem row_wellRead_iff {kind : ObjectType} {row : Json} :
    (∃ vmid fields, intOrNone (rowGet row "vmid") = some vmid ∧ p.get (.config kind node vmid) = some (.obj fields)) ↔
      (intOrNone (rowGet row "vmid")).all (fun vmid => (p.get (.config kind node vmid)).isSome) = true ∧
        (intOrNone (rowGet row "vmid")).all (fun vmid => (p.get (.config kind node vmid)).any (!isObject ·)) = false := by
  cases intOrNone (rowGet row "vmid") with
  | none => simp
  | some vmid =>
    simp only [Option.some.injEq, exists_and_left, exists_eq_left', Option.all_some]
    cases p.get (.config kind node vmid) with
    | none => simp
    | some data => cases data <;> simp [isObject]

theorem guests_wellRead_iff {kind : ObjectType} :
    (∃ rows, p.get (.guests kind node) = some (.arr rows) ∧ ∀ row ∈ rows, ∃ vmid fields,
        intOrNone (rowGet row "vmid") = some vmid ∧ p.get (.config kind node vmid) = some (.obj fields)) ↔
      p.answersGuests kind node = true ∧ p.malformedGuests kind node = false := by
  unfold Provider.answersGuests Provider.malformedGuests Provider.rows Provider.getList
  simp only [row_wellRead_iff]
  cases p.get (.guests kind node) with
  | none => simp
  | some data =>
    cases data with
    | arr rows =>
      simp only [Option.some.injEq, Json.arr.injEq, exists_eq_left', Option.isSome_some, Bool.true_and, List.all_eq_true,
        Option.any_some, isList, Bool.not_true, Bool.false_or, List.any_eq_false, Bool.not_eq_true]
      exact ⟨fun h => ⟨fun row hr => (h row hr).1, fun row hr => (h row hr).2⟩, fun h row hr => ⟨h.1 row hr, h.2 row hr⟩⟩
    | null | bool | int | float | str | obj => simp [isList]

/-- What is answered and not malformed is read as it should be. -/
theorem wellRead_iff : p.WellRead node ↔ p.answers node = true ∧ p.malformed node = false := by
  unfold Provider.WellRead Provider.answers Provider.malformed
  simp only [guests_wellRead_iff, Bool.and_eq_true, Bool.or_eq_false_iff]
  constructor
  · exact fun h => ⟨⟨(h .vm).1, (h .ct).1⟩, (h .vm).2, (h .ct).2⟩
  · intro h kind
    cases kind with
    | vm => exact ⟨h.1.1, h.2.1⟩
    | ct => exact ⟨h.1.2, h.2.2⟩

end

/-! ## What the passes try and cover -/

section
variable {answers : Nat → Client} {quarantined : List Nat}

theorem readEndpoint_attempts {r : ScanRead} {e : ProxmoxEndpoint} :
    (readEndpoint answers quarantined r e).attempts = r.attempts ++ [(e.cluster, ownNode answers e)] := by
  unfold readEndpoint
  by_cases hq : e.cluster ∈ quarantined
  · rw [if_pos hq]
  · rw [if_neg hq]
    dsimp only
    split <;> rfl

theorem pass_attempts {es : List ProxmoxEndpoint} {r : ScanRead} {x : Nat × String} :
    x ∈ (es.foldl (readEndpoint answers quarantined) r).attempts ↔
      x ∈ r.attempts ∨ ∃ e ∈ es, x = (e.cluster, ownNode answers e) := by
  induction es generalizing r with
  | nil => simp
  | cons e es ih =>
    rw [List.foldl_cons, ih, readEndpoint_attempts, List.mem_append, List.mem_singleton, or_assoc]
    simp only [List.mem_cons, exists_eq_or_imp]

theorem fillNode_attempts {e : ProxmoxEndpoint} {r : ScanRead} {n : String} {x : Nat × String} :
    x ∈ (fillNode answers e r n).attempts ↔ x ∈ r.attempts ∨ ((e.cluster, n) ∉ r.coverage ∧ x = (e.cluster, n)) := by
  unfold fillNode
  by_cases hc : (e.cluster, n) ∈ r.coverage
  · simp [hc]
  · rw [if_neg hc]
    dsimp only
    split <;> simp [hc]

/-- The nodes one cluster's turn in pass 2 covers. -/
theorem fillNodes_coverage_iff {e : ProxmoxEndpoint} {ns : List String} {r : ScanRead} {x : Nat × String} :
    x ∈ (ns.foldl (fillNode answers e) r).coverage ↔
      x ∈ r.coverage ∨ ∃ n ∈ ns, ((answers e.pk).inventory n).ok = true ∧ x = (e.cluster, n) := by
  induction ns generalizing r with
  | nil => simp
  | cons n ns ih =>
    rw [List.foldl_cons, ih, fillNode_coverage, or_assoc]
    simp only [List.mem_cons, exists_eq_or_imp]

/-- The nodes it tries are the named ones that were not covered before it. -/
theorem fillNodes_attempts {e : ProxmoxEndpoint} {ns : List String} {r : ScanRead} {x : Nat × String} :
    x ∈ (ns.foldl (fillNode answers e) r).attempts ↔
      x ∈ r.attempts ∨ ∃ n ∈ ns, (e.cluster, n) ∉ r.coverage ∧ x = (e.cluster, n) := by
  induction ns generalizing r with
  | nil => simp
  | cons n ns ih =>
    rw [List.foldl_cons, ih, fillNode_attempts, or_assoc]
    refine or_congr_right ?_
    simp only [List.mem_cons, exists_eq_or_imp]
    constructor
    · intro h
      rcases h with h | ⟨m, hm, hc, hx⟩
      · exact .inl h
      · exact .inr ⟨m, hm, fun hin => hc (fillNode_coverage.mpr (.inl hin)), hx⟩
    · intro h
      rcases h with h | ⟨m, hm, hc, hx⟩
      · exact .inl h
      · by_cases hcovered : (e.cluster, m) ∈ (fillNode answers e r n).coverage
        · rcases fillNode_coverage.mp hcovered with hin | ⟨-, hmn⟩
          · exact absurd hin hc
          · exact .inl ⟨hmn ▸ hc, hmn ▸ hx⟩
        · exact .inr ⟨m, hm, hcovered, hx⟩

variable (answers) in
/-- Another cluster's turn changes nothing of this one's nodes. -/
theorem fillGaps_other {e : ProxmoxEndpoint} (r : ScanRead) {k : Nat} (hk : k ≠ e.cluster) (n : String) :
    ((k, n) ∈ (fillGaps answers r e).coverage ↔ (k, n) ∈ r.coverage) ∧
      ((k, n) ∈ (fillGaps answers r e).attempts ↔ (k, n) ∈ r.attempts) := by
  unfold fillGaps
  rw [fillNodes_coverage_iff, fillNodes_attempts]
  simp [hk]

/-- Pass 2 as one cluster sees it: its own member's turn, if it has one. -/
theorem fillMembers_cluster {ms : List ProxmoxEndpoint} {r : ScanRead} {k : Nat} (hn : (ms.map (·.cluster)).Nodup) (n : String) :
    ((k, n) ∈ (ms.foldl (fillGaps answers) r).coverage ↔
      (k, n) ∈ r.coverage ∨ ∃ m ∈ ms, m.cluster = k ∧ n ∈ (answers m.pk).nodeNames "" ∧
        ((answers m.pk).inventory n).ok = true) ∧
    ((k, n) ∈ (ms.foldl (fillGaps answers) r).attempts ↔
      (k, n) ∈ r.attempts ∨ ∃ m ∈ ms, m.cluster = k ∧ n ∈ (answers m.pk).nodeNames "" ∧ (k, n) ∉ r.coverage) := by
  induction ms generalizing r with
  | nil => simp
  | cons m ms ih =>
    simp only [List.map_cons, List.nodup_cons] at hn
    obtain ⟨hcoverage, hattempts⟩ := ih (r := fillGaps answers r m) hn.2
    rw [List.foldl_cons, hcoverage, hattempts]
    by_cases hk : k = m.cluster
    · -- No later member is of this cluster.
      have hlater : ∀ m' ∈ ms, m'.cluster ≠ k := fun m' hm' he => hn.1 (List.mem_map.mpr ⟨m', hm', he.trans hk⟩)
      have hnone : ∀ q : ProxmoxEndpoint → Prop, ¬ ∃ m' ∈ ms, m'.cluster = k ∧ q m' :=
        fun q h => h.elim fun m' hm' => hlater m' hm'.1 hm'.2.1
      subst hk
      rw [or_iff_left (hnone _), or_iff_left (hnone _), List.exists_mem_cons_iff, List.exists_mem_cons_iff,
        or_iff_left (hnone _), or_iff_left (hnone _)]
      unfold fillGaps
      rw [fillNodes_coverage_iff, fillNodes_attempts]
      have hnode : ∀ q : String → Prop, (∃ n' ∈ (answers m.pk).nodeNames "", q n' ∧ (m.cluster, n) = (m.cluster, n')) ↔
          n ∈ (answers m.pk).nodeNames "" ∧ q n := by
        intro q
        constructor
        · rintro ⟨n', hn', hq, he⟩
          cases he
          exact ⟨hn', hq⟩
        · exact fun h => ⟨n, h.1, h.2, rfl⟩
      rw [hnode, hnode]
      simp only [true_and, and_self]
    · obtain ⟨hc, ha⟩ := fillGaps_other answers r hk n
      rw [hc, ha, List.exists_mem_cons_iff, List.exists_mem_cons_iff]
      simp only [Ne.symm hk, false_and, false_or, and_self]

end

/-! ## A scan that does not raise -/

section
variable {providers : Nat → Provider} {quarantined : List Nat} {scanned : List ProxmoxEndpoint} {k : Nat} {r : ScanRead}

theorem readsEndpoint_some {r r' : ScanRead} {e : ProxmoxEndpoint} (h : readsEndpoint providers quarantined r e = some r') :
    r' = readEndpoint (clients providers) quarantined r e ∧
      (e.cluster ∉ quarantined → ((providers e.pk).inventory (nodeOf providers e)).isSome = true) := by
  obtain ⟨-, h⟩ := Option.ite_none_left_eq_some.mp h
  obtain ⟨hread, h⟩ := Option.ite_none_left_eq_some.mp h
  refine ⟨(Option.some.inj h).symm, fun hq => ?_⟩
  cases hi : (providers e.pk).inventory (nodeOf providers e) with
  | none => simp [hi, hq] at hread
  | some result => rfl

theorem fillsNode_some {r r' : ScanRead} {e : ProxmoxEndpoint} {n : String} (h : fillsNode providers e r n = some r') :
    r' = fillNode (clients providers) e r n ∧
      ((e.cluster, n) ∉ r.coverage → ((providers e.pk).inventory n).isSome = true) := by
  obtain ⟨hread, h⟩ := Option.ite_none_left_eq_some.mp h
  refine ⟨(Option.some.inj h).symm, fun hc => ?_⟩
  cases hi : (providers e.pk).inventory n with
  | none => simp [hi, hc] at hread
  | some result => rfl

theorem fillsGaps_eq {r r' : ScanRead} {e : ProxmoxEndpoint} (h : fillsGaps providers r e = some r') :
    r' = fillGaps (clients providers) r e := by
  obtain ⟨-, h⟩ := Option.ite_none_left_eq_some.mp h
  exact foldlM_eq_foldl (fun _ _ _ hn => (fillsNode_some hn).1) h

/-- In pass 1 no endpoint's own inventory raised. -/
theorem pass_reads {es : List ProxmoxEndpoint} {r r' : ScanRead}
    (h : es.foldlM (readsEndpoint providers quarantined) r = some r') :
    ∀ e ∈ es, e.cluster ∉ quarantined → ((providers e.pk).inventory (nodeOf providers e)).isSome = true := by
  induction es generalizing r with
  | nil => simp
  | cons e es ih =>
    rw [List.foldlM_cons] at h
    obtain ⟨t, ht, h⟩ := Option.bind_eq_some_iff.mp h
    exact List.forall_mem_cons.mpr ⟨(readsEndpoint_some ht).2, ih h⟩

/-- In one cluster's turn no inventory of a node not covered before raised. -/
theorem fillsNodes_reads {e : ProxmoxEndpoint} {ns : List String} {r r' : ScanRead}
    (h : ns.foldlM (fillsNode providers e) r = some r') :
    ∀ n ∈ ns, (e.cluster, n) ∉ r.coverage → ((providers e.pk).inventory n).isSome = true := by
  induction ns generalizing r with
  | nil => simp
  | cons n₀ ns ih =>
    rw [List.foldlM_cons] at h
    obtain ⟨t, ht, h⟩ := Option.bind_eq_some_iff.mp h
    obtain ⟨rfl, hread⟩ := fillsNode_some ht
    intro n hn hc
    by_cases hnew : n = n₀
    · subst hnew
      exact hread hc
    · refine ih h n ((List.mem_cons.mp hn).resolve_left hnew) fun hin => ?_
      rcases fillNode_coverage.mp hin with hin | ⟨-, hx⟩
      · exact hc hin
      · exact hnew (Prod.mk.inj hx).2

theorem fillsMembers_reads {ms : List ProxmoxEndpoint} {r r' : ScanRead} (hn : (ms.map (·.cluster)).Nodup)
    (h : ms.foldlM (fillsGaps providers) r = some r') :
    ∀ m ∈ ms, ∀ n ∈ listed providers m, (m.cluster, n) ∉ r.coverage → ((providers m.pk).inventory n).isSome = true := by
  induction ms generalizing r with
  | nil => simp
  | cons m₀ ms ih =>
    simp only [List.map_cons, List.nodup_cons] at hn
    rw [List.foldlM_cons] at h
    obtain ⟨t, ht, h⟩ := Option.bind_eq_some_iff.mp h
    intro m hm n hname hc
    rcases List.mem_cons.mp hm with rfl | hm
    · obtain ⟨-, ht⟩ := Option.ite_none_left_eq_some.mp ht
      exact fillsNodes_reads ht n hname hc
    · have hne : m.cluster ≠ m₀.cluster := fun he => hn.1 (List.mem_map.mpr ⟨m, hm, he⟩)
      refine ih hn.2 h m hm n hname fun hin => hc ?_
      rw [fillsGaps_eq ht] at hin
      exact (fillGaps_other _ _ hne n).1.mp hin

/-- A scan that does not raise reads what the passes read. -/
theorem readsInventory_eq (h : readsInventory providers quarantined scanned = some r) :
    r = readInventory (clients providers) quarantined scanned := by
  obtain ⟨r₁, h₁, h₂⟩ := Option.bind_eq_some_iff.mp h
  have hpass := foldlM_eq_foldl (fun _ _ _ he => (readsEndpoint_some he).1) h₁
  rw [foldlM_eq_foldl (fun _ _ _ hm => fillsGaps_eq hm) h₂, hpass]
  rfl

/-- Its members are the first endpoints that answer. -/
theorem firstAnswering_eq (h : readsInventory providers quarantined scanned = some r) (hq : k ∉ quarantined) :
    firstAnswering (clients providers) scanned k = member providers scanned k := by
  obtain ⟨r₁, h₁, -⟩ := Option.bind_eq_some_iff.mp h
  unfold firstAnswering member
  refine List.find?_congr fun e he => ?_
  by_cases hc : e.cluster = k
  · have hread := pass_reads h₁ e he (hc ▸ hq)
    rw [show (ownInventory (clients providers) e).ok = _ from client_ok hread]
    rfl
  · rw [beq_false_of_ne hc]
    rfl

/-- The nodes of a cluster covered by pass 1 are its endpoints' own that answered. -/
theorem pass_covered_iff (h : readsInventory providers quarantined scanned = some r) (hq : k ∉ quarantined) {n : String} :
    (k, n) ∈ (scanned.foldl (readEndpoint (clients providers) quarantined) {}).coverage ↔
      ∃ e ∈ scanned, e.cluster = k ∧ (providers e.pk).answers (nodeOf providers e) = true ∧ nodeOf providers e = n := by
  obtain ⟨r₁, h₁, -⟩ := Option.bind_eq_some_iff.mp h
  have hok : ∀ e ∈ scanned, e.cluster = k →
      (ownInventory (clients providers) e).ok = (providers e.pk).answers (nodeOf providers e) :=
    fun e he hc => client_ok (pass_reads h₁ e he (hc ▸ hq))
  rw [pass_coverage]
  simp only [List.not_mem_nil, false_or, Prod.mk.injEq]
  constructor
  · rintro ⟨e, he, -, hans, hk, hn⟩
    exact ⟨e, he, hk.symm, hok e he hk.symm ▸ hans, hn.symm⟩
  · rintro ⟨e, he, hk, hans, hn⟩
    exact ⟨e, he, hk ▸ hq, (hok e he hk).trans hans, hk.symm, hn.symm⟩

/-- The members pass 2 goes through, as one cluster sees them. -/
theorem member_of_cluster (h : readsInventory providers quarantined scanned = some r) (hq : k ∉ quarantined)
    {q : ProxmoxEndpoint → Prop} :
    (∃ m ∈ (scanned.foldl (readEndpoint (clients providers) quarantined) {}).members.rows, m.cluster = k ∧ q m) ↔
      ∃ m, member providers scanned k = some m ∧ q m := by
  simp only [mem_members]
  constructor
  · rintro ⟨m, ⟨-, hm⟩, rfl, hqm⟩
    exact ⟨m, (firstAnswering_eq h hq).symm.trans hm, hqm⟩
  · rintro ⟨m, hm, hqm⟩
    rw [← firstAnswering_eq h hq] at hm
    obtain ⟨-, rfl, -⟩ := firstAnswering_mem hm
    exact ⟨m, ⟨hq, hm⟩, rfl, hqm⟩

theorem member_mem {m : ProxmoxEndpoint} (h : member providers scanned k = some m) :
    m ∈ scanned ∧ m.cluster = k ∧ (providers m.pk).answers (nodeOf providers m) = true := by
  have hp := List.find?_some h
  simp only [Bool.and_eq_true, beq_iff_eq] at hp
  exact ⟨List.mem_of_find?_eq_some h, hp⟩

/-- The nodes a scan tries are those it reads through some endpoint. -/
theorem attempted_iff (h : readsInventory providers quarantined scanned = some r) (hq : k ∉ quarantined) {n : String} :
    (k, n) ∈ r.attempts ↔ ∃ e, ReadsNode providers scanned k e n := by
  rw [readsInventory_eq h, readInventory, (fillMembers_cluster (Table.unique _) n).2, pass_attempts,
    member_of_cluster h hq, pass_covered_iff h hq]
  simp only [List.not_mem_nil, false_or, Prod.mk.injEq]
  constructor
  · rintro (⟨e, he, hk, hn⟩ | ⟨m, hm, hn, hc⟩)
    · exact ⟨e, he, hk.symm, .inl hn.symm⟩
    · obtain ⟨hin, hk, -⟩ := member_mem hm
      exact ⟨m, hin, hk, .inr ⟨hm, hn, fun e he hek hans hown => hc ⟨e, he, hek, hans, hown⟩⟩⟩
  · rintro ⟨e, he, hk, hown | ⟨hm, hn, hgap⟩⟩
    · exact .inl ⟨e, he, hk.symm, hown.symm⟩
    · refine .inr ⟨e, hm, hn, ?_⟩
      rintro ⟨e', he', hk', hans, hown⟩
      exact hgap e' he' hk' hans hown

/-- The nodes it covers are those where some endpoint it reads through answers. -/
theorem covered_iff (h : readsInventory providers quarantined scanned = some r) (hq : k ∉ quarantined) {n : String} :
    (k, n) ∈ r.coverage ↔ ∃ e, ReadsNode providers scanned k e n ∧ (providers e.pk).answers n = true := by
  obtain ⟨r₁, h₁, h₂⟩ := Option.bind_eq_some_iff.mp h
  have hpass := foldlM_eq_foldl (fun _ _ _ he => (readsEndpoint_some he).1) h₁
  have hreads := fillsMembers_reads (Table.unique _) h₂
  rw [hpass] at hreads
  -- The member's read of a gap did not raise.
  have hgapok : ∀ m, member providers scanned k = some m → n ∈ listed providers m →
      (¬ ∃ e ∈ scanned, e.cluster = k ∧ (providers e.pk).answers (nodeOf providers e) = true ∧ nodeOf providers e = n) →
      ((clients providers m.pk).inventory n).ok = (providers m.pk).answers n := by
    intro m hm hn hgap
    obtain ⟨-, hk, -⟩ := member_mem hm
    have hrow : m ∈ (scanned.foldl (readEndpoint (clients providers) quarantined) {}).members.rows :=
      mem_members.mpr ⟨hk ▸ hq, by rw [hk, firstAnswering_eq h hq]; exact hm⟩
    refine client_ok (hreads m hrow n hn ?_)
    rw [hk, pass_covered_iff h hq]
    exact hgap
  rw [readsInventory_eq h, readInventory, (fillMembers_cluster (Table.unique _) n).1, member_of_cluster h hq,
    pass_covered_iff h hq]
  by_cases hown : ∃ e ∈ scanned, e.cluster = k ∧ (providers e.pk).answers (nodeOf providers e) = true ∧ nodeOf providers e = n
  · refine iff_of_true (.inl hown) ?_
    obtain ⟨e, he, hk, hans, rfl⟩ := hown
    exact ⟨e, ⟨he, hk, .inl rfl⟩, hans⟩
  · rw [or_iff_right hown]
    constructor
    · rintro ⟨m, hm, hn, hok⟩
      obtain ⟨hin, hk, -⟩ := member_mem hm
      rw [hgapok m hm hn hown] at hok
      exact ⟨m, ⟨hin, hk, .inr ⟨hm, hn, fun e he hek hans hn' => hown ⟨e, he, hek, hans, hn'⟩⟩⟩, hok⟩
    · rintro ⟨e, ⟨he, hk, hread⟩, hans⟩
      rcases hread with rfl | ⟨hm, hn, -⟩
      · exact absurd ⟨e, he, hk, hans, rfl⟩ hown
      · exact ⟨e, hm, hn, (hgapok e hm hn hown).trans hans⟩

theorem marksComplete_iff (db : GuestDb) (s : ScanInventory) {order : List Nat} (pk : Nat)
    (horder : order.Perm s.clusterIds)
    (hdb : ∀ e ∈ s.attemptedEndpoints, ∀ pk, e.clusterId = some pk → (db.get pk).isSome) (ha : s.Attempts pk) :
    MarksComplete db s order pk ↔ (s.clusterScan pk).complete = true := by
  obtain ⟨db', hdb', hturns, -⟩ := reconcileScanGuestInventory_turns db horder hdb
  obtain ⟨e, he, hpk⟩ := ha
  obtain ⟨c, hc⟩ := Option.isSome_iff_exists.mp (hdb e he pk hpk)
  have hget := hturns pk ⟨e, he, hpk⟩
  rw [hc, Option.map_some] at hget
  constructor
  · rintro ⟨db'', c', st, hdb'', hc', hst, hcomplete⟩
    rw [hdb'] at hdb''
    cases hdb''
    rw [hget] at hc'
    cases hc'
    cases hst
    exact hcomplete
  · intro h
    exact ⟨db', _, _, hdb', hget, rfl, h⟩

variable {scan : Nat} {copy : Nat → ClusterCopy} {now : Time}

theorem mem_attemptedNodes {n : String} :
    n ∈ ((r.scanInventory scan copy scanned now).clusterScan k).attemptedNodes ↔ (k, n) ∈ r.attempts := by
  simp [ScanRead.scanInventory, ScanInventory.clusterScan]

theorem mem_coveredNodes {n : String} :
    n ∈ ((r.scanInventory scan copy scanned now).clusterScan k).coveredNodes ↔ (k, n) ∈ r.coverage := by
  simp [ScanRead.scanInventory, ScanInventory.clusterScan]

/-- A cluster is complete when everything the scan tries of it is answered somewhere. -/
theorem complete_iff (h : readsInventory providers quarantined scanned = some r) (hk : ∃ e ∈ scanned, e.cluster = k) :
    ((r.scanInventory scan copy scanned now).clusterScan k).complete = true ↔
      k ∉ quarantined ∧ ¬ Unanswered providers scanned k := by
  have hcovers : ((r.scanInventory scan copy scanned now).clusterScan k).coveredNodes ≠ [] ↔ ∃ n, (k, n) ∈ r.coverage := by
    constructor
    · intro hne
      obtain ⟨n, hn⟩ := List.exists_mem_of_ne_nil _ hne
      exact ⟨n, mem_coveredNodes.mp hn⟩
    · rintro ⟨n, hn⟩
      exact List.ne_nil_of_mem (mem_coveredNodes.mpr hn)
  rw [ClusterScan.complete_iff, hcovers]
  simp only [mem_coveredNodes, mem_attemptedNodes]
  by_cases hq : k ∈ quarantined
  · refine iff_of_false (fun hc => ?_) fun hc => hc.1 hq
    rw [readsInventory_eq h, readInventory_covers] at hc
    exact hc.1.1 hq
  · simp only [attempted_iff h hq, covered_iff h hq]
    constructor
    · rintro ⟨-, hsame⟩
      refine ⟨hq, ?_⟩
      rintro ⟨n, hread, hnone⟩
      obtain ⟨e, he, hans⟩ := (hsame n).mp hread
      rw [hnone e he] at hans
      cases hans
    · rintro ⟨-, hall⟩
      have hcovers : ∀ n, (∃ e, ReadsNode providers scanned k e n) →
          ∃ e, ReadsNode providers scanned k e n ∧ (providers e.pk).answers n = true := by
        intro n hread
        by_contra hnone
        refine hall ⟨n, hread, fun e he => ?_⟩
        rw [← Bool.not_eq_true]
        exact fun hans => hnone ⟨e, he, hans⟩
      obtain ⟨e, he, hek⟩ := hk
      refine ⟨⟨_, hcovers _ ⟨e, he, hek, .inl rfl⟩⟩, fun n => ⟨hcovers n, ?_⟩⟩
      rintro ⟨e, he, -⟩
      exact ⟨e, he⟩

theorem not_isList_iff {data : Option Json} : data.all (!isList ·) = true ↔ ¬ ∃ rows, data = some (.arr rows) := by
  cases data with
  | none => simp
  | some data => cases data <;> simp [isList]

/-- A cluster whose tried nodes are all answered was read as it should be exactly when
nothing was miscounted. -/
theorem earned_iff (hk : ∃ e ∈ scanned, e.cluster = k) (hall : ¬ Unanswered providers scanned k) :
    Earned providers scanned k ↔ ¬ Miscounted providers scanned k := by
  have hwell : ∀ {e n}, (providers e.pk).answers n = true → ¬ Miscounted providers scanned k →
      ReadsNode providers scanned k e n → (providers e.pk).WellRead n := by
    intro e n hans hmis he
    refine wellRead_iff.mpr ⟨hans, ?_⟩
    rw [← Bool.not_eq_true]
    exact fun hbad => hmis (.node e n he hans hbad)
  constructor
  · rintro ⟨⟨m, hm, hlist, -⟩, hcounted⟩ hmis
    cases hmis with
    | listing m' hm' h =>
      rw [hm] at hm'
      cases hm'
      exact not_isList_iff.mp h hlist
    | node e n he hans h =>
      obtain ⟨-, hformed⟩ := wellRead_iff.mp (hcounted e n he hans)
      rw [h] at hformed
      cases hformed
  · intro hmis
    -- The node of any endpoint of the cluster is answered, so there is a member.
    obtain ⟨m, hm⟩ : ∃ m, member providers scanned k = some m := by
      obtain ⟨e₀, he₀, hk₀⟩ := hk
      by_contra hnone
      have hnone : member providers scanned k = none := Option.eq_none_iff_forall_ne_some.mpr fun m hm => hnone ⟨m, hm⟩
      refine hall ⟨nodeOf providers e₀, ⟨e₀, he₀, hk₀, .inl rfl⟩, ?_⟩
      rintro e ⟨he, hek, hread⟩
      rcases hread with hown | ⟨hm, -⟩
      · have := List.find?_eq_none.mp hnone e he
        simpa [hek, hown] using this
      · rw [hnone] at hm
        cases hm
    refine ⟨⟨m, hm, ?_, fun n hn => ?_⟩, fun e n he hans => hwell hans hmis he⟩
    · by_contra hlist
      exact hmis (.listing m hm (not_isList_iff.mpr hlist))
    · -- A listed node is read: as an endpoint's own, or by the member as a gap.
      have hread : ∃ e, ReadsNode providers scanned k e n := by
        obtain ⟨hin, hkm, -⟩ := member_mem hm
        by_cases hown : ∃ e ∈ scanned, e.cluster = k ∧ nodeOf providers e = n
        · obtain ⟨e, he, hek, hnode⟩ := hown
          exact ⟨e, he, hek, .inl hnode⟩
        · exact ⟨m, hin, hkm, .inr ⟨hm, hn, fun e he hek _ hnode => hown ⟨e, he, hek, hnode⟩⟩⟩
      by_contra hnone
      refine hall ⟨n, hread, fun e he => ?_⟩
      rw [← Bool.not_eq_true]
      exact fun hans => hnone ⟨e, he, hwell hans hmis he⟩

/-- **When completeness is earned.** A scan that comes to its reconcile marks a cluster it
contacted complete only on well-formed answers exactly when the cluster is quarantined or
some node of it is answered by nobody, so that it is not marked, or nothing of another
shape is counted: the member's node listing is a list, and every endpoint that answers
each read of a node it is asked for answers them in the shape they should have. -/
theorem complete_earned_iff (h : readsInventory providers quarantined scanned = some r) {db : GuestDb} {order : List Nat}
    (horder : order.Perm (r.scanInventory scan copy scanned now).clusterIds)
    (hdb : ∀ e ∈ scanned, (db.get e.cluster).isSome = true) (hk : ∃ e ∈ scanned, e.cluster = k) :
    (MarksComplete db (r.scanInventory scan copy scanned now) order k → Earned providers scanned k) ↔
      k ∈ quarantined ∨ Unanswered providers scanned k ∨ ¬ Miscounted providers scanned k := by
  have hmarks := marksComplete_iff db (r.scanInventory scan copy scanned now) k horder
    (by
      intro e he pk hpk
      obtain ⟨x, hx, rfl⟩ := List.mem_map.mp he
      cases hpk
      exact hdb x hx)
    (by
      obtain ⟨e, he, rfl⟩ := hk
      exact ⟨_, List.mem_map_of_mem he, rfl⟩)
  rw [hmarks, complete_iff h hk]
  by_cases hq : k ∈ quarantined
  · simp [hq]
  · by_cases hall : Unanswered providers scanned k
    · simp [hall]
    · simp [hq, hall, earned_iff hk hall]

end

/-- One guest on one node, and what the cluster's node listing answers. -/
def oneGuest (nodes : Option Json) : Provider where
  get
    | .nodes => nodes
    | .guests .vm "pve1" => some (.arr [.obj [("vmid", .int 100), ("status", .str "running")]])
    | .config .vm "pve1" 100 => some (.obj [("name", .str "web")])
    | .guests .. => some (.arr [])
    | .config .. => none
  certificates := fun _ => none

def pve1 : ProxmoxEndpoint := ⟨10, "pve1", 1, true, ""⟩

def oneCluster : GuestDb := twoNodeDb

/-- What a scan through that one endpoint reads. -/
def oneRead (nodes : Option Json) : Option ScanRead := readsInventory (fun _ => oneGuest nodes) [] [pve1]

/-- The listing of one node, read as it should be. -/
theorem one_node_earned :
    ∃ r, oneRead (some (.arr [.obj [("node", .str "pve1")]])) = some r ∧
      (MarksComplete oneCluster (r.scanInventory 7 (fun _ => ⟨1, 1⟩) [pve1] 50) [1] 1 →
        Earned (fun _ => oneGuest (some (.arr [.obj [("node", .str "pve1")]]))) [pve1] 1) := by
  obtain ⟨r, hr⟩ : ∃ r, oneRead (some (.arr [.obj [("node", .str "pve1")]])) = some r :=
    Option.isSome_iff_exists.mp (by decide +kernel)
  refine ⟨r, hr, ?_⟩
  have hmember : member (fun _ => oneGuest (some (.arr [.obj [("node", .str "pve1")]]))) [pve1] 1 = some pve1 := by
    decide +kernel
  refine (complete_earned_iff hr (List.Perm.refl [1]) (by decide) ⟨pve1, by decide, rfl⟩).mpr (.inr (.inr ?_))
  intro hmis
  cases hmis with
  | listing m hm h =>
    cases hmember.symm.trans hm
    revert h
    decide
  | node e n he hans h =>
    obtain ⟨hin, -, hread⟩ := he
    obtain rfl := List.mem_singleton.mp hin
    have hn : n = "pve1" := by
      rcases hread with hown | ⟨-, hlisted, -⟩
      · exact hown.symm.trans (by decide +kernel)
      · simpa using (show n ∈ ["pve1"] from hlisted)
    subst hn
    revert h
    decide +kernel

/-- The node listing fails: only the endpoint's own node is read, and the cluster is complete. -/
theorem unlisted_cluster_complete :
    ¬ ∀ (providers : Nat → Provider) (quarantined : List Nat) (scanned : List ProxmoxEndpoint) (r : ScanRead) (scan : Nat)
        (copy : Nat → ClusterCopy) (now : Time) (db : GuestDb) (order : List Nat) (k : Nat),
      readsInventory providers quarantined scanned = some r →
      order.Perm (r.scanInventory scan copy scanned now).clusterIds →
      (∀ e ∈ scanned, (db.get e.cluster).isSome = true) → (∃ e ∈ scanned, e.cluster = k) →
      MarksComplete db (r.scanInventory scan copy scanned now) order k → Earned providers scanned k := by
  intro h
  let r := (oneRead none).get (by decide +kernel)
  have hr : oneRead none = some r := Option.some_get _ |>.symm
  have hcomplete : MarksComplete oneCluster (r.scanInventory 7 (fun _ => ⟨1, 1⟩) [pve1] 50) [1] 1 := by
    refine (marksComplete_iff _ _ _ (List.Perm.refl [1]) (by decide +kernel) ⟨⟨10, "pve1", some 1, ⟨1, 1⟩⟩, ?_, rfl⟩).mpr ?_
    · exact List.mem_singleton.mpr rfl
    · decide +kernel
  obtain ⟨⟨m, -, ⟨rows, hrows⟩, -⟩, -⟩ := h _ _ _ r 7 (fun _ => ⟨1, 1⟩) 50 oneCluster [1] 1 hr (List.Perm.refl [1]) (by decide)
    ⟨pve1, by decide, rfl⟩ hcomplete
  cases hrows

end PveHelper.Scans
