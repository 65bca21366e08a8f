/-
The file half of a scan and the refresh of one directory, after the
classification loop of `_run_scan` and `core/services/partial_scan.py`. The scan
classifies with what it holds in memory: the volumes and templates gathered
while the nodes were read, and the gates just computed. The refresh builds the
same from what the scan stored. Both end in the same classifier, so over an
unchanged mount and an unchanged catalog a refresh changes no verdict.
-/
import PveHelper.Scans.Ingestion
import PveHelper.Scans.ConsumerGate
import PveHelper.Files.Classifier

namespace PveHelper.Scans

open Lib Guests Storage Files

/-! ## What a scan gathers -/

/-- `ProxmoxInventory`. -/
structure ProxmoxInventory where
  scan : Nat
  cluster : Nat
  node : String
  objectType : InventoryType
  vmid : Option Nat
  status : String
  config : Config
  diskReferences : List String

/-- `_is_template`. -/
def isTemplate (config : Config) : Bool :=
  match Json.lookup config "template" with
  | some (.bool b) => b
  | some (.int n) => decide (n = 1)
  | some (.str s) => decide (s = "1")
  | _ => false

/-- The accumulators `_ingest_scan_objects` fills for the file half. -/
structure Gathered where
  proxmoxObjects : List ProxmoxInventory := []
  referencedVolids : List String := []
  templateVmids : List Nat := []

/-- One object in `_ingest_scan_objects`. -/
def ingestObject (scan : Nat) (g : Gathered) (i : Ingested) : Gathered where
  referencedVolids := g.referencedVolids ++ i.object.diskReferences
  templateVmids :=
    if i.object.objectType = .vm && isTemplate i.object.config then g.templateVmids ++ i.object.vmid.toList
    else g.templateVmids
  proxmoxObjects := g.proxmoxObjects ++ [
    { scan := scan
      cluster := i.endpoint.cluster
      node := i.object.node
      objectType := i.object.objectType
      vmid := i.object.vmid
      status := i.object.status
      config := i.object.config
      diskReferences := i.object.diskReferences }]

/-- Everything the two passes ingested. -/
def ingestScanObjects (scan : Nat) (read : ScanRead) : Gathered := read.ingested.foldl (ingestObject scan) {}

/-- The templates of `_scan_references`, one row. -/
def ProxmoxInventory.templateVmid (row : ProxmoxInventory) : List Nat :=
  if row.objectType = .vm && isTemplate row.config then row.vmid.toList else []

/-- `_scan_references`. -/
def scanReferences (rows : List ProxmoxInventory) : List String × List Nat :=
  (rows.flatMap (·.diskReferences), rows.flatMap (·.templateVmid))

/-! ## Rows -/

/-- `FileInventory`. -/
structure FileInventory where
  scan : Nat
  storage : Nat
  path : String
  derivedVolid : String
  contentCategory : ContentCategory
  entryType : EntryType
  sizeBytes : Option Nat
  modifiedAt : Time
  classification : Classification
  classificationReason : String
  matchedObject : MatchedObject
  evidence : List (String × Json)

/-- The row of an entry, with what its writer adds to the evidence. -/
def inventoryRow (scan storage : Nat) (e : StorageEntry) (c : ClassificationResult) (notes : List (String × Json)) :
    FileInventory where
  scan := scan
  storage := storage
  path := e.relativePath
  derivedVolid := e.derivedVolid
  contentCategory := e.contentCategory
  entryType := e.entryType
  sizeBytes := e.sizeBytes
  modifiedAt := e.modifiedAt
  classification := c.classification
  classificationReason := c.reason
  matchedObject := c.matchedObject
  evidence := c.evidence ++ notes

/-- The row but for its evidence, in which a refresh leaves its marks. -/
def FileInventory.verdict (f : FileInventory) : FileInventory := { f with evidence := [] }

/-- The machine the scans run on, with its mounts by primary key. -/
structure Host where
  tree : Nat → FileTree
  root : Nat → String
  /-- `ignored_relative_paths_for_storage`. -/
  ignored : Nat → List String
  lower : String → String
  /-- `probe_qemu_image_info`. -/
  probe : StorageEntry → Json
  health : Nat → StorageBackendProfile → MountHealth

section
variable (host : Host) (inst : Installation)

def Host.scanner (m : StorageMount) : StorageScanner := ⟨m.storageId, host.root m.pk, host.ignored m.pk⟩

/-- What the classifier of a mount is built with. -/
def scanFacts (gate : Bool × List String) (references : List String × List Nat) : ScanFacts :=
  ⟨references.1, references.2, gate.1, gate.2⟩

/-- The directories of a mount that the scan walks; none while the mount is unavailable. -/
def Host.walked (m : StorageMount) : List (List String) :=
  if (registeredMountHealth host.health inst m).available then (host.scanner m).walked (host.tree m.pk) host.lower else []

/-- The classification loop, one storage. -/
def scanStorage (scan : Nat) (g : Gathered) (gates : Gates) (m : StorageMount) : List FileInventory :=
  if !(registeredMountHealth host.health inst m).available then []
  else
    let facts := scanFacts (appliedGate gates m) (g.referencedVolids, g.templateVmids)
    ((host.scanner m).iterEntries (host.tree m.pk) host.lower).map fun e =>
      inventoryRow scan m.pk e (classify host.health inst facts m e)
        [("full_path", .str e.fullPath), ("image_info", host.probe e)]

/-- A scan as it is stored. -/
structure StoredScan where
  pk : Nat
  storageGateStatus : List (String × GateStatus)

/-- The stored gate of a mount: `ok` and `missing_consumers`. -/
def StoredScan.gate (scan : StoredScan) (m : StorageMount) : Bool × List String :=
  match (scan.storageGateStatus.find? fun s => s.1 == m.storageId).map (·.2) with
  | none => (false, [])
  | some g => (g.ok, g.missingConsumers)

/-- `refresh_storage_directory`: the file rows after it. -/
def refreshStorageDirectory (scan : StoredScan) (inventory : List ProxmoxInventory) (m : StorageMount)
    (directory : String) (files : List FileInventory) : List FileInventory :=
  let facts := scanFacts (scan.gate m) (scanReferences (inventory.filter fun r => r.scan == scan.pk))
  let rows := ((host.scanner m).iterDirectory (host.tree m.pk) host.lower directory).map fun e =>
    inventoryRow scan.pk m.pk e (classify host.health inst facts m e)
      [("full_path", .str e.fullPath), ("image_info", host.probe e), ("partial_refresh", .bool true),
        ("partial_refresh_directory", .str (if directory = "" then "/" else directory))]
  (files.filter fun f => !(f.scan == scan.pk && f.storage == m.pk && Posix.directChild directory f.path)) ++ rows

end

/-! ## What is stored is what was held -/

/-- The sets a scan holds are those its rows give back. -/
structure Gathered.Kept (g : Gathered) : Prop where
  referencedVolids : ∀ v, v ∈ g.referencedVolids ↔ v ∈ (scanReferences g.proxmoxObjects).1
  templateVmids : ∀ n, n ∈ g.templateVmids ↔ n ∈ (scanReferences g.proxmoxObjects).2

theorem scanReferences_concat (rows : List ProxmoxInventory) (row : ProxmoxInventory) :
    scanReferences (rows ++ [row]) =
      ((scanReferences rows).1 ++ row.diskReferences, (scanReferences rows).2 ++ row.templateVmid) := by
  simp [scanReferences]

theorem ingestObject_kept {scan : Nat} {g : Gathered} (h : g.Kept) (i : Ingested) : (ingestObject scan g i).Kept := by
  constructor
  · intro v
    simp only [ingestObject, scanReferences_concat, List.mem_append, h.referencedVolids v]
  · intro n
    simp only [ingestObject, scanReferences_concat, List.mem_append, ← h.templateVmids n]
    unfold ProxmoxInventory.templateVmid
    by_cases ht : (i.object.objectType = .vm && isTemplate i.object.config) = true
    · rw [if_pos ht, if_pos ht, List.mem_append]
    · rw [if_neg ht, if_neg ht]
      simp

theorem ingestObjects_kept {scan : Nat} {is : List Ingested} {g : Gathered} (h : g.Kept) :
    (is.foldl (ingestObject scan) g).Kept := by
  induction is generalizing g with
  | nil => exact h
  | cons i is ih => exact ih (ingestObject_kept h i)

theorem ingestScanObjects_kept (scan : Nat) (read : ScanRead) : (ingestScanObjects scan read).Kept :=
  ingestObjects_kept ⟨fun _ => Iff.rfl, fun _ => Iff.rfl⟩

/-- References read the rows as a set. -/
theorem scanReferences_congr {rows rows' : List ProxmoxInventory} (h : ∀ r, r ∈ rows ↔ r ∈ rows') :
    (∀ v, v ∈ (scanReferences rows).1 ↔ v ∈ (scanReferences rows').1) ∧
      ∀ n, n ∈ (scanReferences rows).2 ↔ n ∈ (scanReferences rows').2 := by
  simp [scanReferences, h]

theorem StoredScan.gate_stored {scan : StoredScan} {gates : Gates} (h : scan.storageGateStatus = gates.stored)
    (m : StorageMount) : scan.gate m = appliedGate gates m := by
  unfold StoredScan.gate appliedGate
  rw [h, Gates.find?_stored]
  cases gates.get m.storageId <;> rfl

/-! ## A refresh changes no verdict -/

section
variable {host : Host} {inst : Installation} {m : StorageMount}

/-- What a scan stored gives the classifier the facts the scan itself had. -/
theorem facts_same {scan : StoredScan} {read : ScanRead} {gates : Gates} {inventory : List ProxmoxInventory}
    (hgates : scan.storageGateStatus = gates.stored)
    (hrows : ∀ r, r ∈ inventory ∧ r.scan = scan.pk ↔ r ∈ (ingestScanObjects scan.pk read).proxmoxObjects) :
    (scanFacts (scan.gate m) (scanReferences (inventory.filter fun r => r.scan == scan.pk))).Same
      (scanFacts (appliedGate gates m)
        ((ingestScanObjects scan.pk read).referencedVolids, (ingestScanObjects scan.pk read).templateVmids)) := by
  have hkept := ingestScanObjects_kept scan.pk read
  have hset : ∀ r, r ∈ inventory.filter (fun r => r.scan == scan.pk) ↔
      r ∈ (ingestScanObjects scan.pk read).proxmoxObjects := by
    intro r
    rw [← hrows r, List.mem_filter, beq_iff_eq]
  obtain ⟨hvolids, hvmids⟩ := scanReferences_congr hset
  have hgate := StoredScan.gate_stored hgates m
  exact
    { referencedVolids := fun v => (hvolids v).trans (hkept.referencedVolids v).symm
      templateVmids := fun n => (hvmids n).trans (hkept.templateVmids n).symm
      gateOk := congrArg Prod.fst hgate
      missingConsumers := congrArg Prod.snd hgate }

/-- A yielded entry stands in its directory and in no other the walk comes by. -/
theorem yielded_directChild {p q : List String} (hp : ∀ n ∈ p, Posix.IsName n) (hq : ∀ n ∈ q, Posix.IsName n)
    {e : StorageEntry} (he : e ∈ (host.scanner m).yielded (host.tree m.pk) host.lower q) :
    Posix.directChild (Posix.asPosix p) e.relativePath = true ↔ q = p := by
  obtain ⟨ns, n, hs, hn, hentry⟩ := StorageScanner.mem_yielded.mp he
  rw [StorageScanner.entry_relativePath hentry]
  refine Posix.directChild_iff hp fun x hx => ?_
  rcases List.mem_append.mp hx with hx | hx
  · exact hq x hx
  · rw [List.mem_singleton.mp hx]
    exact (host.tree m.pk).names q ns n hs hn

/-- The rows of one storage of a scan that stand in a directory. -/
def rowsIn (scan storage : Nat) (directory : String) (files : List FileInventory) : List FileInventory :=
  files.filter fun f => f.scan == scan && f.storage == storage && Posix.directChild directory f.path

/-- What a scan says of a directory that it walked. -/
theorem mem_scanStorage_verdicts {scan : Nat} {g : Gathered} {gates : Gates} {p : List String}
    (hp : p ∈ host.walked inst m) {v : FileInventory} :
    v ∈ (rowsIn scan m.pk (Posix.asPosix p) (scanStorage host inst scan g gates m)).map FileInventory.verdict ↔
      ∃ e ∈ (host.scanner m).yielded (host.tree m.pk) host.lower p,
        (inventoryRow scan m.pk e (classify host.health inst
          (scanFacts (appliedGate gates m) (g.referencedVolids, g.templateVmids)) m e) []).verdict = v := by
  unfold Host.walked at hp
  split at hp
  · rename_i havailable
    have hnames := StorageScanner.walked_names hp
    unfold rowsIn scanStorage
    rw [havailable]
    simp only [Bool.not_true, Bool.false_eq_true, if_false, List.mem_map, List.mem_filter,
      StorageScanner.iterEntries, List.mem_flatMap]
    constructor
    · intro h
      obtain ⟨f, ⟨⟨e, ⟨q, hq, he⟩, rfl⟩, hin⟩, rfl⟩ := h
      simp only [inventoryRow, beq_self_eq_true, Bool.true_and] at hin
      obtain rfl := (yielded_directChild hnames (StorageScanner.walked_names hq) he).mp hin
      exact ⟨e, he, rfl⟩
    · intro h
      obtain ⟨e, he, rfl⟩ := h
      refine ⟨_, ⟨⟨e, ⟨p, hp, he⟩, rfl⟩, ?_⟩, rfl⟩
      simp only [inventoryRow, beq_self_eq_true, Bool.true_and]
      exact (yielded_directChild hnames hnames he).mpr rfl
  · cases hp

/-- What a refresh says of it; whatever stood in the directory is gone. -/
theorem mem_refresh_verdicts {scan : StoredScan} {inventory : List ProxmoxInventory} {files : List FileInventory}
    {p : List String} (hp : ∀ n ∈ p, Posix.IsName n) {v : FileInventory} :
    v ∈ (rowsIn scan.pk m.pk (Posix.asPosix p)
        (refreshStorageDirectory host inst scan inventory m (Posix.asPosix p) files)).map FileInventory.verdict ↔
      ∃ e ∈ (host.scanner m).yielded (host.tree m.pk) host.lower p,
        (inventoryRow scan.pk m.pk e (classify host.health inst
          (scanFacts (scan.gate m) (scanReferences (inventory.filter fun r => r.scan == scan.pk))) m e) []).verdict = v := by
  unfold rowsIn refreshStorageDirectory
  simp only [List.filter_append, List.filter_filter, List.map_append, List.mem_append, List.mem_map, List.mem_filter]
  constructor
  · intro h
    rcases h with ⟨f, ⟨-, hin⟩, -⟩ | ⟨f, ⟨⟨e, he, rfl⟩, -⟩, rfl⟩
    · rw [Bool.and_not_self] at hin
      cases hin
    · exact ⟨e, (StorageScanner.mem_iterDirectory hp).mp he, rfl⟩
  · intro h
    obtain ⟨e, he, rfl⟩ := h
    refine .inr ⟨_, ⟨⟨e, (StorageScanner.mem_iterDirectory hp).mpr he, rfl⟩, ?_⟩, rfl⟩
    simp only [inventoryRow, beq_self_eq_true, Bool.true_and]
    exact (yielded_directChild hp hp he).mpr rfl

end

/-- **A refresh of a directory that the scan walked gives each of its entries
the row the scan gave it, but for the evidence.** The mount, the catalog and
the guest rows are the scan's, and its gates and `ProxmoxInventory` rows are
still stored. -/
theorem partial_refresh_agrees (host : Host) (inst : Installation) (m : StorageMount) (read : ScanRead)
    (mounts : List GatedMount) (files : List FileInventory) {scan : StoredScan} {inventory : List ProxmoxInventory}
    (hgates : scan.storageGateStatus = (storageGateStatus mounts read.coverage).stored)
    (hrows : ∀ r, r ∈ inventory ∧ r.scan = scan.pk ↔ r ∈ (ingestScanObjects scan.pk read).proxmoxObjects)
    {p : List String} (hp : p ∈ host.walked inst m) (v : FileInventory) :
    v ∈ (rowsIn scan.pk m.pk (Posix.asPosix p)
        (refreshStorageDirectory host inst scan inventory m (Posix.asPosix p) files)).map FileInventory.verdict ↔
      v ∈ (rowsIn scan.pk m.pk (Posix.asPosix p) (scanStorage host inst scan.pk (ingestScanObjects scan.pk read)
        (storageGateStatus mounts read.coverage) m)).map FileInventory.verdict := by
  have hnames : ∀ n ∈ p, Posix.IsName n := by
    unfold Host.walked at hp
    split at hp
    · exact StorageScanner.walked_names hp
    · cases hp
  rw [mem_refresh_verdicts hnames, mem_scanStorage_verdicts hp]
  refine exists_congr fun e => and_congr_right fun _ => ?_
  rw [classify_same (facts_same hgates hrows)]

/-- A mount with one disk image on it. -/
def diskTree : FileTree where
  scandir
    | [] => some ["images"]
    | ["images"] => some ["100"]
    | ["images", "100"] => some ["vm-100-disk-0.raw"]
    | _ => none
  lstat
    | ["images"] => some ⟨.directory, 0, 0⟩
    | ["images", "100"] => some ⟨.directory, 0, 0⟩
    | ["images", "100", "vm-100-disk-0.raw"] => some ⟨.file, 4096, 0⟩
    | _ => none
  stat
    | [] => some .directory
    | ["images"] => some .directory
    | ["images", "100"] => some .directory
    | ["images", "100", "vm-100-disk-0.raw"] => some .file
    | _ => none
  maxDepth := 3
  names := by
    intro p ns n hs hn
    split at hs <;> cases hs <;> obtain rfl := List.mem_singleton.mp hn <;> exact ⟨by decide, by decide, by decide⟩
  listed := by
    intro p ns hs
    split at hs <;> first | rfl | cases hs
  shallow := by
    intro p hp
    split
    · exact absurd hp (by decide)
    · exact absurd hp (by decide)
    · exact absurd hp (by decide)
    · rfl

def diskHost : Host where
  tree _ := diskTree
  root _ := "/storages/nas"
  ignored _ := [".trash/pve-helper", ".trash"]
  lower s := s
  probe _ := .null
  health _ _ := ⟨true, true, ""⟩

/-- The guest the disk belongs to. -/
def diskOwner : ProxmoxObject := ⟨"pve1", .vm, some 100, "running", [], ["nas:100/vm-100-disk-0.raw"]⟩

def diskRead : ScanRead := { ingested := [⟨⟨1, "pve1", 1, true, ""⟩, diskOwner⟩], coverage := [(1, "pve1")] }

def diskMount : StorageMount := ⟨7, "nas", "nas:/export"⟩

def unbound : Installation := { clusters := .empty, mounts := .empty }

theorem disk_directory_walked : ["images", "100"] ∈ diskHost.walked unbound diskMount := by
  refine mem_worklist.mpr ⟨[], List.mem_singleton.mpr rfl, ?_⟩
  exact (Relation.ReflTransGen.single (by decide +kernel)).tail (b := ["images"]) (by decide +kernel)

/-- The scan of the mount, as stored. -/
def diskScan : StoredScan := ⟨5, (storageGateStatus [⟨diskMount, [], .empty⟩] diskRead.coverage).stored⟩

def diskInventory : List ProxmoxInventory := (ingestScanObjects 5 diskRead).proxmoxObjects

/-- The refreshed directory, where the file rows have been lost. -/
def diskRefreshed : List FileInventory :=
  refreshStorageDirectory diskHost unbound diskScan diskInventory diskMount (Posix.asPosix ["images", "100"]) []

theorem disk_refresh_agrees :
    diskRefreshed.map (fun f => (f.path, f.classification)) = [("images/100/vm-100-disk-0.raw", .referenced)] ∧
      ∀ v, v ∈ (rowsIn 5 7 (Posix.asPosix ["images", "100"]) diskRefreshed).map FileInventory.verdict ↔
        v ∈ (rowsIn 5 7 (Posix.asPosix ["images", "100"]) (scanStorage diskHost unbound 5 (ingestScanObjects 5 diskRead)
          (storageGateStatus [⟨diskMount, [], .empty⟩] diskRead.coverage) diskMount)).map FileInventory.verdict := by
  have hgates : diskScan.storageGateStatus = (storageGateStatus [⟨diskMount, [], .empty⟩] diskRead.coverage).stored := rfl
  have hrows : ∀ r, r ∈ diskInventory ∧ r.scan = diskScan.pk ↔ r ∈ (ingestScanObjects diskScan.pk diskRead).proxmoxObjects := by
    intro r
    refine ⟨And.left, fun hr => ⟨hr, ?_⟩⟩
    rw [List.mem_singleton.mp hr]
  refine ⟨by decide +kernel, fun v => ?_⟩
  exact partial_refresh_agrees diskHost unbound diskMount diskRead _ [] hgates hrows disk_directory_walked v

end PveHelper.Scans
