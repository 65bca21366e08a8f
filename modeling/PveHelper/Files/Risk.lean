/-
What a file action would break, after `core/services/file_actions.py`: the
guests that reference the file through a binding of its mount, those whose
VMID its image directory names, and the nodes nobody could ask.

A guest's display name is left out with the label texts that show it, and so
is the branch that a test setting enables for mounts without a binding.
-/
import PveHelper.Storage.Usage

namespace PveHelper.Files

open Lib Guests Storage

/-- `FileInventory.EntryType`. -/
inductive EntryType
  | file | directory | symlink | other
deriving DecidableEq, Repr

/-- `FileInventory.Classification`. -/
inductive Classification
  | referenced | likelyOrphan | unknown | classificationBlocked | trash | infrastructure | proxmoxContent | importSource
deriving DecidableEq, Repr

/-- What a scan recorded of one storage's consumers. -/
structure GateStatus where
  ok : Bool
  missingConsumers : List String

/-- `FileInventory`, with the mount it was found on and its scan's gate. -/
structure FileEntry where
  storage : StorageMount
  path : String
  derivedVolid : String
  contentCategory : String
  entryType : EntryType
  classification : Classification
  storageGateStatus : List (String × GateStatus)

/-- `ReferencedObject`. -/
structure ReferencedObject where
  clusterKey : String
  objectType : ObjectType
  vmid : Nat
  node : String
  status : String
deriving DecidableEq

inductive RiskLevel
  | normal | warning | danger | blocked
deriving DecidableEq, Repr

/-- `FileActionRisk`. -/
structure FileActionRisk where
  level : RiskLevel
  reason : String
  referencedObjects : List ReferencedObject
  requiresExtraConfirmation : Bool := false
  blocked : Bool := false
  unverifiedNodes : List String := []
  acknowledgeable : Bool := false

/-! ## The mount's bindings -/

/-- A binding of a mount, with the storage and the cluster it belongs to. -/
structure BoundStorage where
  cluster : StorageCluster
  storage : ClusterStorage
  binding : MountBinding

/-- Bindings by cluster key, storage id and node. -/
def BoundStorage.before (a b : BoundStorage) : Bool :=
  if a.cluster.guest.key ≠ b.cluster.guest.key then decide (a.cluster.guest.key < b.cluster.guest.key)
  else if a.storage.storageId ≠ b.storage.storageId then decide (a.storage.storageId < b.storage.storageId)
  else a.binding.before b.binding

/-- `entry.storage.cluster_bindings` of clusters not retired and storages managed. -/
def entryBindings (inst : Installation) (e : FileEntry) : List BoundStorage :=
  (inst.clusters.rows.flatMap fun c =>
    (c.catalog.storages.rows.filter fun d => !c.catalog.retired && !d.unmanaged).flatMap fun d =>
      (d.mountBindings.rows.filter fun b => b.mount == e.storage.pk).map fun b => ⟨c, d, b⟩).insertionSort
    fun a b => a.before b

/-- The guest rows a binding consults: those of its node, when it has one. -/
def BoundStorage.guests (x : BoundStorage) : List CurrentGuest :=
  let rows := x.cluster.guest.guests.rows
  match x.binding.node with
  | none => rows
  | some node => if node = "" then rows else rows.filter fun g => g.node == node

/-- `_referenced_object`. -/
def BoundStorage.object (x : BoundStorage) (g : CurrentGuest) : ReferencedObject :=
  ⟨x.cluster.guest.key, g.objectType, g.vmid, g.node, g.status⟩

/-! ## What the entry touches -/

/-- The part of the entry's volume id after the storage, when it has one. -/
def FileEntry.volumeSuffix (e : FileEntry) : Option String :=
  if e.derivedVolid = "" then none else (Text.partition ':' e.derivedVolid).2

/-- `_referenced_objects`. -/
def referencedObjects (inst : Installation) (e : FileEntry) : List ReferencedObject :=
  match e.volumeSuffix with
  | none => []
  | some suffix => (entryBindings inst e).flatMap fun x =>
      (x.guests.filter fun g => g.diskReferences.contains (x.storage.storageId ++ ":" ++ suffix)).map x.object

/-- `extract_vmid_from_image_path`. -/
def extractVmidFromImagePath (path : String) : Option Int :=
  match Text.posixParts path with
  | "images" :: vmid :: _ :: _ => Text.toInt vmid
  | _ => none

/-- `_vmid_objects`. -/
def vmidObjects (inst : Installation) (e : FileEntry) : List ReferencedObject :=
  match extractVmidFromImagePath e.path with
  | none => []
  | some vmid => (entryBindings inst e).flatMap fun x =>
      (x.guests.filter fun g => decide ((g.vmid : Int) = vmid)).map x.object

/-- `_unverified_consumers`. -/
def unverifiedConsumers (e : FileEntry) : List String :=
  match (e.storageGateStatus.find? fun s => s.1 == e.storage.storageId).map (·.2) with
  | none => []
  | some gate => if gate.ok then [] else gate.missingConsumers.filter (· != "")

/-- `_unenrolled_eligible_nodes`. -/
def unenrolledEligibleNodes (inst : Installation) (e : FileEntry) : List String :=
  sortedSet ((entryBindings inst e).flatMap fun x => unobservedEligibleNodes x.cluster x.storage)

/-- `_node_list`. -/
def nodeList (nodes : List String) : String :=
  if nodes.isEmpty then "one or more expected nodes" else ", ".intercalate nodes

/-- `_is_proxmox_guest_file`. -/
def isProxmoxGuestFile (e : FileEntry) : Bool :=
  ["vm_disk", "base_image", "ct_private"].contains e.contentCategory ||
    (Text.posixParts e.path).take 1 == ["images"] || (Text.posixParts e.path).take 1 == ["private"]

/-! ## The risk -/

/-- The guest's node is one of those nobody could ask. -/
def ReferencedObject.unconfirmed (unverified : List String) (o : ReferencedObject) : Bool :=
  o.node != "" && unverified.contains o.node

/-- `_running_guest_risk`. Whether an object is confirmed depends on its node
alone, so equal objects are on one side. -/
def runningGuestRisk (running : List ReferencedObject) (unverified : List String)
    (confirmedReason unconfirmedReason : String) : Option FileActionRisk :=
  let unconfirmed := running.filter (·.unconfirmed unverified)
  let confirmed := running.filter fun o => !o.unconfirmed unverified
  if !confirmed.isEmpty then
    some {
      level := .blocked
      reason := confirmedReason
      referencedObjects := confirmed
      requiresExtraConfirmation := true
      blocked := true }
  else if !unconfirmed.isEmpty then
    some {
      level := .danger
      reason := unconfirmedReason ++ ", but " ++ nodeList unverified ++
        " could not be reached, so that status could not be confirmed"
      referencedObjects := unconfirmed
      requiresExtraConfirmation := true
      unverifiedNodes := unverified
      acknowledgeable := true }
  else none

def running (objects : List ReferencedObject) : List ReferencedObject := objects.filter fun o => o.status == "running"

/-- A running-guest check; no risk where no guest runs or running is not asked about. -/
def runningCheck (blockRunningGuests : Bool) (objects : List ReferencedObject) (unverified : List String)
    (confirmedReason unconfirmedReason : String) : Option FileActionRisk :=
  if blockRunningGuests && !(running objects).isEmpty then
    runningGuestRisk (running objects) unverified confirmedReason unconfirmedReason
  else none

/-- `_directory_action_risk`. -/
def directoryActionRisk (inst : Installation) (e : FileEntry) (blockRunningGuests : Bool) : FileActionRisk :=
  let parts := Text.posixParts e.path
  if parts.take 1 == ["images"] || parts.take 1 == ["private"] then
    let objects := vmidObjects inst e
    if parts.length = 1 then
      { level := .blocked
        reason := "Top-level Proxmox guest directories are managed by Proxmox and cannot be changed " ++
          "from the file browser."
        referencedObjects := []
        requiresExtraConfirmation := true
        blocked := true }
    else
      (runningCheck blockRunningGuests objects (unverifiedConsumers e)
        "This directory belongs to a running Proxmox guest. Stop the guest manually in Proxmox before changing it"
        "This directory belongs to a guest that was last seen running").getD
        { level := .warning
          reason := "This empty Proxmox guest directory will be moved to the Recycle Bin."
          referencedObjects := objects
          requiresExtraConfirmation := true }
  else if parts.take 1 == [".trash"] then
    { level := .blocked
      reason := "Trash directories are managed from the trash view."
      referencedObjects := []
      blocked := true }
  else
    { level := .warning
      reason := "This directory and all contents will be moved to the Recycle Bin."
      referencedObjects := []
      requiresExtraConfirmation := true }

/-- `danger_reasons`: every fact that applies, in one question. -/
def dangerReasons (inst : Installation) (e : FileEntry) : List String :=
  (if !(referencedObjects inst e).isEmpty then ["A guest configuration still points at this file, and changing it " ++
      "breaks that reference until the guest config is corrected."] else []) ++
  (if !(unverifiedConsumers e).isEmpty && isProxmoxGuestFile e then ["Node " ++ nodeList (unverifiedConsumers e) ++
      " did not report storage inventory, so a guest there may be using this file without anything here knowing."]
    else []) ++
  (if !(unenrolledEligibleNodes inst e).isEmpty && isProxmoxGuestFile e then
      [unobservedNodeReason (unenrolledEligibleNodes inst e)]
    else [])

/-- The risk of a regular file after both running-guest checks passed. -/
def restingFileRisk (inst : Installation) (e : FileEntry) : FileActionRisk :=
  if !(dangerReasons inst e).isEmpty then
    { level := .danger
      reason := " ".intercalate (dangerReasons inst e)
      referencedObjects := referencedObjects inst e
      requiresExtraConfirmation := true
      unverifiedNodes := (unverifiedConsumers e ++ unenrolledEligibleNodes inst e).reverse.dedup.reverse
      acknowledgeable := true }
  else if e.contentCategory = "base_image" then
    { level := .danger
      reason := "This is a base image and may be used by linked clones; backing-chain analysis is not available in V1."
      referencedObjects := vmidObjects inst e
      requiresExtraConfirmation := true }
  else if isProxmoxGuestFile e then
    { level := .warning
      reason := "This looks like a Proxmox guest-related file."
      referencedObjects := vmidObjects inst e
      requiresExtraConfirmation := true }
  else { level := .normal, reason := "Standard file action.", referencedObjects := [] }

/-- `file_action_risk`. -/
def fileActionRisk (inst : Installation) (e : FileEntry) (blockRunningGuests : Bool) : FileActionRisk :=
  if e.classification = .trash ∨ e.contentCategory = "trash" then
    { level := .blocked
      reason := "Items already in trash are managed from the trash view."
      referencedObjects := []
      blocked := true }
  else if e.entryType = .directory then directoryActionRisk inst e blockRunningGuests
  else if e.entryType ≠ .file then
    { level := .blocked
      reason := "Only regular files and directories can be changed."
      referencedObjects := []
      blocked := true }
  else
    -- The first check that gives a risk ends the questions.
    ((runningCheck blockRunningGuests (referencedObjects inst e) (unverifiedConsumers e)
        "This file belongs to a running Proxmox guest. Stop the guest manually in Proxmox before changing this file"
        "This file belongs to a guest that was last seen running").or
      (runningCheck blockRunningGuests (vmidObjects inst e) (unverifiedConsumers e)
        ("This file is in the image directory of a running Proxmox guest. " ++
          "Stop the guest manually in Proxmox before changing this file")
        "This file is in the image directory of a guest that was last seen running")).getD
      (restingFileRisk inst e)

end PveHelper.Files
