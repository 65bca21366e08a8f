/-
`ScanEntryClassifier` of `core/services/entry_classification.py`: the one place
where an entry of a mount becomes a classification. A guest's disk is judged by
the storage catalog (`MountedVolumeClassifier` of
`core/services/storage_catalog.py`) where the mount is bound to a storage, and
everything else by what the scan read.
-/
import PveHelper.Files.Scanner

namespace PveHelper.Files

open Lib Guests Storage

/-- `mount.cluster_bindings` of clusters not retired and storages managed: those
that any entry of the mount has. -/
def clusterBindings (inst : Installation) (mount : StorageMount) : List BoundStorage :=
  entryBindings inst
    { storage := mount
      path := ""
      derivedVolid := ""
      contentCategory := ""
      entryType := .directory
      classification := .unknown
      storageGateStatus := [] }

/-- The node the binding is asked through. -/
def BoundStorage.node (x : BoundStorage) : String := x.binding.node.getD ""

/-- The volumes Proxmox reported through the binding. -/
def BoundStorage.observed (x : BoundStorage) : List String :=
  let rows := x.storage.observations.rows
  (if x.node ≠ "" then rows.filter fun o => o.node == x.node else rows).map (·.volume.volid)

def usageStateValue : UsageState → String
  | .referenced => "referenced"
  | .unreferenced => "unreferenced"
  | .unknown => "unknown"
  | .referencedElsewhere => "referenced-elsewhere"

/-- `str.removeprefix("images/")` after `lstrip("/")`. -/
def mountedSuffix (path : String) : String :=
  let stripped := Text.lstripChar '/' path
  match List.isPrefixOf? "images/".toList stripped.toList with
  | some rest => String.ofList rest
  | none => stripped

section
variable (health : Nat → StorageBackendProfile → MountHealth) (inst : Installation)

/-- `registered_mount_health`. -/
def registeredMountHealth (mount : StorageMount) : MountHealth :=
  let definitions := (clusterBindings inst mount).map (·.storage)
  match definitions.map fun d => health mount.pk (backendProfile d.storageType) with
  | [] => health mount.pk (backendProfile "dir")
  | first :: rest =>
    if definitions.any scopeConflict then ⟨false, false, "Mount scope conflict; explicitly remap this storage."⟩
    else match (first :: rest).find? fun h => !h.available with
      | some failed => failed
      | none => ((first :: rest).find? fun h => !h.writable).getD first

/-- The binding's decision on the volume. -/
def BoundStorage.decision (suffix : String) (x : BoundStorage) : UsagePreflight :=
  usageDecision (usageScope health inst x.cluster x.storage x.node) (x.storage.storageId ++ ":" ++ suffix)

/-- `MountedVolumeClassifier.classify`; nothing for a mount without a binding. -/
def classifyMountedVolume (mount : StorageMount) (path : String) : Option ClassificationResult :=
  let bindings := clusterBindings inst mount
  if bindings.isEmpty then none
  else
    let suffix := mountedSuffix path
    let decisions := bindings.map (·.decision health inst suffix)
    let evidence : List (String × Json) :=
      [("catalog_authoritative", .bool true),
        ("catalog_decisions", .arr (decisions.map fun d => .str (usageStateValue d.state))),
        ("coverage_tokens", .arr (decisions.map fun d => .str d.token))]
    if decisions.any fun d => decide (d.state = .referenced) || decide (d.state = .referencedElsewhere) then
      some
        { classification := .referenced
          reason := "The API storage catalog found this volume referenced in an associated cluster."
          evidence }
    else if decisions.any fun d => decide (d.state = .unknown) then
      some
        { classification := .classificationBlocked
          reason := "The API storage catalog lacks complete coverage for this volume."
          evidence }
    else if !bindings.any fun x => x.observed.contains (x.storage.storageId ++ ":" ++ suffix) then
      some
        { classification := .unknown
          reason := "File resembles a VM disk but is absent from the complete Proxmox volume catalog."
          evidence }
    else
      some
        { classification := .likelyOrphan
          reason := "Proxmox reports this volume, but complete catalog coverage found no guest reference."
          evidence }

/-- `CATALOG_AUTHORITATIVE_CATEGORIES`. -/
def catalogAuthoritative (category : ContentCategory) : Bool := decide (category = .vmDisk) || decide (category = .baseImage)

/-- `ScanEntryClassifier.classify`. -/
def classify (facts : ScanFacts) (mount : StorageMount) (e : StorageEntry) : ClassificationResult :=
  let legacy := classifyEntry facts e.relativePath e.entryType e.contentCategory e.derivedVolid
  if !catalogAuthoritative e.contentCategory then legacy
  else match classifyMountedVolume health inst mount e.relativePath with
    | none => legacy
    | some catalog =>
      let comparison : List (String × Json) :=
        [("legacy", .str legacy.classification.value), ("catalog", .str catalog.classification.value),
          ("matched", .bool (decide (legacy.classification = catalog.classification)))]
      { catalog with evidence := catalog.evidence ++ [("comparison", .obj comparison)] }

variable {health inst}

theorem classify_same {a b : ScanFacts} (h : a.Same b) (mount : StorageMount) (e : StorageEntry) :
    classify health inst a mount e = classify health inst b mount e := by
  unfold classify
  rw [classifyEntry_same h]

end

end PveHelper.Files
