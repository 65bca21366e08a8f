/-
What a file on a mount is by its path, and what a scan makes of it from the
volumes it read, after `categorize_proxmox_path`, `derive_volid` and
`classify_entry` of `core/services/classification.py`.
-/
import PveHelper.Lib.Posix
import PveHelper.Files.Risk

namespace PveHelper.Files

open Lib

/-- `content_category`. -/
inductive ContentCategory
  | unknown | trash | appInternal | vmImages | vmImageDirectory | baseImage | vmDisk | importPackage | importManifest
  | backup | templateDirectory | importDisk | iso | ctTemplate | snippet | ctPrivate | importDirectory | importContent
deriving DecidableEq, Repr

/-- The category as it is stored. -/
def ContentCategory.value : ContentCategory → String
  | .unknown => "unknown"
  | .trash => "trash"
  | .appInternal => "app_internal"
  | .vmImages => "vm_images"
  | .vmImageDirectory => "vm_image_directory"
  | .baseImage => "base_image"
  | .vmDisk => "vm_disk"
  | .importPackage => "import_package"
  | .importManifest => "import_manifest"
  | .backup => "backup"
  | .templateDirectory => "template_directory"
  | .importDisk => "import_disk"
  | .iso => "iso"
  | .ctTemplate => "ct_template"
  | .snippet => "snippet"
  | .ctPrivate => "ct_private"
  | .importDirectory => "import_directory"
  | .importContent => "import_content"

/-- The classification as it is stored. -/
def Classification.value : Classification → String
  | .referenced => "referenced"
  | .likelyOrphan => "likely_orphan"
  | .unknown => "unknown"
  | .classificationBlocked => "classification_blocked"
  | .trash => "trash"
  | .infrastructure => "infrastructure"
  | .proxmoxContent => "proxmox_content"
  | .importSource => "import_source"

/-- `TRASH_DIRECTORY_NAMES`. -/
def trashDirectoryNames : List String := [".trash", ".pve-helper-trash"]

/-- `DISK_IMAGE_EXTENSIONS`. -/
def diskImageExtensions : List String := [".qcow2", ".raw", ".vmdk", ".img", ".qed", ".vdi", ".vhd", ".vhdx"]

/-- `_is_trash_relative_path`. -/
def isTrashRelativePath (path : String) : Bool :=
  match Text.posixParts path with
  | [] => false
  | first :: _ => trashDirectoryNames.contains first

/-- `categorize_proxmox_path`. -/
def categorizeProxmoxPath (path : String) : ContentCategory :=
  let parts := Text.posixParts path
  let suffix := Text.lower (Posix.suffix path)
  match parts with
  | [] => .unknown
  | first :: rest =>
    if trashDirectoryNames.contains first then .trash
    else if Text.startsWith first ".pve-helper" then .appInternal
    else if parts = ["images"] then .vmImages
    else if parts.length = 2 && first = "images" then .vmImageDirectory
    else if first = "images" && (rest[1]?).any fun n => Text.startsWith n "base-" then .baseImage
    else if first = "images" && (rest[1]?).any fun n => Text.startsWith n "vm-" then .vmDisk
    else if [".ova", ".ovf"].contains suffix then .importPackage
    else if suffix = ".mf" then .importManifest
    else if first = "dump" then .backup
    else if parts = ["template"] then .templateDirectory
    else if parts.take 2 = ["template", "iso"] then
      if diskImageExtensions.contains suffix && suffix ≠ ".img" then .importDisk else .iso
    else if parts.take 2 = ["template", "cache"] then .ctTemplate
    else if first = "snippets" then .snippet
    else if first = "private" then .ctPrivate
    else if parts = ["import"] then .importDirectory
    else if first = "import" then .importContent
    else if diskImageExtensions.contains suffix then .importDisk
    else .unknown

/-- `DerivedVolume`. -/
structure DerivedVolume where
  storageId : String
  relativePath : String
  volid : String
  contentCategory : ContentCategory

/-- `derive_volid`: the volume a guest's disk is. -/
def deriveVolid (storageId path : String) : Option DerivedVolume :=
  let category := categorizeProxmoxPath path
  if category = .vmDisk || category = .baseImage then
    some
      { storageId := storageId
        relativePath := path
        volid := storageId ++ ":" ++ ((Text.posixParts path)[1]?).getD "" ++ "/" ++ Posix.name path
        contentCategory := category }
  else none

/-! ## The verdict -/

/-- `matched_object`. -/
inductive MatchedObject
  | none
  | volume (volid : String)
  | template (vmid : Int)
deriving DecidableEq, Repr

/-- `ClassificationResult`. -/
structure ClassificationResult where
  classification : Classification
  reason : String
  matchedObject : MatchedObject := .none
  evidence : List (String × Json)

/-- `KNOWN_DIRECTORY_CATEGORIES`. -/
def knownDirectoryCategories : List ContentCategory :=
  [.vmImages, .vmImageDirectory, .backup, .iso, .ctTemplate, .ctPrivate, .snippet, .templateDirectory, .importDirectory]

/-- `KNOWN_CONTENT_CATEGORIES`. -/
def knownContentCategories : List ContentCategory := [.backup, .iso, .ctTemplate, .ctPrivate, .snippet, .importContent]

/-- `CONTENT_EXTENSIONS`, with the label of the category. -/
def contentExtensions : ContentCategory → Option (List String × String)
  | .iso => some ([".iso", ".img"], "ISO")
  | .ctTemplate => some ([".tar.gz", ".tar.xz", ".tar.zst", ".tar.bz2", ".tar.lzo", ".tgz", ".tar"], "container template")
  | _ => none

/-- What an import source is called. -/
def importLabel : ContentCategory → Option String
  | .importPackage => some "OVA/OVF package"
  | .importManifest => some "OVF manifest"
  | .importDisk => some "importable disk image"
  | _ => none

/-- `str.endswith`. -/
def endsWith (s tail : String) : Bool := tail.toList.isSuffixOf s.toList

/-- The file's name does not have an extension of its directory's content. -/
def misplaced (path : String) (extensions : List String) : Bool :=
  !extensions.any (endsWith (Text.lower (Posix.name path)))

/-- What a scan holds against every file of one storage. -/
structure ScanFacts where
  referencedVolids : List String
  templateVmids : List Nat
  gateOk : Bool
  missingConsumers : List String

/-- `classify_entry`. -/
def classifyEntry (facts : ScanFacts) (path : String) (entryType : EntryType) (category : ContentCategory)
    (derivedVolid : String) : ClassificationResult :=
  let evidence : List (String × Json) :=
    [("derived_volid", .str derivedVolid), ("content_category", .str category.value), ("gate_ok", .bool facts.gateOk),
      ("missing_consumers", .arr (facts.missingConsumers.map .str))]
  let isTrash := category = .trash || isTrashRelativePath path
  if !isTrash && (category = .appInternal || Text.startsWith path ".pve-helper") then
    { classification := .infrastructure
      reason := "App-managed internal directory (upload staging / working files)."
      evidence }
  else if isTrash then
    if entryType ≠ .file then
      { classification := .infrastructure, reason := "Trash directory structure.", evidence }
    else { classification := .trash, reason := "File is already under the storage trash path.", evidence }
  else if derivedVolid ≠ "" && facts.referencedVolids.contains derivedVolid then
    { classification := .referenced
      reason := "Exact Proxmox volid is referenced by current VM/CT configuration."
      matchedObject := .volume derivedVolid
      evidence }
  else if category = .baseImage then
    let vmid := extractVmidFromImagePath path
    let evidence := evidence ++ [("vmid", (vmid.map Json.int).getD .null)]
    match vmid.filter fun n => facts.templateVmids.any fun t => decide ((t : Int) = n) with
    | some vmid =>
      { classification := .referenced
        reason := "Base image belongs to an inventoried Proxmox template."
        matchedObject := .template vmid
        evidence }
    | none =>
      { classification := .unknown
        reason := "Base images are never marked orphan in V1; backing-chain analysis is deferred."
        evidence }
  else if entryType ≠ .file then
    if knownDirectoryCategories.contains category then
      { classification := .infrastructure, reason := "Standard Proxmox storage directory structure.", evidence }
    else { classification := .unknown, reason := "Directory with unrecognized content category.", evidence }
  else if category = .vmDisk then
    if !facts.gateOk then
      { classification := .classificationBlocked
        reason := "Not all expected storage consumers were inventoried in this scan-run."
        evidence }
    else
      { classification := .likelyOrphan
        reason := "VM disk file has no exact volid reference in the same scan-run."
        evidence }
  else match importLabel category with
    | some label =>
      { classification := .importSource
        reason := "Recognized " ++ label ++ " available for VM import."
        evidence }
    | none =>
      if knownContentCategories.contains category then
        match (contentExtensions category).filter fun x => misplaced path x.1 with
        | some (_, label) =>
          { classification := .unknown
            reason := "File is in the " ++ label ++ " directory but is not a recognised " ++ label ++
              " file — it is probably misplaced."
            evidence }
        | none =>
          { classification := .proxmoxContent
            reason := "File belongs to a recognized Proxmox content type."
            evidence }
      else if diskImageExtensions.contains (Text.lower (Posix.suffix path)) then
        { classification := .importSource
          reason := "Recognized importable disk image available for VM import."
          evidence }
      else
        { classification := .unknown
          reason := "File type is not used by Proxmox and probably does not belong in this storage."
          evidence }

/-- The facts of two scans say the same of every file. -/
structure ScanFacts.Same (a b : ScanFacts) : Prop where
  referencedVolids : ∀ v, v ∈ a.referencedVolids ↔ v ∈ b.referencedVolids
  templateVmids : ∀ n, n ∈ a.templateVmids ↔ n ∈ b.templateVmids
  gateOk : a.gateOk = b.gateOk
  missingConsumers : a.missingConsumers = b.missingConsumers

theorem contains_congr {α : Type} [BEq α] [LawfulBEq α] {xs ys : List α} (h : ∀ a, a ∈ xs ↔ a ∈ ys) (a : α) :
    xs.contains a = ys.contains a := by
  rw [Bool.eq_iff_iff, List.contains_iff_mem, List.contains_iff_mem]
  exact h a

theorem any_congr {α : Type} {xs ys : List α} (h : ∀ a, a ∈ xs ↔ a ∈ ys) (p : α → Bool) : xs.any p = ys.any p := by
  rw [Bool.eq_iff_iff, List.any_eq_true, List.any_eq_true]
  exact exists_congr fun a => and_congr_left' (h a)

/-- The verdict reads the referenced volumes and the templates as sets. -/
theorem classifyEntry_same {a b : ScanFacts} (h : a.Same b) (path : String) (entryType : EntryType)
    (category : ContentCategory) (derivedVolid : String) :
    classifyEntry a path entryType category derivedVolid = classifyEntry b path entryType category derivedVolid := by
  unfold classifyEntry
  rw [h.gateOk, h.missingConsumers, contains_congr h.referencedVolids]
  simp only [any_congr h.templateVmids]

end PveHelper.Files
