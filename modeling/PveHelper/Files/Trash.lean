/-
The trash of a mount, after `core/services/storage_actions.py`: an entry is moved
below the trash root under a stamp (`move_file_to_trash`), moved back
(`restore_trash_item`), or removed for good (`purge_trash_item`).
-/
import PveHelper.Files.ConfinedFacts
import PveHelper.Files.Gate

namespace PveHelper.Files

open Lib Storage

/-! ## Mounts -/

/-- What the file actions meet of a `StorageMount`: `registered_mount_health`, the
directory it resolves to, and where its trash lies beneath that, if it does. -/
structure ActionMount where
  storageId : String
  enabled : Bool
  health : MountHealth
  root : Path
  trashRoot : Option Path

/-- What they meet elsewhere: `settings.STORAGE_WRITE_ENABLED`, the tables with the
gate's surroundings, and the text of a refusal. -/
structure ActionEnv where
  writeEnabled : Bool
  gate : GateEnv
  inst : Installation
  refusal : FileActionError → String

/-- `reason or default`. -/
def orText (reason default : String) : String := if reason = "" then default else reason

/-- `require_storage_write_access`. -/
def requireStorageWriteAccess (env : ActionEnv) (storage : ActionMount) : Fs Unit := do
  unlessRaise env.writeEnabled (.denied "Storage write actions are disabled.")
  unlessRaise storage.health.available (.action (orText storage.health.reason "Storage path is not available."))
  unlessRaise storage.health.writable (.action (orText storage.health.reason "PVE-helper storage mount is read-only."))

/-- `_storage_root`. -/
def storageRoot (k : Kernel) (storage : ActionMount) : Fs Path :=
  raisingAs (fun _ => .action "Storage path is not available.")
    (k.ask ⟨.openRoot, storage.root⟩ fun d => if d.isDirectory storage.root then .ok storage.root else .error .noent)

/-- `_trash_root_relative`. -/
def trashRootRelative (storage : ActionMount) : Except Raised String :=
  match storage.trashRoot with
  | none => .error (.action "Trash path must be inside the storage root.")
  | some parts => .ok (posixText parts)

/-- `_require_file_not_blocked` as these actions call it. -/
def requireNotBlocked (env : ActionEnv) (e : FileEntry) (acknowledgedRisk : Bool) : Fs Unit :=
  match requireFileNotBlocked env.gate env.inst e true true acknowledgedRisk with
  | .ok _ => pure ()
  | .error err => raise (.action (env.refusal err))

/-- `_require_confined_entry`. -/
def requireConfinedEntry (k : Kernel) (relativePath : String) (root : Path) : Fs (Node Bytes) := do
  match ← confinedEntryStat k root relativePath with
  | none => raise (.action "File or directory does not exist.")
  | some x =>
    unlessRaise (x.isFile || x.isDirectory) (.action "Only files and directories can be changed.")
    pure x

/-- `_is_guest_directory`. -/
def isGuestDirectory (path : String) : Bool :=
  match Text.posixParts path with
  | first :: _ => first = "images" || first = "private"
  | [] => false

/-! ## Items -/

/-- `TrashItem.RestoreStatus`. -/
inductive RestoreStatus
  | trashed | restored | purged | failed
deriving DecidableEq, Repr

/-- `TrashItem`, with its mount if it has one. -/
structure TrashItem where
  originalPath : String
  trashPath : String
  mount : Option ActionMount
  storageId : String
  metadataStorageId : String
  restoreStatus : RestoreStatus

/-- `_storage_for_trash_item`; `resolve_storage_mount(…, enabled=True)` is a parameter. -/
def storageForTrashItem (resolveMount : String → Option ActionMount) (item : TrashItem) : Fs ActionMount :=
  match item.mount with
  | some mount => do
    unlessRaise mount.enabled (.action "Trash item storage is not available.")
    pure mount
  | none => do
    let storageId := orText item.storageId item.metadataStorageId
    unlessRaise (decide (storageId ≠ "")) (.action "Trash item is missing storage metadata.")
    match resolveMount storageId with
    | some mount => pure mount
    | none => raise (.action "Trash item storage is not available.")

/-- The mount that an item's actions are about. -/
def itemMount (resolveMount : String → Option ActionMount) (item : TrashItem) : Option ActionMount :=
  match item.mount with
  | some mount => if mount.enabled then some mount else none
  | none =>
    let storageId := orText item.storageId item.metadataStorageId
    if storageId = "" then none else resolveMount storageId

/-! ## Actions -/

section
variable (k : Kernel) (env : ActionEnv)

/-- `_trash_relative_path`. -/
def trashRelativePath (storage : ActionMount) (stamp originalPath : String) : Except Raised String := do
  let trashRoot ← trashRootRelative storage
  let original ← normalizeRelativePath originalPath
  pure (posixText (Text.posixParts trashRoot ++ Text.posixParts stamp ++ Text.posixParts original))

/-- What the rename of a trash action raises. -/
def renameRaised (taken crossDevice failed : String) : ConfinedKind → Raised
  | .exists => .action taken
  | .crossDevice => .action crossDevice
  | _ => .action failed

/-- A rename whose errors are raised as these. -/
def trashRename (taken crossDevice failed : String) (m : Fs Unit) : Fs Unit :=
  exceptConfined m fun kind => raise (renameRaised taken crossDevice failed kind)

/-- A guest's directory must be empty before it goes to the trash. -/
def requireEmptyGuestDirectory (e : FileEntry) (root : Path) (relativePath : String) : Fs Unit :=
  if e.entryType = .directory && isGuestDirectory e.path then do
    let entries ← listConfinedDirectory k root relativePath
    unlessRaise entries.isEmpty
      (.action "Guest image/private directories must be empty before they can be moved to trash.")
  else pure ()

/-- `move_file_to_trash`; the stamp is the time of the call. -/
def moveFileToTrash (storage : ActionMount) (e : FileEntry) (stamp : String) (acknowledgedRisk : Bool) : Fs TrashItem := do
  requireStorageWriteAccess env storage
  unlessRaise (e.entryType = .file || e.entryType = .directory)
    (.action "Only files and directories can be moved to trash.")
  requireNotBlocked env e acknowledgedRisk
  let root ← storageRoot k storage
  let originalRelative ← liftExcept (normalizeRelativePath e.path)
  let _ ← requireConfinedEntry k originalRelative root
  requireEmptyGuestDirectory k e root originalRelative
  let trashRelative ← liftExcept (trashRelativePath storage stamp e.path)
  let trashParent ← liftExcept (parentRelative trashRelative)
  exceptConfined (createConfinedDirectories k root trashParent) fun _ => raise (.action "Trash directory is not writable.")
  trashRename "Trash target already exists." "Trash target must be on the same filesystem/export." "Move to trash failed."
    (renameEntryNoreplace k root originalRelative trashRelative root .any false)
  pure ⟨e.path, trashRelative, some storage, storage.storageId, storage.storageId, .trashed⟩

/-- The directory that a restored entry goes to, made where it is missing. -/
def createRestoreParent (root : Path) (restoreParent : String) : Fs Unit :=
  if restoreParent = "" then pure ()
  else exceptConfined (createConfinedDirectories k root restoreParent) fun _ =>
    raise (.action "Restore directory is not writable.")

/-- `restore_trash_item`; the item after it. -/
def restoreTrashItem (resolveMount : String → Option ActionMount) (item : TrashItem) : Fs TrashItem := do
  unlessRaise (decide (item.restoreStatus = .trashed)) (.action "Trash item is not restorable.")
  let storage ← storageForTrashItem resolveMount item
  requireStorageWriteAccess env storage
  let root ← storageRoot k storage
  let trashRelative ← liftExcept (normalizeRelativePath item.trashPath)
  let restoreRelative ← liftExcept (normalizeRelativePath item.originalPath)
  let _ ← requireConfinedEntry k trashRelative root
  let restoreParent ← liftExcept (parentRelative restoreRelative)
  createRestoreParent k root restoreParent
  trashRename "Original path already exists." "Restore target must be on the same filesystem/export." "Restore failed."
    (renameEntryNoreplace k root trashRelative restoreRelative root .any false)
  pure { item with restoreStatus := .restored }

/-- `purge_trash_item`; the item after it. -/
def purgeTrashItem (resolveMount : String → Option ActionMount) (item : TrashItem) : Fs TrashItem := do
  unlessRaise (decide (item.restoreStatus = .trashed)) (.action "Trash item is not purgeable.")
  let storage ← storageForTrashItem resolveMount item
  requireStorageWriteAccess env storage
  let root ← storageRoot k storage
  let trashPath ← liftExcept (normalizeRelativePath item.trashPath)
  exceptConfined (removeConfinedTree k root trashPath true) fun _ => raise (.action "Failed to delete the trashed file.")
  pure { item with restoreStatus := .purged }

end

/-! ## What is asked before the tree is -/

section
variable {k : Kernel} {env : ActionEnv} {storage : ActionMount} {s s' : Machine Bytes} {u : Unit}

/-- Writing is on, and the mount takes it. -/
structure WriteAccess (env : ActionEnv) (storage : ActionMount) : Prop where
  enabled : env.writeEnabled = true
  available : storage.health.available = true
  writable : storage.health.writable = true

theorem requireStorageWriteAccess_ok :
    requireStorageWriteAccess env storage s = .ok u s' ↔ WriteAccess env storage ∧ s' = s := by
  unfold requireStorageWriteAccess
  rw [unlessRaise_bind_ok, unlessRaise_bind_ok, unlessRaise_ok]
  constructor
  · rintro ⟨henabled, havailable, hwritable, rfl⟩
    exact ⟨⟨henabled, havailable, hwritable⟩, rfl⟩
  · rintro ⟨h, rfl⟩
    exact ⟨h.enabled, h.available, h.writable, rfl⟩

theorem storageForTrashItem_ok {resolveMount : String → Option ActionMount} {item : TrashItem} :
    storageForTrashItem resolveMount item s = .ok storage s' ↔ itemMount resolveMount item = some storage ∧ s' = s := by
  unfold storageForTrashItem itemMount
  cases item.mount with
  | some mount =>
    dsimp only
    rw [unlessRaise_bind_ok, pure_ok]
    by_cases henabled : mount.enabled = true
    · simp [henabled, eq_comm]
    · simp [henabled]
  | none =>
    dsimp only
    rw [unlessRaise_bind_ok]
    by_cases hid : orText item.storageId item.metadataStorageId = ""
    · simp [hid]
    · cases hresolve : resolveMount (orText item.storageId item.metadataStorageId) with
      | none => simp [hid, raise_ok]
      | some mount =>
        dsimp only
        rw [pure_ok]
        simp [hid, eq_comm]

theorem trashRename_ok {taken crossDevice failed : String} {m : Fs Unit} :
    trashRename taken crossDevice failed m s = .ok u s' ↔ m s = .ok u s' :=
  exceptConfined_raise_ok

theorem storageRoot_ok {root : Path} : storageRoot k storage s = .ok root s' ↔
    root = storage.root ∧ k.fault s.calls ⟨.openRoot, storage.root⟩ = none ∧ s.disk.isDirectory storage.root = true ∧
      s' = ⟨s.disk, s.calls + 1⟩ := by
  unfold storageRoot
  rw [raisingAs_ok]
  cases hfault : k.fault s.calls ⟨.openRoot, storage.root⟩ with
  | some e => simp [Kernel.ask_of_fault hfault]
  | none =>
    by_cases hdir : s.disk.isDirectory storage.root = true
    · rw [Kernel.ask_of_ok hfault (if_pos hdir)]
      simp [hdir, eq_comm]
    · rw [Kernel.ask_of_refused hfault (if_neg hdir)]
      simp [hdir]

end

/-! ## A mount -/

def quietEnv : ActionEnv := ⟨true, quietGate, { clusters := ⟨[], by simp⟩, mounts := ⟨[], by simp⟩ }, fun _ => ""⟩

def trashMount : ActionMount := ⟨"nas", true, ⟨true, true, ""⟩, [], some [".trash", "pve-helper"]⟩

end PveHelper.Files
