/-
What each storage plugin can do, after `core/services/storage_backends.py`: the
one table that says whether a type's content is listed through the API and
whether its data is a file tree.
-/
import PveHelper.Lib.Text

namespace PveHelper.Storage

open Lib

inductive ContentListMode
  | pveApi | unsupported
deriving DecidableEq, Repr

inductive FilesystemMode
  | none | directory | networkMount
deriving DecidableEq, Repr

structure StorageBackendProfile where
  storageType : String
  contentListMode : ContentListMode
  filesystemMode : FilesystemMode
  expectedFilesystems : List String := []
  known : Bool := true

def StorageBackendProfile.filesystemEligible (p : StorageBackendProfile) : Bool := decide (p.filesystemMode ≠ .none)

/-- `_profile`. -/
def profile (storageType : String) (mode : FilesystemMode) (filesystems : List String := []) : StorageBackendProfile :=
  { storageType := storageType, contentListMode := .pveApi, filesystemMode := mode, expectedFilesystems := filesystems }

/-- `_PROFILES`. -/
def profiles : List StorageBackendProfile :=
  [profile "dir" .directory,
    profile "nfs" .networkMount ["nfs", "nfs4"],
    profile "cifs" .networkMount ["cifs", "smb3"],
    profile "cephfs" .networkMount ["ceph", "cephfs"],
    profile "glusterfs" .networkMount ["fuse.glusterfs", "glusterfs"],
    profile "btrfs" .directory ["btrfs"],
    profile "bcachefs" .directory ["bcachefs"],
    profile "lvm" .none,
    profile "lvmthin" .none,
    profile "iscsi" .none,
    profile "iscsidirect" .none,
    profile "zfspool" .none,
    profile "zfs" .none,
    profile "rbd" .none,
    profile "pbs" .none,
    profile "esxi" .none]

/-- `backend_profile`. The stored type was lowered when it was read, and every
supported name is ASCII. -/
def backendProfile (storageType : String) : StorageBackendProfile :=
  let normalized := Text.lower (Text.strip storageType)
  match profiles.find? fun p => p.storageType == normalized with
  | some p => p
  | none =>
    { storageType := if normalized = "" then "unknown" else normalized
      contentListMode := .unsupported
      filesystemMode := .none
      known := false }

/-- A type is known exactly when its content is listed through the API. -/
theorem backendProfile_known (storageType : String) :
    (backendProfile storageType).known = true ↔ (backendProfile storageType).contentListMode = .pveApi := by
  have hall : ∀ p ∈ profiles, p.known = true ∧ p.contentListMode = .pveApi := by decide
  simp only [backendProfile]
  split
  · rename_i p hp
    have := hall p (List.mem_of_find?_eq_some hp)
    simp [this]
  · simp

end PveHelper.Storage
