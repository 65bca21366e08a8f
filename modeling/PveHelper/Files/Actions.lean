/-
The other actions of `core/services/storage_actions.py` on a file or a directory of a mount,
over the helpers of `Files.Confined`: a rename in place (`rename_storage_file`), a move
within the mount (`move_storage_file`), a new directory (`create_storage_directory`) and an
upload (`upload_to_storage`). An upload is written under a name of its own and published by
a rename.
-/
import PveHelper.Files.Transfer

namespace PveHelper.Files

open Lib

section
variable (k : Kernel)

/-! ## Helpers -/

/-- The rename within an open directory; the new name. -/
def renameInPlace (fd : Path) (sourceParts targetParts : List String) : Fs String := do
  let sourceName ← lastPart sourceParts
  let source ← raisingAs (failedAs "Source file is unavailable or unsafe.")
    (k.ask ⟨.stat, fd ++ [sourceName]⟩ (·.stat fd sourceName))
  unlessRaise source.isFile (.confined .failed "Source path does not identify a regular file.")
  let safeTarget ← lastPart targetParts
  renameat2Noreplace k fd sourceName fd safeTarget false
  pure safeTarget

/-- `rename_regular_file_noreplace`; the new relative path. -/
def renameRegularFileNoreplace (root : Path) (sourceRelativePath targetName : String) : Fs String := do
  let sourceParts ← liftExcept (normalizedRelativePath sourceRelativePath)
  let targetParts ← liftExcept (normalizedRelativePath targetName)
  unlessRaise (decide (targetParts.length = 1)) (.confined .failed "Rename target must be a file name.")
  let fd ← openParent k root sourceParts.dropLast
  let safeTarget ← closing k fd (renameInPlace k fd sourceParts targetParts)
  pure (Posix.asPosix (sourceParts.dropLast ++ [safeTarget]))

/-- `create_directory_noreplace`. -/
def createDirectoryNoreplace (root : Path) (relativePath : String) : Fs Unit := do
  let parts ← liftExcept (normalizedRelativePath relativePath)
  let fd ← openParent k root parts.dropLast
  closing k fd do
    let name ← lastPart parts
    except (raisingAs .os (k.act ⟨.mkdir, fd ++ [name]⟩ (·.add fd name .directory))) fun r => match r with
      | .os .exist => some (raise (.confined .exists "Target folder already exists."))
      | .os _ => some (raise (.confined .failed "Folder creation failed."))
      | _ => none

/-- `create_regular_file_exclusive`, without `create_parents`; the handle is the file's path. -/
def createRegularFileExclusive (root : Path) (relativePath : String) : Fs Path := do
  let parts ← liftExcept (normalizedRelativePath relativePath)
  let fd ← openParent k root parts.dropLast
  closing k fd do
    let name ← lastPart parts
    createExclusiveChild k fd name
    pure (fd ++ [name])

/-- `with handle:`; closing a handle writes out what is left of its buffer. -/
def withHandle {β : Type} (handle : Path) (m : Fs β) : Fs β :=
  ensuring m (ensuring (raisingAs .os (k.ask ⟨.write, handle⟩ fun _ => .ok ())) (close k handle))

/-! ## What is asked of names and paths -/

/-- `_safe_upload_filename`. -/
def safeUploadFilename (filename : String) : Except Raised String :=
  let filename := Text.strip filename
  if filename = "" ∨ '/' ∈ filename.toList ∨ '\\' ∈ filename.toList ∨ filename = "." ∨ filename = ".." then
    .error (.action "Invalid upload filename.")
  else if Posix.name filename ≠ filename then .error (.action "Invalid upload filename.")
  else .ok filename

/-- `_normalize_move_target`. -/
def normalizeMoveTarget (oldPath targetPath : String) : Except Raised String :=
  let rawTarget := Text.strip targetPath
  if rawTarget = "" then .error (.action "Target path is required.")
  else if rawTarget.toList.getLast? = some '/' then do
    let directory ← normalizeRelativePath rawTarget
    joinRelative directory (Posix.name oldPath)
  else normalizeRelativePath rawTarget

/-- `_require_confined_directory`. -/
def requireConfinedDirectory (relativePath : String) (root : Path) : Fs Unit :=
  if relativePath = "" then pure ()
  else do
    let entry ← confinedEntryStat k root relativePath
    unlessRaise (entry.any Node.isDirectory) (.action "Target directory does not exist.")

end

/-! ## Renames and moves -/

section
variable (k : Kernel) (env : ActionEnv)

/-- What `rename_storage_file` returns. -/
structure RenameResult where
  oldPath : String
  newPath : String
  directoryPath : String

/-- `rename_storage_file`. -/
def renameStorageFile (storage : ActionMount) (e : FileEntry) (newName : String) (acknowledgedRisk : Bool) :
    Fs RenameResult := do
  requireStorageWriteAccess env storage
  unlessRaise (e.entryType = .file) (.action "Only files can be renamed.")
  requireNotBlocked env e acknowledgedRisk
  let safeName ← liftExcept (safeUploadFilename newName)
  let root ← storageRoot k storage
  let newRelativePath ← exceptConfined (renameRegularFileNoreplace k root e.path safeName) fun kind =>
    raise (match kind with
      | .exists => .action "Target file already exists."
      | _ => .action "Rename failed.")
  let parent ← liftExcept (parentRelative e.path)
  let oldPath ← liftExcept (normalizeRelativePath e.path)
  pure ⟨oldPath, newRelativePath, parent⟩

/-- What `move_storage_file` returns. -/
structure MoveResult where
  oldPath : String
  newPath : String
  sourceDirectoryPath : String
  targetDirectoryPath : String

/-- The target of a move; in the directory, where it names one. -/
def moveTarget (root : Path) (oldPath targetRelative : String) : Fs String := do
  let entry ← confinedEntryStat k root targetRelative
  if entry.any Node.isDirectory then liftExcept (joinRelative targetRelative (Posix.name oldPath))
  else pure targetRelative

/-- `move_storage_file`. -/
def moveStorageFile (storage : ActionMount) (e : FileEntry) (newPath : String) (acknowledgedRisk : Bool) :
    Fs MoveResult := do
  requireStorageWriteAccess env storage
  unlessRaise (e.entryType = .file) (.action "Only files can be moved.")
  requireNotBlocked env e acknowledgedRisk
  let oldPath ← liftExcept (normalizeRelativePath e.path)
  let targetRelative ← liftExcept (normalizeMoveTarget oldPath newPath)
  unlessRaise (decide (targetRelative ≠ oldPath)) (.action "Target path is unchanged.")
  let root ← storageRoot k storage
  let _ ← requireConfinedFile k oldPath root
  let targetRelative ← moveTarget k root oldPath targetRelative
  let targetParent ← liftExcept (parentRelative targetRelative)
  requireConfinedDirectory k targetParent root
  trashRename "Target file already exists." "Move target must be on the same filesystem/export." "Move failed."
    (renameEntryNoreplace k root oldPath targetRelative root .file false)
  let sourceDirectory ← liftExcept (parentRelative oldPath)
  let targetDirectory ← liftExcept (parentRelative targetRelative)
  pure ⟨oldPath, targetRelative, sourceDirectory, targetDirectory⟩

/-! ## New entries -/

/-- What `create_storage_directory` returns. -/
structure DirectoryResult where
  path : String
  directoryPath : String

/-- `create_storage_directory`. -/
def createStorageDirectory (storage : ActionMount) (directoryPath folderName : String) : Fs DirectoryResult := do
  requireStorageWriteAccess env storage
  let safeName ← liftExcept (safeUploadFilename folderName)
  let root ← storageRoot k storage
  let directoryRelative ← liftExcept (normalizeRelativePath directoryPath)
  requireConfinedDirectory k directoryRelative root
  let target ← liftExcept (joinRelative directoryPath safeName)
  exceptConfined (createDirectoryNoreplace k root target) fun kind => raise (match kind with
    | .exists => .action "Target folder already exists."
    | _ => .action "Folder creation failed.")
  let path ← liftExcept (joinRelative directoryPath safeName)
  let directory ← liftExcept (normalizeRelativePath directoryPath)
  pure ⟨path, directory⟩

/-- An `UploadedFile`: its name, its size if it says one, and the chunks that it is read in. -/
structure UploadedFile where
  name : String
  size : Option Nat
  chunks : List Bytes

/-- `_upload_max_bytes` of `STORAGE_UPLOAD_MAX_SIZE_MB`. -/
def uploadMaxBytes (maxSizeMb : Int) :
    Option Nat := if maxSizeMb ≤ 0 then none else some (maxSizeMb.toNat * 1024 * 1024)

/-- No more than is allowed, if anything is not. -/
def withinMax (maxSizeMb : Int) (size : Nat) : Bool := (uploadMaxBytes maxSizeMb).all (size ≤ ·)

/-- What more than is allowed is refused with. -/
def uploadExceeds (maxSizeMb : Int) : Raised := .action ("Upload exceeds " ++ toString maxSizeMb ++ " MB.")

/-- `_write_upload`, from so many bytes on. -/
def writeUpload (handle : Path) (maxSizeMb : Int) (written : Nat) : List Bytes → Fs Nat
  | [] => pure written
  | chunk :: chunks => do
    unlessRaise (withinMax maxSizeMb (written + chunk.length)) (uploadExceeds maxSizeMb)
    writeChunk k handle chunk
    writeUpload handle maxSizeMb (written + chunk.length) chunks

/-- The name that an upload is written under; the token is `uuid.uuid4().hex`. -/
def uploadTempName (token : String) : String := ".pve-helper-upload-" ++ token ++ ".part"

/-- What an upload does once its own file is there. -/
def publishUpload (root : Path) (handle : Path) (maxSizeMb : Int) (chunks : List Bytes)
    (tempRelative targetRelative : String) :
    Fs Nat := do
  let written ← withHandle k handle (writeUpload k handle maxSizeMb 0 chunks)
  renameEntryNoreplace k root tempRelative targetRelative root .file false
  pure written

/-- What is raised in place of an error of an upload; nothing where it is not caught. -/
def uploadRaised : Raised → Option Raised
  | .confined .exists _ => some (.action "Target file already exists.")
  | .action message => some (.action message)
  | .confined _ _ => some (.action "Storage write failed.")
  | .os _ => some (.action "Storage write failed.")
  | _ => none

/-- What is written is taken away before an error is raised. -/
def discardingUpload {β : Type} (root : Path) (tempRelative : String) (m : Fs β) : Fs β :=
  except m fun r => (uploadRaised r).map fun e => do
    removeConfinedFile k root tempRelative true
    raise e

/-- What `upload_to_storage` returns. -/
structure UploadResult where
  path : String
  sizeBytes : Nat

/-- `upload_to_storage`. -/
def uploadToStorage (storage : ActionMount) (directoryPath : String) (uploaded : UploadedFile) (maxSizeMb : Int)
    (token : String) : Fs UploadResult := do
  requireStorageWriteAccess env storage
  let filename ← liftExcept (safeUploadFilename uploaded.name)
  unlessRaise (uploaded.size.all (withinMax maxSizeMb)) (uploadExceeds maxSizeMb)
  let root ← storageRoot k storage
  let directoryRelative ← liftExcept (normalizeRelativePath directoryPath)
  requireConfinedDirectory k directoryRelative root
  let targetRelative ← liftExcept (joinRelative directoryPath filename)
  let there ← confinedEntryStat k root targetRelative
  unlessRaise there.isNone (.action "Target file already exists.")
  let tempRelative ← liftExcept (joinRelative directoryRelative (uploadTempName token))
  let handle ← exceptConfined (createRegularFileExclusive k root tempRelative) fun _ =>
    raise (.action "Storage write failed.")
  let written ← discardingUpload k root tempRelative
    (publishUpload k root handle maxSizeMb uploaded.chunks tempRelative targetRelative)
  let path ← liftExcept (joinRelative directoryPath filename)
  pure ⟨path, written⟩

end

end PveHelper.Files
