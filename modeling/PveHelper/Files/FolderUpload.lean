/-
`upload_folder_to_storage` of `core/services/storage_actions.py`: a plan is made of all files
before anything is written, the files are published one by one, and where one of them fails
what was made so far is undone, driven by three local variables: the directories that were
predicted to be missing, the files that were published and the name of the one in work.
-/
import Mathlib.Algebra.GroupWithZero.Nat
import PveHelper.Files.Uploads
import PveHelper.Lib.Locals

namespace PveHelper.Files

open Lib

/-- The order in which a set of texts is listed. -/
structure SetOrder where
  list : List String → List String
  perm : ∀ l, (list l).Perm l

/-- `_safe_folder_upload_path`. -/
def safeFolderUploadPath (path : String) : Except Raised String :=
  let rawPath := Text.stripChar '/' (Text.strip path)
  if rawPath = "" ∨ '\\' ∈ rawPath.toList then .error (.action "Invalid folder upload path.")
  else if ".." ∈ Text.posixParts rawPath then .error (.action "Invalid folder upload path.")
  else .ok (posixText (Text.posixParts rawPath))

/-- The target of a relative path. -/
def folderTarget (directoryPath relativePath : String) : Except Raised String := do
  let safeRelative ← safeFolderUploadPath relativePath
  joinRelative directoryPath safeRelative

/-- An item of the plan. -/
structure PlannedFile where
  file : UploadedFile
  relativePath : String
  sizeBytes : Nat

section
variable (k : Kernel)

/-- `_folder_upload_plan`, with the paths seen and the bytes counted before. -/
def folderUploadPlan (root : Path) (directoryPath : String) (maxSizeMb : Int) (seenPaths : List String)
    (totalBytes : Nat) : List (UploadedFile × String) → Fs (List PlannedFile)
  | [] => pure []
  | (uploadedFile, relativePath) :: rest => do
    let targetRelative ← liftExcept (folderTarget directoryPath relativePath)
    unlessRaise (decide (targetRelative ∉ seenPaths)) (.action "Folder upload contains duplicate file paths.")
    let fileSize := uploadedFile.size.getD 0
    unlessRaise (withinMax maxSizeMb fileSize) (uploadExceeds maxSizeMb)
    unlessRaise (withinMax maxSizeMb (totalBytes + fileSize))
      (.action ("Folder upload exceeds " ++ toString maxSizeMb ++ " MB."))
    let there ← confinedEntryStat k root targetRelative
    unlessRaise there.isNone (.action "Target file already exists.")
    let plan ← folderUploadPlan root directoryPath maxSizeMb (targetRelative :: seenPaths) (totalBytes + fileSize) rest
    pure (⟨uploadedFile, targetRelative, fileSize⟩ :: plan)

/-- `_missing_directory_chain`; the fuel is more than the components of the path. -/
def missingDirectoryChain (root : Path) (stopAt : String) : Nat → String → Fs (List String)
  | 0, _ => pure []
  | fuel + 1, current =>
    if current = "" ∨ current = stopAt then pure []
    else do
      let there ← confinedEntryStat k root current
      if there.isSome then pure []
      else do
        let parent ← liftExcept (parentRelative current)
        let missing ← missingDirectoryChain root stopAt fuel parent
        pure (current :: missing)

/-- The local variables of the upload. -/
structure UploadLocals where
  createdDirs : List String
  writtenPaths : List String
  tempRelative : Option String

/-- Deeper directories come first. -/
def deepestFirst (directories : List String) : List String :=
  directories.mergeSort fun a b => decide ((Text.posixParts b).length ≤ (Text.posixParts a).length)

/-- `_undo_folder_upload`. -/
def undoFolderUpload (order : SetOrder) (root : Path) (v : UploadLocals) : Fs Unit := do
  v.tempRelative.toList.forM fun path => removeConfinedFile k root path true
  v.writtenPaths.forM fun path => removeConfinedFile k root path true
  (deepestFirst (order.list v.createdDirs)).forM fun directory => removeConfinedEmptyDirectory k root directory true

/-- The directories of a file, made where they are missing. -/
def createParents (root : Path) (directoryRelative parentRelative : String) :
    EStateM Raised (Machine Bytes × UploadLocals) Unit :=
  if parentRelative = directoryRelative then pure ()
  else do
    let missing ← beside
      (missingDirectoryChain k root directoryRelative ((Text.posixParts parentRelative).length + 1) parentRelative)
    assign fun v => { v with createdDirs := v.createdDirs ∪ missing }
    beside (createConfinedDirectories k root parentRelative)

/-- A file under the name that it is written under. -/
def writeTemp (root : Path) (maxSizeMb : Int) (tempRelative : String) (chunks : List Bytes) : Fs Unit := do
  let handle ← createRegularFileExclusive k root tempRelative
  let _ ← withHandle k handle (writeUpload k handle maxSizeMb 0 chunks)

/-- One turn of the loop; the token is `uuid.uuid4().hex`. -/
def uploadPlanned (root : Path) (directoryRelative : String) (maxSizeMb : Int) (item : PlannedFile) (token : String) :
    EStateM Raised (Machine Bytes × UploadLocals) Unit := do
  let parent ← beside (liftExcept (parentRelative item.relativePath))
  createParents k root directoryRelative parent
  let temp ← beside (liftExcept (joinRelative parent (uploadTempName token)))
  assign fun v => { v with tempRelative := some temp }
  beside (writeTemp k root maxSizeMb temp item.file.chunks)
  beside (renameEntryNoreplace k root temp item.relativePath root .file false)
  assign fun v => { v with writtenPaths := v.writtenPaths ++ [item.relativePath], tempRelative := none }

/-- The loop. -/
def uploadAll (root : Path) (directoryRelative : String) (maxSizeMb : Int) :
    List (PlannedFile × String) → EStateM Raised (Machine Bytes × UploadLocals) Unit
  | [] => pure ()
  | (item, token) :: rest => do
    uploadPlanned k root directoryRelative maxSizeMb item token
    uploadAll root directoryRelative maxSizeMb rest

/-- What is raised in place of an error of a folder's upload; nothing where it is not caught. -/
def folderUploadRaised : Raised → Option Raised
  | .action message => some (.action message)
  | .confined .exists _ => some (.action "Target file already exists.")
  | .confined _ _ => some (.action "Folder upload failed.")
  | .os _ => some (.action "Folder upload failed.")
  | _ => none

/-- What is done where the upload raises. -/
def undoing (order : SetOrder) (root : Path) (r : Raised) (v : UploadLocals) : Fs Unit :=
  match folderUploadRaised r with
  | some e => do
    undoFolderUpload k order root v
    raise e
  | none => raise r

/-- What `upload_folder_to_storage` returns. -/
structure FolderUploadResult where
  directoryPath : String
  fileCount : Nat
  sizeBytes : Nat
  directoryPaths : List String
  paths : List String

/-- `sorted(set(...))`. -/
def sortedTexts (texts : List String) : List String := texts.dedup.mergeSort fun a b => decide (a ≤ b)

/-- The result of a plan that was uploaded. -/
def folderUploadResult (directoryPath : String) (plan : List PlannedFile) : Except Raised FolderUploadResult := do
  let parents ← plan.mapM fun item => parentRelative item.relativePath
  let directory ← normalizeRelativePath directoryPath
  pure ⟨directory, plan.length, (plan.map (·.sizeBytes)).sum, sortedTexts (sortedTexts parents ++ [directory]),
    plan.map (·.relativePath)⟩

/-- `upload_folder_to_storage`; the tokens are those of the files, in their order. -/
def uploadFolderToStorage (env : ActionEnv) (order : SetOrder) (storage : ActionMount) (directoryPath : String)
    (uploadedFiles : List UploadedFile) (relativePaths : List String) (maxSizeMb : Int) (tokens : Nat → String) :
    Fs FolderUploadResult := do
  requireStorageWriteAccess env storage
  unlessRaise (!uploadedFiles.isEmpty) (.action "No upload files selected.")
  unlessRaise (uploadedFiles.length = relativePaths.length) (.action "Folder upload metadata is incomplete.")
  let root ← storageRoot k storage
  let directoryRelative ← liftExcept (normalizeRelativePath directoryPath)
  requireConfinedDirectory k directoryRelative root
  let plan ← folderUploadPlan k root directoryPath maxSizeMb [] 0 (uploadedFiles.zip relativePaths)
  withLocals ⟨[], [], none⟩
    (uploadAll k root directoryRelative maxSizeMb (plan.zip ((List.range plan.length).map tokens)))
    (undoing k order root)
  liftExcept (folderUploadResult directoryPath plan)

end

end PveHelper.Files
