/-
`core/services/confined_filesystem.py`: access below a trusted root, one directory
descriptor after another, no link followed. A descriptor is the path it was opened
at; nobody else writes to the tree meanwhile. The `close` of a descriptor is a call that
may fail: what was done through the descriptor stays done, and the error is raised as it
is. Of a file's metadata only its bytes are kept, so that the calls that set owners and
times only succeed or fail.
-/
import PveHelper.Files.PathText
import PveHelper.Lib.DiskMoves

namespace PveHelper.Files

open Lib

abbrev Bytes := List UInt8

/-- A program on a storage's files. -/
abbrev Fs := Program Bytes Raised

variable (k : Kernel)

/-- An `OSError` turned into a `ConfinedFilesystemError`. -/
def failedAs (message : String) (_ : Errno) : Raised := .confined .failed message

/-- `except ConfinedFilesystemError`. -/
def exceptConfined {β : Type} (m : Fs β) (handler : ConfinedKind → Fs β) : Fs β :=
  except m fun r => match r with
    | .confined kind _ => some (handler kind)
    | _ => none

/-- `except OSError: pass`. -/
def ignoringOs (m : Fs Unit) : Fs Unit :=
  except m fun r => match r with
    | .os _ => some (pure ())
    | _ => none

/-- The last component; `parts[-1]`. -/
def lastPart (parts : List String) : Fs String :=
  match parts.getLast? with
  | some name => pure name
  | none => raise .index

/-- A value that was computed without a call. -/
def liftExcept {β : Type} (x : Except Raised β) : Fs β :=
  match x with
  | .ok b => pure b
  | .error e => raise e

/-! ## Closing -/

/-- The call that closes a descriptor. -/
def closeCall (fd : Path) : Program Bytes Errno Unit := k.ask ⟨.close, fd⟩ fun _ => .ok ()

/-- `os.close`. -/
def close (fd : Path) : Fs Unit := raisingAs .os (closeCall k fd)

/-- `try`/`finally`, with a close at the end. -/
def closing {β : Type} (fd : Path) (m : Fs β) : Fs β := ensuring m (close k fd)

/-! ## Directories -/

/-- `os.open(part, _DIRECTORY_FLAGS, dir_fd=fd)`. -/
def openDirectoryAt (fd : Path) (part : String) : Program Bytes Errno Path :=
  k.ask ⟨.openDirectory, fd ++ [part]⟩ (·.openDirectory fd part)

/-- The trusted root, resolved and opened. -/
def openRoot (root : Path) : Fs Path :=
  raisingAs (failedAs "Storage root is unavailable.")
    (k.ask ⟨.openRoot, root⟩ fun d => if d.isDirectory root then .ok root else .error .noent)

/-- `current_fd` is closed for the next one. -/
def stepInto (fd : Path) (opened : Fs Path) : Fs Path :=
  reraising (do
    let next ← opened
    close k fd
    pure next) (close k fd)

/-- The loop of `_open_parent`. -/
def openBeneath (fd : Path) : List String → Fs Path
  | [] => pure fd
  | part :: parts => do
    let next ← stepInto k fd (raisingAs (failedAs "Parent directory is unavailable or unsafe.") (openDirectoryAt k fd part))
    openBeneath next parts

/-- `_open_parent`. -/
def openParent (root : Path) (parts : List String) : Fs Path := do
  let fd ← openRoot k root
  openBeneath k fd parts

/-- One turn of the loop of `_open_or_create_parent`: what the creation raises is not wrapped. -/
def openOrCreateAt (fd : Path) (part : String) : Fs Path :=
  except (raisingAs .os (openDirectoryAt k fd part)) fun r => match r with
    | .os .noent => some do
      raisingAs .os (k.act ⟨.mkdir, fd ++ [part]⟩ (·.add fd part .directory))
      raisingAs .os (openDirectoryAt k fd part)
    | .os _ => some (raise (.confined .failed "Parent directory is unavailable or unsafe."))
    | _ => none

/-- The loop of `_open_or_create_parent`. -/
def openOrCreateBeneath (fd : Path) : List String → Fs Path
  | [] => pure fd
  | part :: parts => do
    let next ← stepInto k fd (openOrCreateAt k fd part)
    openOrCreateBeneath next parts

/-- `_open_or_create_parent`. -/
def openOrCreateParent (root : Path) (parts : List String) : Fs Path := do
  let fd ← openRoot k root
  openOrCreateBeneath k fd parts

/-- `create_confined_directories`. -/
def createConfinedDirectories (root : Path) (relativePath : String) : Fs Unit := do
  let parts ← liftExcept (normalizedRelativePath relativePath)
  let fd ← openOrCreateParent k root parts
  close k fd

/-- The parent of a target, made where it is missing if that is asked for. -/
def openTargetParent (root : Path) (parts : List String) (createTargetParents : Bool) : Fs Path :=
  if createTargetParents then openOrCreateParent k root parts else openParent k root parts

/-! ## Entries -/

/-- `expected` of an entry's type. -/
inductive Expected
  | any | file | directory
deriving DecidableEq

/-- The entries that are of the type. -/
def Expected.admits : Expected → Node Bytes → Bool
  | .file, x => x.isFile
  | .directory, x => x.isDirectory
  | .any, x => x.isFile || x.isDirectory

/-- What the others are refused with. -/
def Expected.refusal : Expected → String
  | .file => "Path does not identify a regular file."
  | .directory => "Path does not identify a directory."
  | .any => "Only files and directories can be changed."

/-- `_stat_confined_child`. -/
def statConfinedChild (fd : Path) (name : String) (expected : Expected) : Fs (Node Bytes) := do
  let entry ← except (raisingAs .os (k.ask ⟨.stat, fd ++ [name]⟩ (·.stat fd name))) fun r => match r with
    | .os .noent => some (raise (.confined .missing "Path does not exist."))
    | .os _ => some (raise (.confined .failed "Path is unavailable or unsafe."))
    | _ => none
  unlessRaise (expected.admits entry) (.confined .failed expected.refusal)
  pure entry

/-- `confined_entry_stat`; nothing where anything fails. -/
def confinedEntryStat (root : Path) (relativePath : String) : Fs (Option (Node Bytes)) := do
  let parts ← liftExcept (normalizedRelativePath relativePath)
  let fd ← except (do let fd ← openParent k root parts.dropLast; pure (some fd)) fun r => match r with
    | .confined _ _ => some (pure none)
    | _ => none
  match fd with
  | none => pure none
  | some fd =>
    closing k fd do
      let name ← lastPart parts
      except (do
          let entry ← raisingAs .os (k.ask ⟨.stat, fd ++ [name]⟩ (·.stat fd name))
          pure (some entry)) fun r => match r with
        | .os _ => some (pure none)
        | _ => none

/-- `_create_exclusive_child`. -/
def createExclusiveChild (fd : Path) (name : String) : Fs Unit :=
  except (raisingAs .os (k.act ⟨.create, fd ++ [name]⟩ (·.add fd name (.file [])))) fun r => match r with
    | .os .exist => some (raise (.confined .exists "Target file already exists."))
    | .os _ => some (raise (.confined .failed "File could not be created."))
    | _ => none

/-- `handle.write(chunk)`. -/
def writeChunk (handle : Path) (chunk : Bytes) : Fs Unit :=
  raisingAs .os (k.act ⟨.write, handle⟩ fun d => .ok (d.alter handle (· ++ chunk)))

/-! ## Renames that replace nothing -/

/-- The placeholder's name is claimed. -/
def claim (targetFd : Path) (targetName : String) (sourceIsDirectory : Bool) : Fs Unit :=
  except
    (raisingAs .os
      (if sourceIsDirectory then k.act ⟨.mkdir, targetFd ++ [targetName]⟩ (·.add targetFd targetName .directory)
      else k.act ⟨.create, targetFd ++ [targetName]⟩ (·.add targetFd targetName (.file []))))
    fun r => match r with
      | .os .exist => some (raise (.confined .exists "Target already exists."))
      | .os _ => some (raise (.confined .failed "Secure rename failed."))
      | _ => none

/-- The first call of `_reserve_then_rename`. A new file is open and is closed, in no `try`. -/
def reserve (targetFd : Path) (targetName : String) (sourceIsDirectory : Bool) : Fs Unit := do
  claim k targetFd targetName sourceIsDirectory
  if sourceIsDirectory then pure () else close k (targetFd ++ [targetName])

/-- The placeholder is taken away again. -/
def discardReserved (targetFd : Path) (targetName : String) (sourceIsDirectory : Bool) : Fs Unit :=
  ignoringOs (raisingAs .os
    (if sourceIsDirectory then k.act ⟨.rmdir, targetFd ++ [targetName]⟩ (·.rmdir targetFd targetName)
    else k.act ⟨.unlink, targetFd ++ [targetName]⟩ (·.unlink targetFd targetName)))

/-- What a failed plain rename is reported as. -/
def renameFailure : Errno → Raised
  | .xdev => .confined .crossDevice "Rename would cross a filesystem boundary."
  | .notempty => .confined .exists "Target already exists."
  | _ => .confined .failed "Secure rename failed."

/-- The second call of `_reserve_then_rename`: the move onto the placeholder. -/
def renameReserved (sourceFd : Path) (sourceName : String) (targetFd : Path) (targetName : String)
    (sourceIsDirectory : Bool) : Fs Unit :=
  except
    (raisingAs .os (k.act ⟨.rename, sourceFd ++ [sourceName]⟩ (·.rename (sourceFd ++ [sourceName]) targetFd targetName)))
    fun r => match r with
      | .os e => some do
        discardReserved k targetFd targetName sourceIsDirectory
        raise (renameFailure e)
      | _ => none

/-- `_reserve_then_rename`. -/
def reserveThenRename (sourceFd : Path) (sourceName : String) (targetFd : Path) (targetName : String)
    (sourceIsDirectory : Bool) : Fs Unit := do
  unlessRaise (decide (ConfinedName sourceName) && decide (ConfinedName targetName))
    (.confined .failed "Rename names must be single path components.")
  reserve k targetFd targetName sourceIsDirectory
  renameReserved k sourceFd sourceName targetFd targetName sourceIsDirectory

/-- `_RENAMEAT2_UNSUPPORTED`. -/
def renameat2Unsupported (e : Errno) : Bool := e = .inval || e = .nosys || e = .opnotsupp

/-- `_renameat2_noreplace`; a library without the call answers as a kernel without it. -/
def renameat2Noreplace (sourceFd : Path) (sourceName : String) (targetFd : Path) (targetName : String)
    (sourceIsDirectory : Bool) : Fs Unit :=
  except
    (raisingAs .os (k.act ⟨.renameNoReplace, sourceFd ++ [sourceName]⟩
      (·.renameNoReplace (sourceFd ++ [sourceName]) targetFd targetName)))
    fun r => match r with
      | .os .exist => some (raise (.confined .exists "Target file already exists."))
      | .os .xdev => some (raise (.confined .crossDevice "Rename would cross a filesystem boundary."))
      | .os e =>
        if renameat2Unsupported e then some (reserveThenRename k sourceFd sourceName targetFd targetName sourceIsDirectory)
        else some (raise (.confined .failed "Secure rename failed."))
      | _ => none

/-- The source of a rename, and the directory that its target is in. -/
def openRename (sourceFd : Path) (sourceParts targetParts : List String) (targetRoot : Path) (expected : Expected)
    (createTargetParents : Bool) : Fs (String × Node Bytes × Path) := do
  let sourceName ← lastPart sourceParts
  let source ← statConfinedChild k sourceFd sourceName expected
  let targetFd ← openTargetParent k targetRoot targetParts.dropLast createTargetParents
  pure (sourceName, source, targetFd)

/-- `rename_entry_noreplace`. -/
def renameEntryNoreplace (sourceRoot : Path) (sourceRelativePath targetRelativePath : String) (targetRoot : Path)
    (expected : Expected) (createTargetParents : Bool) : Fs Unit := do
  let sourceParts ← liftExcept (normalizedRelativePath sourceRelativePath)
  let targetParts ← liftExcept (normalizedRelativePath targetRelativePath)
  let sourceFd ← openParent k sourceRoot sourceParts.dropLast
  let (sourceName, source, targetFd) ← reraising
    (openRename k sourceFd sourceParts targetParts targetRoot expected createTargetParents) (close k sourceFd)
  ensuring (do
      let targetName ← lastPart targetParts
      renameat2Noreplace k sourceFd sourceName targetFd targetName source.isDirectory) do
    close k targetFd
    close k sourceFd

/-! ## Removals -/

/-- The parent of a removal; nothing where it cannot be opened and that does not matter. -/
def openParentOf (root : Path) (parts : List String) (missingOk : Bool) : Fs (Option Path) :=
  except (do let fd ← openParent k root parts.dropLast; pure (some fd)) fun r => match r with
    | .confined _ _ => if missingOk then some (pure none) else none
    | _ => none

/-- What is raised where the entry of a removal is not taken away. -/
def removalRaised : Errno → Raised
  | .noent => .confined .missing "File does not exist."
  | .isdir => .confined .failed "Path is a directory."
  | _ => .confined .failed "Delete failed."

/-- `remove_confined_file`. -/
def removeConfinedFile (root : Path) (relativePath : String) (missingOk : Bool) : Fs Unit := do
  let parts ← liftExcept (normalizedRelativePath relativePath)
  match ← openParentOf k root parts missingOk with
  | none => pure ()
  | some fd =>
    closing k fd do
      let name ← lastPart parts
      except (raisingAs .os (k.act ⟨.unlink, fd ++ [name]⟩ (·.unlink fd name))) fun r => match r with
        | .os e => if e = .noent ∧ missingOk then some (pure ()) else some (raise (removalRaised e))
        | _ => none

/-- `remove_confined_empty_directory`. -/
def removeConfinedEmptyDirectory (root : Path) (relativePath : String) (missingOk : Bool) : Fs Unit := do
  let parts ← liftExcept (normalizedRelativePath relativePath)
  match ← openParentOf k root parts missingOk with
  | none => pure ()
  | some fd =>
    closing k fd do
      let name ← lastPart parts
      except (raisingAs .os (k.act ⟨.rmdir, fd ++ [name]⟩ (·.rmdir fd name))) fun r => match r with
        | .os e =>
          if e = .noent then
            if missingOk then some (pure ()) else some (raise (.confined .missing "Directory does not exist."))
          else some (raise (.confined .failed "Directory could not be removed."))
        | _ => none

/-- One entry of a directory that is removed, and how a directory among them is. -/
def removeEntryAt (removeDirectory : Path → String → Program Bytes Errno Unit) (fd : Path) (entry : String) :
    Program Bytes Errno Unit := do
  let x ← k.ask ⟨.stat, fd ++ [entry]⟩ (·.stat fd entry)
  if x.isDirectory then removeDirectory fd entry else k.act ⟨.unlink, fd ++ [entry]⟩ (·.unlink fd entry)

/-- `_remove_directory_tree_at`; the fuel is more than the depth of the tree. -/
def removeDirectoryTreeAt : Nat → Path → String → Program Bytes Errno Unit
  | 0, _, _ => raise (.other 0)
  | fuel + 1, parentFd, name => do
    let fd ← openDirectoryAt k parentFd name
    ensuring (do
      let names ← k.list fd
      names.forM (removeEntryAt k (removeDirectoryTreeAt fuel) fd)) (closeCall k fd)
    k.act ⟨.rmdir, parentFd ++ [name]⟩ (·.rmdir parentFd name)

/-- More than the depth of the tree as it is. -/
def depthBound : Fs Nat := fun s => .ok (s.disk.depth + 1) s

/-- The entry that a removal is about, if it is there. -/
def statForRemoval (fd : Path) (name : String) (missingOk : Bool) : Fs (Option (Node Bytes)) :=
  except (do
      let x ← raisingAs .os (k.ask ⟨.stat, fd ++ [name]⟩ (·.stat fd name))
      pure (some x)) fun r => match r with
    | .os .noent => if missingOk then some (pure none) else some (raise (.confined .missing "Path does not exist."))
    | .os _ => some (raise (.confined .failed "Path is unavailable or unsafe."))
    | _ => none

/-- `remove_confined_tree`, its parent open. -/
def removeChildTree (fd : Path) (name : String) (missingOk : Bool) : Fs Unit := do
  match ← statForRemoval k fd name missingOk with
  | none => pure ()
  | some x =>
    let fuel ← depthBound
    raisingAs (failedAs "Delete failed.")
      (if x.isDirectory then removeDirectoryTreeAt k fuel fd name
      else k.act ⟨.unlink, fd ++ [name]⟩ (·.unlink fd name))

/-- `remove_confined_tree`. -/
def removeConfinedTree (root : Path) (relativePath : String) (missingOk : Bool) : Fs Unit := do
  let parts ← liftExcept (normalizedRelativePath relativePath)
  match ← openParentOf k root parts missingOk with
  | none => pure ()
  | some fd =>
    closing k fd do
      let name ← lastPart parts
      removeChildTree k fd name missingOk

/-! ## Listing -/

/-- The components of a path that may be the root itself. -/
def directoryParts (relativePath : String) : Except Raised (List String) :=
  if relativePath = "" then .ok [] else normalizedRelativePath relativePath

/-- An entry of a directory that is listed; nothing where it cannot be looked at. -/
def statListed (fd : Path) (name : String) : Fs (Option (String × Node Bytes)) :=
  except (do
      let x ← raisingAs .os (k.ask ⟨.stat, fd ++ [name]⟩ (·.stat fd name))
      pure (some (name, x))) fun r => match r with
    | .os _ => some (pure none)
    | _ => none

/-- `list_confined_directory`. -/
def listConfinedDirectory (root : Path) (relativePath : String) : Fs (List (String × Node Bytes)) := do
  let parts ← liftExcept (directoryParts relativePath)
  let fd ← openParent k root parts
  closing k fd do
    let names ← raisingAs .os (k.list fd)
    let entries ← names.mapM (statListed k fd)
    pure (entries.filterMap id)

end PveHelper.Files
