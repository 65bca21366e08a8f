/-
`copy_regular_file_noreplace` of `core/services/confined_filesystem.py`, with the handle that
it reads from (`open_regular_file_handle`). The target is created under a name that is free
and filled chunk by chunk, and it is taken away again where that fails.
-/
import PveHelper.Files.Confined

namespace PveHelper.Files

open Lib

variable (k : Kernel)

/-! ## The source -/

/-- `k.open` of a file for reading. -/
def openFileAt (fd : Path) (name : String) : Fs Unit :=
  raisingAs (failedAs "File is unavailable or unsafe.")
    (k.ask ⟨.openFile, fd ++ [name]⟩ fun d => if (d.node (fd ++ [name])).isSome then .ok () else .error .noent)

/-- The type of an open file is looked at. -/
def requireRegular (fd : Path) (name : String) : Fs Unit := do
  let entry ← raisingAs .os (k.ask ⟨.stat, fd ++ [name]⟩ (·.stat fd name))
  unlessRaise entry.isFile (.confined .failed "Path does not identify a regular file.")

/-- `open_regular_file_handle`; the handle is the file's path. -/
def openRegularFileHandle (root : Path) (relativePath : String) : Fs Path := do
  let parts ← liftExcept (normalizedRelativePath relativePath)
  let fd ← openParent k root parts.dropLast
  let name ← reraising (do
    let name ← lastPart parts
    openFileAt k fd name
    pure name) (close k fd)
  reraising (requireRegular k fd name) do
    close k (fd ++ [name])
    close k fd
  close k fd
  pure (fd ++ [name])

/-- `_COPY_CHUNK_BYTES`. -/
def copyChunkBytes : Nat := 1024 * 1024

/-- `source_handle.read(length)` from an offset; it fails as an opening of the file does. -/
def readChunk (handle : Path) (offset : Nat) : Fs Bytes :=
  raisingAs .os (k.ask ⟨.openFile, handle⟩ fun d => match d.node handle with
    | some (.file data) => .ok ((data.drop offset).take copyChunkBytes)
    | _ => .error (.other 0))

/-- `shutil.copyfileobj`; the fuel is more than the length of the source. -/
def copyFileObj (source target : Path) : Nat → Nat → Fs Unit
  | 0, _ => raise (.os (.other 0))
  | fuel + 1, offset => do
    let chunk ← readChunk k source offset
    if chunk = [] then pure ()
    else do
      writeChunk k target chunk
      copyFileObj source target fuel (offset + chunk.length)

/-- More than the length of the file as it is. -/
def lengthBound (handle : Path) : Fs Nat := fun s =>
  match s.disk.node handle with
  | some (.file data) => .ok (data.length + 1) s
  | _ => .ok 1 s

/-- `_discard_created_child`. -/
def discardCreatedChild (fd : Path) (name : String) : Fs Unit :=
  ignoringOs (raisingAs .os (k.act ⟨.unlink, fd ++ [name]⟩ (·.unlink fd name)))

/-- The bytes and the times of the target. The handle writes what it is given at once; its flush and
`k.utime` are calls that leave the bytes as they are. -/
def fillTarget (source target : Path) : Fs Unit := do
  let fuel ← lengthBound source
  copyFileObj k source target fuel 0
  raisingAs .os (k.ask ⟨.write, target⟩ fun _ => .ok ())
  raisingAs .os (k.ask ⟨.setOwner, target⟩ fun _ => .ok ())

/-- `except OSError`, where a copy is made. -/
def exceptOs (m : Fs Unit) : Fs Unit :=
  except m fun r => match r with
    | .os _ => some (raise (.confined .failed "Confined copy failed."))
    | _ => none

/-- `copy_regular_file_noreplace`. -/
def copyRegularFileNoreplace (sourceRoot : Path) (sourceRelativePath targetRelativePath : String) (targetRoot : Path)
    (createTargetParents : Bool) : Fs Unit := do
  let targetParts ← liftExcept (normalizedRelativePath targetRelativePath)
  let source ← openRegularFileHandle k sourceRoot sourceRelativePath
  closing k source <| exceptOs do
    raisingAs .os (k.ask ⟨.stat, source⟩ fun _ => .ok ())
    let targetFd ← openTargetParent k targetRoot targetParts.dropLast createTargetParents
    closing k targetFd do
      let name ← lastPart targetParts
      createExclusiveChild k targetFd name
      closing k (targetFd ++ [name])
        (reraising (fillTarget k source (targetFd ++ [name])) (discardCreatedChild k targetFd name))

end PveHelper.Files
