/-
Runs of file actions. A rename in place and a move within a mount move the one file, or leave
it. Over any run of the actions that do not remove what is in the trash, whichever calls fail
and whatever else adds to the tree, each file that was there has a place of its own that
holds what it held.
-/
import PveHelper.Files.Uploads
import PveHelper.Lib.DiskContent

namespace PveHelper.Files

open Lib

variable {k : Kernel} {env : ActionEnv} {d d' : Disk Bytes} {root source target : Path} {path name : String}

theorem MovedTo.nothingLost (h : MovedTo d source target d') : d.NothingLost d' := by
  obtain ⟨p, n, rfl, -, hmoved⟩ := h
  exact ⟨_, Disk.renameNoReplace_carries hmoved⟩

/-- A part of which no exit loses anything. -/
theorem nothingLost_of_triple {β : Type} {m : Fs β} {Q : β → Disk Bytes → Prop} {E : Raised → Disk Bytes → Prop}
    (s : Machine Bytes) (hm : Triple (On (· = s.disk)) m (fun b => On (Q b)) fun r => On (E r))
    (hok : ∀ b d', Q b d' → s.disk.NothingLost d') (herror : ∀ r d', E r d' → s.disk.NothingLost d') :
    NothingLost s (final m s) := by
  unfold final
  cases hrun : m s with
  | ok b s' => exact hok b s'.disk (hm.ok s b s' rfl hrun)
  | error r s' => exact herror r s'.disk (hm.error s r s' rfl hrun)

/-! ## Renames and moves -/

/-- What a rename that raised leaves: the file is where it was, or it was moved and a close
failed after it. -/
def StaysOrMoved (k : Kernel) (d : Disk Bytes) (source : Path) (r : Raised) (d' : Disk Bytes) : Prop :=
  Unmoved k d d' ∨ CloseRaised k r ∧ ∃ target, MovedTo d source target d'

theorem StaysOrMoved.nothingLost {r : Raised} (h : StaysOrMoved k d source r d') : d.NothingLost d' := by
  rcases h with h | ⟨-, target, h⟩
  · exact h.grows.nothingLost
  · exact h.nothingLost

theorem Unmoved.still {s : Machine Bytes} (h : On (· = d) s) : On (Unmoved k d) s :=
  show Unmoved k d s.disk from h ▸ Unmoved.refl k d

theorem StaysOrMoved.still {r : Raised} {s : Machine Bytes} (h : On (· = d) s) : On (StaysOrMoved k d source r) s :=
  .inl (Unmoved.still h)

/-- What a rename in place renames is a file of the directory, to another name of the directory. -/
theorem renameInPlace_triple {parts target : List String} :
    Triple (On (· = d)) (renameInPlace k (root ++ parts.dropLast) parts target)
      (fun new s => (∃ q, target = q ++ [new]) ∧ On (MovedTo d (root ++ parts) (root ++ parts.dropLast ++ [new])) s)
      fun _ => On (Unmoved k d) := by
  refine Triple.bind (lastPart_triple.raises fun _ s => Unmoved.still) fun sourceName => Triple.of_pure fun hsource =>
    ?_
  obtain ⟨q, rfl⟩ := hsource
  rw [List.dropLast_concat, ← List.append_assoc]
  refine Triple.bind (Q := fun x s => d.node (root ++ q ++ [sourceName]) = some x ∧ On (· = d) s) ?_ fun x =>
    Triple.of_pure fun hx => ?_
  · refine Triple.raisingAs (Kernel.ask_triple (fun s x i hs hstat => ?_) fun s e i hs => Unmoved.still hs)
    have hdisk : s.disk = d := hs
    rw [hdisk] at hstat
    exact ⟨Disk.stat_ok.mp hstat, hdisk⟩
  refine Triple.bind (Q := fun _ s => x.isFile = true ∧ On (· = d) s)
    (Triple.unlessRaise (fun s hs hfile => ⟨hfile, hs⟩) fun s => Unmoved.still) fun _ => Triple.of_pure fun hfile => ?_
  refine Triple.bind (lastPart_triple.raises fun _ s => Unmoved.still) fun new => Triple.of_pure fun hnew => ?_
  have hkind : x.isDirectory = false := by
    cases x with
    | file => rfl
    | _ => cases hfile
  rw [← hkind]
  exact Triple.bind (renameat2Noreplace_triple hx) fun _ => Triple.pure fun s hs =>
    ⟨hnew, root ++ q, new, rfl, by rw [hx]; exact hfile, hs⟩

/-- A rename in place moves its one file to a free name, or leaves it. -/
theorem renameRegularFileNoreplace_triple :
    Triple (On (· = d)) (renameRegularFileNoreplace k root path name)
      (fun new => On (MovedTo d (root ++ Text.posixParts path) (root ++ Text.posixParts new)))
      fun r => On (StaysOrMoved k d (root ++ Text.posixParts path) r) := by
  refine Triple.bind (liftExcept_triple.raises fun _ _ => StaysOrMoved.still) fun parts => Triple.of_pure fun hparts =>
    ?_
  refine Triple.bind (liftExcept_triple.raises fun _ _ => StaysOrMoved.still) fun target =>
    Triple.of_pure fun htarget => ?_
  rw [← parts_of_normalized hparts]
  refine Triple.bind ((looks (Maintains.unlessRaise _ _)).raises fun _ _ => StaysOrMoved.still) fun _ => ?_
  refine Triple.bind ((still openParent_sameDisk openParent_returns).raises fun _ _ => StaysOrMoved.still) fun fd =>
    Triple.of_pure fun hfd => ?_
  subst hfd
  refine Triple.bind (Q := fun new s => (∃ q, target = q ++ [new]) ∧
    On (MovedTo d (root ++ parts) (root ++ parts.dropLast ++ [new])) s)
    (Triple.ensuring renameInPlace_triple (fun new => Triple.of_pure fun hnew => ?_) fun r => ?_)
    fun new => Triple.of_pure fun hnew => Triple.pure fun s hs => ?_
  · exact (close_triple _).weaken (fun _ h => h) (fun _ _ h => ⟨hnew, h⟩) fun r s h => .inr ⟨h.1, _, h.2⟩
  · exact (close_triple _).weaken (fun _ h => h) (fun _ _ h => .inl h) fun _ _ h => .inl h.2
  · obtain ⟨q, rfl⟩ := hnew
    rw [Posix.posixParts_asPosix, ← List.append_assoc]
    · exact hs
    · intro n hn
      rcases List.mem_append.mp hn with hn | hn
      · exact ((normalizedRelativePath_names hparts).1 n (List.dropLast_subset _ hn)).toIsName
      · rw [List.mem_singleton.mp hn]
        exact ((normalizedRelativePath_names htarget).1 new (by simp)).toIsName

/-- `rename_storage_file`: the file is at its new path, or where it was. -/
theorem renameStorageFile_triple {storage : ActionMount} {e : FileEntry} {newName : String} {acknowledgedRisk : Bool} :
    Triple (On (· = d)) (renameStorageFile k env storage e newName acknowledgedRisk)
      (fun result => On (MovedTo d (storage.root ++ Text.posixParts e.path)
      (storage.root ++ Text.posixParts result.newPath)))
      fun _ => On fun d' => Unmoved k d d' ∨ ∃ target,
        MovedTo d (storage.root ++ Text.posixParts e.path) target d' := by
  have hstill : ∀ {s : Machine Bytes}, On (· = d) s →
      On (fun d' => Unmoved k d d' ∨ ∃ target, MovedTo d (storage.root ++ Text.posixParts e.path) target d') s :=
    fun h => .inl (Unmoved.still h)
  have hroot : Returns (· = storage.root) (storageRoot k storage) := fun s root s' h =>
    (storageRoot_ok.mp h).1
  refine Triple.bind ((looks requireStorageWriteAccess_sameDisk).raises fun _ _ => hstill) fun _ => ?_
  refine Triple.bind ((looks (Maintains.unlessRaise _ _)).raises fun _ _ => hstill) fun _ => ?_
  refine Triple.bind ((looks requireNotBlocked_sameDisk).raises fun _ _ => hstill) fun _ => ?_
  refine Triple.bind (liftExcept_triple.raises fun _ _ => hstill) fun safeName => Triple.of_pure fun _ => ?_
  refine Triple.bind ((still storageRoot_sameDisk hroot).raises fun _ _ => hstill) fun root =>
    Triple.of_pure fun hroot => ?_
  subst hroot
  refine Triple.bind (Q := fun new => On (MovedTo d (storage.root ++ Text.posixParts e.path)
    (storage.root ++ Text.posixParts new))) ?_ fun new => ?_
  · refine exceptConfined_triple renameRegularFileNoreplace_triple (fun kind message => Triple.raise fun s hs => ?_)
      fun r s _ hs => ?_
    · exact .inl (hs.resolve_right fun h => CloseRaised.not_confined h.1)
    · exact hs.imp_right And.right
  · refine Triple.bind (liftExcept_triple.raises fun _ _ hs => .inr ⟨_, hs⟩) fun _ => Triple.of_pure fun _ => ?_
    refine Triple.bind (liftExcept_triple.raises fun _ _ hs => .inr ⟨_, hs⟩) fun _ => Triple.of_pure fun _ => ?_
    exact Triple.pure fun s hs => hs

theorem moveTarget_sameDisk {oldPath targetRelative : String} :
    Maintains SameDisk (moveTarget k root oldPath targetRelative) := by
  refine Maintains.bind (confinedEntryStat_sameDisk _) fun entry => ?_
  split
  · exact liftExcept_sameDisk _
  · exact Maintains.pure _

/-- `move_storage_file`: the file is at its new path, or where it was. -/
theorem moveStorageFile_triple {storage : ActionMount} {e : FileEntry} {newPath : String} {acknowledgedRisk : Bool} :
    Triple (On (· = d)) (moveStorageFile k env storage e newPath acknowledgedRisk)
      (fun result => On (MovedTo d (storage.root ++ Text.posixParts result.oldPath)
        (storage.root ++ Text.posixParts result.newPath)))
      fun _ => On fun d' => Unmoved k d d' ∨ ∃ source target, MovedTo d source target d' := by
  have hstill : ∀ {s : Machine Bytes}, On (· = d) s →
      On (fun d' => Unmoved k d d' ∨ ∃ source target, MovedTo d source target d') s := fun h => .inl (Unmoved.still h)
  have hroot : Returns (· = storage.root) (storageRoot k storage) := fun s root s' h =>
    (storageRoot_ok.mp h).1
  refine Triple.bind ((looks requireStorageWriteAccess_sameDisk).raises fun _ _ => hstill) fun _ => ?_
  refine Triple.bind ((looks (Maintains.unlessRaise _ _)).raises fun _ _ => hstill) fun _ => ?_
  refine Triple.bind ((looks requireNotBlocked_sameDisk).raises fun _ _ => hstill) fun _ => ?_
  refine Triple.bind (liftExcept_triple.raises fun _ _ => hstill) fun oldPath => Triple.of_pure fun _ => ?_
  refine Triple.bind (liftExcept_triple.raises fun _ _ => hstill) fun _ => Triple.of_pure fun _ => ?_
  refine Triple.bind ((looks (Maintains.unlessRaise _ _)).raises fun _ _ => hstill) fun _ => ?_
  refine Triple.bind ((still storageRoot_sameDisk hroot).raises fun _ _ => hstill) fun root =>
    Triple.of_pure fun hroot => ?_
  subst hroot
  refine Triple.bind ((looks (requireConfinedFile_sameDisk _ _)).raises fun _ _ => hstill) fun _ => ?_
  refine Triple.bind ((looks moveTarget_sameDisk).raises fun _ _ => hstill) fun targetRelative => ?_
  refine Triple.bind (liftExcept_triple.raises fun _ _ => hstill) fun _ => Triple.of_pure fun _ => ?_
  refine Triple.bind ((looks requireConfinedDirectory_sameDisk).raises fun _ _ => hstill) fun _ => ?_
  refine Triple.bind (Q := fun _ => On (MovedTo d (storage.root ++ Text.posixParts oldPath)
    (storage.root ++ Text.posixParts targetRelative))) ?_ fun _ => ?_
  · refine exceptConfined_triple renameFileNoreplace_triple (fun kind message => Triple.raise fun s hs => ?_)
      fun r s _ hs => ?_
    · exact .inl (hs.resolve_right fun h => CloseRaised.not_confined h.1)
    · exact hs.imp_right fun h => ⟨_, _, h.2⟩
  · refine Triple.bind (liftExcept_triple.raises fun _ _ hs => .inr ⟨_, _, hs⟩) fun _ => Triple.of_pure fun _ => ?_
    refine Triple.bind (liftExcept_triple.raises fun _ _ hs => .inr ⟨_, _, hs⟩) fun _ => Triple.of_pure fun _ => ?_
    exact Triple.pure fun s hs => hs

/-! ## New directories -/

theorem createDirectoryNoreplace_grown : Maintains Grown (createDirectoryNoreplace k root path) := by
  refine Maintains.bind ((liftExcept_sameDisk _).mono SameDisk.grown) fun parts => ?_
  refine Maintains.bind (openParent_sameDisk.mono SameDisk.grown) fun fd => ?_
  refine Maintains.ensuring (Maintains.bind ((lastPart_sameDisk _).mono SameDisk.grown) fun name =>
    Maintains.except (Maintains.raisingAs (fun s => ?_)) fun r m hm => ?_) ((close_sameDisk fd).mono SameDisk.grown)
  · unfold final
    cases hadd : k.act ⟨.mkdir, fd ++ [name]⟩ (·.add fd name .directory) s with
    | ok u s' => exact Disk.add_grows (Kernel.act_ok hadd)
    | error e s' => exact SameDisk.grown (Kernel.act_error hadd).2
  · split at hm <;> cases hm <;> exact Maintains.raise _

theorem createStorageDirectory_grown {storage : ActionMount} {directoryPath folderName : String} :
    Maintains Grown (createStorageDirectory k env storage directoryPath folderName) := by
  refine Maintains.bind (requireStorageWriteAccess_sameDisk.mono SameDisk.grown) fun _ => ?_
  refine Maintains.bind ((liftExcept_sameDisk _).mono SameDisk.grown) fun _ => ?_
  refine Maintains.bind (storageRoot_sameDisk.mono SameDisk.grown) fun root => ?_
  refine Maintains.bind ((liftExcept_sameDisk _).mono SameDisk.grown) fun _ => ?_
  refine Maintains.bind (requireConfinedDirectory_sameDisk.mono SameDisk.grown) fun _ => ?_
  refine Maintains.bind ((liftExcept_sameDisk _).mono SameDisk.grown) fun _ => ?_
  refine Maintains.bind (exceptConfined_maintains createDirectoryNoreplace_grown) fun _ => ?_
  refine Maintains.bind ((liftExcept_sameDisk _).mono SameDisk.grown) fun _ => ?_
  exact Maintains.bind ((liftExcept_sameDisk _).mono SameDisk.grown) fun _ => Maintains.pure _

/-! ## Trash -/

theorem Renamed.nothingLost {sourceRoot targetRoot : Path} {expected : Expected}
    (h : Renamed d sourceRoot targetRoot path name expected d') : d.NothingLost d' := by
  obtain ⟨sp, sn, tp, tn, x, -, -, -, -, hmoved⟩ := h
  exact ⟨_, Disk.renameNoReplace_carries hmoved⟩

theorem renameEntryNoreplace_nothingLost {sourceRoot targetRoot : Path} {expected : Expected} :
    Maintains NothingLost (renameEntryNoreplace k sourceRoot path name targetRoot expected false) := fun s =>
  nothingLost_of_triple s renameEntryNoreplace_triple (fun _ _ h => h.nothingLost) fun _ _ h => by
    rcases h with h | ⟨-, h⟩
    · exact h.grows.nothingLost
    · exact h.nothingLost

theorem moveFileToTrash_nothingLost {storage : ActionMount} {e : FileEntry} {stamp : String} {acknowledgedRisk : Bool} :
    Maintains NothingLost (moveFileToTrash k env storage e stamp acknowledgedRisk) := by
  refine Maintains.bind (requireStorageWriteAccess_sameDisk.mono SameDisk.nothingLost) fun _ => ?_
  refine Maintains.bind (Maintains.unlessRaise _ _) fun _ => ?_
  refine Maintains.bind (requireNotBlocked_sameDisk.mono SameDisk.nothingLost) fun _ => ?_
  refine Maintains.bind (storageRoot_sameDisk.mono SameDisk.nothingLost) fun root => ?_
  refine Maintains.bind ((liftExcept_sameDisk _).mono SameDisk.nothingLost) fun original => ?_
  refine Maintains.bind (requireConfinedEntry_sameDisk.mono SameDisk.nothingLost) fun _ => ?_
  refine Maintains.bind (requireEmptyGuestDirectory_sameDisk.mono SameDisk.nothingLost) fun _ => ?_
  refine Maintains.bind ((liftExcept_sameDisk _).mono SameDisk.nothingLost) fun trashRelative => ?_
  refine Maintains.bind ((liftExcept_sameDisk _).mono SameDisk.nothingLost) fun trashParent => ?_
  refine Maintains.bind (exceptConfined_maintains ((createConfinedDirectories_grown _).mono Grown.nothingLost))
    fun _ => ?_
  exact Maintains.bind (exceptConfined_maintains renameEntryNoreplace_nothingLost) fun _ => Maintains.pure _

theorem restoreTrashItem_nothingLost {resolveMount : String → Option ActionMount} {item : TrashItem} :
    Maintains NothingLost (restoreTrashItem k env resolveMount item) := by
  refine Maintains.bind (Maintains.unlessRaise _ _) fun _ => ?_
  refine Maintains.bind (storageForTrashItem_sameDisk.mono SameDisk.nothingLost) fun storage => ?_
  refine Maintains.bind (requireStorageWriteAccess_sameDisk.mono SameDisk.nothingLost) fun _ => ?_
  refine Maintains.bind (storageRoot_sameDisk.mono SameDisk.nothingLost) fun root => ?_
  refine Maintains.bind ((liftExcept_sameDisk _).mono SameDisk.nothingLost) fun trashRelative => ?_
  refine Maintains.bind ((liftExcept_sameDisk _).mono SameDisk.nothingLost) fun restoreRelative => ?_
  refine Maintains.bind (requireConfinedEntry_sameDisk.mono SameDisk.nothingLost) fun _ => ?_
  refine Maintains.bind ((liftExcept_sameDisk _).mono SameDisk.nothingLost) fun restoreParent => ?_
  refine Maintains.bind (createRestoreParent_grown.mono Grown.nothingLost) fun _ => ?_
  exact Maintains.bind (exceptConfined_maintains renameEntryNoreplace_nothingLost) fun _ => Maintains.pure _

/-! ## Runs -/

/-- An action that is asked for, with what it is asked with. -/
inductive FileAction
  | trash (storage : ActionMount) (e : FileEntry) (stamp : String) (acknowledgedRisk : Bool)
  | restore (resolveMount : String → Option ActionMount) (item : TrashItem)
  | rename (storage : ActionMount) (e : FileEntry) (newName : String) (acknowledgedRisk : Bool)
  | move (storage : ActionMount) (e : FileEntry) (newPath : String) (acknowledgedRisk : Bool)
  | transfer (source : ActionMount) (e : FileEntry) (dest : ActionMount) (destDirectory destName : String)
    (keepSource acknowledgedRisk : Bool)
  | createDirectory (storage : ActionMount) (directoryPath folderName : String)
  | upload (storage : ActionMount) (directoryPath : String) (uploaded : UploadedFile) (maxSizeMb : Int) (token : String)

/-- The machine after an action, whether it answers or raises. -/
def FileAction.run (k : Kernel) (env : ActionEnv) : FileAction → Machine Bytes → Machine Bytes
  | .trash storage e stamp acknowledgedRisk => final (moveFileToTrash k env storage e stamp acknowledgedRisk)
  | .restore resolveMount item => final (restoreTrashItem k env resolveMount item)
  | .rename storage e newName acknowledgedRisk => final (renameStorageFile k env storage e newName acknowledgedRisk)
  | .move storage e newPath acknowledgedRisk => final (moveStorageFile k env storage e newPath acknowledgedRisk)
  | .transfer source e dest destDirectory destName keepSource acknowledgedRisk =>
    final (transferStorageFile k env source e dest destDirectory destName keepSource acknowledgedRisk)
  | .createDirectory storage directoryPath folderName =>
    final (createStorageDirectory k env storage directoryPath folderName)
  | .upload storage directoryPath uploaded maxSizeMb token =>
    final (uploadToStorage k env storage directoryPath uploaded maxSizeMb token)

/-- An action, with its own failures and settings; or something else has added to the tree. -/
inductive FileStep : Machine Bytes → Machine Bytes → Prop
  | action (k : Kernel) (env : ActionEnv) (a : FileAction) (s : Machine Bytes) : FileStep s (a.run k env s)
  | outside {s s' : Machine Bytes} (h : Grown s s') : FileStep s s'

theorem Delivered.nothingLost {content : Bytes} (hsource : d.node source = some (.file content))
    (h : Delivered d source target content d') : d.NothingLost d' :=
  Disk.NothingLost.of_delivered hsource h.free h.others h.target

/-- No action loses anything. -/
theorem FileAction.run_nothingLost (a : FileAction) (s : Machine Bytes) : NothingLost s (a.run k env s) := by
  cases a with
  | trash => exact moveFileToTrash_nothingLost s
  | restore => exact restoreTrashItem_nothingLost s
  | rename =>
    refine nothingLost_of_triple s renameStorageFile_triple (fun _ d' h => h.nothingLost) fun _ d' h => ?_
    rcases h with h | ⟨target, h⟩
    · exact h.grows.nothingLost
    · exact h.nothingLost
  | move =>
    refine nothingLost_of_triple s moveStorageFile_triple (fun _ d' h => h.nothingLost) fun _ d' h => ?_
    rcases h with h | ⟨source, target, h⟩
    · exact h.grows.nothingLost
    · exact h.nothingLost
  | transfer =>
    refine nothingLost_of_triple s transferStorageFile_triple (fun _ d' h => ?_) fun _ d' h => ?_
    · obtain ⟨relative, content, h⟩ := h
      exact h.delivered.nothingLost h.source
    · rcases h with h | ⟨relative, target, content, h⟩
      · exact h.nothingLost
      · exact h.delivered.nothingLost h.source
  | createDirectory => exact (createStorageDirectory_grown s).nothingLost
  | upload =>
    refine nothingLost_of_triple s uploadToStorage_triple (fun _ d' h => h.written.grows.nothingLost) fun r d' h => ?_
    rcases h with h | ⟨-, h⟩
    · exact h.grows.nothingLost
    · exact h.nothingLost

/-- Over a run of actions nothing is lost of what was there. -/
theorem runs_nothingLost {s s' : Machine Bytes} (h : Relation.ReflTransGen FileStep s s') : NothingLost s s' := by
  induction h with
  | refl => exact Disk.NothingLost.refl _
  | tail _ hstep ih =>
    cases hstep with
    | action k env a => exact ih.trans (a.run_nothingLost _)
    | outside hgrown => exact ih.trans hgrown.nothingLost

theorem looseDisk_run : NothingLost (⟨looseDisks, 0⟩ : Machine Bytes)
    (FileAction.run twoExports quietEnv (.transfer trashMount looseDisk otherMount "iso" "" false false)
      (FileAction.run twoExports quietEnv (.createDirectory trashMount "" "iso") ⟨looseDisks, 0⟩)) :=
  runs_nothingLost (.tail (.single (.action twoExports quietEnv (.createDirectory trashMount "" "iso") _))
    (.action twoExports quietEnv (.transfer trashMount looseDisk otherMount "iso" "" false false) _))

end PveHelper.Files
