/-
`transfer_storage_file` of `core/services/storage_actions.py`: a file is copied, or moved,
to a directory of any mount. A move within one file system is a rename; across two it is a
copy and then a removal of the source, undone by a removal of the copy. However it ends,
and whichever call or close fails, the content is at the one path or at the other, and no
other entry is touched.
-/
import PveHelper.Files.CopyFacts
import PveHelper.Files.TrashInverse

namespace PveHelper.Files

open Lib

/-- What `transfer_storage_file` returns. -/
structure TransferResult where
  sourcePath : String
  sourceDirectoryPath : String
  destStorageId : String
  destPath : String
  destDirectoryPath : String
  keptSource : Bool

/-- `(dest_name or "").strip() or PurePosixPath(source_relative).name`. -/
def transferName (destName sourceRelative : String) : String := orText (Text.strip destName) (Posix.name sourceRelative)

/-- `dest_directory`, and `dest_relative`. -/
def transferTarget (destDirectory destName sourceRelative : String) : Except Raised (String × String) :=
  let name := transferName destName sourceRelative
  if '/' ∈ name.toList ∨ '\\' ∈ name.toList ∨ name = "." ∨
    name = ".." then .error (.action "Invalid destination file name.")
  else do
    let directory ← normalizeRelativePath destDirectory
    let relative ← if directory = "" then pure name else joinRelative directory name
    pure (directory, relative)

section
variable (k : Kernel) (env : ActionEnv)

/-- `_require_confined_file`. -/
def requireConfinedFile (relativePath : String) (root : Path) : Fs (Node Bytes) := do
  match ← confinedEntryStat k root relativePath with
  | none => raise (.action "File does not exist.")
  | some x =>
    unlessRaise x.isFile (.action "File does not exist.")
    pure x

/-- What only a move asks of its source. -/
def requireMovable (source : ActionMount) (e : FileEntry) (keepSource acknowledgedRisk : Bool) : Fs Unit :=
  if keepSource then pure ()
  else do
    requireStorageWriteAccess env source
    requireNotBlocked env e acknowledgedRisk

/-- The destination's directory, made where it is missing. -/
def createDestination (destRoot : Path) (directory : String) : Fs Unit :=
  if directory = "" then pure ()
  else exceptConfined (createConfinedDirectories k destRoot directory) fun _ =>
    raise (.action "Could not create the destination folder.")

/-- What a copy's or a rename's errors are raised as. -/
def transferRaised (failureMessage : String) : ConfinedKind → Raised
  | .exists => .action "A file with that name already exists in the destination."
  | _ => .action failureMessage

/-- `copy_to_destination`. -/
def copyToDestination (sourceRoot : Path) (sourceRelative : String) (destRoot : Path)
    (destRelative failureMessage : String) : Fs Unit :=
  exceptConfined (copyRegularFileNoreplace k sourceRoot sourceRelative destRelative destRoot false) fun kind =>
    raise (transferRaised failureMessage kind)

/-- The move across two file systems. -/
def copyThenRemove (sourceRoot : Path) (sourceRelative : String) (destRoot : Path) (destRelative : String) :
    Fs Unit := do
  copyToDestination k sourceRoot sourceRelative destRoot destRelative "Move failed."
  exceptConfined (removeConfinedFile k sourceRoot sourceRelative false) fun _ => do
    removeConfinedFile k destRoot destRelative true
    raise (.action "Move failed.")

/-- The move, by a rename where there can be one. -/
def moveToDestination (sourceRoot : Path) (sourceRelative : String) (destRoot : Path) (destRelative : String) :
    Fs Unit :=
  exceptConfined (renameEntryNoreplace k sourceRoot sourceRelative destRelative destRoot .file false) fun kind =>
    match kind with
    | .crossDevice => copyThenRemove k sourceRoot sourceRelative destRoot destRelative
    | _ => raise (transferRaised "Move failed." kind)

/-- The copy or the move. -/
def putAtDestination (keepSource : Bool) (sourceRoot : Path) (sourceRelative : String) (destRoot : Path)
    (destRelative : String) : Fs Unit :=
  if keepSource then copyToDestination k sourceRoot sourceRelative destRoot destRelative "Copy failed."
  else moveToDestination k sourceRoot sourceRelative destRoot destRelative

/-- `transfer_storage_file`. -/
def transferStorageFile (source : ActionMount) (e : FileEntry) (dest : ActionMount) (destDirectory destName : String)
    (keepSource acknowledgedRisk : Bool) : Fs TransferResult := do
  requireStorageWriteAccess env dest
  unlessRaise (e.entryType = .file) (.action "Only files can be copied or moved.")
  requireMovable env source e keepSource acknowledgedRisk
  let sourceRoot ← storageRoot k source
  let sourceRelative ← liftExcept (normalizeRelativePath e.path)
  let _ ← requireConfinedFile k sourceRelative sourceRoot
  let destRoot ← storageRoot k dest
  let (directory, destRelative) ← liftExcept (transferTarget destDirectory destName sourceRelative)
  unlessRaise (!(destRoot = sourceRoot && destRelative = sourceRelative))
    (.action "Source and destination are the same file.")
  createDestination k destRoot directory
  putAtDestination k keepSource sourceRoot sourceRelative destRoot destRelative
  let sourceRelative ← liftExcept (normalizeRelativePath e.path)
  let sourceDirectory ← liftExcept (parentRelative sourceRelative)
  let destDirectory ← liftExcept (parentRelative destRelative)
  pure ⟨sourceRelative, sourceDirectory, dest.storageId, destRelative, destDirectory, keepSource⟩

end

/-! ## What a transfer keeps -/

/-- No entry that was there has changed but the source, and the source's content is where
it was or at one of these paths. -/
structure Kept (d : Disk Bytes) (source : Path) (targets : Path → Prop) (d' : Disk Bytes) : Prop where
  others : ∀ q, q ≠ source → (d.node q).isSome = true → d'.node q = d.node q
  content : ∀ c, d.node source = some (.file c) →
    d'.node source = some (.file c) ∨ ∃ t, targets t ∧ d'.node t = some (.file c)

/-- No entry that was there has changed but the source, and its content is at the target,
which was free. -/
structure Delivered (d : Disk Bytes) (source target : Path) (content : Bytes) (d' : Disk Bytes) : Prop where
  others : ∀ q, q ≠ source → (d.node q).isSome = true → d'.node q = d.node q
  free : d.node target = none
  target : d'.node target = some (.file content)

/-- Delivered, and with `keep_source` still at its own path. -/
def Transferred (d : Disk Bytes) (source target : Path) (content : Bytes) (keepSource : Bool) (d' : Disk Bytes) :
    Prop :=
  Delivered d source target content d' ∧ (keepSource = true → d'.node source = some (.file content))

variable {k : Kernel} {env : ActionEnv} {d d' : Disk Bytes} {source target : Path} {targets : Path → Prop}
    {content : Bytes}

theorem Kept.of_grows (h : d.Grows d') : Kept d source targets d' where
  others q _ hq := h q hq
  content c hc := .inl (by rw [h source (by rw [hc]; rfl), hc])

theorem Kept.of_delivered (hsource : d.node source = some (.file content)) (htarget : targets target)
    (h : Delivered d source target content d') : Kept d source targets d' where
  others := h.others
  content c hc := by
    rw [hsource, Option.some.injEq, Node.file.injEq] at hc
    exact .inr ⟨target, htarget, hc ▸ h.target⟩

/-- What is free in a tree that has grown was free before. -/
theorem free_of_grows {p : Path} (h : d.Grows d') (hp : d'.node p = none) : d.node p = none := by
  by_contra hne
  have hsame := h p (Option.isSome_iff_ne_none.mpr hne)
  rw [hp] at hsame
  exact hne hsame.symm

theorem Delivered.of_moved {d₁ : Disk Bytes} (hgrows : d.Grows d₁) (hsource : d.node source = some (.file content))
    (h : MovedTo d₁ source target d') : Delivered d source target content d' := by
  obtain ⟨p, n, rfl, -, hmoved⟩ := h
  constructor
  · intro q hne hq
    refine hgrows.renameNoReplace_other hmoved hq fun hpre => ?_
    -- nothing is below a file
    have habove := Disk.node_prefix hq hpre (Ne.symm hne)
    rw [hsource] at habove
    cases habove
  · exact free_of_grows hgrows (Disk.renameNoReplace_ok hmoved).1
  · obtain ⟨-, hm, rfl⟩ := Disk.renameNoReplace_ok hmoved
    have hnode := Disk.node_move_target (q := []) (h := hm)
    rw [List.append_nil, List.append_nil] at hnode
    rw [hnode, hgrows source (by rw [hsource]; rfl), hsource]

theorem Delivered.of_filling (h : Filling d target content d') : Delivered d source target content d' where
  others q _ hq := h.grows q hq
  free := h.free
  target := h.target

theorem Delivered.of_removed (hsource : d.node source = some (.file content))
    (h : Removed (Filling d target content) source d') : Delivered d source target content d' := by
  obtain ⟨d₁, hfilling, -, hnode⟩ := h
  have hne : target ≠ source := by
    rintro rfl
    rw [hfilling.free] at hsource
    cases hsource
  constructor
  · intro q hq hthere
    rw [hnode q, if_neg hq, hfilling.grows q hthere]
  · exact hfilling.free
  · rw [hnode target, if_neg hne, hfilling.target]

theorem Filling.removed (h : Removed (Filling d target content) target d') : d.Grows d' := by
  obtain ⟨d₁, hfilling, -, hnode⟩ := h
  intro q hq
  have hne : q ≠ target := by
    rintro rfl
    rw [hfilling.free] at hq
    cases hq
  rw [hnode q, if_neg hne, hfilling.grows q hq]

/-! ## The ways to transfer -/

section
variable {sourceRoot destRoot : Path} {sourceRelative destRelative : String}
  (hsource : d.node (sourceRoot ++ Text.posixParts sourceRelative) = some (.file content))
include hsource

theorem copyToDestination_triple (failureMessage : String) :
    Triple (On d.Grows) (copyToDestination k sourceRoot sourceRelative destRoot destRelative failureMessage)
      (fun _ => On (Filling d (destRoot ++ Text.posixParts destRelative) content)) fun _ => On d.Grows := by
  refine exceptConfined_triple (F := fun _ => On d.Grows) ?_ (fun kind message => Triple.raise fun s hs => hs)
    fun r s _ hs => hs
  refine Triple.of_each fun s₀ hs₀ => ?_
  refine (copyRegularFileNoreplace_triple (d := s₀.disk)).weaken (fun s hs => by rw [hs]; exact rfl) (fun _ s hs => ?_)
    fun _ s hs => Disk.Grows.trans hs₀ hs
  obtain ⟨c, hc, hfilling⟩ := hs
  have hthere := hs₀ _ (by rw [hsource]; rfl)
  rw [hc, hsource, Option.some.injEq, Node.file.injEq] at hthere
  exact ⟨Disk.Grows.trans hs₀ hfilling.grows, free_of_grows hs₀ hfilling.free, by rw [hfilling.target, hthere]⟩

/-- The copy stands before the source goes, and goes only where the source stays. -/
theorem copyThenRemove_triple :
    Triple (On d.Grows) (copyThenRemove k sourceRoot sourceRelative destRoot destRelative)
      (fun _ => On (Delivered d (sourceRoot ++ Text.posixParts sourceRelative)
      (destRoot ++ Text.posixParts destRelative) content))
      fun _ => On fun d' => d.Grows d' ∨
        Delivered d (sourceRoot ++ Text.posixParts sourceRelative) (destRoot ++ Text.posixParts destRelative) content
        d' := by
  refine Triple.bind ((copyToDestination_triple hsource _).raises fun _ _ hs => .inl hs) fun _ => ?_
  have hremove : Triple (On (Filling d (destRoot ++ Text.posixParts destRelative) content))
      (removeConfinedFile k sourceRoot sourceRelative false)
      (fun _ => On (Delivered d (sourceRoot ++ Text.posixParts sourceRelative)
        (destRoot ++ Text.posixParts destRelative)
        content)) _ :=
    removeConfinedFile_triple.weaken (fun _ h => h)
      (fun _ s hs => Delivered.of_removed hsource (hs.resolve_left fun h => Bool.false_ne_true h.1)) fun _ _ h => h
  refine exceptConfined_triple hremove (fun kind message => ?_) fun r s _ hs => ?_
  · -- the source stays, so the copy may go
    have hundone : Triple (On (Filling d (destRoot ++ Text.posixParts destRelative) content))
        (removeConfinedFile k destRoot destRelative true) _ _ := removeConfinedFile_triple
    refine Triple.bind (Q := fun _ => On d.Grows) (hundone.weaken (fun s hs => ?_) (fun _ s hs => ?_) fun _ s hs => ?_)
      fun _ =>
      Triple.raise fun s hs => .inl hs
    · exact hs.resolve_right fun h => CloseRaised.not_confined h.1
    · rcases hs with ⟨-, hs⟩ | hs
      · exact hs.grows
      · exact Filling.removed hs
    · rcases hs with hs | ⟨-, hs⟩
      · exact .inl hs.grows
      · exact .inl (Filling.removed hs)
  · rcases hs with hs | ⟨-, hs⟩
    · exact .inl hs.grows
    · exact .inr (Delivered.of_removed hsource hs)

theorem moveToDestination_triple :
    Triple (On d.Grows) (moveToDestination k sourceRoot sourceRelative destRoot destRelative)
      (fun _ => On (Delivered d (sourceRoot ++ Text.posixParts sourceRelative)
      (destRoot ++ Text.posixParts destRelative)
        content))
      fun _ => On fun d' => d.Grows d' ∨ Delivered d (sourceRoot ++ Text.posixParts sourceRelative)
        (destRoot ++ Text.posixParts destRelative) content d' := by
  refine Triple.of_each fun s₀ hs₀ => ?_
  have hrename : Triple (· = s₀) (renameEntryNoreplace k sourceRoot sourceRelative destRelative destRoot .file false)
      (fun _ => On (Delivered d (sourceRoot ++ Text.posixParts sourceRelative)
      (destRoot ++ Text.posixParts destRelative)
        content))
      fun r => On fun d' => d.Grows d' ∨ CloseRaised k r ∧ Delivered d (sourceRoot ++ Text.posixParts sourceRelative)
        (destRoot ++ Text.posixParts destRelative) content d' :=
    renameFileNoreplace_triple.weaken (fun s hs => show s.disk = s₀.disk from hs ▸ rfl)
      (fun _ _ hs => Delivered.of_moved hs₀ hsource hs)
      fun _ _ hs => hs.imp (fun h => Disk.Grows.trans hs₀ h.grows) fun h => ⟨h.1, Delivered.of_moved hs₀ hsource h.2⟩
  refine exceptConfined_triple hrename (fun kind message => ?_) fun r s _ hs => hs.imp_right And.right
  have hstart : ∀ s, On (fun d' => d.Grows d' ∨ CloseRaised k (.confined kind message) ∧
      Delivered d (sourceRoot ++ Text.posixParts sourceRelative) (destRoot ++ Text.posixParts destRelative) content d')
      s →
      On d.Grows s :=
    fun s hs => hs.resolve_right fun h => CloseRaised.not_confined h.1
  cases kind with
  | crossDevice => exact (copyThenRemove_triple hsource).weaken hstart (fun _ _ h => h) fun _ _ h => h
  | _ => exact Triple.raise fun s hs => .inl (hstart s hs)

theorem putAtDestination_triple {keepSource : Bool} :
    Triple (On d.Grows) (putAtDestination k keepSource sourceRoot sourceRelative destRoot destRelative)
      (fun _ => On (Transferred d (sourceRoot ++ Text.posixParts sourceRelative)
      (destRoot ++ Text.posixParts destRelative) content keepSource))
      fun _ => On fun d' => d.Grows d' ∨
        Delivered d (sourceRoot ++ Text.posixParts sourceRelative) (destRoot ++ Text.posixParts destRelative) content
        d' := by
  cases keepSource with
  | true =>
    refine (copyToDestination_triple hsource _).weaken (fun _ h => h)
      (fun _ s hs => ⟨Delivered.of_filling hs, fun _ => ?_⟩)
      fun _ _ h => .inl h
    rw [hs.grows _ (by rw [hsource]; rfl), hsource]
  | false =>
    exact (moveToDestination_triple hsource).weaken (fun _ h => h) (fun _ s hs => ⟨hs, fun hkeep => by cases hkeep⟩)
      fun _ _ h => h

end

/-! ## The whole transfer -/

theorem requireConfinedFile_sameDisk (path : String) (root : Path) :
    Maintains SameDisk (requireConfinedFile k path root) := by
  refine Maintains.bind (confinedEntryStat_sameDisk path) fun x => ?_
  cases x with
  | none => exact Maintains.raise _
  | some x => exact Maintains.bind (Maintains.unlessRaise _ _) fun _ => Maintains.pure _

/-- The file that a transfer is about is there. -/
theorem requireConfinedFile_triple {path : String} {root : Path} :
    Triple (On (· = d)) (requireConfinedFile k path root)
      (fun _ s => (∃ content, d.node (root ++ Text.posixParts path) = some (.file content)) ∧ On (· = d) s) fun _ =>
      On (· = d) := by
  have hlooks : Triple (On (· = d)) (requireConfinedFile k path root) (fun _ => On (· = d)) fun _ => On (· = d) :=
    looks (requireConfinedFile_sameDisk path root)
  refine ⟨fun s x s' hs h => ⟨?_, hlooks.ok s x s' hs h⟩, hlooks.error⟩
  obtain ⟨y, s₁, hstat, hrest⟩ := bind_ok.mp h
  cases y with
  | none => exact absurd hrest raise_ok
  | some y =>
    obtain ⟨hfile, -⟩ := unlessRaise_bind_ok.mp hrest
    obtain ⟨p, hp, hnode⟩ := confinedEntryStat_ok hstat
    rw [← parts_of_normalized hp]
    have hdisk : s.disk = d := hs
    rw [hdisk] at hnode
    cases y with
    | file content => exact ⟨content, hnode⟩
    | _ => cases hfile

theorem requireMovable_sameDisk {storage : ActionMount} {e : FileEntry} {keepSource acknowledgedRisk : Bool} :
    Maintains SameDisk (requireMovable env storage e keepSource acknowledgedRisk) := by
  unfold requireMovable
  split
  · exact Maintains.pure ()
  · exact Maintains.bind requireStorageWriteAccess_sameDisk fun _ => requireNotBlocked_sameDisk

theorem createDestination_grown {root : Path} {directory : String} :
    Maintains Grown (createDestination k root directory) := by
  unfold createDestination
  split
  · exact Maintains.pure ()
  · exact exceptConfined_maintains (createConfinedDirectories_grown _)

/-- Where the file goes: the paths that a transfer can put it at. -/
def TransferTarget (dest : ActionMount) (destDirectory destName sourceRelative : String) (t : Path) : Prop :=
  ∃ found, transferTarget destDirectory destName sourceRelative = .ok found ∧ t = dest.root ++ Text.posixParts found.2

/-- The file at the entry's path, as it is read, has been delivered. -/
structure Arrived (storage : ActionMount) (e : FileEntry) (dest : ActionMount) (destDirectory destName : String)
    (keepSource : Bool) (d : Disk Bytes) (relative : String) (target : Path) (content : Bytes) (d' : Disk Bytes) :
    Prop where
  read : normalizeRelativePath e.path = .ok relative
  lands : TransferTarget dest destDirectory destName relative target
  source : d.node (storage.root ++ Text.posixParts relative) = some (.file content)
  delivered : Delivered d (storage.root ++ Text.posixParts relative) target content d'
  kept : keepSource = true → d'.node (storage.root ++ Text.posixParts relative) = some (.file content)

section
variable {storage dest : ActionMount} {e : FileEntry} {destDirectory destName : String}
  {keepSource acknowledgedRisk : Bool}

/-- Where a transfer ends the file has arrived, and where it raises it has or the tree has
only grown. -/
theorem transferStorageFile_triple :
    Triple (On (· = d)) (transferStorageFile k env storage e dest destDirectory destName keepSource acknowledgedRisk)
      (fun result => On fun d' => ∃ relative content,
      Arrived storage e dest destDirectory destName keepSource d relative
        (dest.root ++ Text.posixParts result.destPath) content d')
      fun _ => On fun d' => d.Grows d' ∨
        ∃ relative target content,
        Arrived storage e dest destDirectory destName false d relative target content d' := by
  have hstill : ∀ {s : Machine Bytes}, On (· = d) s → On (fun d' => d.Grows d' ∨ ∃ relative target content,
      Arrived storage e dest destDirectory destName false d relative target content d') s :=
    fun hs => .inl (show d.Grows _ from hs ▸ Disk.Grows.refl d)
  have hroot : ∀ mount : ActionMount, Returns (· = mount.root) (storageRoot k mount) :=
    fun mount s root s' h => (storageRoot_ok.mp h).1
  refine Triple.bind ((looks requireStorageWriteAccess_sameDisk).raises fun _ _ => hstill) fun _ => ?_
  refine Triple.bind ((looks (Maintains.unlessRaise _ _)).raises fun _ _ => hstill) fun _ => ?_
  refine Triple.bind ((looks requireMovable_sameDisk).raises fun _ _ => hstill) fun _ => ?_
  refine Triple.bind ((still storageRoot_sameDisk (hroot storage)).raises fun _ _ => hstill) fun sourceRoot =>
    Triple.of_pure fun hsourceRoot => ?_
  refine Triple.bind (liftExcept_triple.raises fun _ _ => hstill) fun relative => Triple.of_pure fun hrelative => ?_
  subst hsourceRoot
  refine Triple.bind (requireConfinedFile_triple.raises fun _ _ => hstill) fun _ => Triple.of_pure fun hsource => ?_
  obtain ⟨content, hsource⟩ := hsource
  refine Triple.bind ((still storageRoot_sameDisk (hroot dest)).raises fun _ _ => hstill) fun destRoot =>
    Triple.of_pure fun hdestRoot => ?_
  subst hdestRoot
  refine Triple.bind (liftExcept_triple.raises fun _ _ => hstill) fun found => Triple.of_pure fun hfound => ?_
  obtain ⟨directory, destRelative⟩ := found
  dsimp only
  refine Triple.bind ((looks (Maintains.unlessRaise _ _)).raises fun _ _ => hstill) fun _ => ?_
  have htarget : TransferTarget dest destDirectory destName relative (dest.root ++ Text.posixParts destRelative) :=
    ⟨_, hfound, rfl⟩
  have harrived : ∀ {d' : Disk Bytes}, Delivered d (storage.root ++ Text.posixParts relative)
      (dest.root ++ Text.posixParts destRelative) content d' → d.Grows d' ∨ ∃ relative target content,
      Arrived storage e dest destDirectory destName false d relative target content d' :=
    fun h => .inr ⟨_, _, _, hrelative, htarget, hsource, h, fun hkeep => by cases hkeep⟩
  have hmade : Triple (On d.Grows) (createDestination k dest.root directory) (fun _ => On d.Grows) fun _ =>
    On d.Grows :=
    grows createDestination_grown
  refine Triple.bind (hmade.weaken (fun s hs => show d.Grows s.disk from hs ▸ Disk.Grows.refl d) (fun _ _ h => h)
    fun _ _ h => .inl h) fun _ => ?_
  refine Triple.bind ((putAtDestination_triple hsource).raises fun _ s hs => hs.elim .inl harrived) fun _ => ?_
  refine Triple.bind (liftExcept_triple.raises fun _ _ hs => harrived hs.1) fun _ => Triple.of_pure fun _ => ?_
  refine Triple.bind (liftExcept_triple.raises fun _ _ hs => harrived hs.1) fun _ => Triple.of_pure fun _ => ?_
  refine Triple.bind (liftExcept_triple.raises fun _ _ hs => harrived hs.1) fun _ => Triple.of_pure fun _ => ?_
  exact Triple.pure fun s hs => ⟨relative, content, hrelative, htarget, hsource, hs.1, hs.2⟩

end

/-- No entry that was there changes but the source; its content stays at its path or is at the
path it is transferred to; and where the transfer ends it is there, and with `keep_source` at
both. -/
structure TransferKeeps (k : Kernel) (env : ActionEnv) (storage : ActionMount) (e : FileEntry) (dest : ActionMount)
    (destDirectory destName : String) (keepSource acknowledgedRisk : Bool) (s : Machine Bytes) : Prop where
  exits : Kept s.disk (storage.root ++ Text.posixParts e.path) (TransferTarget dest destDirectory destName e.path)
    (final (transferStorageFile k env storage e dest destDirectory destName keepSource acknowledgedRisk) s).disk
  ends : ∀ result s', transferStorageFile k env storage e dest destDirectory destName keepSource acknowledgedRisk
    s = .ok result s' →
    ∃ content, s.disk.node (storage.root ++ Text.posixParts e.path) = some (.file content) ∧
      s'.disk.node (dest.root ++ Text.posixParts result.destPath) = some (.file content) ∧
      (keepSource = true → s'.disk.node (storage.root ++ Text.posixParts e.path) = some (.file content))

theorem Kept.of_arrived {storage dest : ActionMount} {e : FileEntry} {destDirectory destName relative : String}
    {keepSource : Bool} (hp : normalizeRelativePath e.path = .ok e.path)
    (h : Arrived storage e dest destDirectory destName keepSource d relative target content d') :
    Kept d (storage.root ++ Text.posixParts e.path) (TransferTarget dest destDirectory destName e.path) d' := by
  obtain rfl : e.path = relative := Except.ok.inj (hp.symm.trans h.read)
  exact Kept.of_delivered h.source h.lands h.delivered

theorem transfer_keeps {storage : ActionMount} {e : FileEntry} (hp : normalizeRelativePath e.path = .ok e.path)
    (dest : ActionMount)
    (destDirectory destName : String) (keepSource acknowledgedRisk : Bool) (s : Machine Bytes) :
    TransferKeeps k env storage e dest destDirectory destName keepSource acknowledgedRisk s := by
  have hall : Triple (On (· = s.disk))
      (transferStorageFile k env storage e dest destDirectory destName keepSource acknowledgedRisk) _ _ :=
    transferStorageFile_triple
  constructor
  · unfold final
    cases hrun : transferStorageFile k env storage e dest destDirectory destName keepSource acknowledgedRisk s with
    | ok result s' =>
      obtain ⟨relative, content, harrived⟩ := hall.ok s result s' rfl hrun
      exact Kept.of_arrived hp harrived
    | error r s' =>
      rcases hall.error s r s' rfl hrun with hgrows | ⟨relative, target, content, harrived⟩
      · exact Kept.of_grows hgrows
      · exact Kept.of_arrived hp harrived
  · intro result s' hrun
    obtain ⟨relative, content, harrived⟩ := hall.ok s result s' rfl hrun
    obtain rfl : e.path = relative := Except.ok.inj (hp.symm.trans harrived.read)
    exact ⟨content, harrived.source, harrived.delivered.target, harrived.kept⟩

/-- No rename crosses from one mount to another. -/
def twoExports : Kernel :=
  .failing (fun _ c => if c.kind = .renameNoReplace then some .xdev else none) fun i c e h _ => by
    split at h <;> cases h
    rfl

/-- A mount beside the one that holds the file. -/
def otherMount : ActionMount := ⟨"nas2", true, ⟨true, true, ""⟩, ["other"], some [".trash", "pve-helper"]⟩

theorem looseDisk_transfer : TransferKeeps twoExports quietEnv trashMount looseDisk otherMount "iso" "" false false
    ⟨looseDisks.plant [] "other" .directory, 0⟩ :=
  transfer_keeps looseDisk_path.normalize otherMount "iso" "" false false _

end PveHelper.Files
