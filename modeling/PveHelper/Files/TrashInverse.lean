/-
Trash and restore. A trashed entry is restored to the tree that was there before, but
for the directories that the trash is made of; nothing at another path changes, and
whatever fails, what was there is there. When the trash root itself is missing it is
made, and it stays.
-/
import PveHelper.Files.NormalPath
import PveHelper.Files.RenameFacts
import PveHelper.Files.Trash

namespace PveHelper.Files

open Lib

variable {k : Kernel} {env : ActionEnv} {storage : ActionMount} {e : FileEntry} {stamp : String} {acknowledged : Bool}
  {d d' : Disk Bytes} {i : Nat} {s s' : Machine Bytes} {item item' : TrashItem} {p tr sp : Path} {sn : String}
  {resolveMount : String → Option ActionMount}

/-! ## Paths -/

/-- Only the ends of a text are trimmed. -/
theorem trimmed_between {a b c : Path} (ha : Trimmed (Posix.asPosix a)) (hc : Trimmed (Posix.asPosix c))
    (hna : ∀ n ∈ a, Posix.IsName n) (hnc : ∀ n ∈ c, Posix.IsName n) (hane : a ≠ []) (hcne : c ≠ []) :
    Trimmed (Posix.asPosix (a ++ b ++ c)) := by
  rw [trimmed_iff] at ha hc ⊢
  constructor
  · obtain ⟨n, a, rfl⟩ := List.exists_cons_of_ne_nil hane
    have hn := hna n List.mem_cons_self
    rw [List.append_assoc, List.cons_append, head_asPosix hn]
    rw [head_asPosix hn] at ha
    exact ha.1
  · rw [← List.dropLast_append_getLast hcne] at hc ⊢
    have hn := hnc _ (List.getLast_mem hcne)
    rw [last_asPosix hn] at hc
    rw [← List.append_assoc, last_asPosix hn]
    exact hc.2

/-- Where the trash lies: the one place that decides it gives a text without outer blanks. -/
structure TrashPlace (storage : ActionMount) (tr : Path) : Prop where
  trashRoot : storage.trashRoot = some tr
  names : ∀ n ∈ tr, FileName n
  trimmed : Trimmed (Posix.asPosix tr)
  nonempty : tr ≠ []

/-- A path that is stored as it is read. -/
structure StoredPath (path : String) (p : Path) : Prop where
  text : path = Posix.asPosix p
  names : ∀ n ∈ p, FileName n
  trimmed : Trimmed (Posix.asPosix p)

theorem StoredPath.normalize {path : String} (h : StoredPath path p) : normalizeRelativePath path = .ok path := by
  rw [h.text]
  exact normalizeRelativePath_asPosix h.names h.trimmed

theorem StoredPath.parent {path : String} (h : StoredPath path p) : parentRelative path = .ok (Posix.asPosix p.dropLast) := by
  rw [h.text]
  exact parentRelative_asPosix h.names h.trimmed

theorem StoredPath.trashed {path : String} (h : StoredPath path p) (htr : TrashPlace storage tr) (hstamp : ConfinedName stamp)
    (hne : p ≠ []) : ∃ trashPath, trashRelativePath storage stamp path = .ok trashPath ∧ StoredPath trashPath (tr ++ [stamp] ++ p) := by
  have hnames : ∀ n ∈ tr ++ [stamp] ++ p, FileName n := by
    intro n hn
    simp only [List.mem_append, List.mem_singleton] at hn
    rcases hn with (hn | rfl) | hn
    · exact htr.names n hn
    · exact hstamp.toFileName
    · exact h.names n hn
  have htrNames : ∀ n ∈ tr, Posix.IsName n := fun n hn => (htr.names n hn).toIsName
  have hpNames : ∀ n ∈ p, Posix.IsName n := fun n hn => (h.names n hn).toIsName
  refine ⟨_, ?_, rfl, hnames, trimmed_between htr.trimmed h.trimmed htrNames hpNames htr.nonempty hne⟩
  have hstampParts : Text.posixParts stamp = [stamp] := by
    have hparts := Posix.posixParts_asPosix (p := [stamp]) (by simpa using hstamp.toIsName)
    rwa [Posix.asPosix, Posix.joined, String.ofList_toList] at hparts
  have hroot : trashRootRelative storage = .ok (Posix.asPosix tr) := by
    rw [trashRootRelative, htr.trashRoot]
    dsimp only
    rw [posixText, if_neg htr.nonempty]
  unfold trashRelativePath
  rw [hroot, h.normalize]
  show Except.ok _ = _
  rw [Posix.posixParts_asPosix htrNames, hstampParts, h.text, Posix.posixParts_asPosix hpNames, posixText,
    if_neg (by simp)]

/-! ## What the two actions do -/

theorem requireConfinedEntry_sameDisk {path : String} {root : Path} : Maintains SameDisk (requireConfinedEntry k path root) := by
  refine Maintains.bind (confinedEntryStat_sameDisk path) fun x => ?_
  cases x with
  | none => exact Maintains.raise _
  | some x => exact Maintains.bind (Maintains.unlessRaise _ _) fun _ => Maintains.pure _

theorem requireEmptyGuestDirectory_sameDisk {path : String} {root : Path} :
    Maintains SameDisk (requireEmptyGuestDirectory k e root path) := by
  unfold requireEmptyGuestDirectory
  split
  · exact Maintains.bind (listConfinedDirectory_sameDisk path) fun _ => Maintains.unlessRaise _ _
  · exact Maintains.pure ()

theorem requireNotBlocked_ok {u : Unit} (h : requireNotBlocked env e acknowledged s = .ok u s') : s' = s := by
  unfold requireNotBlocked at h
  cases hgate : requireFileNotBlocked env.gate env.inst e true true acknowledged with
  | ok u =>
    rw [hgate] at h
    exact (pure_ok.mp h).2
  | error err =>
    rw [hgate] at h
    exact absurd h raise_ok

/-- A move to the trash that ends: directories on the way were made, and then the entry was moved. -/
theorem moveFileToTrash_ok (hp : StoredPath e.path p) (htr : TrashPlace storage tr) (hstamp : ConfinedName stamp)
    (h : moveFileToTrash k env storage e stamp acknowledged ⟨d, i⟩ = .ok item s') :
    ∃ sp sn d₁ x, p = sp ++ [sn] ∧ Disk.GrowsTo (storage.root ++ (tr ++ [stamp] ++ sp)) d d₁ ∧
      d₁.node (storage.root ++ sp ++ [sn]) = some x ∧ (x.isFile || x.isDirectory) = true ∧
      d₁.renameNoReplace (storage.root ++ sp ++ [sn]) (storage.root ++ (tr ++ [stamp] ++ sp)) sn = .ok s'.disk ∧
      StoredPath item.trashPath (tr ++ [stamp] ++ p) ∧ (∀ n ∈ tr ++ [stamp] ++ (sp ++ [sn]), ConfinedName n) ∧
      item.originalPath = e.path ∧ item.mount = some storage ∧ item.restoreStatus = .trashed := by
  obtain ⟨u₁, s₁, haccess, h₁⟩ := bind_ok.mp h
  obtain ⟨-, rfl⟩ := requireStorageWriteAccess_ok.mp haccess
  obtain ⟨-, h₂⟩ := unlessRaise_bind_ok.mp h₁
  obtain ⟨u₂, s₂, hgate, h₃⟩ := bind_ok.mp h₂
  obtain rfl := requireNotBlocked_ok hgate
  obtain ⟨root, s₃, hroot, h₄⟩ := bind_ok.mp h₃
  obtain ⟨rfl, -, -, rfl⟩ := storageRoot_ok.mp hroot
  obtain ⟨original, s₄, horiginal, h₅⟩ := bind_ok.mp h₄
  obtain ⟨horiginal', rfl⟩ := liftExcept_ok.mp horiginal
  rw [hp.normalize, Except.ok.injEq] at horiginal'
  subst horiginal'
  obtain ⟨x, s₅, hentry, h₆⟩ := bind_ok.mp h₅
  have hsame₅ := requireConfinedEntry_sameDisk.of_ok hentry
  obtain ⟨u₃, s₆, hempty, h₇⟩ := bind_ok.mp h₆
  have hsame₆ := requireEmptyGuestDirectory_sameDisk.of_ok hempty
  obtain ⟨trashRelative, s₇, htrash, h₈⟩ := bind_ok.mp h₇
  obtain ⟨htrash', rfl⟩ := liftExcept_ok.mp htrash
  obtain ⟨trashParent, s₈, hparent, h₉⟩ := bind_ok.mp h₈
  obtain ⟨hparent', rfl⟩ := liftExcept_ok.mp hparent
  obtain ⟨u₄, s₉, hmake, h₁₀⟩ := bind_ok.mp h₉
  have hmake' := exceptConfined_raise_ok.mp hmake
  obtain ⟨u₅, s₁₀, hrename, h₁₁⟩ := bind_ok.mp h₁₀
  obtain ⟨rfl, rfl⟩ := pure_ok.mp h₁₁
  obtain ⟨sp, sn, tp, tn, x', hsource, htarget, hnode, hadmits, hmoved⟩ :=
    renameEntryNoreplace_ok (trashRename_ok.mp hrename)
  -- the entry's own path and the trash path are read as they are written
  rw [hp.text] at hsource
  obtain ⟨hp', -, -⟩ := normalizedRelativePath_asPosix_ok hp.names hsource
  subst hp'
  obtain ⟨trashPath, htrashPath, hstored⟩ := hp.trashed htr hstamp (by simp)
  rw [htrashPath, Except.ok.injEq] at htrash'
  subst htrash'
  rw [hstored.text] at htarget
  obtain ⟨htp, -, hconfined⟩ := normalizedRelativePath_asPosix_ok hstored.names htarget
  rw [← List.append_assoc] at htp
  obtain ⟨rfl, htn⟩ := List.append_inj' htp rfl
  obtain rfl : tn = sn := by simpa using htn
  -- the directories on the way
  rw [hstored.parent, Except.ok.injEq, ← List.append_assoc, List.dropLast_concat] at hparent'
  subst hparent'
  have hways : normalizedRelativePath (Posix.asPosix (tr ++ [stamp] ++ sp)) = .ok (tr ++ [stamp] ++ sp) := by
    refine normalizedRelativePath_asPosix (fun n hn => hconfined n ?_) (by simp)
    rw [← List.append_assoc]
    exact List.mem_append_left _ hn
  have hgrown := (@createConfinedDirectories_grownTo k storage.root _ _ hways).of_ok hmake'
  have hsame : s₈.disk = d := hsame₆.trans hsame₅
  rw [GrownTo, hsame] at hgrown
  exact ⟨sp, tn, s₉.disk, x', rfl, hgrown, hnode, hadmits, hmoved, hstored, hconfined, rfl, rfl, rfl⟩

/-- An entry goes to the trash where the calls are accepted and nothing is in the way. -/
theorem moveFileToTrash_accepted {x : Node Bytes} (hk : AcceptsRenames k) (haccess : WriteAccess env storage)
    (htype : e.entryType = .file ∨ e.entryType = .directory ∧ isGuestDirectory e.path = false)
    (hgate : requireFileNotBlocked env.gate env.inst e true true acknowledged = .ok ())
    (hp : StoredPath e.path (sp ++ [sn])) (htr : TrashPlace storage tr) (hstamp : ConfinedName stamp)
    (hconfined : ∀ n ∈ tr ++ [stamp] ++ (sp ++ [sn]), ConfinedName n)
    (hx : d.node (storage.root ++ sp ++ [sn]) = some x) (hkind : (x.isFile || x.isDirectory) = true)
    (hway : d.Way storage.root (tr ++ [stamp] ++ sp)) (hfree : d.node (storage.root ++ (tr ++ [stamp] ++ sp) ++ [sn]) = none)
    (hapart : ¬ storage.root ++ sp ++ [sn] <+: storage.root ++ (tr ++ [stamp] ++ sp) ++ [sn]) :
    ∃ item s', moveFileToTrash k env storage e stamp acknowledged ⟨d, i⟩ = .ok item s' := by
  have hdir : d.isDirectory (storage.root ++ sp) = true := Disk.isDirectory_iff.mpr (d.holder _ sn (by rw [hx]; rfl))
  have hrootDir := isDirectory_above hdir
  have hsn : ConfinedName sn := hconfined sn (by simp)
  obtain ⟨trashPath, htrashPath, hstored⟩ := hp.trashed htr hstamp (by simp)
  have hassoc : tr ++ [stamp] ++ (sp ++ [sn]) = tr ++ [stamp] ++ sp ++ [sn] := (List.append_assoc ..).symm
  have hways : ∀ n ∈ tr ++ [stamp] ++ sp, ConfinedName n := fun n hn => hconfined n (by rw [hassoc]; exact List.mem_append_left _ hn)
  have hpath : normalizedRelativePath e.path = .ok (sp ++ [sn]) := by
    rw [hp.text]
    exact normalizedRelativePath_asPosix (fun n hn => hconfined n (List.mem_append_right _ hn)) (by simp)
  have htarget : normalizedRelativePath trashPath = .ok (tr ++ [stamp] ++ sp ++ [sn]) := by
    rw [hstored.text, ← hassoc]
    exact normalizedRelativePath_asPosix hconfined (by simp)
  -- the calls, one after another
  have hroot : storageRoot k storage ⟨d, i⟩ = .ok storage.root ⟨d, i + 1⟩ :=
    storageRoot_ok.mpr ⟨rfl, hk.calls _ _ (by simp), hrootDir, rfl⟩
  obtain ⟨i₁, hstat⟩ := confinedEntryStat_accepted hk.calls (by simp) (by simp) (by simp) (by simp) (i := i + 1) hpath hx
  have hentry : requireConfinedEntry k e.path storage.root ⟨d, i + 1⟩ = .ok x ⟨d, i₁⟩ := by
    unfold requireConfinedEntry
    rw [bind_of_ok hstat]
    exact unlessRaise_bind_ok.mpr ⟨hkind, rfl⟩
  have hempty : requireEmptyGuestDirectory k e storage.root e.path ⟨d, i₁⟩ = .ok () ⟨d, i₁⟩ := by
    unfold requireEmptyGuestDirectory
    rcases htype with hfile | ⟨-, hguest⟩
    · rw [hfile]
      rfl
    · rw [hguest, Bool.and_false]
      rfl
  have hparent : parentRelative trashPath = .ok (Posix.asPosix (tr ++ [stamp] ++ sp)) := by
    rw [hstored.parent, hassoc, List.dropLast_concat]
  have hmake : normalizedRelativePath (Posix.asPosix (tr ++ [stamp] ++ sp)) = .ok (tr ++ [stamp] ++ sp) :=
    normalizedRelativePath_asPosix hways (by simp)
  obtain ⟨d₁, i₂, hdirs⟩ := createConfinedDirectories_makes hk.calls (by simp) (by simp) (by simp) (i := i₁) (by simp) hmake hrootDir
    (fun n hn => (hways n hn).toFileName) hway
  have hgrown : Disk.GrowsTo (storage.root ++ (tr ++ [stamp] ++ sp)) d d₁ := (createConfinedDirectories_grownTo hmake).of_ok hdirs
  have hx₁ : d₁.node (storage.root ++ sp ++ [sn]) = some x := by rw [hgrown.grows _ (by rw [hx]; rfl), hx]
  have hfree₁ : d₁.node (storage.root ++ (tr ++ [stamp] ++ sp) ++ [sn]) = none := by
    rcases hgrown (storage.root ++ (tr ++ [stamp] ++ sp) ++ [sn]) with hsame | ⟨-, -, hpre⟩
    · rw [hsame, hfree]
    · have := hpre.length_le
      simp only [List.length_append, List.length_singleton] at this
      omega
  obtain ⟨parts, hparts, hroom⟩ := createConfinedDirectories_ok hdirs
  rw [hmake, Except.ok.injEq] at hparts
  subst hparts
  obtain ⟨d₂, hmoved⟩ := Disk.renameNoReplace_of_free (by rw [hx₁]; rfl) hroom hsn.toFileName hfree₁ hapart
  obtain ⟨i₃, hrename⟩ := @renameEntryNoreplace_accepted _ _ i₂ _ _ hk _ _ _ _ .any _ _ _ _ hpath htarget hsn hsn hx₁ hkind hmoved
  refine ⟨⟨e.path, trashPath, some storage, storage.storageId, storage.storageId, .trashed⟩, ⟨d₂, i₃⟩, ?_⟩
  have hpass : requireNotBlocked env e acknowledged ⟨d, i⟩ = .ok () ⟨d, i⟩ := by
    unfold requireNotBlocked
    rw [hgate]
    rfl
  unfold moveFileToTrash
  rw [bind_of_ok (requireStorageWriteAccess_ok (u := ()) |>.mpr ⟨haccess, rfl⟩)]
  have hmovable : (e.entryType = .file || e.entryType = .directory) = true := by
    rcases htype with hfile | ⟨hdirectory, -⟩
    · simp [hfile]
    · simp [hdirectory]
  refine unlessRaise_bind_ok.mpr ⟨hmovable, ?_⟩
  rw [bind_of_ok hpass, bind_of_ok hroot, bind_of_ok (liftExcept_ok.mpr ⟨hp.normalize, rfl⟩), bind_of_ok hentry,
    bind_of_ok hempty, bind_of_ok (liftExcept_ok.mpr ⟨htrashPath, rfl⟩), bind_of_ok (liftExcept_ok.mpr ⟨hparent, rfl⟩),
    bind_of_ok (exceptConfined_raise_ok.mpr hdirs), bind_of_ok (trashRename_ok.mpr hrename)]
  rfl

theorem requireStorageWriteAccess_sameDisk : Maintains SameDisk (requireStorageWriteAccess env storage) :=
  Maintains.bind (Maintains.unlessRaise _ _) fun _ => Maintains.bind (Maintains.unlessRaise _ _) fun _ =>
    Maintains.unlessRaise _ _

theorem requireNotBlocked_sameDisk : Maintains SameDisk (requireNotBlocked env e acknowledged) := by
  unfold requireNotBlocked
  cases requireFileNotBlocked env.gate env.inst e true true acknowledged with
  | ok u => exact Maintains.pure ()
  | error err => exact Maintains.raise _

theorem storageRoot_sameDisk : Maintains SameDisk (storageRoot k storage) := Maintains.raisingAs (k.ask_sameDisk _ _)

theorem storageRoot_returns : Returns (· = storage.root) (storageRoot k storage) := fun _ _ _ h => (storageRoot_ok.mp h).1

theorem storageForTrashItem_returns :
    Returns (fun storage => itemMount resolveMount item = some storage) (storageForTrashItem resolveMount item) :=
  fun _ _ _ h => (storageForTrashItem_ok.mp h).1

theorem storageForTrashItem_sameDisk : Maintains SameDisk (storageForTrashItem resolveMount item) := by
  unfold storageForTrashItem
  cases item.mount with
  | some mount => exact Maintains.bind (Maintains.unlessRaise _ _) fun _ => Maintains.pure _
  | none =>
    refine Maintains.bind (Maintains.unlessRaise _ _) fun _ => ?_
    cases resolveMount (orText item.storageId item.metadataStorageId) with
    | some mount => exact Maintains.pure _
    | none => exact Maintains.raise _

/-- What was at a path and below it is at another, and all else that was there is as it was. -/
structure CarriedTo (source target : Path) (d d' : Disk Bytes) : Prop where
  carried : ∀ q, (d.node (source ++ q)).isSome = true → d'.node (target ++ q) = d.node (source ++ q)
  elsewhere : ∀ q, (d.node q).isSome = true → ¬ source <+: q → d'.node q = d.node q

theorem Renamed.carriedTo {d₁ : Disk Bytes} {root : Path} {source target : String} {expected : Expected} (hgrows : d.Grows d₁)
    (h : Renamed d₁ root root source target expected d') :
    CarriedTo (root ++ Text.posixParts source) (root ++ Text.posixParts target) d d' := by
  obtain ⟨sp, sn, tp, tn, x, hsource, htarget, -, -, hmoved⟩ := h
  rw [← parts_of_normalized hsource, ← parts_of_normalized htarget, ← List.append_assoc, ← List.append_assoc]
  refine ⟨fun q hq => ?_, fun q hq hother => hgrows.renameNoReplace_other hmoved hq hother⟩
  obtain ⟨-, hm, rfl⟩ := Disk.renameNoReplace_ok hmoved
  rw [Disk.node_move_target, hgrows _ hq]

/-- What a rename that ends an action leaves where it raises: everything that was there is
there, or a close failed after the move. -/
theorem trashRename_triple {root : Path} {taken crossDevice failed source target : String} {expected : Expected} :
    Triple (On d.Grows) (trashRename taken crossDevice failed (renameEntryNoreplace k root source target root expected false))
      (fun _ _ => True)
      fun r => On fun d' => d.Grows d' ∨
        CloseRaised k r ∧ CarriedTo (root ++ Text.posixParts source) (root ++ Text.posixParts target) d d' := by
  refine exceptConfined_triple (renameEntryNoreplace_from.weaken (fun _ h => h) (fun _ _ _ => trivial) fun _ _ h => h)
    (fun kind message => Triple.raise fun s hs => ?_) fun r s _ hs => ?_
  · obtain ⟨d₁, hd₁, hgrows⟩ := hs.resolve_right fun h => CloseRaised.not_confined h.1
    exact .inl (hd₁.trans hgrows)
  · rcases hs with ⟨d₁, hd₁, hgrows⟩ | ⟨hclose, d₁, hd₁, hrenamed⟩
    · exact .inl (hd₁.trans hgrows)
    · exact .inr ⟨hclose, hrenamed.carriedTo hd₁⟩

/-- A move to the trash that raises leaves everything that was there, or it has moved the
entry and a close failed. -/
theorem moveFileToTrash_raises : Triple (On d.Grows) (moveFileToTrash k env storage e stamp acknowledged) (fun _ _ => True)
    fun r => On fun d' => d.Grows d' ∨ CloseRaised k r ∧ ∃ original trashPath,
      normalizeRelativePath e.path = .ok original ∧ trashRelativePath storage stamp e.path = .ok trashPath ∧
        CarriedTo (storage.root ++ Text.posixParts original) (storage.root ++ Text.posixParts trashPath) d d' := by
  refine Triple.bind ((looks requireStorageWriteAccess_sameDisk).raises fun _ _ => .inl) fun _ => ?_
  refine Triple.bind ((looks (Maintains.unlessRaise _ _)).raises fun _ _ => .inl) fun _ => ?_
  refine Triple.bind ((looks requireNotBlocked_sameDisk).raises fun _ _ => .inl) fun _ => ?_
  refine Triple.bind ((still storageRoot_sameDisk storageRoot_returns).raises fun _ _ => .inl) fun root =>
    Triple.of_pure fun hroot => ?_
  subst hroot
  refine Triple.bind (liftExcept_triple.raises fun _ _ => .inl) fun original => Triple.of_pure fun horiginal => ?_
  refine Triple.bind ((looks requireConfinedEntry_sameDisk).raises fun _ _ => .inl) fun _ => ?_
  refine Triple.bind ((looks requireEmptyGuestDirectory_sameDisk).raises fun _ _ => .inl) fun _ => ?_
  refine Triple.bind (liftExcept_triple.raises fun _ _ => .inl) fun trashRelative => Triple.of_pure fun htrash => ?_
  refine Triple.bind (liftExcept_triple.raises fun _ _ => .inl) fun trashParent => Triple.of_pure fun _ => ?_
  refine Triple.bind ((grows (exceptConfined_maintains (createConfinedDirectories_grown _))).raises fun _ _ => .inl) fun _ => ?_
  refine Triple.bind (trashRename_triple.raises fun r s hs => ?_) fun _ => Triple.pure fun _ _ => trivial
  exact hs.imp_right fun ⟨hclose, hcarried⟩ => ⟨hclose, original, trashRelative, horiginal, htrash, hcarried⟩

theorem createRestoreParent_grown {root : Path} {path : String} : Maintains Grown (createRestoreParent k root path) := by
  unfold createRestoreParent
  split
  · exact Maintains.pure ()
  · exact exceptConfined_maintains (createConfinedDirectories_grown _)

theorem restoreTrashItem_raises : Triple (On d.Grows) (restoreTrashItem k env resolveMount item) (fun _ _ => True)
    fun r => On fun d' => d.Grows d' ∨ CloseRaised k r ∧ ∃ storage trashPath originalPath,
      itemMount resolveMount item = some storage ∧ normalizeRelativePath item.trashPath = .ok trashPath ∧
        normalizeRelativePath item.originalPath = .ok originalPath ∧
        CarriedTo (storage.root ++ Text.posixParts trashPath) (storage.root ++ Text.posixParts originalPath) d d' := by
  refine Triple.bind ((looks (Maintains.unlessRaise _ _)).raises fun _ _ => .inl) fun _ => ?_
  refine Triple.bind ((still storageForTrashItem_sameDisk storageForTrashItem_returns).raises fun _ _ => .inl) fun storage =>
    Triple.of_pure fun hmount => ?_
  refine Triple.bind ((looks requireStorageWriteAccess_sameDisk).raises fun _ _ => .inl) fun _ => ?_
  refine Triple.bind ((still storageRoot_sameDisk storageRoot_returns).raises fun _ _ => .inl) fun root =>
    Triple.of_pure fun hroot => ?_
  subst hroot
  refine Triple.bind (liftExcept_triple.raises fun _ _ => .inl) fun trashRelative => Triple.of_pure fun htrash => ?_
  refine Triple.bind (liftExcept_triple.raises fun _ _ => .inl) fun restoreRelative => Triple.of_pure fun hrestore => ?_
  refine Triple.bind ((looks requireConfinedEntry_sameDisk).raises fun _ _ => .inl) fun _ => ?_
  refine Triple.bind (liftExcept_triple.raises fun _ _ => .inl) fun restoreParent => Triple.of_pure fun _ => ?_
  refine Triple.bind ((grows createRestoreParent_grown).raises fun _ _ => .inl) fun _ => ?_
  refine Triple.bind (trashRename_triple.raises fun r s hs => ?_) fun _ => Triple.pure fun _ _ => trivial
  exact hs.imp_right fun ⟨hclose, hcarried⟩ =>
    ⟨hclose, storage, trashRelative, restoreRelative, hmount, htrash, hrestore, hcarried⟩

/-- A restore that ends: directories on the way were made, and then the entry was moved. -/
theorem restoreTrashItem_ok {t : Path} (ht : StoredPath item.trashPath t)
    (h : restoreTrashItem k env resolveMount item s = .ok item' s') :
    ∃ storage d₁ p n, itemMount resolveMount item = some storage ∧ s.disk.Grows d₁ ∧
      d₁.renameNoReplace (storage.root ++ t) p n = .ok s'.disk := by
  obtain ⟨-, h₁⟩ := unlessRaise_bind_ok.mp h
  obtain ⟨storage, s₁, hmount, h₂⟩ := bind_ok.mp h₁
  obtain ⟨hmount', rfl⟩ := storageForTrashItem_ok.mp hmount
  obtain ⟨u, s₂, haccess, h₃⟩ := bind_ok.mp h₂
  have hsame₂ := requireStorageWriteAccess_sameDisk.of_ok haccess
  obtain ⟨root, s₃, hroot, h₄⟩ := bind_ok.mp h₃
  have hsame₃ := storageRoot_sameDisk.of_ok hroot
  obtain ⟨rfl, -⟩ := storageRoot_ok.mp hroot
  obtain ⟨trashRelative, s₄, htrash, h₅⟩ := bind_ok.mp h₄
  have hsame₄ := (liftExcept_sameDisk _).of_ok htrash
  obtain ⟨htrash', -⟩ := liftExcept_ok.mp htrash
  rw [ht.normalize, Except.ok.injEq] at htrash'
  subst htrash'
  obtain ⟨restoreRelative, s₅, hrestore, h₆⟩ := bind_ok.mp h₅
  have hsame₅ := (liftExcept_sameDisk _).of_ok hrestore
  obtain ⟨x, s₆, hentry, h₇⟩ := bind_ok.mp h₆
  have hsame₆ := requireConfinedEntry_sameDisk.of_ok hentry
  obtain ⟨restoreParent, s₇, hparent, h₈⟩ := bind_ok.mp h₇
  have hsame₇ := (liftExcept_sameDisk _).of_ok hparent
  obtain ⟨u', s₈, hmake, h₉⟩ := bind_ok.mp h₈
  have hgrown := createRestoreParent_grown.of_ok hmake
  obtain ⟨u'', s₉, hrename, h₁₀⟩ := bind_ok.mp h₉
  obtain ⟨rfl, rfl⟩ := pure_ok.mp h₁₀
  obtain ⟨sp, sn, tp, tn, x', hsource, -, -, -, hmoved⟩ := renameEntryNoreplace_ok (trashRename_ok.mp hrename)
  rw [ht.text] at hsource
  obtain ⟨hsp, -, -⟩ := normalizedRelativePath_asPosix_ok ht.names hsource
  rw [List.append_assoc, hsp] at hmoved
  have hsame : s₇.disk = s₁.disk := hsame₇.trans (hsame₆.trans (hsame₅.trans (hsame₄.trans (hsame₃.trans hsame₂))))
  rw [Grown, hsame] at hgrown
  exact ⟨storage, s₈.disk, _, tn, hmount', hgrown, hmoved⟩

/-- A trashed entry goes back where the calls are accepted, and the tree is the one before
it went. -/
theorem restoreTrashItem_accepted {d₁ : Disk Bytes} {x : Node Bytes} (hk : AcceptsRenames k) (haccess : WriteAccess env storage)
    (henabled : storage.enabled = true) (hmount : item.mount = some storage) (hstatus : item.restoreStatus = .trashed)
    (horiginal : StoredPath item.originalPath (sp ++ [sn])) (htrash : StoredPath item.trashPath (tr ++ [stamp] ++ (sp ++ [sn])))
    (hconfined : ∀ n ∈ tr ++ [stamp] ++ (sp ++ [sn]), ConfinedName n) (hx : d₁.node (storage.root ++ sp ++ [sn]) = some x)
    (hkind : (x.isFile || x.isDirectory) = true)
    (h : d₁.renameNoReplace (storage.root ++ sp ++ [sn]) (storage.root ++ (tr ++ [stamp] ++ sp)) sn = .ok d) :
    ∃ i', restoreTrashItem k env resolveMount item ⟨d, i⟩ = .ok { item with restoreStatus := .restored } ⟨d₁, i'⟩ := by
  have hsn : ConfinedName sn := hconfined sn (by simp)
  have hback := Disk.renameNoReplace_back h
  obtain ⟨-, hm, hd⟩ := Disk.renameNoReplace_ok h
  obtain ⟨-, hmback, -⟩ := Disk.renameNoReplace_ok hback
  have hthere : d.node (storage.root ++ (tr ++ [stamp] ++ sp) ++ [sn]) = some x := by
    have htarget := Disk.node_move_target (q := []) (h := hm)
    rw [List.append_nil, List.append_nil, ← hd] at htarget
    rw [htarget, hx]
  have htrashParts : normalizedRelativePath item.trashPath = .ok (tr ++ [stamp] ++ sp ++ [sn]) := by
    rw [htrash.text, List.append_assoc (tr ++ [stamp])]
    exact normalizedRelativePath_asPosix hconfined (by simp)
  have horiginalParts : normalizedRelativePath item.originalPath = .ok (sp ++ [sn]) := by
    rw [horiginal.text]
    exact normalizedRelativePath_asPosix (fun n hn => hconfined n (List.mem_append_right _ hn)) (by simp)
  have hparentParts : parentRelative item.originalPath = .ok (Posix.asPosix sp) := by
    rw [horiginal.parent, List.dropLast_concat]
  -- the calls, one after another
  have hroot : storageRoot k storage ⟨d, i⟩ = .ok storage.root ⟨d, i + 1⟩ :=
    storageRoot_ok.mpr ⟨rfl, hk.calls _ _ (by simp), isDirectory_above hmback.room, rfl⟩
  obtain ⟨i₁, hstat⟩ := confinedEntryStat_accepted hk.calls (by simp) (by simp) (by simp) (by simp) (i := i + 1) htrashParts hthere
  have hentry : requireConfinedEntry k item.trashPath storage.root ⟨d, i + 1⟩ = .ok x ⟨d, i₁⟩ := by
    unfold requireConfinedEntry
    rw [bind_of_ok hstat]
    exact unlessRaise_bind_ok.mpr ⟨hkind, rfl⟩
  obtain ⟨i₂, hmake⟩ : ∃ i₂, createRestoreParent k storage.root (Posix.asPosix sp) ⟨d, i₁⟩ = .ok () ⟨d, i₂⟩ := by
    unfold createRestoreParent
    by_cases hsp : sp = []
    · rw [hsp, if_pos (by rfl)]
      exact ⟨i₁, rfl⟩
    · have hnames : ∀ n ∈ sp, ConfinedName n := fun n hn => hconfined n (by simp [hn])
      rw [if_neg (asPosix_ne_empty (fun n hn => (hnames n hn).toIsName) hsp)]
      obtain ⟨i₂, hdirs⟩ := createConfinedDirectories_accepted hk.calls (by simp) (by simp) (by simp) (i := i₁)
        (normalizedRelativePath_asPosix hnames hsp) hmback.room
      exact ⟨i₂, exceptConfined_raise_ok.mpr hdirs⟩
  obtain ⟨i₃, hrename⟩ := @renameEntryNoreplace_accepted _ _ i₂ _ _ hk _ _ _ _ .any _ _ _ _ htrashParts horiginalParts hsn hsn
    (by rw [List.append_assoc] at hthere ⊢; exact hthere) hkind (by rw [List.append_assoc] at hback ⊢; exact hback)
  refine ⟨i₃, ?_⟩
  unfold restoreTrashItem
  refine unlessRaise_bind_ok.mpr ⟨decide_eq_true hstatus, ?_⟩
  have hitem : itemMount resolveMount item = some storage := by
    rw [itemMount, hmount]
    exact if_pos henabled
  rw [bind_of_ok (storageForTrashItem_ok.mpr ⟨hitem, rfl⟩),
    bind_of_ok (requireStorageWriteAccess_ok (u := ()) |>.mpr ⟨haccess, rfl⟩), bind_of_ok hroot,
    bind_of_ok (liftExcept_ok.mpr ⟨htrash.normalize, rfl⟩), bind_of_ok (liftExcept_ok.mpr ⟨horiginal.normalize, rfl⟩),
    bind_of_ok hentry, bind_of_ok (liftExcept_ok.mpr ⟨hparentParts, rfl⟩), bind_of_ok hmake,
    bind_of_ok (trashRename_ok.mpr hrename)]
  rfl

/-! ## Trash and restore -/

/-- Every entry that was at a path of its own, not at this path or below it, is as it was. -/
def UnchangedElsewhere (s : Path) (d d' : Disk Bytes) : Prop :=
  ∀ q, (d.node q).isSome = true → ¬ s <+: q → d'.node q = d.node q

/-- The tree is as it was, but for new directories where these may be. -/
def OriginalBut (made : Path → Prop) (d d' : Disk Bytes) : Prop :=
  ∀ q, d'.node q = d.node q ∨ d.node q = none ∧ d'.node q = some .directory ∧ made q

/-- What an action leaves where it raises: everything that was there is there; or, if that may
be, a close failed when the entry had been carried to its new path. -/
def Left (mayMove : Prop) (k : Kernel) (r : Raised) (root source : Path) (target : Except Raised String) (d d' : Disk Bytes) :
    Prop :=
  d.Grows d' ∨ mayMove ∧ CloseRaised k r ∧ ∃ path, target = .ok path ∧ CarriedTo source (root ++ Text.posixParts path) d d'

/-- An entry is moved to the trash. Where that ends, nothing at another path has changed; a
restore of the item, where its calls are accepted, gives the tree as it was but for new
directories; and whenever the item is restored, nothing at another path changes. Where either
raises, the entry is left where it was, or where it was to go. -/
def TrashRestores (made : Path → Prop) (mayMove : Prop) (k : Kernel) (env : ActionEnv) (storage : ActionMount) (e : FileEntry)
    (stamp : String) (acknowledged : Bool) (d : Disk Bytes) (i : Nat) : Prop :=
  (∀ item s', moveFileToTrash k env storage e stamp acknowledged ⟨d, i⟩ = .ok item s' →
    UnchangedElsewhere (storage.root ++ Text.posixParts e.path) d s'.disk ∧
    (∀ k' env' resolveMount, AcceptsRenames k' → WriteAccess env' storage →
      ∃ item' s'', restoreTrashItem k' env' resolveMount item s' = .ok item' s'' ∧ item'.restoreStatus = .restored ∧
        OriginalBut made d s''.disk) ∧
    ∀ k' env' resolveMount t,
      (∀ item' t', restoreTrashItem k' env' resolveMount item t = .ok item' t' →
        UnchangedElsewhere (storage.root ++ Text.posixParts item.trashPath) t.disk t'.disk) ∧
      ∀ r t', restoreTrashItem k' env' resolveMount item t = .error r t' →
        Left mayMove k' r storage.root (storage.root ++ Text.posixParts item.trashPath) (.ok e.path) t.disk t'.disk) ∧
  ∀ r s', moveFileToTrash k env storage e stamp acknowledged ⟨d, i⟩ = .error r s' →
    Left mayMove k r storage.root (storage.root ++ Text.posixParts e.path) (trashRelativePath storage stamp e.path) d s'.disk

/-- The new directories are the trash root, what leads to it, and what is under it; and a
close may fail once the entry is moved. -/
theorem trash_restores (hp : StoredPath e.path p) (htr : TrashPlace storage tr) (hstamp : ConfinedName stamp)
    (henabled : storage.enabled = true) :
    TrashRestores (fun q => q <+: storage.root ++ tr ∨ storage.root ++ tr <+: q) True k env storage e stamp acknowledged d i := by
  refine ⟨fun item s' h => ?_, fun r s' h => ?_⟩
  · obtain ⟨sp, sn, d₁, x, rfl, hways, hx, hkind, hmoved, hstored, hconfined, horiginal, hmount, hstatus⟩ :=
      moveFileToTrash_ok hp htr hstamp h
    have hitem : ∀ {resolveMount storage'}, itemMount resolveMount item = some storage' → storage' = storage := by
      intro resolveMount storage' hitem
      rw [itemMount, hmount] at hitem
      dsimp only at hitem
      rw [if_pos henabled] at hitem
      exact (Option.some.inj hitem).symm
    refine ⟨fun q hq hother => ?_, fun k' env' resolveMount hk haccess => ?_, fun k' env' resolveMount t => ⟨?_, ?_⟩⟩
    · rw [hp.text, Posix.posixParts_asPosix fun n hn => (hp.names n hn).toIsName, ← List.append_assoc] at hother
      exact hways.grows.renameNoReplace_other hmoved hq hother
    · obtain ⟨i', hrestore⟩ := @restoreTrashItem_accepted _ _ _ _ _ s'.calls _ _ _ _ resolveMount _ _ hk haccess henabled hmount
        hstatus (horiginal ▸ hp) hstored hconfined hx hkind hmoved
      refine ⟨_, _, hrestore, rfl, fun q => ?_⟩
      rcases hways q with hsame | ⟨hnone, hdir, hpre⟩
      · exact .inl hsame
      · refine .inr ⟨hnone, hdir, ?_⟩
        rw [List.append_assoc, ← List.append_assoc] at hpre
        exact List.prefix_or_prefix_of_prefix hpre (List.prefix_append _ _)
    · intro item' t' hrestore q hq hother
      obtain ⟨storage', d₂, p', n, hitem', hgrows, hmoved'⟩ := restoreTrashItem_ok hstored hrestore
      rw [hstored.text, Posix.posixParts_asPosix fun n hn => (hstored.names n hn).toIsName, ← hitem hitem'] at hother
      exact hgrows.renameNoReplace_other hmoved' hq hother
    · intro r t' hraise
      rcases restoreTrashItem_raises.error t r t' (Disk.Grows.refl t.disk) hraise with hgrows | ⟨hclose, storage', trashPath,
        originalPath, hitem', htrash, horiginal', hcarried⟩
      · exact .inl hgrows
      · rw [hstored.normalize, Except.ok.injEq] at htrash
        rw [horiginal, hp.normalize, Except.ok.injEq] at horiginal'
        rw [hitem hitem', ← htrash, ← horiginal'] at hcarried
        exact .inr ⟨trivial, hclose, e.path, rfl, hcarried⟩
  · rcases moveFileToTrash_raises.error ⟨d, i⟩ r s' (Disk.Grows.refl d) h with hgrows | ⟨hclose, original, trashPath, horiginal,
      htrash, hcarried⟩
    · exact .inl hgrows
    · rw [hp.normalize, Except.ok.injEq] at horiginal
      rw [← horiginal] at hcarried
      exact .inr ⟨trivial, hclose, trashPath, htrash, hcarried⟩

def looseDisk : FileEntry :=
  { storage := ⟨1, "nas", ""⟩
    path := "disk.raw"
    derivedVolid := ""
    contentCategory := "iso"
    entryType := .file
    classification := .unknown
    storageGateStatus := [] }

/-- A mount that holds one file, and no trash yet. -/
def looseDisks : Disk Bytes := Disk.empty.plant [] "disk.raw" (.file [1])

theorem trashMount_place : TrashPlace trashMount [".trash", "pve-helper"] where
  trashRoot := rfl
  names n hn := by
    simp only [List.mem_cons, List.not_mem_nil, or_false] at hn
    rcases hn with rfl | rfl <;> decide
  trimmed := by decide
  nonempty := by simp

theorem looseDisk_path : StoredPath looseDisk.path ["disk.raw"] where
  text := by decide
  names n hn := by
    rw [List.mem_singleton.mp hn]
    decide
  trimmed := by decide

theorem looseDisk_restores : TrashRestores (fun q => q <+: [".trash", "pve-helper"] ∨ [".trash", "pve-helper"] <+: q)
    True .sound quietEnv trashMount looseDisk "T0" false looseDisks 0 :=
  trash_restores looseDisk_path trashMount_place (by decide) rfl

/-- Once the file is in the trash, so is the directory above the trash root. -/
theorem looseDisk_trashed : ∃ item s', moveFileToTrash .sound quietEnv trashMount looseDisk "T0" false ⟨looseDisks, 0⟩ = .ok item s' ∧
    StoredPath item.trashPath [".trash", "pve-helper", "T0", "disk.raw"] ∧ s'.disk.node [".trash"] = some .directory := by
  have hways : ∀ r ∈ List.inits [".trash", "pve-helper", "T0"],
      looseDisks.node ([] ++ r) = none ∨ looseDisks.node ([] ++ r) = some .directory := by decide
  have hconfined : ∀ n ∈ [".trash", "pve-helper"] ++ ["T0"] ++ ([] ++ ["disk.raw"]), ConfinedName n := by decide
  have haccess : WriteAccess quietEnv trashMount := ⟨rfl, rfl, rfl⟩
  obtain ⟨item, s', hrun⟩ := @moveFileToTrash_accepted .sound _ _ _ _ _ _ 0 _ [] _ (.file [1]) sound_acceptsRenames haccess (.inl rfl)
    (by rfl) looseDisk_path trashMount_place (by decide) hconfined (by decide) rfl (fun r hr => hways r ((List.mem_inits ..).mpr hr))
    (by decide) (by decide)
  obtain ⟨sp, sn, d₁, x, hp, -, -, -, hmoved, hstored, -⟩ := moveFileToTrash_ok looseDisk_path trashMount_place (by decide) hrun
  obtain ⟨rfl, rfl⟩ : [] = sp ∧ "disk.raw" = sn := by
    have := @List.append_inj' _ [] _ _ _ hp rfl
    simpa using this
  obtain ⟨hfree, hm, hd⟩ := Disk.renameNoReplace_ok hmoved
  have habove : d₁.node [".trash"] = some .directory :=
    Disk.isDirectory_iff.mp (isDirectory_above (p := [".trash"]) (q := ["pve-helper", "T0"]) hm.room)
  refine ⟨item, s', hrun, hstored, ?_⟩
  rw [hd, Disk.node_move_other hfree (by rw [habove]; rfl) (by decide), habove]

/-- The trash root was missing, and it is there when the file is back. -/
theorem missing_trash_stays : ¬ TrashRestores (fun q => [".trash", "pve-helper"] <+: q)
    True .sound quietEnv trashMount looseDisk "T0" false looseDisks 0 := by
  rintro ⟨hends, -⟩
  obtain ⟨item, s', hrun, hstored, hmade⟩ := looseDisk_trashed
  obtain ⟨-, hrestores, helse⟩ := hends item s' hrun
  obtain ⟨item', s'', hrestore, -, horiginal⟩ := hrestores .sound quietEnv (fun _ => none)
    sound_acceptsRenames ⟨rfl, rfl, rfl⟩
  have hparts := Posix.posixParts_asPosix fun n hn => (hstored.names n hn).toIsName
  have hstays := (helse .sound quietEnv (fun _ => none) s').1 item' s'' hrestore [".trash"] (by rw [hmade]; rfl)
    (by rw [hstored.text, hparts]; decide)
  have hnew : looseDisks.node [".trash"] = none := by decide
  rcases horiginal [".trash"] with hsame | ⟨-, -, hunder⟩
  · rw [hstays, hmade, hnew] at hsame
    cases hsame
  · revert hunder
    decide

/-- Every close from this number on fails: `EIO`. -/
def unclosingFrom (number : Nat) : Kernel :=
  .failing (fun i c => if c.kind = .close ∧ number ≤ i then some (.other 5) else none) (by
    intro i c e h hkind
    rw [if_neg fun hc => hkind hc.1] at h
    cases h)

/-- The two closes after the rename fail: the move to the trash raises, and the file is there. -/
theorem unclosed_trash_moved : ¬ TrashRestores (fun q => q <+: [".trash", "pve-helper"] ∨ [".trash", "pve-helper"] <+: q)
    False (unclosingFrom 28) quietEnv trashMount looseDisk "T0" false looseDisks 0 := by
  rintro ⟨-, hraises⟩
  have hgone : (match moveFileToTrash (unclosingFrom 28) quietEnv trashMount looseDisk "T0" false ⟨looseDisks, 0⟩ with
    | .error _ s' => (s'.disk.node ["disk.raw"]).isNone
    | .ok _ _ => false) = true := by decide +kernel
  cases hrun : moveFileToTrash (unclosingFrom 28) quietEnv trashMount looseDisk "T0" false ⟨looseDisks, 0⟩ with
  | ok item s' =>
    rw [hrun] at hgone
    cases hgone
  | error r s' =>
    rw [hrun] at hgone
    rcases hraises r s' hrun with hgrows | ⟨hmay, -⟩
    · have hstays := hgrows ["disk.raw"] (by decide)
      rw [Option.isNone_iff_eq_none.mp hgone] at hstays
      revert hstays
      decide
    · exact hmay

/-- Both exceptions are met. -/
theorem trash_exceptions_met :
    (¬ TrashRestores (fun q => [".trash", "pve-helper"] <+: q) True .sound quietEnv trashMount looseDisk "T0" false looseDisks 0) ∧
      ¬ TrashRestores (fun q => q <+: [".trash", "pve-helper"] ∨ [".trash", "pve-helper"] <+: q)
        False (unclosingFrom 28) quietEnv trashMount looseDisk "T0" false looseDisks 0 :=
  ⟨missing_trash_stays, unclosed_trash_moved⟩

end PveHelper.Files
