/-
Who owns what lies in the trash. Items are made by `move_file_to_trash`, one for the
entry that is moved, and by `adopt_discovered_trash_items`, one for each file that a
scan lists below the trash root; the latter knows the items there are by their exact
paths only, so it takes the files inside a trashed directory for items of their own.
-/
import Mathlib.Data.List.Pairwise
import PveHelper.Files.TrashInverse
import PveHelper.Lib.Trans

namespace PveHelper.Files

open Lib

/-! ## Adoption -/

/-- `is_nfs_silly_rename_path`. -/
def isNfsSillyRenamePath (path : String) : Bool := (Text.posixParts path).any fun part => Text.startsWith part ".nfs"

/-- `_original_path_from_trash_path`. -/
def originalPathFromTrashPath (trashPath trashRootRelative : String) : String :=
  match normalizeRelativePath trashPath with
  | .error _ => ""
  | .ok normalized =>
    let start := trashRootRelative ++ "/"
    if !Text.startsWith normalized start then ""
    else
      let parts := Text.posixParts (String.ofList (normalized.toList.drop start.length))
      if parts.length < 2 then "" else posixText (parts.drop 1)

/-- The file of a scan is taken for an item of its own. -/
def adoptable (trashRoot : String) (known : List String) (e : FileEntry) : Bool :=
  !isNfsSillyRenamePath e.path && !known.contains e.path && originalPathFromTrashPath e.path trashRoot != ""

/-- The loop over the files; `known` are the trash paths of all items, whatever their status. -/
def adoptEach (storage : ActionMount) (trashRoot : String) : List String → List FileEntry → List TrashItem
  | _, [] => []
  | known, e :: rest =>
    if adoptable trashRoot known e then
      ⟨originalPathFromTrashPath e.path trashRoot, e.path, some storage, storage.storageId, storage.storageId, .trashed⟩ ::
        adoptEach storage trashRoot (e.path :: known) rest
    else adoptEach storage trashRoot known rest

/-- The files of a scan below the trash root, in the order of their paths. -/
def scannedTrash (trashRoot : String) (rows : List FileEntry) : List FileEntry :=
  (rows.filter fun e => e.entryType = .file && Text.startsWith e.path (trashRoot ++ "/")).insertionSort fun a b =>
    a.path ≤ b.path

/-- `adopt_discovered_trash_items`, of the rows that a scan has of this mount: the new items. -/
def adoptDiscoveredTrashItems (k : Kernel) (storage : ActionMount) (rows : List FileEntry) (items : List TrashItem) :
    Fs (List TrashItem) := do
  let _ ← storageRoot k storage
  let trashRoot ← liftExcept (trashRootRelative storage)
  pure (adoptEach storage trashRoot (items.map (·.trashPath)) (scannedTrash trashRoot rows))

/-! ## Runs -/

structure TrashState where
  items : List TrashItem
  disk : Disk Bytes

/-- An action on the mount's trash, with the calls that fail in it and what it meets
elsewhere; an item is named by its place. -/
inductive TrashAction
  | move (k : Kernel) (env : ActionEnv) (e : FileEntry) (stamp : String) (acknowledgedRisk : Bool)
  | adopt (k : Kernel) (rows : List FileEntry)
  | restore (k : Kernel) (env : ActionEnv) (item : Nat)
  | purge (k : Kernel) (env : ActionEnv) (item : Nat)
  /-- What anyone else does to the tree. -/
  | others (disk : Disk Bytes)

section
variable (storage : ActionMount) (resolveMount : String → Option ActionMount)

/-- An action on the tree, and what it makes of the items if it ends. -/
def TrashState.act {α : Type} (s : TrashState) (m : Fs α) (items : α → List TrashItem) : TrashState :=
  match m ⟨s.disk, 0⟩ with
  | .ok a machine => ⟨items a, machine.disk⟩
  | .error _ machine => { s with disk := machine.disk }

def trashStep (s : TrashState) : TrashAction → Option TrashState
  | .move k env e stamp acknowledgedRisk =>
    some (s.act (moveFileToTrash k env storage e stamp acknowledgedRisk) fun item => s.items ++ [item])
  | .adopt k rows => some (s.act (adoptDiscoveredTrashItems k storage rows s.items) fun adopted => s.items ++ adopted)
  | .restore k env i => (s.items[i]?).map fun item =>
    s.act (restoreTrashItem k env resolveMount item) fun item' => s.items.set i item'
  | .purge k env i => (s.items[i]?).map fun item =>
    s.act (purgeTrashItem k env resolveMount item) fun item' => s.items.set i item'
  | .others disk => some { s with disk := disk }

end

/-! ## Owners -/

/-- One path is the other, or leads to it. -/
def Overlaps (p q : String) : Prop :=
  Text.posixParts p <+: Text.posixParts q ∨ Text.posixParts q <+: Text.posixParts p

theorem Overlaps.symm {p q : String} (h : Overlaps p q) : Overlaps q p := Or.symm h

instance : Std.Symm fun p q => ¬ Overlaps p q := ⟨fun _ _ h hback => h hback.symm⟩

def trashedPaths (items : List TrashItem) : List String :=
  (items.filter fun item => item.restoreStatus = .trashed).map (·.trashPath)

/-- No two TRASHED items overlap. -/
def OneOwner (items : List TrashItem) : Prop := (trashedPaths items).Pairwise fun p q => ¬ Overlaps p q

theorem trashedPaths_append (items items' : List TrashItem) :
    trashedPaths (items ++ items') = trashedPaths items ++ trashedPaths items' := by
  simp [trashedPaths]

/-- An item that is no longer TRASHED leaves the others. -/
theorem trashedPaths_set (items : List TrashItem) (i : Nat) {item : TrashItem} (h : item.restoreStatus ≠ .trashed) :
    (trashedPaths (items.set i item)).Sublist (trashedPaths items) := by
  refine List.Sublist.map _ ?_
  induction items generalizing i with
  | nil => simp
  | cons first items ih =>
    cases i with
    | zero =>
      rw [List.set_cons_zero, List.filter_cons_of_neg (by simpa using h)]
      exact (List.sublist_cons_self ..).filter _
    | succ i =>
      rw [List.set_cons_succ]
      simp only [List.filter_cons]
      split
      · exact (ih i).cons_cons _
      · exact ih i

/-! ## What an action adds -/

section
variable {k : Kernel} {env : ActionEnv} {storage : ActionMount} {e : FileEntry} {stamp trashRoot : String}
  {acknowledged : Bool} {item : TrashItem} {resolveMount : String → Option ActionMount} {known : List String}

theorem moveFileToTrash_returns : Returns
    (fun item => trashRelativePath storage stamp e.path = .ok item.trashPath ∧ item.restoreStatus = .trashed)
    (moveFileToTrash k env storage e stamp acknowledged) := by
  refine Returns.after fun _ => Returns.after fun _ => Returns.after fun _ => Returns.after fun root => ?_
  refine Returns.after fun original => Returns.after fun _ => Returns.after fun _ => ?_
  refine Returns.bind liftExcept_returns fun trashRelative htrash => ?_
  exact Returns.after fun _ => Returns.after fun _ => Returns.after fun _ => Returns.pure ⟨htrash, rfl⟩

theorem restoreTrashItem_returns :
    Returns (fun item => item.restoreStatus ≠ .trashed) (restoreTrashItem k env resolveMount item) := by
  refine Returns.after fun _ => Returns.after fun storage => Returns.after fun _ => Returns.after fun root => ?_
  refine Returns.after fun trashRelative => Returns.after fun restoreRelative => Returns.after fun _ => ?_
  exact Returns.after fun _ => Returns.after fun _ => Returns.after fun _ => Returns.pure (by simp)

theorem purgeTrashItem_returns :
    Returns (fun item => item.restoreStatus ≠ .trashed) (purgeTrashItem k env resolveMount item) := by
  refine Returns.after fun _ => Returns.after fun storage => Returns.after fun _ => Returns.after fun root => ?_
  exact Returns.after fun _ => Returns.after fun _ => Returns.pure (by simp)

theorem adoptDiscoveredTrashItems_returns {rows : List FileEntry} {items : List TrashItem} : Returns
    (fun adopted => ∃ trashRoot, trashRootRelative storage = .ok trashRoot ∧
      adopted = adoptEach storage trashRoot (items.map (·.trashPath)) (scannedTrash trashRoot rows))
    (adoptDiscoveredTrashItems k storage rows items) := by
  refine Returns.after fun _ => Returns.bind liftExcept_returns fun trashRoot hroot => ?_
  exact Returns.pure ⟨trashRoot, hroot, rfl⟩

theorem adoptable_cons {p : String} :
    adoptable trashRoot (p :: known) e = true ↔ adoptable trashRoot known e = true ∧ e.path ≠ p := by
  unfold adoptable
  rw [List.contains_cons]
  generalize (originalPathFromTrashPath e.path trashRoot != "") = readable
  generalize isNfsSillyRenamePath e.path = silly
  by_cases hp : e.path = p <;> simp [hp]

/-- An item is made for each adoptable file. -/
theorem mem_adoptEach {rows : List FileEntry} {q : String} : q ∈ (adoptEach storage trashRoot known rows).map (·.trashPath) ↔
    ∃ e ∈ rows, adoptable trashRoot known e = true ∧ e.path = q := by
  induction rows generalizing known with
  | nil => simp [adoptEach]
  | cons e rows ih =>
    rw [adoptEach]
    split
    · rename_i hadopt
      rw [List.map_cons, List.mem_cons, ih]
      constructor
      · rintro (rfl | ⟨e', he', hadopt', rfl⟩)
        · exact ⟨e, List.mem_cons_self, hadopt, rfl⟩
        · exact ⟨e', List.mem_cons_of_mem _ he', (adoptable_cons.mp hadopt').1, rfl⟩
      · rintro ⟨e', he', hadopt', rfl⟩
        by_cases hsame : e'.path = e.path
        · exact .inl hsame
        · have hlater : e' ∈ rows := (List.mem_cons.mp he').resolve_left fun h => hsame (by rw [h])
          exact .inr ⟨e', hlater, adoptable_cons.mpr ⟨hadopt', hsame⟩, rfl⟩
    · rename_i hadopt
      rw [ih]
      constructor
      · rintro ⟨e', he', hadopt', rfl⟩
        exact ⟨e', List.mem_cons_of_mem _ he', hadopt', rfl⟩
      · rintro ⟨e', he', hadopt', rfl⟩
        have hlater : e' ∈ rows := (List.mem_cons.mp he').resolve_left fun h => hadopt (h ▸ hadopt')
        exact ⟨e', hlater, hadopt', rfl⟩

theorem adoptEach_nodup (rows : List FileEntry) : ((adoptEach storage trashRoot known rows).map (·.trashPath)).Nodup := by
  induction rows generalizing known with
  | nil => simp [adoptEach]
  | cons e rows ih =>
    rw [adoptEach]
    split
    · rw [List.map_cons, List.nodup_cons]
      refine ⟨fun hagain => ?_, ih⟩
      obtain ⟨e', -, hadopt', he'⟩ := mem_adoptEach.mp hagain
      exact (adoptable_cons.mp hadopt').2 he'
    · exact ih

theorem trashedPaths_adoptEach (rows : List FileEntry) : trashedPaths (adoptEach storage trashRoot known rows) =
    (adoptEach storage trashRoot known rows).map (·.trashPath) := by
  unfold trashedPaths
  congr 1
  induction rows generalizing known with
  | nil => rfl
  | cons e rows ih =>
    rw [adoptEach]
    split
    · rw [List.filter_cons_of_pos (by simp), ih]
    · exact ih

end

/-! ## What keeps the owners apart -/

section
variable (storage : ActionMount)

/-- The call ends, of the tree as it is. -/
def Ends {α : Type} (m : Fs α) (d : Disk Bytes) : Prop := ∃ a s', m ⟨d, 0⟩ = .ok a s'

/-- An entry goes to a place that meets no TRASHED item's, and no file is adopted that lies
in a TRASHED item's place, or where one lies in it, or in another such file's. -/
def TakesApart (s : TrashState) : TrashAction → Prop
  | .move k env e stamp acknowledgedRisk => Ends (moveFileToTrash k env storage e stamp acknowledgedRisk) s.disk →
    ∀ trashPath, trashRelativePath storage stamp e.path = .ok trashPath →
      ∀ q ∈ trashedPaths s.items, ¬ Overlaps q trashPath
  | .adopt k rows => Ends (storageRoot k storage) s.disk → ∀ trashRoot, trashRootRelative storage = .ok trashRoot →
    ∀ e ∈ scannedTrash trashRoot rows, adoptable trashRoot (s.items.map (·.trashPath)) e = true →
      (∀ q ∈ trashedPaths s.items, ¬ Overlaps q e.path) ∧
      ∀ e' ∈ scannedTrash trashRoot rows, adoptable trashRoot (s.items.map (·.trashPath)) e' = true →
        e.path ≠ e'.path → ¬ Overlaps e.path e'.path
  | .restore .. => True
  | .purge .. => True
  | .others _ => True

end

section
variable {storage : ActionMount} {resolveMount : String → Option ActionMount} {s s' : TrashState} {a : TrashAction}
  {α : Type}

theorem TrashState.act_of_ok {m : Fs α} {items : α → List TrashItem} {x : α} {machine : Machine Bytes}
    (h : m ⟨s.disk, 0⟩ = .ok x machine) : (s.act m items).items = items x := by
  rw [act, h]

theorem TrashState.act_of_error {m : Fs α} {items : α → List TrashItem} {r : Raised} {machine : Machine Bytes}
    (h : m ⟨s.disk, 0⟩ = .error r machine) : (s.act m items).items = s.items := by
  rw [act, h]

theorem OneOwner.append {items items' : List TrashItem} (h : OneOwner items) :
    OneOwner (items ++ items') ↔
      OneOwner items' ∧ ∀ q ∈ trashedPaths items, ∀ q' ∈ trashedPaths items', ¬ Overlaps q q' := by
  unfold OneOwner at h ⊢
  rw [trashedPaths_append, List.pairwise_append]
  tauto

/-- An item taken from the TRASHED ones. -/
theorem OneOwner.act_set {m : Fs TrashItem} (h : OneOwner s.items) (i : Nat)
    (hm : Returns (fun item => item.restoreStatus ≠ .trashed) m) : OneOwner (s.act m fun item => s.items.set i item).items := by
  cases hrun : m ⟨s.disk, 0⟩ with
  | ok item machine =>
    rw [TrashState.act_of_ok hrun]
    exact h.sublist (trashedPaths_set s.items i (hm _ _ _ hrun))
  | error r machine =>
    rw [TrashState.act_of_error hrun]
    exact h

theorem adopted_apart {trashRoot : String} {known : List String} {rows : List FileEntry} :
    OneOwner (adoptEach storage trashRoot known rows) ↔ ∀ e ∈ rows, adoptable trashRoot known e = true →
      ∀ e' ∈ rows, adoptable trashRoot known e' = true → e.path ≠ e'.path → ¬ Overlaps e.path e'.path := by
  rw [OneOwner, trashedPaths_adoptEach]
  constructor
  · intro h e he hadopt e' he' hadopt' hne
    exact h.forall (mem_adoptEach.mpr ⟨e, he, hadopt, rfl⟩)
      (mem_adoptEach.mpr ⟨e', he', hadopt', rfl⟩) hne
  · intro h
    refine (adoptEach_nodup rows).pairwise_of_forall_ne fun p hp q hq hne => ?_
    obtain ⟨e, he, hadopt, rfl⟩ := mem_adoptEach.mp hp
    obtain ⟨e', he', hadopt', rfl⟩ := mem_adoptEach.mp hq
    exact h e he hadopt e' he' hadopt' hne

/-- An action leaves the owners apart exactly where it takes its paths apart. -/
theorem trashStep_oneOwner (h : OneOwner s.items) (hstep : trashStep storage resolveMount s a = some s') :
    OneOwner s'.items ↔ TakesApart storage s a := by
  cases a with
  | move k env e stamp acknowledged =>
    obtain rfl := Option.some.inj hstep
    cases hrun : moveFileToTrash k env storage e stamp acknowledged ⟨s.disk, 0⟩ with
    | error r machine =>
      rw [TrashState.act_of_error hrun]
      refine ⟨fun _ hends => ?_, fun _ => h⟩
      obtain ⟨item, machine', hends⟩ := hends
      rw [hrun] at hends
      cases hends
    | ok item machine =>
      rw [TrashState.act_of_ok hrun, h.append]
      obtain ⟨hpath, hstatus⟩ := moveFileToTrash_returns _ _ _ hrun
      have hnew : trashedPaths [item] = [item.trashPath] := by simp [trashedPaths, hstatus]
      rw [OneOwner, hnew]
      constructor
      · rintro ⟨-, hapart⟩ - trashPath htrash q hq
        rw [hpath] at htrash
        cases htrash
        exact hapart q hq _ List.mem_cons_self
      · intro hapart
        refine ⟨List.pairwise_singleton .., fun q hq q' hq' => ?_⟩
        rw [List.mem_singleton.mp hq']
        exact hapart ⟨item, machine, hrun⟩ _ hpath q hq
  | adopt k rows =>
    obtain rfl := Option.some.inj hstep
    cases hrun : adoptDiscoveredTrashItems k storage rows s.items ⟨s.disk, 0⟩ with
    | error r machine =>
      rw [TrashState.act_of_error hrun]
      refine ⟨fun _ hends trashRoot hroot => ?_, fun _ => h⟩
      obtain ⟨root, machine', hends⟩ := hends
      unfold adoptDiscoveredTrashItems at hrun
      rw [bind_of_ok hends, hroot] at hrun
      cases hrun
    | ok adopted machine =>
      obtain ⟨trashRoot, hroot, rfl⟩ := adoptDiscoveredTrashItems_returns _ _ _ hrun
      rw [TrashState.act_of_ok hrun, h.append, adopted_apart, trashedPaths_adoptEach]
      constructor
      · rintro ⟨hfiles, hitems⟩ - trashRoot' hroot' e he hadopt
        rw [hroot] at hroot'
        cases hroot'
        exact ⟨fun q hq => hitems q hq _ (mem_adoptEach.mpr ⟨e, he, hadopt, rfl⟩), hfiles e he hadopt⟩
      · intro hapart
        obtain ⟨root, machine', hends, -⟩ := bind_ok.mp hrun
        have hapart' := hapart ⟨root, machine', hends⟩ trashRoot hroot
        refine ⟨fun e he hadopt => (hapart' e he hadopt).2, fun q hq q' hq' => ?_⟩
        obtain ⟨e, he, hadopt, rfl⟩ := mem_adoptEach.mp hq'
        exact (hapart' e he hadopt).1 q hq
  | restore k env i =>
    obtain ⟨item, -, rfl⟩ := Option.map_eq_some_iff.mp hstep
    exact ⟨fun _ => trivial, fun _ => h.act_set i restoreTrashItem_returns⟩
  | purge k env i =>
    obtain ⟨item, -, rfl⟩ := Option.map_eq_some_iff.mp hstep
    exact ⟨fun _ => trivial, fun _ => h.act_set i purgeTrashItem_returns⟩
  | others disk =>
    obtain rfl := Option.some.inj hstep
    exact ⟨fun _ => trivial, fun _ => h⟩

/-- From an empty trash, every TRASHED item has a place of its own throughout a run exactly
when each action takes its paths apart. -/
theorem trashed_one_owner_iff (storage : ActionMount) (resolveMount : String → Option ActionMount) (d : Disk Bytes)
    (actions : List TrashAction) :
    Always (trashStep storage resolveMount) (fun s => OneOwner s.items) ⟨[], d⟩ actions ↔
      Along (trashStep storage resolveMount) (fun s a _ => TakesApart storage s a) ⟨[], d⟩ actions := by
  refine always_iff_along (I := fun s => OneOwner s.items) (P := fun s a _ => TakesApart storage s a)
    (J := fun _ => True) (fun _ _ => trivial) (fun _ h hstep => trashStep_oneOwner h hstep) trivial ?_
  exact List.Pairwise.nil

end

/-! ## A directory in the trash -/

def diskSet : FileEntry := { looseDisk with path := "set", entryType := .directory }

/-- A mount that holds one directory with one file. -/
def diskSets : Disk Bytes := (Disk.empty.plant [] "set" .directory).plant ["set"] "disk.raw" (.file [1])

/-- What a scan finds of it once it is in the trash. -/
def foundDisk : FileEntry := { looseDisk with path := ".trash/pve-helper/T0/set/disk.raw" }

theorem diskSet_trashed : ∃ item s', moveFileToTrash .sound quietEnv trashMount diskSet "T0" false ⟨diskSets, 0⟩ = .ok item s' ∧
    item.trashPath = ".trash/pve-helper/T0/set" ∧ item.restoreStatus = .trashed := by
  have hpath : StoredPath diskSet.path ["set"] :=
    ⟨by decide, fun n hn => by rw [List.mem_singleton.mp hn]; decide, by decide⟩
  have hways : ∀ r ∈ List.inits [".trash", "pve-helper", "T0"],
      diskSets.node ([] ++ r) = none ∨ diskSets.node ([] ++ r) = some .directory := by decide
  have hconfined : ∀ n ∈ [".trash", "pve-helper"] ++ ["T0"] ++ ([] ++ ["set"]), ConfinedName n := by decide
  have haccess : WriteAccess quietEnv trashMount := ⟨rfl, rfl, rfl⟩
  obtain ⟨item, s', hrun⟩ := @moveFileToTrash_accepted .sound _ _ _ _ _ _ 0 _ [] _ .directory sound_acceptsRenames haccess
    (.inr ⟨rfl, by decide⟩) (by rfl) hpath trashMount_place (by decide) hconfined (by decide) rfl
    (fun r hr => hways r ((List.mem_inits ..).mpr hr)) (by decide) (by decide)
  obtain ⟨-, -, -, -, -, -, -, -, -, hstored, -, -, -, hstatus⟩ :=
    moveFileToTrash_ok hpath trashMount_place (by decide) hrun
  refine ⟨item, s', hrun, ?_, hstatus⟩
  rw [hstored.text]
  decide

/-- The file in the trashed directory is taken for an item of its own. -/
theorem diskSet_two_owners : ¬ Always (trashStep trashMount fun _ => none) (fun s => OneOwner s.items) ⟨[], diskSets⟩
    [.move .sound quietEnv diskSet "T0" false, .adopt .sound [foundDisk]] := by
  intro h
  obtain ⟨item, s', hrun, hpath, hstatus⟩ := diskSet_trashed
  have hmoved : trashStep trashMount (fun _ => none) ⟨[], diskSets⟩ (.move .sound quietEnv diskSet "T0" false) =
      some ⟨[item], s'.disk⟩ := by
    simp only [trashStep, TrashState.act, hrun, List.nil_append]
  have hfirst : OneOwner [item] := h [_] [_] ⟨[item], s'.disk⟩ rfl (run_cons.mpr ⟨_, hmoved, rfl⟩)
  obtain ⟨s₂, hadopted⟩ : ∃ s₂, trashStep trashMount (fun _ => none) ⟨[item], s'.disk⟩ (.adopt .sound [foundDisk]) = some s₂ :=
    ⟨_, rfl⟩
  have hsecond : OneOwner s₂.items := h [_, _] [] s₂ rfl (run_cons.mpr ⟨_, hmoved, run_cons.mpr ⟨_, hadopted, rfl⟩⟩)
  have hroot : Ends (storageRoot .sound trashMount) s'.disk :=
    ⟨[], ⟨s'.disk, 1⟩, storageRoot_ok.mpr ⟨rfl, rfl, Disk.isDirectory_iff.mpr s'.disk.root, rfl⟩⟩
  have hapart := (trashStep_oneOwner hfirst hadopted).mp hsecond hroot ".trash/pve-helper" (by decide) foundDisk
    ((List.perm_insertionSort _ _).mem_iff.mpr (List.mem_filter.mpr ⟨List.mem_singleton_self _, by decide⟩))
    (by rw [List.map_singleton, hpath]; decide)
  refine hapart.1 item.trashPath ?_ ?_
  · simp [trashedPaths, hstatus]
  · rw [hpath]
    exact .inl (by decide)

end PveHelper.Files
