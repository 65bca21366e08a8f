/-
Two readers of one mount table: `mount_info_for_path` of `core/services/filesystem.py` keeps the
first of the longest matches, and `mount_health` of `core/services/storage_mounts.py` builds a
dictionary, in which the last entry of a mount point stays. Where mounts are stacked the kernel's
effective one is the last, so the two agree only if the first entry says what the last one does.
-/
import PveHelper.Lib.Posix
import PveHelper.Storage.Catalog
import PveHelper.Storage.MountTable

namespace PveHelper.Storage

open Lib

/-! ## The readers -/

/-- `str` of a path. -/
def pathText (path : List String) : String :=
  match path with
  | [] => "."
  | root :: names => if root = "/" ∨ root = "//" then root ++ Posix.asPosix names else Posix.asPosix path

/-- `_is_path_relative_to`: the parent is the path or one of its parents, and the empty path is no
parent of an absolute one. -/
def isPathRelativeTo (path parent : List String) : Bool :=
  parent.isPrefixOf path && (parent ≠ [] || (path.head? ≠ some "/" && path.head? ≠ some "//"))

/-- One turn of the loop: the best match and its length so far. -/
def bestMatch (path : List String) (best : Option MountInfo × Int) (mount : MountInfo) : Option MountInfo × Int :=
  let mountPath := Text.posixParts mount.mountPoint
  if isPathRelativeTo path mountPath then
    let matchLength : Int := (pathText mountPath).length
    if best.2 < matchLength then (some mount, matchLength) else best
  else best

/-- `mount_info_for_path`. -/
def mountInfoForPath (path : List String) (mounts : List MountInfo) : MountInfo :=
  (mounts.foldl (bestMatch path) (none, -1)).1.getD {}

/-- `_option_set`. -/
def optionSet (options : String) : List String :=
  ((Text.split ',' options).filter (· ≠ "")).map fun option => (Text.partition '=' option).1

/-- `mount_access_mode`. -/
def mountAccessMode (mount : MountInfo) : String :=
  let options := optionSet mount.mountOptions ++ optionSet mount.superOptions
  if "ro" ∈ options then "read_only" else if "rw" ∈ options then "read_write" else "unknown"

/-- `MountHealth`, with the type of the file system. -/
structure TypedHealth extends MountHealth where
  filesystemType : String := ""

/-- What `mount_health` asks besides the table. -/
structure HealthWorld where
  lower : String → String
  isDirectory : Bool
  writable : Bool
  storageWriteEnabled : Bool

/-- The dictionary of `mount_health`: an entry takes the place of one with the same mount point. -/
def mountTypes (mounts : List MountInfo) : String → Option String :=
  mounts.foldl (fun types mount key => if key = mount.mountPoint then some mount.filesystemType else types key) fun _ => none

def writableHealth (w : HealthWorld) (filesystemType : String) : TypedHealth :=
  let writable := w.storageWriteEnabled && w.writable
  let reason := if writable then "" else if w.storageWriteEnabled then "Mount is read-only." else "Storage writes are disabled."
  ⟨⟨true, writable, reason⟩, filesystemType⟩

/-- `mount_health`, from the root of the mount or the text of the `StorageMountError`. -/
def mountHealth (w : HealthWorld) (enabled : Bool) (root : Except String (List String)) (profile : StorageBackendProfile)
    (mounts : List MountInfo) : TypedHealth :=
  if !enabled then ⟨⟨false, false, "Mount registration is disabled."⟩, ""⟩
  else
    match root with
    | .error message => ⟨⟨false, false, message⟩, ""⟩
    | .ok root =>
      if !w.isDirectory then ⟨⟨false, false, "Mount path is unavailable."⟩, ""⟩
      else if profile.filesystemMode = .networkMount then
        match mountTypes mounts (pathText root) with
        | none => ⟨⟨false, false, "Mount unavailable; refusing the backing directory."⟩, ""⟩
        | some exact =>
          if profile.expectedFilesystems ≠ [] ∧ w.lower exact ∉ profile.expectedFilesystems then
            ⟨⟨false, false, "Unexpected filesystem type: " ++ exact ++ "."⟩, exact⟩
          else writableHealth w exact
      else writableHealth w ""

/-- The entry that is effective at a path: the last one listed there. -/
def effective (path : List String) (mounts : List MountInfo) : Option MountInfo :=
  mounts.reverse.find? fun mount => mount.mountPoint = pathText path

/-- Two entries say the same of the file system. -/
def SaysSame (a b : MountInfo) : Prop :=
  a.filesystemType = b.filesystemType ∧ a.mountOptions = b.mountOptions ∧ a.superOptions = b.superOptions

instance (a b : MountInfo) : Decidable (SaysSame a b) := inferInstanceAs (Decidable (_ ∧ _ ∧ _))

/-- Both readers of a table use the effective entry at the path, where there is one: the first for the
type, the options and the access they give, the second for the type. -/
def ReadersAgree (path : List String) (mounts : List MountInfo) : Prop :=
  ∀ entry, effective path mounts = some entry →
    (SaysSame (mountInfoForPath path mounts) entry ∧ mountAccessMode (mountInfoForPath path mounts) = mountAccessMode entry) ∧
      ∀ w profile, w.isDirectory = true → profile.filesystemMode = .networkMount →
        (mountHealth w true (.ok path) profile mounts).filesystemType = entry.filesystemType

/-- The first entry listed for the path says what the effective one does. -/
def FirstIsEffective (path : List String) (mounts : List MountInfo) : Prop :=
  ∀ first entry, (mounts.find? fun mount => Text.posixParts mount.mountPoint = path) = some first →
    effective path mounts = some entry → SaysSame first entry

/-! ## The dictionary -/

section
variable {mounts : List MountInfo} {path : List String}

theorem mountTypes_eq (mounts : List MountInfo) (key : String) :
    mountTypes mounts key = (mounts.reverse.find? fun mount => mount.mountPoint = key).map (·.filesystemType) := by
  unfold mountTypes
  induction mounts using List.reverseRecOn with
  | nil => rfl
  | append_singleton mounts mount ih =>
    rw [List.foldl_append, List.foldl_cons, List.foldl_nil, List.reverse_append, List.reverse_singleton, List.singleton_append,
      List.find?_cons]
    by_cases hkey : mount.mountPoint = key
    · rw [if_pos hkey.symm, decide_eq_true hkey]
      rfl
    · rw [if_neg (Ne.symm hkey), decide_eq_false hkey, ih]

theorem mountHealth_type {entry : MountInfo} (h : effective path mounts = some entry) (w : HealthWorld)
    (profile : StorageBackendProfile) (hdir : w.isDirectory = true) (hmount : profile.filesystemMode = .networkMount) :
    (mountHealth w true (.ok path) profile mounts).filesystemType = entry.filesystemType := by
  have htype : mountTypes mounts (pathText path) = some entry.filesystemType := by
    rw [mountTypes_eq]
    exact congrArg (Option.map (·.filesystemType)) h
  unfold mountHealth
  simp only [hdir, hmount, htype, Bool.not_true, Bool.false_eq_true, if_false, if_true]
  split
  · rfl
  · rfl

theorem effective_eq_some {entry : MountInfo} (h : effective path mounts = some entry) :
    entry ∈ mounts ∧ entry.mountPoint = pathText path := by
  unfold effective at h
  exact ⟨List.mem_reverse.mp (List.mem_of_find?_eq_some h), by simpa using List.find?_some h⟩

/-! ## The longest match -/

theorem foldl_bestMatch_stays {n : Int} (hlong : ∀ mount ∈ mounts, isPathRelativeTo path (Text.posixParts mount.mountPoint) = true →
      ((pathText (Text.posixParts mount.mountPoint)).length : Int) ≤ n) (best : Option MountInfo) :
    mounts.foldl (bestMatch path) (best, n) = (best, n) := by
  induction mounts with
  | nil => rfl
  | cons mount mounts ih =>
    have hstep : bestMatch path (best, n) mount = (best, n) := by
      unfold bestMatch
      dsimp only
      split
      · next hrelative => exact if_neg (Int.not_lt.mpr (hlong mount List.mem_cons_self hrelative))
      · rfl
    rw [List.foldl_cons, hstep]
    exact ih fun m hm => hlong m (List.mem_cons_of_mem _ hm)

/-- The first entry that is the path itself is kept, when every other match is shorter. -/
theorem foldl_bestMatch_first {n : Int} {first : MountInfo} (best : Option MountInfo) (hn : n < (pathText path).length)
    (hself : isPathRelativeTo path path = true)
    (hshort : ∀ mount ∈ mounts, isPathRelativeTo path (Text.posixParts mount.mountPoint) = true →
      Text.posixParts mount.mountPoint ≠ path →
      (pathText (Text.posixParts mount.mountPoint)).length < (pathText path).length)
    (hfirst : (mounts.find? fun mount => Text.posixParts mount.mountPoint = path) = some first) :
    (mounts.foldl (bestMatch path) (best, n)).1 = some first := by
  induction mounts generalizing best n with
  | nil => cases hfirst
  | cons mount mounts ih =>
    rw [List.find?_cons] at hfirst
    have hrest := fun m hm => hshort m (List.mem_cons_of_mem _ hm)
    rw [List.foldl_cons]
    by_cases hpath : Text.posixParts mount.mountPoint = path
    · simp only [hpath, decide_true, Option.some.injEq] at hfirst
      subst hfirst
      have hstep : bestMatch path (best, n) mount = (some mount, ((pathText path).length : Int)) := by
        unfold bestMatch
        dsimp only
        rw [hpath, if_pos hself, if_pos hn]
      rw [hstep, foldl_bestMatch_stays]
      intro m hm hrelative
      by_cases hm' : Text.posixParts m.mountPoint = path
      · exact Int.le_of_eq (congrArg (fun p => ((pathText p).length : Int)) hm')
      · exact Int.ofNat_le.mpr (hrest m hm hrelative hm').le
    · simp only [hpath, decide_false] at hfirst
      have hstep : ∃ best' n', bestMatch path (best, n) mount = (best', n') ∧ n' < ((pathText path).length : Int) := by
        unfold bestMatch
        dsimp only
        split
        · next hrelative =>
          split
          · exact ⟨_, _, rfl, Int.ofNat_lt.mpr (hshort mount List.mem_cons_self hrelative hpath)⟩
          · exact ⟨_, _, rfl, hn⟩
        · exact ⟨_, _, rfl, hn⟩
      obtain ⟨best', n', hstep, hn'⟩ := hstep
      rw [hstep]
      exact ih best' hn' hrest hfirst

/-! ## Texts of absolute paths -/

/-- The path of an absolute text: its root, and names below it. -/
theorem posixParts_absolute (raw : String) :
    ∃ root names, Text.posixParts ("/" ++ raw) = root :: names ∧ (root = "/" ∨ root = "//") ∧ ∀ n ∈ names, Posix.IsName n := by
  have hslashes : (("/" ++ raw).toList.takeWhile (· = '/')).length ≠ 0 := by
    rw [String.toList_append]
    show (List.takeWhile _ ('/' :: raw.toList)).length ≠ 0
    rw [List.takeWhile_cons_of_pos (by decide)]
    exact Nat.succ_ne_zero _
  have hnames : ∀ n ∈ (Text.split '/' ("/" ++ raw)).filter (fun part => part != "" && part != "."), Posix.IsName n := by
    intro n hn
    obtain ⟨hsplit, hne⟩ := List.mem_filter.mp hn
    simp only [Bool.and_eq_true, bne_iff_ne, ne_eq] at hne
    exact ⟨hne.1, hne.2, Text.not_mem_of_mem_split hsplit⟩
  unfold Text.posixParts
  dsimp only
  rw [if_neg hslashes]
  split
  · exact ⟨"//", _, rfl, .inr rfl, hnames⟩
  · exact ⟨"/", _, rfl, .inl rfl, hnames⟩

theorem joined_append_lt {p q : List String} (hq : q ≠ []) (hnames : ∀ n ∈ q, Posix.IsName n) :
    (Posix.joined p).length < (Posix.joined (p ++ q)).length := by
  obtain ⟨m, rest, rfl⟩ := List.exists_cons_of_ne_nil hq
  induction p with
  | nil =>
    obtain ⟨c, cs, hc⟩ := Text.exists_cons_of_ne (hnames m List.mem_cons_self).nonempty
    cases rest with
    | nil => simp [Posix.joined, hc]
    | cons m' rest => simp [Posix.joined_cons, Posix.joined, hc]
  | cons n p ih =>
    cases p with
    | nil =>
      rw [List.singleton_append, Posix.joined_cons, Posix.joined, List.length_append, List.length_cons]
      omega
    | cons n' p =>
      rw [List.cons_append, List.cons_append, Posix.joined_cons, Posix.joined_cons, List.length_append, List.length_append,
        List.length_cons, List.length_cons, ← List.cons_append]
      omega

theorem split_slash (cs : List Char) : Text.split '/' (String.ofList ('/' :: cs)) = "" :: Text.split '/' (String.ofList cs) := by
  rw [Text.split, Text.split, String.toList_ofList, String.toList_ofList, List.splitOn, List.splitOnP_cons_eq_if_modifyHead,
    if_pos (by decide)]
  rfl

/-- The text of an absolute path is read as the path. -/
theorem posixParts_pathText {root : String} {names : List String} (hroot : root = "/" ∨ root = "//")
    (hnames : ∀ n ∈ names, Posix.IsName n) : Text.posixParts (pathText (root :: names)) = root :: names := by
  have hbelow : (Text.split '/' (String.ofList (Posix.joined names))).filter (fun part => part != "" && part != ".") = names := by
    have hparts := Posix.posixParts_asPosix hnames
    unfold Text.posixParts at hparts
    rw [Posix.asPosix, String.toList_ofList, Posix.joined_head hnames] at hparts
    exact hparts
  have htext : pathText (root :: names) = root ++ Posix.asPosix names := if_pos hroot
  rw [htext]
  rcases hroot with rfl | rfl
  · have hlist : "/" ++ Posix.asPosix names = String.ofList ('/' :: Posix.joined names) := by
      refine String.toList_injective ?_
      simp [Posix.asPosix]
    unfold Text.posixParts
    rw [hlist, split_slash, String.toList_ofList, List.takeWhile_cons_of_pos (by decide), Posix.joined_head hnames,
      List.filter_cons_of_neg (by decide), hbelow]
    rfl
  · have hlist : "//" ++ Posix.asPosix names = String.ofList ('/' :: '/' :: Posix.joined names) := by
      refine String.toList_injective ?_
      simp [Posix.asPosix]
    unfold Text.posixParts
    rw [hlist, split_slash, split_slash, String.toList_ofList, List.takeWhile_cons_of_pos (by decide),
      List.takeWhile_cons_of_pos (by decide), Posix.joined_head hnames, List.filter_cons_of_neg (by decide),
      List.filter_cons_of_neg (by decide), hbelow]
    rfl

/-- A parent of an absolute path has a shorter text. -/
theorem parent_shorter {root : String} {names parent : List String} (hroot : root = "/" ∨ root = "//")
    (hnames : ∀ n ∈ names, Posix.IsName n) (hparent : isPathRelativeTo (root :: names) parent = true)
    (hne : parent ≠ root :: names) : (pathText parent).length < (pathText (root :: names)).length := by
  unfold isPathRelativeTo at hparent
  rw [Bool.and_eq_true, List.isPrefixOf_iff_prefix] at hparent
  obtain ⟨hleading, hempty⟩ := hparent
  cases parent with
  | nil => rcases hroot with rfl | rfl <;> simp at hempty
  | cons first names' =>
    obtain ⟨rfl, rest, rfl⟩ := List.cons_prefix_cons.mp hleading
    have hrest : rest ≠ [] := by
      rintro rfl
      exact hne (by rw [List.append_nil])
    have hlt := joined_append_lt (p := names') hrest fun n hn => hnames n (List.mem_append_right _ hn)
    have htext : ∀ ns, (pathText (first :: ns)).length = first.length + (Posix.joined ns).length := by
      intro ns
      have htext : pathText (first :: ns) = first ++ Posix.asPosix ns := if_pos hroot
      rw [htext, String.length_append, Posix.asPosix, String.length_ofList]
    rw [htext, htext]
    omega

theorem isPathRelativeTo_self {root : String} {names : List String} : isPathRelativeTo (root :: names) (root :: names) = true := by
  have hleading : (root :: names).isPrefixOf (root :: names) = true := List.isPrefixOf_iff_prefix.mpr (List.prefix_refl _)
  unfold isPathRelativeTo
  rw [hleading]
  rfl

/-- Both readers of a table use its effective entry at an absolute path, if and only if the first entry listed
there says what the effective one does. -/
theorem readersAgree_iff (raw : String) (mounts : List MountInfo) :
    ReadersAgree (Text.posixParts ("/" ++ raw)) mounts ↔ FirstIsEffective (Text.posixParts ("/" ++ raw)) mounts := by
  obtain ⟨root, names, hpath, hroot, hnames⟩ := posixParts_absolute raw
  rw [hpath]
  have hbest : ∀ first, (mounts.find? fun mount => Text.posixParts mount.mountPoint = root :: names) = some first →
      mountInfoForPath (root :: names) mounts = first := by
    intro first hfirst
    have hfold := foldl_bestMatch_first none (n := -1) (by omega) isPathRelativeTo_self
      (fun mount _ hrelative hne => parent_shorter hroot hnames hrelative hne) hfirst
    rw [mountInfoForPath, hfold]
    rfl
  constructor
  · intro h first entry hfirst hentry
    have hsame := (h entry hentry).1.1
    rwa [hbest first hfirst] at hsame
  · intro h entry hentry
    obtain ⟨first, hfirst⟩ : ∃ first, (mounts.find? fun mount => Text.posixParts mount.mountPoint = root :: names) = some first := by
      obtain ⟨hmem, hpoint⟩ := effective_eq_some hentry
      refine Option.isSome_iff_exists.mp (List.find?_isSome.mpr ⟨entry, hmem, decide_eq_true ?_⟩)
      rw [hpoint]
      exact posixParts_pathText hroot hnames
    have hsame := h first entry hfirst hentry
    rw [hbest first hfirst]
    refine ⟨⟨hsame, ?_⟩, fun w profile hdir hmount => mountHealth_type hentry w profile hdir hmount⟩
    unfold mountAccessMode
    rw [hsame.2.1, hsame.2.2]

/-- A file system that was made read-only by mounting over the first one. -/
def stackedMounts : List MountInfo :=
  [⟨"/storages/lab", "nfs4", "filer:/lab", "rw,relatime", "rw"⟩, ⟨"/storages/lab", "ext4", "/dev/sdb1", "ro,relatime", "ro"⟩]

theorem stackedMounts_disagree : ¬ ReadersAgree (Text.posixParts ("/" ++ "storages/lab")) stackedMounts := by
  rw [readersAgree_iff]
  intro h
  have hsame := h stackedMounts[0] stackedMounts[1] (by decide) (by decide)
  exact absurd hsame (by decide)

end

end PveHelper.Storage
