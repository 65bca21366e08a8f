/-
`StorageScanner` of `core/services/storage.py` over a mount's file tree: the
walk of a whole mount from a stack of directories, and the listing of one
directory. A tree answers by path, as the calls do; a call that raises is
recorded in the scanner's errors, which nothing here reads, and skipped.
-/
import PveHelper.Lib.Posix
import PveHelper.Lib.Worklist
import PveHelper.Files.Content

namespace PveHelper.Files

open Lib Guests

/-- What `lstat` says of a path. -/
structure FileStat where
  kind : EntryType
  sizeBytes : Nat
  modifiedAt : Time

/-- The tree below a mount's root, by the components of the path. -/
structure FileTree where
  /-- `iterdir`; nothing where it raises. -/
  scandir : List String → Option (List String)
  lstat : List String → Option FileStat
  /-- What is there once links are followed, if anything. -/
  stat : List String → Option EntryType
  maxDepth : Nat
  names : ∀ p ns n, scandir p = some ns → n ∈ ns → Posix.IsName n
  listed : ∀ p ns, scandir p = some ns → stat p = some .directory
  shallow : ∀ p, maxDepth ≤ p.length → scandir p = none

/-- `StorageEntry`. -/
structure StorageEntry where
  fullPath : String
  relativePath : String
  entryType : EntryType
  contentCategory : ContentCategory
  derivedVolid : String
  sizeBytes : Option Nat
  modifiedAt : Time

structure StorageScanner where
  storageId : String
  root : String
  ignoredPaths : List String

/-- `_is_ignored`. -/
def StorageScanner.isIgnored (sc : StorageScanner) (relative : String) : Bool :=
  sc.ignoredPaths.any fun ignored => relative = ignored || Text.startsWith relative (ignored ++ "/")

section
variable (tree : FileTree)

/-- One item of a directory, unless it cannot be read or is ignored. -/
def StorageScanner.entry (sc : StorageScanner) (path : List String) : Option StorageEntry :=
  (tree.lstat path).bind fun stat =>
    let relative := Posix.asPosix path
    if sc.isIgnored relative then none
    else
      let derived := deriveVolid sc.storageId relative
      some
        { fullPath := sc.root ++ "/" ++ relative
          relativePath := relative
          entryType := stat.kind
          contentCategory := (derived.map (·.contentCategory)).getD (categorizeProxmoxPath relative)
          derivedVolid := (derived.map (·.volid)).getD ""
          sizeBytes := if stat.kind = .file then some stat.sizeBytes else none
          modifiedAt := stat.modifiedAt }

-- `str.lower` of a name, which only orders a directory.
variable (lower : String → String)

/-- Names in order. -/
def ascending (names : List String) : List String := names.insertionSort fun a b => lower a ≤ lower b

/-- Names in reverse order. -/
def descending (names : List String) : List String := names.insertionSort fun a b => lower b ≤ lower a

/-- What the walk yields of a directory it takes off the stack. -/
def StorageScanner.yielded (sc : StorageScanner) (p : List String) : List StorageEntry :=
  (descending lower ((tree.scandir p).getD [])).filterMap fun n => sc.entry tree (p ++ [n])

/-- The directories it pushes meanwhile, the last one on top. -/
def StorageScanner.pushed (sc : StorageScanner) (p : List String) : List (List String) :=
  (((descending lower ((tree.scandir p).getD [])).map fun n => p ++ [n]).filter fun path =>
    (sc.entry tree path).any fun e => decide (e.entryType = .directory)).reverse

variable {tree lower}

theorem StorageScanner.mem_pushed {sc : StorageScanner} {p q : List String} : q ∈ sc.pushed tree lower p ↔
    ∃ ns n e, tree.scandir p = some ns ∧ n ∈ ns ∧ q = p ++ [n] ∧ sc.entry tree q = some e ∧ e.entryType = .directory := by
  unfold pushed descending
  cases hs : tree.scandir p with
  | none => simp
  | some ns =>
    simp only [Option.getD_some, List.mem_reverse, List.mem_filter, List.mem_map, List.mem_insertionSort,
      Option.any_eq_true, decide_eq_true_eq]
    constructor
    · intro h
      obtain ⟨⟨n, hn, rfl⟩, e, he, hdir⟩ := h
      exact ⟨ns, n, e, rfl, hn, rfl, he, hdir⟩
    · intro h
      obtain ⟨ns', n, e, hns, hn, rfl, he, hdir⟩ := h
      obtain rfl := Option.some.inj hns
      exact ⟨⟨n, hn, rfl⟩, e, he, hdir⟩

variable (tree lower) in
/-- A pushed directory is one level down, and no level is deeper than the tree. -/
theorem StorageScanner.pushed_wf (sc : StorageScanner) : WellFounded fun q p => q ∈ sc.pushed tree lower p := by
  refine Subrelation.wf ?_ (measure fun p : List String => tree.maxDepth - p.length).wf
  intro q p hq
  obtain ⟨ns, n, -, hs, -, rfl, -⟩ := StorageScanner.mem_pushed.mp hq
  have hdepth : p.length < tree.maxDepth := by
    by_contra hdeep
    rw [tree.shallow p (Nat.le_of_not_lt hdeep)] at hs
    cases hs
  show tree.maxDepth - (p ++ [n]).length < tree.maxDepth - p.length
  simp only [List.length_append, List.length_singleton]
  omega

variable (tree lower)

/-- The directories `iter_entries` takes off its stack, in turn. -/
def StorageScanner.walked (sc : StorageScanner) : List (List String) :=
  if (tree.stat []).isSome then worklist (sc.pushed_wf tree lower) [[]] else []

/-- `iter_entries`. -/
def StorageScanner.iterEntries (sc : StorageScanner) : List StorageEntry :=
  (sc.walked tree lower).flatMap (sc.yielded tree lower)

/-- `iter_directory`. -/
def StorageScanner.iterDirectory (sc : StorageScanner) (relative : String) : List StorageEntry :=
  let directory := if relative = "" then [] else Text.posixParts relative
  if tree.stat directory ≠ some .directory then []
  else (ascending lower ((tree.scandir directory).getD [])).filterMap fun n => sc.entry tree (directory ++ [n])

variable {tree lower}

/-- Where an entry of a directory comes from: an item listed there. -/
theorem StorageScanner.mem_yielded {sc : StorageScanner} {p : List String} {e : StorageEntry} :
    e ∈ sc.yielded tree lower p ↔ ∃ ns n, tree.scandir p = some ns ∧ n ∈ ns ∧ sc.entry tree (p ++ [n]) = some e := by
  unfold yielded descending
  cases hs : tree.scandir p with
  | none => simp
  | some ns => simp

theorem StorageScanner.entry_relativePath {sc : StorageScanner} {p : List String} {e : StorageEntry}
    (h : sc.entry tree p = some e) : e.relativePath = Posix.asPosix p := by
  obtain ⟨stat, -, h⟩ := Option.bind_eq_some_iff.mp h
  obtain ⟨-, h⟩ := Option.ite_none_left_eq_some.mp h
  rw [← Option.some.inj h]

/-- The walk comes by no path but of names. -/
theorem StorageScanner.walked_names {sc : StorageScanner} {p : List String} (h : p ∈ sc.walked tree lower) :
    ∀ n ∈ p, Posix.IsName n := by
  unfold walked at h
  split at h
  · obtain ⟨root, hroot, hreach⟩ := mem_worklist.mp h
    obtain rfl := List.mem_singleton.mp hroot
    induction hreach with
    | refl => simp
    | tail _ hstep ih =>
      obtain ⟨ns, n, -, hs, hn, rfl, -⟩ := StorageScanner.mem_pushed.mp hstep
      intro m hm
      rcases List.mem_append.mp hm with hm | hm
      · exact ih (mem_worklist.mpr ⟨[], hroot, ‹_›⟩) m hm
      · rw [List.mem_singleton.mp hm]
        exact tree.names _ ns n hs hn
  · cases h

/-- The listing of a directory has the entries that the walk yields of it. -/
theorem StorageScanner.mem_iterDirectory {sc : StorageScanner} {p : List String} (hp : ∀ n ∈ p, Posix.IsName n)
    {e : StorageEntry} : e ∈ sc.iterDirectory tree lower (Posix.asPosix p) ↔ e ∈ sc.yielded tree lower p := by
  have hdir : (if Posix.asPosix p = "" then [] else Text.posixParts (Posix.asPosix p)) = p := by
    rw [Posix.posixParts_asPosix hp]
    by_cases hroot : Posix.asPosix p = ""
    · rw [if_pos hroot]
      have hparts := Posix.posixParts_asPosix hp
      rw [hroot] at hparts
      rw [← hparts]
      decide
    · rw [if_neg hroot]
  unfold iterDirectory
  rw [hdir, StorageScanner.mem_yielded]
  by_cases hd : tree.stat p = some .directory
  · rw [if_neg (not_not.mpr hd)]
    unfold ascending
    cases hs : tree.scandir p with
    | none => simp
    | some ns => simp
  · rw [if_pos hd]
    constructor
    · intro h
      cases h
    · intro h
      obtain ⟨ns, n, hs, -⟩ := h
      exact absurd (tree.listed p ns hs) hd

end

end PveHelper.Files
