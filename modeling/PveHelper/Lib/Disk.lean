/-
A tree of files, by the components of the paths from its root. A tree carries what
makes it one: its root is a directory, what holds an entry is a directory, and
every name is one that a directory can hold. Two trees with the same entries are
equal. The operations on a tree are described by the entries they leave; the calls
of an operating system (`mkdir`, `rename`, …) are these operations where the tree
allows them, and the error that the tree gives where it does not.
-/
import Mathlib.Data.Finset.Image
import Mathlib.Data.Finset.Lattice.Fold
import Mathlib.Data.List.Infix
import Mathlib.Order.Lattice.Nat
import PveHelper.Lib.Posix

namespace Lib

/-- A name that a file can be given. -/
structure FileName (n : String) : Prop extends Posix.IsName n where
  parent : n ≠ ".."
  nul : '\x00' ∉ n.toList

instance (n : String) : Decidable (FileName n) :=
  decidable_of_iff ((n ≠ "" ∧ n ≠ "." ∧ '/' ∉ n.toList) ∧ n ≠ ".." ∧ '\x00' ∉ n.toList)
    ⟨fun h => ⟨⟨h.1.1, h.1.2.1, h.1.2.2⟩, h.2.1, h.2.2⟩, fun h => ⟨⟨h.nonempty, h.dot, h.slash⟩, h.parent, h.nul⟩⟩

/-- What a path leads to; `special` is a link, a device or a pipe. -/
inductive Node (α : Type)
  | file (data : α)
  | directory
  | special (data : α)
deriving DecidableEq

variable {α : Type}

def Node.isDirectory : Node α → Bool
  | .directory => true
  | _ => false

def Node.isFile : Node α → Bool
  | .file _ => true
  | _ => false

theorem Node.isDirectory_iff {x : Node α} : x.isDirectory = true ↔ x = .directory := by
  cases x <;> simp [Node.isDirectory]

abbrev Path := List String

/-- A tree of files. -/
structure Disk (α : Type) where
  node : Path → Option (Node α)
  paths : Finset Path
  mem_paths : ∀ p, p ∈ paths ↔ (node p).isSome = true
  root : node [] = some .directory
  holder : ∀ p n, (node (p ++ [n])).isSome = true → node p = some .directory
  names : ∀ p n, (node (p ++ [n])).isSome = true → FileName n

namespace Disk

variable {d d' : Disk α} {p q s t : Path} {n : String} {x : Node α}

@[ext] theorem ext (h : ∀ p, d.node p = d'.node p) : d = d' := by
  have hnode : d.node = d'.node := funext h
  have hpaths : d.paths = d'.paths := by
    ext p
    rw [d.mem_paths, d'.mem_paths, hnode]
  cases d
  cases d'
  subst hnode hpaths
  rfl

/-- A tree from its entries, which are found among these paths. -/
def make (node : Path → Option (Node α)) (among : Finset Path) (hamong : ∀ p, (node p).isSome = true → p ∈ among)
    (root : node [] = some .directory) (holder : ∀ p n, (node (p ++ [n])).isSome = true → node p = some .directory)
    (names : ∀ p n, (node (p ++ [n])).isSome = true → FileName n) : Disk α where
  node := node
  paths := among.filter fun p => (node p).isSome = true
  mem_paths p := by simpa using hamong p
  root := root
  holder := holder
  names := names

/-- What lies above an entry is a directory. -/
theorem node_above (h : (d.node (p ++ q)).isSome = true) (hq : q ≠ []) : d.node p = some .directory := by
  induction q using List.reverseRecOn with
  | nil => exact absurd rfl hq
  | append_singleton q n ih =>
    rw [← List.append_assoc] at h
    have hdir := d.holder _ _ h
    by_cases hq' : q = []
    · rwa [hq', List.append_nil] at hdir
    · exact ih (by rw [hdir]; rfl) hq'

theorem node_prefix (h : (d.node q).isSome = true) (hp : p <+: q) (hne : p ≠ q) : d.node p = some .directory := by
  obtain ⟨r, rfl⟩ := hp
  exact node_above h fun he => hne (by rw [he, List.append_nil])

/-! ## Reading -/

def isDirectory (d : Disk α) (p : Path) : Bool := (d.node p).any Node.isDirectory

theorem isDirectory_iff : d.isDirectory p = true ↔ d.node p = some .directory := by
  cases h : d.node p with
  | none => simp [isDirectory, h]
  | some x => simp [isDirectory, h, Node.isDirectory_iff]

/-- The names a directory holds. -/
def children (d : Disk α) (p : Path) : Finset String :=
  (d.paths.filter fun q => q ≠ [] ∧ q.dropLast = p).image fun q => q.getLastD ""

theorem mem_children : n ∈ d.children p ↔ (d.node (p ++ [n])).isSome = true := by
  simp only [children, Finset.mem_image, Finset.mem_filter, d.mem_paths]
  constructor
  · rintro ⟨q, ⟨hq, hne, rfl⟩, rfl⟩
    rwa [List.getLastD_eq_getLast?, List.getLast?_eq_some_getLast hne, Option.getD_some, List.dropLast_append_getLast hne]
  · intro h
    exact ⟨p ++ [n], ⟨h, by simp, by simp⟩, by simp⟩

theorem children_eq_empty : d.children p = ∅ ↔ ∀ n, d.node (p ++ [n]) = none := by
  rw [Finset.eq_empty_iff_forall_notMem]
  simp only [mem_children, Bool.not_eq_true, Option.isSome_eq_false_iff, Option.isNone_iff_eq_none]

/-- Below a path that holds nothing there is nothing. -/
theorem node_below_childless (h : d.children p = ∅) (hq : q ≠ []) : d.node (p ++ q) = none := by
  obtain ⟨n, q, rfl⟩ := List.exists_cons_of_ne_nil hq
  by_contra hne
  have hsome : (d.node (p ++ [n] ++ q)).isSome = true := by
    rw [List.append_assoc]
    exact Option.isSome_iff_ne_none.mpr hne
  have hfirst : (d.node (p ++ [n])).isSome = true := by
    by_cases hq' : q = []
    · rwa [hq', List.append_nil] at hsome
    · rw [node_above hsome hq']
      rfl
  rw [children_eq_empty.mp h n] at hfirst
  cases hfirst

/-- The length of the longest path. -/
def depth (d : Disk α) : Nat := d.paths.sup List.length

theorem length_le_depth (h : (d.node p).isSome = true) : p.length ≤ d.depth :=
  Finset.le_sup (f := List.length) ((d.mem_paths p).mpr h)

/-! ## Operations -/

/-- An entry where there is room for it: in a directory, under a name, and with nothing
below it that needs a directory. -/
def put (d : Disk α) (p : Path) (n : String) (x : Node α) (hdir : d.isDirectory p = true) (hname : FileName n)
    (hleaf : d.children (p ++ [n]) = ∅) : Disk α :=
  make (fun q => if q = p ++ [n] then some x else d.node q) (insert (p ++ [n]) d.paths)
    (fun q h => by
      rw [Finset.mem_insert, d.mem_paths]
      by_cases hq : q = p ++ [n]
      · exact .inl hq
      · exact .inr (by rwa [if_neg hq] at h))
    (by rw [if_neg (by simp), d.root])
    (fun q m h => by
      have hleaf' := children_eq_empty.mp hleaf
      by_cases hq : q = p ++ [n]
      · subst hq
        rw [if_neg (by simp), hleaf' m] at h
        cases h
      rw [if_neg hq]
      by_cases hlast : q ++ [m] = p ++ [n]
      · rw [(List.append_inj' hlast rfl).1]
        exact isDirectory_iff.mp hdir
      · rw [if_neg hlast] at h
        exact d.holder q m h)
    (fun q m h => by
      by_cases hlast : q ++ [m] = p ++ [n]
      · have hm : m = n := by simpa using (List.append_inj' hlast rfl).2
        exact hm ▸ hname
      · rw [if_neg hlast] at h
        exact d.names q m h)

@[simp] theorem node_put {hdir} {hname : FileName n} {hleaf} :
    (d.put p n x hdir hname hleaf).node q = if q = p ++ [n] then some x else d.node q := rfl

/-- An entry that holds nothing, taken away. -/
def erase (d : Disk α) (p : Path) (n : String) (hleaf : d.children (p ++ [n]) = ∅) : Disk α :=
  make (fun q => if q = p ++ [n] then none else d.node q) d.paths
    (fun q h => by
      rw [d.mem_paths]
      by_cases hq : q = p ++ [n]
      · rw [if_pos hq] at h
        cases h
      · rwa [if_neg hq] at h)
    (by rw [if_neg (by simp), d.root])
    (fun q m h => by
      by_cases hlast : q ++ [m] = p ++ [n]
      · rw [if_pos hlast] at h
        cases h
      rw [if_neg hlast] at h
      by_cases hq : q = p ++ [n]
      · subst hq
        rw [children_eq_empty.mp hleaf m] at h
        cases h
      · rw [if_neg hq]
        exact d.holder q m h)
    (fun q m h => by
      by_cases hlast : q ++ [m] = p ++ [n]
      · rw [if_pos hlast] at h
        cases h
      · rw [if_neg hlast] at h
        exact d.names q m h)

@[simp] theorem node_erase {hleaf} : (d.erase p n hleaf).node q = if q = p ++ [n] then none else d.node q := rfl

/-- An entry taken away with all below it. -/
def prune (d : Disk α) (p : Path) (n : String) : Disk α :=
  make (fun q => if p ++ [n] <+: q then none else d.node q) d.paths
    (fun q h => by
      rw [d.mem_paths]
      split at h
      · cases h
      · exact h)
    (by rw [if_neg (by simp), d.root])
    (fun q m h => by
      have hbelow : ¬ p ++ [n] <+: q ++ [m] := by
        intro hpre
        rw [if_pos hpre] at h
        cases h
      rw [if_neg hbelow] at h
      rw [if_neg fun hpre => hbelow (hpre.trans (List.prefix_append _ _))]
      exact d.holder q m h)
    (fun q m h => by
      split at h
      · cases h
      · exact d.names q m h)

@[simp] theorem node_prune : (d.prune p n).node q = if p ++ [n] <+: q then none else d.node q := rfl

/-- A file's data, changed in place. -/
def alter (d : Disk α) (p : Path) (f : α → α) : Disk α :=
  let change : Node α → Node α := fun x => match x with
    | .file a => .file (f a)
    | other => other
  make (fun q => if q = p then (d.node q).map change else d.node q) d.paths
    (fun q h => by
      rw [d.mem_paths]
      by_cases hq : q = p
      · rwa [if_pos hq, Option.isSome_map] at h
      · rwa [if_neg hq] at h)
    (by
      by_cases hp : [] = p
      · rw [if_pos hp, d.root]
        rfl
      · rw [if_neg hp, d.root])
    (fun q m h => by
      have hsome : (d.node (q ++ [m])).isSome = true := by
        by_cases hq : q ++ [m] = p
        · rwa [if_pos hq, Option.isSome_map] at h
        · rwa [if_neg hq] at h
      by_cases hq : q = p
      · rw [if_pos hq, d.holder q m hsome]
        rfl
      · rw [if_neg hq, d.holder q m hsome])
    (fun q m h => by
      by_cases hq : q ++ [m] = p
      · rw [if_pos hq, Option.isSome_map] at h
        exact d.names q m h
      · rw [if_neg hq] at h
        exact d.names q m h)

theorem node_alter_file {f : α → α} {a : α} (h : d.node p = some (.file a)) :
    (d.alter p f).node q = if q = p then some (.file (f a)) else d.node q := by
  show (if q = p then _ else _) = _
  by_cases hq : q = p
  · rw [if_pos hq, if_pos hq, hq, h]
    rfl
  · rw [if_neg hq, if_neg hq]

/-- There is an entry to move, and room for it elsewhere. -/
structure Movable (d : Disk α) (s p : Path) (n : String) : Prop where
  source : (d.node s).isSome = true
  room : d.isDirectory p = true
  name : FileName n
  leaf : d.children (p ++ [n]) = ∅
  apart : ¬ s <+: p ++ [n]

instance (d : Disk α) (s p : Path) (n : String) : Decidable (d.Movable s p n) :=
  decidable_of_iff ((d.node s).isSome = true ∧ d.isDirectory p = true ∧ FileName n ∧ d.children (p ++ [n]) = ∅ ∧
      ¬ s <+: p ++ [n])
    ⟨fun h => ⟨h.1, h.2.1, h.2.2.1, h.2.2.2.1, h.2.2.2.2⟩, fun h => ⟨h.source, h.room, h.name, h.leaf, h.apart⟩⟩

/-- Where an entry of a moved tree comes from. -/
def origin (s t q : Path) : Option Path :=
  if t <+: q then some (s ++ q.drop t.length) else if s <+: q then none else some q

/-- An entry, with all below it, under another path. -/
def move (d : Disk α) (s p : Path) (n : String) (h : d.Movable s p n) : Disk α :=
  let t := p ++ [n]
  make (fun q => (origin s t q).bind d.node) (d.paths ∪ d.paths.image fun q => t ++ q.drop s.length)
    (fun q hq => by
      rw [Finset.mem_union, Finset.mem_image, d.mem_paths]
      unfold origin at hq
      split at hq
      · rename_i ht
        obtain ⟨r, rfl⟩ := ht
        rw [Option.bind_some, List.drop_left] at hq
        exact .inr ⟨s ++ r, (d.mem_paths _).mpr hq, by rw [List.drop_left]⟩
      split at hq
      · cases hq
      · exact .inl hq)
    (by
      have hs : ¬ s <+: [] := fun hs => h.apart (List.prefix_nil.mp hs ▸ List.nil_prefix)
      rw [origin, if_neg (by simp [t]), if_neg hs, Option.bind_some, d.root])
    (fun q m hq => by
      have habove : ∀ {r : Path}, r <+: q → r <+: q ++ [m] := fun hr => hr.trans (List.prefix_append _ _)
      by_cases ht : t <+: q
      · -- below the target: the same step below the source
        obtain ⟨r, rfl⟩ := ht
        rw [origin, if_pos (habove (List.prefix_append _ _)), Option.bind_some, List.append_assoc, List.drop_left,
          ← List.append_assoc] at hq
        rw [origin, if_pos (List.prefix_append _ _), Option.bind_some, List.drop_left]
        exact d.holder _ m hq
      rw [origin, if_neg ht]
      by_cases htop : t = q ++ [m]
      · -- the target itself: its directory was there before
        obtain ⟨rfl, -⟩ := List.append_inj' htop rfl
        rw [if_neg fun hs => h.apart (hs.trans (List.prefix_append _ _)), Option.bind_some]
        exact isDirectory_iff.mp h.room
      have hbelow : ¬ t <+: q ++ [m] := by
        rw [List.prefix_concat_iff]
        exact fun hc => hc.elim htop ht
      rw [origin, if_neg hbelow] at hq
      by_cases hs : s <+: q
      · rw [if_pos (habove hs)] at hq
        cases hq
      rw [if_neg hs, Option.bind_some]
      split at hq
      · cases hq
      · exact d.holder q m hq)
    (fun q m hq => by
      by_cases ht : t <+: q ++ [m]
      · rw [origin, if_pos ht, Option.bind_some] at hq
        obtain ⟨r, hr⟩ := ht
        cases r using List.reverseRecOn with
        | nil =>
          rw [List.append_nil] at hr
          have hm : n = m := by simpa using (List.append_inj' hr rfl).2
          exact hm ▸ h.name
        | append_singleton r k =>
          rw [← hr, List.drop_left, ← List.append_assoc] at hq
          rw [← List.append_assoc] at hr
          have hm : k = m := by simpa using (List.append_inj' hr rfl).2
          exact hm ▸ d.names _ k hq
      · rw [origin, if_neg ht] at hq
        split at hq
        · cases hq
        · exact d.names q m hq)

theorem node_move {h : d.Movable s p n} : (d.move s p n h).node q = (origin s (p ++ [n]) q).bind d.node := rfl

end Disk

/-! ## Calls -/

/-- Why a call fails. The first five say what the tree is like; the others can have
any cause. -/
inductive Errno
  | noent | exist | notdir | isdir | notempty
  | inval | xdev | nosys | opnotsupp | other (code : Nat)
deriving DecidableEq, Repr

/-- Not an error that says what the tree is like. -/
def Errno.external : Errno → Bool
  | .noent | .exist | .notdir | .isdir | .notempty => false
  | _ => true

namespace Disk

variable {d d' : Disk α} {p q s : Path} {n m : String} {x y : Node α}

theorem children_of_not_directory (h : d.node p ≠ some .directory) : d.children p = ∅ := by
  rw [children_eq_empty]
  intro n
  by_contra hne
  exact h (d.holder p n (Option.isSome_iff_ne_none.mpr hne))

/-- `openat` of a directory, no link followed. -/
def openDirectory (d : Disk α) (p : Path) (n : String) : Except Errno Path :=
  match d.node (p ++ [n]) with
  | none => .error .noent
  | some .directory => .ok (p ++ [n])
  | some _ => .error .notdir

/-- `fstatat`, no link followed. -/
def stat (d : Disk α) (p : Path) (n : String) : Except Errno (Node α) :=
  match d.node (p ++ [n]) with
  | none => .error .noent
  | some x => .ok x

/-- A new entry: `mkdirat`, and `openat` with `O_CREAT | O_EXCL`. -/
def add (d : Disk α) (p : Path) (n : String) (x : Node α) : Except Errno (Disk α) :=
  if h : d.node (p ++ [n]) = none then
    if hroom : d.isDirectory p = true ∧ FileName n then
      .ok (d.put p n x hroom.1 hroom.2 (children_of_not_directory (by rw [h]; nofun)))
    else .error .noent
  else .error .exist

/-- `unlinkat`. -/
def unlink (d : Disk α) (p : Path) (n : String) : Except Errno (Disk α) :=
  match d.node (p ++ [n]) with
  | none => .error .noent
  | some .directory => .error .isdir
  | some _ => if h : d.children (p ++ [n]) = ∅ then .ok (d.erase p n h) else .error .notempty

/-- `unlinkat` with `AT_REMOVEDIR`. -/
def rmdir (d : Disk α) (p : Path) (n : String) : Except Errno (Disk α) :=
  match d.node (p ++ [n]) with
  | none => .error .noent
  | some .directory => if h : d.children (p ++ [n]) = ∅ then .ok (d.erase p n h) else .error .notempty
  | some _ => .error .notdir

/-- The move itself, once nothing else is in its way. -/
def relocate (d : Disk α) (s p : Path) (n : String) : Except Errno (Disk α) :=
  if h : d.Movable s p n then .ok (d.move s p n h) else .error .noent

/-- `renameat`: an entry of the same kind is replaced, a directory only when it is empty. -/
def rename (d : Disk α) (s p : Path) (n : String) : Except Errno (Disk α) :=
  match d.node s with
  | none => .error .noent
  | some x =>
    if s = p ++ [n] then .ok d
    else if s <+: p ++ [n] then .error .inval
    else if p ++ [n] <+: s then .error .notempty
    else match d.node (p ++ [n]) with
      | none => d.relocate s p n
      | some y =>
        if x.isDirectory ∧ !y.isDirectory then .error .notdir
        else if !x.isDirectory ∧ y.isDirectory then .error .isdir
        else if d.children (p ++ [n]) ≠ ∅ then .error .notempty
        else d.relocate s p n

/-- `renameat2` with `RENAME_NOREPLACE`. -/
def renameNoReplace (d : Disk α) (s p : Path) (n : String) : Except Errno (Disk α) :=
  match d.node s with
  | none => .error .noent
  | some _ =>
    if (d.node (p ++ [n])).isSome then .error .exist
    else if s <+: p ++ [n] then .error .inval
    else d.relocate s p n

/-- The tree that holds nothing. -/
def empty : Disk α :=
  make (fun p => if p = [] then some .directory else none) {[]}
    (fun p h => by
      by_cases hp : p = []
      · rw [hp]
        exact Finset.mem_singleton_self _
      · rw [if_neg hp] at h
        cases h)
    (by rw [if_pos rfl])
    (fun p n h => by
      rw [if_neg (by simp)] at h
      cases h)
    (fun p n h => by
      rw [if_neg (by simp)] at h
      cases h)

/-- With one entry more, where there is room for it. -/
def plant (d : Disk α) (p : Path) (n : String) (x : Node α) : Disk α :=
  match d.add p n x with
  | .ok d' => d'
  | .error _ => d

theorem openDirectory_ok : d.openDirectory p n = .ok q ↔ q = p ++ [n] ∧ d.node (p ++ [n]) = some .directory := by
  unfold openDirectory
  split
  · simp [*]
  · rename_i h
    simp [h, eq_comm]
  · rename_i hnot h
    simp only [reduceCtorEq, h, Option.some.injEq, false_iff, not_and]
    exact fun _ hdir => hnot hdir

theorem openDirectory_noent : d.openDirectory p n = .error .noent ↔ d.node (p ++ [n]) = none := by
  unfold openDirectory
  split <;> simp [*]

theorem stat_ok : d.stat p n = .ok x ↔ d.node (p ++ [n]) = some x := by
  unfold stat
  split <;> simp [*]

theorem stat_error {e : Errno} : d.stat p n = .error e ↔ e = .noent ∧ d.node (p ++ [n]) = none := by
  unfold stat
  split <;> simp [*, eq_comm]

theorem add_ok : d.add p n x = .ok d' ↔ d.node (p ++ [n]) = none ∧ d.isDirectory p = true ∧ FileName n ∧
    ∀ q, d'.node q = if q = p ++ [n] then some x else d.node q := by
  unfold add
  by_cases h : d.node (p ++ [n]) = none
  · by_cases hroom : d.isDirectory p = true ∧ FileName n
    · rw [dif_pos h, dif_pos hroom]
      simp only [Except.ok.injEq, h, hroom.1, hroom.2, true_and]
      constructor
      · rintro rfl q
        rfl
      · intro hnode
        exact ext fun q => (hnode q).symm
    · rw [dif_pos h, dif_neg hroom]
      simp only [reduceCtorEq, false_iff, not_and]
      exact fun _ hdir hname => absurd ⟨hdir, hname⟩ hroom
  · rw [dif_neg h]
    simp [h]

/-- In a directory, a name that can be given is refused only when it is taken. -/
theorem add_error {e : Errno} (hroom : d.isDirectory p = true) (hname : FileName n) (h : d.add p n x = .error e) :
    e = .exist ∧ (d.node (p ++ [n])).isSome = true := by
  unfold add at h
  split at h
  · rw [dif_pos ⟨hroom, hname⟩] at h
    cases h
  · rename_i htaken
    cases h
    exact ⟨rfl, Option.isSome_iff_ne_none.mpr htaken⟩

theorem erase_ok {h : d.children (p ++ [n]) = ∅} :
    d.erase p n h = d' ↔ ∀ q, d'.node q = if q = p ++ [n] then none else d.node q := by
  constructor
  · rintro rfl q
    rfl
  · intro hnode
    exact ext fun q => (hnode q).symm

theorem unlink_ok : d.unlink p n = .ok d' ↔ (∃ x, d.node (p ++ [n]) = some x ∧ x.isDirectory = false) ∧
    ∀ q, d'.node q = if q = p ++ [n] then none else d.node q := by
  unfold unlink
  split
  · simp [*]
  · simp [*, Node.isDirectory]
  · rename_i x hdir hx
    have hnot : x.isDirectory = false := by
      rw [← Bool.not_eq_true, Node.isDirectory_iff]
      exact hdir
    rw [dif_pos (children_of_not_directory (by simpa [hx] using hdir)), Except.ok.injEq, erase_ok]
    simp [hx, hnot]

theorem rmdir_ok : d.rmdir p n = .ok d' ↔ d.node (p ++ [n]) = some .directory ∧ d.children (p ++ [n]) = ∅ ∧
    ∀ q, d'.node q = if q = p ++ [n] then none else d.node q := by
  unfold rmdir
  split
  · simp [*]
  · rename_i hdir
    by_cases h : d.children (p ++ [n]) = ∅
    · rw [dif_pos h, Except.ok.injEq, erase_ok]
      simp [hdir, h]
    · rw [dif_neg h]
      simp [h]
  · rename_i hnot hx
    simp only [reduceCtorEq, hx, Option.some.injEq, false_iff, not_and]
    exact fun hdir => absurd hdir hnot

/-- A leaf taken away is all there was of it. -/
theorem erase_eq_prune {h : d.children (p ++ [n]) = ∅} : d.erase p n h = d.prune p n := by
  rw [erase_ok]
  intro q
  rw [node_prune]
  by_cases hq : q = p ++ [n]
  · rw [if_pos hq, if_pos (hq ▸ List.prefix_rfl)]
  rw [if_neg hq]
  by_cases hpre : p ++ [n] <+: q
  · obtain ⟨r, rfl⟩ := hpre
    rw [if_pos (List.prefix_append _ _), node_below_childless h fun hr => hq (by rw [hr, List.append_nil])]
  · rw [if_neg hpre]

theorem rmdir_prune (hdir : d.node (p ++ [n]) = some .directory) (h : d.children (p ++ [n]) = ∅) :
    d.rmdir p n = .ok (d.prune p n) :=
  rmdir_ok.mpr ⟨hdir, h, erase_ok.mp (erase_eq_prune (h := h))⟩

theorem unlink_prune (hx : d.node (p ++ [n]) = some x) (hnot : x.isDirectory = false) :
    d.unlink p n = .ok (d.prune p n) := by
  have hleaf : d.children (p ++ [n]) = ∅ := by
    apply children_of_not_directory
    rw [hx]
    rintro ⟨⟩
    cases hnot
  exact unlink_ok.mpr ⟨⟨x, hx, hnot⟩, erase_ok.mp (erase_eq_prune (h := hleaf))⟩

theorem relocate_ok : d.relocate s p n = .ok d' ↔ ∃ h : d.Movable s p n, d' = d.move s p n h := by
  unfold relocate
  by_cases h : d.Movable s p n
  · rw [dif_pos h]
    simp [h, eq_comm]
  · rw [dif_neg h]
    simp [h]

theorem renameNoReplace_ok (h : d.renameNoReplace s p n = .ok d') :
    d.node (p ++ [n]) = none ∧ ∃ hm : d.Movable s p n, d' = d.move s p n hm := by
  unfold renameNoReplace at h
  split at h
  · cases h
  split at h
  · cases h
  rename_i hfree
  split at h
  · cases h
  · exact ⟨by simpa using hfree, relocate_ok.mp h⟩

end Disk

end Lib
