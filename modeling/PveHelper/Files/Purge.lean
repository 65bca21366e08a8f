/-
What a purge leaves at the path of a trashed entry. `remove_confined_tree` takes every
error of opening a parent for the entry's absence, and the path it is given is the
stored one trimmed of blanks, so an item can be marked as purged while its entry is
still there.
-/
import PveHelper.Files.ConfinedFacts
import PveHelper.Files.Trash

namespace PveHelper.Files

open Lib

variable {k : Kernel} {d d' : Disk Bytes} {i fuel : Nat} {fd root : Path} {name : String} {parts : List String}
  {s s' : Machine Bytes}

/-! ## The calls of a removal -/

/-- The calls that remove an entry of a directory. -/
def entryCalls (d : Disk Bytes) (below : Nat → Path → String → List Call) (fd : Path) (i : Nat) (entry : String) : List Call :=
  [⟨.stat, fd ++ [entry]⟩] ++ if d.isDirectory (fd ++ [entry]) then below (i + 1) fd entry else [⟨.unlink, fd ++ [entry]⟩]

/-- The calls that remove a directory with all below it; it is closed before it goes. -/
def treeCalls (k : Kernel) (d : Disk Bytes) : Nat → Nat → Path → String → List Call
  | 0, _, _, _ => []
  | fuel + 1, i, fd, name =>
    [⟨.openDirectory, fd ++ [name]⟩] ++
      (([⟨.list, fd ++ [name]⟩] ++
        callsInTurn (entryCalls d (treeCalls k d fuel) (fd ++ [name])) (i + 2) (k.order (i + 1) (d.children (fd ++ [name]))) ++
          [⟨.close, fd ++ [name]⟩]) ++ [⟨.rmdir, fd ++ [name]⟩])

/-- They depend on nothing but what is below the directory. -/
theorem treeCalls_congr (h : ∀ q, d'.node (fd ++ [name] ++ q) = d.node (fd ++ [name] ++ q)) :
    treeCalls k d' fuel i fd name = treeCalls k d fuel i fd name := by
  induction fuel generalizing i fd name with
  | zero => rfl
  | succ fuel ih =>
    have hchildren : d'.children (fd ++ [name]) = d.children (fd ++ [name]) := by
      ext n
      rw [Disk.mem_children, Disk.mem_children, h]
    have hentries : entryCalls d' (treeCalls k d' fuel) (fd ++ [name]) = entryCalls d (treeCalls k d fuel) (fd ++ [name]) := by
      funext i entry
      rw [entryCalls, entryCalls, Disk.isDirectory, Disk.isDirectory, h, ih]
      intro q
      rw [List.append_assoc]
      exact h _
    rw [treeCalls, treeCalls, hchildren, hentries]

/-- Entries of a directory that are all different and still as they were. -/
structure StillThere (d : Disk Bytes) (r : Path) (d' : Disk Bytes) (ns : List String) : Prop where
  nodup : ns.Nodup
  entry : ∀ n ∈ ns, (d.node (r ++ [n])).isSome = true
  same : ∀ n ∈ ns, ∀ q, d'.node (r ++ [n] ++ q) = d.node (r ++ [n] ++ q)

theorem StillThere.prune {r : Path} {n : String} {ns : List String} (h : StillThere d r d' (n :: ns)) :
    StillThere d r (d'.prune r n) ns where
  nodup := (List.nodup_cons.mp h.nodup).2
  entry m hm := h.entry m (List.mem_cons_of_mem _ hm)
  same m hm q := by
    rw [Disk.node_prune, if_neg, h.same m (List.mem_cons_of_mem _ hm)]
    rw [List.append_assoc, List.prefix_append_right_inj]
    rintro ⟨t, ht⟩
    cases ht
    exact (List.nodup_cons.mp h.nodup).1 hm

theorem removeEntryAt_performs {remove : Path → String → Program Bytes Errno Unit} {below : Nat → Path → String → List Call}
    {x : Node Bytes} (hx : d.node (fd ++ [name]) = some x)
    (hdir : x = .directory → Performs k (remove fd name) ⟨d, i + 1⟩ (below (i + 1) fd name) () (d.prune fd name)) :
    Performs k (removeEntryAt k remove fd name) ⟨d, i⟩ (entryCalls d below fd i name) () (d.prune fd name) := by
  rw [entryCalls, Disk.isDirectory, hx, Option.any_some]
  refine Performs.bind (Performs.ask (Disk.stat_ok.mpr hx)) ?_
  by_cases hxd : x.isDirectory = true
  · rw [if_pos hxd, if_pos hxd]
    exact hdir (Node.isDirectory_iff.mp hxd)
  · rw [if_neg hxd, if_neg hxd]
    exact Performs.act (Disk.unlink_prune hx (by simpa using hxd))

/-- What is left when the entries of a directory have gone one by one. -/
theorem node_foldl_prune {ns : List String} (q : Path) :
    (ns.foldl (fun d n => d.prune fd n) d).node q = if ∃ n ∈ ns, fd ++ [n] <+: q then none else d.node q := by
  induction ns generalizing d with
  | nil => simp
  | cons n ns ih =>
    rw [List.foldl_cons, ih, Disk.node_prune]
    simp only [List.mem_cons, exists_eq_or_imp]
    by_cases hrest : ∃ m ∈ ns, fd ++ [m] <+: q
    · rw [if_pos hrest, if_pos (.inr hrest)]
    · rw [if_neg hrest]
      simp only [hrest, or_false]

/-- Once all its entries are gone, the directory goes too. -/
theorem rmdir_foldl_prune {ns : List String} (hdir : d.node (fd ++ [name]) = some .directory)
    (hns : ∀ n, n ∈ ns ↔ n ∈ d.children (fd ++ [name])) :
    (ns.foldl (fun d n => d.prune (fd ++ [name]) n) d).rmdir fd name = .ok (d.prune fd name) := by
  have hgone : (ns.foldl (fun d n => d.prune (fd ++ [name]) n) d).children (fd ++ [name]) = ∅ := by
    rw [Disk.children_eq_empty]
    intro n
    rw [node_foldl_prune]
    split
    · rfl
    · rename_i hno
      by_contra hne
      exact hno ⟨n, (hns n).mpr (Disk.mem_children.mpr (Option.isSome_iff_ne_none.mpr hne)), List.prefix_rfl⟩
  have hstays : (ns.foldl (fun d n => d.prune (fd ++ [name]) n) d).node (fd ++ [name]) = some .directory := by
    rw [node_foldl_prune, if_neg, hdir]
    rintro ⟨n, -, hpre⟩
    have := hpre.length_le
    simp at this
  rw [Disk.rmdir_prune hstays hgone, Except.ok.injEq]
  ext q
  rw [Disk.node_prune, Disk.node_prune, node_foldl_prune]
  by_cases hq : fd ++ [name] <+: q
  · rw [if_pos hq, if_pos hq]
  · rw [if_neg hq, if_neg hq, if_neg]
    rintro ⟨n, -, hpre⟩
    exact hq ((List.prefix_append _ _).trans hpre)

/-- `_remove_directory_tree_at` makes these calls, and the directory is gone where they succeed. -/
theorem removeDirectoryTreeAt_performs (hdir : d.node (fd ++ [name]) = some .directory)
    (hfuel : ∀ q, (d.node (fd ++ [name] ++ q)).isSome = true → q.length < fuel) :
    Performs k (removeDirectoryTreeAt k fuel fd name) ⟨d, i⟩ (treeCalls k d fuel i fd name) () (d.prune fd name) := by
  induction fuel generalizing d i fd name with
  | zero =>
    have := hfuel [] (by rw [List.append_nil, hdir]; rfl)
    omega
  | succ fuel ih =>
    have hnames : ∀ n, n ∈ k.order (i + 1) (d.children (fd ++ [name])) ↔ n ∈ d.children (fd ++ [name]) := k.mem_order _ _
    have hthere : StillThere d (fd ++ [name]) d (k.order (i + 1) (d.children (fd ++ [name]))) :=
      ⟨k.nodup_order _ _, fun n hn => Disk.mem_children.mp ((hnames n).mp hn), fun _ _ _ => rfl⟩
    have hstep : ∀ n ns d' j, StillThere d (fd ++ [name]) d' (n :: ns) →
        Performs k (removeEntryAt k (removeDirectoryTreeAt k fuel) (fd ++ [name]) n) ⟨d', j⟩
          (entryCalls d (treeCalls k d fuel) (fd ++ [name]) j n) () (d'.prune (fd ++ [name]) n) ∧
        StillThere d (fd ++ [name]) (d'.prune (fd ++ [name]) n) ns := by
      intro n ns d' j h
      have hsame := h.same n List.mem_cons_self
      have hhere : d'.node (fd ++ [name] ++ [n]) = d.node (fd ++ [name] ++ [n]) := by
        have := hsame []
        rwa [List.append_nil] at this
      obtain ⟨x, hx⟩ := Option.isSome_iff_exists.mp (hhere ▸ h.entry n List.mem_cons_self)
      have hcalls : entryCalls d (treeCalls k d fuel) (fd ++ [name]) j n =
          entryCalls d' (treeCalls k d' fuel) (fd ++ [name]) j n := by
        rw [entryCalls, entryCalls, Disk.isDirectory, Disk.isDirectory, hhere, treeCalls_congr hsame]
      rw [hcalls]
      refine ⟨removeEntryAt_performs hx fun hdir' => ih (hdir' ▸ hx) fun q hq => ?_, h.prune⟩
      rw [hsame, List.append_assoc] at hq
      have := hfuel (n :: q) hq
      rw [List.length_cons] at this
      omega
    have hloop := Performs.forM hstep (i := i + 2) hthere
    exact Performs.bind (Performs.ask (Disk.openDirectory_ok.mpr ⟨rfl, hdir⟩))
      (Performs.bind (Performs.ensuring (Performs.bind (Performs.list (Disk.isDirectory_iff.mpr hdir)) hloop) closeCall_performs)
        (Performs.act (rmdir_foldl_prune hdir hnames)))

/-- The calls of a removal whose parent is open. -/
def removalCalls (k : Kernel) (d : Disk Bytes) (i : Nat) (fd : Path) (name : String) : List Call :=
  [⟨.stat, fd ++ [name]⟩] ++ match d.node (fd ++ [name]) with
    | none => []
    | some x => if x.isDirectory then treeCalls k d (d.depth + 1) (i + 1) fd name else [⟨.unlink, fd ++ [name]⟩]

/-- Nothing is taken away where there is nothing. -/
theorem prune_of_none (h : d.node (fd ++ [name]) = none) : d.prune fd name = d := by
  ext q
  rw [Disk.node_prune]
  split
  · rename_i hpre
    obtain ⟨r, rfl⟩ := hpre
    rw [Disk.node_below_free h]
  · rfl

/-- The entry is looked at, and a missing one is no error. -/
theorem statForRemoval_performs : Performs k (statForRemoval k fd name true) ⟨d, i⟩ [⟨.stat, fd ++ [name]⟩]
    (d.node (fd ++ [name])) d where
  ok h := by
    cases hnode : d.node (fd ++ [name]) with
    | some x =>
      have hcall := Kernel.ask_of_ok (s := ⟨d, i⟩) (f := fun d => d.stat fd name) h.1 (Disk.stat_ok.mpr hnode)
      refine except_of_ok ?_
      rw [bind_of_ok (raisingAs_ok.mpr hcall)]
      rfl
    | none =>
      have hcall := Kernel.ask_of_refused (s := ⟨d, i⟩) (f := fun d => d.stat fd name) h.1 (Disk.stat_error.mpr ⟨rfl, hnode⟩)
      unfold statForRemoval
      rw [except_of_caught (bind_error.mpr (.inl (raisingAs_error.mpr ⟨_, hcall, rfl⟩))) rfl]
      rfl
  raised h := by
    cases hfault : k.fault i ⟨.stat, fd ++ [name]⟩ with
    | none => exact absurd ⟨hfault, trivial⟩ h
    | some e =>
      have hcall := Kernel.ask_of_fault (s := ⟨d, i⟩) (f := fun d => d.stat fd name) hfault
      have hexternal := k.external _ _ _ hfault (by simp)
      refine ⟨.confined .failed "Path is unavailable or unsafe.", ⟨d, i + 1⟩, ?_⟩
      unfold statForRemoval
      rw [except_of_caught (bind_error.mpr (.inl (raisingAs_error.mpr ⟨_, hcall, rfl⟩)))
        (show _ = some (raise (.confined .failed "Path is unavailable or unsafe.")) from ?_)]
      · rfl
      · cases e <;> first | rfl | cases hexternal

theorem depthBound_performs : Performs k depthBound s [] (s.disk.depth + 1) s.disk where
  ok _ := rfl
  raised h := absurd trivial h

/-- A removal whose parent is open makes these calls, and where they succeed nothing is
left of the entry. -/
theorem removeChildTree_performs :
    Performs k (removeChildTree k fd name true) ⟨d, i⟩ (removalCalls k d i fd name) () (d.prune fd name) := by
  refine Performs.bind statForRemoval_performs ?_
  cases hnode : d.node (fd ++ [name]) with
  | none =>
    rw [prune_of_none hnode]
    exact Performs.pure () _
  | some x =>
    refine Performs.bind_still (depthBound_performs (s := ⟨d, i + 1⟩)) (Performs.raisingAs ?_)
    by_cases hx : x.isDirectory = true
    · simp only [if_pos hx]
      refine removeDirectoryTreeAt_performs (hnode.trans (congrArg some (Node.isDirectory_iff.mp hx))) fun q hq => ?_
      have := Disk.length_le_depth hq
      simp only [List.length_append, List.length_singleton] at this
      omega
    · simp only [if_neg hx]
      exact Performs.act (Disk.unlink_prune hnode (by simpa using hx))

/-- The calls of a removal whose parent is open, and the close of the parent. -/
def closedRemovalCalls (k : Kernel) (d : Disk Bytes) (i : Nat) (fd : Path) (name : String) : List Call :=
  removalCalls k d i fd name ++ [⟨.close, fd⟩]

/-! ## A parent that does not open -/

/-- A directory on the way does not open, and the one before it is closed all the same. -/
def WayEnds (k : Kernel) (d : Disk Bytes) : Nat → Path → List String → Prop
  | _, _, [] => False
  | i, fd, part :: parts => k.fault (i + 1) ⟨.close, fd⟩ = none ∧
    (k.fault i ⟨.openDirectory, fd ++ [part]⟩ = none → d.node (fd ++ [part]) = some .directory →
      WayEnds k d (i + 2) (fd ++ [part]) parts)

/-- The root does not open, or a directory on the way from it does not. -/
def ParentMissed (k : Kernel) (d : Disk Bytes) (i : Nat) (root : Path) (parts : List String) : Prop :=
  k.fault i ⟨.openRoot, root⟩ = none → d.isDirectory root = true → WayEnds k d (i + 1) root parts

/-- The step of the loop of `_open_parent`. -/
def nextOpened (k : Kernel) (fd : Path) (part : String) : Fs Path :=
  stepInto k fd (raisingAs (failedAs "Parent directory is unavailable or unsafe.") (openDirectoryAt k fd part))

theorem nextOpened_ok {part : String} (hopen : k.fault i ⟨.openDirectory, fd ++ [part]⟩ = none)
    (hdir : d.node (fd ++ [part]) = some .directory) (hclose : k.fault (i + 1) ⟨.close, fd⟩ = none) :
    nextOpened k fd part ⟨d, i⟩ = .ok (fd ++ [part]) ⟨d, i + 2⟩ :=
  (stepInto_performs (Performs.raisingAs (Performs.ask (s := ⟨d, i⟩) (c := ⟨.openDirectory, fd ++ [part]⟩)
    (f := fun d => d.openDirectory fd part) (Disk.openDirectory_ok.mpr ⟨rfl, hdir⟩)))).ok ⟨hopen, hclose, trivial⟩

/-- What a call to open a directory does where it does not open it. -/
theorem openDirectoryAt_missed {part : String}
    (h : ¬ (k.fault i ⟨.openDirectory, fd ++ [part]⟩ = none ∧ d.node (fd ++ [part]) = some .directory)) :
    ∃ e, openDirectoryAt k fd part ⟨d, i⟩ = .error e ⟨d, i + 1⟩ := by
  cases hfault : k.fault i ⟨.openDirectory, fd ++ [part]⟩ with
  | some e => exact ⟨e, Kernel.ask_of_fault hfault⟩
  | none =>
    cases hopen : d.openDirectory fd part with
    | error e => exact ⟨e, Kernel.ask_of_refused (s := ⟨d, i⟩) (f := fun d => d.openDirectory fd part) hfault hopen⟩
    | ok next => exact absurd ⟨hfault, (Disk.openDirectory_ok.mp hopen).2⟩ h

theorem nextOpened_missed {part : String} (hclose : k.fault (i + 1) ⟨.close, fd⟩ = none)
    (h : ¬ (k.fault i ⟨.openDirectory, fd ++ [part]⟩ = none ∧ d.node (fd ++ [part]) = some .directory)) :
    ∃ message, nextOpened k fd part ⟨d, i⟩ = .error (.confined .failed message) ⟨d, i + 2⟩ := by
  obtain ⟨e, hopen⟩ := openDirectoryAt_missed h
  refine ⟨_, reraising_error.mpr ⟨_, ⟨d, i + 1⟩, bind_error.mpr (.inl (raisingAs_error.mpr ⟨e, hopen, rfl⟩)), .inr ⟨rfl, ?_⟩⟩⟩
  exact close_of_lets hclose

/-- Where the directory before cannot be closed, that is raised. -/
theorem nextOpened_unclosed {part : String} (hclose : k.fault (i + 1) ⟨.close, fd⟩ ≠ none) :
    ∃ e s', nextOpened k fd part ⟨d, i⟩ = .error (.os e) s' := by
  obtain ⟨e, hfault⟩ := Option.ne_none_iff_exists'.mp hclose
  by_cases hopens : k.fault i ⟨.openDirectory, fd ++ [part]⟩ = none ∧ d.node (fd ++ [part]) = some .directory
  · obtain ⟨r, s₁, hraise⟩ := (stepInto_performs (Performs.raisingAs (f := failedAs "Parent directory is unavailable or unsafe.")
      (Performs.ask (s := ⟨d, i⟩) (c := ⟨.openDirectory, fd ++ [part]⟩) (f := fun d => d.openDirectory fd part)
        (Disk.openDirectory_ok.mpr ⟨rfl, hopens.2⟩)))).raised (fun hlets => hclose hlets.2.1)
    rcases stepInto_error hraise with ⟨e', j, fd', rfl, -⟩ | ⟨s₂, hopen, -⟩
    · exact ⟨e', s₁, hraise⟩
    · have hask := Kernel.ask_of_ok (s := ⟨d, i⟩) (f := fun d => d.openDirectory fd part) hopens.1
        (Disk.openDirectory_ok.mpr ⟨rfl, hopens.2⟩)
      obtain ⟨e', hopen', -⟩ := raisingAs_error.mp hopen
      cases hopen'.symm.trans hask
  · obtain ⟨e', hopen⟩ := openDirectoryAt_missed hopens
    have hraise : close k fd ⟨d, i + 1⟩ = .error (.os e) ⟨d, i + 2⟩ := close_of_fault hfault
    exact ⟨e, ⟨d, i + 2⟩,
      reraising_error.mpr ⟨_, ⟨d, i + 1⟩, bind_error.mpr (.inl (raisingAs_error.mpr ⟨e', hopen, rfl⟩)), .inl hraise⟩⟩

theorem openBeneath_missed (h : WayEnds k d i fd parts) :
    ∃ message i', openBeneath k fd parts ⟨d, i⟩ = .error (.confined .failed message) ⟨d, i'⟩ := by
  induction parts generalizing i fd with
  | nil => exact h.elim
  | cons part parts ih =>
    obtain ⟨hclose, hrest⟩ := h
    by_cases hopens : k.fault i ⟨.openDirectory, fd ++ [part]⟩ = none ∧ d.node (fd ++ [part]) = some .directory
    · obtain ⟨message, i', hraise⟩ := ih (hrest hopens.1 hopens.2)
      exact ⟨message, i', bind_error.mpr (.inr ⟨_, _, nextOpened_ok hopens.1 hopens.2 hclose, hraise⟩)⟩
    · obtain ⟨message, hraise⟩ := nextOpened_missed hclose hopens
      exact ⟨message, i + 2, bind_error.mpr (.inl hraise)⟩

/-- Where no directory is missed and the last one is not opened, a close has failed. -/
theorem openBeneath_unclosed (hfd : d.isDirectory fd = true) (hmissed : ¬ WayEnds k d i fd parts)
    (hopens : ¬ (d.isDirectory (fd ++ parts) = true ∧ k.Lets i (openCalls fd parts))) :
    ∃ e s', openBeneath k fd parts ⟨d, i⟩ = .error (.os e) s' := by
  induction parts generalizing i fd with
  | nil =>
    rw [List.append_nil] at hopens
    exact absurd ⟨hfd, trivial⟩ hopens
  | cons part parts ih =>
    by_cases hclose : k.fault (i + 1) ⟨.close, fd⟩ = none
    · have hnext : k.fault i ⟨.openDirectory, fd ++ [part]⟩ = none ∧ d.node (fd ++ [part]) = some .directory ∧
          ¬ WayEnds k d (i + 2) (fd ++ [part]) parts := by
        simpa only [WayEnds, hclose, true_and, not_forall, exists_prop] using hmissed
      obtain ⟨hopen, hdir, hmissed'⟩ := hnext
      have hopens' : ¬ (d.isDirectory (fd ++ [part] ++ parts) = true ∧ k.Lets (i + 2) (openCalls (fd ++ [part]) parts)) := by
        rintro ⟨hlast, hlets⟩
        refine hopens ⟨?_, hopen, hclose, hlets⟩
        rwa [List.append_assoc, List.singleton_append] at hlast
      obtain ⟨e, s', hraise⟩ := ih (Disk.isDirectory_iff.mpr hdir) hmissed' hopens'
      exact ⟨e, s', bind_error.mpr (.inr ⟨_, _, nextOpened_ok hopen hdir hclose, hraise⟩)⟩
    · obtain ⟨e, s', hraise⟩ := nextOpened_unclosed hclose
      exact ⟨e, s', bind_error.mpr (.inl hraise)⟩

theorem openRoot_of_opens (hopen : k.fault i ⟨.openRoot, root⟩ = none) (hdir : d.isDirectory root = true) :
    openRoot k root ⟨d, i⟩ = .ok root ⟨d, i + 1⟩ :=
  raisingAs_ok.mpr (Kernel.ask_of_ok (s := ⟨d, i⟩) (f := fun d => if d.isDirectory root then .ok root else .error .noent) hopen
    (if_pos hdir))

theorem openRoot_missed (h : ¬ (k.fault i ⟨.openRoot, root⟩ = none ∧ d.isDirectory root = true)) :
    ∃ message, openRoot k root ⟨d, i⟩ = .error (.confined .failed message) ⟨d, i + 1⟩ := by
  refine ⟨"Storage root is unavailable.", raisingAs_error.mpr ?_⟩
  cases hfault : k.fault i ⟨.openRoot, root⟩ with
  | some e => exact ⟨e, Kernel.ask_of_fault hfault, rfl⟩
  | none =>
    have hdir : ¬ d.isDirectory root = true := fun hdir => h ⟨hfault, hdir⟩
    exact ⟨.noent, Kernel.ask_of_refused (s := ⟨d, i⟩) hfault (if_neg hdir), rfl⟩

/-- A parent that is missed is told by a `ConfinedFilesystemError`. -/
theorem openParent_missed (h : ParentMissed k d i root parts) :
    ∃ message i', openParent k root parts ⟨d, i⟩ = .error (.confined .failed message) ⟨d, i'⟩ := by
  by_cases hroot : k.fault i ⟨.openRoot, root⟩ = none ∧ d.isDirectory root = true
  · obtain ⟨message, i', hraise⟩ := openBeneath_missed (h hroot.1 hroot.2)
    exact ⟨message, i', bind_error.mpr (.inr ⟨_, _, openRoot_of_opens hroot.1 hroot.2, hraise⟩)⟩
  · obtain ⟨message, hraise⟩ := openRoot_missed hroot
    exact ⟨message, i + 1, bind_error.mpr (.inl hraise)⟩

theorem openParent_unclosed (hmissed : ¬ ParentMissed k d i root parts) (hopens : ¬ ParentOpens k d i root parts) :
    ∃ e s', openParent k root parts ⟨d, i⟩ = .error (.os e) s' := by
  have hroot : k.fault i ⟨.openRoot, root⟩ = none ∧ d.isDirectory root = true ∧ ¬ WayEnds k d (i + 1) root parts := by
    simpa only [ParentMissed, not_forall, exists_prop] using hmissed
  obtain ⟨hopen, hdir, hway⟩ := hroot
  obtain ⟨e, s', hraise⟩ := openBeneath_unclosed hdir hway fun h => hopens ⟨h.1, hopen, h.2⟩
  exact ⟨e, s', bind_error.mpr (.inr ⟨_, _, openRoot_of_opens hopen hdir, hraise⟩)⟩

/-! ## The purge -/

/-- `remove_confined_tree` once the path is read: the removal where the parent opens,
nothing at all where it is missed. -/
theorem removeConfinedTree_of_opens {path : String} {p : Path} (hpath : normalizedRelativePath path = .ok (p ++ [name]))
    (h : ParentOpens k d i root p) :
    removeConfinedTree k root path true ⟨d, i⟩ =
      closing k (root ++ p) (removeChildTree k (root ++ p) name true) ⟨d, i + (parentCalls root p).length⟩ := by
  have hopen := @openParentOf_of_opens k d i root (p ++ [name]) true
  rw [List.dropLast_concat] at hopen
  unfold removeConfinedTree
  rw [bind_of_ok (liftExcept_ok.mpr ⟨hpath, rfl⟩), bind_of_ok (hopen h)]
  dsimp only
  congr 1
  funext s
  exact bind_of_ok (lastPart_concat p name)

theorem removeConfinedTree_of_missed {path : String} {q : Path} (hpath : normalizedRelativePath path = .ok q)
    (h : ParentMissed k d i root q.dropLast) : ∃ i', removeConfinedTree k root path true ⟨d, i⟩ = .ok () ⟨d, i'⟩ := by
  obtain ⟨message, i', hraise⟩ := openParent_missed h
  have hopen : openParentOf k root q true ⟨d, i⟩ = .ok none ⟨d, i'⟩ := by
    unfold openParentOf
    rw [except_of_caught (bind_error.mpr (.inl hraise)) rfl]
    rfl
  refine ⟨i', ?_⟩
  unfold removeConfinedTree
  rw [bind_of_ok (liftExcept_ok.mpr ⟨hpath, rfl⟩), bind_of_ok hopen]
  rfl

theorem removeConfinedTree_of_unclosed {path : String} {q : Path} (hpath : normalizedRelativePath path = .ok q)
    (hmissed : ¬ ParentMissed k d i root q.dropLast) (hopens : ¬ ParentOpens k d i root q.dropLast) :
    ∃ r s', removeConfinedTree k root path true ⟨d, i⟩ = .error r s' := by
  obtain ⟨e, s', hraise⟩ := openParent_unclosed hmissed hopens
  refine ⟨.os e, s', ?_⟩
  unfold removeConfinedTree
  rw [bind_of_ok (liftExcept_ok.mpr ⟨hpath, rfl⟩)]
  refine bind_error.mpr (.inl ?_)
  unfold openParentOf
  exact except_of_uncaught (bind_error.mpr (.inl hraise)) rfl

/-- A path without a component has no last one. -/
theorem removeConfinedTree_of_empty {path : String} (hpath : normalizedRelativePath path = .ok [])
    (h : ParentOpens k d i root []) : ∃ r s', removeConfinedTree k root path true ⟨d, i⟩ = .error r s' := by
  have hopen := @openParentOf_of_opens _ _ _ _ [] true h
  unfold removeConfinedTree
  rw [bind_of_ok (liftExcept_ok.mpr ⟨hpath, rfl⟩), bind_of_ok hopen]
  cases hclose : close k root ⟨d, i + (parentCalls root []).length⟩ with
  | ok u s' => exact ⟨.index, s', ensuring_error.mpr (.inr (.inl ⟨_, rfl, by simpa using hclose⟩))⟩
  | error r s' => exact ⟨r, s', ensuring_error.mpr (.inr (.inr ⟨.index, _, rfl, by simpa using hclose⟩))⟩

/-- Nothing keeps the item from being purged before its mount is looked at. -/
structure PurgeAdmitted (env : ActionEnv) (resolveMount : String → Option ActionMount) (item : TrashItem)
    (storage : ActionMount) : Prop where
  trashed : item.restoreStatus = .trashed
  mount : itemMount resolveMount item = some storage
  access : WriteAccess env storage

/-- What the removal is given: the stored path, trimmed. -/
def purgedParts (path : String) : Except Raised Path := normalizeRelativePath path >>= normalizedRelativePath

/-- An item that is marked as purged has no entry left at its path. -/
def PurgedMeansGone (k : Kernel) (env : ActionEnv) (resolveMount : String → Option ActionMount) (item : TrashItem)
    (d : Disk Bytes) (i : Nat) : Prop :=
  ∀ item' s', purgeTrashItem k env resolveMount item ⟨d, i⟩ = .ok item' s' → item'.restoreStatus = .purged →
    ∀ storage, itemMount resolveMount item = some storage →
      s'.disk.node (storage.root ++ Text.posixParts item.trashPath) = none

/-- When that is so: the purge gets as far as the removal only where nothing lies at the
path; or where no directory above the trimmed path is missed, and, if they all open, this
path is the item's or above it or a later call of the removal fails. -/
def PurgeRemoves (k : Kernel) (env : ActionEnv) (resolveMount : String → Option ActionMount) (item : TrashItem)
    (d : Disk Bytes) (i : Nat) : Prop :=
  ∀ storage q, PurgeAdmitted env resolveMount item storage → k.fault i ⟨.openRoot, storage.root⟩ = none →
    d.isDirectory storage.root = true → purgedParts item.trashPath = .ok q →
    d.node (storage.root ++ Text.posixParts item.trashPath) = none ∨
    ¬ ParentMissed k d (i + 1) storage.root q.dropLast ∧
      (ParentOpens k d (i + 1) storage.root q.dropLast →
        q <+: Text.posixParts item.trashPath ∨
        ¬ k.Lets (i + 1 + (parentCalls storage.root q.dropLast).length)
          (closedRemovalCalls k d (i + 1 + (parentCalls storage.root q.dropLast).length) (storage.root ++ q.dropLast)
            (q.getLastD "")))

section
variable {env : ActionEnv} {resolveMount : String → Option ActionMount} {item item' : TrashItem} {storage : ActionMount}

/-- A purge that ends: it was admitted, the root opened, and the removal ended. -/
theorem purgeTrashItem_ok : purgeTrashItem k env resolveMount item ⟨d, i⟩ = .ok item' s' ↔
    ∃ storage t, PurgeAdmitted env resolveMount item storage ∧ k.fault i ⟨.openRoot, storage.root⟩ = none ∧
      d.isDirectory storage.root = true ∧ normalizeRelativePath item.trashPath = .ok t ∧
      removeConfinedTree k storage.root t true ⟨d, i + 1⟩ = .ok () s' ∧ item' = { item with restoreStatus := .purged } := by
  unfold purgeTrashItem
  constructor
  · intro h
    obtain ⟨htrashed, h⟩ := unlessRaise_bind_ok.mp h
    obtain ⟨storage, s₁, hmount, h⟩ := bind_ok.mp h
    obtain ⟨hmount', rfl⟩ := storageForTrashItem_ok.mp hmount
    obtain ⟨u, s₂, haccess, h⟩ := bind_ok.mp h
    obtain ⟨haccess', rfl⟩ := requireStorageWriteAccess_ok.mp haccess
    obtain ⟨root, s₃, hroot, h⟩ := bind_ok.mp h
    obtain ⟨rfl, hfault, hdir, rfl⟩ := storageRoot_ok.mp hroot
    obtain ⟨t, s₄, hparts, h⟩ := bind_ok.mp h
    obtain ⟨ht, rfl⟩ := liftExcept_ok.mp hparts
    obtain ⟨u', s₅, hremove, h⟩ := bind_ok.mp h
    obtain ⟨rfl, rfl⟩ := pure_ok.mp h
    exact ⟨storage, t, ⟨of_decide_eq_true htrashed, hmount', haccess'⟩, hfault, hdir, ht,
      exceptConfined_raise_ok.mp hremove, rfl⟩
  · rintro ⟨storage, t, hadmitted, hfault, hdir, ht, hremove, rfl⟩
    refine unlessRaise_bind_ok.mpr ⟨decide_eq_true hadmitted.trashed, ?_⟩
    rw [bind_of_ok (storageForTrashItem_ok.mpr ⟨hadmitted.mount, rfl⟩),
      bind_of_ok (requireStorageWriteAccess_ok (u := ()) |>.mpr ⟨hadmitted.access, rfl⟩),
      bind_of_ok (storageRoot_ok.mpr ⟨rfl, hfault, hdir, rfl⟩), bind_of_ok (liftExcept_ok.mpr ⟨ht, rfl⟩),
      bind_of_ok (exceptConfined_raise_ok.mpr hremove)]
    rfl

theorem purgedParts_ok {path : String} {q : Path} :
    purgedParts path = .ok q ↔ ∃ t, normalizeRelativePath path = .ok t ∧ normalizedRelativePath t = .ok q :=
  except_bind_ok

/-- What a removal leaves at a path, where it ends. -/
theorem removeConfinedTree_leaves {t : String} {q p : Path} (hq : normalizedRelativePath t = .ok q) :
    (∀ s', removeConfinedTree k root t true ⟨d, i⟩ = .ok () s' → s'.disk.node (root ++ p) = none) ↔
      d.node (root ++ p) = none ∨ ¬ ParentMissed k d i root q.dropLast ∧ (ParentOpens k d i root q.dropLast →
        q <+: p ∨ ¬ k.Lets (i + (parentCalls root q.dropLast).length)
          (closedRemovalCalls k d (i + (parentCalls root q.dropLast).length) (root ++ q.dropLast) (q.getLastD ""))) := by
  by_cases hmissed : ParentMissed k d i root q.dropLast
  · obtain ⟨i', hrun⟩ := removeConfinedTree_of_missed hq hmissed
    rw [hrun]
    simp only [hmissed, not_true_eq_false, false_and, or_false]
    constructor
    · exact fun h => h _ rfl
    · rintro h s' ⟨⟩
      exact h
  simp only [hmissed, not_false_eq_true, true_and]
  by_cases hopens : ParentOpens k d i root q.dropLast
  · simp only [hopens, forall_const]
    induction q using List.reverseRecOn with
    | nil =>
      obtain ⟨r, s', hraise⟩ := removeConfinedTree_of_empty hq hopens
      simp [hraise]
    | append_singleton q name _ =>
      rw [List.dropLast_concat] at hopens
      rw [List.dropLast_concat, List.getLastD_concat, removeConfinedTree_of_opens hq hopens]
      have hrun : Performs k (closing k (root ++ q) (removeChildTree k (root ++ q) name true))
          ⟨d, i + (parentCalls root q).length⟩ (closedRemovalCalls k d (i + (parentCalls root q).length) (root ++ q) name) ()
          (d.prune (root ++ q) name) := Performs.ensuring removeChildTree_performs close_performs
      by_cases hlets : k.Lets (i + (parentCalls root q).length)
          (closedRemovalCalls k d (i + (parentCalls root q).length) (root ++ q) name)
      · rw [hrun.ok hlets]
        simp only [hlets, not_true_eq_false, or_false]
        constructor
        · intro h
          have hgone := h _ rfl
          simp only [Disk.node_prune, List.append_assoc, List.prefix_append_right_inj] at hgone
          by_cases hpre : q ++ [name] <+: p
          · exact .inr hpre
          · rw [if_neg hpre] at hgone
            exact .inl hgone
        · rintro hwhy s' ⟨⟩
          simp only [Disk.node_prune, List.append_assoc, List.prefix_append_right_inj]
          split
          · rfl
          · rename_i hpre
            exact hwhy.resolve_right hpre
      · obtain ⟨r, s', hraise⟩ := hrun.raised hlets
        simp [hraise, hlets]
  · obtain ⟨r, s', hraise⟩ := removeConfinedTree_of_unclosed hq hmissed hopens
    simp [hraise, hopens]

/-- A purge means that the entry is gone exactly when it removes it. -/
theorem purgedMeansGone_iff : PurgedMeansGone k env resolveMount item d i ↔ PurgeRemoves k env resolveMount item d i := by
  constructor
  · intro h storage q hadmitted hfault hdir hparts
    obtain ⟨t, ht, hq⟩ := purgedParts_ok.mp hparts
    refine (removeConfinedTree_leaves hq).mp fun s' hremove => ?_
    exact h _ s' (purgeTrashItem_ok.mpr ⟨storage, t, hadmitted, hfault, hdir, ht, hremove, rfl⟩) rfl storage hadmitted.mount
  · intro h item' s' hpurge _ storage hmount
    obtain ⟨storage', t, hadmitted, hfault, hdir, ht, hremove, rfl⟩ := purgeTrashItem_ok.mp hpurge
    have hsame : storage' = storage := Option.some.inj (hadmitted.mount.symm.trans hmount)
    subst hsame
    cases hq : normalizedRelativePath t with
    | error r =>
      unfold removeConfinedTree at hremove
      rw [hq] at hremove
      cases hremove
    | ok q =>
      exact (removeConfinedTree_leaves hq).mpr (h storage' q hadmitted hfault hdir (purgedParts_ok.mpr ⟨t, ht, hq⟩)) s' hremove

end

def trashedDisk : Disk Bytes :=
  (((Disk.empty.plant [] ".trash" .directory).plant [".trash"] "pve-helper" .directory).plant [".trash", "pve-helper"] "T0"
    .directory).plant [".trash", "pve-helper", "T0"] "disk.raw" (.file [1])

def trashedItem : TrashItem :=
  ⟨"disk.raw", ".trash/pve-helper/T0/disk.raw", some trashMount, "nas", "nas", .trashed⟩

/-- No directory below a root can be opened: `EACCES`. -/
def closedTrash : Kernel :=
  .failing (fun _ c => if c.kind = .openDirectory then some (.other 13) else none) (by
    intro i c e h _
    split at h
    · cases h
      rfl
    · cases h)

/-- The file's directory cannot be opened; the item is marked as purged and the file is there. -/
theorem unopened_parent_purged : ¬ PurgedMeansGone closedTrash quietEnv (fun _ => none) trashedItem trashedDisk 0 := by
  intro h
  have hread : normalizeRelativePath trashedItem.trashPath = .ok trashedItem.trashPath := by rfl
  have hparts : normalizedRelativePath trashedItem.trashPath =
      .ok [".trash", "pve-helper", "T0", "disk.raw"] := by rfl
  have hmissed : ParentMissed closedTrash trashedDisk 1 trashMount.root [".trash", "pve-helper", "T0"] :=
    fun _ _ => ⟨rfl, fun hopen => by cases hopen⟩
  obtain ⟨i', hrun⟩ := removeConfinedTree_of_missed hparts hmissed
  have hgone := h _ _ (purgeTrashItem_ok.mpr
    ⟨trashMount, _, ⟨rfl, rfl, ⟨rfl, rfl, rfl⟩⟩, rfl, by decide, hread, hrun, rfl⟩) rfl trashMount rfl
  have hthere : trashedDisk.node (trashMount.root ++ Text.posixParts trashedItem.trashPath) = some (.file [1]) := by decide
  cases hthere.symm.trans hgone

end PveHelper.Files
