/-
What a folder's upload leaves. What was made so far is always known from the local variables
at that moment, so that undoing it takes away all of it and nothing else: an upload that is
refused leaves the tree as it found it, and one that ends has added its files and the
directories that they are in.
-/
import PveHelper.Files.FolderUpload

namespace PveHelper.Files

open Lib

variable {k : Kernel} {env : ActionEnv} {d d₁ d' : Disk Bytes} {root : Path} {name path stopAt : String}
  {p q : List String}

/-! ## Plain paths -/

/-- A path of names that can be opened, none with a blank at its ends. -/
structure PlainPath (path : String) (p : List String) : Prop where
  text : path = Posix.asPosix p
  names : ∀ n ∈ p, ConfinedName n
  trimmed : ∀ n ∈ p, Trimmed n

namespace PlainPath

theorem isNames (h : PlainPath path p) : ∀ n ∈ p, Posix.IsName n := fun n hn => (h.names n hn).toIsName

theorem fileNames (h : PlainPath path p) : ∀ n ∈ p, FileName n := fun n hn => (h.names n hn).toFileName

theorem parts (h : PlainPath path p) : Text.posixParts path = p := by
  rw [h.text, Posix.posixParts_asPosix h.isNames]

theorem read (h : PlainPath path p) (hne : p ≠ []) : normalizedRelativePath path = .ok p := by
  rw [h.text, normalizedRelativePath_asPosix h.names hne]

theorem trimmedText (h : PlainPath path p) : Trimmed (Posix.asPosix p) := by
  rw [trimmed_iff]
  constructor
  · cases p with
    | nil => simp [Posix.asPosix, Posix.joined]
    | cons n p =>
      rw [head_asPosix (h.isNames n List.mem_cons_self)]
      exact (trimmed_iff.mp (h.trimmed n List.mem_cons_self)).1
  · cases p using List.reverseRecOn with
    | nil => simp [Posix.asPosix, Posix.joined]
    | append_singleton p n =>
      rw [last_asPosix (h.isNames n (by simp))]
      exact (trimmed_iff.mp (h.trimmed n (by simp))).2

theorem above (h : PlainPath path p) (hq : q <+: p) : PlainPath (Posix.asPosix q) q :=
  ⟨rfl, fun n hn => h.names n (hq.subset hn), fun n hn => h.trimmed n (hq.subset hn)⟩

theorem parent (h : PlainPath path p) : parentRelative path = .ok (Posix.asPosix p.dropLast) := by
  rw [h.text, parentRelative_asPosix h.fileNames h.trimmedText]

theorem join (h : PlainPath path p) (hname : FileName name) :
    joinRelative path name = .ok (Posix.asPosix (p ++ [name])) := by
  rw [h.text, joinRelative_asPosix h.fileNames h.trimmedText hname]

end PlainPath

/-! ## What is made -/

/-- What an upload has made, at paths that were free. -/
structure Made (d : Disk Bytes) (files dirs : List Path) (d' : Disk Bytes) : Prop where
  node : ∀ q, d'.node q = d.node q ∨ (∃ content, d'.node q = some (.file content)) ∧ q ∈ files ∨
    d'.node q = some .directory ∧ q ∈ dirs
  free : ∀ q, q ∈ files ∨ q ∈ dirs → d.node q = none
  apart : ∀ q ∈ files, d'.node q ≠ some .directory

namespace Made

variable {files dirs : List Path} {t : Path}

theorem refl (d : Disk Bytes) : Made d [] [] d := ⟨fun q => .inl rfl, by simp, by simp⟩

theorem grows (h : Made d files dirs d') : d.Grows d' := by
  intro q hq
  have hnot : ¬ (q ∈ files ∨ q ∈ dirs) := fun hmem => by
    rw [h.free q hmem] at hq
    cases hq
  rcases h.node q with hsame | ⟨-, hmem⟩ | ⟨-, hmem⟩
  · exact hsame
  · exact absurd (.inl hmem) hnot
  · exact absurd (.inr hmem) hnot

theorem unmade (h : Made d [] [] d') : d' = d := by
  refine Disk.ext fun q => ?_
  rcases h.node q with hsame | ⟨-, hmem⟩ | ⟨-, hmem⟩
  · exact hsame
  · cases hmem
  · cases hmem

/-- Only which paths are recorded matters. -/
theorem of_mem {files' dirs' : List Path} (h : Made d files dirs d') (hfiles : ∀ q, q ∈ files' ↔ q ∈ files)
    (hdirs : ∀ q, q ∈ dirs' ↔ q ∈ dirs) : Made d files' dirs' d' := by
  constructor
  · intro q
    rw [hfiles, hdirs]
    exact h.node q
  · intro q hq
    rw [hfiles, hdirs] at hq
    exact h.free q hq
  · intro q hq
    exact h.apart q ((hfiles q).mp hq)

theorem clearFile (h : Cleared (Made d (t :: files) dirs) t d') : Made d files dirs d' := by
  obtain ⟨d₁, hmade, hnode⟩ := h
  refine ⟨fun q => ?_, fun q hq => hmade.free q (hq.imp_left (List.mem_cons_of_mem _)), fun q hq => ?_⟩
  · rw [hnode]
    split
    · rename_i hq
      exact .inl (by rw [hq, hmade.free t (.inl List.mem_cons_self)])
    · rename_i hq
      rcases hmade.node q with hsame | ⟨hfile, hmem⟩ | hdir
      · exact .inl hsame
      · exact .inr (.inl ⟨hfile, (List.mem_cons.mp hmem).resolve_left hq⟩)
      · exact .inr (.inr hdir)
  · rw [hnode]
    split
    · nofun
    · exact hmade.apart q (List.mem_cons_of_mem _ hq)

theorem clearDirectory (h : Cleared (Made d [] (t :: dirs)) t d') : Made d [] dirs d' := by
  obtain ⟨d₁, hmade, hnode⟩ := h
  refine ⟨fun q => ?_, fun q hq => hmade.free q (hq.imp_right (List.mem_cons_of_mem _)), by simp⟩
  rw [hnode]
  split
  · rename_i hq
    exact .inl (by rw [hq, hmade.free t (.inr List.mem_cons_self)])
  · rename_i hq
    rcases hmade.node q with hsame | hfile | ⟨hdir, hmem⟩
    · exact .inl hsame
    · exact .inr (.inl hfile)
    · exact .inr (.inr ⟨hdir, (List.mem_cons.mp hmem).resolve_left hq⟩)

/-- With no files left, the deepest directory is empty. -/
theorem leaf (h : Made d [] (t :: dirs) d') (hdeep : ∀ q ∈ dirs, q.length ≤ t.length) :
    d'.node t = none ∨ d'.node t = some .directory ∧ d'.children t = ∅ := by
  have hfree := h.free t (.inr List.mem_cons_self)
  rcases h.node t with hsame | ⟨-, hmem⟩ | ⟨hdir, -⟩
  · exact .inl (hsame.trans hfree)
  · cases hmem
  · refine .inr ⟨hdir, Disk.children_eq_empty.mpr fun n => ?_⟩
    rcases h.node (t ++ [n]) with hsame | ⟨-, hmem⟩ | ⟨-, hmem⟩
    · rw [hsame, Disk.node_below_free hfree]
    · cases hmem
    · have hlen : (t ++ [n]).length ≤ t.length := by
        rcases List.mem_cons.mp hmem with heq | hmem
        · rw [heq]
        · exact hdeep _ hmem
      rw [List.length_append, List.length_singleton] at hlen
      omega

/-- A file that was written, at a path that is recorded. -/
theorem written {data : Bytes} (h : Made d files dirs d₁) (hw : Written d₁ t data d') :
    Made d (t :: files) dirs d' := by
  have hfree : d.node t = none := by
    by_contra hthere
    have hsame := h.grows t (Option.isSome_iff_ne_none.mpr hthere)
    rw [hw.free] at hsame
    exact hthere hsame.symm
  refine ⟨fun q => ?_, fun q hq => ?_, fun q hq => ?_⟩
  · rw [hw.node]
    split
    · rename_i hq
      exact .inr (.inl ⟨⟨_, rfl⟩, hq ▸ List.mem_cons_self⟩)
    · exact (h.node q).imp_right fun hmade => hmade.imp_left fun hfile => ⟨hfile.1, List.mem_cons_of_mem _ hfile.2⟩
  · rcases hq with hq | hq
    · rcases List.mem_cons.mp hq with rfl | hq
      · exact hfree
      · exact h.free q (.inl hq)
    · exact h.free q (.inr hq)
  · rw [hw.node]
    split
    · nofun
    · rename_i hne
      exact h.apart q ((List.mem_cons.mp hq).resolve_left hne)

/-- A path is recorded before there is anything at it. -/
theorem record (h : Made d files dirs d') (hfree : d'.node t = none) : Made d (t :: files) dirs d' := by
  have hfree' : d.node t = none := by
    by_contra hthere
    have hsame := h.grows t (Option.isSome_iff_ne_none.mpr hthere)
    rw [hfree] at hsame
    exact hthere hsame.symm
  refine ⟨fun q => (h.node q).imp_right fun hmade => hmade.imp_left fun hfile =>
    ⟨hfile.1, List.mem_cons_of_mem _ hfile.2⟩,
    fun q hq => ?_, fun q hq => ?_⟩
  · rcases hq with hq | hq
    · rcases List.mem_cons.mp hq with rfl | hq
      · exact hfree'
      · exact h.free q (.inl hq)
    · exact h.free q (.inr hq)
  · rcases List.mem_cons.mp hq with rfl | hq
    · rw [hfree]
      nofun
    · exact h.apart q hq

/-- Directories that were missing are recorded, and then they are made. -/
theorem grow {more : List Path} (h : Made d files dirs d₁) (hthere : ∀ q ∈ files, (d₁.node q).isSome = true)
    (hmore : ∀ q ∈ more, d₁.node q = none) (hgrows : Disk.GrowsTo t d₁ d')
    (hall : ∀ q, q <+: t → d₁.node q = none → d'.node q = some .directory → q ∈ dirs ∨ q ∈ more) :
    Made d files (dirs ++ more) d' := by
  refine ⟨fun q => ?_, fun q hq => ?_, fun q hq => ?_⟩
  · rcases hgrows q with hsame | ⟨hnone, hdir, hpre⟩
    · rw [hsame]
      exact (h.node q).imp_right fun hmade => hmade.imp_right fun hdir => ⟨hdir.1, List.mem_append_left _ hdir.2⟩
    · exact .inr (.inr ⟨hdir, List.mem_append.mpr (hall q hpre hnone hdir)⟩)
  · rw [List.mem_append, ← or_assoc] at hq
    rcases hq with hq | hq
    · exact h.free q hq
    · by_contra hthere
      have hsame := h.grows q (Option.isSome_iff_ne_none.mpr hthere)
      rw [hmore q hq] at hsame
      exact hthere hsame.symm
  · rcases hgrows q with hsame | ⟨hnone, -, -⟩
    · rw [hsame]
      exact h.apart q hq
    · have := hthere q hq
      rw [hnone] at this
      cases this

end Made

/-! ## Undoing -/

section
variable (hk : AcceptsRemovals k)
include hk

/-- An empty directory is taken away, where it was there. -/
theorem removeConfinedEmptyDirectory_clears {P : Disk Bytes → Prop} (hpath : normalizedRelativePath path = .ok p)
    (hne : p ≠ [])
    (hleaf : ∀ d', P d' → d'.node (root ++ p) = none ∨ d'.node (root ++ p) = some .directory ∧
      d'.children (root ++ p) = ∅) :
    Triple (On P) (removeConfinedEmptyDirectory k root path true) (fun _ => On (Cleared P (root ++ p))) fun _ _ =>
      False := by
  obtain ⟨q, name, rfl⟩ : ∃ q name, p = q ++ [name] := ⟨_, _, (List.dropLast_append_getLast hne).symm⟩
  rw [← List.append_assoc] at hleaf ⊢
  refine Triple.bind (liftExcept_known hpath) fun parts => Triple.of_pure fun hparts => ?_
  subst hparts
  refine Triple.bind (openParentOf_refused hk) fun fd => Triple.of_pure fun hfd => ?_
  rw [List.dropLast_concat] at hfd ⊢
  cases fd with
  | none =>
    refine Triple.pure fun s hs => Cleared.of_free hs.1 ?_
    by_contra hthere
    have hdir := s.disk.holder (root ++ q) name (Option.isSome_iff_ne_none.mpr hthere)
    rw [← Disk.isDirectory_iff, hs.2 rfl] at hdir
    cases hdir
  | some fd =>
    rw [hfd fd rfl]
    refine Triple.ensuring (M := fun _ => On (Cleared P (root ++ q ++ [name]))) (F := fun _ _ => False) ?_
      (fun _ => hk.close_triple fun _ _ h => h) fun _ => hk.close_triple fun _ _ h => h
    refine Triple.bind lastPart_known fun name' => Triple.of_pure fun hname => ?_
    subst hname
    refine Triple.except (F := fun r s => r = .os .noent ∧ On (Cleared P (root ++ q ++ [name'])) s) ?_
      (fun r m hm => ?_) fun r s hr hs => ?_
    · refine Triple.raisingAs (Kernel.act_accepted hk.calls (by simp) (fun s d' i hs hrmdir => ?_)
        fun s e i hs hrmdir => ?_)
      · exact ⟨s.disk, hs.1, (Disk.rmdir_ok.mp hrmdir).2.2⟩
      · rcases hleaf s.disk hs.1 with hfree | ⟨hdir, hempty⟩
        · rw [Disk.rmdir, hfree] at hrmdir
          cases hrmdir
          exact ⟨rfl, Cleared.of_free hs.1 hfree⟩
        · rw [Disk.rmdir_prune hdir hempty] at hrmdir
          cases hrmdir
    · split at hm
      · split at hm <;> cases hm
        · exact Triple.pure fun s hs => hs.2
        · refine Triple.of_pure fun he => ?_
          cases he
          exact absurd rfl ‹¬ _›
      · cases hm
    · obtain ⟨rfl, -⟩ := hs
      cases hr

/-- The path of a text below the root. -/
abbrev place (root : Path) (path : String) : Path := root ++ Text.posixParts path

theorem removeFiles_triple {paths : List String} {files dirs : List Path}
    (hplain : ∀ path ∈ paths, ∃ p, PlainPath path p ∧ p ≠ []) :
    Triple (On (Made d (paths.map (place root) ++ files) dirs))
      (paths.forM fun path => removeConfinedFile k root path true)
      (fun _ => On (Made d files dirs)) fun _ _ => False := by
  induction paths with
  | nil => exact Triple.pure fun s hs => hs
  | cons path paths ih =>
    obtain ⟨p, hp, hne⟩ := hplain path List.mem_cons_self
    have hremove : Triple (On (Made d (place root path :: (paths.map (place root) ++ files)) dirs))
        (removeConfinedFile k root path true) (fun _ => On (Made d (paths.map (place root) ++ files) dirs))
        fun _ _ => False := by
      refine (removeConfinedFile_clears hk (hp.read hne) hne fun d' hmade x hx => ?_).weaken (fun _ h => h)
        (fun _ s hs => ?_) fun _ _ h => h
      · rw [← hp.parts] at hx
        have hapart := hmade.apart (place root path) List.mem_cons_self
        cases x with
        | directory => exact absurd hx hapart
        | _ => rfl
      · rw [← hp.parts] at hs
        exact Made.clearFile hs
    exact Triple.bind hremove fun _ => ih fun path' hmem => hplain path' (List.mem_cons_of_mem _ hmem)

theorem removeDirectories_triple {paths : List String} (hplain : ∀ path ∈ paths, ∃ p, PlainPath path p ∧ p ≠ [])
    (hdeep : paths.Pairwise fun a b => (Text.posixParts b).length ≤ (Text.posixParts a).length) :
    Triple (On (Made d [] (paths.map (place root))))
      (paths.forM fun path => removeConfinedEmptyDirectory k root path true)
      (fun _ => On (Made d [] [])) fun _ _ => False := by
  induction paths with
  | nil => exact Triple.pure fun s hs => hs
  | cons path paths ih =>
    obtain ⟨p, hp, hne⟩ := hplain path List.mem_cons_self
    obtain ⟨hfirst, hrest⟩ := List.pairwise_cons.mp hdeep
    have hremove : Triple (On (Made d [] (place root path :: paths.map (place root))))
        (removeConfinedEmptyDirectory k root path true) (fun _ => On (Made d [] (paths.map (place root))))
        fun _ _ => False := by
      refine (removeConfinedEmptyDirectory_clears hk (hp.read hne) hne fun d' hmade => ?_).weaken (fun _ h => h)
        (fun _ s hs => ?_) fun _ _ h => h
      · rw [← hp.parts]
        refine hmade.leaf fun q hq => ?_
        obtain ⟨path', hmem, rfl⟩ := List.mem_map.mp hq
        have := hfirst path' hmem
        simp only [place, List.length_append]
        omega
      · rw [← hp.parts] at hs
        exact Made.clearDirectory hs
    exact Triple.bind hremove fun _ => ih (fun path' hmem => hplain path' (List.mem_cons_of_mem _ hmem)) hrest

/-- Undoing takes away what was made, and nothing else. -/
theorem undoFolderUpload_triple {order : SetOrder} {v : UploadLocals}
    (hplain : ∀ path, path ∈ v.tempRelative ∨ path ∈ v.writtenPaths ∨ path ∈ v.createdDirs → ∃ p, PlainPath path p ∧
    p ≠ []) :
    Triple (On (Made d (v.tempRelative.toList.map (place root) ++ v.writtenPaths.map (place root))
      (v.createdDirs.map (place root)))) (undoFolderUpload k order root v) (fun _ => On (· = d)) fun _ _ => False := by
  refine Triple.bind (removeFiles_triple hk fun path hmem => hplain path (.inl (by simpa using hmem))) fun _ => ?_
  rw [← List.append_nil (v.writtenPaths.map (place root))]
  refine Triple.bind (removeFiles_triple hk fun path hmem => hplain path (.inr (.inl hmem))) fun _ => ?_
  have hmem : ∀ path, path ∈ deepestFirst (order.list v.createdDirs) ↔ path ∈ v.createdDirs := fun path => by
    rw [deepestFirst, List.mem_mergeSort, (order.perm _).mem_iff]
  refine (removeDirectories_triple hk (fun path hpath => hplain path (.inr (.inr ((hmem path).mp hpath)))) ?_).weaken
    (fun s hs => hs.of_mem (fun q => Iff.rfl) fun q => ?_) (fun _ s hs => hs.unmade) fun _ _ h => h
  · have hsorted : (deepestFirst (order.list v.createdDirs)).Pairwise fun a b =>
        decide ((Text.posixParts b).length ≤ (Text.posixParts a).length) = true := by
      refine List.pairwise_mergeSort (fun a b c hab hbc => ?_) (fun a b => ?_) _
      · simp only [decide_eq_true_eq] at hab hbc ⊢
        omega
      · simp only [Bool.or_eq_true, decide_eq_true_eq]
        omega
    exact hsorted.imp fun h => of_decide_eq_true h
  · simp only [List.mem_map, hmem]

end

/-! ## Directories on the way -/

/-- Nothing but directories on the way is made. -/
theorem createConfinedDirectories_growsTo :
    Maintains (GrownTo (root ++ Text.posixParts path)) (createConfinedDirectories k root path) := by
  cases hp : normalizedRelativePath path with
  | ok p =>
    rw [← parts_of_normalized hp]
    exact createConfinedDirectories_grownTo hp
  | error r =>
    refine Maintains.bind_of_ok ((liftExcept_sameDisk _).mono sameDisk_grownTo) fun s parts s' hparts => ?_
    rw [(liftExcept_ok.mp hparts).1] at hp
    cases hp

section
variable (hk : AcceptsRemovals k)
include hk

/-- What is looked at is what is there. -/
theorem confinedEntryStat_known {P : Disk Bytes → Prop} (hpath : normalizedRelativePath path = .ok p) (hne : p ≠ []) :
    Triple (On P) (confinedEntryStat k root path) (fun x s => x = s.disk.node (root ++ p) ∧ On P s) fun _ _ =>
    False := by
  obtain ⟨q, name, rfl⟩ : ∃ q name, p = q ++ [name] := ⟨_, _, (List.dropLast_append_getLast hne).symm⟩
  rw [← List.append_assoc]
  refine Triple.bind (liftExcept_known hpath) fun parts => Triple.of_pure fun hparts => ?_
  subst hparts
  rw [List.dropLast_concat]
  refine Triple.bind (Q := fun fd s => (∀ fd', fd = some fd' → fd' = root ++ q) ∧ On P s ∧
    (fd = none → s.disk.isDirectory (root ++ q) = false)) ?_ fun fd => Triple.of_pure fun hfd => ?_
  · refine Triple.except (F := fun r => On fun d' => (∃ message, r = .confined .failed message) ∧ P d' ∧
      d'.isDirectory (root ++ q) = false) ?_ (fun r m hm => ?_) fun r s hr hs => ?_
    · refine Triple.bind (openParent_refused hk) fun fd => Triple.of_pure fun hfd => Triple.pure fun s hs => ?_
      refine ⟨fun fd' hfd' => ?_, hs, fun hnone => ?_⟩
      · cases hfd'
        exact hfd
      · cases hnone
    · split at hm
      · cases hm
        refine Triple.pure fun s hs => ⟨fun fd' hfd' => ?_, hs.2.1, fun _ => hs.2.2⟩
        cases hfd'
      · cases hm
    · obtain ⟨⟨message, rfl⟩, -⟩ := hs
      cases hr
  cases fd with
  | none =>
    refine Triple.pure fun s hs => ⟨?_, hs.1⟩
    by_contra hthere
    have hdir := s.disk.holder (root ++ q) name (Option.isSome_iff_ne_none.mpr (Ne.symm hthere))
    rw [← Disk.isDirectory_iff, hs.2 rfl] at hdir
    cases hdir
  | some fd =>
    rw [hfd fd rfl]
    refine Triple.ensuring (M := fun x s => x = s.disk.node (root ++ q ++ [name]) ∧ On P s) (F := fun _ _ => False) ?_
      (fun _ => hk.close_triple fun _ _ h => h) fun _ => hk.close_triple fun _ _ h => h
    refine Triple.bind lastPart_known fun name' => Triple.of_pure fun hname => ?_
    subst hname
    refine Triple.except (F := fun r s => (∃ e, r = .os e) ∧ s.disk.node (root ++ q ++ [name']) = none ∧ On P s) ?_
      (fun r m hm => ?_) fun r s hr hs => ?_
    · refine Triple.bind (Q := fun x s => s.disk.node (root ++ q ++ [name']) = some x ∧ On P s) ?_ fun x =>
        Triple.pure fun s hs => ⟨hs.1.symm, hs.2⟩
      refine Triple.raisingAs
        (Kernel.ask_accepted hk.calls (by simp) (fun s x i hs hstat => ?_) fun s e i hs hstat => ?_)
      · exact ⟨Disk.stat_ok.mp hstat, hs.1⟩
      · exact ⟨⟨e, rfl⟩, (Disk.stat_error.mp hstat).2, hs.1⟩
    · split at hm <;> cases hm
      exact Triple.pure fun s hs => ⟨hs.2.1.symm, hs.2.2⟩
    · obtain ⟨⟨e, rfl⟩, -⟩ := hs
      cases hr

/-- The directories that are recorded as missing are those that are. -/
structure Missing (d : Disk Bytes) (root : Path) (p : List String) (missing : List String) : Prop where
  recorded : ∀ c ∈ missing, ∃ q, q ≠ [] ∧ q <+: p ∧ c = Posix.asPosix q ∧ d.node (root ++ q) = none
  complete : ∀ q, q ≠ [] → q <+: p → d.node (root ++ q) = none → Posix.asPosix q ∈ missing

omit hk in
/-- Where something is there, all above it is. -/
theorem Missing.nil (h : p = [] ∨ (d.node (root ++ p)).isSome = true) : Missing d root p [] := by
  refine ⟨by simp, fun q hq hpre hnone => ?_⟩
  exfalso
  rcases h with rfl | hthere
  · exact hq (List.prefix_nil.mp hpre)
  · obtain ⟨r, rfl⟩ := hpre
    rw [← List.append_assoc, Disk.node_below_free hnone] at hthere
    cases hthere

theorem missingDirectoryChain_triple {fuel : Nat} (hp : PlainPath path p) (hfuel : p.length < fuel)
    (hstop : ∀ q, q <+: p → Posix.asPosix q = stopAt → (d.node (root ++ q)).isSome = true) :
    Triple (On (· = d)) (missingDirectoryChain k root stopAt fuel path)
      (fun missing s => Missing d root p missing ∧ On (· = d) s) fun _ _ => False := by
  induction fuel generalizing p path with
  | zero => omega
  | succ fuel ih =>
    unfold missingDirectoryChain
    by_cases hend : path = "" ∨ path = stopAt
    · rw [if_pos hend]
      refine Triple.pure fun s hs => ⟨Missing.nil ?_, hs⟩
      rcases hend with hempty | hstopped
      · exact .inl (Posix.asPosix_eq_empty hp.isNames (hp.text ▸ hempty))
      · exact .inr (hstop p List.prefix_rfl (hp.text ▸ hstopped))
    · rw [if_neg hend]
      have hne : p ≠ [] := by
        rintro rfl
        exact hend (.inl (by rw [hp.text]; rfl))
      refine Triple.bind (confinedEntryStat_known hk (hp.read hne) hne) fun there => Triple.of_each fun s₀ hs₀ => ?_
      have hdisk : s₀.disk = d := hs₀.2
      have hthere : there = d.node (root ++ p) := hs₀.1.trans (by rw [hdisk])
      by_cases hsome : there.isSome = true
      · rw [if_pos hsome]
        exact Triple.pure fun s hs => ⟨Missing.nil (.inr (hthere ▸ hsome)), by rw [hs]; exact hs₀.2⟩
      · rw [if_neg hsome]
        have hnone : d.node (root ++ p) = none := by
          rw [← hthere]
          simpa using hsome
        have hlen : p.dropLast.length < fuel := by
          have := List.length_pos_iff.mpr hne
          rw [List.length_dropLast]
          omega
        refine Triple.bind (liftExcept_known hp.parent) fun parent => Triple.of_pure fun hparent => ?_
        subst hparent
        refine Triple.bind ((ih (hp.above (List.dropLast_prefix p)) hlen fun q hq =>
          hstop q (hq.trans (List.dropLast_prefix p))).weaken (fun s hs => by rw [hs]; exact hs₀.2) (fun _ _ h => h)
          fun _ _ h => h) fun missing => Triple.of_pure fun hmissing => Triple.pure fun s hs => ⟨?_, hs⟩
        refine ⟨fun c hc => ?_, fun q hq hpre hfree => ?_⟩
        · rcases List.mem_cons.mp hc with rfl | hc
          · exact ⟨p, hne, List.prefix_rfl, hp.text, hnone⟩
          · obtain ⟨q, hq, hpre, hc, hfree⟩ := hmissing.recorded c hc
            exact ⟨q, hq, hpre.trans (List.dropLast_prefix p), hc, hfree⟩
        · by_cases heq : q = p
          · rw [heq, ← hp.text]
            exact List.mem_cons_self
          · refine List.mem_cons_of_mem _ (hmissing.complete q hq ?_ hfree)
            obtain ⟨r, rfl⟩ := hpre
            rw [List.dropLast_append_of_ne_nil fun hr => heq (by rw [hr, List.append_nil])]
            exact List.prefix_append _ _

end

/-! ## One file -/

theorem uploadTempName_trimmed (token : String) : Trimmed (uploadTempName token) := by
  have hfront : ".pve-helper-upload-".toList.head? = some '.' := by simp
  have hback : ".part".toList.getLast? = some 't' := by simp
  rw [trimmed_iff]
  unfold uploadTempName
  rw [String.toList_append, String.toList_append]
  constructor
  · intro c hc
    rw [List.append_assoc, List.head?_append, hfront, Option.some_or, Option.mem_some_iff] at hc
    subst hc
    decide
  · intro c hc
    rw [List.getLast?_append, hback, Option.some_or, Option.mem_some_iff] at hc
    subst hc
    decide

/-- A name that nothing has yet, and that no planned path uses. -/
structure FreshName (d : Disk Bytes) (plan : List PlannedFile) (name : String) : Prop where
  confined : ConfinedName name
  free : ∀ q, d.node (q ++ [name]) = none
  apart : ∀ item ∈ plan, name ∉ Text.posixParts item.relativePath

/-- Where the loop is between two files: those that are done hold what was sent, and the
variables record all that was made. -/
structure Progress (d : Disk Bytes) (root : Path) (plan done : List PlannedFile) (s : Machine Bytes × UploadLocals) :
    Prop where
  made : Made d (s.2.writtenPaths.map (place root)) (s.2.createdDirs.map (place root)) s.1.disk
  written : s.2.writtenPaths = done.map (·.relativePath)
  temp : s.2.tempRelative = none
  holds : ∀ item ∈ done, s.1.disk.node (place root item.relativePath) = some (.file item.file.chunks.flatten)
  dirs : ∀ c ∈ s.2.createdDirs, ∃ p, p ≠ [] ∧ PlainPath c p ∧ ∃ item ∈ plan,
    p <+: (Text.posixParts item.relativePath).dropLast

/-- The variables record all that was made, among it the file in work. -/
structure Recorded (d : Disk Bytes) (root : Path) (s : Machine Bytes × UploadLocals) : Prop where
  made : Made d (s.2.tempRelative.toList.map (place root) ++ s.2.writtenPaths.map (place root))
    (s.2.createdDirs.map (place root)) s.1.disk
  plain : ∀ path, path ∈ s.2.tempRelative ∨ path ∈ s.2.writtenPaths ∨ path ∈ s.2.createdDirs → ∃ p, PlainPath path p ∧
    p ≠ []

/-- All planned paths are plain. -/
def PlainPlan (plan : List PlannedFile) : Prop :=
  ∀ item ∈ plan, ∃ q n, PlainPath item.relativePath (q ++ [n])

variable {plan done : List PlannedFile} {item : PlannedFile} {maxSizeMb : Int} {token directoryRelative temp : String}
  {s : Machine Bytes × UploadLocals} {chunks : List Bytes}

theorem Progress.recorded (h : Progress d root plan done s) (hplain : PlainPlan plan)
    (hdone : ∀ item ∈ done, item ∈ plan) :
    Recorded d root s := by
  refine ⟨by simpa [h.temp] using h.made, fun path hpath => ?_⟩
  rw [h.temp, h.written] at hpath
  rcases hpath with hpath | hpath | hpath
  · cases hpath
  · obtain ⟨item, hitem, rfl⟩ := List.mem_map.mp hpath
    obtain ⟨q, n, hp⟩ := hplain item (hdone item hitem)
    exact ⟨_, hp, by simp⟩
  · obtain ⟨p, hne, hp, -⟩ := h.dirs path hpath
    exact ⟨p, hp, hne⟩

/-- Directories that were recorded as missing may be made. -/
theorem Progress.grow {missing : List String} {s' : Machine Bytes × UploadLocals} (h : Progress d root plan done s)
    (hp : PlainPath path p) (hitem : item ∈ plan) (hparent : (Text.posixParts item.relativePath).dropLast = p)
    (hroot : d.node root = some .directory) (hmissing : Missing s.1.disk root p missing)
    (hgrows : Disk.GrowsTo (root ++ p) s.1.disk s'.1.disk)
    (hlocals : s'.2 = { s.2 with createdDirs := s.2.createdDirs ∪ missing }) : Progress d root plan done s' := by
  have hplace : ∀ {q : List String}, q <+: p → place root (Posix.asPosix q) = root ++ q := fun hq => by
    rw [place, (hp.above hq).parts]
  have hthere : ∀ q ∈ s.2.writtenPaths.map (place root), (s.1.disk.node q).isSome = true := by
    intro q hq
    rw [h.written, List.map_map] at hq
    obtain ⟨item, hitem, rfl⟩ := List.mem_map.mp hq
    rw [Function.comp_apply, h.holds item hitem]
    rfl
  rw [← hparent] at hp hmissing hgrows hplace
  constructor
  · rw [hlocals]
    have hgrown : Made d (s.2.writtenPaths.map (place root))
        (s.2.createdDirs.map (place root) ++ missing.map (place root)) s'.1.disk :=
      h.made.grow hthere (fun q hq => ?_) hgrows fun q hpre hnone _ => ?_
    · exact hgrown.of_mem (fun q => Iff.rfl) fun q => by simp [List.mem_union_iff, or_and_right, exists_or]
    · obtain ⟨c, hc, rfl⟩ := List.mem_map.mp hq
      obtain ⟨q, -, hpre, rfl, hfree⟩ := hmissing.recorded c hc
      rwa [hplace hpre]
    · have hthere := h.made.grows root (by rw [hroot]; rfl)
      rcases List.prefix_or_prefix_of_prefix hpre (List.prefix_append root _) with habove | ⟨r, rfl⟩
      · obtain ⟨r, rfl⟩ := habove
        rw [Disk.node_below_free hnone, hroot] at hthere
        cases hthere
      · have hr : r <+: (Text.posixParts item.relativePath).dropLast := (List.prefix_append_right_inj root).mp hpre
        have hne : r ≠ [] := by
          rintro rfl
          rw [List.append_nil, hthere, hroot] at hnone
          cases hnone
        exact .inr (List.mem_map.mpr ⟨_, hmissing.complete r hne hr hnone, hplace hr⟩)
  · rw [hlocals, ← h.written]
  · rw [hlocals, ← h.temp]
  · intro item hitem
    have hfile := h.holds item hitem
    rw [hgrows.grows _ (by rw [hfile]; rfl), hfile]
  · intro c hc
    rw [hlocals] at hc
    rcases List.mem_union_iff.mp hc with hc | hc
    · exact h.dirs c hc
    · obtain ⟨q, hne, hpre, rfl, -⟩ := hmissing.recorded c hc
      exact ⟨q, hne, hp.above hpre, item, hitem, hpre⟩

/-- The name that the next file is written under is not there yet. -/
theorem Progress.fresh (h : Progress d root plan done s) (hdone : ∀ item ∈ done, item ∈ plan)
    (hname : FreshName d plan name) :
    s.1.disk.node (root ++ (q ++ [name])) = none := by
  have hsplit : root ++ (q ++ [name]) = root ++ q ++ [name] := (List.append_assoc ..).symm
  rcases h.made.node (root ++ (q ++ [name])) with hsame | ⟨-, hmem⟩ | ⟨-, hmem⟩
  · rw [hsame, hsplit, hname.free]
  · exfalso
    rw [h.written, List.map_map] at hmem
    obtain ⟨item, hitem, heq⟩ := List.mem_map.mp hmem
    refine hname.apart item (hdone item hitem) ?_
    rw [List.append_cancel_left heq]
    simp
  · exfalso
    obtain ⟨c, hc, heq⟩ := List.mem_map.mp hmem
    obtain ⟨p, -, hp, item, hitem, hpre⟩ := h.dirs c hc
    refine hname.apart item hitem (List.dropLast_subset _ (hpre.subset ?_))
    rw [place, hp.parts] at heq
    rw [List.append_cancel_left heq]
    simp

/-- While a file is written under its own name, the variables record it. -/
theorem Progress.recordedTemp {s' : Machine Bytes × UploadLocals} (h : Progress d root plan done s)
    (hplain : PlainPlan plan) (hdone : ∀ item ∈ done, item ∈ plan)
    (htemp : PlainPath temp (q ++ [name]))
      (hfree : s.1.disk.node (place root temp) = none)
    (hlocals : s'.2 = { s.2 with tempRelative := some temp })
    (hdisk : s'.1.disk = s.1.disk ∨ ∃ data, Written s.1.disk (place root temp) data s'.1.disk) :
      Recorded d root s' := by
  have hbefore := h.recorded hplain hdone
  constructor
  · rw [hlocals]
    rcases hdisk with hsame | ⟨data, hwritten⟩
    · rw [hsame]
      exact h.made.record hfree
    · exact h.made.written hwritten
  · intro path hpath
    rw [hlocals] at hpath
    rcases hpath with hpath | hpath
    · cases hpath
      exact ⟨_, htemp, by simp⟩
    · exact hbefore.plain path (.inr hpath)

/-- A file that is published is one more that is done. -/
theorem Progress.next {s' : Machine Bytes × UploadLocals} (h : Progress d root plan done s)
    (hwritten : Written s.1.disk (place root item.relativePath) item.file.chunks.flatten s'.1.disk)
    (hlocals : s'.2 = { s.2 with writtenPaths := s.2.writtenPaths ++ [item.relativePath], tempRelative := none }) :
    Progress d root plan (done ++ [item]) s' := by
  constructor
  · rw [hlocals]
    exact (h.made.written hwritten).of_mem (fun q => by simp [or_comm]) fun q => Iff.rfl
  · rw [hlocals]
    simp [h.written]
  · rw [hlocals]
  · intro item' hitem'
    rcases List.mem_append.mp hitem' with hitem' | hitem'
    · have hfile := h.holds item' hitem'
      rw [hwritten.grows _ (by rw [hfile]; rfl), hfile]
    · rw [List.mem_singleton.mp hitem', hwritten.holds]
  · rw [hlocals]
    exact h.dirs

/-! ## What the loop raises -/

theorem openOrCreateBeneath_raises {fd : Path} {parts : List String} :
    Raises Caught (openOrCreateBeneath k fd parts) := by
  induction parts generalizing fd with
  | nil => exact Raises.pure
  | cons part parts ih =>
    refine Raises.bind (Raises.reraising ?_ close_caught) fun next => ih
    refine Raises.bind (exceptOs_raises fun r m hm => ?_) fun next => Raises.bind close_caught fun _ => Raises.pure
    split at hm <;> cases hm
    · exact Raises.bind (Raises.raisingAs fun _ => rfl) fun _ => Raises.raisingAs fun _ => rfl
    · exact raise_confined

theorem createConfinedDirectories_raises : Raises Caught (createConfinedDirectories k root path) := by
  refine Raises.bind liftNormalized_raises fun parts => Raises.bind ?_ fun fd => close_caught
  exact Raises.bind (Raises.raisingAs fun _ => caught_confined) fun fd => openOrCreateBeneath_raises

theorem writeTemp_raises (htemp : Text.posixParts temp ≠ []) :
    Raises Caught (writeTemp k root maxSizeMb temp chunks) := by
  refine Raises.bind ?_ fun handle => Raises.bind (Raises.ensuring writeUpload_raises ?_) fun _ => Raises.pure
  · refine Raises.after liftNormalized_raises liftExcept_returns fun parts hparts => ?_
    rw [← parts_of_normalized hparts] at htemp
    refine Raises.bind openParent_raises fun fd => Raises.ensuring ?_ close_caught
    exact Raises.bind (lastPart_raises htemp) fun _ => Raises.bind createExclusiveChild_raises fun _ => Raises.pure
  · exact Raises.ensuring (Raises.raisingAs fun _ => rfl) close_caught

section
variable (hk : AcceptsRemovals k)
include hk

/-- A file that is written leaves itself alone, and where that raises no more than itself. -/
theorem writeTemp_triple : Triple (On (· = d)) (writeTemp k root maxSizeMb temp chunks)
    (fun _ => On (Written d (place root temp) chunks.flatten))
    fun _ => On fun d' => d' = d ∨ ∃ data, Written d (place root temp) data d' := by
  refine Triple.bind (createRegularFileExclusive_triple.raises fun r s hs => ?_) fun handle =>
    Triple.of_pure fun hhandle => ?_
  · exact hs.imp_right fun h => absurd h.1 hk.not_closeRaised
  · obtain ⟨rfl, -⟩ := hhandle
    have hwrite : Triple (On (Written d (place root temp) [])) (withHandle k (place root temp)
        (writeUpload k (place root temp) maxSizeMb 0 chunks))
        (fun n => On (Sent d (place root temp) maxSizeMb chunks.flatten n))
        fun _ => On fun d' => ∃ data, Written d (place root temp) data d' :=
      withHandle_triple (writeUpload_triple (withinMax_zero maxSizeMb)) fun n d' h => ⟨_, h.written⟩
    exact Triple.bind (hwrite.raises fun _ _ hs => .inr hs) fun _ => Triple.pure fun s hs => hs.written

theorem rename_triple {target : String} :
    Triple (On (· = d)) (renameEntryNoreplace k root temp target root .file false)
      (fun _ => On (MovedTo d (place root temp) (place root target))) fun _ => On (· = d) :=
  renameFileNoreplace_triple.raises fun r s hs => by
    rcases hs with hs | ⟨hclose, -⟩
    · exact hs.same hk.discards
    · exact absurd hclose hk.not_closeRaised

/-- The directories of a file are recorded before they are made. -/
theorem createParents_triple {n : String} (hplain : PlainPlan plan) (hdone : ∀ item ∈ done, item ∈ plan)
    (hitem : item ∈ plan) (hp : PlainPath item.relativePath (p ++ [n])) (hroot : d.node root = some .directory)
    (hstop : ∀ q, Posix.asPosix q = directoryRelative → (∀ n ∈ q, Posix.IsName n) →
      (d.node (root ++ q)).isSome = true) :
    Triple (Progress d root plan done) (createParents k root directoryRelative (Posix.asPosix p))
      (fun _ => Progress d root plan done) fun r s => Caught r ∧ Recorded d root s := by
  unfold createParents
  have hparent : PlainPath (Posix.asPosix p) p := hp.above (List.prefix_append _ _)
  split
  · exact Triple.pure fun s hs => hs
  refine Triple.of_each fun s₀ hs₀ => ?_
  have hgrows := hs₀.made.grows
  have hlen : p.length < (Text.posixParts (Posix.asPosix p)).length + 1 := by rw [hparent.parts]; omega
  have hthere : ∀ q, q <+: p → Posix.asPosix q = directoryRelative → (s₀.1.disk.node (root ++ q)).isSome = true := by
    intro q hq hstopped
    have hthere := hstop q hstopped fun n hn => hparent.isNames n (hq.subset hn)
    rw [hgrows _ hthere]
    exact hthere
  -- what is missing is recorded
  refine Triple.bind (Q := fun missing s => Missing s₀.1.disk root p missing ∧ s.2 = s₀.2 ∧ On (· = s₀.1.disk) s.1)
    ((Triple.beside_at ((missingDirectoryChain_triple hk hparent hlen hthere).raises fun _ _ h => h.elim)).weaken
      (fun s hs => by rw [hs]; exact ⟨rfl, rfl⟩) (fun _ s hs => ⟨hs.2.1, hs.1, hs.2.2⟩) fun _ _ h => h) fun missing =>
    Triple.of_pure fun hmissing => ?_
  refine Triple.bind (Q := fun _ s => s.2 = { s₀.2 with createdDirs := s₀.2.createdDirs ∪ missing } ∧
    On (· = s₀.1.disk) s.1) (Triple.assign fun s v hs => ⟨by rw [show v = s₀.2 from hs.1], hs.2⟩) fun _ => ?_
  have hmake : Triple (On (· = s₀.1.disk)) (createConfinedDirectories k root (Posix.asPosix p))
      (fun _ => On (Disk.GrowsTo (root ++ p) s₀.1.disk)) fun _ => On (Disk.GrowsTo (root ++ p) s₀.1.disk) :=
    Triple.of_maintains createConfinedDirectories_growsTo fun s s' hs hgrown => by
      rw [GrownTo, hparent.parts, show s.disk = s₀.1.disk from hs] at hgrown
      exact hgrown
  have hprogress : ∀ {s' : Machine Bytes × UploadLocals},
    s'.2 = { s₀.2 with createdDirs := s₀.2.createdDirs ∪ missing } →
      Disk.GrowsTo (root ++ p) s₀.1.disk s'.1.disk → Progress d root plan done s' := fun hlocals hgrown =>
    hs₀.grow hparent hitem (by rw [hp.parts, List.dropLast_concat]) hroot hmissing hgrown hlocals
  refine (Triple.beside_at ((hmake.andRaises createConfinedDirectories_raises).raises fun r s hs => ?_)).weaken
    (fun _ h => h) (fun _ s hs => hprogress hs.1 hs.2) fun _ _ h => h
  exact ⟨hs.1, Progress.recorded (hprogress rfl hs.2) hplain hdone⟩

/-- A turn of the loop publishes its one file; where it raises, all that was made is recorded. -/
theorem uploadPlanned_triple (hplain : PlainPlan plan) (hdone : ∀ item ∈ done, item ∈ plan) (hitem : item ∈ plan)
    (hfresh : FreshName d plan (uploadTempName token)) (hroot : d.node root = some .directory)
    (hstop : ∀ q, Posix.asPosix q = directoryRelative → (∀ n ∈ q, Posix.IsName n) →
      (d.node (root ++ q)).isSome = true) :
    Triple (Progress d root plan done) (uploadPlanned k root directoryRelative maxSizeMb item token)
      (fun _ => Progress d root plan (done ++ [item])) fun r s => Caught r ∧ Recorded d root s := by
  obtain ⟨q, n, hp⟩ := hplain item hitem
  have hparent : PlainPath (Posix.asPosix q) q := hp.above (List.prefix_append _ _)
  have htemp : PlainPath (Posix.asPosix (q ++ [uploadTempName token])) (q ++ [uploadTempName token]) := by
    refine ⟨rfl, fun n hn => ?_, fun n hn => ?_⟩
    · rcases List.mem_append.mp hn with hn | hn
      · exact hparent.names n hn
      · exact List.mem_singleton.mp hn ▸ hfresh.confined
    · rcases List.mem_append.mp hn with hn | hn
      · exact hparent.trimmed n hn
      · exact List.mem_singleton.mp hn ▸ uploadTempName_trimmed token
  refine Triple.bind (Triple.beside fun v => liftExcept_known hp.parent) fun parent => Triple.of_pure fun hparent' => ?_
  rw [List.dropLast_concat] at hparent'
  subst hparent'
  refine Triple.bind (createParents_triple hk hplain hdone hitem hp hroot hstop) fun _ => ?_
  refine Triple.bind (Triple.beside fun v => liftExcept_known (hparent.join hfresh.confined.toFileName)) fun temp =>
    Triple.of_pure fun htemp' => ?_
  subst htemp'
  refine Triple.of_each fun s₀ hs₀ => ?_
  have hfree : s₀.1.disk.node (place root (Posix.asPosix (q ++ [uploadTempName token]))) = none := by
    rw [place, htemp.parts]
    exact hs₀.fresh hdone hfresh
  have hne : Text.posixParts (Posix.asPosix (q ++ [uploadTempName token])) ≠ [] := by rw [htemp.parts]; simp
  have htarget : Text.posixParts item.relativePath ≠ [] := by rw [hp.parts]; simp
  have hrecorded : ∀ {s' : Machine Bytes × UploadLocals},
      s'.2 = { s₀.2 with tempRelative := some (Posix.asPosix (q ++ [uploadTempName token])) } →
      s'.1.disk = s₀.1.disk ∨ (∃ data, Written s₀.1.disk (place root (Posix.asPosix (q ++ [uploadTempName token]))) data
        s'.1.disk) → Recorded d root s' :=
    fun hlocals hdisk => hs₀.recordedTemp hplain hdone htemp hfree hlocals hdisk
  refine Triple.bind (Q := fun _ s =>
    s.2 = { s₀.2 with tempRelative := some (Posix.asPosix (q ++ [uploadTempName token])) } ∧
    On (· = s₀.1.disk) s.1) (Triple.assign fun s v hs => ?_) fun _ => ?_
  · have hpair : (s, v) = s₀ := hs
    rw [← hpair]
    exact ⟨rfl, rfl⟩
  have hwrite : Triple (On (· = s₀.1.disk)) (writeTemp k root maxSizeMb _ item.file.chunks) _ _ :=
    (writeTemp_triple hk).andRaises (writeTemp_raises hne)
  refine Triple.bind (Triple.beside_at (hwrite.raises fun r s h => ⟨h.1, hrecorded rfl h.2⟩)) fun _ => ?_
  refine Triple.bind (Q := fun _ s =>
    s.2 = { s₀.2 with tempRelative := some (Posix.asPosix (q ++ [uploadTempName token])) } ∧
    On (Written s₀.1.disk (place root item.relativePath) item.file.chunks.flatten) s.1)
    (Triple.beside_at (Triple.of_each fun s hs => ?_)) fun _ => Triple.assign fun s v hs => ?_
  · refine ((rename_triple hk).andRaises (renameEntryNoreplace_raises hne htarget)).weaken
      (fun s' hs' => show s'.disk = s.disk from hs' ▸ rfl) (fun _ s' h => hs.moved h)
      fun r s' h => ⟨h.1, hrecorded rfl (.inr ⟨item.file.chunks.flatten, ?_⟩)⟩
    rw [show s'.disk = s.disk from h.2]
    exact hs
  · exact hs₀.next hs.2 (by rw [show v = _ from hs.1])

/-- The whole loop. -/
theorem uploadAll_triple {items : List (PlannedFile × String)} (hplain : PlainPlan plan)
    (hdone : ∀ item ∈ done, item ∈ plan)
    (hitems : ∀ x ∈ items, x.1 ∈ plan ∧ FreshName d plan (uploadTempName x.2)) (hroot : d.node root = some .directory)
    (hstop : ∀ q, Posix.asPosix q = directoryRelative → (∀ n ∈ q, Posix.IsName n) →
      (d.node (root ++ q)).isSome = true) :
    Triple (Progress d root plan done) (uploadAll k root directoryRelative maxSizeMb items)
      (fun _ => Progress d root plan (done ++ items.map Prod.fst)) fun r s => Caught r ∧ Recorded d root s := by
  induction items generalizing done with
  | nil =>
    rw [List.map_nil, List.append_nil]
    exact Triple.pure fun s hs => hs
  | cons x items ih =>
    obtain ⟨item, token⟩ := x
    obtain ⟨hitem, hfresh⟩ := hitems _ List.mem_cons_self
    refine Triple.bind (uploadPlanned_triple hk hplain hdone hitem hfresh hroot hstop) fun _ => ?_
    have hdone' : ∀ item' ∈ done ++ [item], item' ∈ plan := fun item' hitem' => by
      rcases List.mem_append.mp hitem' with hitem' | hitem'
      · exact hdone item' hitem'
      · exact List.mem_singleton.mp hitem' ▸ hitem
    have hrest := ih hdone' fun x hx => hitems x (List.mem_cons_of_mem _ hx)
    rwa [List.append_assoc, List.singleton_append] at hrest

end

/-! ## The plan -/

theorem confinedEntryStat_reads :
    Returns (fun _ => ∃ p, normalizedRelativePath path = .ok p) (confinedEntryStat k root path) := by
  intro s x s' h
  obtain ⟨p, s₁, hp, -⟩ := bind_ok.mp h
  exact ⟨p, (liftExcept_ok.mp hp).1⟩

/-- An item of the plan is a file at its target. -/
structure Planned (directoryPath : String) (x : UploadedFile × String) (item : PlannedFile) : Prop where
  target : folderTarget directoryPath x.2 = .ok item.relativePath
  file : item.file = x.1
  reads : ∃ p, normalizedRelativePath item.relativePath = .ok p

theorem folderUploadPlan_triple {P : Disk Bytes → Prop} {directoryPath : String} {seen : List String} {total : Nat}
    {files : List (UploadedFile × String)} :
    Triple (On P) (folderUploadPlan k root directoryPath maxSizeMb seen total files)
      (fun plan s => List.Forall₂ (Planned directoryPath) files plan ∧ On P s) fun _ => On P := by
  induction files generalizing seen total with
  | nil => exact Triple.pure fun s hs => ⟨.nil, hs⟩
  | cons x files ih =>
    obtain ⟨file, relative⟩ := x
    refine Triple.bind liftExcept_triple fun target => Triple.of_pure fun htarget => ?_
    refine Triple.bind (looks (Maintains.unlessRaise _ _)) fun _ => ?_
    refine Triple.bind (looks (Maintains.unlessRaise _ _)) fun _ => ?_
    refine Triple.bind (looks (Maintains.unlessRaise _ _)) fun _ => ?_
    refine Triple.bind (still (confinedEntryStat_sameDisk _) confinedEntryStat_reads) fun there =>
      Triple.of_pure fun hreads => ?_
    refine Triple.bind (looks (Maintains.unlessRaise _ _)) fun _ => ?_
    exact Triple.bind ih fun plan => Triple.of_pure fun hplan => Triple.pure fun s hs =>
      ⟨.cons ⟨htarget, rfl, hreads⟩ hplan, hs⟩

/-- A target is the text of its components. -/
theorem folderTarget_text {directoryPath relative target : String}
    (h : folderTarget directoryPath relative = .ok target)
    (hne : Text.posixParts target ≠ []) : target = Posix.asPosix (Text.posixParts target) := by
  have htext : ∀ {p : List String}, (∀ n ∈ p, Posix.IsName n) → target = posixText p →
      target = Posix.asPosix (Text.posixParts target) := by
    intro p hp htarget
    unfold posixText at htarget
    split at htarget
    · refine absurd ?_ hne
      rw [htarget]
      rfl
    · rw [htarget, Posix.posixParts_asPosix hp]
  unfold folderTarget at h
  cases hsafe : safeFolderUploadPath relative with
  | error e =>
    rw [hsafe] at h
    cases h
  | ok safe =>
    rw [hsafe] at h
    simp only [bind, Except.bind] at h
    unfold safeFolderUploadPath at hsafe
    dsimp only at hsafe
    split at hsafe
    · cases hsafe
    split at hsafe
    · cases hsafe
    rw [Except.ok.injEq] at hsafe
    have hnames := posixParts_names (startsWith_stripChar (Text.strip relative))
    cases hdir : normalizeRelativePath directoryPath with
    | error e =>
      rw [joinRelative, hdir] at h
      cases h
    | ok directory =>
      rw [joinRelative, hdir] at h
      simp only [bind, Except.bind, pure, Except.pure] at h
      split at h <;> rw [Except.ok.injEq] at h
      · exact htext hnames (h ▸ hsafe.symm)
      · refine htext (fun n hn => ?_) h.symm
        rcases List.mem_append.mp hn with hn | hn
        · exact normalizeRelativePath_names hdir n hn
        · rw [← hsafe, posixText] at hn
          split at hn
          · cases hn
          · rw [Posix.posixParts_asPosix hnames] at hn
            exact hnames n hn

/-! ## The whole upload -/

/-- What is sent: no name of a target has a blank at its ends, and the names that the files are
written under are used by nothing else. -/
structure FolderRequest (d : Disk Bytes) (directoryPath : String) (relativePaths : List String)
    (tokens : Nat → String) : Prop where
  plain : ∀ relative ∈ relativePaths, ∀ target, folderTarget directoryPath relative = .ok target →
    Text.posixParts target ≠ [] ∧ ∀ n ∈ Text.posixParts target, Trimmed n
  names : ∀ i, ConfinedName (uploadTempName (tokens i))
  free : ∀ i q, d.node (q ++ [uploadTempName (tokens i)]) = none
  apart : ∀ i, ∀ relative ∈ relativePaths, ∀ target, folderTarget directoryPath relative = .ok target →
    uploadTempName (tokens i) ∉ Text.posixParts target

theorem mem_of_forall₂ {α β : Type} {R : α → β → Prop} {xs : List α} {ys : List β} (h : List.Forall₂ R xs ys) :
    ∀ y ∈ ys, ∃ x ∈ xs, R x y := by
  induction h with
  | nil => simp
  | cons hxy _ ih =>
    intro y hy
    rcases List.mem_cons.mp hy with rfl | hy
    · exact ⟨_, List.mem_cons_self, hxy⟩
    · obtain ⟨x, hx, hxy⟩ := ih y hy
      exact ⟨x, List.mem_cons_of_mem _ hx, hxy⟩

theorem FolderRequest.planned {directoryPath : String} {files : List UploadedFile} {relativePaths : List String}
    {tokens : Nat → String} (h : FolderRequest d directoryPath relativePaths tokens)
    (hplan : List.Forall₂ (Planned directoryPath) (files.zip relativePaths) plan) :
    PlainPlan plan ∧ ∀ i, FreshName d plan (uploadTempName (tokens i)) := by
  constructor
  · intro item hitem
    obtain ⟨x, hx, hplanned⟩ := mem_of_forall₂ hplan item hitem
    obtain ⟨hne, htrimmed⟩ := h.plain x.2 (List.of_mem_zip hx).2 _ hplanned.target
    obtain ⟨p, hread⟩ := hplanned.reads
    refine ⟨(Text.posixParts item.relativePath).dropLast, (Text.posixParts item.relativePath).getLast hne, ?_⟩
    rw [List.dropLast_append_getLast hne]
    refine ⟨folderTarget_text hplanned.target hne, fun n hn => ?_, htrimmed⟩
    rw [← parts_of_normalized hread] at hn
    exact (normalizedRelativePath_names hread).1 n hn
  · refine fun i => ⟨h.names i, h.free i, fun item hitem => ?_⟩
    obtain ⟨x, hx, hplanned⟩ := mem_of_forall₂ hplan item hitem
    exact h.apart i x.2 (List.of_mem_zip hx).2 _ hplanned.target

/-- What an upload adds: its files, at paths that were free, and directories on their ways. -/
structure FolderAdded (d : Disk Bytes) (root : Path) (directoryPath : String) (files : List (UploadedFile × String))
    (d' : Disk Bytes) : Prop where
  holds : ∀ x ∈ files, ∃ target, folderTarget directoryPath x.2 = .ok target ∧ d.node (place root target) = none ∧
    d'.node (place root target) = some (.file x.1.chunks.flatten)
  others : ∀ q, d'.node q = d.node q ∨ d.node q = none ∧ ∃ x ∈ files, ∃ target,
    folderTarget directoryPath x.2 = .ok target ∧
    (q = place root target ∨ d'.node q = some .directory ∧ q <+: place root target)

theorem exists_of_forall₂ {α β : Type} {R : α → β → Prop} {xs : List α} {ys : List β} (h : List.Forall₂ R xs ys) :
    ∀ x ∈ xs, ∃ y ∈ ys, R x y := by
  intro x hx
  obtain ⟨y, hy, hxy⟩ := mem_of_forall₂ h.flip x hx
  exact ⟨y, hy, hxy⟩

theorem Progress.added {directoryPath : String} {files : List (UploadedFile × String)} (h : Progress d root plan plan s)
    (hplan : List.Forall₂ (Planned directoryPath) files plan) : FolderAdded d root directoryPath files s.1.disk := by
  constructor
  · intro x hx
    obtain ⟨item, hitem, hplanned⟩ := exists_of_forall₂ hplan x hx
    refine ⟨item.relativePath, hplanned.target, h.made.free _ (.inl ?_),
      by rw [← hplanned.file]; exact h.holds item hitem⟩
    rw [h.written, List.map_map]
    exact List.mem_map.mpr ⟨item, hitem, rfl⟩
  · intro q
    rcases h.made.node q with hsame | ⟨-, hmem⟩ | ⟨hdir, hmem⟩
    · exact .inl hsame
    · refine .inr ⟨h.made.free q (.inl hmem), ?_⟩
      rw [h.written, List.map_map] at hmem
      obtain ⟨item, hitem, rfl⟩ := List.mem_map.mp hmem
      obtain ⟨x, hx, hplanned⟩ := mem_of_forall₂ hplan item hitem
      exact ⟨x, hx, _, hplanned.target, .inl rfl⟩
    · refine .inr ⟨h.made.free q (.inr hmem), ?_⟩
      obtain ⟨c, hc, rfl⟩ := List.mem_map.mp hmem
      obtain ⟨p, -, hp, item, hitem, hpre⟩ := h.dirs c hc
      obtain ⟨x, hx, hplanned⟩ := mem_of_forall₂ hplan item hitem
      refine ⟨x, hx, _, hplanned.target, .inr ⟨hdir, ?_⟩⟩
      rw [place, hp.parts]
      exact (List.prefix_append_right_inj root).mpr (hpre.trans (List.dropLast_prefix _))

theorem requireConfinedDirectory_triple :
    Triple (On (· = d)) (requireConfinedDirectory k path root)
      (fun _ s => (path = "" ∨ (d.node (root ++ Text.posixParts path)).isSome = true) ∧ On (· = d) s) fun _ =>
      On (· = d) := by
  unfold requireConfinedDirectory
  split
  · exact Triple.pure fun s hs => ⟨.inl ‹_›, hs⟩
  · refine Triple.bind (Q := fun x s => (∀ y, x = some y → (d.node (root ++ Text.posixParts path)).isSome = true) ∧
      On (· = d) s) ?_ fun x => Triple.of_pure fun hx => ?_
    · have hlooks : Triple (On (· = d)) (confinedEntryStat k root path) (fun _ => On (· = d)) fun _ => On (· = d) :=
        looks (confinedEntryStat_sameDisk path)
      refine ⟨fun s x s' hs h => ⟨fun y hy => ?_, hlooks.ok s x s' hs h⟩, hlooks.error⟩
      rw [hy] at h
      obtain ⟨p, hp, hnode⟩ := confinedEntryStat_ok h
      rw [← parts_of_normalized hp, ← show s.disk = d from hs, hnode]
      rfl
    · refine Triple.unlessRaise (fun s hs hdir => ⟨.inr ?_, hs⟩) fun s hs => hs
      cases x with
      | none => cases hdir
      | some y => exact hx y rfl

theorem storageRoot_triple {k : Kernel} {storage : ActionMount} :
    Triple (On (· = d)) (storageRoot k storage)
      (fun root s => (root = storage.root ∧ d.node storage.root = some .directory) ∧ On (· = d) s) fun _ =>
      On (· = d) := by
  have hlooks : Triple (On (· = d)) (storageRoot k storage) (fun _ => On (· = d)) fun _ => On (· = d) :=
    looks storageRoot_sameDisk
  refine ⟨fun s root s' hs h => ⟨?_, hlooks.ok s root s' hs h⟩, hlooks.error⟩
  obtain ⟨hroot, -, hdir, -⟩ := storageRoot_ok.mp h
  exact ⟨hroot, by rw [← show s.disk = d from hs]; exact Disk.isDirectory_iff.mp hdir⟩

theorem mapM_known {α β ε : Type} {f : α → Except ε β} {xs : List α} (h : ∀ x ∈ xs, ∃ y, f x = .ok y) :
    ∃ ys, xs.mapM f = .ok ys := by
  induction xs with
  | nil => exact ⟨[], rfl⟩
  | cons x xs ih =>
    obtain ⟨y, hy⟩ := h x List.mem_cons_self
    obtain ⟨ys, hys⟩ := ih fun x hx => h x (List.mem_cons_of_mem _ hx)
    refine ⟨y :: ys, ?_⟩
    rw [List.mapM_cons, hy, hys]
    rfl

theorem folderUploadResult_known {directoryPath directory : String} (hplain : PlainPlan plan)
    (hdirectory : normalizeRelativePath directoryPath = .ok directory) :
    ∃ result, folderUploadResult directoryPath plan = .ok result := by
  obtain ⟨parents, hparents⟩ : ∃ parents, plan.mapM (fun item => parentRelative item.relativePath) = .ok parents :=
    mapM_known fun item hitem => by
      obtain ⟨q, n, hp⟩ := hplain item hitem
      exact ⟨_, hp.parent⟩
  unfold folderUploadResult
  rw [hparents, hdirectory]
  exact ⟨_, rfl⟩

/-- An upload that ends has added its files and nothing that is not on their ways; one that
raises leaves the tree as it was. -/
structure FolderUploadKeeps (k : Kernel) (env : ActionEnv) (order : SetOrder) (storage : ActionMount)
    (directoryPath : String)
    (files : List UploadedFile) (relativePaths : List String) (maxSizeMb : Int) (tokens : Nat → String)
      (s : Machine Bytes) :
    Prop where
  ends : ∀ result s', uploadFolderToStorage k env order storage directoryPath files relativePaths maxSizeMb tokens s =
    .ok result s' → FolderAdded s.disk storage.root directoryPath (files.zip relativePaths) s'.disk
  raises : ∀ r s', uploadFolderToStorage k env order storage directoryPath files relativePaths maxSizeMb tokens s =
    .error r s' → s'.disk = s.disk

/-! ## The whole run -/

theorem folderUploadRaised_of_caught {r : Raised} (h : Caught r) : ∃ e, folderUploadRaised r = some e := by
  cases r with
  | confined kind message => cases kind <;> exact ⟨_, rfl⟩
  | os e => exact ⟨_, rfl⟩
  | action message => exact ⟨_, rfl⟩
  | denied message => cases h
  | index => cases h

section
variable (hk : AcceptsRemovals k) {order : SetOrder} {storage : ActionMount} {directoryPath : String}
    {files : List UploadedFile}
  {relativePaths : List String} {tokens : Nat → String}
include hk

theorem undoing_triple {r : Raised} {v : UploadLocals} {Q : Unit → Machine Bytes → Prop} :
    Triple (fun s => Caught r ∧ Recorded d root (s, v)) (undoing k order root r v) Q fun _ => On (· = d) := by
  refine Triple.of_pure fun hcaught => ?_
  obtain ⟨e, he⟩ := folderUploadRaised_of_caught hcaught
  unfold undoing
  rw [he]
  refine Triple.of_each fun s₀ hs₀ => ?_
  refine Triple.bind ((undoFolderUpload_triple hk hs₀.plain).weaken (fun s hs => ?_) (fun _ _ h => h) fun _ _ h =>
    h.elim)
    fun _ => Triple.raise fun s hs => hs
  rw [hs]
  exact hs₀.made

/-- The loop has all files in it, or nothing is left of it. -/
theorem uploadedOrUndone_triple (hplain : PlainPlan plan) (hfresh : ∀ i, FreshName d plan (uploadTempName (tokens i)))
    (hroot : d.node root = some .directory)
    (hstop : ∀ q, Posix.asPosix q = directoryRelative → (∀ n ∈ q, Posix.IsName n) →
      (d.node (root ++ q)).isSome = true) :
    Triple (On (· = d)) (withLocals ⟨[], [], none⟩
      (uploadAll k root directoryRelative maxSizeMb (plan.zip ((List.range plan.length).map tokens)))
      (undoing k order root)) (fun _ s => ∃ v, Progress d root plan plan (s, v)) fun _ => On (· = d) := by
  have hall : (plan.zip ((List.range plan.length).map tokens)).map Prod.fst = plan := by
    rw [List.map_fst_zip]
    simp
  have hitems : ∀ x ∈ plan.zip ((List.range plan.length).map tokens),
      x.1 ∈ plan ∧ FreshName d plan (uploadTempName x.2) := by
    intro x hx
    obtain ⟨hitem, htoken⟩ := List.of_mem_zip hx
    obtain ⟨i, -, hi⟩ := List.mem_map.mp htoken
    rw [← hi]
    exact ⟨hitem, hfresh i⟩
  have hnone : ∀ item ∈ ([] : List PlannedFile), item ∈ plan := by simp
  refine Triple.withLocals (F := fun r s => Caught r ∧ Recorded d root s) ?_ fun r v => undoing_triple hk
  refine (uploadAll_triple hk hplain hnone hitems hroot hstop).weaken (fun s hs => ?_) (fun _ s hs => ?_)
    fun _ _ h => h
  · obtain ⟨hdisk, hlocals⟩ := hs
    have hmade : Made d [] [] s.1.disk := by
      rw [show s.1.disk = d from hdisk]
      exact Made.refl d
    refine ⟨?_, ?_, ?_, by simp, ?_⟩ <;> rw [hlocals]
    · exact hmade
    · rfl
    · nofun
  · rw [List.nil_append, hall] at hs
    exact ⟨s.2, hs⟩

theorem uploadFolderToStorage_triple (hrequest : FolderRequest d directoryPath relativePaths tokens) :
    Triple (On (· = d)) (uploadFolderToStorage k env order storage directoryPath files relativePaths maxSizeMb tokens)
      (fun _ => On (FolderAdded d storage.root directoryPath (files.zip relativePaths))) fun _ => On (· = d) := by
  refine Triple.bind (looks requireStorageWriteAccess_sameDisk) fun _ => ?_
  refine Triple.bind (looks (Maintains.unlessRaise _ _)) fun _ => ?_
  refine Triple.bind (looks (Maintains.unlessRaise _ _)) fun _ => ?_
  refine Triple.bind storageRoot_triple fun root => Triple.of_pure fun hroot => ?_
  obtain ⟨rfl, hroot⟩ := hroot
  refine Triple.bind liftExcept_triple fun directory => Triple.of_pure fun hdirectory => ?_
  refine Triple.bind requireConfinedDirectory_triple fun _ => Triple.of_pure fun hthere => ?_
  refine Triple.bind folderUploadPlan_triple fun plan => Triple.of_pure fun hplan => ?_
  obtain ⟨hplain, hfresh⟩ := hrequest.planned hplan
  have hstop : ∀ q, Posix.asPosix q = directory → (∀ n ∈ q, Posix.IsName n) →
      (d.node (storage.root ++ q)).isSome = true := by
    intro q hq hnames
    rcases hthere with hempty | hthere
    · rw [Posix.asPosix_eq_empty hnames (hq.trans hempty), List.append_nil, hroot]
      rfl
    · rwa [← hq, Posix.posixParts_asPosix hnames] at hthere
  refine Triple.bind (uploadedOrUndone_triple hk hplain hfresh hroot hstop) fun _ => ?_
  obtain ⟨result, hresult⟩ := folderUploadResult_known hplain hdirectory
  refine (liftExcept_known hresult).weaken (fun _ h => h) (fun _ s hs => ?_) fun _ _ h => h
  obtain ⟨-, v, hprogress⟩ := hs
  exact hprogress.added hplan

theorem folderUpload_keeps {s : Machine Bytes} (hrequest : FolderRequest s.disk directoryPath relativePaths tokens) :
    FolderUploadKeeps k env order storage directoryPath files relativePaths maxSizeMb tokens s := by
  have hall : Triple (On (· = s.disk))
      (uploadFolderToStorage k env order storage directoryPath files relativePaths maxSizeMb tokens) _ _ :=
    uploadFolderToStorage_triple hk hrequest
  exact ⟨fun result s' h => hall.ok s result s' rfl h, fun r s' h => hall.error s r s' rfl h⟩

end

theorem twoExports_removes : AcceptsRemovals twoExports where
  calls i c hc := by
    refine if_neg fun hkind => ?_
    rw [hkind] at hc
    simp at hc

theorem folderTarget_set : folderTarget "" "set/a.raw" = .ok "set/a.raw" := by decide

theorem looseDisks_request : FolderRequest looseDisks "" ["set/a.raw"] fun _ => "7" := by
  have hplain : ∀ relative ∈ ["set/a.raw"], ∀ target, folderTarget "" relative = .ok target →
      Text.posixParts target = ["set", "a.raw"] := by
    intro relative hrelative target htarget
    rw [List.mem_singleton.mp hrelative, folderTarget_set, Except.ok.injEq] at htarget
    rw [← htarget]
    decide
  constructor
  · intro relative hrelative target htarget
    rw [hplain relative hrelative target htarget]
    decide
  · intro i
    decide
  · intro i q
    have hnode : ∀ p : Path, looseDisks.node p = if p = ["disk.raw"] then some (.file [1]) else
        if p = [] then some .directory else none := fun _ => rfl
    have hname : "disk.raw" ≠ uploadTempName "7" := by decide
    rw [hnode, if_neg, if_neg (by simp)]
    intro hq
    have hlast := congrArg List.getLast? hq
    rw [List.getLast?_concat, List.getLast?_singleton, Option.some.injEq] at hlast
    exact hname hlast.symm
  · intro i relative hrelative target htarget
    rw [hplain relative hrelative target htarget]
    decide

/-- The first file cannot be published, and its directory is taken away again. -/
theorem looseDisks_folderUpload : FolderUploadKeeps twoExports quietEnv ⟨fun l => l, List.Perm.refl⟩ trashMount ""
    [⟨"a.raw", some 2, [[1], [2]]⟩] ["set/a.raw"] 0 (fun _ => "7") ⟨looseDisks, 0⟩ :=
  folderUpload_keeps twoExports_removes looseDisks_request

end PveHelper.Files
