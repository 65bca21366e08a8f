/-
An upload of one file is all or nothing. Whatever fails, what was there is there. An upload
that ends has added its one entry, with all that was sent and no more than is allowed; one
that is refused has added nothing, where what is taken away can be taken away.
-/
import PveHelper.Files.Actions

namespace PveHelper.Files

open Lib

variable {k : Kernel} {env : ActionEnv} {d d₁ d' : Disk Bytes} {root target temp fd : Path} {data : Bytes}
  {name path : String} {parts : List String}

/-- Opening, looking and taking away are not refused but by the tree, and no close fails. -/
structure AcceptsRemovals (k : Kernel) : Prop where
  calls : k.Accepts [.openRoot, .openDirectory, .stat, .unlink, .rmdir, .close]

theorem AcceptsRemovals.not_closeRaised (h : AcceptsRemovals k) {r : Raised} : ¬ CloseRaised k r := by
  rintro ⟨e, i, fd, -, hfault⟩
  rw [h.calls _ _ (by simp)] at hfault
  cases hfault

theorem AcceptsRemovals.discards (h : AcceptsRemovals k) : k.Accepts [.close, .unlink, .rmdir] := fun i c hc =>
  h.calls i c (by simp only [List.mem_cons, List.not_mem_nil, or_false] at hc ⊢; tauto)

theorem AcceptsRemovals.close_triple (h : AcceptsRemovals k) {P : Machine Bytes → Prop} {E : Raised → Machine Bytes → Prop}
    (hP : ∀ s i, P s → P ⟨s.disk, i⟩) : Triple P (close k fd) (fun _ => P) E :=
  Triple.raisingAs (Kernel.ask_accepted h.calls (by simp) (fun s u i hs _ => hP s i hs) fun s e i _ hno => by cases hno)

theorem liftExcept_known {β : Type} {b : β} {x : Except Raised β} {P : Machine Bytes → Prop}
    {E : Raised → Machine Bytes → Prop} (h : x = .ok b) : Triple P (liftExcept x) (fun b' s => b' = b ∧ P s) E := by
  rw [h]
  exact Triple.pure fun s hs => ⟨rfl, hs⟩

theorem lastPart_known {q : List String} {P : Machine Bytes → Prop} {E : Raised → Machine Bytes → Prop} :
    Triple P (lastPart (q ++ [name])) (fun n s => n = name ∧ P s) E := by
  unfold lastPart
  rw [List.getLast?_concat]
  exact Triple.pure fun s hs => ⟨rfl, hs⟩

/-! ## What is written and what is taken away -/

/-- The one path, which was free, holds a file with this content; all else is as it was. -/
structure Written (d : Disk Bytes) (target : Path) (data : Bytes) (d' : Disk Bytes) : Prop where
  free : d.node target = none
  node : ∀ q, d'.node q = if q = target then some (.file data) else d.node q

namespace Written

theorem holds (h : Written d target data d') : d'.node target = some (.file data) := by
  rw [h.node, if_pos rfl]

theorem grows (h : Written d target data d') : d.Grows d' := by
  intro q hq
  have hne : q ≠ target := by
    rintro rfl
    rw [h.free] at hq
    cases hq
  rw [h.node, if_neg hne]

theorem of_add {p : Path} {n : String} (h : d.add p n (.file []) = .ok d') : Written d (p ++ [n]) [] d' := by
  obtain ⟨hfree, -, -, hnode⟩ := Disk.add_ok.mp h
  exact ⟨hfree, hnode⟩

theorem alter {chunk : Bytes} (h : Written d target data d') :
    Written d target (data ++ chunk) (d'.alter target (· ++ chunk)) where
  free := h.free
  node q := by
    rw [Disk.node_alter_file h.holds, h.node]
    split <;> rfl

/-- A written file that is moved to a free path is as one that was written there. -/
theorem moved (h : Written d temp data d₁) (hmoved : MovedTo d₁ temp target d') : Written d target data d' := by
  obtain ⟨p, n, rfl, -, hrename⟩ := hmoved
  obtain ⟨hfree, hm, rfl⟩ := Disk.renameNoReplace_ok hrename
  have hne : p ++ [n] ≠ temp := by
    rintro rfl
    rw [h.holds] at hfree
    cases hfree
  have hfree' : d.node (p ++ [n]) = none := by rwa [h.node, if_neg hne] at hfree
  refine ⟨hfree', fun q => ?_⟩
  by_cases htarget : p ++ [n] <+: q
  · obtain ⟨r, rfl⟩ := htarget
    rw [Disk.node_move_target, h.node]
    by_cases hr : r = []
    · rw [hr, List.append_nil, List.append_nil, if_pos rfl, if_pos rfl]
    · rw [if_neg (by simpa using hr), if_neg (by simpa using hr), Disk.node_below_free h.free,
        Disk.node_below_free hfree']
  · have hq : q ≠ p ++ [n] := fun he => htarget (he ▸ List.prefix_rfl)
    rw [if_neg hq]
    by_cases hsource : temp <+: q
    · obtain ⟨r, rfl⟩ := hsource
      rw [Disk.node_move_source hfree, Disk.node_below_free h.free]
    · rw [Disk.node_move, Disk.origin, if_neg htarget, if_neg hsource, Option.bind_some, h.node, if_neg]
      rintro rfl
      exact hsource List.prefix_rfl

end Written

/-- A tree in `P`, and then nothing at this path. -/
def Cleared (P : Disk Bytes → Prop) (target : Path) (d' : Disk Bytes) : Prop :=
  ∃ d₁, P d₁ ∧ ∀ q, d'.node q = if q = target then none else d₁.node q

theorem Cleared.of_free {P : Disk Bytes → Prop} (h : P d') (hfree : d'.node target = none) : Cleared P target d' := by
  refine ⟨d', h, fun q => ?_⟩
  split
  · rename_i hq
    rw [hq, hfree]
  · rfl

/-- What was written and then taken away was never there. -/
theorem Cleared.written (h : Cleared (fun d' => ∃ data, Written d target data d') target d') : d' = d := by
  obtain ⟨d₁, ⟨data, hwritten⟩, hnode⟩ := h
  ext q
  rw [hnode, hwritten.node]
  split
  · rename_i hq
    rw [hq, hwritten.free]
  · rfl

/-! ## Removals that are not refused -/

/-- What is no directory can be taken away, unless nothing is there. -/
theorem unlink_refused {e : Errno} (hfile : ∀ x, d.node (fd ++ [name]) = some x → x.isDirectory = false)
    (h : d.unlink fd name = .error e) : e = .noent ∧ d.node (fd ++ [name]) = none := by
  cases hnode : d.node (fd ++ [name]) with
  | none =>
    rw [Disk.unlink, hnode] at h
    cases h
    exact ⟨rfl, rfl⟩
  | some x =>
    have hx := hfile x hnode
    rw [Disk.unlink_prune hnode hx] at h
    cases h

section
variable (hk : AcceptsRemovals k) {P : Disk Bytes → Prop}
include hk

theorem openBeneath_refused : Triple (On fun d' => P d' ∧ d'.isDirectory fd = true) (openBeneath k fd parts)
    (fun fd' s => fd' = fd ++ parts ∧ On P s)
    fun r => On fun d' => (∃ message, r = .confined .failed message) ∧ P d' ∧ d'.isDirectory (fd ++ parts) = false := by
  induction parts generalizing fd with
  | nil => exact Triple.pure fun s hs => ⟨(List.append_nil fd).symm, hs.1⟩
  | cons part parts ih =>
    refine Triple.bind (Q := fun next s => next = fd ++ [part] ∧
      On (fun d' => P d' ∧ d'.isDirectory (fd ++ [part]) = true) s) ?_ fun next => Triple.of_pure fun hnext => ?_
    · refine Triple.reraising ?_ fun r => hk.close_triple fun _ _ h => h
      refine Triple.bind (Triple.raisingAs (Kernel.ask_accepted hk.calls (by simp) (fun s b i hs hopen => ?_)
        fun s e i hs hopen => ?_)) fun next => Triple.bind (hk.close_triple fun _ _ h => h) fun _ =>
        Triple.pure fun _ h => h
      · obtain ⟨hb, hnode⟩ := Disk.openDirectory_ok.mp hopen
        exact ⟨hb, hs.1, Disk.isDirectory_iff.mpr hnode⟩
      · refine ⟨⟨_, rfl⟩, hs.1, ?_⟩
        rw [List.append_cons fd part parts, ← Bool.not_eq_true]
        intro hdir
        rw [Disk.openDirectory_ok.mpr ⟨rfl, Disk.isDirectory_iff.mp (isDirectory_above hdir)⟩] at hopen
        cases hopen
    · subst hnext
      rw [List.append_cons fd part parts]
      exact ih

/-- A parent is opened, or it is no directory. -/
theorem openParent_refused : Triple (On P) (openParent k root parts) (fun fd s => fd = root ++ parts ∧ On P s)
    fun r => On fun d' => (∃ message, r = .confined .failed message) ∧ P d' ∧
    d'.isDirectory (root ++ parts) = false := by
  refine Triple.bind (Q := fun fd s => fd = root ∧ On (fun d' => P d' ∧ d'.isDirectory root = true) s) ?_
    fun fd => Triple.of_pure fun hfd => ?_
  · refine Triple.raisingAs (Kernel.ask_accepted hk.calls (by simp) (fun s b i hs hopen => ?_) fun s e i hs hopen =>
      ?_)
    · split at hopen <;> cases hopen
      exact ⟨rfl, hs, ‹_›⟩
    · refine ⟨⟨_, rfl⟩, hs, ?_⟩
      rw [← Bool.not_eq_true]
      intro hdir
      rw [if_pos (isDirectory_above hdir)] at hopen
      cases hopen
  · subst hfd
    exact openBeneath_refused hk

theorem openParentOf_refused : Triple (On P) (openParentOf k root parts true)
    (fun fd s => (∀ fd', fd = some fd' → fd' = root ++ parts.dropLast) ∧ On P s ∧
      (fd = none → s.disk.isDirectory (root ++ parts.dropLast) = false)) fun _ _ => False := by
  refine Triple.except (F := fun r => On fun d' => (∃ message, r = .confined .failed message) ∧ P d' ∧
    d'.isDirectory (root ++ parts.dropLast) = false) ?_ (fun r m hm => ?_) fun r s hr hs => ?_
  · refine Triple.bind (openParent_refused hk) fun fd => Triple.of_pure fun hfd => Triple.pure fun s hs => ?_
    refine ⟨fun fd' hfd' => ?_, hs, fun hnone => ?_⟩
    · cases hfd'
      exact hfd
    · cases hnone
  · split at hm
    · cases hm
      refine Triple.pure fun s hs => ⟨fun fd' hfd' => ?_, hs.2.1, fun _ => hs.2.2⟩
      cases hfd'
    · cases hm
  · obtain ⟨⟨message, rfl⟩, -⟩ := hs
    cases hr

/-- What is no directory is taken away, where it was there. -/
theorem removeConfinedFile_clears (hpath : normalizedRelativePath path = .ok parts) (hne : parts ≠ [])
    (hfile : ∀ d', P d' → ∀ x, d'.node (root ++ parts) = some x → x.isDirectory = false) :
    Triple (On P) (removeConfinedFile k root path true) (fun _ => On (Cleared P (root ++ parts))) fun _ _ =>
      False := by
  obtain ⟨q, name, rfl⟩ : ∃ q name, parts = q ++ [name] := ⟨_, _, (List.dropLast_append_getLast hne).symm⟩
  rw [← List.append_assoc] at hfile ⊢
  refine Triple.bind (liftExcept_known hpath) fun parts => Triple.of_pure fun hparts => ?_
  subst hparts
  refine Triple.bind (openParentOf_refused hk) fun fd => Triple.of_pure fun hfd => ?_
  rw [List.dropLast_concat] at hfd ⊢
  cases fd with
  | none =>
    refine Triple.pure fun s hs => Cleared.of_free hs.1 ?_
    by_contra hthere
    have hdir := s.disk.holder (root ++ q) name (Option.isSome_iff_ne_none.mpr hthere)
    rw [← Disk.isDirectory_iff, hs.2 rfl] at hdir
    cases hdir
  | some fd =>
    rw [hfd fd rfl]
    refine Triple.ensuring (M := fun _ => On (Cleared P (root ++ q ++ [name]))) (F := fun _ _ => False) ?_
      (fun _ => hk.close_triple fun _ _ h => h) fun _ => hk.close_triple fun _ _ h => h
    refine Triple.bind lastPart_known fun name' => Triple.of_pure fun hname => ?_
    subst hname
    refine Triple.except (F := fun r s => r = .os .noent ∧ On (Cleared P (root ++ q ++ [name'])) s) ?_
      (fun r m hm => ?_) fun r s hr hs => ?_
    · refine Triple.raisingAs (Kernel.act_accepted hk.calls (by simp) (fun s d' i hs hunlink => ?_)
        fun s e i hs hunlink => ?_)
      · exact ⟨s.disk, hs.1, (Disk.unlink_ok.mp hunlink).2⟩
      · obtain ⟨he, hfree⟩ := unlink_refused (hfile s.disk hs.1) hunlink
        exact ⟨congrArg _ he, Cleared.of_free hs.1 hfree⟩
    · split at hm
      · split at hm <;> cases hm
        · exact Triple.pure fun s hs => hs.2
        · refine Triple.of_pure fun he => ?_
          cases he
          exact absurd ⟨rfl, rfl⟩ ‹¬ (_ ∧ _)›
      · cases hm
    · obtain ⟨rfl, -⟩ := hs
      cases hr

end

/-! ## What is raised -/

/-- An error that an upload catches. -/
def Caught (r : Raised) : Prop := (uploadRaised r).isSome = true

theorem caught_confined {kind : ConfinedKind} {message : String} : Caught (.confined kind message) := by
  cases kind <;> rfl

theorem liftNormalized_raises : Raises Caught (liftExcept (normalizedRelativePath path)) := by
  intro s r s' h
  obtain ⟨message, rfl⟩ := normalizedRelativePath_error (liftExcept_error.mp h).1
  exact caught_confined

theorem lastPart_raises {K : Raised → Prop} (hne : parts ≠ []) : Raises K (lastPart parts) := by
  rw [← List.dropLast_append_getLast hne, lastPart, List.getLast?_concat]
  exact Raises.pure

theorem close_caught : Raises Caught (close k fd) := by
  intro s r s' h
  obtain ⟨e, i, fd, rfl, -⟩ := close_error h
  rfl

theorem openParent_raises : Raises Caught (openParent k root parts) := by
  refine Raises.bind (Raises.raisingAs fun _ => caught_confined) fun fd => ?_
  induction parts generalizing fd with
  | nil => exact Raises.pure
  | cons part parts ih =>
    refine Raises.bind (Raises.reraising ?_ close_caught) fun next => ih next
    exact Raises.bind (Raises.raisingAs fun _ => caught_confined) fun next => Raises.bind close_caught fun _ =>
      Raises.pure

/-- A handler of a call whose parts raise what is caught. -/
theorem exceptOs_raises {β : Type} {m : Program Bytes Errno β} {handler : Raised → Option (Fs β)}
    (h : ∀ r m', handler r = some m' → Raises Caught m') : Raises Caught (except (raisingAs Raised.os m) handler) := by
  refine Raises.except h fun s r s' hr _ => ?_
  obtain ⟨e, -, rfl⟩ := raisingAs_error.mp hr
  rfl

section
variable {k : Kernel} {sourceFd targetFd : Path} {sourceName targetName : String} {sourceIsDirectory : Bool}

theorem raise_confined {β : Type} {kind : ConfinedKind} {message : String} :
    Raises Caught (raise (.confined kind message) : Fs β) := Raises.raise caught_confined

theorem statConfinedChild_raises {expected : Expected} : Raises Caught (statConfinedChild k fd name expected) := by
  refine Raises.bind (exceptOs_raises fun r m hm => ?_) fun x =>
    Raises.bind (Raises.unlessRaise caught_confined) fun _ => Raises.pure
  split at hm <;> cases hm <;> exact raise_confined

theorem createExclusiveChild_raises : Raises Caught (createExclusiveChild k fd name) := by
  refine exceptOs_raises fun r m hm => ?_
  split at hm <;> cases hm <;> exact raise_confined

theorem renameFailure_caught (e : Errno) : Caught (renameFailure e) := by cases e <;> rfl

theorem renameReserved_raises :
    Raises Caught (renameReserved k sourceFd sourceName targetFd targetName sourceIsDirectory) := by
  refine exceptOs_raises fun r m hm => ?_
  split at hm <;> cases hm
  refine Raises.bind (exceptOs_raises fun r m hm => ?_) fun _ => Raises.raise (renameFailure_caught _)
  split at hm <;> cases hm
  exact Raises.pure

theorem reserve_raises : Raises Caught (reserve k targetFd targetName sourceIsDirectory) := by
  refine Raises.bind (exceptOs_raises fun r m hm => ?_) fun _ => ?_
  · split at hm <;> cases hm <;> exact raise_confined
  · cases sourceIsDirectory
    · exact close_caught
    · exact Raises.pure

theorem renameat2Noreplace_raises :
    Raises Caught (renameat2Noreplace k sourceFd sourceName targetFd targetName sourceIsDirectory) := by
  refine exceptOs_raises fun r m hm => ?_
  split at hm
  · cases hm
    exact raise_confined
  · cases hm
    exact raise_confined
  · split at hm <;> cases hm
    · refine Raises.bind (Raises.unlessRaise caught_confined) fun _ =>
        Raises.bind reserve_raises fun _ => renameReserved_raises
    · exact raise_confined
  · cases hm

end

/-- A rename between two named entries raises what is caught. -/
theorem renameEntryNoreplace_raises {sourceRoot targetRoot : Path} {source target : String} {expected : Expected}
    (hs : Text.posixParts source ≠ []) (ht : Text.posixParts target ≠ []) :
    Raises Caught (renameEntryNoreplace k sourceRoot source target targetRoot expected false) := by
  refine Raises.after liftNormalized_raises liftExcept_returns fun sourceParts hsource => ?_
  refine Raises.after liftNormalized_raises liftExcept_returns fun targetParts htarget => ?_
  rw [← parts_of_normalized hsource] at hs
  rw [← parts_of_normalized htarget] at ht
  refine Raises.bind openParent_raises fun sourceFd => Raises.bind (Raises.reraising ?_ close_caught) fun found => ?_
  · exact Raises.bind (lastPart_raises hs) fun _ => Raises.bind statConfinedChild_raises fun _ =>
      Raises.bind openParent_raises fun _ => Raises.pure
  · exact Raises.ensuring (Raises.bind (lastPart_raises ht) fun _ => renameat2Noreplace_raises)
      (Raises.bind close_caught fun _ => close_caught)

theorem writeChunk_raises {k : Kernel} {chunk : Bytes} : Raises Caught (writeChunk k target chunk) :=
  Raises.raisingAs fun _ => rfl

theorem writeUpload_raises {maxSizeMb : Int} {written : Nat} {chunks : List Bytes} :
    Raises Caught (writeUpload k target maxSizeMb written chunks) := by
  induction chunks generalizing written with
  | nil => exact Raises.pure
  | cons chunk chunks ih =>
    exact Raises.bind (Raises.unlessRaise rfl) fun _ => Raises.bind writeChunk_raises fun _ => ih

theorem publishUpload_raises {handle : Path} {maxSizeMb : Int} {chunks : List Bytes} {temp target : String}
    (hs : Text.posixParts temp ≠ []) (ht : Text.posixParts target ≠ []) :
    Raises Caught (publishUpload k root handle maxSizeMb chunks temp target) := by
  refine Raises.bind (Raises.ensuring writeUpload_raises ?_) fun _ =>
    Raises.bind (renameEntryNoreplace_raises hs ht) fun _ => Raises.pure
  exact Raises.ensuring (Raises.raisingAs fun _ => rfl) close_caught

/-! ## The parts of an upload -/

theorem createRegularFileExclusive_triple : Triple (On (· = d)) (createRegularFileExclusive k root path)
    (fun handle s => (handle = root ++ Text.posixParts path ∧ Text.posixParts path ≠ [] ∧
      normalizedRelativePath path = .ok (Text.posixParts path)) ∧ On (Written d handle []) s)
    fun r => On fun d' => d' = d ∨ CloseRaised k r ∧ Written d (root ++ Text.posixParts path) [] d' := by
  refine Triple.bind (liftExcept_triple.raises fun _ _ hs => .inl hs) fun parts => Triple.of_pure fun hparts => ?_
  rw [← parts_of_normalized hparts]
  refine Triple.bind ((still openParent_sameDisk openParent_returns).raises fun _ _ hs => .inl hs) fun fd =>
    Triple.of_pure fun hfd => ?_
  subst hfd
  refine Triple.ensuring (M := fun handle s => (handle = root ++ parts ∧ parts ≠ []) ∧ On (Written d handle []) s)
    (F := fun _ => On (· = d)) ?_ (fun handle => ?_)
    fun _ => (close_triple _).weaken (fun _ h => h) (fun _ _ h => .inl h) fun _ _ h => .inl h.2
  · refine Triple.bind lastPart_triple fun name => Triple.of_pure fun hname => ?_
    obtain ⟨q, rfl⟩ := hname
    rw [List.dropLast_concat]
    refine Triple.bind (Q := fun _ => On (Written d (root ++ q ++ [name]) [])) ?_ fun _ => Triple.pure fun s hs => ?_
    · refine Triple.except (F := fun _ => On (· = d)) ?_ (fun r m hm => ?_) fun r s _ hs => hs
      · refine Triple.raisingAs (Kernel.act_triple (fun s d' i hs hadd => ?_) fun s e i hs => hs)
        have hdisk : s.disk = d := hs
        exact Written.of_add (hdisk ▸ hadd)
      · split at hm <;> cases hm <;> exact Triple.raise fun s hs => hs
    · exact ⟨⟨List.append_assoc .., by simp⟩, hs⟩
  · refine Triple.of_pure fun hhandle => ?_
    obtain ⟨rfl, hne⟩ := hhandle
    exact (close_triple _).weaken (fun _ h => h) (fun _ _ h => ⟨⟨rfl, hne, hparts⟩, h⟩) fun _ _ h => .inr h

theorem withinMax_zero (maxSizeMb : Int) : withinMax maxSizeMb 0 = true := by
  unfold withinMax
  cases uploadMaxBytes maxSizeMb with
  | none => rfl
  | some size => exact decide_eq_true (Nat.zero_le size)

/-- An upload's data, and the number of its bytes, which is allowed. -/
structure Sent (d : Disk Bytes) (target : Path) (maxSizeMb : Int) (data : Bytes) (n : Nat) (d' : Disk Bytes) :
    Prop where
  written : Written d target data d'
  size : n = data.length
  allowed : withinMax maxSizeMb n = true

/-- What is written is what was read, and no more than is allowed. -/
theorem writeUpload_triple {maxSizeMb : Int} {chunks : List Bytes} (hmax : withinMax maxSizeMb data.length = true) :
    Triple (On (Written d target data)) (writeUpload k target maxSizeMb data.length chunks)
      (fun n => On (Sent d target maxSizeMb (data ++ chunks.flatten) n))
      fun _ => On fun d' => ∃ data, Written d target data d' := by
  induction chunks generalizing data with
  | nil =>
    rw [List.flatten_nil, List.append_nil]
    exact Triple.pure fun s hs => ⟨hs, rfl, hmax⟩
  | cons chunk chunks ih =>
    refine Triple.bind (Q := fun _ s => withinMax maxSizeMb (data.length + chunk.length) = true ∧
      On (Written d target data) s) (Triple.unlessRaise (fun s hs hmax => ⟨hmax, hs⟩) fun s hs => ⟨_, hs⟩) fun _ =>
      Triple.of_pure fun hmax => ?_
    refine Triple.bind (Q := fun _ => On (Written d target (data ++ chunk))) ?_ fun _ => ?_
    · refine Triple.raisingAs (Kernel.act_triple (fun s d' i hs hwrite => ?_) fun s e i hs => ⟨_, hs⟩)
      rw [Except.ok.injEq] at hwrite
      exact show Written d target _ d' from hwrite ▸ Written.alter hs
    · rw [← List.length_append] at hmax ⊢
      rw [List.flatten_cons, ← List.append_assoc]
      exact ih hmax

theorem withHandle_triple {β : Type} {handle : Path} {m : Fs β} {P : Machine Bytes → Prop}
    {Q : β → Disk Bytes → Prop} {F : Disk Bytes → Prop} (hm : Triple P m (fun b => On (Q b)) fun _ => On F)
    (hQ : ∀ b d', Q b d' → F d') : Triple P (withHandle k handle m) (fun b => On (Q b)) fun _ => On F := by
  have hend : ∀ {P : Disk Bytes → Prop}, Triple (On P) (ensuring (raisingAs Raised.os (k.ask ⟨.write, handle⟩ fun _ =>
      .ok ())) (close k handle)) (fun _ => On P) fun _ => On P :=
    looks (Maintains.ensuring (Maintains.raisingAs (k.ask_sameDisk _ _)) (close_sameDisk handle))
  exact Triple.ensuring hm (fun b => hend.raises fun _ s hs => hQ b s.disk hs) fun _ => hend

theorem publishUpload_triple {maxSizeMb : Int} {chunks : List Bytes} {temp target : String} :
    Triple (On (Written d (root ++ Text.posixParts temp) []))
      (publishUpload k root (root ++ Text.posixParts temp) maxSizeMb chunks temp target)
      (fun n => On (Sent d (root ++ Text.posixParts target) maxSizeMb chunks.flatten n))
      fun r => On fun d' => (∃ d₁ data, Written d (root ++ Text.posixParts temp) data d₁ ∧ Unmoved k d₁ d') ∨
        CloseRaised k r ∧ ∃ data, Written d (root ++ Text.posixParts target) data d' := by
  have hwritten : Triple (On (Written d (root ++ Text.posixParts temp) []))
      (withHandle k (root ++ Text.posixParts temp) (writeUpload k (root ++ Text.posixParts temp) maxSizeMb 0 chunks))
      (fun n => On (Sent d (root ++ Text.posixParts temp) maxSizeMb chunks.flatten n))
      fun _ => On fun d' => ∃ data, Written d (root ++ Text.posixParts temp) data d' :=
    withHandle_triple (writeUpload_triple (withinMax_zero maxSizeMb)) fun n d' h => ⟨_, h.written⟩
  refine Triple.bind (hwritten.raises fun r s hs => ?_) fun n => Triple.of_each fun s₁ hs₁ => ?_
  · obtain ⟨data, hs⟩ := hs
    exact .inl ⟨_, data, hs, Unmoved.refl k _⟩
  · refine Triple.bind (Q := fun _ => On (Sent d (root ++ Text.posixParts target) maxSizeMb chunks.flatten n)) ?_
      fun _ =>
      Triple.pure fun s hs => hs
    refine renameFileNoreplace_triple.weaken (fun s hs => show s.disk = s₁.disk from hs ▸ rfl) (fun _ s hs => ?_)
      fun r s hs => ?_
    · exact ⟨hs₁.written.moved hs, hs₁.size, hs₁.allowed⟩
    · rcases hs with hs | ⟨hclose, hs⟩
      · exact .inl ⟨_, _, hs₁.written, hs⟩
      · exact .inr ⟨hclose, _, hs₁.written.moved hs⟩

/-- What an upload that raised leaves: nothing that was there has changed, and where what was
written can be taken away nothing has. -/
structure Refused (k : Kernel) (d d' : Disk Bytes) : Prop where
  grows : d.Grows d'
  same : AcceptsRemovals k → d' = d

theorem Refused.refl (k : Kernel) (d : Disk Bytes) : Refused k d d := ⟨Disk.Grows.refl d, fun _ => rfl⟩

theorem removeTemp_grows (hfree : d.node (root ++ Text.posixParts path) = none) {missingOk : Bool} :
    Triple (On d.Grows) (removeConfinedFile k root path missingOk) (fun _ => On d.Grows) fun _ => On d.Grows := by
  have hremoved : ∀ {d'}, Removed d.Grows (root ++ Text.posixParts path) d' → d.Grows d' := by
    rintro d' ⟨d₁, hgrows, -, hnode⟩ q hq
    rw [hnode, if_neg, hgrows q hq]
    rintro rfl
    rw [hfree] at hq
    cases hq
  exact removeConfinedFile_triple.weaken (fun _ h => h) (fun _ _ h => h.elim And.right hremoved)
    fun _ _ h => h.elim id fun h => hremoved h.2

/-- What is raised is raised after the removal. -/
theorem discarding_triple {β : Type} {m : Fs β} {P : Machine Bytes → Prop} {Q : β → Machine Bytes → Prop}
    {temp : String}
    {F : Raised → Disk Bytes → Prop} {G : Disk Bytes → Prop} (hm : Triple P m Q fun r => On (F r))
    (hcaught : Raises Caught m)
    (hremove : ∀ r, Triple (On (F r)) (removeConfinedFile k root temp true) (fun _ => On G) fun _ => On G) :
    Triple P (discardingUpload k root temp m) Q fun _ => On G := by
  refine Triple.except (F := fun r s => Caught r ∧ On (F r) s) (hm.andRaises hcaught) (fun r m' hm' => ?_)
    fun r s hr hs => ?_
  · obtain ⟨e, -, rfl⟩ := Option.map_eq_some_iff.mp hm'
    exact Triple.of_pure fun _ => (hremove r).bind fun _ => Triple.raise fun s hs => hs
  · rw [Option.map_eq_none_iff] at hr
    rw [Caught, hr] at hs
    cases hs.1

/-- What is raised once something was written is raised after that was taken away. -/
theorem discardingUpload_triple {β : Type} {m : Fs β} {Q : β → Machine Bytes → Prop} {temp : String}
    {F : Raised → Disk Bytes → Prop} (hparts : normalizedRelativePath temp = .ok (Text.posixParts temp))
    (hne : Text.posixParts temp ≠ []) (hfree : d.node (root ++ Text.posixParts temp) = none)
    (hm : Triple (On (Written d (root ++ Text.posixParts temp) [])) m Q fun r => On (F r)) (hcaught : Raises Caught m)
    (hgrows : ∀ r d', F r d' → d.Grows d')
    (hexact : AcceptsRemovals k → ∀ r d', F r d' → ∃ data, Written d (root ++ Text.posixParts temp) data d') :
    Triple (On (Written d (root ++ Text.posixParts temp) [])) (discardingUpload k root temp m) Q
      fun _ => On (Refused k d) := by
  have hfile : ∀ d', (∃ data, Written d (root ++ Text.posixParts temp) data d') → ∀ x,
      d'.node (root ++ Text.posixParts temp) = some x → x.isDirectory = false := by
    rintro d' ⟨data, hwritten⟩ x hx
    rw [hwritten.holds, Option.some.injEq] at hx
    rw [← hx]
    rfl
  have hall : Triple (On (Written d (root ++ Text.posixParts temp) [])) (discardingUpload k root temp m) Q
      fun _ => On d.Grows :=
    discarding_triple hm hcaught fun r =>
      (removeTemp_grows hfree).weaken (fun s hs => hgrows r s.disk hs) (fun _ _ h => h) fun _ _ h => h
  have hsame : AcceptsRemovals k →
      Triple (On (Written d (root ++ Text.posixParts temp) [])) (discardingUpload k root temp m) Q fun _ =>
      On (· = d) :=
    fun hk => discarding_triple hm hcaught fun r =>
      (removeConfinedFile_clears hk hparts hne hfile).weaken (fun s hs => hexact hk r s.disk hs)
        (fun _ s hs => Cleared.written hs) fun _ _ h => h.elim
  exact ⟨hall.ok, fun s r s' hs h => ⟨hall.error s r s' hs h, fun hk => (hsame hk).error s r s' hs h⟩⟩

/-- An upload that has its own file ends with all of it at the target, or with nothing. -/
theorem publishedUpload_triple {maxSizeMb : Int} {chunks : List Bytes} {temp target : String}
    (hparts : normalizedRelativePath temp = .ok (Text.posixParts temp)) (hne : Text.posixParts temp ≠ [])
    (htarget : Text.posixParts target ≠ []) :
    Triple (On (Written d (root ++ Text.posixParts temp) []))
      (discardingUpload k root temp
        (publishUpload k root (root ++ Text.posixParts temp) maxSizeMb chunks temp target))
      (fun n => On (Sent d (root ++ Text.posixParts target) maxSizeMb chunks.flatten n)) fun _ =>
        On (Refused k d) := by
  refine Triple.of_each fun s hs => (?_ : Triple (On (Written d (root ++ Text.posixParts temp) [])) _ _ _).weaken
    (fun s' hs' => hs' ▸ hs) (fun _ _ h => h) fun _ _ h => h
  refine discardingUpload_triple hparts hne hs.free publishUpload_triple (publishUpload_raises hne htarget)
    (fun r d' h => ?_) fun hk r d' h => ?_
  · rcases h with ⟨d₁, data, hwritten, hunmoved⟩ | ⟨-, data, hwritten⟩
    · exact hwritten.grows.trans hunmoved.grows
    · exact hwritten.grows
  · rcases h with ⟨d₁, data, hwritten, hunmoved⟩ | ⟨hclose, -⟩
    · rw [hunmoved.same hk.discards]
      exact ⟨data, hwritten⟩
    · exact absurd hclose hk.not_closeRaised

/-! ## Paths of uploads -/

theorem startsWith_stripChar (s : String) : Text.startsWith (Text.stripChar '/' s) "/" = false := by
  refine relative_of_head fun hhead => ?_
  obtain ⟨cs, hcs⟩ := List.head?_eq_some_iff.mp hhead
  have hfront : Text.stripChar '/' s = String.ofList
    ((s.toList.dropWhile (· = '/')).reverse.dropWhile (· = '/')).reverse :=
    rfl
  have hpre := List.reverse_prefix.mpr (List.dropWhile_suffix (· = '/') (l := (s.toList.dropWhile (· = '/')).reverse))
  rw [List.reverse_reverse, ← String.toList_ofList (l := List.reverse _), ← hfront, hcs] at hpre
  obtain ⟨rest, hrest⟩ := hpre
  have hnot := List.head?_dropWhile_not (fun c => decide (c = '/')) s.toList
  rw [← hrest] at hnot
  simp at hnot

theorem normalizeRelativePath_names {p : String} (h : normalizeRelativePath path = .ok p) :
    ∀ n ∈ Text.posixParts p, Posix.IsName n := by
  unfold normalizeRelativePath at h
  dsimp only at h
  split at h
  · cases h
    intro n hn
    cases hn
  split at h
  · cases h
  · rw [Except.ok.injEq] at h
    have hnames := posixParts_names (startsWith_stripChar (Text.strip path))
    rw [← h, posixText]
    split
    · intro n hn
      cases hn
    · rwa [Posix.posixParts_asPosix hnames]

theorem posixParts_name (hname : Posix.IsName name) : Text.posixParts name = [name] := by
  have hparts := Posix.posixParts_asPosix (p := [name]) (by simpa using hname)
  rwa [Posix.asPosix, Posix.joined, String.ofList_toList] at hparts

/-- An entry of a directory has the directory's components and its name. -/
theorem joinRelative_parts {directory joined : String} (hname : Posix.IsName name)
    (h : joinRelative directory name = .ok joined) : ∃ p, normalizeRelativePath directory = .ok p ∧
      Text.posixParts joined = Text.posixParts p ++ [name] := by
  cases hdir : normalizeRelativePath directory with
  | error e =>
    rw [joinRelative, hdir] at h
    cases h
  | ok p =>
    refine ⟨p, rfl, ?_⟩
    rw [joinRelative, hdir] at h
    have hjoined : (if p = "" then Except.ok name else
      Except.ok (posixText (Text.posixParts p ++ Text.posixParts name))) = Except.ok (ε := Raised) joined := h
    split at hjoined
    · rename_i hempty
      rw [Except.ok.injEq] at hjoined
      rw [← hjoined, hempty, posixParts_name hname]
      rfl
    · rw [Except.ok.injEq] at hjoined
      rw [← hjoined, posixText, posixParts_name hname, if_neg (by simp), Posix.posixParts_asPosix]
      intro n hn
      rcases List.mem_append.mp hn with hn | hn
      · exact normalizeRelativePath_names hdir n hn
      · rw [List.mem_singleton.mp hn]
        exact hname

theorem safeUploadFilename_isName {filename safe : String} (h : safeUploadFilename filename = .ok safe) :
    Posix.IsName safe := by
  unfold safeUploadFilename at h
  dsimp only at h
  split at h
  · cases h
  split at h
  · cases h
  · rename_i hbad _
    rw [Except.ok.injEq] at h
    rw [h] at hbad
    push Not at hbad
    exact ⟨hbad.1, hbad.2.2.2.1, hbad.2.1⟩

/-! ## The whole upload -/

theorem requireConfinedDirectory_sameDisk : Maintains SameDisk (requireConfinedDirectory k path root) := by
  unfold requireConfinedDirectory
  split
  · exact Maintains.pure ()
  · exact Maintains.bind (confinedEntryStat_sameDisk path) fun _ => Maintains.unlessRaise _ _

section
variable {storage : ActionMount} {directoryPath token : String} {uploaded : UploadedFile} {maxSizeMb : Int}

theorem uploadToStorage_triple :
    Triple (On (· = d)) (uploadToStorage k env storage directoryPath uploaded maxSizeMb token)
      (fun result => On (Sent d (storage.root ++ Text.posixParts result.path) maxSizeMb uploaded.chunks.flatten
        result.sizeBytes))
      fun r => On fun d' => Refused k d d' ∨ CloseRaised k r ∧ d.Grows d' := by
  have hstill : ∀ {r : Raised} {s : Machine Bytes}, On (· = d) s →
      On (fun d' => Refused k d d' ∨ CloseRaised k r ∧ d.Grows d') s :=
    fun hs => .inl (show Refused k d _ from hs ▸ Refused.refl k d)
  have hroot : Returns (· = storage.root) (storageRoot k storage) := fun s root s' h =>
    (storageRoot_ok.mp h).1
  refine Triple.bind ((looks requireStorageWriteAccess_sameDisk).raises fun _ _ => hstill) fun _ => ?_
  refine Triple.bind (liftExcept_triple.raises fun _ _ => hstill) fun filename => Triple.of_pure fun hfilename => ?_
  refine Triple.bind ((looks (Maintains.unlessRaise _ _)).raises fun _ _ => hstill) fun _ => ?_
  refine Triple.bind ((still storageRoot_sameDisk hroot).raises fun _ _ => hstill) fun root =>
    Triple.of_pure fun hroot => ?_
  subst hroot
  refine Triple.bind (liftExcept_triple.raises fun _ _ => hstill) fun directory => Triple.of_pure fun _ => ?_
  refine Triple.bind ((looks requireConfinedDirectory_sameDisk).raises fun _ _ => hstill) fun _ => ?_
  refine Triple.bind (liftExcept_triple.raises fun _ _ => hstill) fun target => Triple.of_pure fun htarget => ?_
  refine Triple.bind ((looks (confinedEntryStat_sameDisk _)).raises fun _ _ => hstill) fun there => ?_
  refine Triple.bind ((looks (Maintains.unlessRaise _ _)).raises fun _ _ => hstill) fun _ => ?_
  refine Triple.bind (liftExcept_triple.raises fun _ _ => hstill) fun temp => Triple.of_pure fun htemp => ?_
  refine Triple.bind (Q := fun handle s => (handle = storage.root ++ Text.posixParts temp ∧ Text.posixParts temp ≠ [] ∧
      normalizedRelativePath temp = .ok (Text.posixParts temp)) ∧ On (Written d handle []) s) ?_ fun handle =>
    Triple.of_pure fun hhandle => ?_
  · refine exceptConfined_triple createRegularFileExclusive_triple (fun kind message => Triple.raise fun s hs => ?_)
      fun r s _ hs => ?_
    · exact hstill (hs.resolve_right fun h => CloseRaised.not_confined h.1)
    · exact hs.elim (fun hs => hstill hs) fun hs => .inr ⟨hs.1, hs.2.grows⟩
  obtain ⟨rfl, hne, hparts⟩ := hhandle
  obtain ⟨p, -, htargetParts⟩ := joinRelative_parts (safeUploadFilename_isName hfilename) htarget
  have htargetNe : Text.posixParts target ≠ [] := by simp [htargetParts]
  refine Triple.bind ((publishedUpload_triple hparts hne htargetNe).raises fun _ _ hs => .inl hs) fun written => ?_
  exact Triple.bind (liftExcept_known htarget) fun path => Triple.of_pure fun hpath => Triple.pure fun s hs =>
    hpath ▸ hs

/-- Nothing that was there changes. An upload that ends has put all that was sent at a path that
was free, and has changed nothing else; one that raises has changed nothing, where what was
written can be taken away. -/
structure UploadKeeps (k : Kernel) (env : ActionEnv) (storage : ActionMount) (directoryPath : String)
    (uploaded : UploadedFile)
    (maxSizeMb : Int) (token : String) (s : Machine Bytes) : Prop where
  exits : s.disk.Grows (final (uploadToStorage k env storage directoryPath uploaded maxSizeMb token) s).disk
  ends : ∀ result s', uploadToStorage k env storage directoryPath uploaded maxSizeMb token s = .ok result s' →
    Sent s.disk (storage.root ++ Text.posixParts result.path) maxSizeMb uploaded.chunks.flatten result.sizeBytes s'.disk
  raises : AcceptsRemovals k → ∀ r s', uploadToStorage k env storage directoryPath uploaded maxSizeMb token s = .error r s' →
    s'.disk = s.disk

theorem upload_keeps (s : Machine Bytes) : UploadKeeps k env storage directoryPath uploaded maxSizeMb token s := by
  have hall : Triple (On (· = s.disk)) (uploadToStorage k env storage directoryPath uploaded maxSizeMb token) _ _ :=
    uploadToStorage_triple
  constructor
  · unfold final
    cases hrun : uploadToStorage k env storage directoryPath uploaded maxSizeMb token s with
    | ok result s' => exact (hall.ok s result s' rfl hrun).written.grows
    | error r s' =>
      rcases hall.error s r s' rfl hrun with hrefused | ⟨-, hgrows⟩
      · exact hrefused.grows
      · exact hgrows
  · exact fun result s' hrun => hall.ok s result s' rfl hrun
  · intro hk r s' hrun
    rcases hall.error s r s' rfl hrun with hrefused | ⟨hclose, -⟩
    · exact hrefused.same hk
    · exact absurd hclose hk.not_closeRaised

end

end PveHelper.Files
