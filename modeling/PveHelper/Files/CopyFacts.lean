/-
What the ways to bring a file elsewhere leave of the tree, whichever of their calls fails, a
close among them. Until something is renamed, written or removed the tree has only grown;
a copy that raises has only made it grow; and what a rename moved stays moved when a close
after it fails.
-/
import PveHelper.Files.Copies
import PveHelper.Files.NormalPath
import PveHelper.Files.RenameFacts

namespace PveHelper.Files

open Lib

variable {k : Kernel} {d : Disk Bytes} {fd root : Path} {parts : List String} {s s' : Machine Bytes} {r : Raised}

/-! ## Renames -/

/-- This file was moved to this path. -/
def MovedTo (d : Disk Bytes) (source target : Path) (d' : Disk Bytes) : Prop :=
  ∃ p n, target = p ++ [n] ∧ (d.node source).any Node.isFile = true ∧ d.renameNoReplace source p n = .ok d'

theorem Renamed.movedTo {sourceRoot targetRoot : Path} {source target : String} {d' : Disk Bytes}
    (h : Renamed d sourceRoot targetRoot source target .file d') :
    MovedTo d (sourceRoot ++ Text.posixParts source) (targetRoot ++ Text.posixParts target) d' := by
  obtain ⟨sp, sn, tp, tn, x, hsource, htarget, hx, hfile, hmoved⟩ := h
  rw [← parts_of_normalized hsource, ← parts_of_normalized htarget, ← List.append_assoc, ← List.append_assoc]
  exact ⟨targetRoot ++ tp, tn, rfl, by rw [hx]; exact hfile, hmoved⟩

/-- A file that is renamed is moved from the one path to the other, or it stays. -/
theorem renameFileNoreplace_triple {sourceRoot targetRoot : Path} {source target : String} :
    Triple (On (· = d)) (renameEntryNoreplace k sourceRoot source target targetRoot .file false)
      (fun _ => On (MovedTo d (sourceRoot ++ Text.posixParts source) (targetRoot ++ Text.posixParts target)))
      fun r => On fun d' => Unmoved k d d' ∨
        CloseRaised k r ∧ MovedTo d (sourceRoot ++ Text.posixParts source) (targetRoot ++ Text.posixParts target) d' :=
  renameEntryNoreplace_triple.weaken (fun _ h => h) (fun _ _ h => h.movedTo) fun _ _ h => h.imp_right fun h => ⟨h.1, h.2.movedTo⟩

/-! ## Removals -/

/-- A tree in `P`, and then this entry, which is no directory, was taken away. -/
def Removed (P : Disk Bytes → Prop) (target : Path) (d' : Disk Bytes) : Prop :=
  ∃ d₁, P d₁ ∧ (∃ x, d₁.node target = some x ∧ x.isDirectory = false) ∧ ∀ q,
    d'.node q = if q = target then none else d₁.node q

theorem openParentOf_triple {P : Disk Bytes → Prop} {missingOk : Bool} :
    Triple (On P) (openParentOf k root parts missingOk)
      (fun fd s => (∀ fd', fd = some fd' → fd' = root ++ parts.dropLast) ∧ (fd = none → missingOk = true) ∧ On P s)
      fun _ => On P := by
  refine Triple.except (F := fun _ => On P) ?_ (fun r m hm => ?_) fun r s _ hs => hs
  · refine Triple.bind (still openParent_sameDisk openParent_returns) fun fd => Triple.of_pure fun hfd =>
      Triple.pure fun s hs => ?_
    refine ⟨fun fd' hfd' => ?_, fun hnone => ?_, hs⟩
    · cases hfd'
      exact hfd
    · cases hnone
  · split at hm
    · split at hm <;> cases hm
      rename_i hmissing
      refine Triple.pure fun s hs => ⟨fun fd' hfd' => ?_, fun _ => hmissing, hs⟩
      cases hfd'
    · cases hm

/-- A removal takes its one entry away. Where it raises it has not, unless a close failed
once it had. -/
theorem removeConfinedFile_triple {P : Disk Bytes → Prop} {path : String} {missingOk : Bool} :
    Triple (On P) (removeConfinedFile k root path missingOk)
      (fun _ => On fun d' => (missingOk = true ∧ P d') ∨ Removed P (root ++ Text.posixParts path) d')
      fun r => On fun d' => P d' ∨ CloseRaised k r ∧ Removed P (root ++ Text.posixParts path) d' := by
  refine Triple.bind (liftExcept_triple.raises fun _ _ hs => .inl hs) fun parts => Triple.of_pure fun hparts => ?_
  rw [← parts_of_normalized hparts]
  refine Triple.bind (openParentOf_triple.raises fun _ _ hs => .inl hs) fun fd => Triple.of_pure fun hfd =>
    Triple.of_pure fun hnone => ?_
  cases fd with
  | none => exact Triple.pure fun s hs => .inl ⟨hnone rfl, hs⟩
  | some fd =>
    have hfd' := hfd fd rfl
    refine Triple.ensuring (M := fun _ => On fun d' => (missingOk = true ∧ P d') ∨ Removed P (root ++ parts) d')
      (F := fun _ => On P) ?_
      (fun _ => ?_) fun r => (close_triple fd).weaken (fun _ h => h) (fun _ _ h => .inl h) fun _ _ h => .inl h.2
    · refine Triple.bind lastPart_triple fun name => Triple.of_pure fun hname => ?_
      obtain ⟨q, rfl⟩ := hname
      rw [List.dropLast_concat] at hfd'
      rw [hfd', ← List.append_assoc]
      refine Triple.except (F := fun _ => On P) ?_ (fun r m hm => ?_) fun r s _ hs => hs
      · refine Triple.raisingAs (Kernel.act_triple (fun s d' i hs hunlink => ?_) fun s e i hs => hs)
        obtain ⟨hthere, hnode⟩ := Disk.unlink_ok.mp hunlink
        exact .inr ⟨s.disk, hs, hthere, hnode⟩
      · split at hm
        · split at hm
          · cases hm
            exact Triple.pure fun s hs => .inl ⟨(‹_ ∧ _›).2, hs⟩
          · cases hm
            exact Triple.raise fun s hs => hs
        · cases hm
    · exact (close_triple fd).raises fun r s hs => by
        obtain ⟨hos, hleft | hremoved⟩ := hs
        · exact .inl hleft.2
        · exact .inr ⟨hos, hremoved⟩

/-! ## Copies -/

theorem openRegularFileHandle_sameDisk (path : String) : Maintains SameDisk (openRegularFileHandle k root path) := by
  refine Maintains.bind (liftExcept_sameDisk _) fun parts => Maintains.bind openParent_sameDisk fun fd => ?_
  refine Maintains.bind (Maintains.reraising ?_ (close_sameDisk fd)) fun name => ?_
  · exact Maintains.bind (lastPart_sameDisk _) fun name =>
      Maintains.bind (Maintains.raisingAs (k.ask_sameDisk _ _)) fun _ => Maintains.pure _
  · have hclose : Maintains SameDisk (do close k (fd ++ [name]); close k fd) :=
      Maintains.bind (close_sameDisk _) fun _ => close_sameDisk fd
    refine Maintains.bind (Maintains.reraising ?_ hclose) fun _ => Maintains.bind (close_sameDisk fd) fun _ =>
      Maintains.pure _
    exact Maintains.bind (Maintains.raisingAs (k.ask_sameDisk _ _)) fun _ => Maintains.unlessRaise _ _

/-- A handle that is opened is that of a file at the path. -/
theorem openRegularFileHandle_ok {path : String} {handle : Path}
    (h : openRegularFileHandle k root path s = .ok handle s') :
    handle = root ++ Text.posixParts path ∧ ∃ content, s.disk.node handle = some (.file content) := by
  obtain ⟨parts, s₁, hparts, h₁⟩ := bind_ok.mp h
  obtain ⟨hparts', rfl⟩ := liftExcept_ok.mp hparts
  obtain ⟨fd, s₂, hopen, h₂⟩ := bind_ok.mp h₁
  have hsame₂ : s₂.disk = s₁.disk := openParent_sameDisk.of_ok hopen
  have hfd := openParent_returns s₁ fd s₂ hopen
  obtain ⟨name, s₃, hname, h₃⟩ := bind_ok.mp h₂
  obtain ⟨name', s₄, hlast, hfile⟩ := bind_ok.mp (reraising_ok.mp hname)
  obtain ⟨q, rfl, rfl⟩ := lastPart_ok hlast
  obtain ⟨u, s₅, hfound, hpure⟩ := bind_ok.mp hfile
  obtain ⟨rfl, rfl⟩ := pure_ok.mp hpure
  have hsame₃ : s₃.disk = s₄.disk := (Kernel.ask_ok (raisingAs_ok.mp hfound)).2
  obtain ⟨u', s₆, hregular, h₄⟩ := bind_ok.mp h₃
  obtain ⟨x, s₇, hstat, hkind⟩ := bind_ok.mp (reraising_ok.mp hregular)
  have hnode := Disk.stat_ok.mp (Kernel.ask_ok (raisingAs_ok.mp hstat)).1
  have hisFile := (unlessRaise_ok.mp hkind).1
  obtain ⟨u'', s₈, -, hhandle⟩ := bind_ok.mp h₄
  obtain ⟨rfl, -⟩ := pure_ok.mp hhandle
  rw [List.dropLast_concat] at hfd
  refine ⟨by rw [← parts_of_normalized hparts', hfd, List.append_assoc], ?_⟩
  rw [hsame₃, hsame₂] at hnode
  cases x with
  | file content => exact ⟨content, hnode⟩
  | _ => cases hisFile

/-- The target, which was not there, holds this, and otherwise the tree has only grown. -/
structure Filling (d : Disk Bytes) (target : Path) (data : Bytes) (d' : Disk Bytes) : Prop where
  grows : d.Grows d'
  free : d.node target = none
  target : d'.node target = some (.file data)

theorem Filling.alter {target : Path} {data chunk : Bytes} {d' : Disk Bytes} (h : Filling d target data d') :
    Filling d target (data ++ chunk) (d'.alter target (· ++ chunk)) where
  grows := by
    intro q hq
    have hne : q ≠ target := by
      rintro rfl
      rw [h.free] at hq
      cases hq
    rw [Disk.node_alter_file h.target, if_neg hne, h.grows q hq]
  free := h.free
  target := by rw [Disk.node_alter_file h.target, if_pos rfl]

section
variable {source target : Path} {content : Bytes} (hsource : d.node source = some (.file content))
include hsource

/-- What is read from an offset is what the source holds there. -/
theorem readChunk_triple {data : Bytes} {offset : Nat} :
    Triple (On (Filling d target data)) (readChunk k source offset)
      (fun chunk s => chunk = (content.drop offset).take copyChunkBytes ∧ On (Filling d target data) s)
      fun _ => On (Filling d target data) := by
  refine Triple.raisingAs (Kernel.ask_triple (fun s chunk i hs hread => ⟨?_, hs⟩) fun s e i hs => hs)
  have hthere : s.disk.node source = some (.file content) := by
    rw [hs.grows source (by rw [hsource]; rfl), hsource]
  rw [hthere, Except.ok.injEq] at hread
  exact hread.symm

/-- What is copied up to an offset is what the source holds up to there; the loop ends where
nothing is left. -/
theorem copyFileObj_triple (fuel offset : Nat) :
    Triple (On (Filling d target (content.take offset))) (copyFileObj k source target fuel offset)
      (fun _ => On (Filling d target content)) fun _ => On fun d' => ∃ data, Filling d target data d' := by
  induction fuel generalizing offset with
  | zero => exact Triple.raise fun s hs => ⟨_, hs⟩
  | succ fuel ih =>
    refine Triple.bind ((readChunk_triple hsource).raises fun _ _ hs => ⟨_, hs⟩) fun chunk =>
      Triple.of_pure fun hchunk => ?_
    by_cases hempty : chunk = []
    · rw [if_pos hempty]
      refine Triple.pure fun s hs => ?_
      have hrest : content.drop offset = [] := by
        rw [hchunk, List.take_eq_nil_iff] at hempty
        exact hempty.resolve_left (by decide)
      rwa [List.take_of_length_le (List.drop_eq_nil_iff.mp hrest)] at hs
    · rw [if_neg hempty]
      refine Triple.bind (Q := fun _ => On (Filling d target (content.take (offset + chunk.length)))) ?_ fun _ => ih _
      have hmore : content.take offset ++ chunk = content.take (offset + chunk.length) := by
        rw [List.take_add, List.append_cancel_left_eq]
        conv_lhs => rw [hchunk]
        rw [hchunk, List.length_take, ← List.take_eq_take_min]
      refine Triple.raisingAs (Kernel.act_triple (fun s d' i hs hwrite => ?_) fun s e i hs => ⟨_, hs⟩)
      rw [Except.ok.injEq] at hwrite
      rw [← hmore]
      exact show Filling d target _ d' from hwrite ▸ Filling.alter hs

theorem fillTarget_triple :
    Triple (On (Filling d target [])) (fillTarget k source target) (fun _ => On (Filling d target content))
      fun _ => On fun d' => ∃ data, Filling d target data d' := by
  have hbound : Triple (On (Filling d target [])) (lengthBound source) (fun _ => On (Filling d target (content.take 0)))
      fun _ => On fun d' => ∃ data, Filling d target data d' := by
    constructor
    · intro s n s' hs h
      unfold lengthBound at h
      split at h <;> cases h <;> exact hs
    · intro s e s' hs h
      unfold lengthBound at h
      split at h <;> cases h
  have hdone : ∀ c : Call, Triple (On (Filling d target content)) (raisingAs Raised.os (k.ask c fun _ => .ok ()))
      (fun _ => On (Filling d target content)) fun _ => On fun d' => ∃ data, Filling d target data d' :=
    fun c => Triple.raisingAs (Kernel.ask_triple (fun s b i hs _ => hs) fun s e i hs => ⟨_, hs⟩)
  exact hbound.bind fun fuel => (copyFileObj_triple hsource fuel 0).bind fun _ => (hdone _).bind fun _ => hdone _

end

/-- A target that is discarded is gone, or it stays; nothing else is touched. -/
theorem discardCreatedChild_triple {name : String} :
    Triple (On fun d' => ∃ data, Filling d (fd ++ [name]) data d') (discardCreatedChild k fd name)
    (fun _ => On d.Grows)
      fun _ => On d.Grows := by
  refine Triple.except (F := fun _ => On d.Grows) ?_ (fun r m hm => ?_) fun r s _ hs => hs
  · refine Triple.raisingAs (Kernel.act_triple (fun s d' i hs hunlink => ?_) fun s e i hs => ?_)
    · obtain ⟨data, hfilling⟩ := hs
      intro q hq
      have hne : q ≠ fd ++ [name] := by
        rintro rfl
        rw [hfilling.free] at hq
        cases hq
      rw [(Disk.unlink_ok.mp hunlink).2 q, if_neg hne, hfilling.grows q hq]
    · obtain ⟨data, hfilling⟩ := hs
      exact hfilling.grows
  · split at hm <;> cases hm
    exact Triple.pure fun s hs => hs

theorem createExclusiveChild_triple {name : String} :
    Triple (On d.Grows) (createExclusiveChild k fd name) (fun _ => On (Filling d (fd ++ [name]) [])) fun _ =>
    On d.Grows := by
  refine Triple.except (F := fun _ => On d.Grows) ?_ (fun r m hm => ?_) fun r s _ hs => hs
  · refine Triple.raisingAs (Kernel.act_triple (fun s d' i hs hadd => ?_) fun s e i hs => hs)
    obtain ⟨hfree, -, -, hnode⟩ := Disk.add_ok.mp hadd
    refine ⟨Disk.Grows.trans hs (Disk.add_grows hadd), ?_, by rw [hnode, if_pos rfl]⟩
    by_contra hthere
    have hsame := hs _ (Option.isSome_iff_ne_none.mpr hthere)
    rw [hfree] at hsame
    exact hthere hsame.symm
  · split at hm <;> cases hm <;> exact Triple.raise fun s hs => hs

/-- What a copy that ends has made: the target, which was free, holds what the source does. -/
def Copied (d : Disk Bytes) (source target : Path) (d' : Disk Bytes) : Prop :=
  ∃ content, d.node source = some (.file content) ∧ Filling d target content d'

/-- A copy makes the target, and where it raises the tree has only grown. -/
theorem copyRegularFileNoreplace_triple {sourceRoot targetRoot : Path} {sourcePath targetPath : String} {create : Bool}
    :
    Triple (On (· = d)) (copyRegularFileNoreplace k sourceRoot sourcePath targetPath targetRoot create)
      (fun _ => On (Copied d (sourceRoot ++ Text.posixParts sourcePath) (targetRoot ++ Text.posixParts targetPath)))
      fun _ => On d.Grows := by
  have hstart : ∀ {s : Machine Bytes}, On (· = d) s → On d.Grows s := fun hs =>
    show d.Grows _ from hs ▸ Disk.Grows.refl d
  refine Triple.bind (liftExcept_triple.raises fun _ _ => hstart) fun targetParts => Triple.of_pure fun htarget => ?_
  rw [← parts_of_normalized htarget]
  refine Triple.bind (Q := fun handle s =>
    (handle = sourceRoot ++ Text.posixParts sourcePath ∧ ∃ content, d.node handle = some (.file content)) ∧
    On d.Grows s) ?_ fun handle => Triple.of_pure fun hhandle => ?_
  · constructor
    · intro s handle s' hs h
      have hdisk : s.disk = d := hs
      have hsame : s'.disk = s.disk := (openRegularFileHandle_sameDisk _).of_ok h
      obtain ⟨hpath, hfile⟩ := openRegularFileHandle_ok h
      rw [hdisk] at hfile
      exact ⟨⟨hpath, hfile⟩, hstart (show s'.disk = d from hsame.trans hdisk)⟩
    · intro s e s' hs h
      have hsame : s'.disk = s.disk := (openRegularFileHandle_sameDisk _).of_error h
      exact hstart (show s'.disk = d from hsame.trans hs)
  obtain ⟨rfl, content, hsource⟩ := hhandle
  have hclose : ∀ {P : Disk Bytes → Prop} {fd : Path}, (∀ {d'}, P d' → d.Grows d') →
      Triple (On P) (close k fd) (fun _ => On P) fun _ => On d.Grows :=
    fun hgrows => (close_triple _).raises fun _ _ hs => hgrows hs.2
  have hcopied : ∀ {d' : Disk Bytes},
    Copied d (sourceRoot ++ Text.posixParts sourcePath) (targetRoot ++ targetParts) d' → d.Grows d' := by
    rintro d' ⟨content, -, hfilling⟩
    exact hfilling.grows
  refine Triple.ensuring (M := fun _ => On (Copied d _ _)) (F := fun _ => On d.Grows) ?_ (fun _ => hclose hcopied)
    fun _ => hclose id
  refine Triple.except (F := fun _ => On d.Grows) ?_ (fun r m hm => ?_) fun r s _ hs => hs
  · refine Triple.bind (Q := fun _ => On d.Grows) ?_ fun _ => ?_
    · exact Triple.raisingAs (Kernel.ask_triple (fun s b i hs _ => hs) fun s e i hs => hs)
    refine Triple.bind ((grows openTargetParent_grown).returning openTargetParent_returns) fun targetFd =>
      Triple.of_pure fun hfd => ?_
    refine Triple.ensuring (M := fun _ => On (Copied d _ _)) (F := fun _ => On d.Grows) ?_ (fun _ => hclose hcopied)
      fun _ => hclose id
    refine Triple.bind lastPart_triple fun name => Triple.of_pure fun hname => ?_
    obtain ⟨q, rfl⟩ := hname
    rw [List.dropLast_concat] at hfd
    rw [← List.append_assoc, ← hfd]
    refine Triple.bind createExclusiveChild_triple fun _ => ?_
    refine Triple.ensuring (M := fun _ => On (Filling d _ content)) (F := fun _ => On d.Grows) ?_
      (fun _ => ((close_triple _).weaken (fun _ h => h) (fun _ _ h => ⟨content, hsource, h⟩) fun _ _ h => h.2.grows))
      fun _ => hclose id
    exact Triple.reraising (fillTarget_triple hsource) fun _ => discardCreatedChild_triple
  · split at hm <;> cases hm
    exact Triple.raise fun s hs => hs

end PveHelper.Files
