/-
What the operations of `Files.Confined` come to, one after another: which path a
descriptor is opened at, which errors can be raised, and what they leave of the tree.
-/
import PveHelper.Files.Confined
import PveHelper.Lib.Triple

namespace PveHelper.Files

open Lib

variable {k : Kernel} {d : Disk Bytes} {i : Nat} {root fd : Path} {parts : List String} {s s' : Machine Bytes} {r : Raised}

theorem liftExcept_ok {β : Type} {x : Except Raised β} {b : β} : liftExcept x s = .ok b s' ↔ x = .ok b ∧ s' = s := by
  cases x with
  | ok a => simp [liftExcept, pure, EStateM.pure, eq_comm]
  | error e => simp [liftExcept, raise]

theorem liftExcept_error {β : Type} {x : Except Raised β} : liftExcept x s = .error r s' ↔ x = .error r ∧ s' = s := by
  cases x with
  | ok a => simp [liftExcept, pure, EStateM.pure]
  | error e => simp [liftExcept, raise, eq_comm]

/-- Where each `ConfinedFilesystemError` is raised as something else, nothing is handled. -/
theorem exceptConfined_raise_ok {β : Type} {m : Fs β} {f : ConfinedKind → Raised} {b : β} :
    exceptConfined m (fun kind => raise (f kind)) s = .ok b s' ↔ m s = .ok b s' := by
  unfold exceptConfined
  rw [except_ok]
  constructor
  · rintro (h | ⟨r, s₁, m', -, hm, h⟩)
    · exact h
    · split at hm <;> cases hm
      cases h
  · exact .inl

theorem exceptConfined_maintains {β : Type} {R : Machine Bytes → Machine Bytes → Prop} [Std.Refl R] [IsTrans (Machine Bytes) R]
    {m : Fs β} {f : ConfinedKind → Raised} (hm : Maintains R m) :
    Maintains R (exceptConfined m fun kind => raise (f kind)) := by
  refine Maintains.except hm fun r m' hm' => ?_
  split at hm'
  · cases hm'
    exact Maintains.raise _
  · cases hm'

theorem exceptConfined_triple {β : Type} {P : Machine Bytes → Prop} {Q : β → Machine Bytes → Prop}
    {E F : Raised → Machine Bytes → Prop} {m : Fs β} {handler : ConfinedKind → Fs β} (hm : Triple P m Q F)
    (hconfined : ∀ kind message, Triple (F (.confined kind message)) (handler kind) Q E)
    (hother : ∀ r s, (∀ kind message, r ≠ .confined kind message) → F r s → E r s) :
    Triple P (exceptConfined m handler) Q E := by
  refine Triple.except hm (fun r m' hm' => ?_) fun r s hr => ?_
  · split at hm' <;> cases hm'
    exact hconfined _ _
  · refine hother r s fun kind message hkind => ?_
    rw [hkind] at hr
    cases hr

theorem lastPart_concat (p : List String) (n : String) : lastPart (p ++ [n]) s = .ok n s := by
  rw [lastPart, List.getLast?_append]
  rfl

/-! ## Trees -/

/-- The tree of a machine is in this set. -/
def On (P : Disk Bytes → Prop) (s : Machine Bytes) : Prop := P s.disk

section
variable {β : Type} {m : Fs β}

theorem looks {P : Disk Bytes → Prop} (hm : Maintains SameDisk m) : Triple (On P) m (fun _ => On P) fun _ => On P :=
  Triple.of_maintains hm fun s s' hs hsame => by
    have hdisk : s'.disk = s.disk := hsame
    exact show P s'.disk from hdisk ▸ hs

theorem still {P : Disk Bytes → Prop} {V : β → Prop} (hm : Maintains SameDisk m) (hret : Returns V m) :
    Triple (On P) m (fun b s => V b ∧ On P s) fun _ => On P :=
  (looks hm).returning hret

theorem grows (hm : Maintains Grown m) : Triple (On d.Grows) m (fun _ => On d.Grows) fun _ => On d.Grows :=
  Triple.of_maintains hm fun _ _ hs hgrown => Disk.Grows.trans hs hgrown

end

/-! ## Closing -/

theorem close_sameDisk (fd : Path) : Maintains SameDisk (close k fd) := Maintains.raisingAs (k.ask_sameDisk _ _)

theorem closeCall_performs : Performs k (closeCall k fd) s [⟨.close, fd⟩] () s.disk := Performs.ask rfl

theorem close_performs : Performs k (close k fd) s [⟨.close, fd⟩] () s.disk := Performs.raisingAs closeCall_performs

theorem close_of_fault {e : Errno} (h : k.fault s.calls ⟨.close, fd⟩ = some e) :
    close k fd s = .error (.os e) ⟨s.disk, s.calls + 1⟩ :=
  raisingAs_error.mpr ⟨e, Kernel.ask_of_fault h, rfl⟩

theorem close_of_lets (h : k.fault s.calls ⟨.close, fd⟩ = none) : close k fd s = .ok () ⟨s.disk, s.calls + 1⟩ :=
  raisingAs_ok.mpr (Kernel.ask_of_ok h rfl)

/-- A close failed, and this was raised. -/
def CloseRaised (k : Kernel) (r : Raised) : Prop := ∃ e i fd, r = .os e ∧ k.fault i ⟨.close, fd⟩ = some e

theorem CloseRaised.not_confined {kind : ConfinedKind} {message : String} :
    ¬ CloseRaised k (.confined kind message) := by
  rintro ⟨e, i, fd, hr, -⟩
  cases hr

theorem close_error (h : close k fd s = .error r s') : CloseRaised k r := by
  obtain ⟨e, hcall, rfl⟩ := raisingAs_error.mp h
  obtain ⟨hfault | hrefused, -⟩ := Kernel.ask_error hcall
  · exact ⟨e, s.calls, fd, rfl, hfault⟩
  · cases hrefused

theorem close_triple {P : Disk Bytes → Prop} (fd : Path) :
    Triple (On P) (close k fd) (fun _ => On P) fun r s => CloseRaised k r ∧ On P s :=
  (looks (close_sameDisk fd)).andRaises fun _ _ _ => close_error

theorem stepInto_sameDisk {opened : Fs Path} (h : Maintains SameDisk opened) : Maintains SameDisk (stepInto k fd opened) :=
  Maintains.reraising (Maintains.bind h fun _ => Maintains.bind (close_sameDisk fd) fun _ => Maintains.pure _) (close_sameDisk fd)

theorem stepInto_ok {opened : Fs Path} {next : Path} (h : stepInto k fd opened s = .ok next s') :
    ∃ s₁, opened s = .ok next s₁ ∧ s'.disk = s₁.disk := by
  obtain ⟨next', s₁, hopened, hrest⟩ := bind_ok.mp (reraising_ok.mp h)
  obtain ⟨u, s₂, hclose, hpure⟩ := bind_ok.mp hrest
  obtain ⟨rfl, rfl⟩ := pure_ok.mp hpure
  exact ⟨s₁, hopened, (close_sameDisk fd).of_ok hclose⟩

theorem stepInto_error {opened : Fs Path} (h : stepInto k fd opened s = .error r s') :
    CloseRaised k r ∨ ∃ s₁, opened s = .error r s₁ ∧ close k fd s₁ = .ok () s' := by
  obtain ⟨e, s₁, hraise, hclose | ⟨rfl, hclose⟩⟩ := reraising_error.mp h
  · exact .inl (close_error hclose)
  · rcases bind_error.mp hraise with hopened | ⟨next, s₂, -, hrest⟩
    · exact .inr ⟨s₁, hopened, hclose⟩
    · rcases bind_error.mp hrest with hclose' | ⟨u, s₃, -, hpure⟩
      · exact .inl (close_error hclose')
      · cases hpure

theorem stepInto_performs {opened : Fs Path} {cs : List Call} {next : Path} {d' : Disk Bytes}
    (h : Performs k opened s cs next d') : Performs k (stepInto k fd opened) s (cs ++ [⟨.close, fd⟩]) next d' := by
  refine Performs.reraising (h.bind ?_)
  exact Performs.bind close_performs (Performs.pure next _)

/-! ## Opening a parent -/

/-- The calls that open one directory after another, the last one closed each time. -/
def openCalls (fd : Path) : List String → List Call
  | [] => []
  | part :: parts => [⟨.openDirectory, fd ++ [part]⟩, ⟨.close, fd⟩] ++ openCalls (fd ++ [part]) parts

/-- The calls of `_open_parent`. -/
def parentCalls (root : Path) (parts : List String) : List Call := [⟨.openRoot, root⟩] ++ openCalls root parts

/-- What lies above a directory is one. -/
theorem isDirectory_above {p q : Path} (h : d.isDirectory (p ++ q) = true) : d.isDirectory p = true := by
  by_cases hq : q = []
  · rwa [hq, List.append_nil] at h
  · rw [Disk.isDirectory_iff] at h ⊢
    exact Disk.node_above (by rw [h]; rfl) hq

theorem openBeneath_performs (h : d.isDirectory (fd ++ parts) = true) :
    Performs k (openBeneath k fd parts) ⟨d, i⟩ (openCalls fd parts) (fd ++ parts) d := by
  induction parts generalizing fd i with
  | nil =>
    rw [List.append_nil]
    exact Performs.pure fd ⟨d, i⟩
  | cons part parts ih =>
    rw [← List.singleton_append, ← List.append_assoc] at h
    have hnext : d.openDirectory fd part = .ok (fd ++ [part]) :=
      Disk.openDirectory_ok.mpr ⟨rfl, Disk.isDirectory_iff.mp (isDirectory_above h)⟩
    have hstep : Performs k (stepInto k fd _) ⟨d, i⟩ ([⟨.openDirectory, fd ++ [part]⟩] ++ [⟨.close, fd⟩]) (fd ++ [part]) d :=
      stepInto_performs (Performs.raisingAs (f := failedAs "Parent directory is unavailable or unsafe.")
        (Performs.ask (c := ⟨.openDirectory, fd ++ [part]⟩) (f := fun d => d.openDirectory fd part) hnext))
    have hall := Performs.bind (f := fun next => openBeneath k next parts) hstep (ih h)
    rwa [List.append_assoc fd [part] parts, List.singleton_append] at hall

theorem openParent_performs (h : d.isDirectory (root ++ parts) = true) :
    Performs k (openParent k root parts) ⟨d, i⟩ (parentCalls root parts) (root ++ parts) d := by
  have hroot : (if d.isDirectory root = true then Except.ok root else .error Errno.noent) = Except.ok root :=
    if_pos (isDirectory_above h)
  exact Performs.bind (Performs.raisingAs (Performs.ask hroot)) (openBeneath_performs h)

theorem openRoot_ok {fd : Path} (h : openRoot k root s = .ok fd s') :
    fd = root ∧ s.disk.isDirectory root = true ∧ s'.disk = s.disk := by
  obtain ⟨hroot, hsame⟩ := Kernel.ask_ok (raisingAs_ok.mp h)
  split at hroot
  · cases hroot
    exact ⟨rfl, ‹_›, hsame⟩
  · cases hroot

theorem openBeneath_ok {fd' : Path} (hfd : s.disk.isDirectory fd = true) (h : openBeneath k fd parts s = .ok fd' s') :
    fd' = fd ++ parts ∧ s.disk.isDirectory (fd ++ parts) = true ∧ s'.disk = s.disk := by
  induction parts generalizing fd s with
  | nil =>
    cases h
    rw [List.append_nil]
    exact ⟨rfl, hfd, rfl⟩
  | cons part parts ih =>
    obtain ⟨next, s₁, hstep, hrest⟩ := bind_ok.mp h
    obtain ⟨s₂, hopen, hsame₂⟩ := stepInto_ok hstep
    obtain ⟨hnext, hsame₁⟩ := Kernel.ask_ok (raisingAs_ok.mp hopen)
    have hsame : s₁.disk = s.disk := hsame₂.trans hsame₁
    obtain ⟨rfl, hdir⟩ := Disk.openDirectory_ok.mp hnext
    obtain ⟨rfl, hdir', hsame'⟩ := ih (by rw [hsame, Disk.isDirectory_iff]; exact hdir) hrest
    rw [List.append_assoc, List.singleton_append] at hdir' ⊢
    exact ⟨rfl, hsame ▸ hdir', hsame'.trans hsame⟩

/-- A parent that is opened is the directory at its path. -/
theorem openParent_ok {fd : Path} (h : openParent k root parts s = .ok fd s') :
    fd = root ++ parts ∧ s.disk.isDirectory (root ++ parts) = true ∧ s'.disk = s.disk := by
  obtain ⟨fd₁, s₁, hroot, hrest⟩ := bind_ok.mp h
  obtain ⟨rfl, hdir, hsame⟩ := openRoot_ok hroot
  obtain ⟨rfl, hdir', hsame'⟩ := openBeneath_ok (hsame ▸ hdir) hrest
  exact ⟨rfl, hsame ▸ hdir', hsame'.trans hsame⟩

theorem openBeneath_error (h : openBeneath k fd parts s = .error r s') :
    CloseRaised k r ∨ ∃ message, r = .confined .failed message := by
  induction parts generalizing fd s with
  | nil => cases h
  | cons part parts ih =>
    rcases bind_error.mp h with hstep | ⟨next, s₁, -, hrest⟩
    · rcases stepInto_error hstep with hclose | ⟨s₁, hopen, -⟩
      · exact .inl hclose
      · obtain ⟨e, -, rfl⟩ := raisingAs_error.mp hopen
        exact .inr ⟨_, rfl⟩
    · exact ih hrest

/-- But for a close that fails, `_open_parent` raises nothing but a `ConfinedFilesystemError`. -/
theorem openParent_error (h : openParent k root parts s = .error r s') :
    CloseRaised k r ∨ ∃ message, r = .confined .failed message := by
  rcases bind_error.mp h with hroot | ⟨fd, s₁, -, hrest⟩
  · obtain ⟨e, -, rfl⟩ := raisingAs_error.mp hroot
    exact .inr ⟨_, rfl⟩
  · exact openBeneath_error hrest

theorem openBeneath_sameDisk : Maintains SameDisk (openBeneath k fd parts) := by
  induction parts generalizing fd with
  | nil => exact Maintains.pure fd
  | cons part parts ih =>
    exact Maintains.bind (stepInto_sameDisk (Maintains.raisingAs (k.ask_sameDisk _ _))) fun _ => ih

theorem openParent_sameDisk : Maintains SameDisk (openParent k root parts) :=
  Maintains.bind (Maintains.raisingAs (k.ask_sameDisk _ _)) fun _ => openBeneath_sameDisk

theorem openParent_returns : Returns (· = root ++ parts) (openParent k root parts) := fun _ _ _ h => (openParent_ok h).1

/-- The parent is a directory, and no call on the way to it fails. -/
def ParentOpens (k : Kernel) (d : Disk Bytes) (i : Nat) (root : Path) (parts : List String) : Prop :=
  d.isDirectory (root ++ parts) = true ∧ k.Lets i (parentCalls root parts)

theorem openParent_of_opens (h : ParentOpens k d i root parts) :
    openParent k root parts ⟨d, i⟩ = .ok (root ++ parts) ⟨d, i + (parentCalls root parts).length⟩ :=
  (openParent_performs h.1).ok h.2

theorem openParentOf_of_opens {missingOk : Bool} (h : ParentOpens k d i root parts.dropLast) :
    openParentOf k root parts missingOk ⟨d, i⟩ =
      .ok (some (root ++ parts.dropLast)) ⟨d, i + (parentCalls root parts.dropLast).length⟩ := by
  refine except_of_ok ?_
  rw [bind_of_ok (openParent_of_opens h)]
  rfl

/-! ## Looking -/

theorem lastPart_ok {p : List String} {n : String} (h : lastPart p s = .ok n s') : ∃ q, p = q ++ [n] ∧ s' = s := by
  cases p using List.reverseRecOn with
  | nil => cases h
  | append_singleton q m =>
    rw [lastPart_concat] at h
    cases h
    exact ⟨q, rfl, rfl⟩

theorem statConfinedChild_ok {name : String} {expected : Expected} {x : Node Bytes}
    (h : statConfinedChild k fd name expected s = .ok x s') :
    s.disk.node (fd ++ [name]) = some x ∧ expected.admits x = true ∧ s'.disk = s.disk := by
  obtain ⟨y, s₁, hstat, h⟩ := bind_ok.mp h
  rw [except_ok] at hstat
  rcases hstat with hstat | ⟨r, s₂, m, hr, hm, hm'⟩
  · obtain ⟨hnode, hsame⟩ := Kernel.ask_ok (raisingAs_ok.mp hstat)
    obtain ⟨hkind, hrest⟩ := unlessRaise_bind_ok.mp h
    obtain ⟨rfl, rfl⟩ := pure_ok.mp hrest
    exact ⟨Disk.stat_ok.mp hnode, hkind, hsame⟩
  · obtain ⟨e, -, rfl⟩ := raisingAs_error.mp hr
    split at hm
    · cases hm
      cases hm'
    · cases hm
      cases hm'
    · cases hm

theorem liftExcept_sameDisk {β : Type} (x : Except Raised β) : Maintains SameDisk (liftExcept x) := by
  cases x with
  | ok b => exact Maintains.pure b
  | error e => exact Maintains.raise e

theorem liftExcept_returns {β : Type} {x : Except Raised β} : Returns (x = .ok ·) (liftExcept x) := fun _ _ _ h =>
  (liftExcept_ok.mp h).1

theorem liftExcept_triple {β : Type} {P : Disk Bytes → Prop} {x : Except Raised β} :
    Triple (On P) (liftExcept x) (fun b s => x = .ok b ∧ On P s) fun _ => On P :=
  still (liftExcept_sameDisk x) fun _ _ _ h => (liftExcept_ok.mp h).1

theorem lastPart_sameDisk (p : List String) : Maintains SameDisk (lastPart p) := by
  unfold lastPart
  cases p.getLast? with
  | some name => exact Maintains.pure name
  | none => exact Maintains.raise _

theorem lastPart_triple {P : Disk Bytes → Prop} :
    Triple (On P) (lastPart parts) (fun n s => (∃ q, parts = q ++ [n]) ∧ On P s) fun _ => On P :=
  still (lastPart_sameDisk parts) fun _ _ _ h => by
    obtain ⟨q, hq, -⟩ := lastPart_ok h
    exact ⟨q, hq⟩

theorem statConfinedChild_sameDisk (name : String) (expected : Expected) :
    Maintains SameDisk (statConfinedChild k fd name expected) := by
  refine Maintains.bind (Maintains.except (Maintains.raisingAs (k.ask_sameDisk _ _)) ?_) fun x => ?_
  · intro r m hm
    split at hm
    · cases hm
      exact Maintains.raise _
    · cases hm
      exact Maintains.raise _
    · cases hm
  · exact Maintains.bind (Maintains.unlessRaise _ _) fun _ => Maintains.pure _

theorem statConfinedChild_triple {P : Disk Bytes → Prop} {name : String} {expected : Expected} :
    Triple (On P) (statConfinedChild k fd name expected)
      (fun x s => expected.admits x = true ∧ On P s ∧ s.disk.node (fd ++ [name]) = some x) fun _ => On P := by
  have hlooks : Triple (On P) (statConfinedChild k fd name expected) (fun _ => On P) fun _ => On P :=
    looks (statConfinedChild_sameDisk name expected)
  refine ⟨fun s x s' hs h => ?_, hlooks.error⟩
  obtain ⟨hnode, hadmits, hsame⟩ := statConfinedChild_ok h
  exact ⟨hadmits, hlooks.ok s x s' hs h, hsame ▸ hnode⟩

theorem confinedEntryStat_sameDisk (path : String) : Maintains SameDisk (confinedEntryStat k root path) := by
  refine Maintains.bind (liftExcept_sameDisk _) fun parts => Maintains.bind (Maintains.except ?_ ?_) fun fd => ?_
  · exact Maintains.bind openParent_sameDisk fun _ => Maintains.pure _
  · intro r m hm
    split at hm
    · cases hm
      exact Maintains.pure _
    · cases hm
  · cases fd with
    | none => exact Maintains.pure _
    | some fd =>
      refine Maintains.ensuring (Maintains.bind (lastPart_sameDisk _) fun name => Maintains.except ?_ ?_) (close_sameDisk fd)
      · exact Maintains.bind (Maintains.raisingAs (k.ask_sameDisk _ _)) fun _ => Maintains.pure _
      · intro r m hm
        split at hm
        · cases hm
          exact Maintains.pure _
        · cases hm

/-- An entry that is looked at is the one at the path. -/
theorem confinedEntryStat_ok {path : String} {x : Node Bytes} (h : confinedEntryStat k root path s = .ok (some x) s') :
    ∃ p, normalizedRelativePath path = .ok p ∧ s.disk.node (root ++ p) = some x := by
  obtain ⟨p, s₁, hp, h₁⟩ := bind_ok.mp h
  obtain ⟨hp', rfl⟩ := liftExcept_ok.mp hp
  obtain ⟨fd, s₂, hopen, h₂⟩ := bind_ok.mp h₁
  refine ⟨p, hp', ?_⟩
  rcases except_ok.mp hopen with hopen | ⟨r, s₃, m, -, hm, hnone⟩
  · obtain ⟨fd', s₃, hparent, hpure⟩ := bind_ok.mp hopen
    obtain ⟨rfl, rfl⟩ := pure_ok.mp hpure
    have hsame : s₂.disk = s₁.disk := openParent_sameDisk.of_ok hparent
    obtain ⟨s₄, hbody, -⟩ := ensuring_ok.mp h₂
    obtain ⟨name, s₅, hname, hstat⟩ := bind_ok.mp hbody
    obtain ⟨q, rfl, rfl⟩ := lastPart_ok hname
    rw [openParent_returns s₁ fd' s₅ hparent, List.dropLast_concat] at hstat
    rcases except_ok.mp hstat with hstat | ⟨r, s₆, m, -, hm, hnone⟩
    · obtain ⟨y, s₆, hask, hpure⟩ := bind_ok.mp hstat
      obtain ⟨hy, -⟩ := pure_ok.mp hpure
      cases hy
      rw [← hsame, ← List.append_assoc]
      exact Disk.stat_ok.mp (Kernel.ask_ok (raisingAs_ok.mp hask)).1
    · split at hm <;> cases hm
      cases hnone
  · split at hm <;> cases hm
    cases hnone
    cases h₂

theorem statListed_sameDisk (name : String) : Maintains SameDisk (statListed k fd name) := by
  refine Maintains.except (Maintains.bind (Maintains.raisingAs (k.ask_sameDisk _ _)) fun _ => Maintains.pure _) ?_
  intro r m hm
  split at hm
  · cases hm
    exact Maintains.pure _
  · cases hm

theorem listConfinedDirectory_sameDisk (path : String) : Maintains SameDisk (listConfinedDirectory k root path) :=
  Maintains.bind (liftExcept_sameDisk _) fun _ => Maintains.bind openParent_sameDisk fun fd =>
    Maintains.ensuring (Maintains.bind (Maintains.raisingAs (k.list_sameDisk _)) fun names =>
      Maintains.bind (Maintains.mapM statListed_sameDisk names) fun _ => Maintains.pure _) (close_sameDisk fd)

/-! ## Making directories -/

/-- Only directories on the way to a path are new. -/
def GrownTo (t : Path) (s s' : Machine Bytes) : Prop := Disk.GrowsTo t s.disk s'.disk

instance (t : Path) : Std.Refl (GrownTo t) := ⟨fun s => Disk.GrowsTo.refl t s.disk⟩

instance (t : Path) : IsTrans (Machine Bytes) (GrownTo t) := ⟨fun _ _ _ h h' => h.trans h'⟩

theorem sameDisk_grownTo {t : Path} {s s' : Machine Bytes} (h : SameDisk s s') : GrownTo t s s' := by
  rw [GrownTo, show s'.disk = s.disk from h]
  exact Disk.GrowsTo.refl _ _

theorem openOrCreateAt_grownTo {part : String} {t : Path} (ht : fd ++ [part] <+: t) :
    Maintains (GrownTo t) (openOrCreateAt k fd part) := by
  have hopen : Maintains (GrownTo t) (raisingAs Raised.os (openDirectoryAt k fd part)) :=
    (Maintains.raisingAs (k.ask_sameDisk _ _)).mono sameDisk_grownTo
  refine Maintains.except hopen fun r m hm => ?_
  split at hm
  · cases hm
    refine Maintains.bind (Maintains.raisingAs ?_) fun _ => hopen
    intro s
    unfold final
    cases hcall : k.act ⟨.mkdir, fd ++ [part]⟩ (·.add fd part .directory) s with
    | ok u s' => exact Disk.add_growsTo (Kernel.act_ok hcall) ht
    | error e s' => exact sameDisk_grownTo (Kernel.act_error hcall).2
  · cases hm
    exact Maintains.raise _
  · cases hm

theorem openDirectoryAt_ok {part : String} {next : Path} (h : raisingAs Raised.os (openDirectoryAt k fd part) s = .ok next s') :
    next = fd ++ [part] ∧ s.disk.node (fd ++ [part]) = some .directory ∧ s'.disk = s.disk := by
  obtain ⟨hopen, hsame⟩ := Kernel.ask_ok (raisingAs_ok.mp h)
  obtain ⟨rfl, hdir⟩ := Disk.openDirectory_ok.mp hopen
  exact ⟨rfl, hdir, hsame⟩

theorem openOrCreateAt_ok {part : String} {next : Path} (h : openOrCreateAt k fd part s = .ok next s') :
    next = fd ++ [part] ∧ s'.disk.node (fd ++ [part]) = some .directory := by
  unfold openOrCreateAt at h
  rw [except_ok] at h
  rcases h with h | ⟨r, s₁, m, -, hm, h⟩
  · obtain ⟨rfl, hdir, hsame⟩ := openDirectoryAt_ok h
    exact ⟨rfl, by rw [hsame, hdir]⟩
  · split at hm
    · cases hm
      obtain ⟨u, s₂, -, hopen⟩ := bind_ok.mp h
      obtain ⟨rfl, hdir, hsame⟩ := openDirectoryAt_ok hopen
      exact ⟨rfl, by rw [hsame, hdir]⟩
    · cases hm
      exact absurd h raise_ok
    · cases hm

theorem stepInto_grownTo {t : Path} {opened : Fs Path} (h : Maintains (GrownTo t) opened) :
    Maintains (GrownTo t) (stepInto k fd opened) := by
  have hclose : Maintains (GrownTo t) (close k fd) := (close_sameDisk fd).mono sameDisk_grownTo
  exact Maintains.reraising (Maintains.bind h fun _ => Maintains.bind hclose fun _ => Maintains.pure _) hclose

theorem openOrCreateBeneath_grownTo {t : Path} (ht : fd ++ parts <+: t) :
    Maintains (GrownTo t) (openOrCreateBeneath k fd parts) := by
  induction parts generalizing fd with
  | nil => exact Maintains.pure fd
  | cons part parts ih =>
    have hsplit : fd ++ part :: parts = fd ++ [part] ++ parts := by simp
    rw [hsplit] at ht
    refine Maintains.bind_of_ok (stepInto_grownTo (openOrCreateAt_grownTo ((List.prefix_append _ _).trans ht)))
      fun s next s' hnext => ?_
    obtain ⟨s₁, hopened, -⟩ := stepInto_ok hnext
    rw [(openOrCreateAt_ok hopened).1]
    exact ih ht

theorem openOrCreateBeneath_ok {fd' : Path} (hfd : s.disk.isDirectory fd = true)
    (h : openOrCreateBeneath k fd parts s = .ok fd' s') : fd' = fd ++ parts ∧ s'.disk.isDirectory (fd ++ parts) = true := by
  induction parts generalizing fd s with
  | nil =>
    obtain ⟨rfl, rfl⟩ := pure_ok.mp h
    rw [List.append_nil]
    exact ⟨rfl, hfd⟩
  | cons part parts ih =>
    obtain ⟨next, s₁, hnext, hrest⟩ := bind_ok.mp h
    obtain ⟨s₂, hopened, hsame⟩ := stepInto_ok hnext
    obtain ⟨rfl, hdir⟩ := openOrCreateAt_ok hopened
    rw [← hsame] at hdir
    have hsplit : fd ++ part :: parts = fd ++ [part] ++ parts := by simp
    rw [hsplit]
    exact ih (Disk.isDirectory_iff.mpr hdir) hrest

theorem openOrCreateParent_grown : Maintains Grown (openOrCreateParent k root parts) := by
  refine Maintains.bind ((Maintains.raisingAs (k.ask_sameDisk _ _)).mono SameDisk.grown) fun fd => ?_
  exact (openOrCreateBeneath_grownTo List.prefix_rfl).mono fun h => h.grows

theorem openOrCreateParent_returns : Returns (· = root ++ parts) (openOrCreateParent k root parts) := by
  intro s fd s' h
  obtain ⟨fd₁, s₁, hroot, hbeneath⟩ := bind_ok.mp h
  obtain ⟨rfl, hdir, hsame⟩ := openRoot_ok hroot
  exact (openOrCreateBeneath_ok (by rw [hsame]; exact hdir) hbeneath).1

theorem openTargetParent_grown {create : Bool} : Maintains Grown (openTargetParent k root parts create) := by
  cases create
  · exact openParent_sameDisk.mono SameDisk.grown
  · exact openOrCreateParent_grown

theorem openTargetParent_returns {create : Bool} : Returns (· = root ++ parts) (openTargetParent k root parts create) := by
  cases create
  · exact openParent_returns
  · exact openOrCreateParent_returns

/-- `create_confined_directories` makes nothing but directories on the way, and where it
ends the path leads to one. -/
theorem createConfinedDirectories_grownTo {path : String} {p : Path} (hp : normalizedRelativePath path = .ok p) :
    Maintains (GrownTo (root ++ p)) (createConfinedDirectories k root path) := by
  refine Maintains.bind_of_ok ((liftExcept_sameDisk _).mono sameDisk_grownTo) fun s parts s' hparts => ?_
  obtain ⟨hparts', -⟩ := liftExcept_ok.mp hparts
  rw [hp, Except.ok.injEq] at hparts'
  subst hparts'
  refine Maintains.bind ?_ fun fd => (close_sameDisk fd).mono sameDisk_grownTo
  refine Maintains.bind_of_ok ((Maintains.raisingAs (k.ask_sameDisk _ _)).mono sameDisk_grownTo) fun s fd s' hroot => ?_
  rw [(openRoot_ok hroot).1]
  exact openOrCreateBeneath_grownTo List.prefix_rfl

theorem createConfinedDirectories_ok {path : String} {u : Unit} (h : createConfinedDirectories k root path s = .ok u s') :
    ∃ p, normalizedRelativePath path = .ok p ∧ s'.disk.isDirectory (root ++ p) = true := by
  obtain ⟨p, s₁, hp, hmake⟩ := bind_ok.mp h
  obtain ⟨hp', rfl⟩ := liftExcept_ok.mp hp
  obtain ⟨fd, s₂, hopen, hclose⟩ := bind_ok.mp hmake
  have hclosed : s'.disk = s₂.disk := (close_sameDisk fd).of_ok hclose
  obtain ⟨fd₁, s₃, hroot, hbeneath⟩ := bind_ok.mp hopen
  obtain ⟨rfl, hdir, hsame⟩ := openRoot_ok hroot
  rw [hclosed]
  exact ⟨p, hp', (openOrCreateBeneath_ok (by rw [hsame]; exact hdir) hbeneath).2⟩

/-- Where the path cannot be read nothing is made. -/
theorem createConfinedDirectories_grown (path : String) : Maintains Grown (createConfinedDirectories k root path) := by
  cases hp : normalizedRelativePath path with
  | ok p => exact (createConfinedDirectories_grownTo hp).mono fun h => h.grows
  | error r =>
    intro s
    have hraise : createConfinedDirectories k root path s = .error r s :=
      bind_error.mpr (.inl (liftExcept_error.mpr ⟨hp, rfl⟩))
    rw [final, hraise]
    exact Disk.Grows.refl _

/-! ## Calls that are accepted -/

theorem openCalls_kind {c : Call} (h : c ∈ openCalls fd parts) : c.kind = .openDirectory ∨ c.kind = .close := by
  induction parts generalizing fd with
  | nil => cases h
  | cons part parts ih =>
    simp only [openCalls, List.cons_append, List.nil_append, List.mem_cons] at h
    rcases h with rfl | rfl | h
    · exact .inl rfl
    · exact .inr rfl
    · exact ih h

section
variable {kinds : List CallKind} (hk : k.Accepts kinds) (hroot : .openRoot ∈ kinds) (hdirs : .openDirectory ∈ kinds)
  (hclose : .close ∈ kinds)
include hk hdirs hclose

omit hdirs in
theorem close_accepted : close k fd s = .ok () ⟨s.disk, s.calls + 1⟩ := close_of_lets (hk _ _ hclose)

omit hdirs in
theorem stepInto_accepted {opened : Fs Path} {next : Path} (h : opened s = .ok next s') :
    stepInto k fd opened s = .ok next ⟨s'.disk, s'.calls + 1⟩ := by
  refine reraising_ok.mpr ?_
  rw [bind_of_ok h, bind_of_ok (close_accepted hk hclose)]
  rfl

theorem openCreate_accepted (h : d.isDirectory (fd ++ parts) = true) :
    ∃ i', openOrCreateBeneath k fd parts ⟨d, i⟩ = .ok (fd ++ parts) ⟨d, i'⟩ := by
  induction parts generalizing fd i with
  | nil =>
    rw [List.append_nil]
    exact ⟨i, rfl⟩
  | cons part parts ih =>
    have hsplit : fd ++ part :: parts = fd ++ [part] ++ parts := by simp
    rw [hsplit] at h ⊢
    have hopen := Kernel.ask_of_accepts (s := ⟨d, i⟩) (c := ⟨.openDirectory, fd ++ [part]⟩) (f := fun d => d.openDirectory fd part)
      hk hdirs (Disk.openDirectory_ok.mpr ⟨rfl, Disk.isDirectory_iff.mp (isDirectory_above h)⟩)
    obtain ⟨i', hrest⟩ := ih (i := i + 1 + 1) h
    have hat : openOrCreateAt k fd part ⟨d, i⟩ = .ok (fd ++ [part]) ⟨d, i + 1⟩ := except_of_ok (raisingAs_ok.mpr hopen)
    refine ⟨i', ?_⟩
    unfold openOrCreateBeneath
    rw [bind_of_ok (stepInto_accepted hk hclose hat)]
    exact hrest

omit hclose in
/-- Where nothing but directories is on the way, what is missing of it is made. -/
theorem openOrCreateAt_accepted {part : String} (hmake : .mkdir ∈ kinds) (hfd : d.isDirectory fd = true) (hpart : FileName part)
    (hway : d.node (fd ++ [part]) = none ∨ d.node (fd ++ [part]) = some .directory) :
    ∃ d' i', openOrCreateAt k fd part ⟨d, i⟩ = .ok (fd ++ [part]) ⟨d', i'⟩ := by
  rcases hway with hnone | hdir
  · obtain ⟨d', hadd⟩ := Disk.add_of_free (x := .directory) hfd hpart hnone
    have hdir' : d'.node (fd ++ [part]) = some .directory := by
      rw [(Disk.add_ok.mp hadd).2.2.2, if_pos rfl]
    have hmiss := Kernel.ask_of_refused (s := ⟨d, i⟩) (f := fun d => d.openDirectory fd part)
      (hk i ⟨.openDirectory, fd ++ [part]⟩ hdirs) (Disk.openDirectory_noent.mpr hnone)
    have hmkdir := Kernel.act_of_accepts (s := ⟨d, i + 1⟩) (c := ⟨.mkdir, fd ++ [part]⟩) (f := fun d => d.add fd part .directory)
      hk hmake hadd
    have hopen := Kernel.ask_of_accepts (s := ⟨d', i + 1 + 1⟩) (c := ⟨.openDirectory, fd ++ [part]⟩)
      (f := fun d => d.openDirectory fd part) hk hdirs (Disk.openDirectory_ok.mpr ⟨rfl, hdir'⟩)
    have hmissing : raisingAs Raised.os (openDirectoryAt k fd part) ⟨d, i⟩ = .error (.os .noent) ⟨d, i + 1⟩ :=
      raisingAs_error.mpr ⟨_, hmiss, rfl⟩
    refine ⟨d', i + 1 + 1 + 1, ?_⟩
    unfold openOrCreateAt
    rw [except_of_caught hmissing rfl, bind_of_ok (raisingAs_ok.mpr hmkdir)]
    exact raisingAs_ok.mpr hopen
  · have hopen := Kernel.ask_of_accepts (s := ⟨d, i⟩) (c := ⟨.openDirectory, fd ++ [part]⟩) (f := fun d => d.openDirectory fd part)
      hk hdirs (Disk.openDirectory_ok.mpr ⟨rfl, hdir⟩)
    exact ⟨d, i + 1, except_of_ok (raisingAs_ok.mpr hopen)⟩

theorem openOrCreateBeneath_accepted (hmake : .mkdir ∈ kinds) (hfd : d.isDirectory fd = true)
    (hparts : ∀ part ∈ parts, FileName part) (hway : d.Way fd parts) :
    ∃ d' i', openOrCreateBeneath k fd parts ⟨d, i⟩ = .ok (fd ++ parts) ⟨d', i'⟩ := by
  induction parts generalizing fd d i with
  | nil =>
    rw [List.append_nil]
    exact ⟨d, i, rfl⟩
  | cons part parts ih =>
    have hsplit : fd ++ part :: parts = fd ++ [part] ++ parts := by simp
    obtain ⟨d', i', hat⟩ := openOrCreateAt_accepted hk hdirs (i := i) hmake hfd (hparts part List.mem_cons_self)
      (hway [part] (List.cons_prefix_cons.mpr ⟨rfl, List.nil_prefix⟩))
    have hgrown : Disk.GrowsTo (fd ++ [part]) d d' := (openOrCreateAt_grownTo List.prefix_rfl).of_ok hat
    have hway' : d'.Way (fd ++ [part]) parts := by
      intro r hr
      have hr' : part :: r <+: part :: parts := List.cons_prefix_cons.mpr ⟨rfl, hr⟩
      have := hgrown.way hway (part :: r) hr'
      rwa [List.append_assoc, List.singleton_append]
    obtain ⟨d'', i'', hrest⟩ := ih (d := d') (i := i' + 1) (Disk.isDirectory_iff.mpr (openOrCreateAt_ok hat).2)
      (fun q hq => hparts q (List.mem_cons_of_mem _ hq)) hway'
    refine ⟨d'', i'', ?_⟩
    unfold openOrCreateBeneath
    rw [bind_of_ok (stepInto_accepted hk hclose hat), hrest, hsplit]

include hroot

theorem openParent_accepted (h : d.isDirectory (root ++ parts) = true) :
    ∃ i', openParent k root parts ⟨d, i⟩ = .ok (root ++ parts) ⟨d, i'⟩ := by
  refine ⟨_, openParent_of_opens ⟨h, hk.lets (fun c hc => ?_) i⟩⟩
  rcases List.mem_cons.mp hc with rfl | hc
  · exact hroot
  · rcases openCalls_kind hc with hkind | hkind
    · exact hkind ▸ hdirs
    · exact hkind ▸ hclose

theorem createConfinedDirectories_accepted {path : String} {p : Path} (hp : normalizedRelativePath path = .ok p)
    (h : d.isDirectory (root ++ p) = true) : ∃ i', createConfinedDirectories k root path ⟨d, i⟩ = .ok () ⟨d, i'⟩ := by
  have hopen := Kernel.ask_of_accepts (s := ⟨d, i⟩) (c := ⟨.openRoot, root⟩)
    (f := fun d => if d.isDirectory root then .ok root else .error .noent) hk hroot (if_pos (isDirectory_above h))
  obtain ⟨i', hrest⟩ := openCreate_accepted hk hdirs hclose (i := i + 1) h
  refine ⟨i' + 1, ?_⟩
  unfold createConfinedDirectories openOrCreateParent openRoot
  rw [bind_of_ok (liftExcept_ok.mpr ⟨hp, rfl⟩)]
  have hparent : (raisingAs (failedAs "Storage root is unavailable.")
      (k.ask ⟨.openRoot, root⟩ fun d => if d.isDirectory root then .ok root else .error .noent) >>=
      fun fd => openOrCreateBeneath k fd p) ⟨d, i⟩ = .ok (root ++ p) ⟨d, i'⟩ := by
    rw [bind_of_ok (raisingAs_ok.mpr hopen)]
    exact hrest
  rw [bind_of_ok hparent]
  exact close_accepted hk hclose

theorem createConfinedDirectories_makes {path : String} {p : Path} (hmake : .mkdir ∈ kinds)
    (hp : normalizedRelativePath path = .ok p) (hfd : d.isDirectory root = true) (hparts : ∀ part ∈ p, FileName part)
    (hway : d.Way root p) : ∃ d' i', createConfinedDirectories k root path ⟨d, i⟩ = .ok () ⟨d', i'⟩ := by
  have hopen := Kernel.ask_of_accepts (s := ⟨d, i⟩) (c := ⟨.openRoot, root⟩)
    (f := fun d => if d.isDirectory root then .ok root else .error .noent) hk hroot (if_pos hfd)
  obtain ⟨d', i', hrest⟩ := openOrCreateBeneath_accepted hk hdirs hclose (i := i + 1) hmake hfd hparts hway
  have hparent : openOrCreateParent k root p ⟨d, i⟩ = .ok (root ++ p) ⟨d', i'⟩ := by
    unfold openOrCreateParent openRoot
    rw [bind_of_ok (raisingAs_ok.mpr hopen)]
    exact hrest
  refine ⟨d', i' + 1, ?_⟩
  unfold createConfinedDirectories
  rw [bind_of_ok (liftExcept_ok.mpr ⟨hp, rfl⟩), bind_of_ok hparent]
  exact close_accepted hk hclose

theorem confinedEntryStat_accepted {path name : String} {p : Path} {x : Node Bytes} (hstat : .stat ∈ kinds)
    (hp : normalizedRelativePath path = .ok (p ++ [name])) (hx : d.node (root ++ p ++ [name]) = some x) :
    ∃ i', confinedEntryStat k root path ⟨d, i⟩ = .ok (some x) ⟨d, i'⟩ := by
  have hdir : d.isDirectory (root ++ p) = true := Disk.isDirectory_iff.mpr (d.holder _ name (by rw [hx]; rfl))
  obtain ⟨i', hopen⟩ := openParent_accepted hk hroot hdirs hclose (i := i) hdir
  have hcall := Kernel.ask_of_accepts (s := ⟨d, i'⟩) (c := ⟨.stat, root ++ p ++ [name]⟩) (f := fun d => d.stat (root ++ p) name)
    hk hstat (Disk.stat_ok.mpr hx)
  refine ⟨i' + 1 + 1, ?_⟩
  unfold confinedEntryStat
  rw [bind_of_ok (liftExcept_ok.mpr ⟨hp, rfl⟩), List.dropLast_concat]
  have hparent : (do let fd ← openParent k root p; pure (some fd) : Fs (Option Path)) ⟨d, i⟩ = .ok (some (root ++ p)) ⟨d, i'⟩ := by
    rw [bind_of_ok hopen]
    rfl
  rw [bind_of_ok (except_of_ok hparent)]
  dsimp only
  refine ensuring_of_ok ?_ (close_accepted hk hclose (s := ⟨d, i' + 1⟩))
  rw [bind_of_ok (lastPart_concat p name)]
  refine except_of_ok ?_
  rw [bind_of_ok (raisingAs_ok.mpr hcall)]
  rfl

end

end PveHelper.Files
