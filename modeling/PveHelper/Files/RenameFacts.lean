/-
What the renames of `core/services/confined_filesystem.py` come to on the tree,
whichever of the two ways they take: a rename that ends is one rename that replaces
nothing, and one that raises leaves everything that was there.
-/
import PveHelper.Files.ConfinedFacts
import PveHelper.Files.NoReplace

namespace PveHelper.Files

open Lib

variable {k : Kernel} {d : Disk Bytes} {i : Nat} {s s' : Machine Bytes} {r : Raised} {u : Unit} {fd sourceFd targetFd : Path}
  {name sourceName targetName : String} {x : Node Bytes}

/-- The claim is given back, or it stays. -/
theorem discardReserved_ends {sourceIsDirectory : Bool} (h : d.add fd name (placeholder sourceIsDirectory) = .ok s.disk) :
    ∃ s', discardReserved k fd name sourceIsDirectory s = .ok () s' ∧ d.Grows s'.disk := by
  have hact : ∀ {c : Call} {f : Disk Bytes → Except Errno (Disk Bytes)}, f s.disk = .ok d →
      ∃ s', ignoringOs (raisingAs .os (k.act c f)) s = .ok () s' ∧ d.Grows s'.disk := by
    intro c f hf
    cases hcall : k.act c f s with
    | ok u s' =>
      have hdisk := Kernel.act_ok hcall
      rw [hf, Except.ok.injEq] at hdisk
      exact ⟨s', except_of_ok (raisingAs_ok.mpr hcall), hdisk ▸ Disk.Grows.refl d⟩
    | error e s' =>
      have hsame := (Kernel.act_error hcall).2
      refine ⟨s', ?_, hsame ▸ Disk.add_grows h⟩
      unfold ignoringOs
      rw [except_of_caught (raisingAs_error.mpr ⟨e, hcall, rfl⟩) rfl]
      rfl
  cases sourceIsDirectory
  · exact hact (c := ⟨.unlink, fd ++ [name]⟩) (f := fun d => d.unlink fd name) (Disk.unlink_add rfl h)
  · exact hact (c := ⟨.rmdir, fd ++ [name]⟩) (f := fun d => d.rmdir fd name) (Disk.rmdir_add h)

theorem renameReserved_ok (hsource : d.node (sourceFd ++ [sourceName]) = some x)
    (hadd : d.add targetFd targetName (placeholder x.isDirectory) = .ok s.disk)
    (h : renameReserved k sourceFd sourceName targetFd targetName x.isDirectory s = .ok u s') :
    d.renameNoReplace (sourceFd ++ [sourceName]) targetFd targetName = .ok s'.disk := by
  unfold renameReserved at h
  rw [except_ok] at h
  rcases h with h | ⟨r, s₁, m, hr, hm, h⟩
  · have hdisk := Kernel.act_ok (raisingAs_ok.mp h)
    rwa [Disk.rename_add hadd hsource (placeholder_isDirectory _).symm] at hdisk
  · obtain ⟨e, -, rfl⟩ := raisingAs_error.mp hr
    cases hm
    obtain ⟨u', s₂, -, h⟩ := bind_ok.mp h
    exact absurd h raise_ok

theorem renameReserved_error {sourceIsDirectory : Bool}
    (hadd : d.add targetFd targetName (placeholder sourceIsDirectory) = .ok s.disk)
    (h : renameReserved k sourceFd sourceName targetFd targetName sourceIsDirectory s = .error r s') :
    d.Grows s'.disk := by
  unfold renameReserved at h
  rw [except_error] at h
  rcases h with ⟨h, hnone⟩ | ⟨r', s₁, m, hr, hm, h⟩
  · obtain ⟨e, -, rfl⟩ := raisingAs_error.mp h
    cases hnone
  · obtain ⟨e, hcall, rfl⟩ := raisingAs_error.mp hr
    obtain ⟨-, hsame⟩ := Kernel.act_error hcall
    obtain ⟨s₂, hdiscard, hgrows⟩ := discardReserved_ends (k := k) (s := s₁) (hsame ▸ hadd)
    cases hm
    rw [bind_of_ok hdiscard] at h
    cases h
    exact hgrows

theorem reserve_grown {sourceIsDirectory : Bool} (h : reserve k fd name sourceIsDirectory s = .error r s') : Grown s s' := by
  rcases reserve_error h with hclaim | ⟨-, hadd, -⟩
  · exact SameDisk.grown (claim_error hclaim).1
  · exact Disk.add_grows hadd

section
variable (hsource : s.disk.node (sourceFd ++ [sourceName]) = some x)
include hsource

theorem reserveThenRename_ok (h : reserveThenRename k sourceFd sourceName targetFd targetName x.isDirectory s = .ok u s') :
    s.disk.renameNoReplace (sourceFd ++ [sourceName]) targetFd targetName = .ok s'.disk := by
  obtain ⟨-, h⟩ := unlessRaise_bind_ok.mp h
  obtain ⟨u', s₁, hreserve, h⟩ := bind_ok.mp h
  exact renameReserved_ok hsource (reserve_ok hreserve) h

omit hsource in
theorem reserveThenRename_error {sourceIsDirectory : Bool}
    (h : reserveThenRename k sourceFd sourceName targetFd targetName sourceIsDirectory s = .error r s') : Grown s s' := by
  unfold reserveThenRename at h
  rcases bind_error.mp h with hraise | ⟨u₁, s₁, hnames, hrest⟩
  · exact (Maintains.unlessRaise (R := Grown) _ _).of_error hraise
  obtain ⟨-, rfl⟩ := unlessRaise_ok.mp hnames
  rcases bind_error.mp hrest with hraise | ⟨u₂, s₂, hreserve, hrename⟩
  · exact reserve_grown hraise
  · exact renameReserved_error (reserve_ok hreserve) hrename

/-- A rename that ends is one rename that replaces nothing. -/
theorem renameat2Noreplace_ok
    (h : renameat2Noreplace k sourceFd sourceName targetFd targetName x.isDirectory s = .ok u s') :
    s.disk.renameNoReplace (sourceFd ++ [sourceName]) targetFd targetName = .ok s'.disk := by
  unfold renameat2Noreplace at h
  rw [except_ok] at h
  rcases h with h | ⟨r, s₁, m, hr, hm, h⟩
  · exact Kernel.act_ok (raisingAs_ok.mp h)
  · obtain ⟨e, hcall, rfl⟩ := raisingAs_error.mp hr
    have hsame := (Kernel.act_error hcall).2
    split at hm
    · cases hm
      cases h
    · cases hm
      cases h
    · split at hm
      · cases hm
        rw [← hsame] at hsource ⊢
        exact reserveThenRename_ok hsource h
      · cases hm
        cases h
    · cases hm

omit hsource in
theorem renameReserved_still {sourceIsDirectory : Bool} (hclean : k.Accepts [.close, .unlink, .rmdir])
    (hadd : d.add targetFd targetName (placeholder sourceIsDirectory) = .ok s.disk)
    (h : renameReserved k sourceFd sourceName targetFd targetName sourceIsDirectory s = .error r s') : s'.disk = d := by
  unfold renameReserved at h
  rcases except_error.mp h with ⟨h, hnone⟩ | ⟨r', s₁, m, hr, hm, h⟩
  · obtain ⟨e, -, rfl⟩ := raisingAs_error.mp h
    cases hnone
  · obtain ⟨e, hcall, rfl⟩ := raisingAs_error.mp hr
    have hsame := (Kernel.act_error hcall).2
    have hremoves : k.Accepts [.unlink, .rmdir] := fun i c hc => hclean i c (List.mem_cons_of_mem _ hc)
    cases hm
    rw [bind_of_ok (discardReserved_add hremoves (s := s₁) (hsame ▸ hadd))] at h
    cases h
    rfl

omit hsource in
theorem reserve_still {sourceIsDirectory : Bool} (hclean : k.Accepts [.close, .unlink, .rmdir])
    (h : reserve k targetFd targetName sourceIsDirectory s = .error r s') : s'.disk = s.disk := by
  rcases reserve_error h with hclaim | ⟨-, -, e, -, hfault⟩
  · exact (claim_error hclaim).1
  · rw [hclean _ _ (by simp)] at hfault
    cases hfault

omit hsource in
/-- Where a placeholder can be closed and taken away, a rename that raises leaves the tree as it was. -/
theorem renameat2Noreplace_still {sourceIsDirectory : Bool} (hclean : k.Accepts [.close, .unlink, .rmdir])
    (h : renameat2Noreplace k sourceFd sourceName targetFd targetName sourceIsDirectory s = .error r s') :
    s'.disk = s.disk := by
  unfold renameat2Noreplace at h
  rcases except_error.mp h with ⟨h, -⟩ | ⟨r', s₁, m, hr, hm, h⟩
  · obtain ⟨e, hcall, rfl⟩ := raisingAs_error.mp h
    exact (Kernel.act_error hcall).2
  · obtain ⟨e, hcall, rfl⟩ := raisingAs_error.mp hr
    have hsame := (Kernel.act_error hcall).2
    split at hm
    · cases hm
      cases h
      exact hsame
    · cases hm
      cases h
      exact hsame
    · split at hm
      · cases hm
        rw [← hsame]
        rcases bind_error.mp h with hraise | ⟨u₁, s₂, hnames, hrest⟩
        · exact (Maintains.unlessRaise (R := SameDisk) _ _).of_error hraise
        obtain ⟨-, rfl⟩ := unlessRaise_ok.mp hnames
        rcases bind_error.mp hrest with hraise | ⟨u₂, s₃, hreserve, hrename⟩
        · exact reserve_still hclean hraise
        · exact renameReserved_still hclean (reserve_ok hreserve) hrename
      · cases hm
        cases h
        exact hsame
    · cases hm

omit hsource in
/-- A rename that raises leaves everything that was there. -/
theorem renameat2Noreplace_error {sourceIsDirectory : Bool}
    (h : renameat2Noreplace k sourceFd sourceName targetFd targetName sourceIsDirectory s = .error r s') : Grown s s' := by
  unfold renameat2Noreplace at h
  rw [except_error] at h
  rcases h with ⟨h, -⟩ | ⟨r', s₁, m, hr, hm, h⟩
  · obtain ⟨e, hcall, rfl⟩ := raisingAs_error.mp h
    exact SameDisk.grown (Kernel.act_error hcall).2
  · obtain ⟨e, hcall, rfl⟩ := raisingAs_error.mp hr
    have hsame : SameDisk s s₁ := (Kernel.act_error hcall).2
    split at hm
    · cases hm
      cases h
      exact hsame.grown
    · cases hm
      cases h
      exact hsame.grown
    · split at hm
      · cases hm
        exact IsTrans.trans _ _ _ hsame.grown (reserveThenRename_error h)
      · cases hm
        cases h
        exact hsame.grown
    · cases hm

end

/-! ## Whole paths -/

/-- What a rename that raised leaves: the tree that it found, but for a placeholder that
could not be closed or taken away again. -/
structure Unmoved (k : Kernel) (d d' : Disk Bytes) : Prop where
  grows : d.Grows d'
  same : k.Accepts [.close, .unlink, .rmdir] → d' = d

theorem Unmoved.refl (k : Kernel) (d : Disk Bytes) : Unmoved k d d := ⟨Disk.Grows.refl d, fun _ => rfl⟩

/-- The entry at the one path was moved to the other. -/
def Renamed (d : Disk Bytes) (sourceRoot targetRoot : Path) (source target : String) (expected : Expected) (d' : Disk Bytes) :
    Prop :=
  ∃ sp sn tp tn x, normalizedRelativePath source = .ok (sp ++ [sn]) ∧ normalizedRelativePath target = .ok (tp ++ [tn]) ∧
    d.node (sourceRoot ++ sp ++ [sn]) = some x ∧ expected.admits x = true ∧
    d.renameNoReplace (sourceRoot ++ sp ++ [sn]) (targetRoot ++ tp) tn = .ok d'

theorem renameat2Noreplace_triple (hx : d.node (sourceFd ++ [sourceName]) = some x) :
    Triple (On (· = d)) (renameat2Noreplace k sourceFd sourceName targetFd targetName x.isDirectory)
      (fun _ => On fun d' => d.renameNoReplace (sourceFd ++ [sourceName]) targetFd targetName = .ok d')
      fun _ => On (Unmoved k d) where
  ok s _ s' hs h := by
    obtain rfl : s.disk = d := hs
    exact renameat2Noreplace_ok hx h
  error s r s' hs h := by
    obtain rfl : s.disk = d := hs
    exact ⟨renameat2Noreplace_error h, fun hclean => renameat2Noreplace_still hclean h⟩

theorem openRename_triple {targetRoot : Path} {sourceParts targetParts : List String} {expected : Expected} :
    Triple (On (· = d)) (openRename k sourceFd sourceParts targetParts targetRoot expected false)
      (fun found s => ((∃ q, sourceParts = q ++ [found.1]) ∧ expected.admits found.2.1 = true ∧
        found.2.2 = targetRoot ++ targetParts.dropLast ∧ d.node (sourceFd ++ [found.1]) = some found.2.1) ∧
        On (· = d) s)
      fun _ => On (· = d) := by
  refine Triple.bind lastPart_triple fun name => Triple.of_pure fun hname => ?_
  refine Triple.bind statConfinedChild_triple fun x => Triple.of_pure fun hx => ?_
  have hopen : Triple (On fun d' => d' = d ∧ d'.node (sourceFd ++ [name]) = some x)
      (openTargetParent k targetRoot targetParts.dropLast false)
      (fun targetFd s => targetFd = targetRoot ++ targetParts.dropLast ∧
        On (fun d' => d' = d ∧ d'.node (sourceFd ++ [name]) = some x) s)
      fun _ => On fun d' => d' = d ∧
        d'.node (sourceFd ++ [name]) = some x := still openParent_sameDisk openParent_returns
  refine Triple.bind (hopen.raises fun _ _ hs => hs.1) fun targetFd => Triple.of_pure fun htarget => ?_
  refine Triple.pure fun s hs => ⟨⟨hname, hx, htarget, ?_⟩, hs.1⟩
  have hnode := hs.2
  rwa [show s.disk = d from hs.1] at hnode

/-- `rename_entry_noreplace` that makes no parents: the entry is moved, or it stays. A close
that fails after the move is raised all the same. -/
theorem renameEntryNoreplace_triple {sourceRoot targetRoot : Path} {source target : String} {expected : Expected} :
    Triple (On (· = d)) (renameEntryNoreplace k sourceRoot source target targetRoot expected false)
      (fun _ => On (Renamed d sourceRoot targetRoot source target expected))
      fun r => On fun d' => Unmoved k d d' ∨ CloseRaised k r ∧ Renamed d sourceRoot targetRoot source target expected d' := by
  have hstill : ∀ {d'}, d' = d → Unmoved k d d' := fun h => h ▸ Unmoved.refl k d
  refine Triple.bind (liftExcept_triple.raises fun _ _ hs => .inl (hstill hs)) fun sourceParts =>
    Triple.of_pure fun hsource => ?_
  refine Triple.bind (liftExcept_triple.raises fun _ _ hs => .inl (hstill hs)) fun targetParts =>
    Triple.of_pure fun htarget => ?_
  refine Triple.bind ((still openParent_sameDisk openParent_returns).raises fun _ _ hs => .inl (hstill hs))
    fun sourceFd => Triple.of_pure fun hsourceFd => ?_
  refine Triple.bind ((Triple.reraising openRename_triple fun r => looks (close_sameDisk sourceFd)).raises
    fun _ _ hs => .inl (hstill hs)) fun found => Triple.of_pure fun hfound => ?_
  obtain ⟨sourceName, x, targetFd⟩ := found
  obtain ⟨⟨q, rfl⟩, hadmits, htargetFd, hx⟩ := hfound
  dsimp only at hadmits htargetFd hx
  subst hsourceFd htargetFd
  rw [List.dropLast_concat] at hx
  rw [List.dropLast_concat]
  have hclose : ∀ (P : Disk Bytes → Prop) (first second : Path),
      Triple (On P) (do close k first; close k second) (fun _ => On P) fun r s => CloseRaised k r ∧ On P s :=
    fun P first second => (close_triple first).bind fun _ => close_triple second
  refine Triple.ensuring (F := fun _ => On (Unmoved k d))
    (M := fun _ => On (Renamed d sourceRoot targetRoot source target expected)) ?_
    (fun _ => (hclose _ _ _).raises fun r s hs => .inr hs)
    fun r => (hclose _ _ _).weaken (fun _ h => h) (fun _ _ h => .inl h) fun _ _ h => .inl h.2
  refine Triple.bind (lastPart_triple.raises fun _ _ hs => hstill hs) fun targetName => Triple.of_pure fun htargetName => ?_
  obtain ⟨q', rfl⟩ := htargetName
  rw [List.dropLast_concat]
  exact (renameat2Noreplace_triple hx).weaken (fun _ h => h)
    (fun _ s h => ⟨q, sourceName, q', targetName, x, hsource, htarget, hx, hadmits, h⟩) fun _ _ h => h

/-- From any of several trees. -/
theorem renameEntryNoreplace_from {P : Disk Bytes → Prop} {sourceRoot targetRoot : Path} {source target : String}
    {expected : Expected} :
    Triple (On P) (renameEntryNoreplace k sourceRoot source target targetRoot expected false)
      (fun _ => On fun d' => ∃ d₁, P d₁ ∧ Renamed d₁ sourceRoot targetRoot source target expected d')
      fun r => On fun d' => (∃ d₁, P d₁ ∧ d₁.Grows d') ∨
        CloseRaised k r ∧ ∃ d₁, P d₁ ∧ Renamed d₁ sourceRoot targetRoot source target expected d' where
  ok s u s' hs h := ⟨s.disk, hs, renameEntryNoreplace_triple.ok s u s' rfl h⟩
  error s r s' hs h := by
    rcases renameEntryNoreplace_triple.error s r s' rfl h with hunmoved | ⟨hclose, hrenamed⟩
    · exact .inl ⟨s.disk, hs, hunmoved.grows⟩
    · exact .inr ⟨hclose, s.disk, hs, hrenamed⟩

/-- Where the rename ends, the entry has been moved. -/
theorem renameEntryNoreplace_ok {sourceRoot targetRoot : Path} {source target : String} {expected : Expected}
    (h : renameEntryNoreplace k sourceRoot source target targetRoot expected false s = .ok u s') :
    Renamed s.disk sourceRoot targetRoot source target expected s'.disk :=
  renameEntryNoreplace_triple.ok s u s' rfl h

/-! ## Calls that are accepted -/

/-- The calls of a rename are accepted, though perhaps not the flag that replaces nothing. -/
structure AcceptsRenames (k : Kernel) : Prop where
  calls : k.Accepts [.openRoot, .openDirectory, .stat, .mkdir, .create, .rename, .close]
  flag : ∀ i c e, c.kind = .renameNoReplace → k.fault i c = some e → renameat2Unsupported e = true

theorem sound_acceptsRenames : AcceptsRenames .sound where
  calls := Kernel.sound_accepts _
  flag _ _ _ _ h := by cases h

section
variable {d' : Disk Bytes} (hk : AcceptsRenames k)
include hk

theorem reserve_accepted {sourceIsDirectory : Bool} {d₁ : Disk Bytes}
    (h : d.add fd name (placeholder sourceIsDirectory) = .ok d₁) :
    reserve k fd name sourceIsDirectory ⟨d, i⟩ = .ok () ⟨d₁, i + claimCalls sourceIsDirectory⟩ := by
  have hclaim : claim k fd name sourceIsDirectory ⟨d, i⟩ = .ok () ⟨d₁, i + 1⟩ := by
    rw [claim_eq]
    refine except_of_ok (raisingAs_ok.mpr ?_)
    refine Kernel.act_of_accepts hk.calls (s := ⟨d, i⟩) (f := fun d => d.add fd name (placeholder sourceIsDirectory)) ?_ h
    cases sourceIsDirectory <;> simp
  unfold reserve
  rw [bind_of_ok hclaim]
  cases sourceIsDirectory with
  | false => exact close_accepted hk.calls (by simp)
  | true => rfl

/-- The fallback ends where the one rename does. -/
theorem reserveThenRename_accepted (hs : ConfinedName sourceName) (ht : ConfinedName targetName)
    (hsource : d.node (sourceFd ++ [sourceName]) = some x)
    (h : d.renameNoReplace (sourceFd ++ [sourceName]) targetFd targetName = .ok d') :
    ∃ i', reserveThenRename k sourceFd sourceName targetFd targetName x.isDirectory ⟨d, i⟩ = .ok () ⟨d', i'⟩ := by
  obtain ⟨hfree, hm, -⟩ := Disk.renameNoReplace_ok h
  obtain ⟨d₁, hadd⟩ := Disk.add_of_free (x := placeholder x.isDirectory) hm.room hm.name hfree
  have hrename := Disk.rename_add hadd hsource (placeholder_isDirectory _).symm
  rw [h] at hrename
  have hcall := Kernel.act_of_accepts hk.calls (s := ⟨d₁, i + claimCalls x.isDirectory⟩)
    (c := ⟨.rename, sourceFd ++ [sourceName]⟩) (f := fun d => d.rename (sourceFd ++ [sourceName]) targetFd targetName)
    (by simp) hrename
  refine ⟨i + claimCalls x.isDirectory + 1, ?_⟩
  rw [reserveThenRename_eq hs ht, bind_of_ok (reserve_accepted hk hadd)]
  exact except_of_ok (raisingAs_ok.mpr hcall)

theorem renameat2Noreplace_accepted (hs : ConfinedName sourceName) (ht : ConfinedName targetName)
    (hsource : d.node (sourceFd ++ [sourceName]) = some x)
    (h : d.renameNoReplace (sourceFd ++ [sourceName]) targetFd targetName = .ok d') :
    ∃ i', renameat2Noreplace k sourceFd sourceName targetFd targetName x.isDirectory ⟨d, i⟩ = .ok () ⟨d', i'⟩ := by
  cases hfault : k.fault i ⟨.renameNoReplace, sourceFd ++ [sourceName]⟩ with
  | none =>
    have hcall := Kernel.act_of_ok (s := ⟨d, i⟩) (f := fun d => d.renameNoReplace (sourceFd ++ [sourceName]) targetFd targetName)
      hfault h
    exact ⟨i + 1, except_of_ok (raisingAs_ok.mpr hcall)⟩
  | some e =>
    have hcall := Kernel.act_of_fault (s := ⟨d, i⟩)
      (f := fun d => d.renameNoReplace (sourceFd ++ [sourceName]) targetFd targetName) hfault
    have hflag := hk.flag _ _ _ rfl hfault
    obtain ⟨i', hfallback⟩ := reserveThenRename_accepted hk (i := i + 1) hs ht hsource h
    refine ⟨i', ?_⟩
    unfold renameat2Noreplace
    rw [except_of_caught (raisingAs_error.mpr ⟨e, hcall, rfl⟩)
      (show _ = some (reserveThenRename k sourceFd sourceName targetFd targetName x.isDirectory) from ?_), hfallback]
    cases e <;> first | rfl | cases hflag

/-- `rename_entry_noreplace` ends where the one rename does. -/
theorem renameEntryNoreplace_accepted {sourceRoot targetRoot : Path} {source target : String} {expected : Expected}
    {sp tp : Path} {sn tn : String} (hsource : normalizedRelativePath source = .ok (sp ++ [sn]))
    (htarget : normalizedRelativePath target = .ok (tp ++ [tn])) (hs : ConfinedName sn) (ht : ConfinedName tn)
    (hx : d.node (sourceRoot ++ sp ++ [sn]) = some x) (hadmits : expected.admits x = true)
    (h : d.renameNoReplace (sourceRoot ++ sp ++ [sn]) (targetRoot ++ tp) tn = .ok d') :
    ∃ i', renameEntryNoreplace k sourceRoot source target targetRoot expected false ⟨d, i⟩ = .ok () ⟨d', i'⟩ := by
  have hdir : d.isDirectory (sourceRoot ++ sp) = true := Disk.isDirectory_iff.mpr (d.holder _ sn (by rw [hx]; rfl))
  obtain ⟨-, hm, -⟩ := Disk.renameNoReplace_ok h
  obtain ⟨i₁, hsourceFd⟩ := openParent_accepted hk.calls (by simp) (by simp) (by simp) (i := i) hdir
  have hstat : statConfinedChild k (sourceRoot ++ sp) sn expected ⟨d, i₁⟩ = .ok x ⟨d, i₁ + 1⟩ := by
    have hcall := Kernel.ask_of_accepts hk.calls (s := ⟨d, i₁⟩) (c := ⟨.stat, sourceRoot ++ sp ++ [sn]⟩)
      (f := fun d => d.stat (sourceRoot ++ sp) sn) (by simp) (Disk.stat_ok.mpr hx)
    unfold statConfinedChild
    rw [bind_of_ok (except_of_ok (raisingAs_ok.mpr hcall)), unlessRaise_bind_ok]
    exact ⟨hadmits, rfl⟩
  obtain ⟨i₂, htargetFd⟩ := openParent_accepted hk.calls (by simp) (by simp) (by simp) (i := i₁ + 1) hm.room
  obtain ⟨i₃, hrename⟩ := renameat2Noreplace_accepted hk (i := i₂) hs ht hx h
  have hopen : openRename k (sourceRoot ++ sp) (sp ++ [sn]) (tp ++ [tn]) targetRoot expected false ⟨d, i₁⟩ =
      .ok (sn, x, targetRoot ++ tp) ⟨d, i₂⟩ := by
    unfold openRename
    rw [bind_of_ok (lastPart_concat sp sn), bind_of_ok hstat, List.dropLast_concat]
    show (openParent k targetRoot tp >>= _) _ = _
    rw [bind_of_ok htargetFd]
    rfl
  have hclose : ∀ fd (s : Machine Bytes), close k fd s = .ok () ⟨s.disk, s.calls + 1⟩ := fun fd s =>
    close_accepted hk.calls (by simp)
  have hcloses : ∀ first second (s : Machine Bytes), (do close k first; close k second : Fs Unit) s =
      .ok () ⟨s.disk, s.calls + 1 + 1⟩ := fun first second s => by
    rw [bind_of_ok (hclose first s)]
    exact hclose second _
  refine ⟨i₃ + 1 + 1, ?_⟩
  unfold renameEntryNoreplace
  rw [bind_of_ok (liftExcept_ok.mpr ⟨hsource, rfl⟩), bind_of_ok (liftExcept_ok.mpr ⟨htarget, rfl⟩), List.dropLast_concat,
    bind_of_ok hsourceFd, bind_of_ok (reraising_ok.mpr hopen)]
  refine ensuring_of_ok ?_ (hcloses _ _ ⟨d', i₃⟩)
  rw [bind_of_ok (lastPart_concat tp tn)]
  exact hrename

end

end PveHelper.Files
