/-
The rename for file systems without `RENAME_NOREPLACE`: `_reserve_then_rename` of
`core/services/confined_filesystem.py` beside the one call that it stands for. The
name is claimed by an empty file or directory, and the plain rename then lands on
it; where a call fails the claim is given back, but for the close of a new file, which
stands in no `try`.
-/
import PveHelper.Files.ConfinedFacts

namespace PveHelper.Files

open Lib

/-! ## The call that it stands for -/

/-- How a rename ends. -/
inductive RenameOutcome
  | success | targetExists | otherError
deriving DecidableEq, Repr

def outcomeOfErrno : Errno → RenameOutcome
  | .exist => .targetExists
  | _ => .otherError

def outcomeOfRaised : Raised → RenameOutcome
  | .confined .exists _ => .targetExists
  | _ => .otherError

/-- One `RENAME_NOREPLACE` rename: its outcome, and the tree after it. A failure of the
call itself comes where the tree does not refuse it already. -/
def kernelRename (failure : Option Errno) (s p : Path) (n : String) (d : Disk Bytes) : RenameOutcome × Disk Bytes :=
  match d.renameNoReplace s p n with
  | .error e => (outcomeOfErrno e, d)
  | .ok d' => match failure with
    | some e => (outcomeOfErrno e, d)
    | none => (.success, d')

/-- The outcome of a program that renames, and the tree after it. -/
def renameResult (m : Fs Unit) (s : Machine Bytes) : RenameOutcome × Disk Bytes :=
  match m s with
  | .ok _ s' => (.success, s'.disk)
  | .error r s' => (outcomeOfRaised r, s'.disk)

theorem renameResult_of_ok {m : Fs Unit} {s s' : Machine Bytes} (h : m s = .ok () s') :
    renameResult m s = (.success, s'.disk) := by
  rw [renameResult, h]

theorem renameResult_of_error {m : Fs Unit} {s s' : Machine Bytes} {r : Raised} (h : m s = .error r s') :
    renameResult m s = (outcomeOfRaised r, s'.disk) := by
  rw [renameResult, h]

/-- A rename that does not succeed leaves the tree as it was. -/
theorem kernelRename_unchanged {failure : Option Errno} {s p : Path} {n : String} {d d' : Disk Bytes} {o : RenameOutcome}
    (h : kernelRename failure s p n d = (o, d')) (ho : o ≠ .success) : d' = d := by
  unfold kernelRename at h
  split at h
  · cases h
    rfl
  split at h
  · cases h
    rfl
  · cases h
    exact absurd rfl ho

theorem outcomeOfRaised_ne_success (r : Raised) : outcomeOfRaised r ≠ .success := by
  unfold outcomeOfRaised
  split <;> simp

/-- Onto a free name the rename fails only for its source or for where the name is. -/
theorem renameNoReplace_error_of_free {d : Disk Bytes} {s p : Path} {n : String} {e : Errno} (hfree : d.node (p ++ [n]) = none)
    (h : d.renameNoReplace s p n = .error e) : e = .noent ∨ e = .inval := by
  unfold Disk.renameNoReplace at h
  split at h
  · cases h
    exact .inl rfl
  rw [hfree] at h
  dsimp only [Option.isSome_none] at h
  rw [if_neg (by simp)] at h
  split at h
  · cases h
    exact .inr rfl
  · unfold Disk.relocate at h
    split at h
    · cases h
    · cases h
      exact .inl rfl

/-- A plain rename that fails once the name is claimed does not fail for the name. -/
theorem outcome_renameFailure {e : Errno} (he : e.external = true ∨ e = .noent ∨ e = .inval) :
    outcomeOfErrno e = .otherError ∧ outcomeOfRaised (renameFailure e) = .otherError := by
  rcases he with he | rfl | rfl
  · cases e
    all_goals first | exact ⟨rfl, rfl⟩ | cases he
  · exact ⟨rfl, rfl⟩
  · exact ⟨rfl, rfl⟩

/-! ## The claim on the name -/

/-- What claims the name. -/
def placeholder (sourceIsDirectory : Bool) : Node Bytes := if sourceIsDirectory then .directory else .file []

theorem placeholder_isDirectory (sourceIsDirectory : Bool) :
    (placeholder sourceIsDirectory).isDirectory = sourceIsDirectory := by
  cases sourceIsDirectory <;> rfl

section
variable {k : Kernel} {fd : Path} {name : String} {sourceIsDirectory : Bool} {s s' : Machine Bytes}

theorem claim_eq : claim k fd name sourceIsDirectory = except
    (raisingAs .os (k.act ⟨if sourceIsDirectory then .mkdir else .create, fd ++ [name]⟩
      (·.add fd name (placeholder sourceIsDirectory))))
    fun r => match r with
      | .os .exist => some (raise (.confined .exists "Target already exists."))
      | .os _ => some (raise (.confined .failed "Secure rename failed."))
      | _ => none := by
  cases sourceIsDirectory <;> rfl

theorem claim_ok {u : Unit} (h : claim k fd name sourceIsDirectory s = .ok u s') :
    s.disk.add fd name (placeholder sourceIsDirectory) = .ok s'.disk ∧ s'.calls = s.calls + 1 := by
  rw [claim_eq, except_ok] at h
  rcases h with h | ⟨r, s₁, m, -, hm, h⟩
  · exact ⟨Kernel.act_ok (raisingAs_ok.mp h), Kernel.act_calls (raisingAs_ok.mp h)⟩
  · split at hm <;> cases hm <;> cases h

/-- A name that cannot be claimed: nothing has happened, and the error says why. -/
theorem claim_error {r : Raised} (h : claim k fd name sourceIsDirectory s = .error r s') :
    s'.disk = s.disk ∧ ∃ e, outcomeOfRaised r = outcomeOfErrno e ∧
      (k.fault s.calls ⟨if sourceIsDirectory then .mkdir else .create, fd ++ [name]⟩ = some e ∨
        s.disk.add fd name (placeholder sourceIsDirectory) = .error e) := by
  rw [claim_eq, except_error] at h
  rcases h with ⟨h, hnone⟩ | ⟨r', s₁, m, h, hm, hr⟩
  · obtain ⟨e, -, rfl⟩ := raisingAs_error.mp h
    cases e <;> cases hnone
  · obtain ⟨e, hcall, rfl⟩ := raisingAs_error.mp h
    obtain ⟨hwhy, hsame⟩ := Kernel.act_error hcall
    split at hm
    · rename_i heq
      cases heq
      cases hm
      cases hr
      exact ⟨hsame, .exist, rfl, hwhy⟩
    · rename_i e' hne heq
      cases heq
      cases hm
      cases hr
      refine ⟨hsame, e, ?_, hwhy⟩
      have hnot : e ≠ .exist := fun he => hne (by rw [he])
      cases e <;> first | rfl | exact absurd rfl hnot
    · cases hm

theorem closeClaimed_sameDisk : Maintains SameDisk (if sourceIsDirectory then pure () else close k fd) := by
  cases sourceIsDirectory
  · exact close_sameDisk fd
  · exact Maintains.pure ()

/-- What the first call leaves where it ends: the placeholder, and nothing else. -/
theorem reserve_ok {u : Unit} (h : reserve k fd name sourceIsDirectory s = .ok u s') :
    s.disk.add fd name (placeholder sourceIsDirectory) = .ok s'.disk := by
  obtain ⟨u₁, s₁, hclaim, hclose⟩ := bind_ok.mp h
  have hsame : s'.disk = s₁.disk := closeClaimed_sameDisk.of_ok hclose
  rw [hsame]
  exact (claim_ok hclaim).1

/-- Where it raises, the name was not claimed, or the new file could not be closed and stays. -/
theorem reserve_error {r : Raised} (h : reserve k fd name sourceIsDirectory s = .error r s') :
    claim k fd name sourceIsDirectory s = .error r s' ∨
      sourceIsDirectory = false ∧ s.disk.add fd name (.file []) = .ok s'.disk ∧
        ∃ e, r = .os e ∧ k.fault (s.calls + 1) ⟨.close, fd ++ [name]⟩ = some e := by
  rcases bind_error.mp h with hclaim | ⟨u, s₁, hclaim, hclose⟩
  · exact .inl hclaim
  · cases sourceIsDirectory with
    | false =>
      obtain ⟨hadd, hcalls⟩ := claim_ok hclaim
      obtain ⟨e, hcall, rfl⟩ := raisingAs_error.mp hclose
      obtain ⟨hfault | hrefused, hsame⟩ := Kernel.ask_error hcall
      · rw [hsame]
        exact .inr ⟨rfl, hadd, e, rfl, hcalls ▸ hfault⟩
      · cases hrefused
    | true => cases hclose

/-- The claim is given back. -/
theorem discardReserved_add {d : Disk Bytes} (hclean : k.Accepts [.unlink, .rmdir])
    (h : d.add fd name (placeholder sourceIsDirectory) = .ok s.disk) :
    discardReserved k fd name sourceIsDirectory s = .ok () ⟨d, s.calls + 1⟩ := by
  unfold discardReserved ignoringOs
  apply except_of_ok
  rw [raisingAs_ok]
  cases sourceIsDirectory
  · show k.act ⟨.unlink, fd ++ [name]⟩ (·.unlink fd name) s = _
    exact Kernel.act_of_accepts hclean (by simp) (Disk.unlink_add rfl h)
  · show k.act ⟨.rmdir, fd ++ [name]⟩ (·.rmdir fd name) s = _
    exact Kernel.act_of_accepts hclean (by simp) (Disk.rmdir_add h)

end

/-! ## The two calls are the one call -/

section
variable {k : Kernel} {d : Disk Bytes} {i : Nat} {sourceFd targetFd : Path} {sourceName targetName : String} {x : Node Bytes}

theorem reserveThenRename_eq (hs : ConfinedName sourceName) (ht : ConfinedName targetName) (sourceIsDirectory : Bool) :
    reserveThenRename k sourceFd sourceName targetFd targetName sourceIsDirectory =
      (do reserve k targetFd targetName sourceIsDirectory
          renameReserved k sourceFd sourceName targetFd targetName sourceIsDirectory) := by
  unfold reserveThenRename
  rw [decide_eq_true hs, decide_eq_true ht]
  rfl

/-- Once the name is claimed, the rest is the one call. -/
theorem renameReserved_result {s : Machine Bytes} (hclean : k.Accepts [.unlink, .rmdir])
    (hsource : d.node (sourceFd ++ [sourceName]) = some x)
    (hadd : d.add targetFd targetName (placeholder x.isDirectory) = .ok s.disk) :
    renameResult (renameReserved k sourceFd sourceName targetFd targetName x.isDirectory) s =
      kernelRename (k.fault s.calls ⟨.rename, sourceFd ++ [sourceName]⟩) (sourceFd ++ [sourceName]) targetFd targetName d := by
  have hrename := Disk.rename_add hadd hsource (placeholder_isDirectory _).symm
  have hfree := (Disk.add_ok.mp hadd).1
  cases hcall : k.act ⟨.rename, sourceFd ++ [sourceName]⟩
      (·.rename (sourceFd ++ [sourceName]) targetFd targetName) s with
  | ok u s' =>
    have hok : renameReserved k sourceFd sourceName targetFd targetName x.isDirectory s = .ok () s' :=
      except_of_ok (raisingAs_ok.mpr hcall)
    have hdisk := Kernel.act_ok hcall
    have hfault : k.fault s.calls ⟨.rename, sourceFd ++ [sourceName]⟩ = none := by
      cases hf : k.fault s.calls ⟨.rename, sourceFd ++ [sourceName]⟩ with
      | none => rfl
      | some e => simp [Kernel.act, hf] at hcall
    rw [hrename] at hdisk
    rw [renameResult_of_ok hok, kernelRename, hdisk, hfault]
  | error e s' =>
    obtain ⟨hwhy, hsame⟩ := Kernel.act_error hcall
    have hback : renameReserved k sourceFd sourceName targetFd targetName x.isDirectory s
        = .error (renameFailure e) ⟨d, s'.calls + 1⟩ := by
      unfold renameReserved
      rw [except_of_caught (raisingAs_error.mpr ⟨e, hcall, rfl⟩) rfl, bind_of_ok (discardReserved_add hclean (hsame ▸ hadd))]
      rfl
    rw [renameResult_of_error hback, kernelRename]
    rcases hwhy with hfault | htree
    · obtain ⟨hown, hreported⟩ := outcome_renameFailure (.inl (k.external _ _ _ hfault (by simp)))
      rw [hfault, hreported]
      cases hall : d.renameNoReplace (sourceFd ++ [sourceName]) targetFd targetName with
      | ok d' =>
        dsimp only
        rw [hown]
      | error e' =>
        -- the tree refuses it as well, and that is no taken name either
        dsimp only
        rw [(outcome_renameFailure (.inr (renameNoReplace_error_of_free hfree hall))).1]
    · rw [hrename] at htree
      obtain ⟨hown, hreported⟩ := outcome_renameFailure (.inr (renameNoReplace_error_of_free hfree htree))
      rw [htree, hreported]
      dsimp only
      rw [hown]

/-- The number of calls that claim the name: a new file is created and closed. -/
def claimCalls (sourceIsDirectory : Bool) : Nat := if sourceIsDirectory then 1 else 2

theorem reserve_calls {sourceIsDirectory : Bool} {s s' : Machine Bytes} {u : Unit}
    (h : reserve k targetFd targetName sourceIsDirectory s = .ok u s') : s'.calls = s.calls + claimCalls sourceIsDirectory := by
  obtain ⟨u₁, s₁, hclaim, hclose⟩ := bind_ok.mp h
  have hcalls := (claim_ok hclaim).2
  cases sourceIsDirectory with
  | false =>
    have hclosed := Kernel.ask_calls (raisingAs_ok.mp hclose)
    rw [hclosed, hcalls]
    rfl
  | true =>
    cases hclose
    exact hcalls

/-- The fallback gives what the one call gives, the failure of its rename being the
failure of that call; and where it raises the tree is as before, unless it was the close of
the new file that failed, which leaves the file. -/
theorem reserveThenRename_result (hs : ConfinedName sourceName) (ht : ConfinedName targetName)
    (hsource : d.node (sourceFd ++ [sourceName]) = some x) (htarget : d.isDirectory targetFd = true)
    (hclean : k.Accepts [.unlink, .rmdir]) :
    (k.Accepts [.mkdir, .create, .close] →
      renameResult (reserveThenRename k sourceFd sourceName targetFd targetName x.isDirectory) ⟨d, i⟩ =
        kernelRename (k.fault (i + claimCalls x.isDirectory) ⟨.rename, sourceFd ++ [sourceName]⟩)
          (sourceFd ++ [sourceName]) targetFd targetName d) ∧
    ∀ r s', reserveThenRename k sourceFd sourceName targetFd targetName x.isDirectory ⟨d, i⟩ = .error r s' →
      s'.disk = d ∨ x.isDirectory = false ∧ d.add targetFd targetName (.file []) = .ok s'.disk ∧
        ∃ e, r = .os e ∧ k.fault (i + 1) ⟨.close, targetFd ++ [targetName]⟩ = some e := by
  rw [reserveThenRename_eq hs ht]
  cases hreserve : reserve k targetFd targetName x.isDirectory ⟨d, i⟩ with
  | ok u s =>
    have hresult := renameReserved_result hclean hsource (reserve_ok hreserve)
    rw [reserve_calls hreserve] at hresult
    constructor
    · intro _
      rw [renameResult, bind_of_ok hreserve]
      exact hresult
    · intro r s' h
      rw [bind_of_ok hreserve] at h
      rw [renameResult_of_error h] at hresult
      exact .inl (kernelRename_unchanged hresult.symm (outcomeOfRaised_ne_success r))
  | error r s =>
    have hall : (do reserve k targetFd targetName x.isDirectory
                    renameReserved k sourceFd sourceName targetFd targetName x.isDirectory : Fs Unit) ⟨d, i⟩ = .error r s :=
      bind_error.mpr (.inl hreserve)
    rcases reserve_error hreserve with hclaim | ⟨hfile, hadd, e, hr, hfault⟩
    · obtain ⟨hsame, e, hkind, hwhy⟩ := claim_error hclaim
      constructor
      · intro haccepts
        -- only a taken name keeps the claim from being made
        have htree : d.add targetFd targetName (placeholder x.isDirectory) = .error e := by
          refine hwhy.resolve_left fun hfault => ?_
          rw [haccepts _ _ (by split <;> simp)] at hfault
          cases hfault
        obtain ⟨rfl, htaken⟩ := Disk.add_error htarget ht.toFileName htree
        rw [renameResult_of_error hall, hkind, hsame, kernelRename, Disk.renameNoReplace, hsource]
        dsimp only
        rw [if_pos htaken]
      · intro r' s' h
        rw [hall] at h
        cases h
        exact .inl hsame
    · constructor
      · intro haccepts
        rw [haccepts _ _ (by simp)] at hfault
        cases hfault
      · intro r' s' h
        rw [hall] at h
        cases h
        exact .inr ⟨hfile, hadd, e, hr, hfault⟩

end

/-- A file given another name in its directory. -/
theorem sole_file_renamed :
    renameResult (reserveThenRename .sound [] "disk.raw" [] "disk.old" false) ⟨Disk.empty.plant [] "disk.raw" (.file [1]), 0⟩ =
      kernelRename none ["disk.raw"] [] "disk.old" (Disk.empty.plant [] "disk.raw" (.file [1])) := by
  refine (reserveThenRename_result (x := .file [1]) ?_ ?_ ?_ ?_ ?_).1 ?_
  · decide
  · decide
  · decide
  · decide
  · exact Kernel.sound_accepts _
  · exact Kernel.sound_accepts _

/-- No close succeeds: `EIO`. -/
def unclosing : Kernel :=
  .failing (fun _ c => if c.kind = .close then some (.other 5) else none) (by
    intro i c e h hkind
    rw [if_neg hkind] at h
    cases h)

/-- The new file cannot be closed, and nobody takes it away. -/
theorem unclosed_file_stays : unclosing.Accepts [.unlink, .rmdir] ∧ ∃ r s',
    reserveThenRename unclosing [] "disk.raw" [] "disk.old" false ⟨Disk.empty.plant [] "disk.raw" (.file [1]), 0⟩ = .error r s' ∧
      s'.disk ≠ Disk.empty.plant [] "disk.raw" (.file [1]) := by
  refine ⟨fun i c hc => if_neg fun hkind => ?_, .os (.other 5), _, rfl, fun hsame => ?_⟩
  · rw [hkind] at hc
    simp at hc
  · have hnode := congrArg (fun d : Disk Bytes => d.node ["disk.old"]) hsame
    revert hnode
    decide

end PveHelper.Files
