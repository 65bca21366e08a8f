/-
One request over several files, `trash_storage_file` and `move_storage_file_view`
of `core/views/storage/actions.py`: the confirmations are asked for the whole
selection, the actions run one file after another and stop when the catalog was
republished. A single file's acknowledgement is its own risk's
(`_risk_acknowledged`); a selection's is that of any of its risks
(`_risk_acknowledged_for_risks`), so a file whose own question was never asked can
be carried past the gate by another one.

The audit rows and the messages of the outcome are left out.
-/
import PveHelper.Files.Gate

namespace PveHelper.Files

open Lib Guests Storage

/-! ## The answers and what they are asked for -/

/-- What the request posts. -/
structure Answers where
  confirmBasic : Option String
  confirmRisk : Option String

/-- `_risk_acknowledged`. -/
def riskAcknowledged (answers : Answers) (risk : FileActionRisk) : Bool :=
  risk.acknowledgeable && answers.confirmRisk == some "yes"

/-- `_risk_acknowledged_for_risks`. -/
def riskAcknowledgedForRisks (answers : Answers) (risks : List FileActionRisk) : Bool :=
  risks.any (·.acknowledgeable) && answers.confirmRisk == some "yes"

/-- Why nothing of a selection is attempted. -/
inductive SelectionError
  | linkedClones (vmid : Option Int) (clones : Nat)
  | blocked (risk : FileActionRisk)
  | unconfirmed (message : String)

/-- `vmid or -1`. -/
def lineageKey (vmid : Option Int) : Int := if vmid.getD 0 = 0 then -1 else vmid.getD 0

/-- `Counter.get(vmid, 0)`, the largest of the clusters'. -/
def cloneCount (counts : List (List (Int × Nat))) (e : FileEntry) : Nat :=
  (counts.map fun lineage =>
    ((lineage.find? fun c => c.1 == lineageKey (extractVmidFromImagePath e.path)).map (·.2)).getD 0).foldl max 0

/-- `_require_linked_clone_base_unblocked`, over the lineage counters of the clusters
that consume the mount. -/
def requireLinkedCloneBaseUnblocked (counts : List (List (Int × Nat))) (entries : List FileEntry) :
    Except SelectionError Unit :=
  if !counts.any (!·.isEmpty) then .ok ()
  else match entries.find? fun e => e.contentCategory == "base_image" && cloneCount counts e != 0 with
    | some e => .error (.linkedClones (extractVmidFromImagePath e.path) (cloneCount counts e))
    | none => .ok ()

/-- `_require_file_action_confirmations_for_entries`. -/
def requireConfirmationsForEntries (inst : Installation) (counts : List (List (Int × Nat))) (answers : Answers)
    (entries : List FileEntry) : Except SelectionError Unit :=
  let risks := entries.map (fileActionRisk inst · true)
  match requireLinkedCloneBaseUnblocked counts entries with
  | .error err => .error err
  | .ok () => match risks.find? (·.blocked) with
    | some risk => .error (.blocked risk)
    | none =>
      if answers.confirmBasic ≠ some "yes" then .error (.unconfirmed "File action was not confirmed.")
      else if risks.any (·.requiresExtraConfirmation) ∧ answers.confirmRisk ≠ some "yes" then
        .error (.unconfirmed "Risk confirmation was not confirmed.")
      else .ok ()

/-! ## The fan-out -/

/-- How the action on one file ends; an abort is `StorageOperationAborted`. -/
inductive ActionOutcome
  | done | failed | aborted
deriving DecidableEq

/-- The action on one file: what it is called with and what it leaves. -/
structure ActionCall where
  entry : FileEntry
  acknowledgedRisk : Bool

section fanOut

variable {σ : Type} (act : σ → ActionCall → σ × ActionOutcome)

/-- The calls of the loop, up to the one that aborts. -/
def fanOut (acknowledgedRisk : Bool) : List FileEntry → σ → List ActionCall
  | [], _ => []
  | e :: rest, s =>
    let call : ActionCall := ⟨e, acknowledgedRisk⟩
    call :: match act s call with
      | (_, .aborted) => []
      | (s, _) => fanOut acknowledgedRisk rest s

variable (inst : Installation) (counts : List (List (Int × Nat))) (answers : Answers) (entries : List FileEntry)

/-- What both views do with a selection. -/
def selectionCalls (s : σ) : List ActionCall :=
  match requireConfirmationsForEntries inst counts answers entries with
  | .error _ => []
  | .ok () => fanOut act (riskAcknowledgedForRisks answers (entries.map (fileActionRisk inst · true))) entries s

/-- `trash_storage_file`, over `move_file_to_trash`. -/
def trashStorageFile (s : σ) : List ActionCall := selectionCalls act inst counts answers entries s

/-- `move_storage_file_view`, over `transfer_storage_file` when a destination storage
is named and `move_storage_file` when none is. -/
def moveStorageFileView (transfer move : σ → ActionCall → σ × ActionOutcome) (destStorageId : String) (s : σ) :
    List ActionCall :=
  selectionCalls (if destStorageId ≠ "" then transfer else move) inst counts answers entries s

end fanOut

/-! ## What a selection grants -/

/-- `_require_file_not_blocked` within an operation scope that other files share. -/
def requireFileNotBlockedIn (env : GateEnv) (scope : OperationScope) (inst : Installation) (e : FileEntry)
    (acknowledgedRisk : Bool) : Except FileActionError Unit :=
  let risk := fileActionRisk inst e true
  if risk.blocked then .error (.blocked risk)
  else if ["vm_disk", "base_image", "ct_private"].contains e.contentCategory then
    if (entryBindings inst e).isEmpty then
      if !acknowledgedRisk then .error .unassociated else .ok ()
    else checkBindings env acknowledgedRisk e.relative (entryBindings inst e) inst scope
  else if env.liveGuestStopped e then .ok () else .error .guestRunning

/-- With a scope of its own it is the gate of a single file. -/
theorem requireFileNotBlockedIn_own (env : GateEnv) (inst : Installation) (e : FileEntry) (acknowledged : Bool) :
    requireFileNotBlockedIn env {} inst e acknowledged = requireFileNotBlocked env inst e true true acknowledged := by
  simp only [requireFileNotBlockedIn, requireFileNotBlocked, Bool.true_and]

section
variable (inst : Installation) (counts : List (List (Int × Nat))) (answers : Answers)

/-- Submitted in these entries, the entry is refused: the confirmations are, or the gate
refuses it in the state it is met in. -/
def RefusedIn (entries : List FileEntry) (e : FileEntry) (env : GateEnv) (scope : OperationScope) (now : Installation) :
    Prop :=
  (∃ err, requireConfirmationsForEntries inst counts answers entries = .error err) ∨
  ∃ err, requireFileNotBlockedIn env scope now e
    (riskAcknowledgedForRisks answers (entries.map (fileActionRisk inst · true))) = .error err

/-- An acknowledgement is passed only for the entry's own risk, and only when it was answered. -/
def OwnRisk (calls : List ActionCall) : Prop :=
  ∀ c ∈ calls, c.acknowledgedRisk = true → riskAcknowledged answers (fileActionRisk inst c.entry true) = true

/-- Selecting more files grants no extra authority: whatever the actions do, either view
passes an acknowledgement for an entry's own risk only, and what is refused alone is
refused in the selection. -/
def GrantsNothing (entries : List FileEntry) : Prop :=
  (∀ (σ : Type) (s : σ) (trash transfer move : σ → ActionCall → σ × ActionOutcome) (dest : String),
    OwnRisk inst answers (trashStorageFile trash inst counts answers entries s) ∧
    OwnRisk inst answers (moveStorageFileView inst counts answers entries transfer move dest s)) ∧
  ∀ e ∈ entries, ∀ env scope now, RefusedIn inst counts answers [e] e env scope now →
    RefusedIn inst counts answers entries e env scope now

end

variable {inst : Installation} {counts : List (List (Int × Nat))} {answers : Answers} {entries : List FileEntry}

theorem mem_fanOut {σ : Type} {act : σ → ActionCall → σ × ActionOutcome} {acknowledged : Bool} {s : σ} {c : ActionCall}
    (h : c ∈ fanOut act acknowledged entries s) : c.entry ∈ entries ∧ c.acknowledgedRisk = acknowledged := by
  induction entries generalizing s with
  | nil => cases h
  | cons e rest ih =>
    simp only [fanOut, List.mem_cons] at h
    rcases h with rfl | h
    · exact ⟨List.mem_cons_self .., rfl⟩
    · split at h
      · cases h
      · exact ⟨List.mem_cons_of_mem _ (ih h).1, (ih h).2⟩

/-- When no action aborts, every entry is called with the selection's acknowledgement. -/
theorem fanOut_done (acknowledged : Bool) (entries : List FileEntry) :
    fanOut (fun (_ : Unit) _ => ((), .done)) acknowledged entries () = entries.map fun e => ⟨e, acknowledged⟩ := by
  induction entries with
  | nil => rfl
  | cons e rest ih => simp [fanOut, ih]

/-! ## When the confirmations pass -/

theorem requireLinkedCloneBaseUnblocked_ok : requireLinkedCloneBaseUnblocked counts entries = .ok () ↔
    (∀ c ∈ counts, c = []) ∨ ∀ e ∈ entries, e.contentCategory = "base_image" → cloneCount counts e = 0 := by
  simp only [requireLinkedCloneBaseUnblocked]
  have hcounts : (!counts.any (!·.isEmpty)) = true ↔ ∀ c ∈ counts, c = [] := by simp
  split
  · rename_i hnone
    exact iff_of_true rfl (.inl (hcounts.mp hnone))
  · rename_i hsome
    rw [hcounts] at hsome
    cases hfind : entries.find? fun e => e.contentCategory == "base_image" && cloneCount counts e != 0 with
    | none => simpa [hsome] using List.find?_eq_none.mp hfind
    | some e =>
      have hmem := List.mem_of_find?_eq_some hfind
      have hbase : e.contentCategory = "base_image" ∧ cloneCount counts e ≠ 0 := by simpa using List.find?_some hfind
      simp only [reduceCtorEq, hsome, false_or, false_iff, not_forall]
      exact ⟨e, hmem, hbase.1, hbase.2⟩

/-- What the confirmations of a selection ask for. -/
theorem requireConfirmations_ok : requireConfirmationsForEntries inst counts answers entries = .ok () ↔
    requireLinkedCloneBaseUnblocked counts entries = .ok () ∧
    (∀ e ∈ entries, (fileActionRisk inst e true).blocked = false) ∧ answers.confirmBasic = some "yes" ∧
    ((∃ e ∈ entries, (fileActionRisk inst e true).requiresExtraConfirmation = true) → answers.confirmRisk = some "yes") := by
  simp only [requireConfirmationsForEntries]
  cases requireLinkedCloneBaseUnblocked counts entries with
  | error err => simp
  | ok u =>
    have hfree : (entries.map (fileActionRisk inst · true)).find? (·.blocked) = none ↔
        ∀ e ∈ entries, (fileActionRisk inst e true).blocked = false := by simp
    cases hfind : (entries.map (fileActionRisk inst · true)).find? (·.blocked) with
    | some risk => simp [← hfree, hfind]
    | none =>
      simp only [true_and, ← hfree, hfind]
      by_cases hbasic : answers.confirmBasic = some "yes" <;> by_cases hrisk : answers.confirmRisk = some "yes" <;>
        simp [hbasic, hrisk]

/-- What is confirmed for a selection is confirmed for each of its entries. -/
theorem requireConfirmations_alone (h : requireConfirmationsForEntries inst counts answers entries = .ok ())
    {e : FileEntry} (he : e ∈ entries) : requireConfirmationsForEntries inst counts answers [e] = .ok () := by
  rw [requireConfirmations_ok, requireLinkedCloneBaseUnblocked_ok] at h ⊢
  obtain ⟨hlinked, hblocked, hbasic, hextra⟩ := h
  simp only [List.mem_singleton, forall_eq, exists_eq_left]
  exact ⟨hlinked.imp_right fun h => h e he, hblocked e he, hbasic, fun h => hextra ⟨e, he, h⟩⟩

/-! ## The authority of a selection -/

theorem riskAcknowledgedForRisks_alone (e : FileEntry) :
    riskAcknowledgedForRisks answers ([e].map (fileActionRisk inst · true)) = riskAcknowledged answers (fileActionRisk inst e true) := by
  simp [riskAcknowledgedForRisks, riskAcknowledged]

/-- The selection's acknowledgement is each entry's own. -/
def OneAnswer (inst : Installation) (answers : Answers) (entries : List FileEntry) : Prop :=
  ∀ e ∈ entries, riskAcknowledgedForRisks answers (entries.map (fileActionRisk inst · true)) = true →
    riskAcknowledged answers (fileActionRisk inst e true) = true

theorem oneAnswer_iff : OneAnswer inst answers entries ↔
    answers.confirmRisk ≠ some "yes" ∨ (∀ e ∈ entries, (fileActionRisk inst e true).acknowledgeable = false) ∨
    ∀ e ∈ entries, (fileActionRisk inst e true).acknowledgeable = true := by
  simp only [OneAnswer, riskAcknowledgedForRisks, riskAcknowledged, Bool.and_eq_true, beq_iff_eq, List.any_map,
    List.any_eq_true, Function.comp_apply]
  by_cases hyes : answers.confirmRisk = some "yes"
  · simp only [hyes, and_true, ne_eq, not_true_eq_false, false_or]
    by_cases hany : ∃ e ∈ entries, (fileActionRisk inst e true).acknowledgeable = true
    · have hnot : ¬ ∀ e ∈ entries, (fileActionRisk inst e true).acknowledgeable = false := by
        intro h
        obtain ⟨e, he, hack⟩ := hany
        rw [h e he] at hack
        cases hack
      simp only [hany, forall_const, hnot, false_or]
    · have hnone : ∀ e ∈ entries, (fileActionRisk inst e true).acknowledgeable = false := by simpa using hany
      exact iff_of_true (fun _ _ h => absurd h hany) (.inl hnone)
  · exact iff_of_true (fun _ _ h => absurd h.2 hyes) (.inl hyes)

theorem selectionCalls_ownRisk (h : OneAnswer inst answers entries) {σ : Type} (act : σ → ActionCall → σ × ActionOutcome)
    (s : σ) : OwnRisk inst answers (selectionCalls act inst counts answers entries s) := by
  intro c hc hack
  unfold selectionCalls at hc
  split at hc
  · cases hc
  · obtain ⟨hmem, hsame⟩ := mem_fanOut hc
    exact h c.entry hmem (hsame ▸ hack)

/-- One answer for all refuses in the selection what it refuses alone. -/
theorem refusedIn_selection (h : OneAnswer inst answers entries) {e : FileEntry} (he : e ∈ entries) {env : GateEnv}
    {scope : OperationScope} {now : Installation} (halone : RefusedIn inst counts answers [e] e env scope now) :
    RefusedIn inst counts answers entries e env scope now := by
  cases hconfirm : requireConfirmationsForEntries inst counts answers entries with
  | error err => exact .inl ⟨err, hconfirm⟩
  | ok u =>
    rcases halone with ⟨err, herr⟩ | ⟨err, herr⟩
    · rw [requireConfirmations_alone hconfirm he] at herr
      cases herr
    · rw [riskAcknowledgedForRisks_alone] at herr
      -- The two acknowledgements are the same.
      have hsame : riskAcknowledgedForRisks answers (entries.map (fileActionRisk inst · true))
          = riskAcknowledged answers (fileActionRisk inst e true) := by
        rw [Bool.eq_iff_iff]
        refine ⟨h e he, fun hown => ?_⟩
        rw [riskAcknowledged, Bool.and_eq_true] at hown
        rw [riskAcknowledgedForRisks, Bool.and_eq_true, List.any_map, List.any_eq_true]
        exact ⟨⟨e, he, hown.1⟩, hown.2⟩
      exact .inr ⟨err, hsame ▸ herr⟩

/-- A selection grants nothing exactly when it is not confirmed, or its risks are one
question: none of them acknowledgeable, or all. -/
theorem grantsNothing_iff (inst : Installation) (counts : List (List (Int × Nat))) (answers : Answers)
    (entries : List FileEntry) : GrantsNothing inst counts answers entries ↔
      (∃ err, requireConfirmationsForEntries inst counts answers entries = .error err) ∨
      answers.confirmRisk ≠ some "yes" ∨ (∀ e ∈ entries, (fileActionRisk inst e true).acknowledgeable = false) ∨
      ∀ e ∈ entries, (fileActionRisk inst e true).acknowledgeable = true := by
  rw [← oneAnswer_iff]
  constructor
  · intro h
    cases hconfirm : requireConfirmationsForEntries inst counts answers entries with
    | error err => exact .inl ⟨err, rfl⟩
    | ok u =>
      refine .inr fun e he hack => ?_
      -- Actions that all succeed are called for every entry.
      have hown := (h.1 Unit () (fun _ _ => ((), .done)) (fun _ _ => ((), .done)) (fun _ _ => ((), .done)) "").1
      rw [trashStorageFile, selectionCalls, hconfirm] at hown
      simp only [fanOut_done] at hown
      exact hown ⟨e, _⟩ (List.mem_map_of_mem he) hack
  · rintro (⟨err, herr⟩ | hone)
    · refine ⟨fun σ s trash transfer move dest => ⟨?_, ?_⟩, fun e _ env scope now _ => .inl ⟨err, herr⟩⟩
      · rw [trashStorageFile, selectionCalls, herr]
        exact fun c hc => absurd hc List.not_mem_nil
      · rw [moveStorageFileView, selectionCalls, herr]
        exact fun c hc => absurd hc List.not_mem_nil
    · exact ⟨fun σ s trash transfer move dest => ⟨selectionCalls_ownRisk hone _ s, selectionCalls_ownRisk hone _ s⟩,
        fun e he env scope now halone => refusedIn_selection hone he halone⟩

/-- VM 100, stopped. -/
def stoppedOwner : Table CurrentGuest.key := ⟨[{ owner with status := "stopped" }], by decide⟩

/-- Its disk, on a mount that every node reported. -/
def stoppedDisk : FileEntry := { ownerDisk with storageGateStatus := [] }

/-- A disk that no scanned configuration names. -/
def unownedDisk : FileEntry :=
  { stoppedDisk with path := "images/200/vm-200-disk-0.qcow2", derivedVolid := "nas:200/vm-200-disk-0.qcow2" }

/-- The catalog has no coverage, so the loose disk is refused alone; beside the disk of
VM 100, whose reference is acknowledged, it is not. -/
theorem loose_disk_carried_past_gate : ¬ ∀ (inst : Installation) (counts : List (List (Int × Nat)))
    (answers : Answers) (entries : List FileEntry), GrantsNothing inst counts answers entries := by
  intro h
  have hboth := (h (nasInstallation stoppedOwner) [] ⟨some "yes", some "yes"⟩ [stoppedDisk, unownedDisk]).2 unownedDisk
    (by simp) quietGate {} (nasInstallation stoppedOwner)
  have halone : ∃ err, requireFileNotBlockedIn quietGate {} (nasInstallation stoppedOwner) unownedDisk false = .error err :=
    ⟨_, rfl⟩
  rcases hboth (.inr halone) with ⟨err, herr⟩ | ⟨err, herr⟩
  · have hconfirmed : requireConfirmationsForEntries (nasInstallation stoppedOwner) [] ⟨some "yes", some "yes"⟩
        [stoppedDisk, unownedDisk] = .ok () := rfl
    rw [hconfirmed] at herr
    cases herr
  · have hpass : requireFileNotBlockedIn quietGate {} (nasInstallation stoppedOwner) unownedDisk true = .ok () := rfl
    have hack : riskAcknowledgedForRisks ⟨some "yes", some "yes"⟩
        ([stoppedDisk, unownedDisk].map (fileActionRisk (nasInstallation stoppedOwner) · true)) = true := rfl
    rw [hack, hpass] at herr
    cases herr

end PveHelper.Files
