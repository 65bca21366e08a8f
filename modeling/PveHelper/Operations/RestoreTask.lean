/-
The restore of a guest from a backup (`restore_guest_backup_task`). Where the restore replaces
a guest, the guest has to be seen stopped, after a shutdown it is asked for if need be, before
the archive is restored over it; nothing here stops it hard.
-/
import PveHelper.Lib.Percent
import PveHelper.Operations.ProviderTasks

namespace PveHelper.Operations

open Lib

/-! ## The task -/

/-- The operation, read of the event and the arguments. -/
structure RestoreOperation where
  endpoint : String
  node : String
  objectType : String
  vmid : Nat
  archive : String
  storage : String
  overwrite : Bool
  startAfter : Bool

def guestKind (objectType : String) : String := if objectType = "vm" then "qemu" else "lxc"

section
variable (r : RestoreOperation)

/-- `nodes/{node}/{kind}`. -/
def RestoreOperation.kindPath : String := "nodes/" ++ Percent.quote r.node ++ "/" ++ guestKind r.objectType

/-- `nodes/{node}/{kind}/{vmid}/status/{action}`. -/
def RestoreOperation.statusPath (action : String) : String := r.kindPath ++ "/" ++ toString r.vmid ++ "/status/" ++ action

def RestoreOperation.shutdownRequest : Submission := ⟨r.statusPath "shutdown", []⟩

def RestoreOperation.restoreRequest : Submission where
  path := r.kindPath
  data := [("vmid", .int r.vmid), ("storage", .str r.storage)] ++
    (if guestKind r.objectType = "qemu" then [("archive", .str r.archive)] else [("ostemplate", .str r.archive), ("restore", .int 1)]) ++
    (if r.overwrite then [("force", .int 1)] else [])

def RestoreOperation.startRequest : Submission := ⟨r.statusPath "start", []⟩

/-- `str((current or {}).get("status") or "").lower()`. -/
def powerStatus (answer : Except ApiError (List (String × Json))) : Except ApiError String :=
  answer.map fun current =>
    let status := (Json.lookup current "status").getD .null
    Text.lower (if status.truthy then status.shown else "")

variable (p : Provider)

/-- `run_step`. -/
def runStep (stage : String) (s : Submission) (details : TaskDetails) (t : Conversation) : StepEnd × TaskDetails × Conversation :=
  let note := fun upid (d : TaskDetails) =>
    { d with stage := some stage, taskUpid := some upid, taskNode := some r.node, endpoint := some r.endpoint }
  match runTask p s ⟨"Proxmox returned an unexpected response during " ++ stage ++ ".", "provider_error"⟩ note details t with
  | (.done, details, t) => (.done, { details with completedStages := details.completedStages ++ [stage] }, t)
  | other => other

/-- The second read of the power state. -/
def verifyShutdown (details : TaskDetails) (t : Conversation) : StepEnd × TaskDetails × Conversation :=
  let answer := powerStatus (p.current t)
  let t := t ++ [.powerState .verify answer]
  match answer with
  | .error _ => (.failed ⟨"Could not verify shutdown completion. Restore was not started.", "provider_error"⟩, details, t)
  | .ok status =>
    if status = "stopped" then (.done, details, t)
    else (.failed ⟨"The existing guest still reports power state '" ++ (if status = "" then "unknown" else status) ++
      "' after shutdown. Restore was not started.", "powerdown_failed"⟩, details, t)

def unconfirmedPowerState : PublicFailure :=
  ⟨"Could not confirm the existing guest's power state. Restore was not started.", "provider_error"⟩

/-- The guest that is to be replaced is stopped. -/
def confirmStopped (details : TaskDetails) (t : Conversation) : StepEnd × TaskDetails × Conversation :=
  let answer := powerStatus (p.current t)
  let t := t ++ [.powerState .confirm answer]
  match answer with
  | .error _ => (.failed unconfirmedPowerState, details, t)
  | .ok status =>
    if status = "" then (.failed unconfirmedPowerState, details, t)
    else if status = "stopped" then (.done, details, t)
    else match runStep r p "shutdown existing guest" r.shutdownRequest details t with
      | (.failed failure, details, t) =>
        (.failed ⟨"Could not shut down the existing guest cleanly: " ++ failure.message ++ " Restore was not started.", failure.code⟩,
          details, t)
      | (.cancelled, details, t) => (.cancelled, details, t)
      | (.done, details, t) => verifyShutdown p details t

/-- The stages, each after the one before is done. -/
def restoreStages (details : TaskDetails) : StepEnd × TaskDetails × Conversation :=
  match if r.overwrite then confirmStopped r p details [] else (.done, details, []) with
  | (.done, details, t) => match runStep r p "restore archive" r.restoreRequest details t with
    | (.done, details, t) =>
      if r.startAfter then runStep r p "start restored guest" r.startRequest details t else (.done, details, t)
    | other => other
  | other => other

/-- How the event is saved at the end; none where the operation was cancelled. -/
def finishRestore (now : Nat) (details : TaskDetails) (cancelled : Bool) : StepEnd → Option (Outcome × TaskDetails)
  | .cancelled => none
  | .failed failure =>
    if cancelled then none
    else some (.failed, { details with
      taskUpid := none, error := some failure.message, errorCode := some failure.code, finishedAt := some now })
  | .done =>
    if cancelled then none
    else some (.success, { details with taskUpid := none, stage := some "completed", finishedAt := some now })

/-- `restore_guest_backup_task` of an operation whose target is resolved. -/
def restoreGuestBackup (now : Nat) (details : TaskDetails) : Option (Outcome × TaskDetails) × Conversation :=
  if r.node = "" || r.archive = "" || r.storage = "" then
    (some (.failed, { details with
      error := some "The queued restore has incomplete target data.", errorCode := some "incomplete_target", finishedAt := some now }), [])
  else match restoreStages r p details with
    | (.cancelled, _, t) => (none, t)
    | (ending, details, t) =>
      let cancelled := p.cancelled t
      (finishRestore now details cancelled ending, t ++ [.looked cancelled])

end

/-! ## The requests -/

/-- `POST .../status/stop`, or a shutdown that stops the guest when it takes too long. -/
def Submission.isHardStop (s : Submission) : Prop :=
  "/status/stop".toList <:+ s.path.toList ∨ ∃ f ∈ s.data, f.1 = "forceStop"

section
variable {r : RestoreOperation}

theorem statusPath_last {action : String} (h : action.toList ≠ []) :
    (r.statusPath action).toList.getLast? = action.toList.getLast? := by
  unfold RestoreOperation.statusPath
  rw [String.toList_append, List.getLast?_append_of_ne_nil _ h]

theorem kindPath_last : r.kindPath.toList.getLast? = some 'u' ∨ r.kindPath.toList.getLast? = some 'c' := by
  unfold RestoreOperation.kindPath guestKind
  split
  · exact .inl (by rw [String.toList_append, List.getLast?_append_of_ne_nil _ (by decide)]; rfl)
  · exact .inr (by rw [String.toList_append, List.getLast?_append_of_ne_nil _ (by decide)]; rfl)

theorem shutdownRequest_last : r.shutdownRequest.path.toList.getLast? = some 'n' := statusPath_last (by decide)

theorem startRequest_last : r.startRequest.path.toList.getLast? = some 't' := statusPath_last (by decide)

theorem shutdownRequest_ne_restoreRequest : r.shutdownRequest ≠ r.restoreRequest := by
  intro h
  have hlast := shutdownRequest_last (r := r)
  rw [h] at hlast
  rcases kindPath_last (r := r) with hkind | hkind
  · cases hkind.symm.trans hlast
  · cases hkind.symm.trans hlast

theorem startRequest_ne_restoreRequest : r.startRequest ≠ r.restoreRequest := by
  intro h
  have hlast := startRequest_last (r := r)
  rw [h] at hlast
  rcases kindPath_last (r := r) with hkind | hkind
  · cases hkind.symm.trans hlast
  · cases hkind.symm.trans hlast

theorem shutdownRequest_ne_startRequest : r.shutdownRequest ≠ r.startRequest := by
  intro h
  have hlast := shutdownRequest_last (r := r)
  rw [h, startRequest_last] at hlast
  cases hlast

theorem last_of_suffix {l l' : List Char} (h : l <:+ l') (hne : l ≠ []) : l'.getLast? = l.getLast? := by
  obtain ⟨front, rfl⟩ := h
  exact List.getLast?_append_of_ne_nil _ hne

theorem not_isHardStop {s : Submission} (hlast : s.path.toList.getLast? ≠ some 'p') (hdata : ∀ f ∈ s.data, f.1 ≠ "forceStop") :
    ¬ s.isHardStop := by
  rintro (hpath | ⟨f, hf, hkey⟩)
  · exact hlast (last_of_suffix hpath (by decide))
  · exact hdata f hf hkey

theorem restoreRequest_data : ∀ f ∈ r.restoreRequest.data, f.1 ≠ "forceStop" := by
  intro f hf
  unfold RestoreOperation.restoreRequest at hf
  dsimp only at hf
  rcases List.mem_append.mp hf with hf | hf
  · rcases List.mem_append.mp hf with hf | hf
    · simp only [List.mem_cons, List.not_mem_nil, or_false] at hf
      rcases hf with rfl | rfl <;> simp
    · split at hf
      · rw [List.mem_singleton.mp hf]
        simp
      · simp only [List.mem_cons, List.not_mem_nil, or_false] at hf
        rcases hf with rfl | rfl <;> simp
  · split at hf
    · rw [List.mem_singleton.mp hf]
      simp
    · cases hf

end

/-! ## What may be asked for, and when -/

/-- A request of a restore after what has happened. -/
structure RestoreRule (r : RestoreOperation) (before : Conversation) (s : Submission) : Prop where
  /-- No cancellation has been seen and no stage has failed. -/
  clear : Clear before
  soft : ¬ s.isHardStop
  stopped : s = r.restoreRequest → r.overwrite = true → lastPower before = some "stopped"
  started : s = r.startRequest → r.restoreRequest ∈ succeeded before

section
variable {r : RestoreOperation} {p : Provider} {details : TaskDetails} {t : Conversation}

theorem shutdown_rule (ht : Clear t) : RestoreRule r t r.shutdownRequest where
  clear := ht
  soft := not_isHardStop (by simp [shutdownRequest_last]) (by simp [RestoreOperation.shutdownRequest])
  stopped h := (shutdownRequest_ne_restoreRequest h).elim
  started h := (shutdownRequest_ne_startRequest h).elim

theorem restore_rule (ht : Clear t) (hpower : r.overwrite = true → lastPower t = some "stopped") : RestoreRule r t r.restoreRequest where
  clear := ht
  soft := not_isHardStop (fun hlast => by rcases kindPath_last (r := r) with h | h <;> cases h.symm.trans hlast) restoreRequest_data
  stopped _ := hpower
  started h := (startRequest_ne_restoreRequest h.symm).elim

theorem start_rule (ht : Clear t) (hrestored : r.restoreRequest ∈ succeeded t) : RestoreRule r t r.startRequest where
  clear := ht
  soft := not_isHardStop (by simp [startRequest_last]) (by simp [RestoreOperation.startRequest])
  stopped h := (startRequest_ne_restoreRequest h).elim
  started _ := hrestored

theorem runStep_runs (stage : String) (s : Submission) :
    Runs s t (runStep r p stage s details t).1 (runStep r p stage s details t).2.2 := by
  have hruns := @runTask_runs p s ⟨"Proxmox returned an unexpected response during " ++ stage ++ ".", "provider_error"⟩
    (fun upid (d : TaskDetails) =>
      { d with stage := some stage, taskUpid := some upid, taskNode := some r.node, endpoint := some r.endpoint }) details t
  unfold runStep
  dsimp only
  split
  · next h =>
    rw [h] at hruns
    exact hruns
  · exact hruns

/-- Looking at the event makes no difference to what may be asked. -/
theorem Clear.looked (ht : Clear t) : Clear (t ++ [.looked false]) := ht.concat rfl

theorem lastPower_looked : lastPower (t ++ [.looked false]) = lastPower t := lastPower_append (by simp)

theorem succeeded_looked : succeeded (t ++ [.looked false]) = succeeded t := by
  rw [succeeded_append]
  exact List.append_nil _

/-- What a stage leaves behind: requests that were in order, and, where it is done, nothing failed. -/
structure Stage (r : RestoreOperation) (ending : StepEnd) (t : Conversation) : Prop where
  justified : Justified (RestoreRule r) t
  clear : ending = .done → Clear t

theorem verifyShutdown_stage (ht : Justified (RestoreRule r) t) (hclear : Clear t) :
    Stage r (verifyShutdown p details t).1 (verifyShutdown p details t).2.2 ∧
      ((verifyShutdown p details t).1 = .done → lastPower (verifyShutdown p details t).2.2 = some "stopped") := by
  have hjust : ∀ answer, Justified (RestoreRule r) (t ++ [.powerState .verify answer]) := fun _ => ht.concat fun _ _ he => by cases he
  unfold verifyShutdown
  dsimp only
  cases hanswer : powerStatus (p.current t) with
  | error e => exact ⟨⟨hjust _, fun h => by cases h⟩, fun h => by cases h⟩
  | ok status =>
    dsimp only
    split
    · next hstopped =>
      subst hstopped
      exact ⟨⟨hjust _, fun _ => hclear.concat rfl⟩, fun _ => lastPower_concat t _ _⟩
    · exact ⟨⟨hjust _, fun h => by cases h⟩, fun h => by cases h⟩

theorem confirmStopped_stage (ht : Justified (RestoreRule r) t) (hclear : Clear t) :
    Stage r (confirmStopped r p details t).1 (confirmStopped r p details t).2.2 ∧
      ((confirmStopped r p details t).1 = .done → lastPower (confirmStopped r p details t).2.2 = some "stopped") := by
  have hjust : ∀ answer, Justified (RestoreRule r) (t ++ [.powerState .confirm answer]) := fun _ => ht.concat fun _ _ he => by cases he
  unfold confirmStopped
  dsimp only
  cases hanswer : powerStatus (p.current t) with
  | error e => exact ⟨⟨hjust _, fun h => by cases h⟩, fun h => by cases h⟩
  | ok status =>
    dsimp only
    split
    · exact ⟨⟨hjust _, fun h => by cases h⟩, fun h => by cases h⟩
    · next hne =>
      have hread : Clear (t ++ [.powerState .confirm (.ok status)]) :=
        hclear.concat (by simpa [Interaction.ends, Interaction.failed] using hne)
      split
      · next hstopped =>
        subst hstopped
        exact ⟨⟨hjust _, fun _ => hread⟩, fun _ => lastPower_concat t _ _⟩
      · have hruns := @runStep_runs r p details (t ++ [.powerState .confirm (.ok status)]) "shutdown existing guest" r.shutdownRequest
        have hshut := hruns.justified (hjust _) (shutdown_rule hread.looked)
        split
        · next h =>
          rw [h] at hshut
          exact ⟨⟨hshut, fun h => by cases h⟩, fun h => by cases h⟩
        · next h =>
          rw [h] at hshut
          exact ⟨⟨hshut, fun h => by cases h⟩, fun h => by cases h⟩
        · next h =>
          rw [h] at hshut hruns
          exact verifyShutdown_stage hshut (hruns.clear hread)

/-- Every request of the stages is in order. -/
theorem restoreStages_justified : Justified (RestoreRule r) (restoreStages r p details).2.2 := by
  have hfirst : Stage r (if r.overwrite then confirmStopped r p details [] else (.done, details, [])).1
        (if r.overwrite then confirmStopped r p details [] else (.done, details, [])).2.2 ∧
      ((if r.overwrite then confirmStopped r p details [] else (.done, details, [])).1 = .done → r.overwrite = true →
        lastPower (if r.overwrite then confirmStopped r p details [] else (.done, details, [])).2.2 = some "stopped") := by
    split
    · have h := @confirmStopped_stage r p details _ justified_nil clear_nil
      exact ⟨h.1, fun hdone _ => h.2 hdone⟩
    · next hfresh => exact ⟨⟨justified_nil, fun _ => clear_nil⟩, fun _ hover => absurd hover hfresh⟩
  unfold restoreStages
  split
  · next details' t hdone =>
    rw [hdone] at hfirst
    obtain ⟨⟨hjust, hclear⟩, hpower⟩ := hfirst
    have hclear := hclear rfl
    have hruns := @runStep_runs r p details' t "restore archive" r.restoreRequest
    have hrestore := hruns.justified hjust (restore_rule hclear.looked fun hover => lastPower_looked.trans (hpower rfl hover))
    split
    · next h =>
      rw [h] at hrestore hruns
      split
      · refine (runStep_runs "start restored guest" r.startRequest).justified hrestore
          (start_rule (hruns.clear hclear).looked ?_)
        rw [succeeded_looked, hruns.succeeded]
        exact List.mem_append_right _ List.mem_cons_self
      · exact hrestore
    · exact hrestore
  · exact hfirst.1.justified

/-- Whatever the provider answers and whenever the operation is cancelled, the restore never asks
for a hard stop; it restores over a guest only if the last power state it has read is that of a
stopped one; it asks for nothing more when it has seen the cancellation or the failure of a stage;
and it starts the guest only when it has seen the restore succeed. -/
theorem restoreGuestBackup_justified (r : RestoreOperation) (p : Provider) (now : Nat) (details : TaskDetails) :
    Justified (RestoreRule r) (restoreGuestBackup r p now details).2 := by
  unfold restoreGuestBackup
  split
  · exact justified_nil
  · have hstages := @restoreStages_justified r p details
    split
    · next h =>
      rw [h] at hstages
      exact hstages
    · next h =>
      rw [h] at hstages
      exact hstages.concat fun _ _ he => by cases he

end

end PveHelper.Operations
