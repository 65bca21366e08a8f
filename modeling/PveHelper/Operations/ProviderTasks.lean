/-
What a staged worker says to the provider and hears of it, in order, after `run_step` of
`core/tasks.py` and the turns of `migrate_guest_disks_task`: it looks whether the operation
has been cancelled, submits one request, and waits for its task. The provider and the
operator are arbitrary: what they answer may depend on all that has happened.
-/
import PveHelper.Lib.Json
import PveHelper.Operations.GuestTask

namespace PveHelper.Operations

open Lib

/-! ## The conversation -/

/-- `client.post(path, data=data)`. -/
structure Submission where
  path : String
  data : List (String × Json)

/-- A `ProxmoxAPIError`, with its text where the error owns a public one. -/
structure ApiError where
  publicMessage : Option String := none

/-- `ProxmoxTaskResult`. -/
structure TaskResult where
  status : String
  exitstatus : String

def TaskResult.success (r : TaskResult) : Bool := r.status = "stopped" && r.exitstatus = "OK"

/-- Why a power state is read. -/
inductive PowerRead
  | confirm
  | verify
deriving DecidableEq

/-- The details of the event that a worker saves. -/
structure TaskDetails where
  stage : Option String := none
  taskUpid : Option String := none
  taskNode : Option String := none
  endpoint : Option String := none
  currentDisk : Option String := none
  completedStages : List String := []
  movedDisks : Option (List String) := none
  error : Option String := none
  errorCode : Option String := none
  finishedAt : Option Nat := none

inductive Interaction
  /-- The event is read, whether it is cancelled. -/
  | looked (cancelled : Bool)
  | submitted (s : Submission) (answer : Except ApiError Json)
  | saved (details : TaskDetails)
  | waited (s : Submission) (answer : Except ApiError TaskResult)
  | powerState (read : PowerRead) (answer : Except ApiError String)

abbrev Conversation := List Interaction

/-- The provider and the operator. -/
structure Provider where
  cancelled : Conversation → Bool
  post : Conversation → Submission → Except ApiError Json
  wait : Conversation → String → Except ApiError TaskResult
  current : Conversation → Except ApiError (List (String × Json))

/-- `isinstance(upid, str) and upid.startswith("UPID:")`. -/
def taskOf : Except ApiError Json → Option String
  | .ok (.str upid) => if Text.startsWith upid "UPID:" then some upid else none
  | _ => none

/-- `public_failure(exc, .., fallback=PROVIDER_FAILURE_MESSAGE, code=ERROR_CODE_PROVIDER)`. -/
def publicFailure (e : ApiError) : PublicFailure := ⟨e.publicMessage.getD "The Proxmox API request failed.", "provider_error"⟩

inductive StepEnd
  | done
  | cancelled
  | failed (failure : PublicFailure)

/-- One request and its task: how it ends, the details as they are then, and the conversation. -/
def runTask (p : Provider) (s : Submission) (unexpected : PublicFailure) (note : String → TaskDetails → TaskDetails)
    (details : TaskDetails) (t : Conversation) : StepEnd × TaskDetails × Conversation :=
  let cancelled := p.cancelled t
  let t := t ++ [.looked cancelled]
  if cancelled then (.cancelled, details, t)
  else
    let answer := p.post t s
    let t := t ++ [.submitted s answer]
    match answer with
    | .error e => (.failed (publicFailure e), details, t)
    | .ok _ => match taskOf answer with
      | none => (.failed unexpected, details, t)
      | some upid =>
        let details := note upid details
        let t := t ++ [.saved details]
        let result := p.wait t upid
        let t := t ++ [.waited s result]
        match result with
        | .error e => (.failed (publicFailure e), details, t)
        | .ok result =>
          if result.success then (.done, details, t)
          else (.failed (proxmoxTaskFailure result.exitstatus result.status), details, t)

/-! ## What a conversation has seen -/

/-- A stage that failed. -/
def Interaction.failed : Interaction → Bool
  | .looked _ => false
  | .submitted _ answer => (taskOf answer).isNone
  | .saved _ => false
  | .waited _ (.error _) => true
  | .waited _ (.ok result) => !result.success
  | .powerState _ (.error _) => true
  | .powerState .confirm (.ok status) => status = ""
  | .powerState .verify (.ok status) => status ≠ "stopped"

/-- The cancellation or the failure of a stage. -/
def Interaction.ends : Interaction → Bool
  | .looked cancelled => cancelled
  | i => i.failed

/-- No cancellation has been seen and no stage has failed. -/
def Clear (t : Conversation) : Prop := ∀ i ∈ t, i.ends = false

/-- The requests, in order. -/
def submissions (t : Conversation) : List Submission :=
  t.filterMap fun
    | .submitted s _ => some s
    | _ => none

/-- The requests whose tasks were seen to succeed, in order. -/
def succeeded (t : Conversation) : List Submission :=
  t.filterMap fun
    | .waited s (.ok result) => if result.success then some s else none
    | _ => none

/-- The last power state that was read; empty where the read failed. -/
def lastPower (t : Conversation) : Option String :=
  (t.filterMap fun
    | .powerState _ (.ok status) => some status
    | .powerState _ (.error _) => some ""
    | _ => none).getLast?

/-- Every request meets the condition on what came before it. -/
def Justified (P : Conversation → Submission → Prop) (t : Conversation) : Prop :=
  ∀ before s answer, before ++ [.submitted s answer] <+: t → P before s

section
variable {P : Conversation → Submission → Prop} {t : Conversation}

theorem justified_nil : Justified P [] := by
  intro before s answer h
  have := List.prefix_nil.mp h
  simp at this

theorem Justified.concat (ht : Justified P t) {i : Interaction} (hi : ∀ s answer, i = .submitted s answer → P t s) :
    Justified P (t ++ [i]) := by
  intro before s answer h
  rcases List.prefix_concat_iff.mp h with heq | h
  · obtain ⟨rfl, hlast⟩ := List.append_inj' heq rfl
    exact hi s answer (List.cons.inj hlast).1.symm
  · exact ht before s answer h

theorem Clear.concat (ht : Clear t) {i : Interaction} (hi : i.ends = false) : Clear (t ++ [i]) := by
  intro j hj
  rcases List.mem_append.mp hj with hj | hj
  · exact ht j hj
  · exact List.mem_singleton.mp hj ▸ hi

theorem clear_nil : Clear [] := by simp [Clear]

end

/-! ## One request -/

section
variable {p : Provider} {s : Submission} {unexpected : PublicFailure} {note : String → TaskDetails → TaskDetails}
  {details : TaskDetails} {t : Conversation}

/-- How one request can go. -/
inductive Runs (s : Submission) (t : Conversation) : StepEnd → Conversation → Prop
  | cancelled : Runs s t .cancelled (t ++ [.looked true])
  | refused {answer f} (h : taskOf answer = none) : Runs s t (.failed f) (t ++ [.looked false] ++ [.submitted s answer])
  | lost {answer d result f} (h : (taskOf answer).isSome) (hr : (Interaction.waited s result).failed = true) :
      Runs s t (.failed f) (t ++ [.looked false] ++ [.submitted s answer] ++ [.saved d] ++ [.waited s result])
  | done {answer d result} (h : (taskOf answer).isSome) (hr : TaskResult.success result = true) :
      Runs s t .done (t ++ [.looked false] ++ [.submitted s answer] ++ [.saved d] ++ [.waited s (.ok result)])

theorem runTask_runs : Runs s t (runTask p s unexpected note details t).1 (runTask p s unexpected note details t).2.2 := by
  unfold runTask
  dsimp only
  cases hcancelled : p.cancelled t with
  | true => exact .cancelled
  | false =>
    rw [if_neg (by simp)]
    cases hanswer : p.post (t ++ [.looked false]) s with
    | error e => exact .refused rfl
    | ok value =>
      dsimp only
      cases htask : taskOf (.ok value) with
      | none => exact .refused htask
      | some upid =>
        dsimp only
        have hsome : (taskOf (.ok value)).isSome = true := by rw [htask]; rfl
        split
        · next e he => exact .lost hsome (by rw [he]; rfl)
        · next result hresult =>
          rw [hresult]
          split
          · next hsuccess => exact .done hsome hsuccess
          · next hfails => exact .lost hsome (by simpa [Interaction.failed] using hfails)

theorem Runs.justified {P : Conversation → Submission → Prop} {e : StepEnd} {t' : Conversation} (h : Runs s t e t')
    (ht : Justified P t) (hs : P (t ++ [.looked false]) s) : Justified P t' := by
  have hlooked : ∀ b, Justified P (t ++ [.looked b]) := fun b => ht.concat fun _ _ he => by cases he
  have hsubmitted : ∀ answer, Justified P (t ++ [.looked false] ++ [.submitted s answer]) := fun answer =>
    (hlooked false).concat fun _ _ he => by
      cases he
      exact hs
  have hwaited : ∀ answer d result, Justified P (t ++ [.looked false] ++ [.submitted s answer] ++ [.saved d] ++ [.waited s result]) :=
    fun answer d result => ((hsubmitted answer).concat fun _ _ he => by cases he).concat fun _ _ he => by cases he
  cases h with
  | cancelled => exact hlooked true
  | refused h => exact hsubmitted _
  | lost h hr => exact hwaited _ _ _
  | done h hr => exact hwaited _ _ _

theorem Runs.clear {t' : Conversation} (h : Runs s t .done t') (ht : Clear t) : Clear t' := by
  cases h with
  | done h hr =>
    refine (((ht.concat rfl).concat ?_).concat rfl).concat ?_
    · simpa [Interaction.ends, Interaction.failed, Option.isSome_iff_ne_none] using h
    · simpa [Interaction.ends, Interaction.failed] using hr

theorem submissions_append (t t' : Conversation) : submissions (t ++ t') = submissions t ++ submissions t' := List.filterMap_append

theorem succeeded_append (t t' : Conversation) : succeeded (t ++ t') = succeeded t ++ succeeded t' := List.filterMap_append

theorem lastPower_append {t t' : Conversation} (h : ∀ i ∈ t', ∀ read answer, i ≠ .powerState read answer) :
    lastPower (t ++ t') = lastPower t := by
  unfold lastPower
  rw [List.filterMap_append]
  have hnone : (t'.filterMap fun i => match i with
      | .powerState _ (.ok status) => some status
      | .powerState _ (.error _) => some ""
      | _ => none) = [] := by
    refine List.filterMap_eq_nil_iff.mpr fun i hi => ?_
    split
    · exact absurd rfl (h _ hi _ _)
    · exact absurd rfl (h _ hi _ _)
    · rfl
  rw [hnone, List.append_nil]

theorem lastPower_concat (t : Conversation) (read : PowerRead) (status : String) :
    lastPower (t ++ [.powerState read (.ok status)]) = some status := by
  unfold lastPower
  rw [List.filterMap_append]
  exact List.getLast?_concat

/-- A request and its task read no power state. -/
theorem Runs.lastPower {e : StepEnd} {t' : Conversation} (h : Runs s t e t') : lastPower t' = lastPower t := by
  have hother : ∀ {new : Conversation}, (∀ i ∈ new, ∀ read answer, i ≠ .powerState read answer) →
      Operations.lastPower (t ++ new) = Operations.lastPower t := fun h => lastPower_append h
  cases h with
  | cancelled => exact hother (by simp)
  | refused h =>
    rw [List.append_assoc]
    exact hother (by simp)
  | lost h hr =>
    simp only [List.append_assoc]
    exact hother (by simp)
  | done h hr =>
    simp only [List.append_assoc]
    exact hother (by simp)

/-- A request whose task was seen to succeed has been made and is among those. -/
theorem Runs.succeeded {t' : Conversation} (h : Runs s t .done t') : succeeded t' = succeeded t ++ [s] := by
  cases h with
  | @done answer d result h hr =>
    have hwaited : Operations.succeeded [.waited s (.ok result)] = [s] := by simp [Operations.succeeded, hr]
    simp only [List.append_assoc, succeeded_append, hwaited]
    rfl

theorem Runs.submissions {t' : Conversation} (h : Runs s t .done t') : submissions t' = submissions t ++ [s] := by
  cases h with
  | done h hr =>
    simp only [List.append_assoc, submissions_append]
    rfl

end

end PveHelper.Operations
