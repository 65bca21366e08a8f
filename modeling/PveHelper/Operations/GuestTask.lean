/-
The Audit event of one guest operation and the four parties that end it: the
poller (`poll_guest_audit_task`), the stale-task reaper (`reap_stale_guest_tasks`),
the operator's cancel view and cluster retirement. Retirement reads and writes under
the row's lock. The others save the row they read before they contacted the provider;
the poller looks once, between its wait and its save, whether the event has been
cancelled, and not at all where it gives up before the wait.
-/
import PveHelper.Operations.Events
import PveHelper.Lib.Text

namespace PveHelper.Operations

open Lib

/-! ## Rows -/

/-- The details of a guest operation that its parties read or write. -/
structure GuestTaskDetails where
  node : String := ""
  proxmoxTaskUpid : String := ""
  proxmoxTaskNode : String := ""
  pollTaskId : String := ""
  workerTaskId : String := ""
  proxmoxTask : Option String := none
  error : Option String := none
  errorCode : Option String := none
  stage : Option String := none
  retirementCode : Option String := none
  finishedAt : Option Nat := none
  cancelledAt : Option Nat := none
  cancelledBy : Option String := none
  reaped : Bool := false
  projectionRefresh : Option (Except String Nat) := none

/-- What a failure says and its code. -/
structure PublicFailure where
  message : String
  code : String

/-- `record_event_failure`. -/
def recordEventFailure (failure : PublicFailure) (now : Nat) (d : GuestTaskDetails) : GuestTaskDetails :=
  { d with error := some failure.message, errorCode := some failure.code, finishedAt := some now }

def missingTaskIdentity : PublicFailure :=
  ⟨"The queued operation is missing its Proxmox task identity.", "incomplete_target"⟩

/-- `proxmox_task_failure`. -/
def proxmoxTaskFailure (exitstatus status : String) : PublicFailure :=
  let text := Text.lower (Text.strip (if exitstatus = "" then status else exitstatus))
  if Text.includes text "timeout" || Text.includes text "timed out" then
    ⟨"The Proxmox task did not finish before its timeout.", "task_timeout"⟩
  else if Text.includes text "powerdown" then
    ⟨"The guest did not shut down. It may have no ACPI handler or no running QEMU guest agent.", "powerdown_failed"⟩
  else ⟨"The Proxmox task did not complete successfully.", "task_failed"⟩

/-- How `wait_for_task` ends. -/
inductive WaitResult
  /-- It raises; a timeout and an API error differ by their failure. -/
  | raised (failure : PublicFailure)
  | ended (success : Bool) (raw exitstatus status : String)

/-- What the poller has in memory after the wait. -/
def afterWait (d : GuestTaskDetails) : WaitResult → Outcome × GuestTaskDetails
  | .raised failure => (.failed, { d with error := some failure.message, errorCode := some failure.code })
  | .ended true raw _ _ => (.success, { d with proxmoxTask := some raw })
  | .ended false raw exitstatus status =>
    let failure := proxmoxTaskFailure exitstatus status
    (.failed, { d with
      proxmoxTask := some raw, error := some failure.message, errorCode := some failure.code })

/-- What the provider says of the task of a stale event. -/
inductive TaskStatus
  | running
  | stopped (exitstatus : String)
  /-- No task, no client, or an answer that says neither. -/
  | unknown
  deriving DecidableEq

/-- What the reaper saves for a stale event, where it saves. -/
def reapedEvent (status : TaskStatus) (now : Nat) (d : GuestTaskDetails) : Option (Outcome × GuestTaskDetails) :=
  let failed := fun message => some (.failed,
    { d with error := some (match d.error with | some e => if e = "" then message else e | none => message),
             finishedAt := some now, reaped := true })
  match status with
  | .running => none
  | .stopped exitstatus =>
    if exitstatus = "OK" then some (.success, { d with finishedAt := some now, reaped := true })
    else failed ("Proxmox task exitstatus: " ++ if exitstatus = "" then "unknown" else exitstatus)
  | .unknown => failed "Task did not finish (worker unavailable); resolved by reaper."

/-- What the cancel view saves. -/
def cancelledDetails (username : String) (now : Nat) (d : GuestTaskDetails) : GuestTaskDetails :=
  { d with
    cancelledAt := some now, cancelledBy := some username, finishedAt := some now
    error := some ("Cancelled by " ++ username ++ ".") }

inductive RetirementMode
  | verified
  | forced
  deriving DecidableEq

/-- `finalize_cluster_retirement_audit_operations`, for this event: none where a running
operation blocks a verified retirement. -/
def retiredEvent (mode : RetirementMode) (now : Nat) (outcome : Outcome) (d : GuestTaskDetails) :
    Option (Outcome × GuestTaskDetails) :=
  let cancelled := fun code => some (.cancelled,
    { d with stage := some "cancelled", retirementCode := some code, finishedAt := some now })
  match outcome, mode with
  | .running, .verified => none
  | .running, .forced | .queued, .forced => cancelled "cluster_force_retired_unresolvable"
  | .queued, .verified => cancelled "cluster_retired_before_start"
  | _, _ => some (outcome, d)

/-! ## The parties -/

inductive PollPhase
  /-- The event is read; its target is being resolved. -/
  | resolving
  /-- `wait_for_task` has ended. -/
  | waited (result : Outcome × GuestTaskDetails)
  /-- The event was not cancelled when the poller looked. -/
  | saving (result : Outcome × GuestTaskDetails)
  /-- The success is saved; the guest's projection is being refreshed. -/
  | refreshing (details : GuestTaskDetails)

structure Poller where
  id : Nat
  /-- The details as the poller read them. -/
  copy : GuestTaskDetails
  phase : PollPhase

structure TaskReader where
  id : Nat
  copy : GuestTaskDetails

structure GuestTaskSystem where
  timestamp : Nat
  outcome : Outcome
  details : GuestTaskDetails
  pollers : Table Poller.id
  reapers : Table TaskReader.id
  cancels : Table TaskReader.id

inductive GuestTaskAction
  | poll (poller : Nat)
  /-- `DurableGuestOperationError`. -/
  | resolveFails (poller : Nat) (failure : PublicFailure) (now : Nat)
  /-- The target is resolved; `node`, `upid` are the arguments of the task, `refNode` the target's node. -/
  | identityMissing (poller : Nat) (node upid refNode : String) (now : Nat)
  | waitEnds (poller : Nat) (node upid refNode : String) (result : WaitResult)
  | lookCancelled (poller : Nat)
  | pollSave (poller now : Nat)
  | refreshed (poller : Nat) (result : Except String Nat)
  | reapRead (reaper : Nat) (broker : Broker) (now : Nat)
  | reapSave (reaper : Nat) (status : TaskStatus) (now : Nat)
  | cancelRead (view : Nat)
  | cancelSave (view : Nat) (username : String) (now : Nat)
  | retire (mode : RetirementMode) (now : Nat)

/-- `node or details["proxmox_task_node"] or ref.node`, and the task's id. -/
def taskIdentity (node upid refNode : String) (d : GuestTaskDetails) : String × String :=
  (if node != "" then node else if d.proxmoxTaskNode != "" then d.proxmoxTaskNode else refNode,
    if upid != "" then upid else d.proxmoxTaskUpid)

def identified (identity : String × String) : Bool := identity.1 != "" && identity.2 != ""

section
variable (s : GuestTaskSystem)

/-- The reaper looks at the event: stale, and not waiting in the queue without a task. -/
def reapable (broker : Broker) (now : Nat) : Bool :=
  let d := s.details
  let taskId := if d.pollTaskId != "" then d.pollTaskId else d.workerTaskId
  s.outcome.active && decide (s.timestamp + staleGuestTaskSeconds < now) &&
    ((d.proxmoxTaskUpid != "" && d.proxmoxTaskNode != "") || !(taskId != "" && broker.waiting taskId))

/-- The cancel view's checks. -/
def cancellable : Bool :=
  s.outcome.active && s.details.proxmoxTaskUpid != "" &&
    (s.details.proxmoxTaskNode != "" || s.details.node != "")

def guestTaskStep : GuestTaskAction → Option GuestTaskSystem
  | .poll poller =>
    if (s.pollers.get poller).isSome then none
    else some { s with pollers := s.pollers.put ⟨poller, s.details, .resolving⟩ }
  | .resolveFails poller failure now => do
    let p ← s.pollers.get poller
    match p.phase with
    | .resolving => return { s with
        outcome := .failed, details := recordEventFailure failure now p.copy, pollers := s.pollers.keep (·.id != poller) }
    | _ => none
  | .identityMissing poller node upid refNode now => do
    let p ← s.pollers.get poller
    match p.phase with
    | .resolving =>
      if identified (taskIdentity node upid refNode p.copy) then none
      else return { s with
        outcome := .failed, details := recordEventFailure missingTaskIdentity now p.copy
        pollers := s.pollers.keep (·.id != poller) }
    | _ => none
  | .waitEnds poller node upid refNode result => do
    let p ← s.pollers.get poller
    match p.phase with
    | .resolving =>
      if identified (taskIdentity node upid refNode p.copy) then
        return { s with pollers := s.pollers.put { p with phase := .waited (afterWait p.copy result) } }
      else none
    | _ => none
  | .lookCancelled poller => do
    let p ← s.pollers.get poller
    match p.phase with
    | .waited result =>
      return { s with
        pollers :=
          if s.outcome = .cancelled then s.pollers.keep (·.id != poller)
          else s.pollers.put { p with phase := .saving result } }
    | _ => none
  | .pollSave poller now => do
    let p ← s.pollers.get poller
    match p.phase with
    | .saving (outcome, d) =>
      let details := { d with finishedAt := some now }
      return { s with
        outcome := outcome, details := details
        pollers :=
          if outcome = .success then s.pollers.put { p with phase := .refreshing details }
          else s.pollers.keep (·.id != poller) }
    | _ => none
  | .refreshed poller result => do
    let p ← s.pollers.get poller
    match p.phase with
    | .refreshing d =>
      return { s with
        details := { d with projectionRefresh := some result }, pollers := s.pollers.keep (·.id != poller) }
    | _ => none
  | .reapRead reaper broker now =>
    if (s.reapers.get reaper).isNone && reapable s broker now then
      some { s with reapers := s.reapers.put ⟨reaper, s.details⟩ }
    else none
  | .reapSave reaper status now => do
    let r ← s.reapers.get reaper
    let reapers := s.reapers.keep (·.id != reaper)
    -- an event without a task is asked of no provider
    if (r.copy.proxmoxTaskUpid == "" || r.copy.proxmoxTaskNode == "") && status != .unknown then none
    else match reapedEvent status now r.copy with
      | none => return { s with reapers := reapers }
      | some (outcome, details) => return { s with outcome := outcome, details := details, reapers := reapers }
  | .cancelRead view =>
    if (s.cancels.get view).isNone && cancellable s then
      some { s with cancels := s.cancels.put ⟨view, s.details⟩ }
    else none
  | .cancelSave view username now => do
    let r ← s.cancels.get view
    return { s with
      outcome := .cancelled, details := cancelledDetails username now r.copy
      cancels := s.cancels.keep (·.id != view) }
  | .retire mode now =>
    (retiredEvent mode now s.outcome s.details).map fun e => { s with outcome := e.1, details := e.2 }

end

/-! ## A cancelled event -/

/-- The outcome a step saves without the row's lock, but for the cancel view's. -/
def endingSave (s : GuestTaskSystem) : GuestTaskAction → Option Outcome
  | .resolveFails .. | .identityMissing .. => some .failed
  | .pollSave poller _ => (s.pollers.get poller).bind fun p =>
    match p.phase with
    | .saving result => some result.1
    | _ => none
  | .reapSave _ status now => (reapedEvent status now {}).map (·.1)
  | .poll .. | .waitEnds .. | .lookCancelled .. | .refreshed .. | .reapRead .. | .cancelRead .. | .cancelSave ..
  | .retire .. => none

/-- The poller's and the reaper's saves of an outcome do not find the event cancelled. -/
def EndsInTurn (s : GuestTaskSystem) (l : GuestTaskAction) (_ : GuestTaskSystem) : Prop :=
  ((endingSave s l).isNone || s.outcome != .cancelled) = true

instance (s : GuestTaskSystem) (l : GuestTaskAction) (s' : GuestTaskSystem) : Decidable (EndsInTurn s l s') :=
  inferInstanceAs (Decidable (_ = true))

/-- What a poller is about to save is not a cancellation. -/
def Poller.Ends (p : Poller) : Prop :=
  ∀ result, p.phase = .waited result ∨ p.phase = .saving result → result.1 ≠ .cancelled

theorem afterWait_ne_cancelled (d : GuestTaskDetails) (result : WaitResult) : (afterWait d result).1 ≠ .cancelled := by
  unfold afterWait
  split <;> simp

theorem reapedEvent_outcome (status : TaskStatus) (now : Nat) (d : GuestTaskDetails) :
    (reapedEvent status now d).map (·.1) = (reapedEvent status now {}).map (·.1) := by
  unfold reapedEvent
  cases status with
  | running => rfl
  | stopped exitstatus =>
    simp only
    split <;> rfl
  | unknown => rfl

theorem reapedEvent_ne_cancelled {status : TaskStatus} {now : Nat} {d d' : GuestTaskDetails} {o : Outcome}
    (h : reapedEvent status now d = some (o, d')) : o ≠ .cancelled := by
  unfold reapedEvent at h
  cases status with
  | running => cases h
  | stopped exitstatus =>
    simp only at h
    split at h <;> cases h <;> simp
  | unknown =>
    cases h
    simp

theorem retiredEvent_cancelled {mode : RetirementMode} {now : Nat} {d d' : GuestTaskDetails} {o : Outcome}
    (h : retiredEvent mode now .cancelled d = some (o, d')) : o = .cancelled := by
  cases mode <;> cases h <;> rfl

/-- What a step does to the outcome, and to what the pollers are about to save. -/
theorem guestTaskStep_effect {s s' : GuestTaskSystem} {l : GuestTaskAction} (hs : s.pollers.All Poller.Ends)
    (h : guestTaskStep s l = some s') : s'.pollers.All Poller.Ends ∧
      ((endingSave s l = none ∧ (s.outcome = .cancelled → s'.outcome = .cancelled)) ∨
        ∃ o, endingSave s l = some o ∧ o ≠ .cancelled ∧ s'.outcome = o) := by
  cases l with
  | poll poller =>
    simp only [guestTaskStep] at h
    split at h
    · cases h
    · cases h
      exact ⟨hs.put (by simp [Poller.Ends]), .inl ⟨rfl, id⟩⟩
  | resolveFails poller failure now =>
    simp only [guestTaskStep, Option.bind_eq_bind, Option.bind_eq_some_iff] at h
    obtain ⟨p, hp, h⟩ := h
    split at h
    · cases h
      exact ⟨hs.keep _, .inr ⟨.failed, rfl, by simp, rfl⟩⟩
    · cases h
  | identityMissing poller node upid refNode now =>
    simp only [guestTaskStep, Option.bind_eq_bind, Option.bind_eq_some_iff] at h
    obtain ⟨p, hp, h⟩ := h
    split at h
    · split at h
      · cases h
      · cases h
        exact ⟨hs.keep _, .inr ⟨.failed, rfl, by simp, rfl⟩⟩
    · cases h
  | waitEnds poller node upid refNode result =>
    simp only [guestTaskStep, Option.bind_eq_bind, Option.bind_eq_some_iff] at h
    obtain ⟨p, hp, h⟩ := h
    split at h
    · split at h
      · cases h
        refine ⟨hs.put fun r hr => ?_, .inl ⟨rfl, id⟩⟩
        rcases hr with hr | hr
        · cases hr
          exact afterWait_ne_cancelled _ _
        · cases hr
      · cases h
    · cases h
  | lookCancelled poller =>
    simp only [guestTaskStep, Option.bind_eq_bind, Option.bind_eq_some_iff] at h
    obtain ⟨p, hp, h⟩ := h
    split at h
    · rename_i result hphase
      cases h
      refine ⟨?_, .inl ⟨rfl, id⟩⟩
      dsimp only
      split
      · exact hs.keep _
      · refine hs.put fun r hr => ?_
        rcases hr with hr | hr
        · cases hr
        · cases hr
          exact hs poller p hp result (.inl hphase)
    · cases h
  | pollSave poller now =>
    simp only [guestTaskStep, Option.bind_eq_bind, Option.bind_eq_some_iff] at h
    obtain ⟨p, hp, h⟩ := h
    split at h
    · rename_i outcome d hphase
      cases h
      refine ⟨?_, .inr ⟨outcome, by simp [endingSave, hp, hphase], hs poller p hp _ (.inr hphase), rfl⟩⟩
      dsimp only
      split
      · exact hs.put (by simp [Poller.Ends])
      · exact hs.keep _
    · cases h
  | refreshed poller result =>
    simp only [guestTaskStep, Option.bind_eq_bind, Option.bind_eq_some_iff] at h
    obtain ⟨p, hp, h⟩ := h
    split at h
    · cases h
      exact ⟨hs.keep _, .inl ⟨rfl, id⟩⟩
    · cases h
  | reapRead reaper broker now =>
    simp only [guestTaskStep] at h
    split at h
    · cases h
      exact ⟨hs, .inl ⟨rfl, id⟩⟩
    · cases h
  | reapSave reaper status now =>
    have houtcome := reapedEvent_outcome status now
    simp only [guestTaskStep, Option.bind_eq_bind, Option.bind_eq_some_iff] at h
    obtain ⟨r, hr, h⟩ := h
    split at h
    · cases h
    · split at h
      · rename_i hnone
        cases h
        refine ⟨hs, .inl ⟨?_, id⟩⟩
        rw [endingSave, ← houtcome r.copy, hnone]
        rfl
      · rename_i o d hsome
        cases h
        refine ⟨hs, .inr ⟨o, ?_, reapedEvent_ne_cancelled hsome, rfl⟩⟩
        rw [endingSave, ← houtcome r.copy, hsome]
        rfl
  | cancelRead view =>
    simp only [guestTaskStep] at h
    split at h
    · cases h
      exact ⟨hs, .inl ⟨rfl, id⟩⟩
    · cases h
  | cancelSave view username now =>
    simp only [guestTaskStep, Option.bind_eq_bind, Option.bind_eq_some_iff] at h
    obtain ⟨r, hr, h⟩ := h
    cases h
    exact ⟨hs, .inl ⟨rfl, fun _ => rfl⟩⟩
  | retire mode now =>
    simp only [guestTaskStep, Option.map_eq_some_iff] at h
    obtain ⟨⟨o, d⟩, he, rfl⟩ := h
    refine ⟨hs, .inl ⟨rfl, fun hc => ?_⟩⟩
    rw [hc] at he
    exact retiredEvent_cancelled he

/-- No party at work yet; the event is any. -/
def GuestTaskSystem.Unattended (s : GuestTaskSystem) : Prop :=
  s.pollers = .empty ∧ s.reapers = .empty ∧ s.cancels = .empty

/-- **A cancelled guest operation stays cancelled, throughout a run, exactly when no save
of the poller or the reaper that ends the operation finds it cancelled.** -/
theorem cancelled_stays_iff {s₀ : GuestTaskSystem} (h₀ : s₀.Unattended) (ls : List GuestTaskAction) :
    Absorbing guestTaskStep (fun s (_ : Unit) => some s.outcome) (· = .cancelled) s₀ ls ↔
      Along guestTaskStep EndsInTurn s₀ ls := by
  have hinit : s₀.pollers.All Poller.Ends := by
    intro k p hp
    simp [h₀.1] at hp
  refine absorbing_iff_along_inv (J := fun s => s.pollers.All Poller.Ends) (fun _ _ => True)
    (fun hs hst _ => (guestTaskStep_effect hs hst).1) (fun _ _ => trivial) (fun _ _ _ => trivial) ?_ ?_ hinit
  · intro s l s' k v v' hs hst hturn _ hold hclosed hv'
    obtain rfl := hold s.outcome rfl
    obtain rfl := Option.some.inj hv'
    rcases (guestTaskStep_effect hs hst).2 with ⟨-, hkeep⟩ | ⟨o, hsave, -, -⟩
    · rw [hclosed]
      exact hkeep hclosed
    · simp [EndsInTurn, hsave, hclosed] at hturn
  · intro s l s' hs hst hkeep
    rcases (guestTaskStep_effect hs hst).2 with ⟨hnone, -⟩ | ⟨o, hsave, hne, hout⟩
    · simp [EndsInTurn, hnone]
    · by_cases hc : s.outcome = .cancelled
      · have := hkeep () s.outcome s'.outcome rfl hc rfl
        exact absurd (hout.symm.trans (this.trans hc)) hne
      · simp [EndsInTurn, hc]

/-- A migration submitted to the provider. -/
def submitted : GuestTaskSystem :=
  ⟨0, .running, { proxmoxTaskUpid := "UPID:pve1:1", proxmoxTaskNode := "pve1" }, .empty, .empty, .empty⟩

/-- The operator cancels while the poller waits; the poller looks after that. -/
def cancelledWhileWaiting : List GuestTaskAction :=
  [.poll 1, .cancelRead 1, .cancelSave 1 "ops" 10, .waitEnds 1 "" "" "pve1" (.ended false "" "interrupted" "stopped"),
    .lookCancelled 1]

theorem cancelled_while_waiting_stays :
    Absorbing guestTaskStep (fun s (_ : Unit) => some s.outcome) (· = .cancelled) submitted cancelledWhileWaiting :=
  (cancelled_stays_iff ⟨rfl, rfl, rfl⟩ cancelledWhileWaiting).mpr (by decide +kernel)

/-- The poller looks, the operator cancels, the poller saves. -/
def cancelledAfterTheLook : List GuestTaskAction :=
  [.poll 1, .waitEnds 1 "" "" "pve1" (.ended true "" "OK" "stopped"), .lookCancelled 1, .cancelRead 1,
    .cancelSave 1 "ops" 10]

theorem poller_overwrites_cancelled : ¬ ∀ s₀ ls, GuestTaskSystem.Unattended s₀ →
    Absorbing guestTaskStep (fun s (_ : Unit) => some s.outcome) (· = .cancelled) s₀ ls := by
  intro h
  have hstays := h submitted (cancelledAfterTheLook ++ [.pollSave 1 11] ++ []) ⟨rfl, rfl, rfl⟩
  have := hstays cancelledAfterTheLook [.pollSave 1 11] [] _ _ rfl rfl rfl () .cancelled .success rfl rfl rfl
  cases this

end PveHelper.Operations
