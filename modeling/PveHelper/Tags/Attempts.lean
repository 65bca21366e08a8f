/-
The attempts of one tag operation, one after another: `execute_tag_operation` visits the
targets that are not done, `retry_tag_operation` queues what failed, and the reaper fails an
attempt that an exception ended. Each target ends in one of the three lists, one that is done
stays so and is not written again, and the source tag leaves the registry only when all are
done and no guest carries it.
-/
import PveHelper.Tags.TargetUpdate

namespace PveHelper.Tags

open Lib Guests
open PveHelper.Operations

/-! ## What the provider answers -/

/-- A guest as the cluster lists it. -/
structure ClusterGuest where
  node : String
  objectType : String
  vmid : Nat
  name : String
  tags : List String

/-- `fetch_verified_guest_inventory`. -/
structure VerifiedInventory where
  guests : List ClusterGuest
  successfulEndpoints : List String
  errors : List String

def VerifiedInventory.complete (inventory : VerifiedInventory) : Bool := !inventory.successfulEndpoints.isEmpty

/-- `_target_from_guest` of a listed guest. -/
def targetFromGuest (clusterKey : String) (g : ClusterGuest) : FanoutTarget where
  guestRef := "gr1:" ++ clusterKey ++ ":" ++ g.objectType ++ ":" ++ toString g.vmid ++ (if g.node = "" then "" else "@" ++ g.node)
  clusterKey := clusterKey
  node := g.node
  objectType := g.objectType
  vmid := g.vmid
  name := g.name

/-- The node of the target's live guest: the one it was on, or the only one it is on now. -/
def liveNode (guests : List ClusterGuest) (t : FanoutTarget) : Option String :=
  let same := guests.filter fun g => g.objectType = t.objectType && g.vmid = t.vmid
  if same.any fun g => g.node = t.node then some t.node
  else match same with
    | [g] => some g.node
    | _ => none

/-- Where an exception ends an attempt. -/
inductive RaisePoint
  /-- At the first read of the inventory: the cluster is retired or refused otherwise, no client can
  be built for it, or what it lists cannot be read. -/
  | inventory
  /-- In the turn of a target, its write sent or not: what `_update_target` does not catch, or the
  save after it. -/
  | turn (guestRef : String) (sent : Bool)
  /-- At the second read. -/
  | verification
  /-- After the second read, the change of the registry sent or not. -/
  | ending (sent : Bool)
  /-- After the last save, at the summary. -/
  | summary
  deriving DecidableEq

/-- How one attempt is answered, with the times of its saves. -/
structure AttemptAnswers where
  claimedAt : Nat
  /-- A cluster, retired or not, has the key of the operation. -/
  clusterFound : Bool
  raised : Option RaisePoint := none
  inventory : VerifiedInventory
  guest : FanoutTarget → GuestAnswers
  visitedAt : FanoutTarget → Nat
  verification : VerifiedInventory
  registry : RegistryAnswers
  finishedAt : Nat
  summaryId : Nat

/-! ## One attempt -/

inductive ProviderCall
  | guest (guestRef : String) (write : GuestWrite)
  /-- `unregister_tag`, with what it writes. -/
  | unregister (tag : String) (write : Option OptionWrite)

/-- The event, and what has been sent to the provider. -/
structure AttemptState where
  outcome : Outcome
  details : FanoutDetails
  calls : List ProviderCall

section
variable (L : Lowering)

def carries (source : String) (g : ClusterGuest) : Bool := (parseParts L g.tags).contains source

/-- The worker in its loop: its copy of the details, what it saved last, and what has been sent. -/
structure FanoutLoop where
  copy : FanoutDetails
  saved : FanoutDetails
  calls : List ProviderCall

/-- What an exception leaves: the event is still running. -/
def FanoutLoop.left (s : FanoutLoop) : AttemptState := ⟨.running, s.saved, s.calls⟩

/-- The exception in the turn of a target, if there is one, with whether its write was sent. -/
def AttemptAnswers.turnRaised (a : AttemptAnswers) (t : FanoutTarget) : Option Bool :=
  match a.raised with
  | some (.turn guestRef sent) => if guestRef = t.guestRef then some sent else none
  | _ => none

/-- What the turn of a target sends. -/
def targetCalls (a : AttemptAnswers) (s : FanoutLoop) (t : FanoutTarget) : List ProviderCall :=
  ((updateTarget L s.copy t (liveNode a.inventory.guests t) s.copy.clusterKey (a.guest t)).1.map (.guest t.guestRef)).toList

/-- One turn of the loop over the targets. -/
def visitTarget (a : AttemptAnswers) (s : FanoutLoop) (t : FanoutTarget) : Except AttemptState FanoutLoop :=
  match a.turnRaised t with
  | some sent => .error { s with calls := if sent then s.calls ++ targetCalls L a s t else s.calls : FanoutLoop }.left
  | none =>
    let (_, bucket, message) := updateTarget L s.copy t (liveNode a.inventory.guests t) s.copy.clusterKey (a.guest t)
    let details := visitedDetails t bucket message (a.visitedAt t) s.copy
    .ok ⟨details, details, s.calls ++ targetCalls L a s t⟩

def unregisterSource (a : AttemptAnswers) (d : FanoutDetails) : Option OptionWrite × List RegisteredTag × String :=
  editRegistry L (.unregister d.sourceTag) a.registry

def verificationOf (a : AttemptAnswers) (d : FanoutDetails) : Verification where
  complete := a.verification.complete
  errors := a.verification.errors
  remaining := (a.verification.guests.filter (carries L d.sourceTag)).map (targetFromGuest d.clusterKey)
  unregisterError := (unregisterSource L a d).2.2

/-- `_record_summary_audit`. -/
def summarized (a : AttemptAnswers) (outcome : Outcome) (d : FanoutDetails) : FanoutDetails :=
  if outcome = .success && d.summaryAuditId.isNone then { d with summaryAuditId := some a.summaryId } else d

/-- The removal of the tag from the registry, when nothing has failed. -/
def endingCalls (a : AttemptAnswers) (d : FanoutDetails) : List ProviderCall :=
  if (verified (verificationOf L a d) d).failed.isEmpty then [.unregister d.sourceTag (unregisterSource L a d).1] else []

/-- What follows the loop. -/
def finishAttempt (a : AttemptAnswers) (s : FanoutLoop) : Except AttemptState AttemptState :=
  match a.raised with
  | some .verification => .error s.left
  | some (.ending sent) => .error { s with calls := if sent then s.calls ++ endingCalls L a s.copy else s.calls : FanoutLoop }.left
  | raised =>
    let ending := fanoutEnding (verificationOf L a s.copy) a.finishedAt s.copy
    if raised = some .summary then .error ⟨ending.1, ending.2, s.calls ++ endingCalls L a s.copy⟩
    else .ok ⟨ending.1, summarized a ending.1 ending.2, s.calls ++ endingCalls L a s.copy⟩

/-- The copy of the details that the worker starts with. -/
def claimedCopy (a : AttemptAnswers) (d : FanoutDetails) : FanoutDetails := { claimedDetails a.claimedAt d with failed := [] }

/-- The worker before its loop. -/
def claimedLoop (a : AttemptAnswers) (s : AttemptState) : FanoutLoop :=
  ⟨claimedCopy a s.details, claimedDetails a.claimedAt s.details, s.calls⟩

/-- `execute_tag_operation`, or what it leaves where it raises. -/
def executeTagOperation (s : AttemptState) (attempt : Nat) (a : AttemptAnswers) : Except AttemptState AttemptState :=
  if attempt ≠ s.details.retryAttempt || s.outcome ≠ .queued then .ok s
  else if !a.clusterFound then
    .ok { s with outcome := .failed, details := clusterGoneDetails a.finishedAt (claimedCopy a s.details) }
  else if a.raised = some .inventory then .error (claimedLoop a s).left
  else do
    let visited ← (claimedCopy a s.details).open.foldlM (visitTarget L a) (claimedLoop a s)
    finishAttempt L a visited

/-- `retry_tag_operation`; the broker takes the task under an id or fails. -/
def retryTagOperation (s : AttemptState) (broker : Broker) (queue : Except String String) (now : Nat) : AttemptState :=
  if retryAdmitted s.outcome s.details broker then
    let details := queuedDetails now (retriedDetails s.details)
    match queue with
    | .ok taskId => { s with outcome := .queued, details := { details with workerTaskId := some taskId } }
    | .error errorType => { s with outcome := .failed, details := queueFailedDetails errorType now details }
  else s

/-- `_reap_stale_tag_operations` of an event that has been still for long. -/
def reapTagOperation (s : AttemptState) (broker : Broker) (now : Nat) : AttemptState :=
  if s.outcome ≠ .queued && s.outcome ≠ .running then s
  else if broker.inFlight (s.details.workerTaskId.getD "") then s
  else { s with outcome := .failed, details := reapedDetails broker now s.details }

inductive AttemptStep
  | execute (attempt : Nat) (answers : AttemptAnswers)
  | retry (broker : Broker) (queue : Except String String) (now : Nat)
  | reap (broker : Broker) (now : Nat)

def attemptStep (s : AttemptState) : AttemptStep → AttemptState
  | .execute attempt a =>
    match executeTagOperation L s attempt a with
    | .ok s' | .error s' => s'
  | .retry broker queue now => retryTagOperation s broker queue now
  | .reap broker now => reapTagOperation s broker now

/-- One after another. -/
def attempts (s : AttemptState) (ls : List AttemptStep) : AttemptState := ls.foldl (attemptStep L) s

end

/-! ## Accounts -/

/-- The targets of a list. -/
def keysOf (items : List FanoutItem) : List String := items.filterMap fun item => item.target.map (·.guestRef)

@[simp] theorem keysOf_append (items items' : List FanoutItem) : keysOf (items ++ items') = keysOf items ++ keysOf items' :=
  List.filterMap_append

/-- The targets that are done. -/
def doneKeys (d : FanoutDetails) : List String := keysOf d.succeeded ++ keysOf d.skipped

def allKeys (d : FanoutDetails) : List String := doneKeys d ++ keysOf d.failed

/-- Every target is in one of the lists, and each list has it once. -/
structure Accounted (d : FanoutDetails) : Prop where
  one : ∀ t ∈ d.targets,
    (t.guestRef ∈ keysOf d.succeeded ∧ t.guestRef ∉ keysOf d.skipped ∧ t.guestRef ∉ keysOf d.failed) ∨
      (t.guestRef ∉ keysOf d.succeeded ∧ t.guestRef ∈ keysOf d.skipped ∧ t.guestRef ∉ keysOf d.failed) ∨
      t.guestRef ∉ keysOf d.succeeded ∧ t.guestRef ∉ keysOf d.skipped ∧ t.guestRef ∈ keysOf d.failed
  succeeded : (keysOf d.succeeded).Nodup
  skipped : (keysOf d.skipped).Nodup
  failed : (keysOf d.failed).Nodup

/-- The operation is queued for the first time, its targets distinct. -/
structure AttemptState.Prepared (s : AttemptState) : Prop where
  queued : s.outcome = .queued
  first : s.details.retryAttempt = 0
  succeeded : s.details.succeeded = []
  skipped : s.details.skipped = []
  distinct : (s.details.targets.map (·.guestRef)).Nodup

/-- What holds between attempts. -/
structure AttemptState.Inv (s : AttemptState) : Prop where
  distinct : (s.details.targets.map (·.guestRef)).Nodup
  done : (doneKeys s.details).Nodup

/-- The guest a call writes. -/
def ProviderCall.guestRef : ProviderCall → Option String
  | .guest guestRef _ => some guestRef
  | .unregister _ _ => none

/-- What was saved last has the worker's lists of the done. -/
structure FanoutLoop.Synced (s : FanoutLoop) : Prop where
  succeeded : s.saved.succeeded = s.copy.succeeded
  skipped : s.saved.skipped = s.copy.skipped
  targets : s.saved.targets = s.copy.targets

/-- The turns of `ts₁` are over, and what was sent is for guests of `ts`. -/
structure Reached (ts₁ ts : List FanoutTarget) (s s' : FanoutLoop) : Prop where
  targets : s'.copy.targets = s.copy.targets
  source : s'.copy.sourceTag = s.copy.sourceTag
  keys : (allKeys s'.copy).Perm (ts₁.map (·.guestRef) ++ allKeys s.copy)
  succeeded : s.copy.succeeded <+: s'.copy.succeeded
  skipped : s.copy.skipped <+: s'.copy.skipped
  synced : s.Synced → s'.Synced
  calls : ∃ new, s'.calls = s.calls ++ new ∧ (new.filterMap (·.guestRef)).Sublist (ts.map (·.guestRef)) ∧
    ∀ c ∈ new, ∃ k w, c = .guest k w

theorem Reached.refl (s : FanoutLoop) : Reached [] [] s s where
  targets := rfl
  source := rfl
  keys := List.Perm.refl _
  succeeded := List.prefix_rfl
  skipped := List.prefix_rfl
  synced h := h
  calls := ⟨[], (List.append_nil _).symm, List.Sublist.refl _, by simp⟩

theorem Reached.trans {ts ts₁ ts₂ : List FanoutTarget} {s s' s'' : FanoutLoop} (h : Reached ts ts s s')
    (h' : Reached ts₁ ts₂ s' s'') : Reached (ts ++ ts₁) (ts ++ ts₂) s s'' where
  targets := h'.targets.trans h.targets
  source := h'.source.trans h.source
  keys := by
    refine h'.keys.trans ((h.keys.append_left _).trans ?_)
    rw [List.map_append, ← List.append_assoc]
    exact List.perm_append_comm.append_right _
  succeeded := h.succeeded.trans h'.succeeded
  skipped := h.skipped.trans h'.skipped
  synced hs := h'.synced (h.synced hs)
  calls := by
    obtain ⟨new, hnew, hsub, hguest⟩ := h.calls
    obtain ⟨new', hnew', hsub', hguest'⟩ := h'.calls
    refine ⟨new ++ new', ?_, ?_, fun c hc => (List.mem_append.mp hc).elim (hguest c) (hguest' c)⟩
    · rw [hnew', hnew, List.append_assoc]
    · rw [List.filterMap_append, List.map_append]
      exact hsub.append hsub'

/-- The turns not made yet send nothing. -/
theorem Reached.mono {ts₁ ts ts' : List FanoutTarget} {s s' : FanoutLoop} (h : Reached ts₁ ts s s') (hts : ts.Sublist ts') :
    Reached ts₁ ts' s s' := by
  obtain ⟨new, hnew, hsub, hguest⟩ := h.calls
  exact { h with calls := ⟨new, hnew, hsub.trans (hts.map _), hguest⟩ }

section
variable {L : Lowering} {a : AttemptAnswers}

/-- What a step keeps of the lists of the done, and what it sends. -/
structure Keeps (s s' : AttemptState) : Prop where
  targets : s'.details.targets = s.details.targets
  succeeded : s.details.succeeded <+: s'.details.succeeded
  skipped : s.details.skipped <+: s'.details.skipped
  /-- A target that is done is not written again. -/
  calls : ∃ new, s'.calls = s.calls ++ new ∧ ∀ c ∈ new, ∀ k, c.guestRef = some k → k ∉ doneKeys s.details

theorem doneKeys_subset {d d' : FanoutDetails} (hsucceeded : d.succeeded <+: d'.succeeded) (hskipped : d.skipped <+: d'.skipped) :
    doneKeys d ⊆ doneKeys d' := by
  intro k hk
  obtain ⟨more, hmore⟩ := hsucceeded
  obtain ⟨more', hmore'⟩ := hskipped
  unfold doneKeys at hk ⊢
  rw [← hmore, ← hmore', keysOf_append, keysOf_append]
  rcases List.mem_append.mp hk with hk | hk
  · exact List.mem_append_left _ (List.mem_append_left _ hk)
  · exact List.mem_append_right _ (List.mem_append_left _ hk)

theorem Keeps.refl (s : AttemptState) : Keeps s s :=
  ⟨rfl, List.prefix_rfl, List.prefix_rfl, [], (List.append_nil _).symm, by simp⟩

theorem Keeps.trans {s s' s'' : AttemptState} (h : Keeps s s') (h' : Keeps s' s'') : Keeps s s'' where
  targets := h'.targets.trans h.targets
  succeeded := h.succeeded.trans h'.succeeded
  skipped := h.skipped.trans h'.skipped
  calls := by
    obtain ⟨new, hnew, hfresh⟩ := h.calls
    obtain ⟨new', hnew', hfresh'⟩ := h'.calls
    refine ⟨new ++ new', by rw [hnew', hnew, List.append_assoc], fun c hc k hk => ?_⟩
    rcases List.mem_append.mp hc with hc | hc
    · exact hfresh c hc k hk
    · exact fun hdone => hfresh' c hc k hk (doneKeys_subset h.succeeded h.skipped hdone)

/-- The attempt is the one that is queued, its cluster is there, and it returns. -/
structure Completes (L : Lowering) (s : AttemptState) (attempt : Nat) (a : AttemptAnswers) (s' : AttemptState) : Prop where
  expected : attempt = s.details.retryAttempt
  queued : s.outcome = .queued
  clusterFound : a.clusterFound = true
  returned : executeTagOperation L s attempt a = .ok s'

/-- What a step leaves behind, and what it sends. -/
structure Accounts (L : Lowering) (s : AttemptState) (l : AttemptStep) (s' : AttemptState) : Prop where
  accounted : ∀ attempt a, l = .execute attempt a → Completes L s attempt a s' → Accounted s'.details
  /-- A guest is written once, and the tag leaves the registry when all targets are done and
  no guest carries it. -/
  calls : ∃ new, s'.calls = s.calls ++ new ∧ (new.filterMap (·.guestRef)).Nodup ∧
    ∀ tag w, .unregister tag w ∈ new → tag = s.details.sourceTag ∧ (∀ t ∈ s'.details.targets, t.guestRef ∈ doneKeys s'.details) ∧
      ∃ attempt a, l = .execute attempt a ∧ a.verification.complete = true ∧ ∀ g ∈ a.verification.guests, carries L tag g = false

/-- The lists of the done and the targets are the same. -/
structure SameDone (d d' : FanoutDetails) : Prop where
  succeeded : d'.succeeded = d.succeeded
  skipped : d'.skipped = d.skipped
  targets : d'.targets = d.targets

theorem SameDone.doneKeys {d d' : FanoutDetails} (h : SameDone d d') : doneKeys d' = doneKeys d := by
  unfold Tags.doneKeys
  rw [h.succeeded, h.skipped]

/-- The lists and their targets are the same. -/
structure SameLists (d d' : FanoutDetails) : Prop extends SameDone d d' where
  failed : keysOf d'.failed = keysOf d.failed

theorem SameLists.allKeys {d d' : FanoutDetails} (h : SameLists d d') : allKeys d' = allKeys d := by
  unfold Tags.allKeys
  rw [h.doneKeys, h.failed]

theorem SameLists.trans {d d' d'' : FanoutDetails} (h : SameLists d d') (h' : SameLists d' d'') : SameLists d d'' :=
  ⟨⟨h'.succeeded.trans h.succeeded, h'.skipped.trans h.skipped, h'.targets.trans h.targets⟩, h'.failed.trans h.failed⟩

theorem FanoutLoop.Synced.same {s : FanoutLoop} (h : s.Synced) : SameDone s.copy s.saved :=
  ⟨h.succeeded, h.skipped, h.targets⟩

theorem open_eq (d : FanoutDetails) : (claimedCopy a d).open = d.targets.filter fun t => !(doneKeys d).contains t.guestRef := by
  unfold FanoutDetails.open doneKeys keysOf
  dsimp only
  rw [List.filterMap_append]
  rfl

theorem allKeys_claimedCopy (d : FanoutDetails) : allKeys (claimedCopy a d) = doneKeys d := List.append_nil _

/-- The targets the worker visits are distinct, and none of them is done. -/
theorem open_nodup {s : AttemptState} (hs : s.Inv) : ((claimedCopy a s.details).open.map (·.guestRef)).Nodup := by
  rw [open_eq]
  exact hs.distinct.sublist (List.filter_sublist.map _)

theorem not_done_of_open {s : AttemptState} {k : String} (hk : k ∈ (claimedCopy a s.details).open.map (·.guestRef)) :
    k ∉ doneKeys s.details := by
  rw [open_eq] at hk
  obtain ⟨t, ht, rfl⟩ := List.mem_map.mp hk
  intro hdone
  have hopen := (List.mem_filter.mp ht).2
  simp [hdone] at hopen

section
variable {s : AttemptState} {visited : FanoutLoop} {ts₁ : List FanoutTarget}

/-- No target is in the lists twice. -/
theorem Reached.nodup (h : Reached ts₁ (claimedCopy a s.details).open (claimedLoop a s) visited)
    (hsub : ts₁.Sublist (claimedCopy a s.details).open) (hs : s.Inv) : (allKeys visited.copy).Nodup := by
  have hkeys : (allKeys visited.copy).Perm (ts₁.map (·.guestRef) ++ doneKeys s.details) := by
    rw [← allKeys_claimedCopy (a := a)]
    exact h.keys
  refine hkeys.nodup_iff.mpr (List.nodup_append'.mpr ⟨(open_nodup hs).sublist (hsub.map _), hs.done, ?_⟩)
  exact fun k hk => not_done_of_open ((hsub.map _).subset hk)

/-- After the loop every target is in the lists. -/
theorem Reached.all {ts : List FanoutTarget} (h : Reached (claimedCopy a s.details).open ts (claimedLoop a s) visited) :
    ∀ t ∈ s.details.targets, t.guestRef ∈ allKeys visited.copy := by
  have hkeys : (allKeys visited.copy).Perm ((claimedCopy a s.details).open.map (·.guestRef) ++ doneKeys s.details) := by
    rw [← allKeys_claimedCopy (a := a)]
    exact h.keys
  intro t ht
  refine hkeys.mem_iff.mpr (List.mem_append.mpr ?_)
  by_cases hdone : t.guestRef ∈ doneKeys s.details
  · exact .inr hdone
  · refine .inl (List.mem_map.mpr ⟨t, ?_, rfl⟩)
    rw [open_eq]
    exact List.mem_filter.mpr ⟨ht, by simpa using hdone⟩

/-- What an attempt that gets to its targets leaves, returned or not. -/
structure Worked (L : Lowering) (a : AttemptAnswers) (s s' : AttemptState) : Prop where
  targets : s'.details.targets = s.details.targets
  succeeded : s.details.succeeded <+: s'.details.succeeded
  skipped : s.details.skipped <+: s'.details.skipped
  done : (doneKeys s'.details).Nodup
  calls : ∃ new, s'.calls = s.calls ++ new ∧
    (new.filterMap (·.guestRef)).Sublist ((claimedCopy a s.details).open.map (·.guestRef)) ∧
    ∀ tag w, .unregister tag w ∈ new → tag = s.details.sourceTag ∧ (∀ t ∈ s'.details.targets, t.guestRef ∈ doneKeys s'.details) ∧
      a.verification.complete = true ∧ ∀ g ∈ a.verification.guests, carries L tag g = false

end

theorem Worked.keeps {s s' : AttemptState} (h : Worked L a s s') : Keeps s s' := by
  obtain ⟨new, hnew, hguests, -⟩ := h.calls
  refine ⟨h.targets, h.succeeded, h.skipped, new, hnew, fun c hc k hk => ?_⟩
  exact not_done_of_open (hguests.subset (List.mem_filterMap.mpr ⟨c, hc, hk⟩))

theorem Worked.accounts {s s' : AttemptState} (h : Worked L a s s') (hs : s.Inv) {attempt : Nat}
    (haccounted : Completes L s attempt a s' → Accounted s'.details) : Accounts L s (.execute attempt a) s' where
  accounted attempt' a' he hc := by
    cases he
    exact haccounted hc
  calls := by
    obtain ⟨new, hnew, hguests, hunregister⟩ := h.calls
    refine ⟨new, hnew, (open_nodup hs).sublist hguests, fun tag w hmem => ?_⟩
    obtain ⟨hsource, hall, hcomplete, hfree⟩ := hunregister tag w hmem
    exact ⟨hsource, hall, attempt, a, rfl, hcomplete, hfree⟩

/-- A step that leaves the lists of the done alone and sends nothing. -/
structure Still (s s' : AttemptState) : Prop extends SameDone s.details s'.details where
  calls : s'.calls = s.calls

theorem Still.keeps {s s' : AttemptState} (h : Still s s') : Keeps s s' := by
  refine ⟨h.targets, ?_, ?_, [], ?_, by simp⟩
  · exact h.succeeded ▸ List.prefix_rfl
  · exact h.skipped ▸ List.prefix_rfl
  · rw [List.append_nil]
    exact h.calls

theorem Still.inv {s s' : AttemptState} (h : Still s s') (hs : s.Inv) : s'.Inv where
  distinct := h.targets ▸ hs.distinct
  done := by
    rw [h.doneKeys]
    exact hs.done

theorem AttemptState.Prepared.inv {s : AttemptState} (h : s.Prepared) : s.Inv where
  distinct := h.distinct
  done := by
    unfold doneKeys
    rw [h.succeeded, h.skipped]
    exact List.nodup_nil

end

/-! ## A removal, retried once -/

end PveHelper.Tags
