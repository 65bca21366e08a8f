/-
The three refreshes that share one shape, after
`core/services/tag_inventory_refresh.py`, `storage_catalog_refresh.py` and
`cluster_inventory_bootstrap.py`, with their reaper in `core/tasks.py`: the Audit
event is recorded, the task is enqueued, the worker promotes the row to running,
reports progress and finishes it.

Where the source reads the row and saves it later, the two are separate steps
here and the party keeps its copy between them. Most saves are of such a copy,
with no look at what the row has become: the one after the enqueueing, the
worker's early failures, its progress and its last write. The promotion and the
reaper read the row under its lock. Every step has a time of its own.
-/
import PveHelper.Operations.Events
import PveHelper.Guests.Config

namespace PveHelper.Operations

open Lib Guests

/-! ## The three operations -/

inductive RefreshKind
  | tagInventory
  | storageCatalog
  | inventoryBootstrap
  deriving DecidableEq

/-- What the operations say. -/
structure RefreshTexts where
  alreadyActive : String
  queueError : String
  clusterGone : String
  blocked : String
  firstStage : String
  /-- The stages of the saves that report progress. -/
  progress : List String
  reaperError : String

def RefreshKind.texts : RefreshKind → RefreshTexts
  | .tagInventory =>
    { alreadyActive := "A tag inventory refresh is already queued or running."
      queueError := "The tag inventory refresh could not be queued."
      clusterGone := "The selected Proxmox cluster no longer exists."
      blocked := "Another tag inventory refresh worker is still active; retry after it finishes."
      firstStage := "refreshing tag registry"
      progress := ["refreshing guest membership"]
      reaperError := "The tag inventory refresh worker stopped reporting progress; start a new refresh." }
  | .storageCatalog =>
    { alreadyActive := "A catalog refresh is already queued or running for this cluster."
      queueError := "The catalog refresh could not be queued."
      clusterGone := "The selected Proxmox cluster is no longer available."
      blocked := "Another catalog refresh worker is still active; retry after it finishes."
      firstStage := "reading storage definitions"
      progress := ["listing volumes"]
      reaperError := "The storage catalog refresh worker stopped reporting progress; start a new refresh." }
  | .inventoryBootstrap =>
    { alreadyActive := "An inventory bootstrap is already queued or running for this connection."
      queueError := "The first inventory could not be queued."
      clusterGone := "The connection can no longer be contacted, so its first inventory was not collected."
      blocked := "Another inventory bootstrap worker is still active for this connection."
      firstStage := "reading guests"
      progress := ["reading storage catalog", "reading tags"]
      reaperError := "The first inventory worker stopped reporting progress; refresh the connection manually." }

/-- The details of a refresh; `figures` are the counts and lists it reports. -/
structure RefreshDetails where
  clusterKey : String
  stage : String
  queuedAt : Nat
  workerTaskId : Option String := none
  startedAt : Option Nat := none
  heartbeatAt : Option Nat := none
  finishedAt : Option Nat := none
  interruptedAt : Option Nat := none
  error : Option String := none
  queueErrorType : Option String := none
  figures : Config := []

/-- The Audit event of a refresh. -/
structure RefreshEvent where
  pk : Nat
  kind : RefreshKind
  outcome : Outcome
  details : RefreshDetails

/-- The outcome, and what the writer that finalises the row stores beside it. -/
def RefreshEvent.closing (e : RefreshEvent) : Outcome × String × Option Nat :=
  (e.outcome, e.details.stage, e.details.finishedAt)

/-! ## How a worker ends -/

/-- Where a worker stands; the number counts its progress saves. -/
inductive RefreshPhase
  /-- It has read the row queued; its lock and the promotion are next. -/
  | claimed
  /-- It has saved the row and is reading from the provider. -/
  | running (saves : Nat)
  /-- It has read the row again and found it running; a save is next. -/
  | looked (saves : Nat)
  deriving DecidableEq

/-- What a worker writes last, over its copy of the details. -/
structure Ending where
  outcome : Outcome
  stage : String
  error : Option String
  figures : Config

/-- The tag refresh: the registry's answer and the guests'. -/
structure TagResult where
  registryCount : Nat
  registryError : String
  complete : Bool
  attemptedEndpoints : List String
  successfulEndpoints : List String
  errors : List String
  refreshedAt : String

def texts (xs : List String) : Json := .arr (xs.map .str)

def tagEnding (r : TagResult) : Ending :=
  let reconciled := !r.successfulEndpoints.isEmpty
  let warnings := (if r.registryError = "" then [] else [r.registryError]) ++ r.errors
  let anySuccess := r.registryError = "" || reconciled
  let clean := r.registryError = "" && r.complete && warnings.isEmpty
  { outcome := if clean then .success else if anySuccess then .warning else .failed
    stage := if clean then "completed" else if anySuccess then "completed with warnings" else "failed"
    error := if anySuccess then none else some "Neither the tag registry nor guest membership could be refreshed."
    figures := [("registry_count", .int r.registryCount), ("registry_error", .str r.registryError),
      ("membership_reconciled", .bool reconciled), ("membership_complete", .bool r.complete),
      ("endpoints_attempted", texts r.attemptedEndpoints), ("endpoints_succeeded", texts r.successfulEndpoints),
      ("membership_errors", texts r.errors), ("warnings", texts warnings), ("refreshed_at", .str r.refreshedAt)] }

/-- The catalog refresh. -/
structure CatalogResult where
  metadataComplete : Bool
  volumeComplete : Bool
  incompleteNodes : List String

def completed (complete : Bool) (figures : Config) : Ending :=
  { outcome := if complete then .success else .warning
    stage := if complete then "completed" else "completed with incomplete coverage"
    error := none
    figures := figures }

def catalogFigures (r : CatalogResult) : Config :=
  [("metadata_complete", .bool r.metadataComplete), ("volume_complete", .bool r.volumeComplete),
    ("incomplete_nodes", texts r.incompleteNodes)]

/-- The bootstrap: guests, catalog and tags. -/
structure BootstrapResult where
  guests : Nat
  guestsComplete : Bool
  catalog : CatalogResult
  tags : Nat
  registryError : String

def bootstrapFigures (r : BootstrapResult) : Config :=
  [("guests", .int r.guests), ("guests_complete", .bool r.guestsComplete)] ++ catalogFigures r.catalog ++
    [("tags", .int r.tags), ("registry_error", .str r.registryError)]

/-- What the provider reads of a worker come to. -/
inductive RefreshResult
  | raised (message : String)
  | tag (r : TagResult)
  | catalog (r : CatalogResult)
  | bootstrap (r : BootstrapResult)

/-- The last write of a worker, where it makes one. The tag refresh looks at the
row before each; the others end from where they are. -/
def ending : RefreshKind → RefreshPhase → RefreshResult → Option Ending
  | .tagInventory, .looked 1, .raised message | .storageCatalog, .running 0, .raised message
  | .storageCatalog, .running 1, .raised message | .inventoryBootstrap, .running 0, .raised message
  | .inventoryBootstrap, .running 1, .raised message => some ⟨.failed, "failed", some message, []⟩
  | .tagInventory, .looked 1, .tag r => some (tagEnding r)
  -- volumes are listed on complete metadata only
  | .storageCatalog, .running 0, .catalog r => if r.metadataComplete then none else some (completed false (catalogFigures r))
  | .storageCatalog, .running 1, .catalog r =>
    some (completed (r.metadataComplete && r.volumeComplete) (catalogFigures r))
  | .inventoryBootstrap, .running 2, .bootstrap r =>
    some (completed (r.guestsComplete && r.catalog.metadataComplete && r.catalog.volumeComplete && r.registryError == "")
      (bootstrapFigures r))
  | _, _, _ => none

/-- The worker reads the row again after this many progress saves. -/
def RefreshKind.looks (kind : RefreshKind) (saves : Nat) : Bool :=
  saves < kind.texts.progress.length || (kind == .tagInventory && saves == 1)

/-! ## The system -/

/-- The queueing function past its commit, with its copy of the details. -/
structure Enqueuer where
  event : Nat
  details : RefreshDetails
  /-- The task, once the broker has it. -/
  taskId : Option String := none

structure RefreshWorker where
  id : Nat
  event : Nat
  kind : RefreshKind
  /-- The details as this worker last read or wrote them. -/
  copy : RefreshDetails
  phase : RefreshPhase

structure RefreshSystem where
  clock : Nat
  events : Table RefreshEvent.pk
  enqueuers : Table Enqueuer.event
  workers : Table RefreshWorker.id
  /-- The events whose task the broker has taken. -/
  sent : List Nat

inductive RefreshAction
  | queue (kind : RefreshKind) (pk : Nat) (clusterKey : String) (figures : Config)
  /-- `async_task` returns. -/
  | send (event : Nat) (taskId : String)
  /-- `async_task` raises; the queueing function saves the failure. -/
  | enqueueFails (event : Nat) (errorType : String)
  /-- The queueing function saves the task. -/
  | note (event : Nat)
  /-- A delivery: the worker reads the row. -/
  | deliver (worker event : Nat)
  /-- The cluster is gone, or another worker has the lock. -/
  | giveUp (worker : Nat) (blocked : Bool)
  | start (worker : Nat)
  | look (worker : Nat)
  | progress (worker : Nat) (figures : Config)
  | finish (worker : Nat) (result : RefreshResult)
  | reap (event : Nat) (broker : Broker)

/-- `save(update_fields=["details"])`. -/
def saveDetails (details : RefreshDetails) (e : RefreshEvent) : RefreshEvent := { e with details := details }

/-- `save(update_fields=["outcome", "details"])`. -/
def save (outcome : Outcome) (details : RefreshDetails) (e : RefreshEvent) : RefreshEvent :=
  { e with outcome := outcome, details := details }

theorem saveDetails_pk (details : RefreshDetails) (e : RefreshEvent) : (saveDetails details e).pk = e.pk := rfl

theorem save_pk (outcome : Outcome) (details : RefreshDetails) (e : RefreshEvent) : (save outcome details e).pk = e.pk :=
  rfl

/-- The promotion, on the row under its lock. -/
def promoted (now : Nat) (e : RefreshEvent) : RefreshEvent :=
  if e.outcome = .queued then
    { e with
      outcome := .running
      details := { e.details with
        stage := e.kind.texts.firstStage, startedAt := some now, heartbeatAt := some now } }
  else e

theorem promoted_pk (now : Nat) (e : RefreshEvent) : (promoted now e).pk = e.pk := by
  unfold promoted
  split <;> rfl

/-- `_reap_stale_heartbeat_operations`, on the row under its lock. -/
def interrupted (broker : Broker) (now : Nat) (e : RefreshEvent) : RefreshEvent :=
  if e.outcome.active && stale (e.details.heartbeatAt.getD e.details.queuedAt) now
      && !broker.inFlight (e.details.workerTaskId.getD "") then
    { e with
      outcome := .failed
      details := { e.details with
        stage := "interrupted"
        error := some e.kind.texts.reaperError
        interruptedAt := some now
        finishedAt := some now } }
  else e

theorem interrupted_pk (broker : Broker) (now : Nat) (e : RefreshEvent) : (interrupted broker now e).pk = e.pk := by
  unfold interrupted
  split <;> rfl

section
variable (s : RefreshSystem)

/-- What the queueing function saves when the broker fails. -/
def enqueueFailedDetails (kind : RefreshKind) (errorType : String) (d : RefreshDetails) : RefreshDetails :=
  { d with
    stage := "enqueue failed"
    error := some kind.texts.queueError
    queueErrorType := some errorType
    finishedAt := some s.clock }

/-- What a worker saves that does not get to run. -/
def giveUpDetails (blocked : Bool) (w : RefreshWorker) : RefreshDetails :=
  { w.copy with
    stage := if blocked then "blocked" else "failed"
    error := some (if blocked then w.kind.texts.blocked else w.kind.texts.clusterGone)
    finishedAt := some s.clock }

def progressDetails (stage : String) (figures : Config) (w : RefreshWorker) : RefreshDetails :=
  { w.copy with stage := stage, heartbeatAt := some s.clock, figures := w.copy.figures.update figures }

def finishDetails (e : Ending) (w : RefreshWorker) : RefreshDetails :=
  { w.copy with
    stage := e.stage
    error := e.error <|> w.copy.error
    finishedAt := some s.clock
    figures := w.copy.figures.update e.figures }

/-- The worker's task is over. -/
def RefreshSystem.without (id : Nat) : Table RefreshWorker.id := s.workers.keep (·.id != id)

def refreshAct : RefreshAction → Option RefreshSystem
  | .queue kind pk clusterKey figures =>
    let active := s.events.rows.any fun e => e.kind == kind && e.outcome.active && e.details.clusterKey == clusterKey
    if active || (s.events.get pk).isSome then none
    else
      let details : RefreshDetails :=
        { clusterKey := clusterKey, stage := "queued", queuedAt := s.clock, figures := figures }
      some { s with events := s.events.put ⟨pk, kind, .queued, details⟩, enqueuers := s.enqueuers.put ⟨pk, details, none⟩ }
  | .send event taskId => do
    let q ← s.enqueuers.get event
    if q.taskId.isSome then none
    else return { s with enqueuers := s.enqueuers.put { q with taskId := some taskId }, sent := event :: s.sent }
  | .enqueueFails event errorType => do
    let q ← s.enqueuers.get event
    let e ← s.events.get event
    if q.taskId.isSome then none
    else return { s with
      events := s.events.alter event (save .failed (enqueueFailedDetails s e.kind errorType q.details)) (save_pk _ _)
      enqueuers := s.enqueuers.keep (·.event != event) }
  | .note event => do
    let q ← s.enqueuers.get event
    let taskId ← q.taskId
    return { s with
      events := s.events.alter event (saveDetails { q.details with workerTaskId := some taskId }) (saveDetails_pk _)
      enqueuers := s.enqueuers.keep (·.event != event) }
  | .deliver worker event => do
    let e ← s.events.get event
    if s.sent.contains event && (s.workers.get worker).isNone && e.outcome == .queued then
      return { s with workers := s.workers.put ⟨worker, event, e.kind, e.details, .claimed⟩ }
    else none
  | .giveUp worker blocked => do
    let w ← s.workers.get worker
    if w.phase = .claimed then
      return { s with
        events := s.events.alter w.event (save .failed (giveUpDetails s blocked w)) (save_pk _ _)
        workers := s.without worker }
    else none
  | .start worker => do
    let w ← s.workers.get worker
    let e ← s.events.get w.event
    if w.phase = .claimed then
      return { s with
        events := s.events.alter w.event (promoted s.clock) (promoted_pk _)
        workers :=
          if e.outcome = .queued then s.workers.put { w with copy := (promoted s.clock e).details, phase := .running 0 }
          else s.without worker }
    else none
  | .look worker => do
    let w ← s.workers.get worker
    let e ← s.events.get w.event
    match w.phase with
    | .running n =>
      if w.kind.looks n then
        return { s with
          workers :=
            if e.outcome = .running then s.workers.put { w with copy := e.details, phase := .looked n }
            else s.without worker }
      else none
    | _ => none
  | .progress worker figures => do
    let w ← s.workers.get worker
    match w.phase with
    | .looked n => do
      let stage ← w.kind.texts.progress[n]?
      let details := progressDetails s stage figures w
      return { s with
        events := s.events.alter w.event (saveDetails details) (saveDetails_pk _)
        workers := s.workers.put { w with copy := details, phase := .running (n + 1) } }
    | _ => none
  | .finish worker result => do
    let w ← s.workers.get worker
    let e ← ending w.kind w.phase result
    return { s with
      events := s.events.alter w.event (save e.outcome (finishDetails s e w)) (save_pk _ _)
      workers := s.without worker }
  | .reap event broker =>
    some { s with events := s.events.alter event (interrupted broker s.clock) (interrupted_pk _ _) }

/-- A step, and the time that passes with it. -/
def refreshStep (l : RefreshAction) : Option RefreshSystem :=
  (refreshAct s l).map fun s' => { s' with clock := s.clock + 1 }

end

/-! ## Saves in turn -/

/-- The event a step saves from a copy, without reading the row under a lock. -/
def savedEvent (s : RefreshSystem) : RefreshAction → Option Nat
  | .enqueueFails event _ | .note event => some event
  | .giveUp worker _ | .progress worker _ | .finish worker _ => (s.workers.get worker).map (·.event)
  | .queue .. | .send .. | .deliver .. | .start .. | .look .. | .reap .. => none

/-- A save from a copy finds the row still queued or running. -/
def SavesInTurn (s : RefreshSystem) (l : RefreshAction) (_ : RefreshSystem) : Prop :=
  ((savedEvent s l).all fun pk => (s.events.get pk).all (·.outcome.active)) = true

instance (s : RefreshSystem) (l : RefreshAction) (s' : RefreshSystem) : Decidable (SavesInTurn s l s') :=
  inferInstanceAs (Decidable (_ = true))

/-- A row is finished exactly when it is terminal, and then at a time that has passed. -/
def RefreshEvent.Timed (clock : Nat) (e : RefreshEvent) : Prop :=
  (e.outcome.active = true ∧ e.details.finishedAt = none) ∨
    (e.outcome.active = false ∧ ∃ t < clock, e.details.finishedAt = some t)

/-- What holds as long as the saves are in turn. -/
structure RefreshSystem.Inv (s : RefreshSystem) : Prop where
  events : s.events.All (RefreshEvent.Timed s.clock)
  enqueuers : s.enqueuers.All fun q => q.details.finishedAt = none
  workers : s.workers.All fun w => w.copy.finishedAt = none

theorem RefreshEvent.Timed.later {clock clock' : Nat} {e : RefreshEvent} (h : e.Timed clock) (hc : clock ≤ clock') :
    e.Timed clock' := by
  rcases h with h | ⟨ho, t, ht, hf⟩
  · exact .inl h
  · exact .inr ⟨ho, t, by omega, hf⟩

theorem RefreshEvent.Timed.active {clock : Nat} {e : RefreshEvent} (h : e.Timed clock) (ha : e.outcome.active = true) :
    e.details.finishedAt = none := by
  rcases h with h | ⟨ho, -⟩
  · exact h.2
  · rw [ho] at ha
    cases ha

/-- A save from a copy either keeps the outcome and leaves the row unfinished, or
finishes it now. -/
def Unchecked (clock : Nat) (f : RefreshEvent → RefreshEvent) : Prop :=
  (∀ e, (f e).outcome = e.outcome ∧ (f e).details.finishedAt = none) ∨
    ∀ e, (f e).outcome.active = false ∧ (f e).details.finishedAt = some clock

/-- What a step does to the events. -/
inductive RefreshEffect (s : RefreshSystem) (l : RefreshAction) (events : Table RefreshEvent.pk) : Prop
  | quiet (hnone : savedEvent s l = none) (h : events = s.events)
  | created (hnone : savedEvent s l = none) (e : RefreshEvent) (hfresh : s.events.get e.pk = none)
      (h : events = s.events.put e) (ho : e.outcome = .queued) (hf : e.details.finishedAt = none)
  /-- The row is read under its lock, and one that is terminal is left. -/
  | guarded (hnone : savedEvent s l = none) (pk : Nat) (f : RefreshEvent → RefreshEvent) (hf : ∀ e, (f e).pk = e.pk)
      (h : events = s.events.alter pk f hf) (hclosed : ∀ e, e.outcome.active = false → f e = e)
      (htimed : ∀ e, e.Timed s.clock → (f e).Timed (s.clock + 1))
  | saved (pk : Nat) (f : RefreshEvent → RefreshEvent) (hf : ∀ e, (f e).pk = e.pk) (hsaved : savedEvent s l = some pk)
      (h : events = s.events.alter pk f hf) (hunchecked : Unchecked s.clock f)

theorem ending_terminal {kind : RefreshKind} {phase : RefreshPhase} {result : RefreshResult} {e : Ending}
    (h : ending kind phase result = some e) : e.outcome.active = false := by
  have hcompleted : ∀ complete figures, (completed complete figures).outcome.active = false := by
    intro complete figures
    cases complete <;> rfl
  have htag : ∀ r, (tagEnding r).outcome.active = false := by
    intro r
    simp only [tagEnding]
    split_ifs <;> rfl
  unfold ending at h
  split at h
  · cases h
    rfl
  · cases h
    rfl
  · cases h
    rfl
  · cases h
    rfl
  · cases h
    rfl
  · cases h
    exact htag _
  · split at h
    · cases h
    · cases h
      exact hcompleted _ _
  · cases h
    exact hcompleted _ _
  · cases h
    exact hcompleted _ _
  · cases h

theorem promoted_closed (now : Nat) (e : RefreshEvent) (h : e.outcome.active = false) : promoted now e = e := by
  have hne : e.outcome ≠ .queued := by
    intro hq
    simp [hq, Outcome.active] at h
  simp [promoted, hne]

theorem promoted_timed {clock : Nat} {e : RefreshEvent} (h : e.Timed clock) (now : Nat) :
    (promoted now e).Timed (clock + 1) := by
  unfold promoted
  split
  · rename_i hq
    exact .inl ⟨rfl, h.active (by simp [hq, Outcome.active])⟩
  · exact h.later (Nat.le_succ clock)

theorem interrupted_closed (broker : Broker) (now : Nat) (e : RefreshEvent) (h : e.outcome.active = false) :
    interrupted broker now e = e := by
  simp [interrupted, h]

theorem interrupted_timed {clock : Nat} {e : RefreshEvent} (h : e.Timed clock) (broker : Broker) :
    (interrupted broker clock e).Timed (clock + 1) := by
  unfold interrupted
  split
  · exact .inr ⟨rfl, clock, Nat.lt_succ_self clock, rfl⟩
  · exact h.later (Nat.le_succ clock)

theorem refreshAct_effect {s s' : RefreshSystem} {l : RefreshAction} (hs : s.Inv) (h : refreshAct s l = some s') :
    RefreshEffect s l s'.events ∧ (s'.enqueuers.All fun q => q.details.finishedAt = none) ∧
      s'.workers.All fun w => w.copy.finishedAt = none := by
  cases l with
  | queue kind pk clusterKey figures =>
    simp only [refreshAct] at h
    split at h
    · cases h
    · rename_i hfree
      cases h
      simp only [Bool.or_eq_true, not_or, Option.not_isSome_iff_eq_none] at hfree
      exact ⟨.created rfl _ hfree.2 rfl rfl rfl, hs.enqueuers.put rfl, hs.workers⟩
  | send event taskId =>
    simp only [refreshAct, Option.bind_eq_bind, Option.bind_eq_some_iff] at h
    obtain ⟨q, hq, h⟩ := h
    split at h
    · cases h
    · cases h
      exact ⟨.quiet rfl rfl, hs.enqueuers.put (hs.enqueuers event q hq), hs.workers⟩
  | enqueueFails event errorType =>
    simp only [refreshAct, Option.bind_eq_bind, Option.bind_eq_some_iff] at h
    obtain ⟨q, hq, e, -, h⟩ := h
    split at h
    · cases h
    · cases h
      exact ⟨.saved event _ (save_pk _ _) rfl rfl (.inr fun _ => ⟨rfl, rfl⟩), hs.enqueuers.keep _, hs.workers⟩
  | note event =>
    simp only [refreshAct, Option.bind_eq_bind, Option.bind_eq_some_iff] at h
    obtain ⟨q, hq, taskId, -, h⟩ := h
    cases h
    exact ⟨.saved event _ (saveDetails_pk _) rfl rfl (.inl fun _ => ⟨rfl, hs.enqueuers event q hq⟩),
      hs.enqueuers.keep _, hs.workers⟩
  | deliver worker event =>
    simp only [refreshAct, Option.bind_eq_bind, Option.bind_eq_some_iff] at h
    obtain ⟨e, he, h⟩ := h
    split at h
    · rename_i hc
      cases h
      simp only [Bool.and_eq_true, beq_iff_eq] at hc
      refine ⟨.quiet rfl rfl, hs.enqueuers, hs.workers.put ?_⟩
      exact (hs.events event e he).active (by simp [hc.2, Outcome.active])
    · cases h
  | giveUp worker blocked =>
    simp only [refreshAct, Option.bind_eq_bind, Option.bind_eq_some_iff] at h
    obtain ⟨w, hw, h⟩ := h
    split at h
    · cases h
      exact ⟨.saved w.event _ (save_pk _ _) (by simp [savedEvent, hw]) rfl (.inr fun _ => ⟨rfl, rfl⟩), hs.enqueuers,
        hs.workers.keep _⟩
    · cases h
  | start worker =>
    simp only [refreshAct, Option.bind_eq_bind, Option.bind_eq_some_iff] at h
    obtain ⟨w, hw, e, he, h⟩ := h
    split at h
    · cases h
      refine ⟨.guarded rfl w.event _ (promoted_pk _) rfl (promoted_closed _) fun x hx => promoted_timed hx _,
        hs.enqueuers, ?_⟩
      dsimp only
      split
      · rename_i hq
        have hactive : e.outcome.active = true := by simp [hq, Outcome.active]
        have hnone := (hs.events w.event e he).active hactive
        refine hs.workers.put ?_
        simp [promoted, hq, hnone]
      · exact hs.workers.keep _
    · cases h
  | look worker =>
    simp only [refreshAct, Option.bind_eq_bind, Option.bind_eq_some_iff] at h
    obtain ⟨w, hw, e, he, h⟩ := h
    split at h
    · split at h
      · cases h
        refine ⟨.quiet rfl rfl, hs.enqueuers, ?_⟩
        dsimp only
        split
        · rename_i hr
          exact hs.workers.put ((hs.events w.event e he).active (by simp [hr, Outcome.active]))
        · exact hs.workers.keep _
      · cases h
    · cases h
  | progress worker figures =>
    simp only [refreshAct, Option.bind_eq_bind, Option.bind_eq_some_iff] at h
    obtain ⟨w, hw, h⟩ := h
    split at h
    · simp only [Option.bind_eq_some_iff] at h
      obtain ⟨stage, -, h⟩ := h
      cases h
      have hnone := hs.workers worker w hw
      exact ⟨.saved w.event _ (saveDetails_pk _) (by simp [savedEvent, hw]) rfl (.inl fun _ => ⟨rfl, hnone⟩),
        hs.enqueuers, hs.workers.put hnone⟩
    · cases h
  | finish worker result =>
    simp only [refreshAct, Option.bind_eq_bind, Option.bind_eq_some_iff] at h
    obtain ⟨w, hw, e, he, h⟩ := h
    cases h
    exact ⟨.saved w.event _ (save_pk _ _) (by simp [savedEvent, hw]) rfl (.inr fun _ => ⟨ending_terminal he, rfl⟩),
      hs.enqueuers, hs.workers.keep _⟩
  | reap event broker =>
    cases h
    exact ⟨.guarded rfl event _ (interrupted_pk _ _) rfl (interrupted_closed _ _) fun x hx => interrupted_timed hx _,
      hs.enqueuers, hs.workers⟩

/-! ## A finished row -/

section
variable {s s' : RefreshSystem} {l : RefreshAction}

theorem refreshStep_iff : refreshStep s l = some s' ↔ ∃ s₁, refreshAct s l = some s₁ ∧ { s₁ with clock := s.clock + 1 } = s' := by
  simp [refreshStep]

theorem savesInTurn_of_none {t : RefreshSystem} (h : savedEvent s l = none) : SavesInTurn s l t := by
  simp [SavesInTurn, h]

theorem savesInTurn_of_some {t : RefreshSystem} {pk : Nat} (h : savedEvent s l = some pk) :
    SavesInTurn s l t ↔ ∀ e, s.events.get pk = some e → e.outcome.active = true := by
  simp [SavesInTurn, h, Option.all_eq_true]

/-- Rows stay, and a step in turn leaves the closing of a terminal one. -/
theorem refreshStep_row (hs : s.Inv) (h : refreshStep s l = some s') (hturn : SavesInTurn s l s') {pk : Nat}
    {e : RefreshEvent} (he : s.events.get pk = some e) :
    ∃ e', s'.events.get pk = some e' ∧ (e.outcome.active = false → e' = e) := by
  obtain ⟨s₁, hact, rfl⟩ := refreshStep_iff.mp h
  obtain ⟨heff, -, -⟩ := refreshAct_effect hs hact
  cases heff with
  | quiet hnone h => exact ⟨e, by rw [h, he], fun _ => rfl⟩
  | created hnone x hfresh h =>
    have hne : pk ≠ x.pk := by
      intro hpk
      rw [hpk, hfresh] at he
      cases he
    exact ⟨e, by rw [h, Table.get_put, if_neg hne, he], fun _ => rfl⟩
  | guarded hnone k f hf h hclosed htimed =>
    rw [h, Table.get_alter, he]
    split
    · exact ⟨f e, rfl, hclosed e⟩
    · exact ⟨e, rfl, fun _ => rfl⟩
  | saved k f hf hsaved h hunchecked =>
    rw [h, Table.get_alter, he]
    split
    · rename_i hk
      refine ⟨f e, rfl, fun hclosed => ?_⟩
      have hactive := (savesInTurn_of_some hsaved).mp hturn e (hk ▸ he)
      rw [hclosed] at hactive
      cases hactive
    · exact ⟨e, rfl, fun _ => rfl⟩

theorem refreshStep_stays (h : refreshStep s l = some s') (hs : s.Inv) {pk : Nat}
    (he : (s.events.get pk).isSome = true) : (s'.events.get pk).isSome = true := by
  obtain ⟨s₁, hact, rfl⟩ := refreshStep_iff.mp h
  obtain ⟨heff, -, -⟩ := refreshAct_effect hs hact
  cases heff with
  | quiet hnone h => simpa [h] using he
  | created hnone x hfresh h =>
    rw [h, Table.get_put]
    split
    · rfl
    · exact he
  | guarded hnone k f hf h hclosed htimed =>
    rw [h, Table.get_alter]
    split
    · simpa using he
    · exact he
  | saved k f hf hsaved h hunchecked =>
    rw [h, Table.get_alter]
    split
    · simpa using he
    · exact he

/-- **One step in turn** keeps the invariant. -/
theorem refreshStep_inv (hs : s.Inv) (h : refreshStep s l = some s') (hturn : SavesInTurn s l s') : s'.Inv := by
  obtain ⟨s₁, hact, rfl⟩ := refreshStep_iff.mp h
  obtain ⟨heff, hq, hw⟩ := refreshAct_effect hs hact
  refine ⟨?_, hq, hw⟩
  have hlater : s.events.All (RefreshEvent.Timed (s.clock + 1)) := fun pk e he =>
    (hs.events pk e he).later (Nat.le_succ s.clock)
  dsimp only
  cases heff with
  | quiet hnone h =>
    rw [h]
    exact hlater
  | created hnone e hfresh h ho hf =>
    rw [h]
    exact hlater.put (.inl ⟨by simp [ho, Outcome.active], hf⟩)
  | guarded hnone k f hf h hclosed htimed =>
    rw [h]
    exact hs.events.alter (fun e _ he => htimed e he) fun e _ he => he.later (Nat.le_succ s.clock)
  | saved k f hf hsaved h hunchecked =>
    rw [h]
    intro pk x hx
    rw [Table.get_alter] at hx
    split at hx
    · rename_i hk
      obtain ⟨e, he, rfl⟩ := Option.map_eq_some_iff.mp hx
      rcases hunchecked with hdetails | hfinal
      · obtain ⟨ho, hf⟩ := hdetails e
        refine .inl ⟨?_, hf⟩
        rw [ho]
        exact (savesInTurn_of_some hsaved).mp hturn e (hk ▸ he)
      · obtain ⟨ho, hf⟩ := hfinal e
        exact .inr ⟨ho, s.clock, Nat.lt_succ_self _, hf⟩
    · exact hlater pk x hx

/-- A save that leaves every terminal row's closing was in turn: it writes another
time of finishing, or none. -/
theorem refreshStep_needs (hs : s.Inv) (h : refreshStep s l = some s')
    (hkeep : ∀ pk e e', s.events.get pk = some e → e.outcome.active = false → s'.events.get pk = some e' →
      e'.closing = e.closing) : SavesInTurn s l s' := by
  obtain ⟨s₁, hact, rfl⟩ := refreshStep_iff.mp h
  obtain ⟨heff, -, -⟩ := refreshAct_effect hs hact
  cases heff with
  | quiet hnone | created hnone | guarded hnone => exact savesInTurn_of_none hnone
  | saved k f hf hsaved h hunchecked =>
    rw [savesInTurn_of_some hsaved]
    intro e he
    by_contra hclosed
    rw [Bool.not_eq_true] at hclosed
    have hsame := hkeep k e (f e) he hclosed (by rw [h]; simp [he])
    simp only [RefreshEvent.closing, Prod.mk.injEq] at hsame
    rcases hs.events k e he with ⟨ha, -⟩ | ⟨-, t, ht, hfin⟩
    · rw [ha] at hclosed
      cases hclosed
    · rcases hunchecked with hdetails | hfinal
      · rw [(hdetails e).2, hfin] at hsame
        simp at hsame
      · rw [(hfinal e).2, hfin] at hsame
        simp only [Option.some.injEq] at hsame
        omega

end

/-- No operation recorded yet. -/
def RefreshSystem.Idle (s : RefreshSystem) : Prop :=
  s.events = .empty ∧ s.enqueuers = .empty ∧ s.workers = .empty ∧ s.sent = []

theorem RefreshSystem.Idle.inv {s : RefreshSystem} (h : s.Idle) : s.Inv := by
  obtain ⟨he, hq, hw, -⟩ := h
  refine ⟨fun k x hx => ?_, fun k x hx => ?_, fun k x hx => ?_⟩
  · simp [he] at hx
  · simp [hq] at hx
  · simp [hw] at hx

/-- What the claimant of a row sees: its outcome, final stage and time of finishing. -/
def closings (s : RefreshSystem) (pk : Nat) : Option (Outcome × String × Option Nat) :=
  (s.events.get pk).map (·.closing)

/-- **A terminal outcome, its stage and its time stay, throughout a run, exactly when
every save from a copy finds the row still queued or running.** -/
theorem refresh_record_stays_iff {s₀ : RefreshSystem} (h₀ : s₀.Idle) (ls : List RefreshAction) :
    Absorbing refreshStep closings (fun v => v.1.active = false) s₀ ls ↔ Along refreshStep SavesInTurn s₀ ls := by
  refine absorbing_iff_along_inv (J := RefreshSystem.Inv) (fun pk s => (s.events.get pk).isSome = true)
    refreshStep_inv ?_ (fun hi he hst => refreshStep_stays hst hi he) ?_ ?_ h₀.inv
  · intro s pk v _ hv
    obtain ⟨e, he, -⟩ := Option.map_eq_some_iff.mp hv
    simp [he]
  · intro s l s' pk v v' hi hst hturn hspent hold hclosed hv'
    obtain ⟨e, he⟩ := Option.isSome_iff_exists.mp hspent
    obtain ⟨e', he', hsame⟩ := refreshStep_row hi hst hturn he
    have hv : e.closing = v := hold _ (by simp [closings, he])
    subst hv
    rw [closings, he'] at hv'
    rw [hsame hclosed] at hv'
    exact (Option.some.inj hv').symm
  · intro s l s' hi hst hkeep
    refine refreshStep_needs hi hst fun pk e e' he hclosed he' => ?_
    exact hkeep pk e.closing e'.closing (by simp [closings, he]) hclosed (by simp [closings, he'])

/-- Nothing recorded, at time 1. -/
def noRefresh : RefreshSystem := ⟨1, .empty, .empty, .empty, []⟩

/-- A tag refresh from its record to its end, the task noted while it waits. -/
def orderlyRefresh : List RefreshAction :=
  [.queue .tagInventory 1 "lab" [], .send 1 "t", .note 1, .deliver 1 1, .start 1, .look 1,
    .progress 1 [("registry_count", .int 2)], .look 1, .reap 1 ⟨fun _ => none, fun _ => false⟩,
    .finish 1 (.tag ⟨2, "", true, ["pve1"], ["pve1"], [], "now"⟩)]

theorem orderly_refresh_stays :
    Absorbing refreshStep closings (fun v => v.1.active = false) noRefresh orderlyRefresh :=
  (refresh_record_stays_iff ⟨rfl, rfl, rfl, rfl⟩ orderlyRefresh).mpr (by decide +kernel)

/-- The worker is done before the queueing function has saved the task. -/
def fastWorker : List RefreshAction :=
  [.queue .storageCatalog 1 "lab" [], .send 1 "t", .deliver 1 1, .start 1, .finish 1 (.raised "unreachable")]

/-- The save after the enqueueing puts the finished row back at its first stage. -/
theorem finished_refresh_reads_queued : ¬ ∀ s₀ ls, RefreshSystem.Idle s₀ →
    Absorbing refreshStep closings (fun v => v.1.active = false) s₀ ls := by
  intro h
  have hstays := h noRefresh (fastWorker ++ [.note 1] ++ []) ⟨rfl, rfl, rfl, rfl⟩
  have := hstays fastWorker [.note 1] [] _ _ rfl rfl rfl 1 (.failed, "failed", some 5) (.failed, "queued", none) rfl rfl
    rfl
  simp at this

end PveHelper.Operations
