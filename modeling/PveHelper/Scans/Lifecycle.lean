/-
A scan's life, after `run_scan`, `_run_scan`, `reap_stale_bulk_tasks` of
`core/tasks.py` and `prune_scan_history`: any number of workers and reapers,
each committing one statement at a time. A worker saves named columns of its
in-memory copy, so every status it writes lands whatever is stored by then, and
so does the reaper's. The reaper's two passes, over running and over queued
scans, are two reapers here.

Progress texts, error details and summaries are left out: nothing decides on
them. The file rows ever created are kept beside those stored.
-/
import PveHelper.Lib.Trans
import PveHelper.Guests.Inventory

namespace PveHelper.Scans

open Lib Guests

/-- `ScanRun.Status`. -/
inductive ScanStatus
  | queued | running | completed | failed | cancelled
deriving DecidableEq, Repr

/-- Completed or failed. -/
def ScanStatus.ended : ScanStatus → Bool
  | .completed => true
  | .failed => true
  | _ => false

structure ScanRun where
  pk : Nat
  status : ScanStatus := .queued
  createdAt : Time
  startedAt : Option Time := none
  finishedAt : Option Time := none
  filesystemScanAt : Option Time := none
  target : Option Nat := none
  queuedTaskId : String := ""

/-- A `FileInventory` row, by its unique columns. -/
structure FileRow where
  scan : Nat
  storage : Nat
  path : String
deriving DecidableEq

/-- Where a worker stands in `run_scan`. -/
inductive Phase
  /-- The row is loaded. -/
  | loaded
  | running
  /-- The file rows are created. -/
  | written
  | completed
  /-- In `_current_file_inventory_pairs` of a prune begun at `now`: the storages still to ask, and the pairs so far. -/
  | selecting (now : Time) (todo : List Nat) (pairs : List (Nat × Nat))
  /-- Everything to keep is known. -/
  | selected (now : Time) (pairs : List (Nat × Nat)) (kept : List Nat)
  /-- The stale file rows are deleted. -/
  | pruned (now : Time) (kept : List Nat)
  /-- Only the purge's audit event is left. -/
  | purged
deriving DecidableEq

/-- One execution of `run_scan`, with the target its copy of the row has. -/
structure ScanWorker where
  id : Nat
  scan : Nat
  target : Option Nat
  phase : Phase

/-- One pass of the reaper, with the scans it has still to fail. -/
structure ScanReaper where
  id : Nat
  found : List Nat

structure ScanSys where
  scans : Table ScanRun.pk
  files : List FileRow
  created : List FileRow
  workers : Table ScanWorker.id
  reapers : Table ScanReaper.id
  nextPk : Nat
  /-- The enabled mounts, by id. -/
  mounts : List Nat

/-! ## What backs a storage -/

/-- `DESC NULLS LAST`. -/
def laterTime : Option Time → Option Time → Bool
  | some a, some b => decide (b < a)
  | some _, none => true
  | none, _ => false

/-- The order of `_latest_storage_result_scan`; rows equal in all three come by key. -/
def ScanRun.newer (a b : ScanRun) : Bool :=
  if a.filesystemScanAt ≠ b.filesystemScanAt then laterTime a.filesystemScanAt b.filesystemScanAt
  else if a.finishedAt ≠ b.finishedAt then laterTime a.finishedAt b.finishedAt
  else if a.createdAt ≠ b.createdAt then decide (b.createdAt < a.createdAt)
  else decide (a.pk < b.pk)

/-- A completed scan of the storage, or of all. -/
def ScanRun.backs (storage : Nat) (r : ScanRun) : Bool :=
  decide (r.status = .completed) && (decide (r.target = some storage) || decide (r.target = none))

/-- `_latest_storage_result_scan`. -/
def latestStorageResultScan (scans : Table ScanRun.pk) (storage : Nat) : Option ScanRun :=
  (scans.rows.filter (·.backs storage)).find? fun r =>
    (scans.rows.filter (·.backs storage)).all fun r' => decide (r'.pk = r.pk) || r.newer r'

/-- What a prune keeps for one storage: a pair of scan and storage, if a scan backs it. -/
def currentPair (scans : Table ScanRun.pk) (storage : Nat) : List (Nat × Nat) :=
  ((latestStorageResultScan scans storage).map fun r => (r.pk, storage)).toList

/-! ## Steps -/

inductive ScanAct
  | enqueue (target : Option Nat) (now : Time)
  /-- The enqueuer stores the task's id. -/
  | noteTask (scan : Nat) (taskId : String)
  | deliver (worker scan : Nat)
  | start (worker : Nat) (now : Time)
  | progress (worker : Nat)
  /-- `bulk_create`, by storage and path. -/
  | write (worker : Nat) (rows : List (Nat × String))
  | complete (worker : Nat) (filesystemAt finishedAt : Time)
  /-- An exception, wherever it is raised. -/
  | fail (worker : Nat) (now : Time)
  | prune (worker : Nat) (now : Time)
  | selectStorage (worker : Nat)
  /-- The scans that back a cluster's inventory are kept too. -/
  | selectInventory (worker : Nat) (scans : List Nat)
  | deleteFiles (worker : Nat)
  | deleteScans (worker : Nat)
  | finish (worker : Nat)
  | reapRunning (reaper : Nat) (cutoff : Time)
  /-- `broker` are the tasks still queued. -/
  | reapQueued (reaper : Nat) (cutoff : Time) (broker : List String)
  | reapSave (reaper : Nat) (now : Time)

/-- The scan's row is in the database. -/
def ScanSys.Stored (s : ScanSys) (pk : Nat) : Prop := (s.scans.get pk).isSome = true

instance (s : ScanSys) (pk : Nat) : Decidable (s.Stored pk) := inferInstanceAs (Decidable (_ = _))

/-- The worker moves on. -/
def ScanSys.advance (s : ScanSys) (w : ScanWorker) (phase : Phase) : ScanSys :=
  { s with workers := s.workers.put { w with phase := phase } }

/-- The named columns of one scan saved. -/
def ScanSys.saveScan (s : ScanSys) (pk : Nat) (f : ScanRun → ScanRun) (hf : ∀ r, (f r).pk = r.pk) : ScanSys :=
  { s with scans := s.scans.alter pk f hf }

def startedRun (now : Time) (r : ScanRun) : ScanRun := { r with status := .running, startedAt := some now }

def completedRun (filesystemAt finishedAt : Time) (r : ScanRun) : ScanRun :=
  { r with status := .completed, finishedAt := some finishedAt, filesystemScanAt := some filesystemAt }

theorem completedRun_pk (filesystemAt finishedAt : Time) (r : ScanRun) :
    (completedRun filesystemAt finishedAt r).pk = r.pk := rfl

def failedRun (now : Time) (r : ScanRun) : ScanRun := { r with status := .failed, finishedAt := some now }

/-- `SCAN_METADATA_RETENTION_DAYS` before a prune. -/
def retentionCutoff (now : Time) : Time := now - 7 * 86400

/-- Retention drops the scan's row. -/
def ScanRun.expired (kept : List Nat) (cutoff : Time) (r : ScanRun) : Bool :=
  (decide (r.status = .completed) || decide (r.status = .failed) || decide (r.status = .cancelled)) &&
    (match r.finishedAt with
      | some t => decide (t < cutoff)
      | none => decide (r.createdAt < cutoff)) && !kept.contains r.pk

/-- One statement of one party; nothing when it is not that party's turn for it. -/
def scanAct (s : ScanSys) : ScanAct → Option ScanSys
  | .enqueue target now =>
    some { s with scans := s.scans.put { pk := s.nextPk, createdAt := now, target := target }, nextPk := s.nextPk + 1 }
  | .noteTask pk taskId => some (s.saveScan pk (fun r => { r with queuedTaskId := taskId }) fun _ => rfl)
  | .deliver w pk => (s.scans.get pk).bind fun r =>
      if (s.workers.get w).isSome then none
      else some { s with workers := s.workers.put ⟨w, pk, r.target, .loaded⟩ }
  -- A save of a row that is gone raises, so that only `fail` is left.
  | .start w now => (s.workers.get w).bind fun x =>
      if x.phase = .loaded ∧ s.Stored x.scan then
        some ((s.saveScan x.scan (startedRun now) fun _ => rfl).advance x .running)
      else none
  | .progress w => (s.workers.get w).bind fun x =>
      if x.phase = .running ∧ s.Stored x.scan then some s else none
  | .write w rows => (s.workers.get w).bind fun x =>
      let files := rows.map fun r => (⟨x.scan, r.1, r.2⟩ : FileRow)
      -- Only enabled mounts are walked, of a targeted scan only the target.
      if x.phase = .running ∧ s.Stored x.scan ∧ files.Nodup ∧ (∀ f ∈ files, f ∉ s.files) ∧
          (∀ f ∈ files, f.storage ∈ s.mounts ∧ (x.target = none ∨ x.target = some f.storage)) then
        some (({ s with files := s.files ++ files, created := s.created ++ files } : ScanSys).advance x .written)
      else none
  | .complete w filesystemAt finishedAt => (s.workers.get w).bind fun x =>
      if x.phase = .written ∧ s.Stored x.scan then
        some ((s.saveScan x.scan (completedRun filesystemAt finishedAt) fun _ => rfl).advance x .completed)
      else none
  | .fail w now => (s.workers.get w).bind fun x =>
      some { s.saveScan x.scan (failedRun now) (fun _ => rfl) with workers := s.workers.keep fun y => decide (y.id ≠ w) }
  | .prune w now => (s.workers.get w).bind fun x =>
      if x.phase = .completed then some (s.advance x (.selecting now s.mounts [])) else none
  | .selectStorage w => (s.workers.get w).bind fun x => match x.phase with
      | .selecting now (storage :: todo) pairs =>
        some (s.advance x (.selecting now todo (pairs ++ currentPair s.scans storage)))
      | _ => none
  | .selectInventory w scans => (s.workers.get w).bind fun x => match x.phase with
      | .selecting now [] pairs => some (s.advance x (.selected now pairs (pairs.map (·.1) ++ scans)))
      | _ => none
  | .deleteFiles w => (s.workers.get w).bind fun x => match x.phase with
      | .selected now pairs kept =>
        let files := s.files.filter fun f => pairs.contains (f.scan, f.storage)
        some (({ s with files := files } : ScanSys).advance x (.pruned now kept))
      | _ => none
  | .deleteScans w => (s.workers.get w).bind fun x => match x.phase with
      | .pruned now kept =>
        -- The file rows of a deleted scan go with it.
        some { s with
          scans := s.scans.keep fun r => !r.expired kept (retentionCutoff now)
          files := s.files.filter fun f => !(s.scans.get f.scan).any (·.expired kept (retentionCutoff now))
          workers := s.workers.put { x with phase := .purged } }
      | _ => none
  | .finish w => (s.workers.get w).bind fun x =>
      if x.phase = .purged then some { s with workers := s.workers.keep fun y => decide (y.id ≠ w) } else none
  | .reapRunning r cutoff =>
    if (s.reapers.get r).isSome then none
    else
      let stale := s.scans.rows.filter fun x => decide (x.status = .running) && x.startedAt.any fun t => decide (t < cutoff)
      some { s with reapers := s.reapers.put ⟨r, stale.map (·.pk)⟩ }
  | .reapQueued r cutoff broker =>
    if (s.reapers.get r).isSome then none
    else
      let stranded := s.scans.rows.filter fun x => decide (x.status = .queued) && decide (x.createdAt < cutoff)
      let lost := stranded.filter fun x => !(x.queuedTaskId != "" && broker.contains x.queuedTaskId)
      some { s with reapers := s.reapers.put ⟨r, lost.map (·.pk)⟩ }
  | .reapSave r now => (s.reapers.get r).bind fun x => match x.found with
      | pk :: found =>
        if s.Stored pk then
          some { s.saveScan pk (failedRun now) (fun _ => rfl) with reapers := s.reapers.put ⟨r, found⟩ }
        else none
      | [] => none

/-- No scan yet. -/
structure Idle (s : ScanSys) : Prop where
  scans : s.scans.rows = []
  created : s.created = []
  workers : s.workers.rows = []
  reapers : s.reapers.rows = []

/-! ## What a step does -/

/-- The scan a worker is on. -/
def ScanSys.workerScan (s : ScanSys) (w : Nat) : Option Nat := (s.workers.get w).map (·.scan)

/-- The scan a reaper fails next. -/
def ScanSys.reaperScan (s : ScanSys) (r : Nat) : Option Nat := (s.reapers.get r).bind (·.found.head?)

/-- The scan a step is about to save a status on, and the status; no stored one is looked at. -/
def statusWrite (s : ScanSys) : ScanAct → Option (Nat × ScanStatus)
  | .start w _ => (s.workerScan w).map (·, .running)
  | .complete w _ _ => (s.workerScan w).map (·, .completed)
  | .fail w _ => (s.workerScan w).map (·, .failed)
  | .reapSave r _ => (s.reaperScan r).map (·, .failed)
  | _ => none

/-- The ways one statement changes the system, with what it found. -/
inductive Effect (s : ScanSys) : ScanAct → ScanSys → Prop
  | kept (hq : statusWrite s a = none) : Effect s a s
  | enqueued : Effect s (.enqueue target now) { s with
      scans := s.scans.put { pk := s.nextPk, createdAt := now, target := target }
      nextPk := s.nextPk + 1 }
  | noted : Effect s (.noteTask pk taskId) (s.saveScan pk (fun r => { r with queuedTaskId := taskId }) fun _ => rfl)
  | delivered (hr : s.scans.get pk = some r) (hw : s.workers.get w = none) :
      Effect s (.deliver w pk) { s with workers := s.workers.put ⟨w, pk, r.target, .loaded⟩ }
  | started (hw : s.workers.get w = some x) (hp : x.phase = .loaded) (hr : s.Stored x.scan) :
      Effect s (.start w now) ((s.saveScan x.scan (startedRun now) fun _ => rfl).advance x .running)
  | wrote (hw : s.workers.get w = some x) (hp : x.phase = .running) (hr : s.Stored x.scan)
      (hf : ∀ f ∈ files, (f.storage, f.path) ∈ rows ∧ f.scan = x.scan ∧ f.storage ∈ s.mounts ∧
        (x.target = none ∨ x.target = some f.storage)) :
      Effect s (.write w rows)
        (({ s with files := s.files ++ files, created := s.created ++ files } : ScanSys).advance x .written)
  | completed (hw : s.workers.get w = some x) (hp : x.phase = .written) (hr : s.Stored x.scan) :
      Effect s (.complete w filesystemAt finishedAt)
        ((s.saveScan x.scan (completedRun filesystemAt finishedAt) fun _ => rfl).advance x .completed)
  | failed (hw : s.workers.get w = some x) :
      Effect s (.fail w now)
        { s.saveScan x.scan (failedRun now) (fun _ => rfl) with workers := s.workers.keep fun y => decide (y.id ≠ w) }
  | pruning (hw : s.workers.get w = some x) (hp : x.phase = .completed) :
      Effect s (.prune w now) (s.advance x (.selecting now s.mounts []))
  | asked (hw : s.workers.get w = some x) (hp : x.phase = .selecting now (storage :: todo) pairs) :
      Effect s (.selectStorage w) (s.advance x (.selecting now todo (pairs ++ currentPair s.scans storage)))
  | selected (hw : s.workers.get w = some x) (hp : x.phase = .selecting now [] pairs) :
      Effect s (.selectInventory w scans) (s.advance x (.selected now pairs (pairs.map (·.1) ++ scans)))
  | filesDeleted (hw : s.workers.get w = some x) (hp : x.phase = .selected now pairs kept) :
      Effect s (.deleteFiles w) (({ s with
        files := s.files.filter fun f => pairs.contains (f.scan, f.storage) } : ScanSys).advance x (.pruned now kept))
  | scansDeleted (hw : s.workers.get w = some x) (hp : x.phase = .pruned now kept) :
      Effect s (.deleteScans w) { s with
        scans := s.scans.keep fun r => !r.expired kept (retentionCutoff now)
        files := s.files.filter fun f => !(s.scans.get f.scan).any (·.expired kept (retentionCutoff now))
        workers := s.workers.put { x with phase := .purged } }
  | finished (hw : s.workers.get w = some x) (hp : x.phase = .purged) :
      Effect s (.finish w) { s with workers := s.workers.keep fun y => decide (y.id ≠ w) }
  | reaping (reapers : Table ScanReaper.id) (hq : statusWrite s a = none) : Effect s a { s with reapers := reapers }
  | reaped (hr : s.reapers.get r = some x) (hf : x.found = pk :: found) (hs : s.Stored pk) :
      Effect s (.reapSave r now)
        { s.saveScan pk (failedRun now) (fun _ => rfl) with reapers := s.reapers.put ⟨r, found⟩ }

theorem scanAct_effect {s s' : ScanSys} {a : ScanAct} (h : scanAct s a = some s') : Effect s a s' := by
  cases a with
  | enqueue target now =>
    cases h
    exact .enqueued
  | noteTask pk taskId =>
    cases h
    exact .noted
  | deliver w pk =>
    obtain ⟨r, hr, h⟩ := Option.bind_eq_some_iff.mp h
    split at h
    · cases h
    · rename_i hw
      cases h
      exact .delivered hr (by simpa using hw)
  | start w now =>
    obtain ⟨x, hw, h⟩ := Option.bind_eq_some_iff.mp h
    obtain ⟨⟨hp, hr⟩, h⟩ := Option.ite_none_right_eq_some.mp h
    cases h
    exact .started hw hp hr
  | progress w =>
    obtain ⟨x, hw, h⟩ := Option.bind_eq_some_iff.mp h
    obtain ⟨-, h⟩ := Option.ite_none_right_eq_some.mp h
    cases h
    exact .kept rfl
  | write w rows =>
    obtain ⟨x, hw, h⟩ := Option.bind_eq_some_iff.mp h
    obtain ⟨⟨hp, hr, -, -, hmount⟩, h⟩ := Option.ite_none_right_eq_some.mp h
    cases h
    refine .wrote hw hp hr ?_
    intro f hf
    obtain ⟨row, hrow, rfl⟩ := List.mem_map.mp hf
    exact ⟨hrow, rfl, hmount _ hf⟩
  | complete w filesystemAt finishedAt =>
    obtain ⟨x, hw, h⟩ := Option.bind_eq_some_iff.mp h
    obtain ⟨⟨hp, hr⟩, h⟩ := Option.ite_none_right_eq_some.mp h
    cases h
    exact .completed hw hp hr
  | fail w now =>
    obtain ⟨x, hw, h⟩ := Option.bind_eq_some_iff.mp h
    cases h
    exact .failed hw
  | prune w now =>
    obtain ⟨x, hw, h⟩ := Option.bind_eq_some_iff.mp h
    obtain ⟨hp, h⟩ := Option.ite_none_right_eq_some.mp h
    cases h
    exact .pruning hw hp
  | selectStorage w =>
    obtain ⟨x, hw, h⟩ := Option.bind_eq_some_iff.mp h
    split at h
    · rename_i hp
      cases h
      exact .asked hw hp
    · cases h
  | selectInventory w scans =>
    obtain ⟨x, hw, h⟩ := Option.bind_eq_some_iff.mp h
    split at h
    · rename_i hp
      cases h
      exact .selected hw hp
    · cases h
  | deleteFiles w =>
    obtain ⟨x, hw, h⟩ := Option.bind_eq_some_iff.mp h
    split at h
    · rename_i hp
      cases h
      exact .filesDeleted hw hp
    · cases h
  | deleteScans w =>
    obtain ⟨x, hw, h⟩ := Option.bind_eq_some_iff.mp h
    split at h
    · rename_i hp
      cases h
      exact .scansDeleted hw hp
    · cases h
  | finish w =>
    obtain ⟨x, hw, h⟩ := Option.bind_eq_some_iff.mp h
    obtain ⟨hp, h⟩ := Option.ite_none_right_eq_some.mp h
    cases h
    exact .finished hw hp
  | reapRunning r cutoff =>
    simp only [scanAct] at h
    split at h
    · cases h
    · cases h
      exact .reaping _ rfl
  | reapQueued r cutoff broker =>
    simp only [scanAct] at h
    split at h
    · cases h
    · cases h
      exact .reaping _ rfl
  | reapSave r now =>
    obtain ⟨x, hr, h⟩ := Option.bind_eq_some_iff.mp h
    split at h
    · rename_i pk found hf
      obtain ⟨hs, h⟩ := Option.ite_none_right_eq_some.mp h
      cases h
      exact .reaped hr hf hs
    · cases h

/-! ## Statuses -/

/-- The status stored for a scan. -/
def statusOf (scans : Table ScanRun.pk) (pk : Nat) : Option ScanStatus := (scans.get pk).map (·.status)

theorem statusOf_alter {scans : Table ScanRun.pk} {pk k : Nat} {f : ScanRun → ScanRun} {hf : ∀ r, (f r).pk = r.pk} :
    statusOf (scans.alter pk f hf) k
      = if k = pk then (scans.get k).map fun r => (f r).status else statusOf scans k := by
  unfold statusOf
  rw [Table.get_alter]
  by_cases hk : k = pk
  · rw [if_pos hk, if_pos hk, Option.map_map]
    rfl
  · rw [if_neg hk, if_neg hk]

/-- After a save, the other scans show what they did, and the one saved the status saved. -/
theorem statusOf_saved {scans : Table ScanRun.pk} {pk k : Nat} {v st : ScanStatus} (f : ScanRun → ScanRun)
    (hf : ∀ r, (f r).pk = r.pk) (hst : ∀ r, (f r).status = st) (h : statusOf (scans.alter pk f hf) k = some v) :
    statusOf scans k = some v ∨ k = pk ∧ v = st ∧ ∃ u, statusOf scans k = some u := by
  rw [statusOf_alter] at h
  by_cases hk : k = pk
  · rw [if_pos hk] at h
    obtain ⟨r, hr, rfl⟩ := Option.map_eq_some_iff.mp h
    exact .inr ⟨hk, hst r, r.status, Option.map_eq_some_iff.mpr ⟨r, hr, rfl⟩⟩
  · rw [if_neg hk] at h
    exact .inl h

/-- A step that saves a status changes nothing else among the scans. -/
theorem scanAct_saves {s s' : ScanSys} {a : ScanAct} (h : scanAct s a = some s') {pk : Nat} {st : ScanStatus}
    (hw : statusWrite s a = some (pk, st)) :
    ∃ (f : ScanRun → ScanRun) (hf : ∀ r, (f r).pk = r.pk), (∀ r, (f r).status = st) ∧ s'.scans = s.scans.alter pk f hf := by
  cases scanAct_effect h with
  | kept hq | reaping _ hq =>
    rw [hq] at hw
    cases hw
  | enqueued | noted | delivered | wrote | pruning | asked | selected | filesDeleted | scansDeleted | finished => cases hw
  | @started _ _ now hx =>
    simp only [statusWrite, ScanSys.workerScan, hx, Option.map_some, Option.some.injEq, Prod.mk.injEq] at hw
    obtain ⟨rfl, rfl⟩ := hw
    exact ⟨startedRun now, fun _ => rfl, fun _ => rfl, rfl⟩
  | @completed _ _ filesystemAt finishedAt hx =>
    simp only [statusWrite, ScanSys.workerScan, hx, Option.map_some, Option.some.injEq, Prod.mk.injEq] at hw
    obtain ⟨rfl, rfl⟩ := hw
    exact ⟨completedRun filesystemAt finishedAt, fun _ => rfl, fun _ => rfl, rfl⟩
  | @failed _ _ now hx =>
    simp only [statusWrite, ScanSys.workerScan, hx, Option.map_some, Option.some.injEq, Prod.mk.injEq] at hw
    obtain ⟨rfl, rfl⟩ := hw
    exact ⟨failedRun now, fun _ => rfl, fun _ => rfl, rfl⟩
  | @reaped _ _ _ _ now hx hf =>
    simp only [statusWrite, ScanSys.reaperScan, hx, hf, Option.bind_some, List.head?_cons, Option.map_some,
      Option.some.injEq, Prod.mk.injEq] at hw
    obtain ⟨rfl, rfl⟩ := hw
    exact ⟨failedRun now, fun _ => rfl, fun _ => rfl, rfl⟩

/-- A step that saves none leaves the statuses, but for a new scan's and those of scans it drops. -/
theorem scanAct_plain {s s' : ScanSys} {a : ScanAct} (h : scanAct s a = some s') (hw : statusWrite s a = none) {k : Nat}
    {v : ScanStatus} (hv : statusOf s'.scans k = some v) :
    statusOf s.scans k = some v ∨ k = s.nextPk ∧ v = .queued ∧ s'.nextPk = s.nextPk + 1 := by
  cases scanAct_effect h with
  | kept | delivered | wrote | pruning | asked | selected | filesDeleted | finished | reaping => exact .inl hv
  | started hx | completed hx | failed hx => simp [statusWrite, ScanSys.workerScan, hx] at hw
  | reaped hx hf => simp [statusWrite, ScanSys.reaperScan, hx, hf] at hw
  | @enqueued target now =>
    unfold statusOf at hv
    rw [Table.get_put] at hv
    by_cases hk : k = s.nextPk
    · rw [if_pos hk, Option.map_some, Option.some.injEq] at hv
      exact .inr ⟨hk, hv.symm, rfl⟩
    · rw [if_neg hk] at hv
      exact .inl hv
  | @noted pk taskId =>
    rw [ScanSys.saveScan, statusOf_alter] at hv
    split at hv <;> exact .inl hv
  | scansDeleted =>
    refine .inl ?_
    unfold statusOf at hv ⊢
    rw [Table.get_keep] at hv
    obtain ⟨r, hr, rfl⟩ := Option.map_eq_some_iff.mp hv
    rw [(Option.filter_eq_some_iff.mp hr).1, Option.map_some]

/-- A status shown after a step was shown before it, or is the one the step
saves on a stored scan, or is a new scan's. -/
theorem scanAct_status {s s' : ScanSys} {a : ScanAct} (h : scanAct s a = some s') {k : Nat} {v : ScanStatus}
    (hv : statusOf s'.scans k = some v) :
    statusOf s.scans k = some v ∨ (statusWrite s a = some (k, v) ∧ ∃ u, statusOf s.scans k = some u) ∨
      k = s.nextPk ∧ v = .queued ∧ s'.nextPk = s.nextPk + 1 := by
  cases hw : statusWrite s a with
  | none => exact (scanAct_plain h hw hv).imp_right .inr
  | some w =>
    obtain ⟨pk, st⟩ := w
    obtain ⟨f, hf, hst, hscans⟩ := scanAct_saves h hw
    rw [hscans] at hv
    obtain hv | ⟨rfl, rfl, hu⟩ := statusOf_saved f hf hst hv
    · exact .inl hv
    · exact .inr (.inl ⟨rfl, hu⟩)

/-- Only a worker completes a scan, and it saves the times with the status. -/
theorem scanAct_completes {s s' : ScanSys} {a : ScanAct} (h : scanAct s a = some s') {pk : Nat}
    (hw : statusWrite s a = some (pk, .completed)) :
    ∃ w filesystemAt finishedAt, a = .complete w filesystemAt finishedAt ∧
      s'.scans = s.scans.alter pk (completedRun filesystemAt finishedAt) (completedRun_pk filesystemAt finishedAt) := by
  cases scanAct_effect h with
  | kept hq | reaping _ hq =>
    rw [hq] at hw
    cases hw
  | enqueued | noted | delivered | wrote | pruning | asked | selected | filesDeleted | scansDeleted | finished => cases hw
  | started hx | failed hx => simp [statusWrite, ScanSys.workerScan, hx] at hw
  | reaped hx hf => simp [statusWrite, ScanSys.reaperScan, hx, hf] at hw
  | completed hx =>
    simp only [statusWrite, ScanSys.workerScan, hx, Option.map_some, Option.some.injEq, Prod.mk.injEq] at hw
    obtain ⟨rfl, -⟩ := hw
    exact ⟨_, _, _, rfl, rfl⟩

/-- The status a step saves is the one shown next, whatever was stored. -/
theorem statusWrite_lands {s s' : ScanSys} {a : ScanAct} (h : scanAct s a = some s') {k : Nat} {st v : ScanStatus}
    (hw : statusWrite s a = some (k, st)) (hv : statusOf s.scans k = some v) : statusOf s'.scans k = some st := by
  obtain ⟨r, hr, -⟩ := Option.map_eq_some_iff.mp hv
  obtain ⟨f, hf, hst, hscans⟩ := scanAct_saves h hw
  rw [hscans, statusOf_alter, if_pos rfl, hr, Option.map_some, hst]

/-! ## Keys are handed out once -/

/-- Every stored scan has been counted. -/
def CountedScans (s : ScanSys) : Prop := ∀ pk v, statusOf s.scans pk = some v → pk < s.nextPk

theorem scanAct_nextPk {s s' : ScanSys} {a : ScanAct} (h : scanAct s a = some s') : s.nextPk ≤ s'.nextPk := by
  cases scanAct_effect h with
  | enqueued => exact Nat.le_succ _
  | kept | noted | delivered | started | wrote | completed | failed | pruning | asked | selected | filesDeleted
    | scansDeleted | finished | reaping | reaped => exact Nat.le_refl _

theorem scanAct_counted {s s' : ScanSys} {a : ScanAct} (hi : CountedScans s) (h : scanAct s a = some s') :
    CountedScans s' := by
  intro pk v hv
  obtain hv | ⟨-, u, hu⟩ | ⟨rfl, -, hnext⟩ := scanAct_status h hv
  · exact Nat.lt_of_lt_of_le (hi pk v hv) (scanAct_nextPk h)
  · exact Nat.lt_of_lt_of_le (hi pk u hu) (scanAct_nextPk h)
  · rw [hnext]
    exact Nat.lt_succ_self _

theorem Idle.counted {s : ScanSys} (h : Idle s) : CountedScans s := by
  intro pk v hv
  obtain ⟨r, hr, -⟩ := Option.map_eq_some_iff.mp hv
  have hmem : r ∈ s.scans.rows := Table.mem_of_get hr
  rw [h.scans] at hmem
  cases hmem

/-! ## An ended scan stays as it ended -/

/-- A worker starts a scan that has not ended and completes one that has not
failed; a scan that is failed, by its worker or by the reaper, has not completed. -/
def SavesInTurn (s : ScanSys) : ScanAct → ScanSys → Prop
  | .start w _, _ => (s.workerScan w).bind (statusOf s.scans) ≠ some .completed ∧
      (s.workerScan w).bind (statusOf s.scans) ≠ some .failed
  | .complete w _ _, _ => (s.workerScan w).bind (statusOf s.scans) ≠ some .failed
  | .fail w _, _ => (s.workerScan w).bind (statusOf s.scans) ≠ some .completed
  | .reapSave r _, _ => (s.reaperScan r).bind (statusOf s.scans) ≠ some .completed
  | _, _ => True

instance (s s' : ScanSys) : (a : ScanAct) → Decidable (SavesInTurn s a s')
  | .start .. => inferInstanceAs (Decidable (_ ∧ _))
  | .complete .. | .fail .. | .reapSave .. => inferInstanceAs (Decidable (_ ≠ _))
  | .enqueue .. | .noteTask .. | .deliver .. | .progress .. | .write .. | .prune .. | .selectStorage ..
  | .selectInventory .. | .deleteFiles .. | .deleteScans .. | .finish .. | .reapRunning .. | .reapQueued .. =>
    isTrue trivial

/-- Over an ended status only the same one is saved. -/
def SavesSame (scans : Table ScanRun.pk) (w : Option (Nat × ScanStatus)) : Prop :=
  ∀ pk st v, w = some (pk, st) → statusOf scans pk = some v → v.ended = true → st = v

theorem savesSame_map {scans : Table ScanRun.pk} {o : Option Nat} {st : ScanStatus} :
    SavesSame scans (o.map (·, st)) ↔ ∀ v, o.bind (statusOf scans) = some v → v.ended = true → st = v := by
  cases o with
  | none => simp [SavesSame]
  | some pk =>
    simp only [SavesSame, Option.map_some, Option.some.injEq, Prod.mk.injEq, Option.bind_some]
    constructor
    · intro h v hv hend
      exact h pk st v ⟨rfl, rfl⟩ hv hend
    · intro h pk' st' v he hv hend
      obtain ⟨rfl, rfl⟩ := he
      exact h v hv hend

theorem savesInTurn_iff {s s' : ScanSys} {a : ScanAct} : SavesInTurn s a s' ↔ SavesSame s.scans (statusWrite s a) := by
  cases a with
  | start w now =>
    rw [statusWrite, savesSame_map, SavesInTurn]
    generalize (s.workerScan w).bind (statusOf s.scans) = o
    rcases o with _ | v
    · simp
    · cases v <;> simp [ScanStatus.ended]
  | complete w filesystemAt finishedAt =>
    rw [statusWrite, savesSame_map, SavesInTurn]
    generalize (s.workerScan w).bind (statusOf s.scans) = o
    rcases o with _ | v
    · simp
    · cases v <;> simp [ScanStatus.ended]
  | fail w now =>
    rw [statusWrite, savesSame_map, SavesInTurn]
    generalize (s.workerScan w).bind (statusOf s.scans) = o
    rcases o with _ | v
    · simp
    · cases v <;> simp [ScanStatus.ended]
  | reapSave r now =>
    rw [statusWrite, savesSame_map, SavesInTurn]
    generalize (s.reaperScan r).bind (statusOf s.scans) = o
    rcases o with _ | v
    · simp
    · cases v <;> simp [ScanStatus.ended]
  | enqueue | noteTask | deliver | progress | write | prune | selectStorage | selectInventory | deleteFiles
    | deleteScans | finish | reapRunning | reapQueued => simp [SavesInTurn, SavesSame, statusWrite]

/-- **A scan that completed or failed keeps its status exactly when no save of
a status comes out of turn.** -/
theorem ended_scan_stays_iff {s₀ : ScanSys} (h₀ : Idle s₀) (ls : List ScanAct) :
    Absorbing scanAct (fun s => statusOf s.scans) (fun v => v.ended = true) s₀ ls ↔ Along scanAct SavesInTurn s₀ ls := by
  refine absorbing_iff_along (fun pk s => pk < s.nextPk) scanAct_counted (fun hj hv => hj _ _ hv)
    (fun hk h => Nat.lt_of_lt_of_le hk (scanAct_nextPk h)) ?_ ?_ h₀.counted
  · intro s a s' pk v v' h hp hk hold hv hv'
    obtain hsame | ⟨hw, u, hu⟩ | ⟨rfl, -⟩ := scanAct_status h hv'
    · exact hold v' hsame
    · have hend : u.ended = true := hold u hu ▸ hv
      rw [savesInTurn_iff.mp hp pk v' u hw hu hend]
      exact hold u hu
    · exact absurd hk (Nat.lt_irrefl _)
  · intro s a s' h hkeep
    refine savesInTurn_iff.mpr ?_
    intro pk st v hw hv hend
    exact hkeep pk v st hv hend (statusWrite_lands h hw hv)

/-- Nothing but the enabled mounts. -/
def idle (mounts : List Nat) : ScanSys := ⟨.empty, [], [], .empty, .empty, 0, mounts⟩

theorem idle_idle (mounts : List Nat) : Idle (idle mounts) := ⟨rfl, rfl, rfl, rfl⟩

/-- A scan runs to its end while the reaper looks on. -/
def ordinaryScan : List ScanAct :=
  [.enqueue none 100, .noteTask 0 "task", .deliver 1 0, .reapQueued 1 50 ["task"], .start 1 110, .progress 1,
    .reapRunning 2 60, .write 1 [(7, "images/100/vm-100-disk-0.raw")], .complete 1 120 121]

theorem ordinary_scan_stays :
    Absorbing scanAct (fun s => statusOf s.scans) (fun v => v.ended = true) (idle [7]) ordinaryScan :=
  (ended_scan_stays_iff (idle_idle [7]) ordinaryScan).mpr (by decide +kernel)

/-- The reaper fails a scan whose task has left the broker; a worker that has
taken the task, and not yet loaded the row, then starts it. -/
def reapedThenDelivered : List ScanAct :=
  [.enqueue none 100, .noteTask 0 "task", .reapQueued 1 4000 [], .reapSave 1 5000]

/-- `run_scan` does not look at the status of the row it loads. -/
theorem reaped_scan_starts : ¬ ∀ s₀ ls, Idle s₀ →
    Absorbing scanAct (fun s => statusOf s.scans) (fun v => v.ended = true) s₀ ls := by
  intro h
  have := h (idle [7]) (reapedThenDelivered ++ [.deliver 1 0, .start 1 5001] ++ []) (idle_idle [7])
    _ _ _ _ _ rfl rfl rfl 0 .failed .running rfl rfl rfl
  cases this

end PveHelper.Scans
