/-
The pass of `reap_stale_bulk_tasks` over the inflates that were queued and never ended. It asks
for an end of any request on the same storage id and path, and it counts a refused request as
one that was queued; so it reports exactly the lost work only where requests on one disk do not
mix.
-/
import Mathlib.Data.List.Sort
import PveHelper.Lib.Loop
import PveHelper.Lib.Table
import PveHelper.Operations.Events

namespace PveHelper.Operations

open Lib

/-! ## The rows -/

inductive InflateAction
  | inflateQueued
  | inflated
  | inflateFailed
deriving DecidableEq

/-- An `AuditEvent` of an inflate, with the columns that its save takes from the details. -/
structure InflateEvent where
  id : Nat
  action : InflateAction
  outcome : Outcome
  timestamp : Nat
  /-- The mount that `object_id` names. -/
  mountRef : String
  storageId : String
  path : String
  targetPreallocation : String
deriving DecidableEq

abbrev InflateHistory := Serial InflateEvent.id

/-- `action__in=["file.inflated", "file.inflate_failed"]`. -/
def InflateEvent.terminal (e : InflateEvent) : Bool := e.action = .inflated || e.action = .inflateFailed

/-- What the reaper looks for. -/
def InflateEvent.disk (e : InflateEvent) : String × String := (e.storageId, e.path)

/-- What the request was for. -/
def InflateEvent.work (e : InflateEvent) : String × String × String := (e.mountRef, e.path, e.targetPreallocation)

/-! ## The pass -/

/-- When the pass runs: the timeout with its grace, the time it goes by, and how much later each
failure is written. -/
structure ReaperClock where
  limit : Nat
  now : Nat
  delay : InflateEvent → Nat

section
variable (c : ReaperClock)

/-- `timestamp__lt=inflate_cutoff`. -/
def ReaperClock.stale (e : InflateEvent) : Bool := e.timestamp + c.limit < c.now

/-- The queued events that are older than the cutoff, the newest first. -/
def queuedInflates (h : InflateHistory) : List InflateEvent :=
  (h.table.rows.filter fun e => e.action = .inflateQueued && c.stale e).insertionSort fun a b => b.timestamp ≤ a.timestamp

/-- An end at or after the event on the same storage id and path. -/
def hasTerminalEvent (h : InflateHistory) (queued : InflateEvent) : Bool :=
  h.table.rows.any fun e => e.terminal && e.disk = queued.disk && queued.timestamp ≤ e.timestamp

/-- The failure that is written. -/
def timeoutFailure (queued : InflateEvent) (id : Nat) : InflateEvent :=
  { queued with id := id, action := .inflateFailed, outcome := .failed, timestamp := c.now + c.delay queued }

/-- One turn: what has been reported so far, and the rows. -/
def reapInflate (s : List InflateEvent × InflateHistory) (queued : InflateEvent) : List InflateEvent × InflateHistory :=
  if queued.storageId = "" || queued.path = "" then s
  else if hasTerminalEvent s.2 queued then s
  else (s.1 ++ [queued], s.2.insert (timeoutFailure c queued) fun _ => rfl)

/-- The inflate pass of `reap_stale_bulk_tasks`: the queued events a failure is written for, and the
rows after. -/
def reapStaleInflates (h : InflateHistory) : List InflateEvent × InflateHistory :=
  (queuedInflates c h).foldl (reapInflate c) ([], h)

/-! ## What should be reported -/

/-- An end at or after the event of the same mount, path and target. -/
def hasOwnEnd (h : InflateHistory) (queued : InflateEvent) : Bool :=
  h.table.rows.any fun e => e.terminal && e.work = queued.work && queued.timestamp ≤ e.timestamp

/-- Work that was really queued, has been out too long, and has no end of its own. -/
structure LostWork (h : InflateHistory) (queued : InflateEvent) : Prop where
  accepted : queued.outcome ≠ .failed
  stale : c.stale queued = true
  unfinished : hasOwnEnd h queued = false

/-- The pass reports the lost work and no more, and a later pass nothing that this one has seen. -/
structure ReapsLostWork (h : InflateHistory) : Prop where
  reported : ∀ e ∈ h.table.rows, e.action = .inflateQueued → (e ∈ (reapStaleInflates c h).1 ↔ LostWork c h e)
  again : ∀ c' : ReaperClock, c.limit = c'.limit → c.now ≤ c'.now →
    ∀ e ∈ (reapStaleInflates c' (reapStaleInflates c h).2).1, c.stale e = false

/-- A queued event that has been out too long and whose disk has seen no end since. -/
def isOpen (h : InflateHistory) (queued : InflateEvent) : Bool :=
  c.stale queued && !(queued.storageId = "" || queued.path = "") && !hasTerminalEvent h queued

/-- The open events of a disk, the newest first. -/
def openOn (h : InflateHistory) (disk : String × String) : List InflateEvent :=
  (queuedInflates c h).filter fun e => isOpen c h e && e.disk = disk

/-- Requests on one disk do not mix: of the open ones exactly the newest was accepted and has not
ended under another storage id, and an accepted one that is not open has an end of its own. -/
structure Unmixed (h : InflateHistory) : Prop where
  newest : ∀ e ∈ h.table.rows, e.action = .inflateQueued → isOpen c h e = true →
    ((e.outcome ≠ .failed ∧ hasOwnEnd h e = false) ↔ (openOn c h e.disk).head? = some e)
  ended : ∀ e ∈ h.table.rows, e.action = .inflateQueued → c.stale e = true → isOpen c h e = false → e.outcome ≠ .failed →
    hasOwnEnd h e = true

end

/-! ## The pass, in one go -/

section
variable {c : ReaperClock} {h : InflateHistory}

theorem mem_queuedInflates {e : InflateEvent} :
    e ∈ queuedInflates c h ↔ e ∈ h.table.rows ∧ e.action = .inflateQueued ∧ c.stale e = true := by
  unfold queuedInflates
  rw [List.mem_insertionSort, List.mem_filter, Bool.and_eq_true, decide_eq_true_eq]

theorem hasTerminalEvent_iff {queued : InflateEvent} : hasTerminalEvent h queued = true ↔
    ∃ e ∈ h.table.rows, e.terminal = true ∧ e.disk = queued.disk ∧ queued.timestamp ≤ e.timestamp := by
  unfold hasTerminalEvent
  simp [and_assoc]

/-- A failure that is written is an end for every stale event of its disk, and for no other. -/
theorem hasTerminalEvent_insert {r queued : InflateEvent} (hold : c.stale queued = true) :
    hasTerminalEvent (h.insert (timeoutFailure c r) fun _ => rfl) queued = true ↔
      hasTerminalEvent h queued = true ∨ r.disk = queued.disk := by
  have hold : queued.timestamp + c.limit < c.now := by simpa [ReaperClock.stale] using hold
  rw [hasTerminalEvent_iff, hasTerminalEvent_iff]
  constructor
  · rintro ⟨e, he, hterminal, hdisk, htime⟩
    rcases Serial.mem_insert.mp he with he | rfl
    · exact .inl ⟨e, he, hterminal, hdisk, htime⟩
    · exact .inr hdisk
  · rintro (⟨e, he, hterminal, hdisk, htime⟩ | hdisk)
    · exact ⟨e, Serial.mem_insert.mpr (.inl he), hterminal, hdisk, htime⟩
    · refine ⟨_, Serial.mem_insert.mpr (.inr rfl), rfl, hdisk, ?_⟩
      show queued.timestamp ≤ c.now + c.delay r
      omega

/-- The loop reports the first open event of each disk, and leaves an end on every such disk. -/
theorem foldl_reapInflate (es : List InflateEvent) : ∀ (seen : List (String × String)) (reported : List InflateEvent) (h' : InflateHistory),
    (∀ e ∈ es, c.stale e = true) →
    (∀ e, c.stale e = true → (hasTerminalEvent h' e = true ↔ hasTerminalEvent h e = true ∨ e.disk ∈ seen)) →
    (es.foldl (reapInflate c) (reported, h')).1 = reported ++ firstsBy InflateEvent.disk seen (es.filter (isOpen c h)) ∧
      ∀ e, c.stale e = true → (hasTerminalEvent (es.foldl (reapInflate c) (reported, h')).2 e = true ↔
        hasTerminalEvent h e = true ∨ e.disk ∈ seen ∨ e.disk ∈ (firstsBy InflateEvent.disk seen (es.filter (isOpen c h))).map (·.disk)) := by
  induction es with
  | nil =>
    intro seen reported h' hstale hends
    refine ⟨(List.append_nil _).symm, fun e he => (hends e he).trans ?_⟩
    simp [firstsBy]
  | cons e es ih =>
    intro seen reported h' hstale hends
    have hrest : ∀ e ∈ es, c.stale e = true := fun e he => hstale e (List.mem_cons_of_mem _ he)
    have hold := hstale e List.mem_cons_self
    rw [List.foldl_cons]
    by_cases hskip : (e.storageId = "" || e.path = "") = true ∨ hasTerminalEvent h' e = true
    · -- the event is passed over: it is not open, or its disk has been reported
      have hturn : reapInflate c (reported, h') e = (reported, h') := by
        unfold reapInflate
        split
        · rfl
        · next hkey => exact if_pos (hskip.resolve_left hkey)
      have hfirsts : firstsBy InflateEvent.disk seen ((e :: es).filter (isOpen c h)) =
          firstsBy InflateEvent.disk seen (es.filter (isOpen c h)) := by
        by_cases hopen : isOpen c h e = true
        · have hparts : (e.storageId = "" || e.path = "") = false ∧ hasTerminalEvent h e = false := by
            unfold isOpen at hopen
            simp only [Bool.and_eq_true, Bool.not_eq_true'] at hopen
            exact ⟨hopen.1.2, hopen.2⟩
          have hend := hskip.resolve_left (by simp [hparts.1])
          have hseen : e.disk ∈ seen := ((hends e hold).mp hend).resolve_left (by simp [hparts.2])
          rw [List.filter_cons_of_pos hopen, firstsBy, if_pos hseen]
        · rw [List.filter_cons_of_neg hopen]
      rw [hturn, hfirsts]
      exact ih seen reported h' hrest hends
    · obtain ⟨hkey, hend⟩ := not_or.mp hskip
      have hturn : reapInflate c (reported, h') e = (reported ++ [e], h'.insert (timeoutFailure c e) fun _ => rfl) := by
        unfold reapInflate
        rw [if_neg hkey, if_neg hend]
      have hfresh : ¬ (hasTerminalEvent h e = true ∨ e.disk ∈ seen) := fun hor => hend ((hends e hold).mpr hor)
      obtain ⟨hnone, hseen⟩ := not_or.mp hfresh
      have hopen : isOpen c h e = true := by
        unfold isOpen
        simp only [Bool.and_eq_true, Bool.not_eq_true', hold, true_and]
        exact ⟨Bool.eq_false_iff.mpr hkey, Bool.eq_false_iff.mpr hnone⟩
      have hends' : ∀ e', c.stale e' = true →
          (hasTerminalEvent (h'.insert (timeoutFailure c e) fun _ => rfl) e' = true ↔
            hasTerminalEvent h e' = true ∨ e'.disk ∈ e.disk :: seen) := by
        intro e' he'
        rw [hasTerminalEvent_insert he', hends e' he', List.mem_cons, or_assoc, eq_comm (a := e.disk), or_comm (a := e'.disk ∈ seen)]
      obtain ⟨hreported, hafter⟩ := ih (e.disk :: seen) (reported ++ [e]) _ hrest hends'
      rw [hturn, List.filter_cons_of_pos hopen, firstsBy, if_neg hseen]
      refine ⟨by rw [hreported, List.append_assoc]; rfl, fun e' he' => ?_⟩
      rw [hafter e' he', List.map_cons, List.mem_cons, List.mem_cons]
      tauto

theorem reapStaleInflates_eq (c : ReaperClock) (h : InflateHistory) :
    (reapStaleInflates c h).1 = firstsBy InflateEvent.disk [] ((queuedInflates c h).filter (isOpen c h)) ∧
      ∀ e, c.stale e = true → (hasTerminalEvent (reapStaleInflates c h).2 e = true ↔ hasTerminalEvent h e = true ∨
        e.disk ∈ (firstsBy InflateEvent.disk [] ((queuedInflates c h).filter (isOpen c h))).map (·.disk)) := by
  have hloop := foldl_reapInflate (c := c) (h := h) (queuedInflates c h) [] [] h
    (fun e he => (mem_queuedInflates.mp he).2.2) (fun e _ => by simp)
  refine ⟨hloop.1.trans (List.nil_append _), fun e he => (hloop.2 e he).trans ?_⟩
  simp

/-- An event is reported when it is the newest open one of its disk. -/
theorem mem_reapStaleInflates {e : InflateEvent} :
    e ∈ (reapStaleInflates c h).1 ↔ (openOn c h e.disk).head? = some e := by
  unfold openOn
  rw [(reapStaleInflates_eq c h).1, mem_firstsBy, List.head?_filter, List.find?_filter]
  simp only [List.not_mem_nil, not_false_eq_true, true_and, Bool.decide_and, Bool.decide_eq_true, decide_eq_true_eq]

/-- What is reported was queued, stale and open. -/
theorem open_of_reported {e : InflateEvent} (he : e ∈ (reapStaleInflates c h).1) : isOpen c h e = true := by
  have hmem := List.mem_of_mem_head? (mem_reapStaleInflates.mp he)
  unfold openOn at hmem
  exact (Bool.and_eq_true_iff.mp (List.mem_filter.mp hmem).2).1

/-- The pass adds rows and changes none. -/
theorem rows_foldl_reapInflate (es : List InflateEvent) : ∀ (s : List InflateEvent × InflateHistory) (e : InflateEvent),
    e ∈ (es.foldl (reapInflate c) s).2.table.rows → e.action = .inflateQueued → e ∈ s.2.table.rows := by
  induction es with
  | nil => exact fun s e he _ => he
  | cons q es ih =>
    intro s e he hqueued
    have hturn := ih (reapInflate c s q) e he hqueued
    unfold reapInflate at hturn
    split at hturn
    · exact hturn
    · split at hturn
      · exact hturn
      · have hrows : e ∈ (s.2.insert (timeoutFailure c q) fun _ => rfl).table.rows := hturn
        rcases Serial.mem_insert.mp hrows with hmem | rfl
        · exact hmem
        · cases hqueued

/-- After a pass every stale request that names a disk has an end on it. -/
theorem hasTerminalEvent_after {e : InflateEvent} (he : e ∈ h.table.rows) (hqueued : e.action = .inflateQueued)
    (hold : c.stale e = true) (hkey : (e.storageId = "" || e.path = "") = false) :
    hasTerminalEvent (reapStaleInflates c h).2 e = true := by
  rw [(reapStaleInflates_eq c h).2 e hold]
  by_cases hend : hasTerminalEvent h e = true
  · exact .inl hend
  · have hopen : isOpen c h e = true := by
      unfold isOpen
      simp [hold, hkey, hend]
    have hmem : e ∈ (queuedInflates c h).filter (isOpen c h) :=
      List.mem_filter.mpr ⟨mem_queuedInflates.mpr ⟨he, hqueued, hold⟩, hopen⟩
    obtain ⟨first, hfirst, hdisk⟩ := exists_firstsBy hmem (List.not_mem_nil (a := e.disk))
    exact .inr (List.mem_map.mpr ⟨first, hfirst, hdisk⟩)

/-- A later pass reports nothing that this one has seen. -/
theorem reapStaleInflates_again {c' : ReaperClock} {e : InflateEvent} (he : e ∈ (reapStaleInflates c' (reapStaleInflates c h).2).1) :
    c.stale e = false := by
  refine Bool.eq_false_iff.mpr fun hold => ?_
  have hopen := open_of_reported he
  have hmem := (mem_queuedInflates.mp (List.mem_filter.mp (List.mem_of_mem_head? (mem_reapStaleInflates.mp he))).1)
  unfold isOpen at hopen
  simp only [Bool.and_eq_true, Bool.not_eq_true'] at hopen
  have hrow : e ∈ h.table.rows := rows_foldl_reapInflate _ _ e hmem.1 hmem.2.1
  have hend := hasTerminalEvent_after hrow hmem.2.1 hold hopen.1.2
  rw [hopen.2] at hend
  cases hend

/-- The pass reports exactly the lost work where requests on one disk do not mix, and only there. -/
theorem reapsLostWork_iff (c : ReaperClock) (h : InflateHistory) : ReapsLostWork c h ↔ Unmixed c h := by
  constructor
  · rintro ⟨hreported, -⟩
    refine ⟨fun e he hqueued hopen => ?_, fun e he hqueued hold hclosed haccepted => ?_⟩
    · rw [← mem_reapStaleInflates, hreported e he hqueued]
      have hold : c.stale e = true := by
        unfold isOpen at hopen
        simp only [Bool.and_eq_true] at hopen
        exact hopen.1.1
      exact ⟨fun hlost => ⟨hlost.1, hold, hlost.2⟩, fun hlost => ⟨hlost.accepted, hlost.unfinished⟩⟩
    · by_contra hend
      have hmem := (hreported e he hqueued).mpr ⟨haccepted, hold, Bool.eq_false_iff.mpr hend⟩
      rw [open_of_reported hmem] at hclosed
      cases hclosed
  · rintro ⟨hnewest, hended⟩
    refine ⟨fun e he hqueued => ?_, fun c' _ _ e he => reapStaleInflates_again he⟩
    rw [mem_reapStaleInflates]
    cases hopen : isOpen c h e with
    | true =>
      rw [← hnewest e he hqueued hopen]
      have hold : c.stale e = true := by
        unfold isOpen at hopen
        simp only [Bool.and_eq_true] at hopen
        exact hopen.1.1
      exact ⟨fun hlost => ⟨hlost.1, hold, hlost.2⟩, fun hlost => ⟨hlost.accepted, hlost.unfinished⟩⟩
    | false =>
      constructor
      · intro hhead
        rw [open_of_reported (mem_reapStaleInflates.mpr hhead)] at hopen
        cases hopen
      · rintro ⟨haccepted, hold, hunfinished⟩
        rw [hended e he hqueued hold hopen haccepted] at hunfinished
        cases hunfinished

end

/-! ## A request that was refused -/

/-- The inflate of a disk was refused, an hour ago. -/
def refusedInflate : InflateEvent := ⟨1, .inflateQueued, .failed, 0, "mr1:a", "nas", "images/100/disk.qcow2", "full"⟩

def refusedHistory : InflateHistory := Serial.empty.insert (fun id => { refusedInflate with id := id }) fun _ => rfl

def hourLater : ReaperClock := ⟨1800, 3600, fun _ => 0⟩

theorem refusedHistory_rows : refusedHistory.table.rows = [refusedInflate] := rfl

/-- The refused request is reported as one that timed out. -/
theorem refused_reported : ¬ ∀ c h, ReapsLostWork c h := by
  intro hall
  have hreported : refusedInflate ∈ (reapStaleInflates hourLater refusedHistory).1 := by decide
  have hlost := ((hall hourLater refusedHistory).reported refusedInflate (by rw [refusedHistory_rows]; exact List.mem_cons_self) rfl).mp hreported
  exact hlost.accepted rfl

end PveHelper.Operations
