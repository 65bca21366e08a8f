/-
The outbox of the audit log, after `core/services/log_forwarding.py`. Every save of an
Audit event makes a delivery with the event's next revision number; a pass of
`deliver_pending_log_events` takes the due ones by id, claims and sends each, and stops
at the first failure, whose delivery waits out a back-off; sent deliveries are deleted
after a week.

Passes run one at a time, but events are saved while one is under way, so a pass is
several steps: its start, and for each delivery the claim and what came of the send.
The clock readings are inputs of the steps. `sent` and `created` record, in order, the
deliveries that reached SENT and those ever made; no step reads them.
-/
import PveHelper.Lib.Table
import PveHelper.Lib.Trans
import Mathlib.Algebra.Group.Int.Defs
import Mathlib.Data.List.Sort

namespace PveHelper.Forwarding

open Lib

/-- Seconds. -/
abbrev Time := Int

/-! ## Rows -/

/-- The columns of an Audit event that `_safe_payload` reads, the timestamp as its text. -/
structure AuditSnapshot where
  pk : Nat
  timestamp : String
  action : String
  outcome : String
  module : String := ""
  username : String := ""
  sourceIp : String := ""
  cluster : String := ""
  objectType : String := ""
  objectId : String := ""
  storageId : String := ""
  path : String := ""
  targetPreallocation : String := ""
deriving DecidableEq

/-- `_safe_payload`. -/
def safePayload (e : AuditSnapshot) : List (String × String) :=
  [("timestamp", e.timestamp), ("action", e.action), ("outcome", e.outcome), ("module", e.module), ("username", e.username),
    ("source_ip", e.sourceIp), ("cluster", e.cluster), ("object_type", e.objectType), ("object_id", e.objectId)] ++
  (if e.storageId != "" then [("storage_id", e.storageId)] else []) ++
  (if e.path != "" then [("path", e.path)] else []) ++
  (if e.targetPreallocation != "" then [("target_preallocation", e.targetPreallocation)] else [])

inductive DeliveryStatus
  | pending | sending | sent
deriving DecidableEq

structure Delivery where
  pk : Nat
  auditEventId : Nat
  sequence : Nat
  payload : List (String × String)
  status : DeliveryStatus := .pending
  attempts : Nat := 0
  nextAttemptAt : Time
  claimedAt : Option Time := none
  deliveredAt : Option Time := none
  lastErrorCode : String := ""
deriving DecidableEq

/-! ## Enqueueing -/

/-- `Max("sequence")` over the event's stored deliveries, or zero. -/
def lastSequence (deliveries : Serial Delivery.pk) (event : Nat) : Nat :=
  ((deliveries.table.rows.filter (·.auditEventId == event)).map (·.sequence)).foldr max 0

/-- The row that `enqueue_audit_event` creates. -/
def newDelivery (deliveries : Serial Delivery.pk) (event : AuditSnapshot) (now : Time) (pk : Nat) : Delivery where
  pk := pk
  auditEventId := event.pk
  sequence := lastSequence deliveries event.pk + 1
  payload := safePayload event
  nextAttemptAt := now

theorem newDelivery_pk (deliveries : Serial Delivery.pk) (event : AuditSnapshot) (now : Time) (pk : Nat) :
    (newDelivery deliveries event now pk).pk = pk := rfl

/-- `enqueue_audit_event` of an enabled forwarder. -/
def enqueueAuditEvent (deliveries : Serial Delivery.pk) (event : AuditSnapshot) (now : Time) : Serial Delivery.pk :=
  deliveries.insert (newDelivery deliveries event now) (newDelivery_pk deliveries event now)

theorem enqueueAuditEvent_next (deliveries : Serial Delivery.pk) (event : AuditSnapshot) (now : Time) :
    (enqueueAuditEvent deliveries event now).table.get deliveries.next =
      some (newDelivery deliveries event now deliveries.next) := by
  rw [enqueueAuditEvent, Serial.get_insert, if_pos rfl]

/-! ## Delivering -/

/-- `CLAIM_TIMEOUT`. -/
def claimTimeout : Int := 5 * 60

/-- `SENT_RETENTION`. -/
def sentRetention : Int := 7 * 24 * 3600

def maxBatchSize : Nat := 200

/-- A claim whose pass is given up: `claimed_at__lt=now - CLAIM_TIMEOUT`. -/
def Delivery.abandoned (now : Time) (d : Delivery) : Bool :=
  d.status == .sending && d.claimedAt.any fun claimedAt => decide (claimedAt < now - claimTimeout)

def Delivery.released (now : Time) (d : Delivery) : Delivery :=
  { d with status := .pending, nextAttemptAt := now, claimedAt := none }

theorem Delivery.released_pk (now : Time) (d : Delivery) : (d.released now).pk = d.pk := rfl

/-- The first statement of a pass. -/
def releaseAbandoned (now : Time) (deliveries : Serial Delivery.pk) : Serial Delivery.pk :=
  deliveries.updateWhere (·.abandoned now) (·.released now) (Delivery.released_pk now)

def Delivery.due (now : Time) (d : Delivery) : Bool :=
  d.status == .pending && decide (d.nextAttemptAt ≤ now)

/-- `delivery_ids`: the due deliveries by id, at most a batch. -/
def deliveryIds (now : Time) (deliveries : Serial Delivery.pk) : List Nat :=
  (((deliveries.table.rows.filter (·.due now)).map (·.pk)).insertionSort (· ≤ ·)).take maxBatchSize

def Delivery.claimed (now : Time) (d : Delivery) : Delivery :=
  { d with status := .sending, claimedAt := some now, attempts := d.attempts + 1 }

theorem Delivery.claimed_pk (now : Time) (d : Delivery) : (d.claimed now).pk = d.pk := rfl

def Delivery.delivered (now : Time) (d : Delivery) : Delivery :=
  { d with status := .sent, deliveredAt := some now, claimedAt := none, lastErrorCode := "" }

theorem Delivery.delivered_pk (now : Time) (d : Delivery) : (d.delivered now).pk = d.pk := rfl

/-- The back-off after that many attempts, in seconds. -/
def delaySeconds (attempts : Nat) : Int := min 3600 (15 * 2 ^ min (attempts - 1) 8)

/-- `_mark_failed`. -/
def Delivery.failed (code : String) (now : Time) (d : Delivery) : Delivery :=
  { d with status := .pending, claimedAt := none, nextAttemptAt := now + delaySeconds d.attempts, lastErrorCode := code }

theorem Delivery.failed_pk (code : String) (now : Time) (d : Delivery) : (d.failed code now).pk = d.pk := rfl

/-- The last statement of a pass deletes the row. -/
def Delivery.outlived (now : Time) (d : Delivery) : Bool :=
  d.status == .sent && d.deliveredAt.any fun deliveredAt => decide (deliveredAt < now - sentRetention)

/-! ## The forwarder -/

/-- A pass under way: the time it began, the deliveries it has not come to yet, and the one it is sending. -/
structure Pass where
  now : Time
  ids : List Nat
  current : Option Nat
deriving DecidableEq

structure Forwarder where
  enabled : Bool
  deliveries : Serial Delivery.pk
  pass : Option Pass
  sent : List Nat
  created : List Delivery

def Forwarder.init : Forwarder := ⟨true, .empty, none, [], []⟩

inductive ForwarderAction
  | configure (enabled : Bool)
  | save (event : AuditSnapshot) (now : Time)
  | start (now : Time)
  | claim (now : Time)
  | delivered (now : Time)
  | failed (code : String) (now : Time)
  | finish
  | died

def forwarderStep (s : Forwarder) : ForwarderAction → Option Forwarder
  | .configure enabled => some { s with enabled := enabled }
  | .save event now =>
    if !s.enabled then some s
    else some { s with
      deliveries := enqueueAuditEvent s.deliveries event now
      created := s.created ++ [newDelivery s.deliveries event now s.deliveries.next] }
  | .start now =>
    if s.pass.isSome then none
    else if !s.enabled then some s
    else
      let deliveries := releaseAbandoned now s.deliveries
      some { s with
        deliveries := deliveries
        pass := some { now := now, ids := deliveryIds now deliveries, current := none } }
  | .claim now =>
    match s.pass with
    | some ⟨began, id :: ids, none⟩ =>
      match s.deliveries.table.get id with
      | some d =>
        if d.status != .pending then some { s with pass := some ⟨began, ids, none⟩ }
        else some { s with
          deliveries := s.deliveries.alter id (·.claimed now) (Delivery.claimed_pk now)
          pass := some ⟨began, ids, some id⟩ }
      | none => some { s with pass := some ⟨began, ids, none⟩ }
    | _ => none
  | .delivered now =>
    match s.pass with
    | some ⟨began, ids, some id⟩ => some { s with
        deliveries := s.deliveries.alter id (·.delivered now) (Delivery.delivered_pk now)
        pass := some ⟨began, ids, none⟩
        sent := s.sent ++ [id] }
    | _ => none
  | .failed code now =>
    -- the loop breaks: later messages must not overtake this one
    match s.pass with
    | some ⟨began, _, some id⟩ => some { s with
        deliveries := s.deliveries.alter id (·.failed code now) (Delivery.failed_pk code now)
        pass := some ⟨began, [], none⟩ }
    | _ => none
  | .finish =>
    match s.pass with
    | some ⟨began, [], none⟩ => some { s with
        deliveries := s.deliveries.keep fun d => !d.outlived began
        pass := none }
    | _ => none
  -- the process is gone, or raised what the loop does not catch
  | .died => if s.pass.isSome then some { s with pass := none } else none

/-! ## What a step rewrites -/

theorem releaseAbandoned_get (now : Time) (deliveries : Serial Delivery.pk) (pk : Nat) :
    (releaseAbandoned now deliveries).table.get pk =
      (deliveries.table.get pk).map fun d => if d.abandoned now then d.released now else d :=
  Serial.get_updateWhere ..

section
variable {s s' : Forwarder}

/-- The rows of a step that saves nothing are the rows before it, rewritten or gone. -/
theorem forwarderStep_rewrites {a : ForwarderAction} (h : forwarderStep s a = some s') (hsave : ∀ event now, a ≠ .save event now) :
    s'.created = s.created ∧ s'.deliveries.next = s.deliveries.next ∧
      ∀ pk d', s'.deliveries.table.get pk = some d' → ∃ d, s.deliveries.table.get pk = some d ∧
        d'.auditEventId = d.auditEventId ∧ d'.sequence = d.sequence := by
  have halter : ∀ {id : Nat} {f : Delivery → Delivery} {hf}, (∀ d, (f d).auditEventId = d.auditEventId ∧
      (f d).sequence = d.sequence) → ∀ pk d', (s.deliveries.alter id f hf).table.get pk = some d' →
      ∃ d, s.deliveries.table.get pk = some d ∧ d'.auditEventId = d.auditEventId ∧ d'.sequence = d.sequence := by
    intro id f hf hkeeps pk d' hd'
    rw [Serial.get_alter] at hd'
    split at hd'
    · obtain ⟨d, hd, rfl⟩ := Option.map_eq_some_iff.mp hd'
      exact ⟨d, hd, hkeeps d⟩
    · exact ⟨d', hd', rfl, rfl⟩
  cases a with
  | save event now => exact absurd rfl (hsave event now)
  | configure enabled =>
    cases h
    exact ⟨rfl, rfl, fun pk d hd => ⟨d, hd, rfl, rfl⟩⟩
  | start now =>
    simp only [forwarderStep] at h
    split at h
    · cases h
    · split at h
      · cases h
        exact ⟨rfl, rfl, fun pk d hd => ⟨d, hd, rfl, rfl⟩⟩
      · cases h
        refine ⟨rfl, rfl, fun pk d' hd' => ?_⟩
        rw [releaseAbandoned_get] at hd'
        obtain ⟨d, hd, rfl⟩ := Option.map_eq_some_iff.mp hd'
        refine ⟨d, hd, ?_⟩
        split <;> exact ⟨rfl, rfl⟩
  | claim now =>
    simp only [forwarderStep] at h
    split at h
    · split at h
      · split at h
        · cases h
          exact ⟨rfl, rfl, fun pk d hd => ⟨d, hd, rfl, rfl⟩⟩
        · cases h
          exact ⟨rfl, rfl, halter fun d => ⟨rfl, rfl⟩⟩
      · cases h
        exact ⟨rfl, rfl, fun pk d hd => ⟨d, hd, rfl, rfl⟩⟩
    · cases h
  | delivered now =>
    simp only [forwarderStep] at h
    split at h
    · cases h
      exact ⟨rfl, rfl, halter fun d => ⟨rfl, rfl⟩⟩
    · cases h
  | failed code now =>
    simp only [forwarderStep] at h
    split at h
    · cases h
      exact ⟨rfl, rfl, halter fun d => ⟨rfl, rfl⟩⟩
    · cases h
  | finish =>
    simp only [forwarderStep] at h
    split at h
    · cases h
      refine ⟨rfl, rfl, fun pk d hd => ?_⟩
      rw [Serial.get_keep, Option.filter_eq_some_iff] at hd
      exact ⟨d, hd.1, rfl, rfl⟩
    · cases h
  | died =>
    simp only [forwarderStep] at h
    split at h
    · cases h
      exact ⟨rfl, rfl, fun pk d hd => ⟨d, hd, rfl, rfl⟩⟩
    · cases h

end

/-- An Audit event as it is saved. -/
def loginEvent (pk : Nat) : AuditSnapshot where
  pk := pk
  timestamp := "2026-01-01T00:00:00.000Z"
  action := "user.login"
  outcome := "success"

end PveHelper.Forwarding
