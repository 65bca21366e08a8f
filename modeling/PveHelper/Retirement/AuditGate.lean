/-
The two views that a retirement takes of a cluster's Audit operations
(`core/services/audit_events.py`): the rows counted one by one under lock, and the counts of the
database, which asks for the `guest.` actions with a pattern. They agree on every table; and under a
clear gate the finalizer, whichever way it finds its participants, cancels the provider operations
under way and nothing else.
-/
import PveHelper.Clusters.Footprint
import PveHelper.Lib.SqlLike
import PveHelper.Retirement.Rows

namespace PveHelper.Retirement

open Lib Scheduling
open Clusters (clusterConfigurationAuditActions clusterMachineInitiatedAuditActions)

section
variable (cluster : Nat) (mode : RetirementMode) (retiredAt : Time)

/-! ## Gates -/

/-- Of the participants of an owner: those it cannot classify, and those under way. -/
structure GateCounts where
  unknown : Int
  active : Nat

/-- `gate_clear`. -/
def GateCounts.clear (counts : GateCounts) : Bool :=
  decide (counts.unknown = 0) && (decide (mode = .forced) || decide (counts.active = 0))

/-- The blocker `_local_impact` lists for an owner, if any. -/
def GateCounts.blockers (counts : GateCounts) (owner : String) : List String :=
  if counts.unknown ≠ 0 then [owner ++ "_unknown"]
  else if mode = .verified ∧ counts.active ≠ 0 then [owner ++ "_active"]
  else []

/-! ## Audit operations -/

def clusterOperatorInitiatedAuditActions : List String :=
  ["cluster.host_projection.refresh", "storage.catalog.refresh", "tag.bulk_operation", "tag.inventory.refresh"]

def clusterProviderAuditActions : List String :=
  clusterOperatorInitiatedAuditActions ++ clusterMachineInitiatedAuditActions

def clusterProviderAuditActionPrefixes : List String := ["guest."]

/-- `_is_provider_action`, and `_provider_action_query` over a row. -/
def isProviderAction (action : String) : Bool :=
  clusterProviderAuditActions.contains action || clusterProviderAuditActionPrefixes.any (Text.startsWith action)

/-- The rows `_audit_retirement_preflight` reads. -/
def AuditEvent.candidate (e : AuditEvent) : Bool :=
  e.cluster == some cluster && !clusterConfigurationAuditActions.contains e.action &&
    (e.outcome.active || (isProviderAction e.action && !e.outcome.terminal))

/-- `_RETIREMENT_DETAIL_LIMIT`. -/
def retirementDetailLimit : Nat := 100

/-- A running operation is given up by a forced retirement only. -/
def AuditEvent.cancellable (e : AuditEvent) : Bool :=
  match e.outcome with
  | .running => mode == .forced
  | .queued => true
  | _ => false

/-- The columns retirement writes on an operation it cancels. -/
def AuditEvent.cancelledBy (e : AuditEvent) : AuditEvent :=
  let code := if e.outcome = .running then codeForceRetiredUnresolvable else notStartedCode mode
  let details := match e.details with
    | .obj fields => fields
    | _ => []
  { e with
    outcome := .cancelled
    details := .obj (Json.setField (Json.setField (Json.setField details "stage" (.str "cancelled")) "retirement_code"
      (.str code)) "finished_at" (.str (Text.isoformat (retiredAt * 1000000)))) }

theorem AuditEvent.cancelledBy_pk (e : AuditEvent) : (e.cancelledBy mode retiredAt).pk = e.pk := rfl

end

/-! ## The two views -/

structure AuditRetirementParticipant where
  pk : Nat
  action : String
  outcome : AuditOutcome
  objectType : String
  objectId : String
deriving DecidableEq

structure AuditRetirementPreflight where
  mode : RetirementMode
  queuedCount : Nat
  runningCount : Nat
  unknownCount : Int
  participants : List AuditRetirementParticipant
  participantCount : Nat
  participantsOmitted : Nat

def AuditRetirementPreflight.counts (p : AuditRetirementPreflight) : GateCounts := ⟨p.unknownCount, p.runningCount⟩

def AuditRetirementPreflight.gateClear (p : AuditRetirementPreflight) : Bool := p.counts.clear p.mode

/-- `_retirement_mode`. -/
def retirementMode (mode : String) : Option RetirementMode :=
  if mode = "verified" then some .verified else if mode = "forced" then some .forced else none

def modeText : RetirementMode → String
  | .verified => "verified"
  | .forced => "forced"

theorem retirementMode_modeText (mode : RetirementMode) : retirementMode (modeText mode) = some mode := by
  cases mode <;> rfl

/-- `_provider_action_query`, as the database answers it for a row. -/
def providerActionQuery (action : String) : Bool :=
  clusterProviderAuditActions.contains action ||
    clusterProviderAuditActionPrefixes.any fun start => Sql.like (Sql.startingWith start) action == some true

def AuditEvent.participant (e : AuditEvent) : AuditRetirementParticipant :=
  ⟨e.pk, e.action, e.outcome, e.objectType, e.objectId⟩

section
variable (cluster : Nat) (mode : RetirementMode) (retiredAt : Time)

/-- The candidates of `_audit_retirement_preflight`, by primary key. -/
def auditCandidates (events : Table AuditEvent.pk) : List AuditEvent :=
  (events.rows.filter fun e => e.cluster == some cluster && !clusterConfigurationAuditActions.contains e.action &&
    (e.outcome.active || (providerActionQuery e.action && !e.outcome.terminal))).insertionSort (·.pk ≤ ·.pk)

/-- `_audit_retirement_preflight`. -/
def auditRetirementPreflight (lock : Bool) (events : Table AuditEvent.pk) : AuditRetirementPreflight :=
  let candidates := auditCandidates cluster events
  let rows := if lock then candidates else candidates.take retirementDetailLimit
  let participantCount := if lock then rows.length else candidates.length
  let queuedCount :=
    if lock then rows.countP fun e => isProviderAction e.action && e.outcome == .queued
    else candidates.countP fun e => providerActionQuery e.action && e.outcome == .queued
  let runningCount :=
    if lock then rows.countP fun e => isProviderAction e.action && e.outcome == .running
    else candidates.countP fun e => providerActionQuery e.action && e.outcome == .running
  let participants := rows.map (·.participant)
  let bounded := participants.take retirementDetailLimit
  { mode
    queuedCount
    runningCount
    unknownCount := (participantCount : Int) - queuedCount - runningCount
    participants := bounded
    participantCount
    participantsOmitted := participantCount - bounded.length }

/-! ## The finalizer -/

inductive AuditRetirementError
  | unsupportedMode (mode : String)
  | blocked (preflight : AuditRetirementPreflight)

structure AuditRetirementResult where
  queuedCancelled : Nat
  runningAbandoned : Nat
  participants : List AuditRetirementParticipant
  participantCount : Nat
  participantsOmitted : Nat

/-- The primary keys the finalizer reads again. -/
def participantIds (preflight : AuditRetirementPreflight) (events : Table AuditEvent.pk) : List Nat :=
  if preflight.participantsOmitted = 0 then preflight.participants.map (·.pk)
  else ((events.rows.filter fun e => e.cluster == some cluster && (providerActionQuery e.action && e.outcome.active)).insertionSort
    (·.pk ≤ ·.pk)).map (·.pk)

/-- The operations that are read again, by primary key. -/
def foundOperations (preflight : AuditRetirementPreflight) (events : Table AuditEvent.pk) : List AuditEvent :=
  (events.rows.filter fun e => (participantIds cluster preflight events).contains e.pk).insertionSort (·.pk ≤ ·.pk)

/-- What is written, and what is answered, for the operations read again. -/
def cancelOperations (preflight : AuditRetirementPreflight) (found : List AuditEvent) (events : Serial AuditEvent.pk) :
    AuditRetirementResult × Serial AuditEvent.pk :=
  let changed := found.filter (·.cancellable mode)
  ({ queuedCancelled := changed.countP (·.outcome == .queued)
     runningAbandoned := changed.countP (·.outcome == .running)
     participants := preflight.participants
     participantCount := preflight.participantCount
     participantsOmitted := preflight.participantsOmitted },
    events.updateWhere (fun e => (changed.map (·.pk)).contains e.pk) (·.cancelledBy mode retiredAt)
      (AuditEvent.cancelledBy_pk mode retiredAt))

/-- `finalize_cluster_retirement_audit_operations`, over the Audit rows. -/
def finalizeClusterRetirementAuditOperations (mode : String) :
    EStateM AuditRetirementError (Serial AuditEvent.pk) AuditRetirementResult :=
  atomic fun events =>
    match retirementMode mode with
    | none => .error (.unsupportedMode mode) events
    | some mode =>
      let preflight := auditRetirementPreflight cluster mode true events.table
      if !preflight.gateClear then .error (.blocked preflight) events
      else
        let written := cancelOperations mode retiredAt preflight (foundOperations cluster preflight events.table) events
        .ok written.1 written.2

/-- The operations that a retirement is to cancel. -/
def AuditEvent.Cancels (e : AuditEvent) : Prop :=
  e.cluster = some cluster ∧ isProviderAction e.action = true ∧ (e.outcome = .queued ∨ mode = .forced ∧ e.outcome = .running)

instance (e : AuditEvent) : Decidable (e.Cancels cluster mode) := inferInstanceAs (Decidable (_ ∧ _ ∧ _))

end

section
variable {cluster : Nat} {mode : RetirementMode} {retiredAt : Time} {events : Serial AuditEvent.pk}

/-! ## One meaning of the provider actions -/

theorem configuration_not_guest : ∀ a ∈ clusterConfigurationAuditActions, Text.startsWith a "guest." = false := by
  simp only [clusterConfigurationAuditActions, List.forall_mem_cons]
  and_intros
  all_goals first | exact Text.startsWith_ofList _ _ | simp

theorem configuration_not_provider : ∀ a ∈ clusterConfigurationAuditActions, a ∉ clusterProviderAuditActions := by
  simp [clusterConfigurationAuditActions, clusterProviderAuditActions, clusterOperatorInitiatedAuditActions,
    clusterMachineInitiatedAuditActions, Clusters.machineInitiatedFootprintReasons]

theorem provider_not_configuration {action : String} (h : isProviderAction action = true) :
    clusterConfigurationAuditActions.contains action = false := by
  cases hc : clusterConfigurationAuditActions.contains action with
  | false => rfl
  | true =>
    have hmem := List.contains_iff_mem.mp hc
    simp [isProviderAction, clusterProviderAuditActionPrefixes, configuration_not_provider action hmem,
      configuration_not_guest action hmem] at h

theorem AuditEvent.candidate_cluster {e : AuditEvent} (h : e.candidate cluster = true) : e.cluster = some cluster := by
  simp only [AuditEvent.candidate, Bool.and_eq_true, beq_iff_eq] at h
  exact h.1.1

/-- A provider operation under way is a candidate. -/
theorem AuditEvent.candidate_of_active {e : AuditEvent} (hof : e.cluster = some cluster)
    (hprovider : isProviderAction e.action = true) (hactive : e.outcome.active = true) : e.candidate cluster = true := by
  simp only [AuditEvent.candidate, hof, hactive, provider_not_configuration hprovider, beq_self_eq_true, Bool.true_or,
    Bool.not_false, Bool.and_self]

theorem providerActionQuery_eq (action : String) : providerActionQuery action = isProviderAction action := by
  have hprefixes : (clusterProviderAuditActionPrefixes.any fun start => Sql.like (Sql.startingWith start) action == some true) =
      clusterProviderAuditActionPrefixes.any (Text.startsWith action) := by
    congr 1
    funext start
    rw [Sql.like_startsWith]
    cases Text.startsWith action start with
    | true => rfl
    | false => rfl
  rw [providerActionQuery, hprefixes, isProviderAction]

theorem auditCandidates_eq (cluster : Nat) (events : Table AuditEvent.pk) :
    auditCandidates cluster events = (events.rows.filter (·.candidate cluster)).insertionSort (·.pk ≤ ·.pk) := by
  unfold auditCandidates AuditEvent.candidate
  simp only [providerActionQuery_eq]

theorem mem_auditCandidates {table : Table AuditEvent.pk} {e : AuditEvent} :
    e ∈ auditCandidates cluster table ↔ e ∈ table.rows ∧ e.candidate cluster = true := by
  rw [auditCandidates_eq, List.mem_insertionSort, List.mem_filter]

/-- The view under lock is the database's. -/
theorem auditRetirementPreflight_lock (cluster : Nat) (mode : RetirementMode) (events : Table AuditEvent.pk) :
    auditRetirementPreflight cluster mode true events = auditRetirementPreflight cluster mode false events := by
  unfold auditRetirementPreflight
  simp only [providerActionQuery_eq, if_true, Bool.false_eq_true, if_false, List.map_take, List.take_take, Nat.min_self]

/-! ## A clear gate -/

/-- Where two conditions that exclude each other count every element, each element meets one. -/
theorem forall_of_countP_add {α : Type} {p q : α → Bool} {l : List α} (hdisjoint : ∀ x ∈ l, p x = true → q x = false)
    (h : (l.length : Int) - l.countP p - l.countP q = 0) : ∀ x ∈ l, p x = true ∨ q x = true := by
  have hor : l.countP (fun x => p x || q x) = l.countP p + l.countP q := by
    clear h
    induction l with
    | nil => rfl
    | cons x l ih =>
      have hrest := ih fun y hy => hdisjoint y (List.mem_cons_of_mem _ hy)
      have hx := hdisjoint x List.mem_cons_self
      cases hp : p x <;> cases hq : q x <;> simp_all <;> omega
  have hall : l.countP (fun x => p x || q x) = l.length := by
    have hle := List.countP_le_length (p := fun x => p x || q x) (l := l)
    omega
  intro x hx
  exact Bool.or_eq_true_iff.mp (List.countP_eq_length.mp hall x hx)

/-- Under a clear gate the candidates are the provider operations under way. -/
theorem candidate_iff (hgate : (auditRetirementPreflight cluster mode true events.table).gateClear = true) {e : AuditEvent}
    (he : e ∈ events.table.rows) :
    e.candidate cluster = true ↔ e.cluster = some cluster ∧ isProviderAction e.action = true ∧ e.outcome.active = true := by
  constructor
  · intro hcandidate
    unfold AuditRetirementPreflight.gateClear GateCounts.clear AuditRetirementPreflight.counts auditRetirementPreflight at hgate
    simp only [if_true, Bool.and_eq_true, decide_eq_true_eq] at hgate
    have hmem := mem_auditCandidates.mpr ⟨he, hcandidate⟩
    have hcounted := forall_of_countP_add (fun x _ hx => by
      simp only [Bool.and_eq_true, beq_iff_eq] at hx
      rw [hx.2]
      exact Bool.and_false _) hgate.1 e hmem
    simp only [Bool.and_eq_true, beq_iff_eq] at hcounted
    refine ⟨AuditEvent.candidate_cluster hcandidate, ?_⟩
    rcases hcounted with ⟨hprovider, houtcome⟩ | ⟨hprovider, houtcome⟩
    · exact ⟨hprovider, by rw [houtcome]; rfl⟩
    · exact ⟨hprovider, by rw [houtcome]; rfl⟩
  · rintro ⟨hof, hprovider, hactive⟩
    exact AuditEvent.candidate_of_active hof hprovider hactive

/-- Whether or not the list of participants is cut, those read again are the provider operations under way. -/
theorem mem_participantIds (hgate : (auditRetirementPreflight cluster mode true events.table).gateClear = true) {e : AuditEvent}
    (he : e ∈ events.table.rows) :
    e.pk ∈ participantIds cluster (auditRetirementPreflight cluster mode true events.table) events.table ↔
      e.cluster = some cluster ∧ isProviderAction e.action = true ∧ e.outcome.active = true := by
  unfold participantIds
  split
  · next hall =>
    have hlength : (auditCandidates cluster events.table).length ≤ retirementDetailLimit := by
      unfold auditRetirementPreflight at hall
      simp only [if_true, List.length_take, List.length_map] at hall
      omega
    have hparticipants : (auditRetirementPreflight cluster mode true events.table).participants =
        (auditCandidates cluster events.table).map (·.participant) := by
      unfold auditRetirementPreflight
      simp only [if_true]
      exact List.take_of_length_le (by rwa [List.length_map])
    rw [hparticipants, List.map_map, ← candidate_iff hgate he, List.mem_map]
    constructor
    · rintro ⟨x, hx, hpk⟩
      obtain ⟨hrow, hcandidate⟩ := mem_auditCandidates.mp hx
      exact Table.eq_of_mem_of_key hrow he hpk ▸ hcandidate
    · intro hcandidate
      exact ⟨e, mem_auditCandidates.mpr ⟨he, hcandidate⟩, rfl⟩
  · simp only [List.mem_map, List.mem_insertionSort, List.mem_filter, Bool.and_eq_true, beq_iff_eq, providerActionQuery_eq]
    constructor
    · rintro ⟨x, ⟨hrow, hx⟩, hpk⟩
      exact Table.eq_of_mem_of_key hrow he hpk ▸ hx
    · intro hx
      exact ⟨e, ⟨he, hx⟩, rfl⟩

/-- The operations that are changed are those to be cancelled. -/
theorem cancels_iff (hgate : (auditRetirementPreflight cluster mode true events.table).gateClear = true) {e : AuditEvent}
    (he : e ∈ events.table.rows) :
    e.pk ∈ participantIds cluster (auditRetirementPreflight cluster mode true events.table) events.table ∧
      e.cancellable mode = true ↔ e.Cancels cluster mode := by
  rw [mem_participantIds hgate he]
  unfold AuditEvent.cancellable AuditEvent.Cancels
  cases e.outcome <;> cases mode <;> simp [AuditOutcome.active]

/-- A clear gate of a verified retirement leaves no candidate running. -/
theorem not_running_of_gate (hgate : (auditRetirementPreflight cluster .verified true events.table).gateClear = true)
    {e : AuditEvent} (he : e ∈ events.table.rows) (hof : e.cluster = some cluster) (hprovider : isProviderAction e.action = true) :
    e.outcome ≠ .running := by
  intro hrunning
  unfold AuditRetirementPreflight.gateClear GateCounts.clear AuditRetirementPreflight.counts auditRetirementPreflight at hgate
  simp only [if_true, Bool.and_eq_true, Bool.or_eq_true, decide_eq_true_eq, reduceCtorEq, false_or] at hgate
  have hcandidate : e.candidate cluster = true := AuditEvent.candidate_of_active hof hprovider (by rw [hrunning]; rfl)
  have hnone := List.countP_eq_zero.mp hgate.2 e (mem_auditCandidates.mpr ⟨he, hcandidate⟩)
  simp [hprovider, hrunning] at hnone

/-- Under a clear gate an operation under way is one to be cancelled. -/
theorem cancels_of_active (hgate : (auditRetirementPreflight cluster mode true events.table).gateClear = true) {e : AuditEvent}
    (he : e ∈ events.table.rows) (hof : e.cluster = some cluster) (hprovider : isProviderAction e.action = true)
    (hactive : e.outcome.active = true) : e.Cancels cluster mode := by
  refine ⟨hof, hprovider, ?_⟩
  cases hst : e.outcome with
  | queued => exact .inl rfl
  | running =>
    cases mode with
    | verified => exact absurd hst (not_running_of_gate hgate he hof hprovider)
    | forced => exact .inr ⟨rfl, rfl⟩
  | _ =>
    rw [hst] at hactive
    cases hactive

/-- What is cancelled of one outcome is what the gate counted of it. -/
theorem countP_changed (hgate : (auditRetirementPreflight cluster mode true events.table).gateClear = true)
    {outcome : AuditOutcome} (hactive : outcome.active = true) :
    ((foundOperations cluster (auditRetirementPreflight cluster mode true events.table) events.table).filter
        (·.cancellable mode)).countP (·.outcome == outcome) =
      (auditCandidates cluster events.table).countP fun e => isProviderAction e.action && e.outcome == outcome := by
  rw [foundOperations, List.countP_filter, (List.perm_insertionSort _ _).countP_eq, List.countP_filter, auditCandidates_eq,
    (List.perm_insertionSort _ _).countP_eq, List.countP_filter]
  refine List.countP_congr fun e he => ?_
  simp only [Bool.and_eq_true, beq_iff_eq, List.contains_iff_mem]
  constructor
  · rintro ⟨⟨houtcome, hcancellable⟩, hid⟩
    obtain ⟨hof, hprovider, -⟩ := (cancels_iff hgate he).mp ⟨hid, hcancellable⟩
    exact ⟨⟨hprovider, houtcome⟩, AuditEvent.candidate_of_active hof hprovider (houtcome ▸ hactive)⟩
  · rintro ⟨⟨hprovider, houtcome⟩, hcandidate⟩
    have hcancels := cancels_of_active hgate he (AuditEvent.candidate_cluster hcandidate) hprovider (houtcome ▸ hactive)
    obtain ⟨hid, hcancellable⟩ := (cancels_iff hgate he).mpr hcancels
    exact ⟨⟨houtcome, hcancellable⟩, hid⟩

/-! ## The finalizer -/

theorem finalize_unsupported {text : String} (h : retirementMode text = none) (events : Serial AuditEvent.pk) :
    finalizeClusterRetirementAuditOperations cluster retiredAt text events = .error (.unsupportedMode text) events := by
  unfold finalizeClusterRetirementAuditOperations atomic
  simp only [h]

theorem finalize_blocked {text : String} (h : retirementMode text = some mode)
    (hgate : (auditRetirementPreflight cluster mode true events.table).gateClear = false) :
    finalizeClusterRetirementAuditOperations cluster retiredAt text events =
      .error (.blocked (auditRetirementPreflight cluster mode true events.table)) events := by
  unfold finalizeClusterRetirementAuditOperations atomic
  simp only [h, hgate, Bool.not_false, if_true]

/-- Under a clear gate exactly the operations to be cancelled change, and none of the cluster is under way after. -/
theorem finalize_clear {text : String} (h : retirementMode text = some mode)
    (hgate : (auditRetirementPreflight cluster mode true events.table).gateClear = true) :
    ∃ result events', finalizeClusterRetirementAuditOperations cluster retiredAt text events = .ok result events' ∧
      (result.queuedCancelled = (auditRetirementPreflight cluster mode false events.table).queuedCount ∧
        result.runningAbandoned = (auditRetirementPreflight cluster mode false events.table).runningCount) ∧
      (∀ pk, events'.table.get pk = (events.table.get pk).map fun e =>
        if e.Cancels cluster mode then e.cancelledBy mode retiredAt else e) ∧
      ∀ e ∈ events'.table.rows, e.cluster = some cluster → isProviderAction e.action = true → e.outcome.active = false := by
  have hget : ∀ pk, (cancelOperations mode retiredAt (auditRetirementPreflight cluster mode true events.table)
      (foundOperations cluster (auditRetirementPreflight cluster mode true events.table) events.table) events).2.table.get pk =
      (events.table.get pk).map fun e => if e.Cancels cluster mode then e.cancelledBy mode retiredAt else e := by
    intro pk
    rw [cancelOperations, foundOperations, Serial.get_updateWhere]
    refine Option.map_congr fun e he => ?_
    have hrow := Table.mem_of_get he
    refine if_congr ?_ rfl rfl
    rw [← cancels_iff hgate hrow, List.contains_iff_mem]
    simp only [List.mem_map, List.mem_filter, List.mem_insertionSort, List.contains_iff_mem]
    constructor
    · rintro ⟨x, ⟨⟨hx, hid⟩, hcancellable⟩, hpk⟩
      obtain rfl := Table.eq_of_mem_of_key hx hrow hpk
      exact ⟨hid, hcancellable⟩
    · rintro ⟨hid, hcancellable⟩
      exact ⟨e, ⟨⟨hrow, hid⟩, hcancellable⟩, rfl⟩
  refine ⟨(cancelOperations mode retiredAt (auditRetirementPreflight cluster mode true events.table)
    (foundOperations cluster (auditRetirementPreflight cluster mode true events.table) events.table) events).1, _,
    ?_, ⟨?_, ?_⟩, hget, ?_⟩
  · unfold finalizeClusterRetirementAuditOperations atomic
    simp only [h, hgate, Bool.not_true, Bool.false_eq_true, if_false]
  · rw [← auditRetirementPreflight_lock]
    exact countP_changed hgate rfl
  · rw [← auditRetirementPreflight_lock]
    exact countP_changed hgate rfl
  · intro e he hof hprovider
    have hrow := Table.get_of_mem he
    rw [hget, Option.map_eq_some_iff] at hrow
    obtain ⟨e₀, he₀, hrow⟩ := hrow
    split at hrow
    · subst hrow
      rfl
    · next hkept =>
      subst hrow
      refine Bool.eq_false_iff.mpr fun hactive => hkept ?_
      exact cancels_of_active hgate (Table.mem_of_get he₀) hof hprovider hactive

/-- The two views of a retirement agree on every table; an unsupported mode and a gate that is not clear raise and
change nothing, and under a clear gate the finalizer cancels the provider operations under way and no other row. -/
theorem audit_views_agree (cluster : Nat) (text : String) (retiredAt : Time) (events : Serial AuditEvent.pk) :
    (∀ mode, auditRetirementPreflight cluster mode true events.table = auditRetirementPreflight cluster mode false events.table) ∧
    match retirementMode text with
    | none => finalizeClusterRetirementAuditOperations cluster retiredAt text events = .error (.unsupportedMode text) events
    | some mode =>
      if (auditRetirementPreflight cluster mode false events.table).gateClear then
        ∃ result events', finalizeClusterRetirementAuditOperations cluster retiredAt text events = .ok result events' ∧
          (result.queuedCancelled = (auditRetirementPreflight cluster mode false events.table).queuedCount ∧
            result.runningAbandoned = (auditRetirementPreflight cluster mode false events.table).runningCount) ∧
          (∀ pk, events'.table.get pk = (events.table.get pk).map fun e =>
            if e.Cancels cluster mode then e.cancelledBy mode retiredAt else e) ∧
          ∀ e ∈ events'.table.rows, e.cluster = some cluster → isProviderAction e.action = true → e.outcome.active = false
      else
        finalizeClusterRetirementAuditOperations cluster retiredAt text events =
          .error (.blocked (auditRetirementPreflight cluster mode false events.table)) events := by
  refine ⟨fun mode => auditRetirementPreflight_lock cluster mode events.table, ?_⟩
  cases h : retirementMode text with
  | none => exact finalize_unsupported h events
  | some mode =>
    dsimp only
    rw [← auditRetirementPreflight_lock]
    split
    · next hgate =>
      rw [auditRetirementPreflight_lock]
      exact finalize_clear h hgate
    · next hgate => exact finalize_blocked h (Bool.eq_false_iff.mpr hgate)

end

end PveHelper.Retirement
