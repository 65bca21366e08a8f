/-
The operational footprint of a connection, after
`core/services/cluster_footprint.py`, the stamp of `record_audit_event` and
`core/services/cluster_deletion_eligibility.py`. A stamp is two conditional
updates behind a look at the caller's own copy of the row, and nothing holds a
lock across them: each update is a step of its own here, and a copy may be as
old as it likes. What makes this safe is that the stored marker only advances,
so an old copy shows less than the row, never more.
-/
import PveHelper.Lib.Table
import PveHelper.Lib.Trans

namespace PveHelper.Clusters

open Lib

/-! ## Reasons -/

def footprintProviderOperation : String := "provider_operation"
def footprintScanObservation : String := "scan_observation"
def footprintGuestProjection : String := "guest_projection"
def footprintStorageProjection : String := "storage_projection"
def footprintHostProjection : String := "host_projection"
def footprintConsoleSession : String := "console_session"
def footprintInventoryBootstrap : String := "inventory_bootstrap"

/-- Footprint an operator caused. -/
def operatorFootprintReasons : List String := [footprintProviderOperation, footprintConsoleSession]

/-- Footprint a background job caused, which the next refresh rebuilds. -/
def reconstructibleFootprintReasons : List String :=
  [footprintScanObservation, footprintGuestProjection, footprintStorageProjection, footprintHostProjection,
    footprintInventoryBootstrap]

theorem not_reconstructible_of_operator {reason : String} (h : reason ∈ operatorFootprintReasons) :
    reason ∉ reconstructibleFootprintReasons := by
  simp only [operatorFootprintReasons, List.mem_cons, List.not_mem_nil, or_false] at h
  obtain rfl | rfl := h <;> decide

/-- The columns of `ProxmoxCluster` that stamping and eligibility read. -/
structure ProxmoxCluster where
  pk : Nat
  key : String
  retiredAt : Option Nat := none
  operationalFootprintAt : Option Nat := none
  operationalFootprintReason : String := ""
  deriving DecidableEq

namespace ProxmoxCluster

/-- The marker is set and names a reason of the operators' list. -/
def operatorGrade (c : ProxmoxCluster) : Bool :=
  c.operationalFootprintAt.isSome && operatorFootprintReasons.contains c.operationalFootprintReason

/-- The row of a connection that has been retired. -/
def retired (now : Nat) (c : ProxmoxCluster) : ProxmoxCluster := { c with retiredAt := some now }

theorem retired_pk (now : Nat) (c : ProxmoxCluster) : (c.retired now).pk = c.pk := rfl

/-- The marker is set and its reason is not on the allowlist of the background jobs. -/
def Blocking (c : ProxmoxCluster) : Prop :=
  c.operationalFootprintAt ≠ none ∧ c.operationalFootprintReason ∉ reconstructibleFootprintReasons

end ProxmoxCluster

/-! ## The two updates of a stamp -/

/-- What a caller passes: a row it loaded some time ago, or a primary key. -/
inductive Subject
  | row (copy : ProxmoxCluster)
  | pk (id : Option Nat)
  deriving DecidableEq

/-- The cluster the updates are for; none where the stamp returns before them. -/
def Subject.clusterId : Subject → Option Nat
  | .row copy => if copy.operatorGrade then none else some copy.pk
  | .pk id => id

section
variable (clusters : Table ProxmoxCluster.pk) (id : Nat) (reason : String)

/-- The rows the first update selects. -/
def unmarked (c : ProxmoxCluster) : Bool := decide (c.pk = id) && c.operationalFootprintAt.isNone

/-- `filter(pk=.., operational_footprint_at__isnull=True).update(..)`. -/
def markFootprint (now : Nat) : Table ProxmoxCluster.pk :=
  clusters.updateWhere (unmarked id)
    (fun c => { c with operationalFootprintAt := some now, operationalFootprintReason := reason }) fun _ => rfl

/-- Whether the first update selected a row. -/
def updated : Bool := clusters.rows.any (unmarked id)

/-- The rows the second update selects. -/
def reconstructible (c : ProxmoxCluster) : Bool :=
  decide (c.pk = id) && reconstructibleFootprintReasons.contains c.operationalFootprintReason

/-- `filter(pk=.., operational_footprint_reason__in=..).update(..)`. -/
def upgradeFootprint : Table ProxmoxCluster.pk :=
  clusters.updateWhere (reconstructible id) (fun c => { c with operationalFootprintReason := reason }) fun _ => rfl

end

/-- `stamp_operational_footprint`, uninterrupted: the rows it leaves and its answer. -/
def stampOperationalFootprint (clusters : Table ProxmoxCluster.pk) (subject : Subject) (reason : String) (now : Nat) :
    Table ProxmoxCluster.pk × Bool :=
  match subject.clusterId with
  | none => (clusters, false)
  | some id =>
    let updated := updated clusters id
    let marked := markFootprint clusters id reason now
    if !updated && operatorFootprintReasons.contains reason then (upgradeFootprint marked id reason, updated)
    else (marked, updated)

/-! ## Audit events -/

/-- Connection and lifecycle management, which is no footprint. -/
def clusterConfigurationAuditActions : List String :=
  ["cluster.add", "cluster.added", "cluster.credential.cutover", "cluster.credential.rotate",
    "cluster.credential.set", "cluster.credential_removed", "cluster.credential_rotated", "cluster.disabled",
    "cluster.display_name_changed", "cluster.enabled", "cluster.endpoint_added", "cluster.endpoint_disabled",
    "cluster.endpoint_enabled", "cluster.force_retired", "cluster.identity.reapprove",
    "cluster.identity_reapproved", "cluster.initial_key.set", "cluster.node.enrolled",
    "cluster.node.enrollment_failed", "cluster.node.mode_changed", "cluster.node.removed", "cluster.retired",
    "cluster.retirement_preflight_identity_mismatch", "cluster.retirement_refused",
    "cluster.retirement_verification_failed", "cluster.transport.approve", "cluster.trust.cutover",
    "cluster.topology_handoff_completed", "cluster.topology_handoff_storage_applied",
    "cluster.topology_handoff_storage_refused", "cluster.topology_membership_recovered",
    "cluster.topology_pending_repaired", "cluster.topology_transition_detected",
    "cluster.topology_transition_withdrawn", "cluster.unused_connection_deleted", "cluster.updated"]

/-- `MACHINE_INITIATED_FOOTPRINT_REASONS`. -/
def machineInitiatedFootprintReasons : List (String × String) :=
  [("cluster.inventory.bootstrap", footprintInventoryBootstrap)]

def clusterMachineInitiatedAuditActions : List String := machineInitiatedFootprintReasons.map Prod.fst

/-- The reason `record_audit_event` stamps for an action, if any. -/
def auditFootprintReason (action : String) : Option String :=
  if clusterConfigurationAuditActions.contains action then none
  else some ((machineInitiatedFootprintReasons.lookup action).getD footprintProviderOperation)

/-! ## Eligibility for deletion -/

/-- `RelationClass`. -/
inductive RelationClass
  | config
  | retainedHistory
  | currentProjection
  | storageOwned
  | operatorSafetyInput
  | durableOperation
  | operational
  deriving DecidableEq

def RelationClass.value : RelationClass → String
  | .config => "config"
  | .retainedHistory => "retained_history"
  | .currentProjection => "current_projection"
  | .storageOwned => "storage_owned"
  | .operatorSafetyInput => "operator_safety_input"
  | .durableOperation => "durable_operation"
  | .operational => "operational"

/-- `RelationClassification`; the note is read for a relation that blocks only. -/
structure RelationClassification where
  accessor : String
  kind : RelationClass
  blocksHardDelete : Bool := false
  note : String := ""

/-- `CLUSTER_REVERSE_RELATIONS`. -/
def clusterReverseRelations : List RelationClassification :=
  [⟨"credential", .config, false, ""⟩, ⟨"transport_trust", .config, false, ""⟩, ⟨"endpoints", .config, false, ""⟩,
    ⟨"node_enrollments", .config, false, ""⟩, ⟨"topology_handoff_storage_bindings", .config, false, ""⟩,
    ⟨"audit_events", .retainedHistory, true, "Preserved on retirement. Hard delete keeps only allowlisted config " ++
      "events and detaches the relation; any operational event blocks."⟩,
    ⟨"proxmox_objects", .currentProjection, false, ""⟩, ⟨"scan_observations", .operational, false, ""⟩,
    ⟨"storage_space_snapshots", .operational, false, ""⟩, ⟨"current_guests", .currentProjection, false, ""⟩,
    ⟨"inventory_state", .currentProjection, false, ""⟩, ⟨"storage_catalog_state", .storageOwned, false, ""⟩,
    ⟨"storage_definitions", .storageOwned, false, ""⟩,
    ⟨"storage_consumers", .operatorSafetyInput, true, "PROTECT; explicit per-consumer resolution, never inferred. " ++
      "Any row blocks."⟩,
    ⟨"scheduled_actions", .durableOperation, true, "Stop future dispatch (soft-delete), preserve run history. " ++
      "Any row blocks."⟩,
    ⟨"membership_state", .currentProjection, false, ""⟩, ⟨"node_states", .currentProjection, false, ""⟩,
    ⟨"node_interfaces", .currentProjection, false, ""⟩, ⟨"projection_coverage", .currentProjection, false, ""⟩,
    ⟨"console_sessions", .operational, true, "SET_NULL and retention-purged, so the durable signal is " ++
      "operational_footprint_at; remaining rows have provider secrets blanked. Any row blocks."⟩]

/-- A row of a reverse relation; an Audit event has its action. -/
structure RelatedRow where
  accessor : String
  cluster : Nat
  action : String := ""
  deriving DecidableEq

/-- `DeletionBlocker`. -/
structure DeletionBlocker where
  relation : String
  kind : String
  count : Nat
  detail : String

/-- `DeletionEligibility`. -/
structure DeletionEligibility where
  clusterKey : String
  eligible : Bool
  blockers : List DeletionBlocker

section
variable (cluster : ProxmoxCluster)

def retiredBlocker : List DeletionBlocker :=
  if cluster.retiredAt.isSome then
    [⟨"lifecycle.retired", "retired", 1, "A retired cluster permanently reserves its key and is never hard-deleted."⟩]
  else []

def footprintBlocker : List DeletionBlocker :=
  if cluster.operationalFootprintAt.isSome
      && !reconstructibleFootprintReasons.contains cluster.operationalFootprintReason then
    let named := if cluster.operationalFootprintReason = "" then "unspecified" else cluster.operationalFootprintReason
    [⟨"operational_footprint", "footprint_marker", 1, "Durable operator footprint recorded (" ++ named ++
      "); eligibility can never be recovered by waiting for timed retention to run."⟩]
  else []

/-- The rows of a relation that count against the deletion. -/
def countsAgainst (accessor : String) (r : RelatedRow) : Bool :=
  r.accessor == accessor && r.cluster == cluster.pk &&
    !(accessor == "audit_events" &&
      (clusterConfigurationAuditActions ++ clusterMachineInitiatedAuditActions).contains r.action)

def relationBlocker (rows : List RelatedRow) (accessor : String) : List DeletionBlocker :=
  match clusterReverseRelations.find? (·.accessor == accessor) with
  | none => [⟨accessor, "unclassified_relation", 0, "Reverse relation is not classified by " ++
      "CLUSTER_REVERSE_RELATIONS; hard deletion fails closed until it is."⟩]
  | some classification =>
    let count := rows.countP (countsAgainst cluster accessor)
    if classification.blocksHardDelete && count != 0 then
      [⟨accessor, classification.kind.value, count, classification.note⟩]
    else []

/-- `unused_connection_deletion_eligibility`, for the live reverse relations `fields`. -/
def unusedConnectionDeletionEligibility (fields : List String) (rows : List RelatedRow) : DeletionEligibility :=
  let blockers := retiredBlocker cluster ++ footprintBlocker cluster ++ fields.flatMap (relationBlocker cluster rows)
  ⟨cluster.key, blockers.isEmpty, blockers⟩

end

/-! ## Callers at work -/

/-- A stamp on its way: the cluster its updates are for, and its reason. -/
structure StampCall where
  clusterId : Nat
  reason : String
  deriving DecidableEq

structure FootprintSystem where
  clusters : Table ProxmoxCluster.pk
  related : List RelatedRow
  /-- The rows callers have loaded, as they were then. -/
  copies : List ProxmoxCluster := []
  /-- The stamps before their first update. -/
  calls : List StampCall := []
  /-- The operator-grade stamps whose first update changed nothing, before their second. -/
  upgrades : List StampCall := []
  /-- The clusters an operator-grade stamp has returned for. -/
  stamped : List Nat := []

/-- Nothing under way yet; the stored rows are any. -/
def FootprintSystem.Idle (s : FootprintSystem) : Prop :=
  s.copies = [] ∧ s.calls = [] ∧ s.upgrades = [] ∧ s.stamped = []

inductive FootprintAction
  /-- A caller loads a row. -/
  | load (pk : Nat)
  /-- A caller stamps; with a row, with one it has loaded. -/
  | stamp (subject : Subject) (reason : String)
  /-- `record_audit_event` for a row the caller has loaded. -/
  | audit (copy : ProxmoxCluster) (action : String)
  /-- The first update of a stamp under way. -/
  | mark (call : StampCall) (now : Nat)
  /-- The second update of a stamp under way. -/
  | upgrade (call : StampCall)
  /-- Any row of any relation is written. -/
  | record (row : RelatedRow)
  /-- A retention purge, whatever it keeps. -/
  | purge (kept : RelatedRow → Bool)
  | retire (pk now : Nat)

/-- Whether the caller holds what it passes. -/
def Subject.heldIn (copies : List ProxmoxCluster) : Subject → Bool
  | .row copy => copies.contains copy
  | .pk _ => true

/-- The cluster of a stamp that returns at once, if it is an operator's. -/
def Subject.returned (reason : String) : Subject → List Nat
  | .row copy => if copy.operatorGrade && operatorFootprintReasons.contains reason then [copy.pk] else []
  | .pk _ => []

/-- A stamp up to its first update. -/
def FootprintSystem.begin (s : FootprintSystem) (subject : Subject) (reason : String) : FootprintSystem :=
  { s with
    calls := s.calls ++ subject.clusterId.toList.map (⟨·, reason⟩)
    stamped := s.stamped ++ subject.returned reason }

/-- The first update of a stamp, and whether the stamp is over with it. -/
def FootprintSystem.mark (s : FootprintSystem) (call : StampCall) (now : Nat) : FootprintSystem :=
  let operator := operatorFootprintReasons.contains call.reason
  { s with
    clusters := markFootprint s.clusters call.clusterId call.reason now
    calls := s.calls.erase call
    upgrades := if !updated s.clusters call.clusterId && operator then s.upgrades ++ [call] else s.upgrades
    stamped := if updated s.clusters call.clusterId && operator then s.stamped ++ [call.clusterId] else s.stamped }

/-- The second update of a stamp. -/
def FootprintSystem.upgrade (s : FootprintSystem) (call : StampCall) : FootprintSystem :=
  { s with
    clusters := upgradeFootprint s.clusters call.clusterId call.reason
    upgrades := s.upgrades.erase call
    stamped := s.stamped ++ [call.clusterId] }

def footprintStep (s : FootprintSystem) : FootprintAction → Option FootprintSystem
  | .load pk => (s.clusters.get pk).map fun c => { s with copies := s.copies ++ [c] }
  | .stamp subject reason => if subject.heldIn s.copies then some (s.begin subject reason) else none
  | .audit copy action =>
    if s.copies.contains copy then
      let recorded := { s with related := s.related ++ [⟨"audit_events", copy.pk, action⟩] }
      match auditFootprintReason action with
      | none => some recorded
      | some reason => some (recorded.begin (.row copy) reason)
    else none
  | .mark call now => if s.calls.contains call then some (s.mark call now) else none
  | .upgrade call => if s.upgrades.contains call then some (s.upgrade call) else none
  | .record row => some { s with related := s.related ++ [row] }
  | .purge kept => some { s with related := s.related.filter kept }
  | .retire pk now =>
    some { s with clusters := s.clusters.alter pk (ProxmoxCluster.retired now) (ProxmoxCluster.retired_pk now) }

/-! ## The marker advances -/

/-- What a marker says. -/
inductive Level
  | unset
  | reconstructible
  | operator
  /-- A reason of neither list, which blocks as an operator's does. -/
  | unclassified
  deriving DecidableEq

def ProxmoxCluster.level (c : ProxmoxCluster) : Level :=
  if c.operationalFootprintAt = none then .unset
  else if c.operationalFootprintReason ∈ operatorFootprintReasons then .operator
  else if c.operationalFootprintReason ∈ reconstructibleFootprintReasons then .reconstructible
  else .unclassified

/-- `c'` carries a marker at least as far along as `c`'s, with the time it was first set. -/
structure ProxmoxCluster.Advances (c c' : ProxmoxCluster) : Prop where
  time : ∀ t, c.operationalFootprintAt = some t → c'.operationalFootprintAt = some t
  level : c'.level = c.level ∨ c.level = .unset ∨ (c.level = .reconstructible ∧ c'.level = .operator)
  reason : c.operationalFootprintAt ≠ none → c'.operationalFootprintReason = c.operationalFootprintReason ∨
    (c.level = .reconstructible ∧ c'.level = .operator)

namespace ProxmoxCluster

variable {c c' c'' : ProxmoxCluster}

theorem level_eq_unset : c.level = .unset ↔ c.operationalFootprintAt = none := by
  unfold level
  split
  · simp [*]
  · split
    · simp [*]
    · split <;> simp [*]

theorem level_eq_reconstructible : c.level = .reconstructible ↔
    c.operationalFootprintAt ≠ none ∧ c.operationalFootprintReason ∈ reconstructibleFootprintReasons := by
  unfold level
  by_cases ht : c.operationalFootprintAt = none
  · simp [ht]
  · by_cases ho : c.operationalFootprintReason ∈ operatorFootprintReasons
    · simp [ht, ho, not_reconstructible_of_operator ho]
    · by_cases hr : c.operationalFootprintReason ∈ reconstructibleFootprintReasons <;> simp [ht, ho, hr]

theorem level_eq_operator : c.level = .operator ↔
    c.operationalFootprintAt ≠ none ∧ c.operationalFootprintReason ∈ operatorFootprintReasons := by
  unfold level
  by_cases ht : c.operationalFootprintAt = none
  · simp [ht]
  · by_cases ho : c.operationalFootprintReason ∈ operatorFootprintReasons
    · simp [ht, ho]
    · by_cases hr : c.operationalFootprintReason ∈ reconstructibleFootprintReasons <;> simp [ht, ho, hr]

theorem operatorGrade_iff : c.operatorGrade = true ↔ c.level = .operator := by
  rw [level_eq_operator, operatorGrade]
  simp [Option.isSome_iff_ne_none]

theorem blocking_of_operator (h : c.level = .operator) : c.Blocking := by
  obtain ⟨ht, ho⟩ := level_eq_operator.mp h
  exact ⟨ht, not_reconstructible_of_operator ho⟩

theorem blocking_iff : c.Blocking ↔ c.level ≠ .unset ∧ c.level ≠ .reconstructible := by
  simp only [Blocking, ne_eq, level_eq_unset, level_eq_reconstructible]
  constructor
  · rintro ⟨ht, hr⟩
    exact ⟨ht, fun h => hr h.2⟩
  · rintro ⟨ht, hr⟩
    exact ⟨ht, fun h => hr ⟨ht, h⟩⟩

namespace Advances

theorem refl (c : ProxmoxCluster) : c.Advances c := ⟨fun _ h => h, .inl rfl, fun _ => .inl rfl⟩

theorem set (h : c.Advances c') (hc : c.operationalFootprintAt ≠ none) : c'.operationalFootprintAt ≠ none := by
  obtain ⟨t, ht⟩ := Option.ne_none_iff_exists'.mp hc
  simp [h.time t ht]

theorem blocking (h : c.Advances c') (hc : c.Blocking) : c'.Blocking := by
  rw [blocking_iff] at hc ⊢
  rcases h.level with hl | hl | ⟨hl, -⟩
  · rwa [hl]
  · exact absurd hl hc.1
  · exact absurd hl hc.2

theorem trans (h : c.Advances c') (h' : c'.Advances c'') : c.Advances c'' where
  time t ht := h'.time t (h.time t ht)
  level := by
    rcases h.level with hl | hl | ⟨hl, ho⟩
    · rw [← hl]
      exact h'.level
    · exact .inr (.inl hl)
    · rcases h'.level with hl' | hl' | ⟨hl', -⟩
      · exact .inr (.inr ⟨hl, hl'.trans ho⟩)
      · simp [ho] at hl'
      · simp [ho] at hl'
  reason hc := by
    have hc' := h.set hc
    have hset : c'.level ≠ .unset := fun he => hc' (level_eq_unset.mp he)
    rcases h.reason hc with hr | ⟨hl, ho⟩
    · rcases h'.reason hc' with hr' | ⟨hl', ho'⟩
      · exact .inl (hr'.trans hr)
      · -- the reason did not change in the first move, and reconstructible is what it was
        refine .inr ⟨?_, ho'⟩
        rw [level_eq_reconstructible] at hl' ⊢
        exact ⟨hc, hr ▸ hl'.2⟩
    · rcases h'.level with hl' | hl' | ⟨hl', -⟩
      · exact .inr ⟨hl, hl'.trans ho⟩
      · exact absurd hl' hset
      · simp [ho] at hl'

/-- An unset marker may become anything. -/
theorem of_unset (hc : c.operationalFootprintAt = none) : c.Advances c' where
  time t ht := by simp [hc] at ht
  level := .inr (.inl (level_eq_unset.mpr hc))
  reason h := absurd hc h

/-- A marker nothing has touched is where it was. -/
theorem of_eq (ht : c'.operationalFootprintAt = c.operationalFootprintAt)
    (hr : c'.operationalFootprintReason = c.operationalFootprintReason) : c.Advances c' where
  time t h := ht.trans h
  level := .inl (by rw [ProxmoxCluster.level, ProxmoxCluster.level, ht, hr])
  reason _ := .inl hr

end Advances

end ProxmoxCluster

/-- Every row is still there, with its marker as far along or further. -/
def Forward (t t' : Table ProxmoxCluster.pk) : Prop :=
  ∀ pk, (t.get pk = none ∧ t'.get pk = none) ∨ ∃ c c', t.get pk = some c ∧ t'.get pk = some c' ∧ c.Advances c'

namespace Forward

variable {t t' t'' : Table ProxmoxCluster.pk}

theorem of_get {f : ProxmoxCluster → ProxmoxCluster} (hf : ∀ c, c ∈ t.rows → c.Advances (f c))
    (h : ∀ pk, t'.get pk = (t.get pk).map f) : Forward t t' := by
  intro pk
  cases hc : t.get pk with
  | none => exact .inl ⟨rfl, by rw [h, hc]; rfl⟩
  | some c => exact .inr ⟨c, f c, rfl, by rw [h, hc]; rfl, hf c (Table.mem_of_get hc)⟩

theorem refl (t : Table ProxmoxCluster.pk) : Forward t t :=
  of_get (f := id) (fun c _ => .refl c) fun pk => by simp

theorem trans (h : Forward t t') (h' : Forward t' t'') : Forward t t'' := by
  intro pk
  rcases h pk with ⟨hn, hn'⟩ | ⟨c, c', hc, hc', ha⟩
  · rcases h' pk with ⟨-, hn''⟩ | ⟨d, -, hd, -, -⟩
    · exact .inl ⟨hn, hn''⟩
    · simp [hn'] at hd
  · rcases h' pk with ⟨hn, -⟩ | ⟨d, d', hd, hd', ha'⟩
    · simp [hc'] at hn
    · obtain rfl : c' = d := Option.some.inj (hc'.symm.trans hd)
      exact .inr ⟨c, d', hc, hd', ha.trans ha'⟩

/-- The row behind a row that is there afterwards. -/
theorem before (h : Forward t t') {pk : Nat} {c' : ProxmoxCluster} (hc' : t'.get pk = some c') :
    ∃ c, t.get pk = some c ∧ c.Advances c' := by
  rcases h pk with ⟨-, hn⟩ | ⟨c, d, hc, hd, ha⟩
  · simp [hn] at hc'
  · obtain rfl : d = c' := Option.some.inj (hd.symm.trans hc')
    exact ⟨c, hc, ha⟩

theorem after (h : Forward t t') {pk : Nat} {c : ProxmoxCluster} (hc : t.get pk = some c) :
    ∃ c', t'.get pk = some c' ∧ c.Advances c' := by
  rcases h pk with ⟨hn, -⟩ | ⟨d, c', hd, hc', ha⟩
  · simp [hn] at hc
  · obtain rfl : d = c := Option.some.inj (hd.symm.trans hc)
    exact ⟨c', hc', ha⟩

end Forward

theorem markFootprint_forward (t : Table ProxmoxCluster.pk) (id : Nat) (reason : String) (now : Nat) :
    Forward t (markFootprint t id reason now) := by
  refine .of_get (fun c _ => ?_) (fun pk => Table.get_updateWhere ..)
  split
  · rename_i h
    simp only [unmarked, Bool.and_eq_true, Option.isNone_iff_eq_none] at h
    exact .of_unset h.2
  · exact .refl c

theorem upgradeFootprint_forward (t : Table ProxmoxCluster.pk) (id : Nat) {reason : String}
    (ho : reason ∈ operatorFootprintReasons) : Forward t (upgradeFootprint t id reason) := by
  refine .of_get (fun c _ => ?_) (fun pk => Table.get_updateWhere ..)
  split
  · rename_i h
    simp only [reconstructible, Bool.and_eq_true, List.contains_iff_mem] at h
    by_cases hc : c.operationalFootprintAt = none
    · exact .of_unset hc
    · have hlevel : c.level = .reconstructible := ProxmoxCluster.level_eq_reconstructible.mpr ⟨hc, h.2⟩
      have hlevel' : ({ c with operationalFootprintReason := reason } : ProxmoxCluster).level = .operator :=
        ProxmoxCluster.level_eq_operator.mpr ⟨hc, ho⟩
      exact ⟨fun t ht => ht, .inr (.inr ⟨hlevel, hlevel'⟩), fun _ => .inr ⟨hlevel, hlevel'⟩⟩
  · exact .refl c

/-- After the first update the cluster has a marker; where it changed the row, the stamp's own. -/
theorem markFootprint_get {t : Table ProxmoxCluster.pk} {id now : Nat} {reason : String} {c : ProxmoxCluster}
    (h : (markFootprint t id reason now).get id = some c) :
    c.operationalFootprintAt ≠ none ∧ (updated t id = true → c.operationalFootprintReason = reason) := by
  rw [markFootprint, Table.get_updateWhere, Option.map_eq_some_iff] at h
  obtain ⟨d, hd, rfl⟩ := h
  have hpk : d.pk = id := Table.key_of_get hd
  by_cases hn : d.operationalFootprintAt = none
  · simp [unmarked, hpk, hn]
  · have hu : unmarked id d = false := by simp [unmarked, Option.isSome_iff_ne_none, hn]
    simp only [hu]
    refine ⟨hn, fun hup => ?_⟩
    simp only [updated, Table.any_rows, unmarked, Bool.and_eq_true, decide_eq_true_eq,
      Option.isNone_iff_eq_none] at hup
    obtain ⟨k, e, he, hek, hen⟩ := hup
    have : k = id := (Table.key_of_get he).symm.trans hek
    subst this
    rw [hd] at he
    exact absurd (Option.some.inj he ▸ hen) hn

/-- After the second update no marked row of the cluster has a background job's reason. -/
theorem upgradeFootprint_get {t : Table ProxmoxCluster.pk} {id : Nat} {reason : String} {c : ProxmoxCluster}
    (ho : reason ∈ operatorFootprintReasons) (h : (upgradeFootprint t id reason).get id = some c) :
    c.operationalFootprintReason ∉ reconstructibleFootprintReasons := by
  rw [upgradeFootprint, Table.get_updateWhere, Option.map_eq_some_iff] at h
  obtain ⟨d, hd, rfl⟩ := h
  have hpk : d.pk = id := Table.key_of_get hd
  by_cases hr : d.operationalFootprintReason ∈ reconstructibleFootprintReasons
  · simpa [reconstructible, hpk, hr] using not_reconstructible_of_operator ho
  · simp [reconstructible, hr]

/-! ## Every interleaving -/

/-- What holds whichever step is next. -/
structure FootprintSystem.Inv (s : FootprintSystem) : Prop where
  copies : ∀ copy ∈ s.copies, ∀ c, s.clusters.get copy.pk = some c → copy.Advances c
  upgrades : ∀ call ∈ s.upgrades, call.reason ∈ operatorFootprintReasons ∧
    ∀ c, s.clusters.get call.clusterId = some c → c.operationalFootprintAt ≠ none
  stamped : ∀ pk ∈ s.stamped, ∀ c, s.clusters.get pk = some c → c.Blocking

namespace FootprintSystem

variable {s s' : FootprintSystem}

theorem Idle.inv (h : s.Idle) : s.Inv := by
  obtain ⟨hc, -, hu, hs⟩ := h
  exact ⟨by simp [hc], by simp [hu], by simp [hs]⟩

/-- The invariant after a step that moves the rows forward, from what it says of
the copies, calls and stamps that the step adds. -/
theorem Inv.forward (hs : s.Inv) (hf : Forward s.clusters s'.clusters)
    (hcopies : ∀ copy ∈ s'.copies, copy ∈ s.copies ∨ ∀ c, s'.clusters.get copy.pk = some c → copy.Advances c)
    (hupgrades : ∀ call ∈ s'.upgrades, call ∈ s.upgrades ∨ (call.reason ∈ operatorFootprintReasons ∧
      ∀ c, s'.clusters.get call.clusterId = some c → c.operationalFootprintAt ≠ none))
    (hstamped : ∀ pk ∈ s'.stamped, pk ∈ s.stamped ∨ ∀ c, s'.clusters.get pk = some c → c.Blocking) : s'.Inv where
  copies copy hm c hc := by
    rcases hcopies copy hm with hm | hnew
    · obtain ⟨d, hd, ha⟩ := hf.before hc
      exact (hs.copies copy hm d hd).trans ha
    · exact hnew c hc
  upgrades call hm := by
    rcases hupgrades call hm with hm | hnew
    · refine ⟨(hs.upgrades call hm).1, fun c hc => ?_⟩
      obtain ⟨d, hd, ha⟩ := hf.before hc
      exact ha.set ((hs.upgrades call hm).2 d hd)
    · exact hnew
  stamped pk hm c hc := by
    rcases hstamped pk hm with hm | hnew
    · obtain ⟨d, hd, ha⟩ := hf.before hc
      exact ha.blocking (hs.stamped pk hm d hd)
    · exact hnew c hc

/-- A copy of operator grade is right about the row, however old it is. -/
theorem Inv.begin (hs : s.Inv) {subject : Subject} (hheld : subject.heldIn s.copies = true) (reason : String) :
    (s.begin subject reason).Inv := by
  refine hs.forward (.refl _) (fun copy hm => .inl hm) (fun call hm => .inl hm) (fun pk hm => ?_)
  rcases List.mem_append.mp hm with hm | hm
  · exact .inl hm
  · cases subject with
    | pk id => simp [Subject.returned] at hm
    | row copy =>
      simp only [Subject.returned, List.mem_ite_nil_right, Bool.and_eq_true, List.mem_singleton] at hm
      obtain ⟨⟨hgrade, -⟩, rfl⟩ := hm
      refine .inr fun c hc => ?_
      have hcopy : copy ∈ s.copies := by simpa [Subject.heldIn] using hheld
      have hoperator := ProxmoxCluster.operatorGrade_iff.mp hgrade
      exact (hs.copies copy hcopy c hc).blocking (ProxmoxCluster.blocking_of_operator hoperator)

theorem Inv.mark (hs : s.Inv) (call : StampCall) (now : Nat) : (s.mark call now).Inv := by
  refine hs.forward (markFootprint_forward _ _ _ _) (fun copy hm => .inl hm) (fun u hm => ?_) (fun pk hm => ?_)
  · by_cases h : (!updated s.clusters call.clusterId && operatorFootprintReasons.contains call.reason) = true
    · simp only [FootprintSystem.mark, h, if_true, List.mem_append, List.mem_singleton] at hm
      rcases hm with hm | rfl
      · exact .inl hm
      · simp only [Bool.and_eq_true, List.contains_iff_mem] at h
        exact .inr ⟨h.2, fun c hc => (markFootprint_get hc).1⟩
    · simp only [FootprintSystem.mark, h] at hm
      exact .inl hm
  · by_cases h : (updated s.clusters call.clusterId && operatorFootprintReasons.contains call.reason) = true
    · simp only [FootprintSystem.mark, h, if_true, List.mem_append, List.mem_singleton] at hm
      rcases hm with hm | rfl
      · exact .inl hm
      · simp only [Bool.and_eq_true, List.contains_iff_mem] at h
        refine .inr fun c hc => ?_
        obtain ⟨hset, hreason⟩ := markFootprint_get hc
        exact ⟨hset, hreason h.1 ▸ not_reconstructible_of_operator h.2⟩
    · simp only [FootprintSystem.mark, h] at hm
      exact .inl hm

theorem Inv.upgrade (hs : s.Inv) {call : StampCall} (hcall : call ∈ s.upgrades) : (s.upgrade call).Inv := by
  obtain ⟨ho, hset⟩ := hs.upgrades call hcall
  have hf := upgradeFootprint_forward s.clusters call.clusterId ho
  refine hs.forward hf (fun copy hm => .inl hm) (fun u hm => .inl (List.mem_of_mem_erase hm)) (fun pk hm => ?_)
  rcases List.mem_append.mp hm with hm | hm
  · exact .inl hm
  · obtain rfl := List.mem_singleton.mp hm
    refine .inr fun c hc => ?_
    obtain ⟨d, hd, ha⟩ := hf.before hc
    exact ⟨ha.set (hset d hd), upgradeFootprint_get ho hc⟩

end FootprintSystem

/-- **One step.** It keeps the invariant and moves no marker back. -/
theorem footprintStep_forward {s s' : FootprintSystem} {l : FootprintAction} (hs : s.Inv)
    (h : footprintStep s l = some s') : s'.Inv ∧ Forward s.clusters s'.clusters := by
  cases l with
  | load pk =>
    simp only [footprintStep, Option.map_eq_some_iff] at h
    obtain ⟨c, hc, rfl⟩ := h
    refine ⟨hs.forward (.refl _) (fun copy hm => ?_) (fun u hm => .inl hm) (fun pk hm => .inl hm), .refl _⟩
    rcases List.mem_append.mp hm with hm | hm
    · exact .inl hm
    · obtain rfl := List.mem_singleton.mp hm
      refine .inr fun d hd => ?_
      rw [Table.key_of_get hc, hc] at hd
      exact Option.some.inj hd ▸ .refl _
  | stamp subject reason =>
    simp only [footprintStep] at h
    split at h
    · cases h
      exact ⟨hs.begin ‹_› reason, .refl _⟩
    · cases h
  | audit copy action =>
    simp only [footprintStep] at h
    split at h
    · have hrecorded : ({ s with related := s.related ++ [⟨"audit_events", copy.pk, action⟩] } : FootprintSystem).Inv :=
        ⟨hs.copies, hs.upgrades, hs.stamped⟩
      split at h
      · cases h
        exact ⟨hrecorded, .refl _⟩
      · cases h
        have hheld : Subject.heldIn s.copies (.row copy) = true := ‹_›
        exact ⟨hrecorded.begin hheld _, .refl _⟩
    · cases h
  | mark call now =>
    simp only [footprintStep] at h
    split at h
    · cases h
      exact ⟨hs.mark call now, markFootprint_forward _ _ _ _⟩
    · cases h
  | upgrade call =>
    simp only [footprintStep] at h
    split at h
    · rename_i hm
      cases h
      rw [List.contains_iff_mem] at hm
      exact ⟨hs.upgrade hm, upgradeFootprint_forward _ _ (hs.upgrades call hm).1⟩
    · cases h
  | record row =>
    cases h
    exact ⟨⟨hs.copies, hs.upgrades, hs.stamped⟩, .refl _⟩
  | purge kept =>
    cases h
    exact ⟨⟨hs.copies, hs.upgrades, hs.stamped⟩, .refl _⟩
  | retire pk now =>
    cases h
    have hf : Forward s.clusters
        (s.clusters.alter pk (ProxmoxCluster.retired now) (ProxmoxCluster.retired_pk now)) := by
      refine .of_get (fun c _ => ?_) (fun pk' => Table.get_updateWhere ..)
      split
      · exact .of_eq rfl rfl
      · exact .refl c
    exact ⟨hs.forward hf (fun copy hm => .inl hm) (fun u hm => .inl hm) (fun pk hm => .inl hm), hf⟩

/-! ## Reasons of the two lists -/

/-- The reason is one of the two lists. -/
def Classified (reason : String) : Prop :=
  reason ∈ operatorFootprintReasons ∨ reason ∈ reconstructibleFootprintReasons

/-- A stamp with a reason of the two lists, or no stamp. -/
def FootprintAction.Classified : FootprintAction → Prop
  | .stamp _ reason => Clusters.Classified reason
  | _ => True

/-- What `record_audit_event` stamps is classified, whatever the action. -/
theorem auditFootprintReason_classified {action reason : String} (h : auditFootprintReason action = some reason) :
    Classified reason := by
  unfold auditFootprintReason at h
  split at h
  · cases h
  · obtain rfl := Option.some.inj h
    unfold machineInitiatedFootprintReasons
    rw [List.lookup_cons]
    split
    · exact .inr (by decide)
    · exact .inl (by simp [operatorFootprintReasons])

/-- No stamp under way and no stored marker names a reason outside the two lists. -/
def FootprintSystem.AllClassified (s : FootprintSystem) : Prop :=
  (∀ call ∈ s.calls, Classified call.reason) ∧ s.clusters.All fun c => c.level ≠ .unclassified

theorem ProxmoxCluster.level_ne_unclassified {c : ProxmoxCluster} (h : Classified c.operationalFootprintReason) :
    c.level ≠ .unclassified := by
  unfold level
  by_cases ht : c.operationalFootprintAt = none
  · simp [ht]
  · rcases h with h | h
    · simp [ht, h]
    · by_cases ho : c.operationalFootprintReason ∈ operatorFootprintReasons <;> simp [ht, ho, h]

theorem FootprintSystem.AllClassified.begin {s : FootprintSystem} (hs : s.AllClassified) {reason : String}
    (hr : Classified reason) (subject : Subject) : (s.begin subject reason).AllClassified := by
  refine ⟨fun call hm => ?_, hs.2⟩
  rcases List.mem_append.mp hm with hm | hm
  · exact hs.1 call hm
  · obtain ⟨id, -, rfl⟩ := List.mem_map.mp hm
    exact hr

theorem footprintStep_allClassified {s s' : FootprintSystem} {l : FootprintAction} (hl : l.Classified)
    (hinv : s.Inv) (hs : s.AllClassified) (h : footprintStep s l = some s') : s'.AllClassified := by
  cases l with
  | load pk =>
    simp only [footprintStep, Option.map_eq_some_iff] at h
    obtain ⟨c, -, rfl⟩ := h
    exact hs
  | stamp subject reason =>
    simp only [footprintStep] at h
    split at h
    · cases h
      exact hs.begin hl subject
    · cases h
  | audit copy action =>
    simp only [footprintStep] at h
    split at h
    · split at h
      · cases h
        exact hs
      · cases h
        exact FootprintSystem.AllClassified.begin (s := { s with related := _ }) hs
          (auditFootprintReason_classified ‹_›) _
    · cases h
  | mark call now =>
    simp only [footprintStep] at h
    split at h
    · rename_i hm
      cases h
      refine ⟨fun u hu => hs.1 u (List.mem_of_mem_erase hu), ?_⟩
      simp only [FootprintSystem.mark, markFootprint]
      refine hs.2.updateWhere _ (fun c _ _ => ?_) fun c _ hc => hc
      exact ProxmoxCluster.level_ne_unclassified (hs.1 call (List.contains_iff_mem.mp hm))
    · cases h
  | upgrade call =>
    simp only [footprintStep] at h
    split at h
    · rename_i hm
      cases h
      refine ⟨hs.1, ?_⟩
      simp only [FootprintSystem.upgrade, upgradeFootprint]
      refine hs.2.updateWhere _ (fun c _ _ => ?_) fun c _ hc => hc
      exact ProxmoxCluster.level_ne_unclassified (.inl (hinv.upgrades call (List.contains_iff_mem.mp hm)).1)
    · cases h
  | record row =>
    cases h
    exact hs
  | purge kept =>
    cases h
    exact hs
  | retire pk now =>
    cases h
    refine ⟨hs.1, ?_⟩
    dsimp only
    exact hs.2.alter (fun c _ hc => hc) fun c _ hc => hc

/-- A set marker off the allowlist is a blocker, whatever rows are left. -/
theorem not_eligible_of_blocking {c : ProxmoxCluster} (h : c.Blocking) (fields : List String) (rows : List RelatedRow) :
    (unusedConnectionDeletionEligibility c fields rows).eligible = false := by
  have hmarker : footprintBlocker c ≠ [] := by
    obtain ⟨ht, hr⟩ := h
    simp [footprintBlocker, Option.isSome_iff_ne_none, ht, hr]
  simp [unusedConnectionDeletionEligibility, hmarker]

theorem footprintRun_forward {s s' : FootprintSystem} {ls : List FootprintAction} (hs : s.Inv)
    (h : run footprintStep s ls = some s') : s'.Inv ∧ Forward s.clusters s'.clusters := by
  refine run_inv (I := fun t => t.Inv ∧ Forward s.clusters t.clusters) ?_ ⟨hs, .refl _⟩ h
  intro t l t' ht hstep
  obtain ⟨hinv, hf⟩ := footprintStep_forward ht.1 hstep
  exact ⟨hinv, ht.2.trans hf⟩

theorem footprintRun_allClassified {s s' : FootprintSystem} {ls : List FootprintAction}
    (hl : ∀ l ∈ ls, l.Classified) (hinv : s.Inv) (hs : s.AllClassified) (h : run footprintStep s ls = some s') :
    s'.AllClassified := by
  induction ls generalizing s with
  | nil =>
    cases h
    exact hs
  | cons l ls ih =>
    obtain ⟨s₁, h₁, h₂⟩ := run_cons.mp h
    have hs₁ := footprintStep_allClassified (hl l (List.mem_cons_self ..)) hinv hs h₁
    exact ih (fun l' hm => hl l' (List.mem_cons_of_mem _ hm)) (footprintStep_forward hinv h₁).1 hs₁ h₂

/-- **The footprint never weakens.** Over every interleaving of stamps, by callers
with copies of any age or bare keys, of the rows they record and of retention purges:
a stored marker keeps its time and moves only from unset, and from reconstructible to
operator grade; with the reasons of the two lists it is always one of these three; and
once an operator's stamp has returned, the connection is not eligible whatever rows
are left. -/
theorem footprint_never_weakens {s₀ s₁ s₂ : FootprintSystem} {ls₁ ls₂ : List FootprintAction} (h₀ : s₀.Idle)
    (h₁ : run footprintStep s₀ ls₁ = some s₁) (h₂ : run footprintStep s₁ ls₂ = some s₂) :
    (∀ pk c, s₁.clusters.get pk = some c → ∃ c', s₂.clusters.get pk = some c' ∧ c.Advances c') ∧
    ((∀ l ∈ ls₁, l.Classified) → (s₀.clusters.All fun c => c.level ≠ .unclassified) →
      s₁.clusters.All fun c => c.level ≠ .unclassified) ∧
    ∀ pk ∈ s₁.stamped, ∀ c', s₂.clusters.get pk = some c' → ∀ fields,
      (unusedConnectionDeletionEligibility c' fields s₂.related).eligible = false := by
  obtain ⟨hinv, -⟩ := footprintRun_forward h₀.inv h₁
  obtain ⟨-, hf⟩ := footprintRun_forward hinv h₂
  refine ⟨fun pk c hc => hf.after hc, fun hl h => ?_, fun pk hpk c' hc' fields => ?_⟩
  · have hstart : s₀.AllClassified := ⟨by simp [h₀.2.1], h⟩
    exact (footprintRun_allClassified hl h₀.inv hstart h₁).2
  · obtain ⟨c, hc, ha⟩ := hf.before hc'
    exact not_eligible_of_blocking (ha.blocking (hinv.stamped pk hpk c hc)) fields _

/-- A connection no refresh has touched yet. -/
def newConnection : FootprintSystem := ⟨⟨[⟨1, "lab", none, none, ""⟩], by decide⟩, [], [], [], [], []⟩

/-- A refresh and a console session, both with the copy loaded before either stamped. -/
def consoleRun : List FootprintAction :=
  [.load 1, .stamp (.row ⟨1, "lab", none, none, ""⟩) footprintGuestProjection,
    .stamp (.row ⟨1, "lab", none, none, ""⟩) footprintConsoleSession, .mark ⟨1, footprintGuestProjection⟩ 5,
    .mark ⟨1, footprintConsoleSession⟩ 6, .upgrade ⟨1, footprintConsoleSession⟩]

/-- The console stamped over the refresh; later its rows are purged. -/
theorem footprint_never_weakens_console : ∃ s₁ s₂, run footprintStep newConnection consoleRun = some s₁ ∧
    run footprintStep s₁ [.record ⟨"console_sessions", 1, ""⟩, .purge fun _ => false] = some s₂ ∧
    s₂.related = [] ∧ ∀ c', s₂.clusters.get 1 = some c' →
      (unusedConnectionDeletionEligibility c' ["console_sessions"] s₂.related).eligible = false := by
  obtain ⟨s₁, h₁, hstamped⟩ : ∃ s₁, run footprintStep newConnection consoleRun = some s₁ ∧ 1 ∈ s₁.stamped :=
    ⟨_, rfl, by decide⟩
  obtain ⟨s₂, h₂, hpurged⟩ : ∃ s₂, run footprintStep s₁ [.record ⟨"console_sessions", 1, ""⟩, .purge fun _ => false]
      = some s₂ ∧ s₂.related = [] := ⟨_, rfl, by simp⟩
  refine ⟨s₁, s₂, h₁, h₂, hpurged, ?_⟩
  intro c' hc'
  exact (footprint_never_weakens ⟨rfl, rfl, rfl, rfl⟩ h₁ h₂).2.2 1 hstamped c' hc' _

/-- A reason of neither list is stored like any other, and the marker is then none of the three. -/
theorem unlisted_reason_stored : ¬ ∀ (s₀ s : FootprintSystem) (ls : List FootprintAction), s₀.Idle →
    run footprintStep s₀ ls = some s → (s₀.clusters.All fun c => c.level ≠ .unclassified) →
    s.clusters.All fun c => c.level ≠ .unclassified := by
  intro hall
  obtain ⟨s, hrun, hrow⟩ : ∃ s, run footprintStep newConnection
      [.stamp (.pk (some 1)) "something_new", .mark ⟨1, "something_new"⟩ 5] = some s ∧
      s.clusters.get 1 = some ⟨1, "lab", none, some 5, "something_new"⟩ := ⟨_, rfl, rfl⟩
  have hstart : newConnection.clusters.All fun c => c.level ≠ .unclassified := by
    intro pk c hc
    obtain rfl := List.mem_singleton.mp (Table.mem_of_get hc)
    decide
  exact hall _ s _ ⟨rfl, rfl, rfl, rfl⟩ hrun hstart 1 _ hrow (by decide)

/-! ## The uninterrupted stamp -/

/-- The steps of a stamp that nothing interrupts leave what `stampOperationalFootprint` leaves. -/
theorem stamp_steps {s : FootprintSystem} {subject : Subject} {reason : String} {now : Nat}
    (hheld : subject.heldIn s.copies = true) :
    ∃ ls s', run footprintStep s (.stamp subject reason :: ls) = some s' ∧
      s'.clusters = (stampOperationalFootprint s.clusters subject reason now).1 := by
  unfold stampOperationalFootprint
  cases hid : subject.clusterId with
  | none => exact ⟨[], s.begin subject reason, by simp [run, footprintStep, hheld], rfl⟩
  | some id =>
    have hcall : (s.begin subject reason).calls.contains ⟨id, reason⟩ = true := by
      simp [FootprintSystem.begin, hid]
    have hfirst : footprintStep (s.begin subject reason) (.mark ⟨id, reason⟩ now)
        = some ((s.begin subject reason).mark ⟨id, reason⟩ now) := if_pos hcall
    by_cases hup : (!updated s.clusters id && operatorFootprintReasons.contains reason) = true
    · refine ⟨[.mark ⟨id, reason⟩ now, .upgrade ⟨id, reason⟩],
        ((s.begin subject reason).mark ⟨id, reason⟩ now).upgrade ⟨id, reason⟩, ?_, ?_⟩
      · have hsecond : ((s.begin subject reason).mark ⟨id, reason⟩ now).upgrades.contains ⟨id, reason⟩ = true := by
          simp only [FootprintSystem.mark, FootprintSystem.begin, hup, if_true]
          simp
        have hlast : footprintStep ((s.begin subject reason).mark ⟨id, reason⟩ now) (.upgrade ⟨id, reason⟩)
            = some (((s.begin subject reason).mark ⟨id, reason⟩ now).upgrade ⟨id, reason⟩) := if_pos hsecond
        exact run_cons.mpr ⟨_, if_pos hheld, run_cons.mpr ⟨_, hfirst, run_cons.mpr ⟨_, hlast, rfl⟩⟩⟩
      · simp only [hup, if_true]
        rfl
    · refine ⟨[.mark ⟨id, reason⟩ now], (s.begin subject reason).mark ⟨id, reason⟩ now, ?_, ?_⟩
      · exact run_cons.mpr ⟨_, if_pos hheld, run_cons.mpr ⟨_, hfirst, rfl⟩⟩
      · simp only [hup]
        rfl

end PveHelper.Clusters
