/-
The retirement of a cluster, after `_retire_cluster_atomic` of
`core/services/cluster_retirement.py`: the confirmation, the blockers, the event,
the finalizers in their order, the cluster's own row and the final look at what
is left, all in one transaction. The locks keep two such transactions apart, so
one is a step here.

A retirement that raises leaves every row as it was; one that commits leaves
nothing of the cluster that should be gone, touches no row of another cluster but
for references to the endpoints it deletes, and is the last one the cluster ever
sees (`retire_atomic_complete_once`).
-/
import PveHelper.Retirement.Token

namespace PveHelper.Retirement

open Lib Scheduling
open Clusters (ConsoleSession finalizeConsoles)

section
variable (signer : Signer) (clock : Clock)

/-! ## Blockers -/

/-- A scan is queued or running. -/
def activeScan (db : Db) : Bool := db.scans.rows.any fun s => s.status == .queued || s.status == .running

/-- The blocker codes of `_local_impact`. -/
def localBlockers (cluster : Nat) (mode : RetirementMode) (db : Db) : List String :=
  (if activeScan db then ["active_scan"] else []) ++
  (if mode = .forced ∨ ownedBy cluster db .proxmoxStorageConsumer = [] then [] else ["storage_consumers"]) ++
  (scheduledCounts cluster db.schedules).blockers mode "scheduled_actions" ++
  (consoleCounts cluster db.consoles).blockers mode "consoles" ++
  (auditRetirementPreflight cluster mode false db.events.table).counts.blockers mode "audit_operations"

/-- `_raise_for_local_blockers`. -/
def raiseForLocalBlockers (cluster : Nat) (mode : RetirementMode) (db : Db) : Except RetirementError Unit := do
  ensure (!activeScan db) .activeScan
  match (localBlockers cluster mode db).head? with
  | none => .ok ()
  | some code => .error (.blocked code)

/-! ## The transaction -/

/-- `RETIREMENT_AUDIT_DETAIL_LIMIT`. -/
def retirementAuditDetailLimit : Nat := 100

def IdentityVerification.text : IdentityVerification → String
  | .matched => "matched"
  | .skipped => "skipped"
  | .supersededByVerifiedHandoff => "superseded_by_verified_handoff"

/-- A text column of the cluster's row of one kind, blank without the row. -/
def configurationText (db : Db) (kind : OwnedKind) (cluster : Nat) (column : String) : String :=
  match (ownedBy cluster db kind).head?.bind fun row => Json.lookup row.columns column with
  | some (.str text) => text
  | _ => ""

/-- The details the retirement's event is created with. -/
def retirementDetails (locked : ProxmoxCluster) (confirmed : ConfirmedRetirementPreflight) (reason : String) (db : Db) : Json :=
  let endpoints := (db.endpoints.rows.filter (·.cluster == locked.pk)).insertionSort (·.pk ≤ ·.pk)
  .obj [("display_name", .str locked.displayName), ("cluster_key", .str locked.key),
    ("retirement_mode", .str (modeText confirmed.mode)), ("retirement_reason", .str reason),
    ("identity_verification", .str confirmed.identityVerification.text),
    ("replacement_ca_uuid", .str confirmed.replacementCaUuid), ("endpoint_count", .int endpoints.length),
    ("endpoints", .arr ((endpoints.take retirementAuditDetailLimit).map fun e =>
      .obj [("name", .str e.name), ("url", .str e.normalizedUrl), ("enabled", .bool e.enabled)])),
    ("credential_token_id", .str (configurationText db .clusterCredential locked.pk "token_id")),
    ("trust_mode", .str (configurationText db .clusterTransportTrust locked.pk "mode"))]

/-- The event recorded before anything is removed. -/
def retirementEvent (locked : ProxmoxCluster) (confirmed : ConfirmedRetirementPreflight) (reason : String) (actor : Option Nat)
    (db : Db) (pk : Nat) : AuditEvent where
  pk := pk
  cluster := some locked.pk
  action := match confirmed.mode with
    | .verified => "cluster.retired"
    | .forced => "cluster.force_retired"
  outcome := .success
  objectType := "cluster"
  objectId := locked.key
  user := actor
  details := retirementDetails locked confirmed reason db

theorem retirementEvent_pk (locked : ProxmoxCluster) (confirmed : ConfirmedRetirementPreflight) (reason : String)
    (actor : Option Nat) (db : Db) (pk : Nat) : (retirementEvent locked confirmed reason actor db pk).pk = pk := rfl

def recordRetirement (locked : ProxmoxCluster) (confirmed : ConfirmedRetirementPreflight) (reason : String) (actor : Option Nat)
    (db : Db) : Db :=
  { db with
    events := db.events.insert (retirementEvent locked confirmed reason actor db)
      (retirementEvent_pk locked confirmed reason actor db) }

/-- The row of the cluster, rewritten. -/
def alterCluster (cluster : Nat) (f : ProxmoxCluster → ProxmoxCluster) (hf : ∀ r, (f r).pk = r.pk) (db : Db) : Db :=
  { db with clusters := db.clusters.updateWhere (·.pk == cluster) f hf }

def ProxmoxCluster.disabledAt (now : Time) (c : ProxmoxCluster) : ProxmoxCluster := { c with enabled := false, updatedAt := now }

theorem ProxmoxCluster.disabledAt_pk (now : Time) (c : ProxmoxCluster) : (c.disabledAt now).pk = c.pk := rfl

/-- The columns of a retired cluster; the identity it had is copied from the locked row. -/
def ProxmoxCluster.retired (locked : ProxmoxCluster) (mode : RetirementMode) (reason : String) (actor : Option Nat) (now : Time)
    (c : ProxmoxCluster) : ProxmoxCluster :=
  { c with
    enabled := false
    retiredAt := some now
    retiredBy := actor
    retirementMode := some mode
    retirementReason := reason
    retiredCaUuid := locked.discoveredCaUuid
    retiredCaFingerprint := locked.discoveredCaFingerprint
    discoveredCaUuid := ""
    discoveredCaFingerprint := ""
    lifecycleGeneration := c.lifecycleGeneration + 1
    updatedAt := now }

theorem ProxmoxCluster.retired_pk (locked : ProxmoxCluster) (mode : RetirementMode) (reason : String) (actor : Option Nat)
    (now : Time) (c : ProxmoxCluster) : (ProxmoxCluster.retired locked mode reason actor now c).pk = c.pk := rfl

/-- `finalize_cluster_retirement_storage`. -/
def finalizeStorage (locked : ProxmoxCluster) (mode : RetirementMode) (expectedDigest : String) (unmanagedAt : Time) (db : Db) :
    Except RetirementError Db := do
  let current := storageSnapshot mode locked db
  let digest := signer.hexdigest current
  ensure (digest == expectedDigest) (.storageImpactChanged expectedDigest digest)
  ensure (decide (mode ≠ .verified) || current.consumers.isEmpty) .storageConsumersBlock
  pure (deleteOwned locked.pk (retiredStorageKinds mode) (retireStorageRows locked.pk unmanagedAt db))

/-- What `_assert_retirement_postconditions` looks for. -/
def retirementPostconditions (cluster : Nat) (mode : RetirementMode) (db : Db) : Bool :=
  ((db.clusters.table.get cluster).any fun c => !c.enabled && c.retiredAt.isSome && decide (c.retirementMode = some mode) &&
    c.discoveredCaUuid == "" && c.discoveredCaFingerprint == "") &&
  (OwnedKind.all.all fun kind => !(db.owned kind).rows.any (·.cluster == cluster)) &&
  !db.endpoints.rows.any (·.cluster == cluster) &&
  !db.guests.rows.any (·.cluster == cluster) &&
  !db.enrollments.rows.any (·.cluster == cluster) &&
  (StorageRowKind.all.all fun kind => !(db.storageRows kind).rows.any (ofStorage db.storages cluster)) &&
  !db.schedules.actions.rows.any (fun a => a.cluster == cluster && a.deletedAt.isNone) &&
  !db.storages.rows.any (fun s => s.cluster == cluster && s.unmanagedAt.isNone) &&
  !activeScan db && (localBlockers cluster mode db).isEmpty

/-- `RetirementResult`, without the owners' counts. -/
structure RetirementResult where
  clusterPk : Nat
  clusterKey : String
  mode : RetirementMode
  retiredAt : Time
  auditEventId : Nat

/-- The checks before the first write: the locked row, the confirmation and the reason. -/
def confirmRetirement (cluster : Nat) (request : RetirementRequest) :
    EStateM RetirementError Db (ProxmoxCluster × ConfirmedRetirementPreflight × String) := do
  let locked ← query fun db => orRaise (db.clusters.table.get cluster)
    (.preflightNotAllowed "The cluster connection no longer exists.")
  let payload ← query fun _ => loadConfirmation signer request.confirmation clock.loadedAt
  let confirmed ← query (validateRetirementPreflight signer clock request.confirmation locked.pk payload.mode)
  let reason ← query fun _ => forcedConfirmation locked confirmed.mode request
  query fun _ => ensure (confirmed.replacementCaUuid == request.replacementCaUuid)
    (.preflightChanged "The verified replacement identity changed. Run hand-off review again.")
  query fun db => ensure (!activeScan db) .activeScan
  query (raiseForLocalBlockers locked.pk confirmed.mode)
  pure (locked, confirmed, reason)

/-- The owners' finalizers, in their order. -/
def finalizeOwners (locked : ProxmoxCluster) (confirmed : ConfirmedRetirementPreflight) : EStateM RetirementError Db Unit := do
  change fun db => (orRaise (finalizeRetirement db.schedules locked.pk confirmed.mode clock.retiredAt)
    .scheduledActionsBlocked).map fun schedules => { db with schedules := schedules }
  change fun db => (orRaise (finalizeConsoles db.consoles locked.pk confirmed.mode clock.retiredAt)
    .consolesBlocked).map fun consoles => { db with consoles := consoles }
  change fun db => (orRaise (finalizeAuditOperations locked.pk confirmed.mode clock.retiredAt db.events)
    .auditOperationsBlocked).map fun events => { db with events := events }
  change (finalizeStorage signer locked confirmed.mode confirmed.storageImpactDigest clock.retiredAt)
  change fun db => .ok (retireEnrollments locked.pk (retireProjection locked.pk (retireGuestInventory locked.pk db)))

/-- The connection's own rows: endpoints, credential and trust, and the cluster itself. -/
def removeConnection (locked : ProxmoxCluster) (confirmed : ConfirmedRetirementPreflight) (reason : String)
    (actor : Option Nat) (db : Db) : Db :=
  alterCluster locked.pk (ProxmoxCluster.retired locked confirmed.mode reason actor clock.retiredAt)
    (ProxmoxCluster.retired_pk locked confirmed.mode reason actor clock.retiredAt)
    (deleteOwned locked.pk [.clusterCredential, .clusterTransportTrust] (deleteEndpoints locked.pk db))

/-- A forced retirement disables an enabled cluster first. -/
def disableForced (locked : ProxmoxCluster) (confirmed : ConfirmedRetirementPreflight) (db : Db) : Db :=
  if confirmed.mode = .forced ∧ locked.enabled then
    alterCluster locked.pk (·.disabledAt clock.retiredAt) (ProxmoxCluster.disabledAt_pk clock.retiredAt) db
  else db

/-- `_retire_cluster_atomic`. -/
def retireClusterAtomic (cluster : Nat) (request : RetirementRequest) : EStateM RetirementError Db RetirementResult :=
  atomic do
    let (locked, confirmed, reason) ← confirmRetirement signer clock cluster request
    let auditEventId ← query fun db => .ok db.events.next
    change fun db => .ok (recordRetirement locked confirmed reason request.actor db)
    change fun db => .ok (disableForced clock locked confirmed db)
    finalizeOwners signer clock locked confirmed
    change fun db => .ok (removeConnection clock locked confirmed reason request.actor db)
    query fun db => ensure (retirementPostconditions locked.pk confirmed.mode db) .postconditionFailed
    pure ⟨locked.pk, locked.key, confirmed.mode, clock.retiredAt, auditEventId⟩

end

/-! ## What a retired cluster has left -/

/-- Disabled, retired and without an identity, and nothing of it that a retirement removes or ends. -/
structure CompletelyRetired (cluster : Nat) (db : Db) : Prop where
  row : ∃ c, db.clusters.table.get cluster = some c ∧ c.enabled = false ∧ c.retiredAt ≠ none ∧ c.discoveredCaUuid = "" ∧
    c.discoveredCaFingerprint = ""
  endpoints : ∀ e ∈ db.endpoints.rows, e.cluster ≠ cluster
  owned : ∀ kind, ∀ r ∈ (db.owned kind).rows, r.cluster ≠ cluster
  guests : ∀ g ∈ db.guests.rows, g.cluster ≠ cluster
  enrollments : ∀ e ∈ db.enrollments.rows, e.cluster ≠ cluster
  storageRows : ∀ kind, ∀ r ∈ (db.storageRows kind).rows, ofStorage db.storages cluster r = false
  storages : ∀ s ∈ db.storages.rows, s.cluster = cluster → s.unmanagedAt ≠ none
  actions : ∀ a ∈ db.schedules.actions.rows, a.cluster = cluster → a.deletedAt ≠ none
  runs : ∀ r ∈ db.schedules.runs.rows, ofCluster db.schedules.actions cluster r = true → inFlight r.status = false
  operations : ∀ e ∈ db.events.table.rows, e.cluster = some cluster → isProviderAction e.action = true →
    e.outcome.active = false
  consoles : ∀ s ∈ db.consoles.rows, s.cluster = some cluster → s.status ≠ .pending ∧ s.status.active = false

section
variable {signer : Signer} {clock : Clock} {cluster : Nat} {request : RetirementRequest} {db db' : Db}

/-! ## The checks -/

theorem validateRetirementPreflight_live {token mode : String} {confirmed : ConfirmedRetirementPreflight}
    (h : validateRetirementPreflight signer clock token cluster mode db = .ok confirmed) :
    ∃ c, db.clusters.table.get cluster = some c ∧ c.retiredAt = none := by
  unfold validateRetirementPreflight at h
  obtain ⟨expectedMode, -, h⟩ := except_bind_ok.mp h
  obtain ⟨payload, -, h⟩ := except_bind_ok.mp h
  obtain ⟨current, hcurrent, -⟩ := except_bind_ok.mp h
  obtain ⟨c, hc, hcurrent⟩ := except_bind_ok.mp hcurrent
  obtain ⟨_, hlive, -⟩ := except_bind_ok.mp hcurrent
  exact ⟨c, orRaise_ok.mp hc, Option.isNone_iff_eq_none.mp (ensure_ok.mp hlive)⟩

/-- The checks write nothing, and want a cluster that is not retired. -/
theorem confirmRetirement_ok {locked : ProxmoxCluster} {confirmed : ConfirmedRetirementPreflight} {reason : String}
    (h : confirmRetirement signer clock cluster request db = .ok (locked, confirmed, reason) db') :
    db' = db ∧ db.clusters.table.get cluster = some locked ∧ locked.retiredAt = none := by
  unfold confirmRetirement at h
  obtain ⟨row, hrow, h⟩ := query_bind_ok.mp h
  obtain ⟨payload, -, h⟩ := query_bind_ok.mp h
  obtain ⟨validated, hvalid, h⟩ := query_bind_ok.mp h
  obtain ⟨stripped, -, h⟩ := query_bind_ok.mp h
  obtain ⟨_, -, h⟩ := query_bind_ok.mp h
  obtain ⟨_, -, h⟩ := query_bind_ok.mp h
  obtain ⟨_, -, h⟩ := query_bind_ok.mp h
  cases h
  have hget := orRaise_ok.mp hrow
  obtain ⟨c, hc, hlive⟩ := validateRetirementPreflight_live hvalid
  rw [Table.key_of_get hget, hget] at hc
  cases hc
  exact ⟨rfl, hget, hlive⟩

/-! ## The finalizers -/

/-- What the owners' finalizers leave to those after them. -/
structure OwnersFinalized (cluster : Nat) (db db' : Db) : Prop where
  clusters : db'.clusters = db.clusters
  endpoints : db'.endpoints = db.endpoints
  others : otherRows cluster db' = otherRows cluster db
  runs : ∀ r ∈ db'.schedules.runs.rows, ofCluster db'.schedules.actions cluster r = true → inFlight r.status = false
  operations : ∀ e ∈ db'.events.table.rows, e.cluster = some cluster → isProviderAction e.action = true →
    e.outcome.active = false
  consoles : ∀ s ∈ db'.consoles.rows, s.cluster = some cluster → s.status ≠ .pending ∧ s.status.active = false

/-- A finalizer that may be blocked, taken apart. -/
theorem orRaise_map_ok {α : Type} {o : Option α} {e : RetirementError} {f : α → Db} (h : (orRaise o e).map f = .ok db') :
    ∃ a, o = some a ∧ f a = db' := by
  cases o with
  | none => cases h
  | some a => exact ⟨a, rfl, Except.ok.inj h⟩

theorem finalizeStorage_ok {locked : ProxmoxCluster} {mode : RetirementMode} {digest : String} {unmanagedAt : Time}
    (h : finalizeStorage signer locked mode digest unmanagedAt db = .ok db') :
    db' = deleteOwned locked.pk (retiredStorageKinds mode) (retireStorageRows locked.pk unmanagedAt db) := by
  unfold finalizeStorage at h
  obtain ⟨_, -, h⟩ := except_bind_ok.mp h
  obtain ⟨_, -, h⟩ := except_bind_ok.mp h
  exact (Except.ok.inj h).symm

theorem finalizeOwners_ok {locked : ProxmoxCluster} {confirmed : ConfirmedRetirementPreflight} {u : Unit}
    (h : finalizeOwners signer clock locked confirmed db = .ok u db') : OwnersFinalized locked.pk db db' := by
  unfold finalizeOwners at h
  obtain ⟨db₁, h₁, h⟩ := change_bind_ok.mp h
  obtain ⟨db₂, h₂, h⟩ := change_bind_ok.mp h
  obtain ⟨db₃, h₃, h⟩ := change_bind_ok.mp h
  obtain ⟨db₄, h₄, h⟩ := change_bind_ok.mp h
  obtain ⟨schedules, hschedules, rfl⟩ := orRaise_map_ok h₁
  obtain ⟨consoles, hconsoles, rfl⟩ := orRaise_map_ok h₂
  obtain ⟨events, hevents, rfl⟩ := orRaise_map_ok h₃
  obtain rfl := finalizeStorage_ok h₄
  obtain rfl := Except.ok.inj (change_ok.mp h)
  refine ⟨rfl, rfl, ?_, fun r => finalizeRetirement_quiet hschedules, fun e => finalizeAuditOperations_quiet hevents, ?_⟩
  · calc
      _ = _ := retireEnrollments_otherRows _
      _ = _ := deleteOwned_otherRows _ _
      _ = _ := retireGuestInventory_otherRows _
      _ = _ := deleteOwned_otherRows _ _
      _ = _ := retireStorageRows_otherRows _
      _ = _ := finalizeAuditOperations_otherRows hevents
      _ = _ := finalizeConsoles_otherRows hconsoles
      _ = _ := finalizeRetirement_otherRows hschedules
  · intro s hs hof
    have hclosed := (Clusters.finalizeConsoles_closed hconsoles (Table.get_of_mem hs) hof).1
    constructor
    · intro hpending
      rw [hpending] at hclosed
      cases hclosed
    · cases hst : s.status <;> simp_all [Clusters.ConsoleStatus.terminal, Clusters.ConsoleStatus.active]

/-! ## The other writes -/

theorem recordRetirement_otherRows (locked : ProxmoxCluster) (confirmed : ConfirmedRetirementPreflight) (reason : String)
    (actor : Option Nat) (db : Db) :
    otherRows locked.pk (recordRetirement locked confirmed reason actor db) = otherRows locked.pk db := by
  refine congrArg (fun o => { otherRows locked.pk db with events := o }) (funext fun k => ?_)
  rw [recordRetirement, Serial.get_insert]
  split
  · rename_i hnew
    subst hnew
    rw [Serial.get_next]
    simp [Option.filter, retirementEvent]
  · rfl

theorem alterCluster_otherRows {f : ProxmoxCluster → ProxmoxCluster} {hf : ∀ r, (f r).pk = r.pk} (db : Db) :
    otherRows cluster (alterCluster cluster f hf db) = otherRows cluster db := by
  refine congrArg (fun o => { otherRows cluster db with clusters := o }) (funext fun k => ?_)
  refine Table.filter_get_updateWhere hf (fun k c _ hc => ?_) k
  have hpk : c.pk = cluster := beq_iff_eq.mp hc
  simp [hpk, hf]

theorem disableForced_otherRows (locked : ProxmoxCluster) (confirmed : ConfirmedRetirementPreflight) (db : Db) :
    otherRows locked.pk (disableForced clock locked confirmed db) = otherRows locked.pk db := by
  unfold disableForced
  split
  · exact alterCluster_otherRows db
  · rfl

theorem disableForced_endpoints (locked : ProxmoxCluster) (confirmed : ConfirmedRetirementPreflight) (db : Db) :
    (disableForced clock locked confirmed db).endpoints = db.endpoints := by
  unfold disableForced
  split <;> rfl

variable (clock) in
theorem removeConnection_otherRows (locked : ProxmoxCluster) (confirmed : ConfirmedRetirementPreflight) (reason : String)
    (actor : Option Nat) (db : Db) :
    otherRows locked.pk (removeConnection clock locked confirmed reason actor db) =
      (otherRows locked.pk db).detached (ofEndpoint db.endpoints locked.pk) :=
  calc
    _ = _ := alterCluster_otherRows _
    _ = _ := deleteOwned_otherRows _ _
    _ = _ := deleteEndpoints_otherRows _

/-! ## A committed retirement -/

/-- What a committed retirement went through, from the row it locked to the look at the end. -/
structure Committed (clock : Clock) (cluster : Nat) (request : RetirementRequest) (locked : ProxmoxCluster)
    (confirmed : ConfirmedRetirementPreflight) (reason : String) (db finalized db' : Db) : Prop where
  row : db.clusters.table.get cluster = some locked
  live : locked.retiredAt = none
  owners : OwnersFinalized locked.pk
    (disableForced clock locked confirmed (recordRetirement locked confirmed reason request.actor db)) finalized
  removed : db' = removeConnection clock locked confirmed reason request.actor finalized
  checked : retirementPostconditions locked.pk confirmed.mode db' = true

theorem retireClusterAtomic_ok {result : RetirementResult}
    (h : retireClusterAtomic signer clock cluster request db = .ok result db') :
    ∃ locked confirmed reason finalized, Committed clock cluster request locked confirmed reason db finalized db' := by
  obtain ⟨⟨locked, confirmed, reason⟩, db₀, h₀, h⟩ := bind_ok.mp (atomic_ok.mp h)
  obtain ⟨heq, hrow, hlive⟩ := confirmRetirement_ok h₀
  rw [heq] at h
  obtain ⟨auditEventId, -, h⟩ := query_bind_ok.mp h
  obtain ⟨db₁, h₁, h⟩ := change_bind_ok.mp h
  obtain ⟨db₂, h₂, h⟩ := change_bind_ok.mp h
  obtain ⟨_, db₃, h₃, h⟩ := bind_ok.mp h
  obtain ⟨db₄, h₄, h⟩ := change_bind_ok.mp h
  obtain ⟨_, hchecked, h⟩ := query_bind_ok.mp h
  cases h₁
  cases h₂
  cases h₄
  cases h
  exact ⟨locked, confirmed, reason, db₃, hrow, hlive, finalizeOwners_ok h₃, rfl, ensure_ok.mp hchecked⟩

section
variable {locked : ProxmoxCluster} {confirmed : ConfirmedRetirementPreflight} {reason : String} {finalized : Db}

theorem Committed.pk (h : Committed clock cluster request locked confirmed reason db finalized db') : locked.pk = cluster :=
  Table.key_of_get h.row

/-- The end of the transaction looked at the configuration and the projections; the finalizers
answer for runs, operations and consoles, which nothing after them touches. -/
theorem Committed.complete (h : Committed clock cluster request locked confirmed reason db finalized db') :
    CompletelyRetired cluster db' := by
  have hchecked := h.checked
  rw [h.pk] at hchecked
  simp only [retirementPostconditions, Bool.and_eq_true, Bool.not_eq_true', List.any_eq_false, List.all_eq_true, beq_iff_eq,
    Option.any_eq_true, decide_eq_true_eq] at hchecked
  obtain ⟨⟨⟨⟨⟨⟨⟨⟨⟨hrow, howned⟩, hendpoints⟩, hguests⟩, henrollments⟩, hstored⟩, hactions⟩, hstorages⟩, -⟩, -⟩ := hchecked
  obtain ⟨c, hc, ⟨⟨⟨⟨hdisabled, hretired⟩, -⟩, huuid⟩, hfingerprint⟩⟩ := hrow
  have howners := h.owners
  rw [h.pk] at howners
  have hremoved := h.removed
  refine
    { row := ⟨c, hc, hdisabled, Option.isSome_iff_ne_none.mp hretired, huuid, hfingerprint⟩
      endpoints := hendpoints
      owned := fun kind => howned kind kind.mem_all
      guests := hguests
      enrollments := henrollments
      storageRows := fun kind r hr => by simpa using hstored kind kind.mem_all r hr
      storages := fun s hs hof hmanaged => hstorages s hs (by simp [hof, hmanaged])
      actions := fun a ha hof hkept => hactions a ha (by simp [hof, hkept])
      runs := by rw [hremoved]; exact howners.runs
      operations := by rw [hremoved]; exact howners.operations
      consoles := by rw [hremoved]; exact howners.consoles }

/-- Of the rows of other clusters only those are changed that refer to an endpoint of the cluster. -/
theorem Committed.others (h : Committed clock cluster request locked confirmed reason db finalized db') :
    otherRows cluster db' = (otherRows cluster db).detached (ofEndpoint db.endpoints cluster) := by
  have hfinal := removeConnection_otherRows clock locked confirmed reason request.actor finalized
  have hendpoints : finalized.endpoints = db.endpoints :=
    h.owners.endpoints.trans (disableForced_endpoints locked confirmed _)
  have howners : otherRows locked.pk finalized = otherRows locked.pk db :=
    calc
      _ = _ := h.owners.others
      _ = _ := disableForced_otherRows locked confirmed _
      _ = _ := recordRetirement_otherRows locked confirmed reason request.actor db
  rw [← h.removed, howners, hendpoints, h.pk] at hfinal
  exact hfinal

end

/-! ## Never a second time -/

/-- No row of a cluster comes to life: a row that is not retired was there, not retired, unless
its key is new. -/
structure NoneRevived (a b : Serial ProxmoxCluster.pk) : Prop where
  next : a.next ≤ b.next
  live : ∀ {k c'}, k < a.next → b.table.get k = some c' → c'.retiredAt = none → ∃ c, a.table.get k = some c ∧ c.retiredAt = none

theorem NoneRevived.refl (a : Serial ProxmoxCluster.pk) : NoneRevived a a :=
  ⟨Nat.le_refl _, fun {_ c'} _ h hlive => ⟨c', h, hlive⟩⟩

theorem NoneRevived.trans {a b c : Serial ProxmoxCluster.pk} (hab : NoneRevived a b) (hbc : NoneRevived b c) : NoneRevived a c := by
  refine ⟨Nat.le_trans hab.next hbc.next, fun {k c'} hk h hlive => ?_⟩
  obtain ⟨c₁, h₁, hlive₁⟩ := hbc.live (Nat.lt_of_lt_of_le hk hab.next) h hlive
  exact hab.live hk h₁ hlive₁

theorem NoneRevived.updateWhere {a : Serial ProxmoxCluster.pk} {p : ProxmoxCluster → Bool} {f : ProxmoxCluster → ProxmoxCluster}
    (hf) (h : ∀ c, (f c).retiredAt = none → c.retiredAt = none) : NoneRevived a (a.updateWhere p f hf) := by
  refine ⟨Nat.le_refl _, fun {k c'} _ hget hlive => ?_⟩
  rw [Serial.updateWhere, Table.get_updateWhere, Option.map_eq_some_iff] at hget
  obtain ⟨c, hc, rfl⟩ := hget
  refine ⟨c, hc, ?_⟩
  split at hlive
  · exact h c hlive
  · exact hlive

theorem NoneRevived.keep {a : Serial ProxmoxCluster.pk} (p : ProxmoxCluster → Bool) : NoneRevived a (a.keep p) := by
  refine ⟨Nat.le_refl _, fun {k c'} _ hget hlive => ⟨c', ?_, hlive⟩⟩
  rw [Serial.keep, Table.get_keep, Option.filter_eq_some_iff] at hget
  exact hget.1

theorem NoneRevived.insert {a : Serial ProxmoxCluster.pk} (row : Nat → ProxmoxCluster) (hrow) : NoneRevived a (a.insert row hrow) := by
  refine ⟨Nat.le_succ _, fun {k c'} hk hget hlive => ⟨c', ?_, hlive⟩⟩
  rw [Serial.get_insert, if_neg (Nat.ne_of_lt hk)] at hget
  exact hget

theorem Committed.noneRevived {locked : ProxmoxCluster} {confirmed : ConfirmedRetirementPreflight} {reason : String}
    {finalized : Db} (h : Committed clock cluster request locked confirmed reason db finalized db') :
    NoneRevived db.clusters db'.clusters := by
  have hdisabled : NoneRevived db.clusters finalized.clusters := by
    rw [h.owners.clusters]
    unfold disableForced
    split
    · exact NoneRevived.updateWhere _ fun _ hlive => hlive
    · exact NoneRevived.refl _
  refine hdisabled.trans ?_
  rw [h.removed]
  exact NoneRevived.updateWhere _ fun _ hlive => by cases hlive

/-- What else happens to the database. A cluster is added under a key of its own, edited and
deleted; no writer but the retirement writes `retired_at`. -/
inductive LifecycleAct
  | retire (clock : Clock) (cluster : Nat) (request : RetirementRequest)
  | addCluster (row : ProxmoxCluster)
  | editCluster (cluster : Nat) (edit : ProxmoxCluster → ProxmoxCluster)
  | deleteCluster (cluster : Nat)
  /-- Any write to the other tables. -/
  | write (change : Db → Db)

/-- A row as it is added. -/
def ProxmoxCluster.added (row : ProxmoxCluster) (pk : Nat) : ProxmoxCluster := { row with pk := pk, retiredAt := none }

theorem ProxmoxCluster.added_pk (row : ProxmoxCluster) (pk : Nat) : (row.added pk).pk = pk := rfl

/-- An edit of the columns that are open to it. -/
def ProxmoxCluster.edited (edit : ProxmoxCluster → ProxmoxCluster) (c : ProxmoxCluster) : ProxmoxCluster :=
  { edit c with pk := c.pk, retiredAt := c.retiredAt }

theorem ProxmoxCluster.edited_pk (edit : ProxmoxCluster → ProxmoxCluster) (c : ProxmoxCluster) : (c.edited edit).pk = c.pk := rfl

/-- One transaction; a refused retirement is one that changes nothing. -/
def lifecycleStep (signer : Signer) (db : Db) : LifecycleAct → Option Db
  | .retire clock cluster request =>
    match retireClusterAtomic signer clock cluster request db with
    | .ok _ db' => some db'
    | .error _ db' => some db'
  | .addCluster row => some { db with clusters := db.clusters.insert row.added row.added_pk }
  | .editCluster cluster edit => some (alterCluster cluster (·.edited edit) (ProxmoxCluster.edited_pk edit) db)
  | .deleteCluster cluster => some { db with clusters := db.clusters.keep (·.pk != cluster) }
  | .write change => some { change db with clusters := db.clusters }

theorem lifecycleStep_noneRevived {x : LifecycleAct} (h : lifecycleStep signer db x = some db') :
    NoneRevived db.clusters db'.clusters := by
  cases x with
  | retire clock cluster request =>
    simp only [lifecycleStep] at h
    split at h
    · rename_i hcommit
      cases h
      obtain ⟨_, _, _, _, hcommitted⟩ := retireClusterAtomic_ok hcommit
      exact hcommitted.noneRevived
    · rename_i hraise
      cases h
      rw [atomic_error hraise]
      exact NoneRevived.refl _
  | addCluster row =>
    cases h
    exact NoneRevived.insert row.added row.added_pk
  | editCluster cluster edit =>
    cases h
    exact NoneRevived.updateWhere _ fun _ hlive => hlive
  | deleteCluster cluster =>
    cases h
    exact NoneRevived.keep _
  | write change =>
    cases h
    exact NoneRevived.refl _

/-- The key is used, and its row is retired or gone. -/
def Spent (cluster : Nat) (db : Db) : Prop :=
  cluster < db.clusters.next ∧ ∀ c, db.clusters.table.get cluster = some c → c.retiredAt ≠ none

theorem Spent.step {x : LifecycleAct} (hs : Spent cluster db) (h : lifecycleStep signer db x = some db') : Spent cluster db' := by
  have hstep := lifecycleStep_noneRevived h
  refine ⟨Nat.lt_of_lt_of_le hs.1 hstep.next, fun c hc hlive => ?_⟩
  obtain ⟨c₀, hc₀, hlive₀⟩ := hstep.live hs.1 hc hlive
  exact hs.2 c₀ hc₀ hlive₀

theorem CompletelyRetired.spent (h : CompletelyRetired cluster db) : Spent cluster db := by
  obtain ⟨c, hc, -, hretired, -⟩ := h.row
  refine ⟨db.clusters.below hc, fun c' hc' => ?_⟩
  rw [hc] at hc'
  cases hc'
  exact hretired

/-- A retirement of a spent cluster is refused, and leaves the rows as they are. -/
theorem Spent.refuses (hs : Spent cluster db) (clock : Clock) (request : RetirementRequest) :
    ∃ e, retireClusterAtomic signer clock cluster request db = .error e db := by
  cases h : retireClusterAtomic signer clock cluster request db with
  | ok result db' =>
    obtain ⟨locked, _, _, _, hcommitted⟩ := retireClusterAtomic_ok h
    exact absurd hcommitted.live (hs.2 locked hcommitted.row)
  | error e db' =>
    rw [atomic_error h]
    exact ⟨e, rfl⟩

/-- **Retirement.** Whatever the rows and the token: a retirement that raises leaves every row
as it was. One that commits leaves nothing of the cluster that should be gone, and the rows of every
other cluster as they were but that their references to an endpoint of the cluster are null; and
whatever happens next, no retirement of the cluster is accepted again, with that token or another. -/
theorem retire_atomic_complete_once (signer : Signer) (clock : Clock) (cluster : Nat) (request : RetirementRequest) (db : Db) :
    match retireClusterAtomic signer clock cluster request db with
    | .error _ db' => db' = db
    | .ok _ db' =>
      CompletelyRetired cluster db' ∧
      otherRows cluster db' = (otherRows cluster db).detached (ofEndpoint db.endpoints cluster) ∧
      ∀ xs db'', run (lifecycleStep signer) db' xs = some db'' →
        ∀ clock' request', ∃ e, retireClusterAtomic signer clock' cluster request' db'' = .error e db'' := by
  cases h : retireClusterAtomic signer clock cluster request db with
  | error e db' => exact atomic_error h
  | ok result db' =>
    obtain ⟨locked, confirmed, reason, finalized, hcommitted⟩ := retireClusterAtomic_ok h
    refine ⟨hcommitted.complete, hcommitted.others, fun xs db'' hrun clock' request' => ?_⟩
    have hspent : Spent cluster db'' := run_inv Spent.step hcommitted.complete.spent hrun
    exact hspent.refuses clock' request'

end

/-- Two clusters. The guest of the second was last seen through a URL that is now an endpoint of
the first; the first has an operation queued and a schedule. -/
def twoClusters : Db where
  clusters := (Serial.empty.insert ({ pk := 0, key := "lab", discoveredCaUuid := "ca-1" } : ProxmoxCluster).added
    (ProxmoxCluster.added_pk _)).insert ({ pk := 0, key := "edge" } : ProxmoxCluster).added (ProxmoxCluster.added_pk _)
  endpoints := ⟨[{ pk := 1, cluster := 1, name := "pve1", normalizedUrl := "https://pve1:8006" }], by decide⟩
  owned kind := match kind with
    | .clusterCredential => ⟨[{ pk := 1, cluster := 1, columns := [("token_id", .str "root@pam!helper")] }], by decide⟩
    | .proxmoxStorageConsumer => ⟨[{ pk := 1, cluster := 1 }, { pk := 2, cluster := 2 }], by decide⟩
    | _ => .empty
  guests := ⟨[{ pk := 1, cluster := 1, sourceEndpoint := some 1 }, { pk := 2, cluster := 2, sourceEndpoint := some 1 }], by decide⟩
  enrollments := ⟨[{ pk := 1, cluster := 1, onboardedViaEndpoint := some 1 }], by decide⟩
  storages := ⟨[{ pk := 1, cluster := 1, storageId := "local" }], by decide⟩
  storageRows kind := match kind with
    | .nodeState => ⟨[{ pk := 1, clusterStorage := 1 }], by decide⟩
    | _ => .empty
  mounts := .empty
  schedules := scheduled nightly
  consoles := .empty
  events := Serial.empty.insert (fun pk => { pk := pk, cluster := some 1, action := "guest.start", outcome := .queued }) fun _ => rfl
  scans := .empty

/-- A signer that has signed one token, for a forced retirement of the first cluster. -/
def oneToken : Signer where
  loads token now :=
    if token = "token" ∧ now ≤ 700 then
      some (.obj [("version", .int 2), ("cluster_pk", .int 1), ("cluster_key", .str "lab"), ("mode", .str "forced"),
        ("endpoint_id", .null), ("pinned_ca_uuid", .str ""), ("lifecycle_generation", .int 1),
        ("credential_version", .str "1:1970-01-01T00:00:00+00:00"), ("trust_version", .str ""),
        ("storage_impact_digest", .str "5f70bf18"), ("issued_at", .int 100), ("identity_verification", .str "skipped"),
        ("replacement_ca_uuid", .str "")])
    else none
  hexdigest _ := "5f70bf18"

def siteLost : RetirementRequest where
  confirmation := "token"
  reason := "site lost"
  typedClusterKey := "lab"
  permanentUnavailabilityAsserted := true

def siteLostAt : Clock := ⟨200, 200, 200, 200⟩

theorem siteLost_commits : ∃ result db', retireClusterAtomic oneToken siteLostAt 1 siteLost twoClusters = .ok result db' := by
  have hanswers : (match retireClusterAtomic oneToken siteLostAt 1 siteLost twoClusters with
      | .ok .. => true
      | .error .. => false) = true := by decide +kernel
  split at hanswers
  · rename_i result db' h
    exact ⟨result, db', h⟩
  · cases hanswers

theorem siteLost_retired : ∃ result db', retireClusterAtomic oneToken siteLostAt 1 siteLost twoClusters = .ok result db' ∧
    CompletelyRetired 1 db' ∧ ∃ e, retireClusterAtomic oneToken siteLostAt 1 siteLost db' = .error e db' := by
  obtain ⟨result, db', h⟩ := siteLost_commits
  have hretired := retire_atomic_complete_once oneToken siteLostAt 1 siteLost twoClusters
  rw [h] at hretired
  exact ⟨result, db', h, hretired.1, hretired.2.2 [] db' rfl siteLostAt siteLost⟩

/-- The guest of the second cluster loses its reference. -/
theorem other_cluster_guest_detached :
    ¬ ∀ (signer : Signer) (clock : Clock) (cluster : Nat) (request : RetirementRequest) (db : Db),
      match retireClusterAtomic signer clock cluster request db with
      | .error _ db' => db' = db
      | .ok _ db' =>
        CompletelyRetired cluster db' ∧ otherRows cluster db' = otherRows cluster db ∧
        ∀ xs db'', run (lifecycleStep signer) db' xs = some db'' → ∀ clock' request',
          request'.confirmation = request.confirmation → ∃ e, retireClusterAtomic signer clock' cluster request' db'' = .error e db'' := by
  intro hclaim
  obtain ⟨result, db', h⟩ := siteLost_commits
  have hsame := hclaim oneToken siteLostAt 1 siteLost twoClusters
  rw [h] at hsame
  obtain ⟨_, _, _, _, hcommitted⟩ := retireClusterAtomic_ok h
  have hguest := hcommitted.others.symm.trans hsame.2.1
  have hsource := congrArg (fun o => (o.guests 2).bind (·.sourceEndpoint)) hguest
  revert hsource
  decide +kernel

end PveHelper.Retirement
