/-
The life of a console session, after `core/services/console_sessions.py`,
`core/services/console_session_cleanup.py` and the gateway in `console_app/main.py`.
A session is created with a token and a provider ticket; `_consume_session` trades the
token for the ticket once, and the connection it starts then records its progress
with `_mark_session`, which writes by primary key whatever the row says by then.
Cleanup and retirement write in bulk beside it.

Each step is one transaction (the cleanup's update and its delete are two). A call
reads the clock before it takes the row's lock, so the times the steps carry are
arbitrary: a later step may carry an earlier time.
-/
import PveHelper.Clusters.Consoles
import PveHelper.Lib.Json
import PveHelper.Lib.Trans
import PveHelper.Lib.Atomic

namespace PveHelper.Clusters

open Lib Scheduling

/-! ## Rows -/

/-- The row with the columns that the gateway and the cleanup use beside those of
retirement. -/
structure GatewaySession extends ConsoleSession where
  tokenHash : String
  createdAt : Time
  consumedAt : Option Time := none
  connectedAt : Option Time := none
  error : String := ""
deriving DecidableEq

def GatewaySession.id (s : GatewaySession) : Nat := s.pk

/-- A new row under the key the database gives it. -/
def GatewaySession.added (s : GatewaySession) (pk : Nat) : GatewaySession := { s with pk := pk }

theorem GatewaySession.added_id (s : GatewaySession) (pk : Nat) : (s.added pk).id = pk := rfl

/-- What creation reads of the guest: its type when it is one that has a console, its
cluster's key pair and the cluster its reference names. -/
structure ConsoleDetail where
  objectType : Option Guests.ObjectType
  vmid : Nat
  node : String
  status : String
  cluster : Option (Nat × String)
  guestRefCluster : Option String

structure ConsoleRequest where
  enabled : Bool
  ttlSeconds : Int
  detail : ConsoleDetail
  /-- The cluster's clients with the answer each would give, or why there are none. -/
  candidates : Except String (List (String × Except String Json))
  token : String
  now : Time

/-! ## Creation -/

/-- The first endpoint that answers with an object; the last refusal when none does. -/
def askConsole (lastError : String) : List (String × Except String Json) → Except String (String × List (String × Json))
  | [] => .error lastError
  | (endpoint, .ok (.obj fields)) :: _ => .ok (endpoint, fields)
  | (_, .ok _) :: rest => askConsole "Unexpected vncproxy response." rest
  | (_, .error text) :: rest => askConsole text rest

/-- `str(response.get(key) or "")`. -/
def consoleText (response : List (String × Json)) (key : String) : String :=
  ((Json.lookup response key).getD .null).text

/-- `str(response.get("ticket") or response.get("vncticket") or "")`. -/
def consoleTicket (response : List (String × Json)) : String :=
  if ((Json.lookup response "ticket").getD .null).truthy then consoleText response "ticket" else consoleText response "vncticket"

/-- The clients of the guest's own cluster; the message when it has no such identity. -/
def consoleCandidates (r : ConsoleRequest) : String × List (String × Except String Json) :=
  match r.detail.cluster, r.detail.guestRefCluster with
  | some (_, key), some refKey =>
    if key != refKey then ("Console target is missing cluster-qualified identity.", [])
    else match r.candidates with
      | .ok clients => ("No Proxmox endpoint could create a console session.", clients)
      | .error text => (text, [])
  | _, _ => ("Console target is missing cluster-qualified identity.", [])

/-- `create_guest_console_session`: the row it stores, whose primary key is the
database's to give. -/
def createGuestConsoleSession (sha256 : String → String) (r : ConsoleRequest) : Except String GatewaySession :=
  if !r.enabled then .error "Console access is disabled."
  else match r.detail.objectType with
  | none => .error "Integrated console is available for VMs and containers only."
  | some objectType =>
    if r.detail.node == "" then .error "The guest's node could not be resolved."
    else if r.detail.status != "running" then .error "The guest must be running before a console can be opened."
    else do
      let (endpoint, response) ← askConsole (consoleCandidates r).1 (consoleCandidates r).2
      let port := consoleText response "port"
      let ticket := consoleTicket response
      let password := consoleText response "password"
      if port == "" || ticket == "" then .error "Proxmox did not return a usable console ticket."
      else return {
          pk := 0, cluster := r.detail.cluster.map (·.1), targetType := objectType, targetVmid := r.detail.vmid
          targetNode := r.detail.node, expiresAt := r.now + max r.ttlSeconds 5, proxmoxEndpoint := endpoint
          proxmoxPort := port, proxmoxTicket := ticket, proxmoxPassword := password
          tokenHash := sha256 r.token, createdAt := r.now }

/-! ## Consumption -/

/-- The token's time is over: the same update from the gateway and from the cleanup. -/
def GatewaySession.expire (now : Time) (s : GatewaySession) : GatewaySession :=
  { s with status := .expired, closedAt := some now, closeReason := "expired", proxmoxTicket := "", proxmoxPassword := "" }

/-- The row after its token was traded. -/
def GatewaySession.consume (now : Time) (s : GatewaySession) : GatewaySession :=
  { s with consumedAt := some now, status := .connecting, proxmoxTicket := "", proxmoxPassword := "" }

theorem GatewaySession.expire_id (now : Time) (s : GatewaySession) : (s.expire now).id = s.id := rfl

theorem GatewaySession.consume_id (now : Time) (s : GatewaySession) : (s.consume now).id = s.id := rfl

/-- `_consume_session`: the rows after the call, and the session it returns, which
keeps its ticket in memory. -/
def consumeSession (sha256 : String → String) (token : String) (now : Time) (sessions : Serial GatewaySession.id) :
    Serial GatewaySession.id × Option GatewaySession :=
  match sessions.table.rows.find? fun s => s.tokenHash == sha256 token with
  | none => (sessions, none)
  | some session =>
    if session.consumedAt.isSome || session.status != .pending then (sessions, none)
    else if session.expiresAt < now then
      (sessions.updateWhere (fun s => s.id == session.id) (·.expire now) (GatewaySession.expire_id now), none)
    else
      (sessions.updateWhere (fun s => s.id == session.id) (·.consume now) (GatewaySession.consume_id now),
        some { session with consumedAt := some now, status := .connecting })

/-! ## Lifecycle writes -/

/-- What one `_mark_session` writes. -/
inductive Mark
  | connected (now : Time)
  | closed (now : Time)
  | failed (exception error : String) (now : Time)

def Mark.status : Mark → ConsoleStatus
  | .connected _ => .connected
  | .closed _ => .closed
  | .failed .. => .failed

def Mark.apply : Mark → GatewaySession → GatewaySession
  | .connected now, s => { s with status := .connected, connectedAt := some now }
  | .closed now, s => { s with status := .closed, closedAt := some now, closeReason := "closed" }
  | .failed exception error now, s =>
    { s with status := .failed, closedAt := some now, closeReason := exception, error := error }

theorem Mark.apply_id (m : Mark) (s : GatewaySession) : (m.apply s).id = s.id := by cases m <;> rfl

theorem Mark.apply_status (m : Mark) (s : GatewaySession) : (m.apply s).status = m.status := by cases m <;> rfl

/-- A mark leaves the secrets as they are. -/
theorem Mark.apply_secrets (m : Mark) (s : GatewaySession) :
    (m.apply s).proxmoxTicket = s.proxmoxTicket ∧ (m.apply s).proxmoxPassword = s.proxmoxPassword := by
  cases m <;> exact ⟨rfl, rfl⟩

/-- `_mark_session`. -/
def markSession (m : Mark) (pk : Nat) (sessions : Serial GatewaySession.id) : Serial GatewaySession.id :=
  sessions.updateWhere (fun s => s.id == pk) m.apply m.apply_id

/-! ## Cleanup and retirement -/

/-- The first statement of `prune_console_sessions`. -/
def expireConsoleSessions (now : Time) (sessions : Serial GatewaySession.id) : Serial GatewaySession.id :=
  sessions.updateWhere (fun s => s.status == .pending && decide (s.expiresAt < now)) (·.expire now)
    (GatewaySession.expire_id now)

/-- The row is one that the second statement deletes. -/
def GatewaySession.outlived (cutoff : Time) (s : GatewaySession) : Bool :=
  s.status.terminal && match s.closedAt with
    | some closedAt => decide (closedAt < cutoff)
    | none => decide (s.createdAt < cutoff)

/-- The second statement of `prune_console_sessions`. -/
def deleteConsoleSessions (now : Time) (retentionHours : Int) (sessions : Serial GatewaySession.id) :
    Serial GatewaySession.id :=
  sessions.keep fun s => !s.outlived (now - max retentionHours 1 * 3600)

/-- The columns retirement reads and writes. -/
def retirementColumns (sessions : Serial GatewaySession.id) : Table ConsoleSession.pk where
  rows := sessions.table.rows.map (·.toConsoleSession)
  unique := by
    rw [List.map_map]
    exact sessions.table.unique

/-- The row with the retirement columns another table has for it. -/
def GatewaySession.withColumns (columns : Table ConsoleSession.pk) (s : GatewaySession) : GatewaySession :=
  { s with toConsoleSession := (columns.get s.pk).getD s.toConsoleSession }

theorem GatewaySession.withColumns_id (columns : Table ConsoleSession.pk) (s : GatewaySession) :
    (s.withColumns columns).id = s.id := by
  unfold GatewaySession.withColumns GatewaySession.id
  cases h : columns.get s.pk with
  | none => rfl
  | some c => exact Table.key_of_get h

/-- `finalize_cluster_retirement_consoles` over the whole rows. -/
def retireConsoleSessions (sessions : Serial GatewaySession.id) (cluster : Nat) (mode : RetirementMode) (retiredAt : Time) :
    Option (Serial GatewaySession.id) :=
  (finalizeConsoles (retirementColumns sessions) cluster mode retiredAt).map fun columns =>
    sessions.updateWhere (fun _ => true) (·.withColumns columns) (GatewaySession.withColumns_id columns)

theorem retirementColumns_get (sessions : Serial GatewaySession.id) (pk : Nat) :
    (retirementColumns sessions).get pk = (sessions.table.get pk).map (·.toConsoleSession) := by
  simp only [Table.get, retirementColumns, List.find?_map]
  rfl

/-- What a retirement of its cluster makes of a row. -/
def GatewaySession.retire (cluster : Nat) (mode : RetirementMode) (retiredAt : Time) (s : GatewaySession) : GatewaySession :=
  if s.of cluster then { s with toConsoleSession := s.toConsoleSession.retired mode retiredAt } else s

theorem retireConsoleSessions_get {sessions sessions' : Serial GatewaySession.id} {cluster : Nat} {mode : RetirementMode}
    {retiredAt : Time} (h : retireConsoleSessions sessions cluster mode retiredAt = some sessions') :
    sessions'.next = sessions.next ∧
      ∀ pk, sessions'.table.get pk = (sessions.table.get pk).map (·.retire cluster mode retiredAt) := by
  obtain ⟨columns, hcolumns, rfl⟩ := Option.map_eq_some_iff.mp h
  refine ⟨rfl, fun pk => ?_⟩
  rw [Serial.updateWhere, Table.get_updateWhere]
  cases hget : sessions.table.get pk with
  | none => rfl
  | some s =>
    have hpk : s.id = pk := Table.key_of_get hget
    have hrow : columns.get s.pk = some (if s.of cluster then s.toConsoleSession.retired mode retiredAt else s.toConsoleSession) := by
      rw [finalizeConsoles_get hcolumns, retirementColumns_get, show s.pk = pk from hpk, hget]
      rfl
    simp only [Option.map_some, if_true, GatewaySession.withColumns, GatewaySession.retire, hrow, Option.getD_some]
    split <;> rfl

/-! ## The system -/

/-- How far a connection of the gateway has come with its session. -/
inductive Phase
  | connecting | relaying | closing | over
deriving DecidableEq

structure Connection where
  session : Nat
  phase : Phase
deriving DecidableEq

/-- What became of a token, in the order it happened. -/
inductive SessionEvent
  | returned (session : GatewaySession) (now : Time)
  | retired (pk : Nat)
  | expired (pk : Nat)
deriving DecidableEq

def SessionEvent.pk : SessionEvent → Nat
  | .returned session _ => session.pk
  | .retired pk | .expired pk => pk

structure GatewaySys where
  sessions : Serial GatewaySession.id
  connections : List Connection
  log : List SessionEvent

def GatewaySys.init : GatewaySys := ⟨.empty, [], []⟩

inductive GatewayAction
  | create (request : ConsoleRequest)
  | consume (token : String) (now : Time)
  | expire (now : Time)
  | forget (now : Time) (retentionHours : Int)
  | retire (cluster : Nat) (mode : RetirementMode) (retiredAt : Time)
  | connected (i : Nat) (now : Time)
  | relayEnded (i : Nat) (now : Time)
  | audited (i : Nat)
  | raised (i : Nat) (exception error : String) (now : Time)

/-- The rows that the retirement closes. -/
def GatewaySession.closes (cluster : Nat) (mode : RetirementMode) (s : GatewaySession) : Bool :=
  s.of cluster && (s.status == .pending || (decide (mode = .forced) && s.status.active))

/-- A connection moves on with a write, or with none. -/
def GatewaySys.advance (s : GatewaySys) (i : Nat) (c : Connection) (phase : Phase) (mark : Option Mark) : GatewaySys :=
  { s with
    sessions := match mark with
      | some m => markSession m c.session s.sessions
      | none => s.sessions
    connections := s.connections.set i { c with phase := phase } }

/-- One transaction. A refused creation and a blocked retirement change nothing. -/
def gatewayStep (sha256 : String → String) (s : GatewaySys) : GatewayAction → Option GatewaySys
  | .create request =>
    match createGuestConsoleSession sha256 request with
    | .error _ => some s
    | .ok row =>
      -- `token_hash` is unique: a second row with it is an IntegrityError
      if s.sessions.table.rows.any fun r => r.tokenHash == row.tokenHash then some s
      else some { s with sessions := s.sessions.insert row.added row.added_id }
  | .consume token now =>
    match consumeSession sha256 token now s.sessions with
    | (sessions, none) => some { s with sessions := sessions }
    | (sessions, some session) => some {
        sessions := sessions
        connections := s.connections ++ [⟨session.pk, .connecting⟩]
        log := s.log ++ [.returned session now] }
  | .expire now => some { s with
      sessions := expireConsoleSessions now s.sessions
      log := s.log ++ (s.sessions.table.rows.filter fun r => r.status == .pending && decide (r.expiresAt < now)).map
        fun r => .expired r.pk }
  | .forget now retentionHours => some { s with sessions := deleteConsoleSessions now retentionHours s.sessions }
  | .retire cluster mode retiredAt =>
    match retireConsoleSessions s.sessions cluster mode retiredAt with
    | none => some s
    | some sessions => some { s with
        sessions := sessions
        log := s.log ++ (s.sessions.table.rows.filter fun r => r.closes cluster mode).map fun r => .retired r.pk }
  | .connected i now =>
    match s.connections[i]? with
    | some ⟨pk, .connecting⟩ => some (s.advance i ⟨pk, .connecting⟩ .relaying (some (.connected now)))
    | _ => none
  | .relayEnded i now =>
    match s.connections[i]? with
    | some ⟨pk, .relaying⟩ => some (s.advance i ⟨pk, .relaying⟩ .closing (some (.closed now)))
    | _ => none
  | .audited i =>
    -- `marked_closed` is set: what is raised from here on is teardown noise
    match s.connections[i]? with
    | some ⟨pk, .closing⟩ => some (s.advance i ⟨pk, .closing⟩ .over none)
    | _ => none
  | .raised i exception error now =>
    match s.connections[i]? with
    | some ⟨_, .over⟩ | none => none
    | some c => some (s.advance i c .over (some (.failed exception error now)))

/-- A connection that is not there ends nothing. -/
example (sha256 : String → String) (s : GatewaySys) (now : Time) :
    gatewayStep sha256 s (.relayEnded s.connections.length now) = none := by
  simp only [gatewayStep, List.getElem?_eq_none (Nat.le_refl _)]

/-! ## What every reachable state satisfies -/

/-- Outside PENDING the row holds no secret. -/
def GatewaySession.Erased (s : GatewaySession) : Prop :=
  s.status ≠ .pending → s.proxmoxTicket = "" ∧ s.proxmoxPassword = ""

/-- Closed by a forced retirement. -/
def GatewaySession.Forced (s : GatewaySession) : Prop :=
  s.status = .closed ∧ s.closeReason = codeForceRetiredUnresolvable

/-- The row is as its connection left it, unless a forced retirement closed it. -/
def Tracks : Phase → GatewaySession → Prop
  | .connecting, s => s.status = .connecting ∨ s.Forced
  | .relaying, s => s.status = .connected ∨ s.Forced
  | .closing, s => s.status = .closed
  | .over, s => s.status ≠ .pending

/-- No token is returned after it was returned, retired or expired. -/
def TokenOrder (earlier later : SessionEvent) : Prop :=
  match later with
  | .returned session _ => earlier.pk ≠ session.pk
  | _ => True

structure GatewayInv (s : GatewaySys) : Prop where
  erased : s.sessions.table.All GatewaySession.Erased
  spent : ∀ e ∈ s.log, e.pk < s.sessions.next ∧ ∀ r, s.sessions.table.get e.pk = some r → r.status ≠ .pending
  once : s.log.Pairwise TokenOrder
  timely : ∀ session now, SessionEvent.returned session now ∈ s.log → now ≤ session.expiresAt
  tracked : ∀ c ∈ s.connections, c.session < s.sessions.next ∧
    ∀ r, s.sessions.table.get c.session = some r → Tracks c.phase r
  apart : (s.connections.map (·.session)).Nodup

/-- A rewriting that no invariant of a row notices. -/
structure Kept (r r' : GatewaySession) : Prop where
  erased : r.Erased → r'.Erased
  tracks : ∀ phase, Tracks phase r → Tracks phase r'

theorem Tracks.not_pending {phase : Phase} {r : GatewaySession} (h : Tracks phase r) : r.status ≠ .pending := by
  intro hp
  cases phase <;> simp_all [Tracks, GatewaySession.Forced]

theorem Kept.refl (r : GatewaySession) : Kept r r := ⟨id, fun _ => id⟩

/-- A row that waits, closed without its secrets. -/
theorem kept_of_pending {r r' : GatewaySession} (hr : r.status = .pending) (ht : r'.proxmoxTicket = "")
    (hp : r'.proxmoxPassword = "") : Kept r r' :=
  ⟨fun _ _ => ⟨ht, hp⟩, fun _ htracks => absurd hr htracks.not_pending⟩

theorem GatewaySession.retire_kept (cluster : Nat) (mode : RetirementMode) (retiredAt : Time) (r : GatewaySession) :
    Kept r (r.retire cluster mode retiredAt) := by
  unfold GatewaySession.retire
  split
  · constructor
    · intro _ _
      have h : (r.toConsoleSession.retired mode retiredAt).sensitive = false := ConsoleSession.retired_sensitive _
      simp only [ConsoleSession.sensitive, Bool.or_eq_false_iff, bne_eq_false_iff_eq] at h
      exact h.1
    · intro phase htracks
      cases phase <;> cases hst : r.status <;> cases mode <;>
        simp_all [Tracks, GatewaySession.Forced, ConsoleSession.retired, ConsoleSession.closedBy, ConsoleSession.sanitized]
  · exact Kept.refl r

/-- A retirement leaves no row pending that it closes. -/
theorem GatewaySession.retire_of_closes {cluster : Nat} {mode : RetirementMode} {retiredAt : Time} {r : GatewaySession}
    (h : r.closes cluster mode = true) : (r.retire cluster mode retiredAt).status = .closed := by
  simp only [GatewaySession.closes, Bool.and_eq_true, Bool.or_eq_true, beq_iff_eq, decide_eq_true_eq] at h
  obtain ⟨hof, hp | ⟨rfl, hactive⟩⟩ := h
  · rw [GatewaySession.retire, if_pos hof]
    simp [ConsoleSession.retired, hp, ConsoleSession.closedBy]
  · rw [GatewaySession.retire, if_pos hof]
    cases hst : r.status <;> simp_all [ConsoleSession.retired, ConsoleStatus.active, ConsoleSession.closedBy]

section
variable {s : GatewaySys} {sha256 : String → String}

/-- The invariant over a rewriting in bulk, with the ends it logs. -/
theorem GatewayInv.rewritten (hinv : GatewayInv s) (sessions : Serial GatewaySession.id) (ends : List SessionEvent)
    (hnext : sessions.next = s.sessions.next)
    (hrows : ∀ pk r', sessions.table.get pk = some r' → ∃ r, s.sessions.table.get pk = some r ∧ Kept r r')
    (hends : ∀ e ∈ ends, e.pk < s.sessions.next ∧ ∀ r, sessions.table.get e.pk = some r → r.status ≠ .pending)
    (hnone : ∀ session now, SessionEvent.returned session now ∉ ends) :
    GatewayInv { s with sessions := sessions, log := s.log ++ ends } where
  erased := by
    intro pk r' hr'
    obtain ⟨r, hr, hkept⟩ := hrows pk r' hr'
    exact hkept.erased (hinv.erased pk r hr)
  spent := by
    intro e he
    rw [hnext]
    rcases List.mem_append.mp he with he | he
    · refine ⟨(hinv.spent e he).1, fun r' hr' => ?_⟩
      obtain ⟨r, hr, hkept⟩ := hrows e.pk r' hr'
      exact hkept.tracks .over ((hinv.spent e he).2 r hr)
    · exact hends e he
  once := by
    have hafter : ∀ a b, b ∈ ends → TokenOrder a b := by
      intro a b hb
      cases b with
      | returned session now => exact absurd hb (hnone session now)
      | retired pk => trivial
      | expired pk => trivial
    refine List.pairwise_append.mpr ⟨hinv.once, ?_, fun a _ b hb => hafter a b hb⟩
    exact List.pairwise_of_forall_mem_list fun a _ b hb => hafter a b hb
  timely := by
    intro session now h
    rcases List.mem_append.mp h with h | h
    · exact hinv.timely session now h
    · exact absurd h (hnone session now)
  tracked := by
    intro c hc
    rw [hnext]
    refine ⟨(hinv.tracked c hc).1, fun r' hr' => ?_⟩
    obtain ⟨r, hr, hkept⟩ := hrows c.session r' hr'
    exact hkept.tracks c.phase ((hinv.tracked c hc).2 r hr)
  apart := hinv.apart

theorem GatewayInv.init : GatewayInv GatewaySys.init where
  erased := by
    intro pk r h
    cases h
  spent := by simp [GatewaySys.init]
  once := List.Pairwise.nil
  timely := by simp [GatewaySys.init]
  tracked := by simp [GatewaySys.init]
  apart := List.nodup_nil

/-- The invariant over a rewriting in bulk that logs nothing. -/
theorem GatewayInv.quiet (hinv : GatewayInv s) {sessions : Serial GatewaySession.id}
    (hrows : ∀ pk r', sessions.table.get pk = some r' → ∃ r, s.sessions.table.get pk = some r ∧ Kept r r')
    (hnext : sessions.next = s.sessions.next) :
    GatewayInv { s with sessions := sessions } := by
  have h := hinv.rewritten sessions [] hnext hrows (by simp) (by simp)
  simpa using h

theorem createGuestConsoleSession_pending {request : ConsoleRequest} {row : GatewaySession}
    (h : createGuestConsoleSession sha256 request = .ok row) : row.status = .pending := by
  unfold createGuestConsoleSession at h
  split at h
  · cases h
  split at h
  · cases h
  split at h
  · cases h
  split at h
  · cases h
  obtain ⟨⟨endpoint, response⟩, -, h⟩ := except_bind_ok.mp h
  simp only at h
  split at h
  · cases h
  · cases h
    rfl

theorem GatewayInv.create (hinv : GatewayInv s) {row : GatewaySession} (hrow : row.status = .pending) :
    GatewayInv { s with sessions := s.sessions.insert row.added row.added_id } where
  erased := by
    intro pk r hr
    simp only [Serial.get_insert] at hr
    split at hr
    · cases hr
      exact fun hne => absurd hrow hne
    · exact hinv.erased pk r hr
  spent := by
    intro e he
    obtain ⟨hlt, hold⟩ := hinv.spent e he
    refine ⟨Nat.lt_succ_of_lt hlt, fun r hr => hold r ?_⟩
    rwa [Serial.get_insert, if_neg (Nat.ne_of_lt hlt)] at hr
  once := hinv.once
  timely := hinv.timely
  tracked := by
    intro c hc
    obtain ⟨hlt, hold⟩ := hinv.tracked c hc
    refine ⟨Nat.lt_succ_of_lt hlt, fun r hr => hold r ?_⟩
    rwa [Serial.get_insert, if_neg (Nat.ne_of_lt hlt)] at hr
  apart := hinv.apart

/-- What a call of `_consume_session` finds, and does. -/
theorem consumeSession_cases (sha256 : String → String) (token : String) (now : Time) (sessions : Serial GatewaySession.id) :
    consumeSession sha256 token now sessions = (sessions, none) ∨
    ∃ session, sessions.table.get session.pk = some session ∧ session.status = .pending ∧
      (session.expiresAt < now ∧ consumeSession sha256 token now sessions =
          (sessions.updateWhere (fun s => s.id == session.id) (·.expire now) (GatewaySession.expire_id now), none) ∨
        now ≤ session.expiresAt ∧ consumeSession sha256 token now sessions =
          (sessions.updateWhere (fun s => s.id == session.id) (·.consume now) (GatewaySession.consume_id now),
            some { session with consumedAt := some now, status := .connecting })) := by
  unfold consumeSession
  split
  · exact .inl rfl
  · rename_i session hfind
    split
    · exact .inl rfl
    · rename_i hfresh
      simp only [Bool.or_eq_true, bne_iff_ne, ne_eq, not_or, Decidable.not_not] at hfresh
      have hget := Table.get_of_mem (List.mem_of_find?_eq_some hfind)
      refine .inr ⟨session, hget, hfresh.2, ?_⟩
      split
      · rename_i hlate
        exact .inl ⟨hlate, rfl⟩
      · rename_i hlate
        exact .inr ⟨Int.not_lt.mp hlate, rfl⟩

/-- One row rewritten, which nothing has in use. -/
theorem kept_of_update (sessions : Serial GatewaySession.id) (pk : Nat) (f : GatewaySession → GatewaySession) (hf)
    (hkept : ∀ r, sessions.table.get pk = some r → Kept r (f r)) (pk' : Nat) (r' : GatewaySession)
    (hr' : (sessions.updateWhere (fun s => s.id == pk) f hf).table.get pk' = some r') :
    ∃ r, sessions.table.get pk' = some r ∧ Kept r r' := by
  rw [Serial.updateWhere, Table.get_updateWhere, Option.map_eq_some_iff] at hr'
  obtain ⟨r, hr, rfl⟩ := hr'
  refine ⟨r, hr, ?_⟩
  split
  · rename_i hid
    have hpk : pk' = pk := (Table.key_of_get hr).symm.trans (eq_of_beq hid)
    exact hkept r (hpk ▸ hr)
  · exact Kept.refl r

/-- A token returned: its session was pending, so no event and no connection had it. -/
theorem GatewayInv.returned (hinv : GatewayInv s) {session : GatewaySession} (session' : GatewaySession) {now : Time}
    (hget : s.sessions.table.get session.pk = some session) (hpending : session.status = .pending)
    (hpk : session'.pk = session.pk) (htime : now ≤ session'.expiresAt) :
    GatewayInv {
      sessions := s.sessions.updateWhere (fun s => s.id == session.id) (·.consume now) (GatewaySession.consume_id now)
      connections := s.connections ++ [⟨session'.pk, .connecting⟩]
      log := s.log ++ [.returned session' now] } := by
  have hkept : ∀ r, s.sessions.table.get session.id = some r → Kept r (r.consume now) := by
    intro r hr
    obtain rfl : session = r := Option.some.inj (hget.symm.trans hr)
    exact kept_of_pending hpending rfl rfl
  have hq := hinv.quiet (kept_of_update s.sessions session.id (·.consume now) (GatewaySession.consume_id now) hkept) rfl
  have hrow : ∀ r, (s.sessions.updateWhere (fun s => s.id == session.id) (·.consume now)
      (GatewaySession.consume_id now)).table.get session.pk = some r → r.status = .connecting := by
    intro r hr
    rw [Serial.updateWhere, Table.get_updateWhere, hget] at hr
    simp only [Option.map_some, beq_self_eq_true, if_true, Option.some.injEq] at hr
    rw [← hr]
    rfl
  have hnew : ∀ e ∈ s.log, e.pk ≠ session'.pk := by
    intro e he heq
    refine (hinv.spent e he).2 session ?_ hpending
    rw [heq, hpk]
    exact hget
  have hfree : ∀ c ∈ s.connections, c.session ≠ session'.pk := by
    intro c hc heq
    refine ((hinv.tracked c hc).2 session ?_).not_pending hpending
    rw [heq, hpk]
    exact hget
  have hbelow : session'.pk < s.sessions.next := by
    rw [hpk]
    exact s.sessions.below hget
  refine ⟨hq.erased, ?_, ?_, ?_, ?_, ?_⟩
  · intro e he
    rcases List.mem_append.mp he with he | he
    · exact hq.spent e he
    · rw [List.mem_singleton.mp he]
      refine ⟨hbelow, fun r hr => ?_⟩
      rw [hrow r (hpk ▸ hr)]
      exact ConsoleStatus.noConfusion
  · refine List.pairwise_append.mpr ⟨hinv.once, List.pairwise_singleton _ _, fun a ha b hb => ?_⟩
    rw [List.mem_singleton.mp hb]
    exact hnew a ha
  · intro x t h
    rcases List.mem_append.mp h with h | h
    · exact hinv.timely x t h
    · cases List.mem_singleton.mp h
      exact htime
  · intro c hc
    rcases List.mem_append.mp hc with hc | hc
    · exact hq.tracked c hc
    · rw [List.mem_singleton.mp hc]
      exact ⟨hbelow, fun r hr => .inl (hrow r (hpk ▸ hr))⟩
  · rw [List.map_append, List.nodup_append]
    refine ⟨hinv.apart, List.nodup_singleton _, fun a ha b hb => ?_⟩
    obtain ⟨c, hc, rfl⟩ := List.mem_map.mp ha
    rw [List.map_singleton, List.mem_singleton] at hb
    rw [hb]
    exact hfree c hc

theorem markSession_get (m : Mark) (pk : Nat) (sessions : Serial GatewaySession.id) (pk' : Nat) :
    (markSession m pk sessions).table.get pk' = (sessions.table.get pk').map fun r => if pk' = pk then m.apply r else r := by
  rw [markSession, Serial.updateWhere, Table.get_updateWhere]
  cases hr : sessions.table.get pk' with
  | none => rfl
  | some r =>
    have hkey : r.id = pk' := Table.key_of_get hr
    by_cases hpk : pk' = pk <;> simp [hkey, hpk]

/-- A row in use keeps out of PENDING under a mark, and its secrets erased. -/
theorem Mark.apply_erased (m : Mark) {r : GatewaySession} (herased : r.Erased) (hr : r.status ≠ .pending) :
    (m.apply r).Erased := by
  intro _
  rw [(m.apply_secrets r).1, (m.apply_secrets r).2]
  exact herased hr

theorem Mark.status_ne_pending (m : Mark) : m.status ≠ .pending := by cases m <;> exact ConsoleStatus.noConfusion

/-- The rows after a connection moved on: its own, marked, and the others. -/
theorem GatewaySys.advance_get (s : GatewaySys) (i : Nat) (c : Connection) (phase : Phase) (mark : Option Mark) (pk : Nat) :
    (s.advance i c phase mark).sessions.table.get pk = (s.sessions.table.get pk).map fun r =>
      if pk = c.session then (mark.elim r (·.apply r)) else r := by
  unfold GatewaySys.advance
  cases mark with
  | none =>
    cases s.sessions.table.get pk with
    | none => rfl
    | some r => exact congrArg some (ite_self r).symm
  | some m => exact markSession_get m c.session s.sessions pk

theorem GatewaySys.advance_next (s : GatewaySys) (i : Nat) (c : Connection) (phase : Phase) (mark : Option Mark) :
    (s.advance i c phase mark).sessions.next = s.sessions.next := by
  cases mark <;> rfl

theorem GatewayInv.advance (hinv : GatewayInv s) {i : Nat} {c : Connection} {phase : Phase} {mark : Option Mark}
    (hc : s.connections[i]? = some c) (htracks : ∀ r, Tracks c.phase r → Tracks phase (mark.elim r (·.apply r))) :
    GatewayInv (s.advance i c phase mark) := by
  have hmem : c ∈ s.connections := List.mem_of_getElem? hc
  have htracked := hinv.tracked c hmem
  have hopen : ∀ r, r.status ≠ .pending → (mark.elim r (·.apply r)).status ≠ .pending := by
    intro r hr
    cases mark with
    | none => exact hr
    | some m => exact (m.apply_status r).symm ▸ m.status_ne_pending
  refine ⟨?_, ?_, hinv.once, hinv.timely, ?_, ?_⟩
  · intro pk r' hr'
    rw [GatewaySys.advance_get, Option.map_eq_some_iff] at hr'
    obtain ⟨r, hr, rfl⟩ := hr'
    split
    · rename_i hpk
      have hne : r.status ≠ .pending := (htracked.2 r (hpk ▸ hr)).not_pending
      cases mark with
      | none => exact hinv.erased pk r hr
      | some m => exact m.apply_erased (hinv.erased pk r hr) hne
    · exact hinv.erased pk r hr
  · intro e he
    obtain ⟨hlt, hspent⟩ := hinv.spent e he
    rw [GatewaySys.advance_next]
    refine ⟨hlt, fun r' hr' => ?_⟩
    rw [GatewaySys.advance_get, Option.map_eq_some_iff] at hr'
    obtain ⟨r, hr, rfl⟩ := hr'
    split
    · exact hopen r (hspent r hr)
    · exact hspent r hr
  · intro d hd
    rw [GatewaySys.advance_next]
    rcases mem_set_of_nodup_map hinv.apart hc hd with rfl | ⟨hd, hne⟩
    · refine ⟨htracked.1, fun r' hr' => ?_⟩
      rw [GatewaySys.advance_get, Option.map_eq_some_iff] at hr'
      obtain ⟨r, hr, rfl⟩ := hr'
      rw [if_pos rfl]
      exact htracks r (htracked.2 r hr)
    · obtain ⟨hlt, hother⟩ := hinv.tracked d hd
      refine ⟨hlt, fun r' hr' => ?_⟩
      rw [GatewaySys.advance_get, Option.map_eq_some_iff] at hr'
      obtain ⟨r, hr, rfl⟩ := hr'
      rw [if_neg hne]
      exact hother r hr
  · have hsame : (s.connections.set i { c with phase := phase }).map (·.session) = s.connections.map (·.session) :=
      map_set_of_key hc rfl
    exact hsame.symm ▸ hinv.apart

theorem expireConsoleSessions_get (now : Time) (sessions : Serial GatewaySession.id) (pk : Nat) :
    (expireConsoleSessions now sessions).table.get pk = (sessions.table.get pk).map fun r =>
      if r.status == .pending && decide (r.expiresAt < now) then r.expire now else r := by
  rw [expireConsoleSessions, Serial.updateWhere, Table.get_updateWhere]

theorem GatewayInv.expire (hinv : GatewayInv s) (now : Time) {s' : GatewaySys}
    (h : gatewayStep sha256 s (.expire now) = some s') : GatewayInv s' := by
  cases h
  refine hinv.rewritten _ _ rfl ?_ ?_ ?_
  · intro pk r' hr'
    rw [expireConsoleSessions_get, Option.map_eq_some_iff] at hr'
    obtain ⟨r, hr, rfl⟩ := hr'
    refine ⟨r, hr, ?_⟩
    split
    · rename_i hdue
      simp only [Bool.and_eq_true, beq_iff_eq] at hdue
      exact kept_of_pending hdue.1 rfl rfl
    · exact Kept.refl r
  · intro e he
    obtain ⟨r, hr, rfl⟩ := List.mem_map.mp he
    obtain ⟨hr, hdue⟩ := List.mem_filter.mp hr
    have hget : s.sessions.table.get r.pk = some r := Table.get_of_mem hr
    refine ⟨s.sessions.below hget, fun r' hr' => ?_⟩
    rw [SessionEvent.pk, expireConsoleSessions_get, hget, Option.map_some, if_pos hdue] at hr'
    cases hr'
    exact ConsoleStatus.noConfusion
  · intro session now he
    obtain ⟨r, -, hr⟩ := List.mem_map.mp he
    cases hr

theorem GatewayInv.retire (hinv : GatewayInv s) {cluster : Nat} {mode : RetirementMode} {retiredAt : Time}
    {sessions : Serial GatewaySession.id} (h : retireConsoleSessions s.sessions cluster mode retiredAt = some sessions) :
    GatewayInv { s with
      sessions := sessions
      log := s.log ++ (s.sessions.table.rows.filter fun r => r.closes cluster mode).map fun r => .retired r.pk } := by
  obtain ⟨hnext, hget⟩ := retireConsoleSessions_get h
  refine hinv.rewritten _ _ hnext ?_ ?_ ?_
  · intro pk r' hr'
    rw [hget, Option.map_eq_some_iff] at hr'
    obtain ⟨r, hr, rfl⟩ := hr'
    exact ⟨r, hr, r.retire_kept cluster mode retiredAt⟩
  · intro e he
    obtain ⟨r, hr, rfl⟩ := List.mem_map.mp he
    obtain ⟨hr, hcloses⟩ := List.mem_filter.mp hr
    have hrow : s.sessions.table.get r.pk = some r := Table.get_of_mem hr
    refine ⟨s.sessions.below hrow, fun r' hr' => ?_⟩
    rw [SessionEvent.pk, hget, hrow, Option.map_some] at hr'
    cases hr'
    rw [GatewaySession.retire_of_closes hcloses]
    exact ConsoleStatus.noConfusion
  · intro session now he
    obtain ⟨r, -, hr⟩ := List.mem_map.mp he
    cases hr

theorem GatewayInv.forget (hinv : GatewayInv s) (now : Time) (retentionHours : Int) :
    GatewayInv { s with sessions := deleteConsoleSessions now retentionHours s.sessions } := by
  refine hinv.quiet (fun pk r' hr' => ?_) rfl
  rw [deleteConsoleSessions, Serial.keep, Table.get_keep, Option.filter_eq_some_iff] at hr'
  exact ⟨r', hr'.1, Kept.refl r'⟩

theorem GatewayInv.consume (hinv : GatewayInv s) {token : String} {now : Time} {s' : GatewaySys}
    (h : gatewayStep sha256 s (.consume token now) = some s') : GatewayInv s' := by
  rcases consumeSession_cases sha256 token now s.sessions with heq | ⟨session, hget, hpending, hcall⟩
  · simp only [gatewayStep, heq] at h
    cases h
    exact hinv
  · rcases hcall with ⟨-, heq⟩ | ⟨htime, heq⟩
    · simp only [gatewayStep, heq] at h
      cases h
      refine hinv.quiet (kept_of_update _ _ _ _ fun r hr => ?_) rfl
      obtain rfl : session = r := Option.some.inj (hget.symm.trans hr)
      exact kept_of_pending hpending rfl rfl
    · simp only [gatewayStep, heq] at h
      cases h
      exact hinv.returned { session with consumedAt := some now, status := .connecting } hget hpending rfl htime

theorem gatewayStep_inv {a : GatewayAction} {s' : GatewaySys} (hinv : GatewayInv s)
    (h : gatewayStep sha256 s a = some s') : GatewayInv s' := by
  cases a with
  | create request =>
    simp only [gatewayStep] at h
    split at h
    · cases h
      exact hinv
    · rename_i row hrow
      split at h
      · cases h
        exact hinv
      · cases h
        exact hinv.create (createGuestConsoleSession_pending hrow)
  | consume token now => exact hinv.consume h
  | expire now => exact hinv.expire now h
  | forget now retentionHours =>
    cases h
    exact hinv.forget now retentionHours
  | retire cluster mode retiredAt =>
    simp only [gatewayStep] at h
    split at h
    · cases h
      exact hinv
    · rename_i sessions hretire
      cases h
      exact hinv.retire hretire
  | connected i now =>
    simp only [gatewayStep] at h
    split at h
    · rename_i pk hc
      cases h
      exact hinv.advance hc fun r _ => .inl rfl
    · cases h
  | relayEnded i now =>
    simp only [gatewayStep] at h
    split at h
    · rename_i pk hc
      cases h
      exact hinv.advance hc fun r _ => rfl
    · cases h
  | audited i =>
    simp only [gatewayStep] at h
    split at h
    · rename_i pk hc
      cases h
      exact hinv.advance hc fun r hr => hr.not_pending
    · cases h
  | raised i exception error now =>
    simp only [gatewayStep] at h
    split at h
    · cases h
    · cases h
    · rename_i c _ hc
      cases h
      exact hinv.advance hc fun r _ => ConsoleStatus.noConfusion

/-- **A console token is good once.** Whatever the order of creations, calls, cleanups,
retirements and lifecycle writes: no session is returned after it was returned, closed by a
retirement or expired by the cleanup, none to a call that began after its `expires_at`, and
a row outside PENDING has neither ticket nor password. -/
theorem consoleTokens_oneShot (sha256 : String → String) {s : GatewaySys}
    (h : Reachable (gatewayStep sha256) (· = GatewaySys.init) s) :
    s.log.Pairwise TokenOrder ∧
      (∀ session now, SessionEvent.returned session now ∈ s.log → now ≤ session.expiresAt) ∧
      ∀ pk row, s.sessions.table.get pk = some row → row.status ≠ .pending →
        row.proxmoxTicket = "" ∧ row.proxmoxPassword = "" := by
  have hinv : GatewayInv s := h.inv (fun _ h₀ => h₀ ▸ GatewayInv.init) gatewayStep_inv
  exact ⟨hinv.once, hinv.timely, hinv.erased⟩

/-- A running guest of the cluster `lab`. -/
def labGuest : ConsoleDetail where
  objectType := some .vm
  vmid := 100
  node := "pve1"
  status := "running"
  cluster := some (1, "lab")
  guestRefCluster := some "lab"

def labConsole : ConsoleRequest where
  enabled := true
  ttlSeconds := 30
  detail := labGuest
  candidates := .ok [("https://pve1:8006", .ok (.obj [("port", .str "5900"), ("ticket", .str "PVEVNC:1")]))]
  token := "token"
  now := 0

/-- The token is presented twice, in time. -/
theorem consoleTokens_oneShot_presentedTwice :
    ∃ s, run (gatewayStep id) .init [.create labConsole, .consume "token" 10, .consume "token" 11] = some s ∧
      s.log.map (·.pk) = [1] ∧ s.log.Pairwise TokenOrder := by
  refine ⟨_, rfl, by decide +kernel, ?_⟩
  exact (consoleTokens_oneShot id ⟨_, [.create labConsole, .consume "token" 10, .consume "token" 11], rfl, rfl⟩).1

end

/-! ## The outcome of a session -/

/-- The status and the reason recorded with it. -/
def GatewaySession.outcome (s : GatewaySession) : ConsoleStatus × String := (s.status, s.closeReason)

def sessionOutcome (s : GatewaySys) (pk : Nat) : Option (ConsoleStatus × String) :=
  (s.sessions.table.get pk).map (·.outcome)

/-- The lifecycle write of a step, and the connection that makes it. -/
def GatewayAction.mark : GatewayAction → Option (Nat × Mark)
  | .connected i now => some (i, .connected now)
  | .relayEnded i now => some (i, .closed now)
  | .raised i exception error now => some (i, .failed exception error now)
  | _ => none

/-- A lifecycle write finds its row not yet terminal, or gone. -/
def FindsOpen (s : GatewaySys) (a : GatewayAction) (_ : GatewaySys) : Prop :=
  ∀ i m c r, a.mark = some (i, m) → s.connections[i]? = some c → s.sessions.table.get c.session = some r →
    r.status.terminal = false

section
variable {s s' : GatewaySys} {a : GatewayAction} {sha256 : String → String}

/-- A lifecycle write is a write to the row of its connection, which is not over. -/
theorem gatewayStep_mark {i : Nat} {m : Mark} (hm : a.mark = some (i, m)) (h : gatewayStep sha256 s a = some s') :
    ∃ c phase, s.connections[i]? = some c ∧ s' = s.advance i c phase (some m) ∧ c.phase ≠ .over ∧
      (m.status = .closed → c.phase = .relaying ∧ ∀ r, (m.apply r).closeReason = "closed") := by
  cases a with
  | connected j now =>
    cases hm
    simp only [gatewayStep] at h
    split at h
    · rename_i pk hc
      cases h
      exact ⟨_, _, hc, rfl, Phase.noConfusion, ConsoleStatus.noConfusion⟩
    · cases h
  | relayEnded j now =>
    cases hm
    simp only [gatewayStep] at h
    split at h
    · rename_i pk hc
      cases h
      exact ⟨_, _, hc, rfl, Phase.noConfusion, fun _ => ⟨rfl, fun _ => rfl⟩⟩
    · cases h
  | raised j exception error now =>
    cases hm
    simp only [gatewayStep] at h
    split at h
    · cases h
    · cases h
    · rename_i c hopen hc
      cases h
      exact ⟨c, _, hc, rfl, fun hover => hopen c.session (by rw [← hover]), ConsoleStatus.noConfusion⟩
  | create request => cases hm
  | consume token now => cases hm
  | expire now => cases hm
  | forget now retentionHours => cases hm
  | retire cluster mode retiredAt => cases hm
  | audited j => cases hm

theorem gatewayStep_next (h : gatewayStep sha256 s a = some s') : s.sessions.next ≤ s'.sessions.next := by
  cases hm : a.mark with
  | some im =>
    obtain ⟨c, phase, -, rfl, -, -⟩ := gatewayStep_mark hm h
    rw [GatewaySys.advance_next]
  | none =>
    cases a with
    | create request =>
      simp only [gatewayStep] at h
      split at h
      · cases h
        exact Nat.le_refl _
      · split at h
        · cases h
          exact Nat.le_refl _
        · cases h
          exact Nat.le_succ _
    | consume token now =>
      rcases consumeSession_cases sha256 token now s.sessions with heq | ⟨session, -, -, ⟨-, heq⟩ | ⟨-, heq⟩⟩ <;>
        simp only [gatewayStep, heq] at h <;> cases h <;> exact Nat.le_refl _
    | expire now =>
      cases h
      exact Nat.le_refl _
    | forget now retentionHours =>
      cases h
      exact Nat.le_refl _
    | retire cluster mode retiredAt =>
      simp only [gatewayStep] at h
      split at h
      · cases h
        exact Nat.le_refl _
      · rename_i sessions hretire
        cases h
        exact (retireConsoleSessions_get hretire).1.ge
    | audited i =>
      simp only [gatewayStep] at h
      split at h
      · cases h
        rw [GatewaySys.advance_next]
      · cases h
    | connected i now => cases hm
    | relayEnded i now => cases hm
    | raised i exception error now => cases hm

/-- A retirement keeps the outcome of a session that is over. -/
theorem GatewaySession.retire_outcome {cluster : Nat} {mode : RetirementMode} {retiredAt : Time} {r : GatewaySession}
    (h : r.status.terminal = true) : (r.retire cluster mode retiredAt).outcome = r.outcome := by
  unfold GatewaySession.retire
  split
  · cases hst : r.status <;>
      simp_all [ConsoleStatus.terminal, GatewaySession.outcome, ConsoleSession.retired, ConsoleSession.sanitized]
  · rfl

/-- Beside the lifecycle writes, no step touches the outcome of a session that is over. -/
theorem gatewayStep_outcome (hm : a.mark = none) (h : gatewayStep sha256 s a = some s') {pk : Nat} {r' : GatewaySession}
    (hold : pk < s.sessions.next) (hr' : s'.sessions.table.get pk = some r') :
    ∃ r, s.sessions.table.get pk = some r ∧ (r.status.terminal = true → r'.outcome = r.outcome) := by
  have hpending : ∀ {r r' : GatewaySession}, r.status = .pending → r.status.terminal = true → r'.outcome = r.outcome := by
    intro r r' hp ht
    rw [hp] at ht
    cases ht
  cases a with
  | create request =>
    simp only [gatewayStep] at h
    split at h
    · cases h
      exact ⟨r', hr', fun _ => rfl⟩
    · split at h
      · cases h
        exact ⟨r', hr', fun _ => rfl⟩
      · cases h
        simp only [Serial.get_insert, if_neg (Nat.ne_of_lt hold)] at hr'
        exact ⟨r', hr', fun _ => rfl⟩
  | consume token now =>
    rcases consumeSession_cases sha256 token now s.sessions with heq | ⟨session, hget, hp, hcall⟩
    · simp only [gatewayStep, heq] at h
      cases h
      exact ⟨r', hr', fun _ => rfl⟩
    · have hrow : ∃ f : GatewaySession → GatewaySession, (s.sessions.table.get pk).map
          (fun r => if r.id == session.id then f r else r) = some r' := by
        rcases hcall with ⟨-, heq⟩ | ⟨-, heq⟩
        · simp only [gatewayStep, heq] at h
          cases h
          simp only [Serial.updateWhere, Table.get_updateWhere] at hr'
          exact ⟨_, hr'⟩
        · simp only [gatewayStep, heq] at h
          cases h
          simp only [Serial.updateWhere, Table.get_updateWhere] at hr'
          exact ⟨_, hr'⟩
      obtain ⟨f, hrow⟩ := hrow
      obtain ⟨r, hr, rfl⟩ := Option.map_eq_some_iff.mp hrow
      refine ⟨r, hr, ?_⟩
      split
      · rename_i hid
        have hkey : session.pk = pk := (eq_of_beq hid).symm.trans (Table.key_of_get hr)
        rw [hkey, hr] at hget
        cases hget
        exact hpending hp
      · exact fun _ => rfl
  | expire now =>
    cases h
    rw [expireConsoleSessions_get, Option.map_eq_some_iff] at hr'
    obtain ⟨r, hr, rfl⟩ := hr'
    refine ⟨r, hr, ?_⟩
    split
    · rename_i hdue
      simp only [Bool.and_eq_true, beq_iff_eq] at hdue
      exact hpending hdue.1
    · exact fun _ => rfl
  | forget now retentionHours =>
    cases h
    rw [deleteConsoleSessions, Serial.keep, Table.get_keep, Option.filter_eq_some_iff] at hr'
    exact ⟨r', hr'.1, fun _ => rfl⟩
  | retire cluster mode retiredAt =>
    simp only [gatewayStep] at h
    split at h
    · cases h
      exact ⟨r', hr', fun _ => rfl⟩
    · rename_i sessions hretire
      cases h
      rw [(retireConsoleSessions_get hretire).2, Option.map_eq_some_iff] at hr'
      obtain ⟨r, hr, rfl⟩ := hr'
      exact ⟨r, hr, GatewaySession.retire_outcome⟩
  | audited i =>
    simp only [gatewayStep] at h
    split at h
    · cases h
      rw [GatewaySys.advance_get, Option.map_eq_some_iff] at hr'
      obtain ⟨r, hr, rfl⟩ := hr'
      exact ⟨r, hr, fun _ => congrArg GatewaySession.outcome (ite_self r)⟩
    · cases h
  | connected i now => cases hm
  | relayEnded i now => cases hm
  | raised i exception error now => cases hm

/-- What a lifecycle write makes of a row whose session is over is another outcome: the
row of a connection still under way is closed by nobody but a forced retirement, or by
the connection itself just before its audit. -/
theorem Mark.outcome_ne {m : Mark} {phase : Phase} {r : GatewaySession} (hphase : phase ≠ .over) (htracks : Tracks phase r)
    (hclosed : m.status = .closed → phase = .relaying ∧ ∀ r, (m.apply r).closeReason = "closed")
    (hterminal : r.status.terminal = true) : (m.apply r).outcome ≠ r.outcome := by
  intro heq
  have hstatus : r.status = .closed := by
    cases phase <;> simp_all [Tracks, GatewaySession.Forced] <;> rcases htracks with h | h <;>
      simp_all [ConsoleStatus.terminal]
  have hsame : m.status = .closed := by
    rw [← m.apply_status r, ← hstatus]
    exact congrArg Prod.fst heq
  obtain ⟨rfl, hreason⟩ := hclosed hsame
  rcases htracks with hconnected | ⟨-, hforced⟩
  · rw [hstatus] at hconnected
    cases hconnected
  · have hwritten : "closed" = codeForceRetiredUnresolvable := by
      rw [← hforced, ← hreason r]
      exact congrArg Prod.snd heq
    exact absurd hwritten (by decide)

/-- **A terminal status stays exactly where the lifecycle writes find their row open.**
Retirement and cleanup look at the status they replace; `_mark_session` does not. Over
every run, a session once CLOSED, FAILED or EXPIRED keeps its status and its reason
exactly when no lifecycle write meets a row that is already terminal. -/
theorem terminalStatus_absorbing_iff (sha256 : String → String) (ls : List GatewayAction) :
    Absorbing (gatewayStep sha256) sessionOutcome (fun outcome => outcome.1.terminal = true) GatewaySys.init ls ↔
      Along (gatewayStep sha256) FindsOpen GatewaySys.init ls := by
  refine absorbing_iff_along_inv (J := GatewayInv) (fun pk s => pk < s.sessions.next) ?_ ?_ ?_ ?_ ?_ GatewayInv.init
  · exact fun hinv h _ => gatewayStep_inv hinv h
  · intro s pk v _ hv
    obtain ⟨r, hr, -⟩ := Option.map_eq_some_iff.mp hv
    exact s.sessions.below hr
  · exact fun _ hspent h => Nat.lt_of_lt_of_le hspent (gatewayStep_next h)
  · intro s a s' pk v v' hinv h hopen hspent hview hclosed hv'
    obtain ⟨r', hr', rfl⟩ := Option.map_eq_some_iff.mp hv'
    cases hm : a.mark with
    | none =>
      obtain ⟨r, hr, hkept⟩ := gatewayStep_outcome hm h hspent hr'
      obtain rfl : r.outcome = v := hview _ (Option.map_eq_some_iff.mpr ⟨r, hr, rfl⟩)
      exact hkept hclosed
    | some im =>
      obtain ⟨c, phase, hc, rfl, -, -⟩ := gatewayStep_mark hm h
      rw [GatewaySys.advance_get, Option.map_eq_some_iff] at hr'
      obtain ⟨r, hr, rfl⟩ := hr'
      obtain rfl : r.outcome = v := hview _ (Option.map_eq_some_iff.mpr ⟨r, hr, rfl⟩)
      split
      · rename_i hpk
        have hstill : r.status.terminal = false := hopen im.1 im.2 c r hm hc (hpk ▸ hr)
        exact absurd (hstill.symm.trans hclosed) Bool.false_ne_true
      · rfl
  · intro s a s' hinv h hkeeps i m c r hm hc hr
    obtain ⟨c', phase, hc', rfl, hphase, hclosed⟩ := gatewayStep_mark hm h
    obtain rfl : c = c' := Option.some.inj (hc.symm.trans hc')
    cases hterminal : r.status.terminal with
    | false => rfl
    | true =>
      have htracks : Tracks c.phase r := (hinv.tracked c (List.mem_of_getElem? hc)).2 r hr
      refine absurd ?_ (Mark.outcome_ne hphase htracks hclosed hterminal)
      refine hkeeps c.session r.outcome _ (Option.map_eq_some_iff.mpr ⟨r, hr, rfl⟩) hterminal ?_
      rw [sessionOutcome, GatewaySys.advance_get, hr, Option.map_some, if_pos rfl]
      rfl

end

/-- The connection was made, then the cluster retired by force. -/
def retiredInUse : List GatewayAction :=
  [.create labConsole, .consume "token" 10, .connected 0 11, .retire 1 .forced 20]

/-- The relay that the retirement cut off ends with an exception of its own. -/
theorem failed_over_closed : ¬ ∀ ls,
    Absorbing (gatewayStep id) sessionOutcome (fun outcome => outcome.1.terminal = true) GatewaySys.init ls := by
  intro h
  have hstays := h (retiredInUse ++ [.raised 0 "ConnectionResetError" "The console connection to Proxmox failed." 21] ++ [])
  have := hstays retiredInUse [.raised 0 "ConnectionResetError" "The console connection to Proxmox failed." 21] [] _ _ rfl
    rfl rfl 1 (.closed, codeForceRetiredUnresolvable) (.failed, "ConnectionResetError") rfl rfl rfl
  cases this

end PveHelper.Clusters
