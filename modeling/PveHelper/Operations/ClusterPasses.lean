/-
Two background passes over everything there is: `refresh_current_guest_inventory`
over the enabled clusters and `reap_stale_guest_tasks` over the stale guest events,
with the acquisition checks of `core/services/cluster_resolver.py` below them. Both
loops are bare: what a turn raises ends the pass. A read that an endpoint fails is
caught inside the turn; a refusal to acquire the cluster, a client that cannot be
built, a number that overflows and a value that the database does not take are not.
-/
import PveHelper.Lib.Loop
import PveHelper.Lib.Numbers
import PveHelper.Operations.GuestTask
import Mathlib.Data.List.Sort
import Mathlib.Data.String.Basic

namespace PveHelper.Operations

open Lib

/-! ## Acquisition -/

/-- How a member answers `cluster/resources`. -/
inductive ReadAnswer
  | guests (resources : List Json)
  | invalid
  | failed (message : String)

/-- `ProxmoxEndpoint`. -/
structure PassEndpoint where
  name : String
  url : String
  enabled : Bool := true
  lastHealthStatus : String := ""
  answer : ReadAnswer

/-- A cluster with what acquisition reads of it: whether its credential and its
transport trust resolve stands for `resolve_credential` and `resolve_trust_profile`. -/
structure PassCluster where
  key : String
  enabled : Bool := true
  retired : Bool := false
  ingestionQuarantined : Bool := false
  quarantineReason : String := ""
  transitionPending : Bool := false
  hasCredential : Bool := true
  hasTrust : Bool := true
  endpoints : List PassEndpoint

/-- What a turn raises. -/
inductive Refusal
  | retired (key : String)
  | disabled (key : String)
  | quarantined (key reason : String)
  | transitionPending (key : String)
  | credential (key : String)
  | trust (key : String)
  deriving DecidableEq

def Refusal.message : Refusal → String
  | .retired key => "Cluster '" ++ key ++ "' is retired. Retirement is permanent, so this " ++
      "connection can never read from or write to Proxmox again; its retained " ++
      "history stays readable under Connections."
  | .disabled key => "Cluster '" ++ key ++ "' is disabled. Re-enable it, which re-verifies its " ++
      "identity and trust, before reading from or writing to it."
  | .quarantined key reason => "Cluster '" ++ key ++ "' is quarantined: " ++ reason ++
      " Re-approve its identity before reading from or writing to it."
  | .transitionPending key => "Cluster '" ++ key ++ "' has a pending standalone/corosync identity transition. " ++
      "Complete its identity hand-off under Connections before provider work resumes."
  | .credential key => "Cluster '" ++ key ++ "' has no stored API credential. Add one; the legacy " ++
      "global token is no longer read after the credential cutover."
  | .trust key => "Cluster '" ++ key ++ "' has no stored transport trust. Approve its transport; " ++
      "the global CA/verify settings are no longer read after the trust cutover."

namespace PassCluster

variable (c : PassCluster)

/-- `_require_acquirable`. -/
def requireAcquirable : Except Refusal Unit :=
  if c.retired then .error (.retired c.key)
  else if !c.enabled then .error (.disabled c.key)
  else if c.ingestionQuarantined then .error (.quarantined c.key c.quarantineReason)
  else if c.transitionPending then .error (.transitionPending c.key)
  else .ok ()

/-- `client_for_endpoint`, for any endpoint of the cluster. -/
def client : Except Refusal Unit :=
  if !c.hasCredential then .error (.credential c.key)
  else if !c.hasTrust then .error (.trust c.key)
  else .ok ()

/-- `enabled_endpoints`: healthy ones first, then by name. -/
def enabledEndpoints : List PassEndpoint :=
  let rank := fun e : PassEndpoint => if e.lastHealthStatus = "ok" then 0 else if e.lastHealthStatus = "" then 1 else 2
  (c.endpoints.filter (·.enabled)).insertionSort fun a b => rank a < rank b ∨ (rank a = rank b ∧ a.name ≤ b.name)

/-- `cluster_clients`, as the endpoints the clients are for. -/
def clusterClients : Except Refusal (List PassEndpoint) := do
  c.requireAcquirable
  c.enabledEndpoints.forM fun _ => c.client
  return c.enabledEndpoints

/-- One endpoint's turn in `cluster_wide_read`: its error, or the resources it lists. -/
def read (e : PassEndpoint) : Except String (List Json) :=
  match e.answer with
  | .guests resources => .ok resources
  | .invalid => .error (e.name ++ ": cluster guest inventory returned an invalid response.")
  | .failed message => .error (e.name ++ ": " ++ message)

/-- The loop of `cluster_wide_read` with the reader of `fetch_verified_guest_inventory`: the
resources, where an endpoint answered, and the errors of the ones before it. -/
def readAny : List PassEndpoint → Except Refusal (Option (List Json) × List String)
  | [] => .ok (none, [])
  | e :: es => do
    c.client
    match read e with
    | .ok resources => return (some resources, [])
    | .error message => do
      let (found, errors) ← readAny es
      return (found, message :: errors)

end PassCluster

/-! ## The guest refresh -/

/-- What a turn of a pass raises. -/
inductive TurnFailure
  | refused (refusal : Refusal)
  /-- `OverflowError`. -/
  | overflow
  /-- The database does not take a value. -/
  | unstorable

section
variable (data : List (String × Json))

/-- `data.get(key)`. -/
def resourceField (key : String) : Json := (Json.lookup data key).getD .null

/-- The object type of a resource, where it is a guest. -/
def resourceType : Option String :=
  let rawType := resourceField data "type"
  let text := if rawType.truthy then rawType.shown else ""
  if text = "qemu" then some "vm" else if text = "lxc" then some "ct" else none

/-- A number of the summary raises: `_float_or_zero` and `_int_or_zero` catch `TypeError` and `ValueError`. -/
def summaryOverflows : Bool :=
  (resourceField data "cpu").floatOverflows ||
    ["mem", "maxmem", "disk", "maxdisk", "uptime", "template"].any fun key => (resourceField data key).intOverflows

end

/-- `_add_guest_summary`, as the key of the guest; nothing where the resource names none. -/
def addGuestSummary : Json → Except TurnFailure (Option (String × String × Int))
  | .obj data =>
    match resourceType data with
    | none => .ok none
    | some type =>
      let vmid := resourceField data "vmid"
      if vmid.intOverflows then .error .overflow
      else match vmid.toInt with
        | none => .ok none
        | some n =>
          if summaryOverflows data then .error .overflow
          else
            let node := resourceField data "node"
            .ok (some (if node.truthy then node.shown else "", type, n))
  | _ => .ok none

/-- The distinct guests of a list of resources. -/
def guestSummaries (resources : List Json) : Except TurnFailure (List (String × String × Int)) :=
  (resources.mapM addGuestSummary).map fun keys => (keys.filterMap id).dedup

/-- What a refresh finds in the database: the answer of the cluster's advisory lock, and whether
`reconcile_live_guest_inventory` can store these resources. -/
structure PassStore where
  acquired : String → Bool
  takes : String → List Json → Bool

/-- What `_refresh_cluster_guest_inventory` returns. -/
structure RefreshReport where
  clusterKey : String
  skipped : Bool
  complete : Bool
  guests : Nat
  errors : List String

/-- `_refresh_cluster_guest_inventory`. -/
def refreshClusterGuestInventory (store : PassStore) (c : PassCluster) : Except TurnFailure RefreshReport :=
  if !store.acquired c.key then .ok ⟨c.key, true, false, 0, []⟩
  else do
    c.requireAcquirable.mapError .refused
    let (found, errors) ← (c.readAny c.enabledEndpoints).mapError .refused
    let guests ← guestSummaries (found.getD [])
    let errors := if c.enabledEndpoints.isEmpty then
      errors ++ ["Cluster '" ++ c.key ++ "' has no enabled Proxmox endpoint."] else errors
    if store.takes c.key (found.getD []) then return ⟨c.key, false, found.isSome, guests.length, errors⟩
    else throw .unstorable

/-- The enabled clusters, ordered by key. -/
def enabledClusters (clusters : List PassCluster) : List PassCluster :=
  (clusters.filter (·.enabled)).insertionSort (·.key ≤ ·.key)

/-- `refresh_current_guest_inventory`: the clusters whose turn is done, and what ended the pass. -/
def refreshCurrentGuestInventory (store : PassStore) (clusters : List PassCluster) :
    List (PassCluster × RefreshReport) × Option TurnFailure :=
  untilRaise (refreshClusterGuestInventory store) (enabledClusters clusters)

/-! ## The reaper -/

/-- A stale guest event, with what the provider would say of its task. -/
structure StaleEvent where
  pk : Nat
  cluster : Option PassCluster
  endpointUrl : String := ""
  details : GuestTaskDetails
  status : TaskStatus := .unknown

/-- Whether the reaper gets a client to ask with. -/
def StaleEvent.client (e : StaleEvent) : Except Refusal Bool :=
  match e.cluster with
  | none => .ok false
  | some c =>
    if e.endpointUrl != "" && c.endpoints.any (fun x => x.enabled && x.url == e.endpointUrl) then do
      c.client
      return true
    else do
      let clients ← c.clusterClients
      return !clients.isEmpty

/-- The event carries the task it was submitted as. -/
def StaleEvent.submitted (e : StaleEvent) : Bool := e.details.proxmoxTaskUpid != "" && e.details.proxmoxTaskNode != ""

/-- The task's exit status, where the reaper writes it into the details. -/
def StaleEvent.writtenExitstatus (e : StaleEvent) : Option String :=
  match e.status with
  | .stopped exitstatus => if exitstatus ≠ "OK" && e.details.error.getD "" = "" then some exitstatus else none
  | .running | .unknown => none

/-- One turn of the loop in `reap_stale_guest_tasks`: what it saves, if it saves. -/
def reapStaleEvent (broker : Broker) (now : Nat) (e : StaleEvent) :
    Except TurnFailure (Option (Outcome × GuestTaskDetails)) :=
  if e.submitted then do
    let asked ← e.client.mapError .refused
    if asked && e.writtenExitstatus.any (!Text.storable ·) then throw .unstorable
    else return reapedEvent (if asked then e.status else .unknown) now e.details
  else
    let taskId := if e.details.pollTaskId != "" then e.details.pollTaskId else e.details.workerTaskId
    if taskId != "" && broker.waiting taskId then .ok none else .ok (reapedEvent .unknown now e.details)

/-- What follows the loop. -/
inductive ReapPass
  | forceStopQuestions
  | tagOperations
  | tagInventoryRefreshes
  | storageCatalogRefreshes
  | inventoryBootstraps
  | hostProjectionRefreshes
  | orphanedOperations
  deriving DecidableEq

def reapPasses : List ReapPass :=
  [.forceStopQuestions, .tagOperations, .tagInventoryRefreshes, .storageCatalogRefreshes, .inventoryBootstraps,
    .hostProjectionRefreshes, .orphanedOperations]

/-- `reap_stale_guest_tasks`: the events visited and the later passes run. -/
def reapStaleGuestTasks (broker : Broker) (now : Nat) (events : List StaleEvent) : List StaleEvent × List ReapPass :=
  let loop := untilRaise (reapStaleEvent broker now) events
  (loop.1.map Prod.fst, if loop.2.isNone then reapPasses else [])

/-! ## Which turns raise -/

/-- The cluster is refused, or has endpoints and no credential or trust to reach them with. -/
def PassCluster.refused (c : PassCluster) : Bool :=
  c.retired || !c.enabled || c.ingestionQuarantined || c.transitionPending

def PassCluster.unreadable (c : PassCluster) : Bool := !c.hasCredential || !c.hasTrust

/-- What the first endpoint that answers lists. -/
def PassCluster.resources (c : PassCluster) : List Json :=
  (c.enabledEndpoints.findSome? fun e => (PassCluster.read e).toOption).getD []

/-- The cluster's own answer makes its refresh raise: a number in it overflows, or the database does
not take a value. -/
def PassCluster.failing (store : PassStore) (c : PassCluster) : Bool :=
  c.resources.any (fun resource => !(addGuestSummary resource).isOk) || !store.takes c.key c.resources

/-- The cluster's refresh gets its lock and then cannot acquire it, build a client or store the answer. -/
def PassCluster.stopsRefresh (store : PassStore) (c : PassCluster) : Bool :=
  store.acquired c.key && (c.refused || (c.endpoints.any (·.enabled) && c.unreadable) || c.failing store)

/-- The event has a task to ask for and its cluster cannot be asked: no client can be
built for the endpoint it names, or it names none and the cluster is refused. -/
def StaleEvent.unaskable (e : StaleEvent) : Bool :=
  e.cluster.any fun c =>
    if e.endpointUrl != "" && c.endpoints.any (fun x => x.enabled && x.url == e.endpointUrl) then c.unreadable
    else c.refused || (c.endpoints.any (·.enabled) && c.unreadable)

/-- The reaper has an endpoint to ask through. -/
def StaleEvent.asks (e : StaleEvent) : Bool := e.cluster.any fun c => c.endpoints.any (·.enabled)

/-- The event's turn raises: its cluster cannot be asked, or the task's exit status cannot be stored. -/
def StaleEvent.stopsReap (e : StaleEvent) : Bool :=
  e.submitted && (e.unaskable || e.asks && e.writtenExitstatus.any (!Text.storable ·))

section
variable {c : PassCluster}

theorem requireAcquirable_isOk : c.requireAcquirable.isOk = !c.refused := by
  unfold PassCluster.requireAcquirable PassCluster.refused
  cases c.retired <;> cases c.enabled <;> cases c.ingestionQuarantined <;> cases c.transitionPending <;> rfl

theorem client_isOk : c.client.isOk = !c.unreadable := by
  unfold PassCluster.client PassCluster.unreadable
  cases c.hasCredential <;> cases c.hasTrust <;> rfl

theorem bind_isOk {ε α β : Type} {x : Except ε α} {f : α → Except ε β} (hf : ∀ a, (f a).isOk = true) :
    (x >>= f).isOk = x.isOk := by
  cases x with
  | error e => rfl
  | ok a => exact hf a

theorem seq_isOk {ε β : Type} {x : Except ε Unit} {y : Except ε β} :
    (do x; y).isOk = (x.isOk && y.isOk) := by
  cases x with
  | error e => rfl
  | ok a => exact (Bool.true_and _).symm

theorem mapError_isOk {ε ε' α : Type} {x : Except ε α} (f : ε → ε') : (x.mapError f).isOk = x.isOk := by
  cases x <;> rfl

/-- The read asks for a client at every endpoint it tries, and it tries at least the first. -/
theorem readAny_isOk {es : List PassEndpoint} : (c.readAny es).isOk = (es.isEmpty || c.client.isOk) := by
  induction es with
  | nil => rfl
  | cons e es ih =>
    unfold PassCluster.readAny
    rw [seq_isOk]
    cases PassCluster.read e with
    | ok keys => exact Bool.and_true _
    | error message =>
      dsimp only
      rw [bind_isOk fun _ => rfl, ih]
      cases es.isEmpty <;> cases c.client.isOk <;> rfl

theorem forM_client_isOk {es : List PassEndpoint} :
    (es.forM fun _ => c.client).isOk = (es.isEmpty || c.client.isOk) := by
  induction es with
  | nil => rfl
  | cons e es ih =>
    rw [show (e :: es).forM (fun _ => c.client) = (do c.client; es.forM fun _ => c.client) from rfl, seq_isOk, ih]
    cases es.isEmpty <;> cases c.client.isOk <;> rfl

theorem enabledEndpoints_isEmpty : c.enabledEndpoints.isEmpty = !c.endpoints.any (·.enabled) := by
  rw [← Bool.coe_iff_coe, List.isEmpty_iff, PassCluster.enabledEndpoints, ← List.length_eq_zero_iff,
    List.length_insertionSort, List.length_eq_zero_iff, List.filter_eq_nil_iff]
  simp

/-- What the read finds is what the first endpoint that answers lists. -/
theorem readAny_found {es : List PassEndpoint} {found : Option (List Json)} {errors : List String}
    (h : c.readAny es = .ok (found, errors)) : found = es.findSome? fun e => (PassCluster.read e).toOption := by
  induction es generalizing found errors with
  | nil =>
    cases h
    rfl
  | cons e es ih =>
    unfold PassCluster.readAny at h
    cases hclient : c.client with
    | error refusal =>
      rw [hclient] at h
      cases h
    | ok u =>
      rw [hclient] at h
      cases hread : PassCluster.read e with
      | ok resources =>
        rw [hread] at h
        cases h
        rw [List.findSome?_cons, hread]
        rfl
      | error message =>
        rw [hread] at h
        cases hrest : c.readAny es with
        | error refusal =>
          rw [hrest] at h
          cases h
        | ok rest =>
          rw [hrest] at h
          cases h
          rw [List.findSome?_cons, hread]
          exact ih hrest

theorem guestSummaries_isOk {resources : List Json} :
    (guestSummaries resources).isOk = !resources.any fun resource => !(addGuestSummary resource).isOk := by
  have hmap : ∀ rs : List Json, (rs.mapM addGuestSummary).isOk = rs.all fun r => (addGuestSummary r).isOk := by
    intro rs
    induction rs with
    | nil => rfl
    | cons r rs ih =>
      rw [List.mapM_cons, List.all_cons]
      cases addGuestSummary r with
      | error e => rfl
      | ok key =>
        show (rs.mapM addGuestSummary >>= fun keys => pure (key :: keys)).isOk = _
        rw [bind_isOk fun _ => rfl, ih]
        exact (Bool.true_and _).symm
  have hguests : (guestSummaries resources).isOk = (resources.mapM addGuestSummary).isOk := by
    unfold guestSummaries
    cases resources.mapM addGuestSummary <;> rfl
  rw [hguests, hmap, List.not_any_eq_all_not]
  simp only [Bool.not_not]

theorem refreshClusterGuestInventory_isOk {store : PassStore} :
    (refreshClusterGuestInventory store c).isOk = !c.stopsRefresh store := by
  unfold refreshClusterGuestInventory PassCluster.stopsRefresh
  cases store.acquired c.key with
  | false => rfl
  | true =>
    simp only [Bool.not_true, Bool.false_eq_true, if_false, Bool.true_and]
    rw [seq_isOk, mapError_isOk, requireAcquirable_isOk]
    have hany := @readAny_isOk c c.enabledEndpoints
    rw [client_isOk, enabledEndpoints_isEmpty] at hany
    cases hread : c.readAny c.enabledEndpoints with
    | error refusal =>
      rw [hread] at hany
      have hstuck : (c.endpoints.any (·.enabled) && c.unreadable) = true := by
        simpa [Except.isOk, Except.toBool] using hany
      rw [hstuck, Bool.or_true, Bool.true_or]
      exact Bool.and_false _
    | ok answer =>
      obtain ⟨found, errors⟩ := answer
      rw [hread] at hany
      have hfree : (c.endpoints.any (·.enabled) && c.unreadable) = false := by
        rw [← Bool.not_eq_true', Bool.not_and]
        exact hany.symm
      have hresources : found.getD [] = c.resources := congrArg (Option.getD · []) (readAny_found hread)
      have hfailing : c.failing store = !((guestSummaries c.resources).isOk && store.takes c.key c.resources) := by
        rw [guestSummaries_isOk, PassCluster.failing, Bool.not_and, Bool.not_not]
      rw [hfree, Bool.or_false, Bool.not_or, hfailing, Bool.not_not]
      show (!c.refused && (guestSummaries (found.getD []) >>= _).isOk) = _
      rw [hresources]
      cases guestSummaries c.resources with
      | error e => rfl
      | ok guests =>
        cases store.takes c.key c.resources <;> rfl

theorem clusterClients_isOk :
    c.clusterClients.isOk = !(c.refused || (c.endpoints.any (·.enabled) && c.unreadable)) := by
  unfold PassCluster.clusterClients
  rw [seq_isOk, bind_isOk fun _ => rfl, forM_client_isOk, requireAcquirable_isOk, client_isOk, enabledEndpoints_isEmpty,
    Bool.not_or, Bool.not_and]

end

theorem staleClient_isOk {e : StaleEvent} : e.client.isOk = !e.unaskable := by
  unfold StaleEvent.client StaleEvent.unaskable
  cases e.cluster with
  | none => rfl
  | some c =>
    simp only [Option.any_some]
    split
    · rw [bind_isOk fun _ => rfl, client_isOk]
    · rw [bind_isOk fun _ => rfl, clusterClients_isOk]

/-- Where the cluster can be asked, the reaper asks exactly when it has an enabled endpoint. -/
theorem staleClient_asks {e : StaleEvent} {asked : Bool} (h : e.client = .ok asked) : asked = e.asks := by
  unfold StaleEvent.client at h
  unfold StaleEvent.asks
  cases hc : e.cluster with
  | none =>
    rw [hc] at h
    cases h
    rfl
  | some c =>
    rw [hc] at h
    dsimp only at h
    rw [Option.any_some]
    split at h
    · next hnamed =>
      rw [Bool.and_eq_true, List.any_eq_true] at hnamed
      obtain ⟨-, x, hx, hon⟩ := hnamed
      have hsome : c.endpoints.any (·.enabled) = true := List.any_eq_true.mpr ⟨x, hx, (Bool.and_eq_true _ _ ▸ hon).1⟩
      cases hclient : c.client with
      | error refusal =>
        rw [hclient] at h
        cases h
      | ok u =>
        rw [hclient] at h
        cases h
        exact hsome.symm
    · cases hclients : c.clusterClients with
      | error refusal =>
        rw [hclients] at h
        cases h
      | ok clients =>
        rw [hclients] at h
        cases h
        have hmade : clients = c.enabledEndpoints := by
          unfold PassCluster.clusterClients at hclients
          cases hacquire : c.requireAcquirable with
          | error refusal =>
            rw [hacquire] at hclients
            cases hclients
          | ok u =>
            rw [hacquire] at hclients
            cases hmany : c.enabledEndpoints.forM fun _ => c.client with
            | error refusal =>
              rw [hmany] at hclients
              cases hclients
            | ok u' =>
              rw [hmany] at hclients
              cases hclients
              rfl
        rw [hmade, enabledEndpoints_isEmpty, Bool.not_not]

theorem reapStaleEvent_isOk {broker : Broker} {now : Nat} {e : StaleEvent} :
    (reapStaleEvent broker now e).isOk = !e.stopsReap := by
  unfold reapStaleEvent StaleEvent.stopsReap
  cases e.submitted with
  | false =>
    simp only [Bool.false_eq_true, if_false]
    split <;> split <;> rfl
  | true =>
    have hask := staleClient_isOk (e := e)
    rw [if_pos rfl, Bool.true_and]
    cases hclient : e.client with
    | error refusal =>
      rw [hclient] at hask
      have hstuck : e.unaskable = true := by simpa [Except.isOk, Except.toBool] using hask
      rw [hstuck]
      rfl
    | ok asked =>
      rw [hclient] at hask
      have hfree : e.unaskable = false := by simpa [Except.isOk, Except.toBool] using hask
      rw [hfree, Bool.false_or, ← staleClient_asks hclient]
      show (if _ then _ else _ : Except TurnFailure _).isOk = _
      cases asked && e.writtenExitstatus.any (!Text.storable ·) <;> rfl

/-! ## What the passes reach -/

/-- The cluster passes `_require_acquirable`, a client can be built for it, and its own answer can be
stored. -/
def PassCluster.acquirable (store : PassStore) (c : PassCluster) : Bool := !c.refused && !c.unreadable && !c.failing store

theorem acquirable_isOk {store : PassStore} {c : PassCluster} (h : c.acquirable store = true) :
    (refreshClusterGuestInventory store c).isOk = true := by
  rw [refreshClusterGuestInventory_isOk, PassCluster.stopsRefresh]
  simp only [PassCluster.acquirable, Bool.and_eq_true, Bool.not_eq_true'] at h
  simp [h]

theorem mem_enabledClusters {clusters : List PassCluster} {c : PassCluster} :
    c ∈ enabledClusters clusters ↔ c ∈ clusters ∧ c.enabled = true := by
  rw [enabledClusters, List.mem_insertionSort, List.mem_filter]

theorem enabledClusters_strict {clusters : List PassCluster} (hkeys : (clusters.map (·.key)).Nodup) :
    (enabledClusters clusters).Pairwise fun x y => x.key < y.key := by
  have : Std.Total fun x y : PassCluster => x.key ≤ y.key := ⟨fun x y => le_total x.key y.key⟩
  have : IsTrans PassCluster fun x y => x.key ≤ y.key := ⟨fun _ _ _ => le_trans⟩
  have hsorted : (enabledClusters clusters).Pairwise fun x y => x.key ≤ y.key := List.pairwise_insertionSort ..
  have hperm : (enabledClusters clusters).Perm (clusters.filter (·.enabled)) := List.perm_insertionSort ..
  have hdistinct : ((enabledClusters clusters).map (·.key)).Nodup :=
    (hperm.map _).nodup_iff.mpr (hkeys.sublist (List.filter_sublist.map _))
  exact (hsorted.and (List.pairwise_map.mp hdistinct)).imp fun h => lt_of_le_of_ne h.1 h.2

theorem refreshCurrentGuestInventory_serves_iff {clusters : List PassCluster} (hkeys : (clusters.map (·.key)).Nodup)
    {store : PassStore} :
    (∀ c ∈ clusters, c.acquirable store = true → c ∈ (refreshCurrentGuestInventory store clusters).1.map Prod.fst) ↔
      ∀ c ∈ clusters, ∀ d ∈ clusters, c.enabled = true → c.stopsRefresh store = true → d.acquirable store = true →
        ¬ c.key < d.key := by
  have hstrict := enabledClusters_strict hkeys
  have hserves := untilRaise_serves_iff (p := fun c : PassCluster => c.acquirable store = true)
    (f := refreshClusterGuestInventory store) (fun _ => acquirable_isOk)
    (hstrict.imp fun h => ne_of_apply_ne PassCluster.key (ne_of_lt h))
  have henabled : ∀ c : PassCluster, c.acquirable store = true → c.enabled = true := by
    intro c hc
    simp only [PassCluster.acquirable, PassCluster.refused, Bool.and_eq_true, Bool.not_eq_true', Bool.or_eq_false_iff,
      Bool.not_eq_false'] at hc
    exact hc.1.1.1.1.2
  rw [pairwise_iff_of_strict (fun _ _ h => (lt_asymm h)) hstrict] at hserves
  constructor
  · intro h c hc d hd hon hstops hacq hlt
    have hok := hserves.mp (fun x hx => h x (mem_enabledClusters.mp hx).1) c (mem_enabledClusters.mpr ⟨hc, hon⟩) d
      (mem_enabledClusters.mpr ⟨hd, henabled d hacq⟩) hlt hacq
    rw [refreshClusterGuestInventory_isOk, hstops] at hok
    exact absurd hok (by decide)
  · intro h c hc hacq
    refine hserves.mpr ?_ c (mem_enabledClusters.mpr ⟨hc, henabled c hacq⟩) hacq
    intro x hx y hy hlt hwant
    obtain ⟨hx, hon⟩ := mem_enabledClusters.mp hx
    rw [refreshClusterGuestInventory_isOk, Bool.not_eq_true', ← Bool.not_eq_true]
    exact fun hstops => h x hx y (mem_enabledClusters.mp hy).1 hon hstops hwant hlt

theorem reapStaleGuestTasks_all_iff {broker : Broker} {now : Nat} {events : List StaleEvent} :
    reapStaleGuestTasks broker now events = (events, reapPasses) ↔ ∀ e ∈ events, e.stopsReap = false := by
  have hends : (untilRaise (reapStaleEvent broker now) events).2 = none ↔ ∀ e ∈ events, e.stopsReap = false := by
    rw [untilRaise_ends_iff]
    simp only [reapStaleEvent_isOk, Bool.not_eq_true']
  constructor
  · intro h
    rw [← hends]
    by_contra hraised
    have hpasses := congrArg Prod.snd h
    simp [reapStaleGuestTasks, hraised, reapPasses] at hpasses
  · intro h
    have hall := untilRaise_all (f := reapStaleEvent broker now) (untilRaise_ends_iff.mp (hends.mpr h))
    simp [reapStaleGuestTasks, hall, hends.mpr h]

/-- **Whom a refusal starves.** Every acquirable cluster is refreshed, every stale event
visited and every later pass run exactly when no enabled cluster whose refresh raises has
a key below an acquirable one's, and no stale event asks through a cluster that refuses or
gets an exit status that cannot be stored. -/
theorem passes_reach_all_iff {clusters : List PassCluster} (hkeys : (clusters.map (·.key)).Nodup)
    {store : PassStore} {broker : Broker} {now : Nat} {events : List StaleEvent} :
    ((∀ c ∈ clusters, c.acquirable store = true → c ∈ (refreshCurrentGuestInventory store clusters).1.map Prod.fst) ∧
        reapStaleGuestTasks broker now events = (events, reapPasses)) ↔
      (∀ c ∈ clusters, ∀ d ∈ clusters, c.enabled = true → c.stopsRefresh store = true → d.acquirable store = true →
        ¬ c.key < d.key) ∧ ∀ e ∈ events, e.stopsReap = false :=
  and_congr (refreshCurrentGuestInventory_serves_iff hkeys) reapStaleGuestTasks_all_iff

def member : PassEndpoint := { name := "pve1", url := "https://pve1:8006", answer := .guests [.obj [("type", .str "qemu"), ("node", .str "pve1"), ("vmid", .int 100)]] }

def quarantinedAlpha : PassCluster :=
  { key := "alpha", ingestionQuarantined := true, quarantineReason := "The cluster CA changed.", endpoints := [member] }

def acquirableBeta : PassCluster := { key := "beta", endpoints := [member] }

def submittedEvent (c : PassCluster) : StaleEvent :=
  { pk := 1, cluster := some c, details := { proxmoxTaskUpid := "UPID:pve1:1", proxmoxTaskNode := "pve1" } }

/-- Every lock is free and every value is taken. -/
def openStore : PassStore := ⟨fun _ => true, fun _ _ => true⟩

def quarantinedGamma : PassCluster := { quarantinedAlpha with key := "gamma" }

theorem passes_reach_all_iff_last :
    (∀ c ∈ [acquirableBeta, quarantinedGamma], c.acquirable openStore = true →
        c ∈ (refreshCurrentGuestInventory openStore [acquirableBeta, quarantinedGamma]).1.map Prod.fst) ∧
      reapStaleGuestTasks ⟨fun _ => none, fun _ => false⟩ 0 [submittedEvent acquirableBeta] =
        ([submittedEvent acquirableBeta], reapPasses) := by
  refine (passes_reach_all_iff (by decide)).mpr ⟨?_, by decide⟩
  intro c hc d hd hon hstops hacq
  have hkeys : c.key = "gamma" ∧ d.key = "beta" := by
    simp only [List.mem_cons, List.not_mem_nil, or_false] at hc hd
    rcases hc with rfl | rfl <;> rcases hd with rfl | rfl <;> revert hstops hacq <;> decide
  rw [hkeys.1, hkeys.2]
  decide

/-- A quarantined cluster starves the acquirable one whose key comes after its own. -/
theorem refusal_starves_siblings :
    ¬ ∀ (clusters : List PassCluster) (events : List StaleEvent) (store : PassStore) (broker : Broker) (now : Nat),
      (clusters.map (·.key)).Nodup →
      (∀ c ∈ clusters, c.acquirable store = true → c ∈ (refreshCurrentGuestInventory store clusters).1.map Prod.fst) ∧
        reapStaleGuestTasks broker now events = (events, reapPasses) := by
  intro h
  have hserved := (h [quarantinedAlpha, acquirableBeta] [] openStore ⟨fun _ => none, fun _ => false⟩ 0 (by decide)).1
  have hbefore := (refreshCurrentGuestInventory_serves_iff (by decide)).mp hserved quarantinedAlpha (by simp) acquirableBeta
    (by simp) rfl rfl rfl
  exact hbefore (by decide)

end PveHelper.Operations
