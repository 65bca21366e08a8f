/-
One mutation inside a cluster, after `cluster_write` of `cluster_resolver` and
`ProxmoxClient._request` of `proxmox.py`. The loop goes to the next endpoint only
after a failure with `request_sent=False`, and `_request` says so of the failures
that httpx raises before a byte of the request has left. What httpx promises of
those is `HttpxContract`; whether a byte left is recorded with each outcome and
read by no definition of the model.
-/
import PveHelper.Lib.Json
import PveHelper.Operations.ClusterPasses

namespace PveHelper.Operations

open Lib

/-! ## One request -/

/-- The classes of `httpx.HTTPError` beside `HTTPStatusError`. -/
inductive HttpxError
  | connectError
  | connectTimeout
  | poolTimeout
  | readError
  | readTimeout
  | writeError
  | writeTimeout
  | closeError
  | localProtocolError
  | remoteProtocolError
  | proxyError
  | unsupportedProtocol
  | decodingError
  | tooManyRedirects
  deriving DecidableEq

/-- `exc.__class__.__name__`. -/
def HttpxError.name : HttpxError → String
  | .connectError => "ConnectError"
  | .connectTimeout => "ConnectTimeout"
  | .poolTimeout => "PoolTimeout"
  | .readError => "ReadError"
  | .readTimeout => "ReadTimeout"
  | .writeError => "WriteError"
  | .writeTimeout => "WriteTimeout"
  | .closeError => "CloseError"
  | .localProtocolError => "LocalProtocolError"
  | .remoteProtocolError => "RemoteProtocolError"
  | .proxyError => "ProxyError"
  | .unsupportedProtocol => "UnsupportedProtocol"
  | .decodingError => "DecodingError"
  | .tooManyRedirects => "TooManyRedirects"

/-- `_UNSENT_TRANSPORT_ERRORS`. -/
def HttpxError.unsent : HttpxError → Bool
  | .connectError | .connectTimeout | .poolTimeout => true
  | _ => false

/-- How a request through httpx ends. -/
inductive HttpOutcome
  /-- A 2xx answer, with its body where that is JSON. -/
  | response (body : Option Json)
  /-- `raise_for_status` raises; `detail` is what `_proxmox_error_detail` finds. -/
  | status (code : Int) (detail : String)
  /-- `rejected`: a certificate verification failed somewhere down the exception's causes.
  `left`: a byte of the request has left. -/
  | failed (error : HttpxError) (rejected left : Bool)

/-- A byte of the request has left, so it may have been applied. -/
def HttpOutcome.left : HttpOutcome → Bool
  | .response _ => true
  | .status _ _ => true
  | .failed _ _ left => left

/-- What the code relies on: httpx raises the three errors of `_UNSENT_TRANSPORT_ERRORS`, and reports a
rejected certificate, only before any byte of the request left. -/
structure HttpxContract (o : HttpOutcome) : Prop where
  unsent : ∀ {error rejected left}, o = .failed error rejected left → error.unsent = true → left = false
  handshake : ∀ {error left}, o = .failed error true left → left = false

inductive ProxmoxAPIError
  | api (message : String) (statusCode : Option Int)
  | invalidResponse (message : String)
  | transport (message : String) (requestSent : Bool)
  | tlsTrust (message : String) (requestSent : Bool)

/-- `isinstance(exc, ProxmoxTransportError) and not exc.request_sent`. -/
def ProxmoxAPIError.unsent : ProxmoxAPIError → Bool
  | .transport _ requestSent => !requestSent
  | .tlsTrust _ requestSent => !requestSent
  | _ => false

/-- `_tls_trust_message`. -/
def tlsTrustMessage (trustMode : String) : String :=
  let source :=
    if trustMode = "public" then "this connection trusts the public CA store only"
    else if trustMode = "ca_pem" then "this connection trusts its configured internal CA bundle only"
    else if trustMode = "public_ca_pem" then
      "this connection trusts the public CA store and this cluster's own CA, and this chain is neither"
    else "this connection's trust profile does not accept it"
  "The endpoint's TLS certificate was rejected before any request was sent: " ++ source ++
    ". Install a certificate the profile accepts on this node, or change " ++
    "the connection's trust profile to the CA that issued the certificate it presents."

/-- `ProxmoxClient._request`, on what httpx answers. -/
def request (trustMode path : String) : HttpOutcome → Except ProxmoxAPIError Json
  | .status code detail =>
    .error (.api (toString code ++ (if detail = "" then " from " ++ path else ": " ++ detail)) (some code))
  | .failed error rejected _ =>
    if rejected then .error (.tlsTrust (tlsTrustMessage trustMode) false)
    else .error (.transport (error.name ++ " from " ++ path) (!error.unsent))
  | .response none => .error (.invalidResponse ("Invalid JSON response from " ++ path))
  | .response (some (.obj fields)) => match Json.lookup fields "data" with
    | some data => .ok data
    | none => .error (.invalidResponse ("Unexpected response schema from " ++ path))
  | .response (some _) => .error (.invalidResponse ("Unexpected response schema from " ++ path))

/-- A call that issues one mutating request: it may refuse before it, and refuse the answer after it. -/
structure MutatingCall (α : Type) where
  path : String
  trustMode : String
  prepare : Except String Unit
  decode : Json → Except String α

section
variable {α : Type}

def MutatingCall.run (call : MutatingCall α) (o : HttpOutcome) : Except ProxmoxAPIError α :=
  match call.prepare with
  | .error message => .error (.api message none)
  | .ok _ => match request call.trustMode call.path o with
    | .error exc => .error exc
    | .ok data => match call.decode data with
      | .error message => .error (.api message none)
      | .ok value => .ok value

/-- The endpoint received a request that may have been applied. -/
def MutatingCall.delivered (call : MutatingCall α) (o : HttpOutcome) : Bool :=
  match call.prepare with
  | .error _ => false
  | .ok _ => o.left

/-! ## The loop -/

structure EndpointAttempt where
  endpointName : String
  ok : Bool
  error : String := ""

structure ClusterWriteResult (α : Type) where
  clusterKey : String
  value : Option α
  answeringEndpoint : String
  client : Option PassEndpoint
  error : String
  attempted : List EndpointAttempt

/-- `ok`: `not self.error`. -/
def ClusterWriteResult.ok (r : ClusterWriteResult α) : Bool := r.error.isEmpty

inductive WriteRefusal
  | acquisition (refusal : Refusal)
  | noEndpoint (key : String)

def WriteRefusal.message : WriteRefusal → String
  | .acquisition refusal => refusal.message
  | .noEndpoint key => "Cluster '" ++ key ++ "' has no enabled endpoint to write through."

/-- The result after the loop; the error text the caller made may be empty. -/
def failedWrite (key error : String) (attempts : List EndpointAttempt) : ClusterWriteResult α where
  clusterKey := key
  value := none
  answeringEndpoint := ""
  client := none
  error := if error.isEmpty then "No Proxmox endpoint in this cluster could reach the guest." else error
  attempted := attempts

def failedAttempt (e : PassEndpoint) : EndpointAttempt := ⟨e.name, false, "This endpoint did not answer the read."⟩

section
variable (key : String) (call : MutatingCall α) (errorMessage : ProxmoxAPIError → String)
  (clients : PassEndpoint → Except Refusal Unit) (http : PassEndpoint → HttpOutcome)

/-- The loop of `cluster_write`, with the endpoints it called. `clients` is what `client_for_endpoint`
raises for an endpoint when its turn comes, `http` how its request ends. -/
def writeLoop : List PassEndpoint → List EndpointAttempt → String →
    Except WriteRefusal (ClusterWriteResult α) × List PassEndpoint
  | [], attempts, error => (.ok (failedWrite key error attempts), [])
  | e :: rest, attempts, _ =>
    match clients e with
    | .error refusal => (.error (.acquisition refusal), [])
    | .ok _ => match call.run (http e) with
      | .ok value => (.ok ⟨key, some value, e.name, some e, "", attempts ++ [⟨e.name, true, ""⟩]⟩, [e])
      | .error exc =>
        if exc.unsent then
          let (result, calls) := writeLoop rest (attempts ++ [failedAttempt e]) (errorMessage exc)
          (result, e :: calls)
        else (.ok (failedWrite key (errorMessage exc) (attempts ++ [failedAttempt e])), [e])

end

/-- `cluster_write`. -/
def clusterWrite (c : PassCluster) (call : MutatingCall α) (errorMessage : ProxmoxAPIError → String)
    (clients : PassEndpoint → Except Refusal Unit) (http : PassEndpoint → HttpOutcome) :
    Except WriteRefusal (ClusterWriteResult α) × List PassEndpoint :=
  match c.requireAcquirable with
  | .error refusal => (.error (.acquisition refusal), [])
  | .ok _ =>
    if c.enabledEndpoints.isEmpty then (.error (.noEndpoint c.key), [])
    else writeLoop c.key call errorMessage clients http c.enabledEndpoints [] ""

/-! ## What the loop can do -/

section
variable {key : String} {call : MutatingCall α} {errorMessage : ProxmoxAPIError → String}
  {clients : PassEndpoint → Except Refusal Unit} {http : PassEndpoint → HttpOutcome}

/-- How the loop ends, after the endpoints `front` that were not reached. -/
inductive WriteEnd (key : String) (call : MutatingCall α) (http : PassEndpoint → HttpOutcome)
    (tried : List EndpointAttempt) (endpoints front : List PassEndpoint) :
    Except WriteRefusal (ClusterWriteResult α) → List PassEndpoint → Prop
  | exhausted (error : String) : endpoints = front →
      WriteEnd key call http tried endpoints front (.ok (failedWrite key error tried)) front
  | raised (e : PassEndpoint) (rest : List PassEndpoint) (refusal : Refusal) : endpoints = front ++ e :: rest →
      WriteEnd key call http tried endpoints front (.error (.acquisition refusal)) front
  | answered (e : PassEndpoint) (rest : List PassEndpoint) (value : α) : endpoints = front ++ e :: rest →
      call.run (http e) = .ok value →
      WriteEnd key call http tried endpoints front
        (.ok ⟨key, some value, e.name, some e, "", tried ++ [⟨e.name, true, ""⟩]⟩) (front ++ [e])
  | stopped (e : PassEndpoint) (rest : List PassEndpoint) (exc : ProxmoxAPIError) (error : String) :
      endpoints = front ++ e :: rest → call.run (http e) = .error exc → exc.unsent = false →
      WriteEnd key call http tried endpoints front (.ok (failedWrite key error (tried ++ [failedAttempt e]))) (front ++ [e])

/-- The call failed at the endpoint, and the failure says that the request was not sent. -/
def NotReached (call : MutatingCall α) (http : PassEndpoint → HttpOutcome) (e : PassEndpoint) : Prop :=
  ∃ exc, call.run (http e) = .error exc ∧ exc.unsent = true

/-- One more endpoint not reached before the others. -/
theorem WriteEnd.cons {tried : List EndpointAttempt} (e : PassEndpoint) {rest front calls : List PassEndpoint}
    {result : Except WriteRefusal (ClusterWriteResult α)} (h : WriteEnd key call http tried rest front result calls) :
    WriteEnd key call http tried (e :: rest) (e :: front) result (e :: calls) := by
  cases h with
  | exhausted error hrest => exact .exhausted error (by rw [hrest])
  | raised e' rest' refusal hrest => exact .raised e' rest' refusal (by rw [hrest]; rfl)
  | answered e' rest' value hrest hrun => exact .answered e' rest' value (by rw [hrest]; rfl) hrun
  | stopped e' rest' exc error hrest hrun hsent => exact .stopped e' rest' exc error (by rw [hrest]; rfl) hrun hsent

/-- The loop has tried the endpoints before and those it could not reach, and ends in one of four ways. -/
theorem writeLoop_end (endpoints : List PassEndpoint) (attempts : List EndpointAttempt) (error : String) :
    ∃ front, (∀ e ∈ front, NotReached call http e) ∧
      WriteEnd key call http (attempts ++ front.map failedAttempt) endpoints front
        (writeLoop key call errorMessage clients http endpoints attempts error).1
        (writeLoop key call errorMessage clients http endpoints attempts error).2 := by
  induction endpoints generalizing attempts error with
  | nil =>
    refine ⟨[], by simp, ?_⟩
    rw [List.map_nil, List.append_nil]
    exact .exhausted error rfl
  | cons e rest ih =>
    cases hclient : clients e with
    | error refusal =>
      refine ⟨[], by simp, ?_⟩
      simp only [writeLoop, hclient]
      exact .raised e rest refusal rfl
    | ok u =>
      cases hrun : call.run (http e) with
      | ok value =>
        refine ⟨[], by simp, ?_⟩
        simp only [writeLoop, hclient, hrun, List.map_nil, List.append_nil]
        exact .answered e rest value rfl hrun
      | error exc =>
        cases hunsent : exc.unsent with
        | false =>
          refine ⟨[], by simp, ?_⟩
          simp only [writeLoop, hclient, hrun, hunsent, List.map_nil, List.append_nil, Bool.false_eq_true, if_false]
          exact .stopped e rest exc (errorMessage exc) rfl hrun hunsent
        | true =>
          obtain ⟨front, hfront, hend⟩ := ih (attempts ++ [failedAttempt e]) (errorMessage exc)
          refine ⟨e :: front, ?_, ?_⟩
          · rintro e' (_ | ⟨_, he'⟩)
            · exact ⟨exc, hrun, hunsent⟩
            · exact hfront e' he'
          · simp only [writeLoop, hclient, hrun, hunsent, if_true]
            rw [List.map_cons, List.append_cons]
            exact hend.cons e

/-! ## A write is not replayed -/

/-- `_request` says that nothing was sent only of the failures httpx promises it of. -/
theorem request_unsent {trustMode path : String} {o : HttpOutcome} {exc : ProxmoxAPIError}
    (h : request trustMode path o = .error exc) (hunsent : exc.unsent = true) :
    ∃ error rejected left, o = .failed error rejected left ∧ (rejected = true ∨ error.unsent = true) := by
  unfold request at h
  split at h
  · cases h
    cases hunsent
  · rename_i error rejected left
    split at h
    · rename_i hrejected
      exact ⟨error, rejected, left, rfl, .inl hrejected⟩
    · cases h
      exact ⟨error, rejected, left, rfl, .inr (by simpa [ProxmoxAPIError.unsent] using hunsent)⟩
  · cases h
    cases hunsent
  · split at h <;> cases h
    cases hunsent
  · cases h
    cases hunsent

/-- A failure that says so was not sent. -/
theorem NotReached.not_delivered {e : PassEndpoint} (hhttpx : HttpxContract (http e)) (h : NotReached call http e) :
    call.delivered (http e) = false := by
  obtain ⟨exc, hrun, hunsent⟩ := h
  unfold MutatingCall.run at hrun
  unfold MutatingCall.delivered
  split at hrun
  · rfl
  · split at hrun
    · rename_i exc' hreq
      cases hrun
      obtain ⟨error, rejected, left, ho, hwhy⟩ := request_unsent hreq hunsent
      have hleft : left = false := by
        rcases hwhy with rfl | herr
        · exact hhttpx.handshake ho
        · exact hhttpx.unsent ho herr
      rw [ho, hleft]
      rfl
    · exfalso
      split at hrun <;> cases hrun
      cases hunsent

/-- What a caller of `cluster_write` gets, and which endpoints were called for it. -/
structure NotReplayed (c : PassCluster) (call : MutatingCall α) (http : PassEndpoint → HttpOutcome)
    (outcome : Except WriteRefusal (ClusterWriteResult α)) (calls : List PassEndpoint) : Prop where
  inOrder : calls <+: c.enabledEndpoints
  /-- The next endpoint is called only after a failure that proves the request was not sent. -/
  advances : ∀ pre e next post, calls = pre ++ e :: next :: post →
    NotReached call http e ∧ call.delivered (http e) = false
  once : (calls.filter fun e => call.delivered (http e)).length ≤ 1
  ok_iff : ∀ result, outcome = .ok result →
    (result.ok = true ↔ ∃ e value, calls.getLast? = some e ∧ call.run (http e) = .ok value)
  answering : ∀ result, outcome = .ok result → result.ok = true →
    ∃ e, calls.getLast? = some e ∧ result.answeringEndpoint = e.name
  attempted : ∀ result, outcome = .ok result → result.attempted.map (·.endpointName) = calls.map (·.name)
  /-- Only the last attempt may be ok, and it is when the result is. -/
  attempted_ok : ∀ result, outcome = .ok result → ∀ pre a post, result.attempted = pre ++ a :: post →
    (a.ok = true ↔ post = [] ∧ result.ok = true)

/-- What a caller of `cluster_write` gets, and how far the endpoints are gone through. -/
structure WrittenOnce (c : PassCluster) (call : MutatingCall α) (clients : PassEndpoint → Except Refusal Unit)
    (http : PassEndpoint → HttpOutcome) (outcome : Except WriteRefusal (ClusterWriteResult α))
    (calls : List PassEndpoint) : Prop extends NotReplayed c call http outcome calls where
  /-- An endpoint is called when every one before it failed unsent, unless a client raises. -/
  continues : ∀ acquired, c.requireAcquirable = .ok acquired → ∀ pre e post, c.enabledEndpoints = pre ++ e :: post →
    (∀ x ∈ pre, NotReached call http x) → (∀ x ∈ pre ++ [e], clients x = .ok ()) → pre ++ [e] <+: calls

/-- What stands before the last place stands in the front. -/
theorem mem_front {β : Type} {front pre post : List β} {last x next : β} (h : front ++ [last] = pre ++ x :: next :: post) :
    x ∈ front := by
  have hdrop := congrArg List.dropLast h
  rw [List.dropLast_concat, List.dropLast_append_cons, List.dropLast_cons_cons] at hdrop
  rw [hdrop]
  simp

theorem failedWrite_ok (error : String) (attempts : List EndpointAttempt) :
    (failedWrite key error attempts : ClusterWriteResult α).ok = false := by
  by_cases he : error.isEmpty = true
  · simp only [ClusterWriteResult.ok, failedWrite, if_pos he]
    rfl
  · simp only [ClusterWriteResult.ok, failedWrite, if_neg he]
    exact Bool.eq_false_of_not_eq_true he

section
variable {c : PassCluster} {front : List PassEndpoint}

/-- Nobody in front received the request. -/
theorem filter_front (hfront : ∀ e ∈ front, NotReached call http e) (hhttpx : ∀ e, HttpxContract (http e)) :
    front.filter (fun e => call.delivered (http e)) = [] :=
  List.filter_eq_nil_iff.mpr fun e he => by simp [(hfront e he).not_delivered (hhttpx e)]

theorem notReplayed_front (hfront : ∀ e ∈ front, NotReached call http e) (hhttpx : ∀ e, HttpxContract (http e))
    (hpre : front <+: c.enabledEndpoints) {outcome : Except WriteRefusal (ClusterWriteResult α)}
    (hout : ∀ result, outcome = .ok result → ∃ key error, result = failedWrite key error (front.map failedAttempt)) :
    NotReplayed c call http outcome front where
  inOrder := hpre
  advances pre e next post h := by
    have hmem := hfront e (by rw [h]; simp)
    exact ⟨hmem, hmem.not_delivered (hhttpx e)⟩
  once := by simp [filter_front hfront hhttpx]
  ok_iff result hr := by
    obtain ⟨key, error, rfl⟩ := hout result hr
    refine iff_of_false (by simp [failedWrite_ok]) ?_
    rintro ⟨e, value, hlast, hrun⟩
    obtain ⟨exc, hexc, -⟩ := hfront e (List.mem_of_getLast? hlast)
    rw [hrun] at hexc
    cases hexc
  answering result hr hok := by
    obtain ⟨key, error, rfl⟩ := hout result hr
    simp [failedWrite_ok] at hok
  attempted result hr := by
    obtain ⟨key, error, rfl⟩ := hout result hr
    simp [failedWrite, failedAttempt]
  attempted_ok result hr pre a post ha := by
    obtain ⟨key, error, rfl⟩ := hout result hr
    have hmem : a ∈ front.map failedAttempt := by
      have hsame : front.map failedAttempt = pre ++ a :: post := ha
      rw [hsame]
      simp
    obtain ⟨e, -, rfl⟩ := List.mem_map.mp hmem
    exact iff_of_false (by simp [failedAttempt]) (by simp [failedWrite_ok])

theorem notReplayed_last (hfront : ∀ e ∈ front, NotReached call http e) (hhttpx : ∀ e, HttpxContract (http e))
    {e : PassEndpoint} (hpre : front ++ [e] <+: c.enabledEndpoints) {outcome : Except WriteRefusal (ClusterWriteResult α)}
    (hout : ∀ result, outcome = .ok result →
      ∃ last, result.attempted = front.map failedAttempt ++ [last] ∧ last.endpointName = e.name ∧ last.ok = result.ok ∧
        (result.ok = true ↔ ∃ value, call.run (http e) = .ok value) ∧
        (result.ok = true → result.answeringEndpoint = e.name)) :
    NotReplayed c call http outcome (front ++ [e]) where
  inOrder := hpre
  advances pre x next post h := by
    have hmem := hfront x (mem_front h)
    exact ⟨hmem, hmem.not_delivered (hhttpx x)⟩
  once := by
    rw [List.filter_append, filter_front hfront hhttpx, List.nil_append]
    exact List.length_filter_le ..
  ok_iff result hr := by
    obtain ⟨last, -, -, -, hok, -⟩ := hout result hr
    rw [hok]
    simp
  answering result hr hok := by
    obtain ⟨last, -, -, -, -, hans⟩ := hout result hr
    exact ⟨e, by simp, hans hok⟩
  attempted result hr := by
    obtain ⟨last, hatt, hname, -⟩ := hout result hr
    simp [hatt, hname, failedAttempt]
  attempted_ok result hr pre a post ha := by
    obtain ⟨last, hatt, -, hlast, -⟩ := hout result hr
    rw [hatt] at ha
    cases post with
    | nil =>
      obtain ⟨-, hal⟩ := List.append_inj' ha rfl
      cases hal
      simp [hlast]
    | cons b post =>
      obtain ⟨x, -, rfl⟩ := List.mem_map.mp (mem_front ha)
      exact iff_of_false (by simp [failedAttempt]) (by simp)

theorem WriteEnd.notReplayed (hfront : ∀ e ∈ front, NotReached call http e) (hhttpx : ∀ e, HttpxContract (http e))
    {outcome : Except WriteRefusal (ClusterWriteResult α)} {calls : List PassEndpoint}
    (h : WriteEnd key call http (front.map failedAttempt) c.enabledEndpoints front outcome calls) :
    NotReplayed c call http outcome calls := by
  cases h with
  | exhausted error hall =>
    refine notReplayed_front hfront hhttpx (hall ▸ List.prefix_rfl) fun result hr => ⟨key, error, ?_⟩
    exact (Except.ok.inj hr).symm
  | raised e rest refusal hsplit =>
    exact notReplayed_front hfront hhttpx (hsplit ▸ List.prefix_append ..) nofun
  | answered e rest value hsplit hrun =>
    refine notReplayed_last hfront hhttpx ⟨rest, by rw [hsplit]; simp⟩ fun result hr => ?_
    cases hr
    exact ⟨_, rfl, rfl, rfl, iff_of_true rfl ⟨value, hrun⟩, fun _ => rfl⟩
  | stopped e rest exc error hsplit hrun hsent =>
    refine notReplayed_last hfront hhttpx ⟨rest, by rw [hsplit]; simp⟩ fun result hr => ?_
    cases hr
    refine ⟨_, rfl, rfl, (failedWrite_ok ..).symm, iff_of_false (by simp [failedWrite_ok]) ?_, ?_⟩
    · rintro ⟨value, hok⟩
      rw [hrun] at hok
      cases hok
    · simp [failedWrite_ok]

/-- A refusal before the loop calls nobody. -/
theorem notReplayed_refused (hhttpx : ∀ e, HttpxContract (http e)) (refusal : WriteRefusal) :
    NotReplayed c call http (.error refusal : Except WriteRefusal (ClusterWriteResult α)) [] :=
  notReplayed_front (by simp) hhttpx (by simp) nofun

end

/-- The loop calls the first endpoint, and the next one after each that was not reached. -/
theorem writeLoop_continues {pre post : List PassEndpoint} {e : PassEndpoint} (hpre : ∀ x ∈ pre, NotReached call http x)
    (hclients : ∀ x ∈ pre ++ [e], clients x = .ok ()) (attempts : List EndpointAttempt) (error : String) :
    pre ++ [e] <+: (writeLoop key call errorMessage clients http (pre ++ e :: post) attempts error).2 := by
  induction pre generalizing attempts error with
  | nil =>
    have hclient : clients e = .ok () := hclients e (by simp)
    cases hrun : call.run (http e) with
    | ok value => simp [writeLoop, hclient, hrun]
    | error exc =>
      simp only [List.nil_append, writeLoop, hclient, hrun]
      split
      · exact List.cons_prefix_cons.mpr ⟨rfl, List.nil_prefix⟩
      · exact List.prefix_rfl
  | cons x pre ih =>
    obtain ⟨exc, hrun, hunsent⟩ := hpre x List.mem_cons_self
    have hclient : clients x = .ok () := hclients x (by simp)
    simp only [List.cons_append, writeLoop, hclient, hrun, hunsent, if_true]
    have hrest := ih (fun y hy => hpre y (List.mem_cons_of_mem _ hy)) fun y hy => hclients y (List.mem_cons_of_mem _ hy)
    exact List.cons_prefix_cons.mpr ⟨rfl, hrest _ _⟩

theorem clusterWrite_notReplayed (c : PassCluster) (hhttpx : ∀ e, HttpxContract (http e)) :
    NotReplayed c call http (clusterWrite c call errorMessage clients http).1
      (clusterWrite c call errorMessage clients http).2 := by
  unfold clusterWrite
  split
  · exact notReplayed_refused hhttpx _
  · split
    · exact notReplayed_refused hhttpx _
    · obtain ⟨front, hfront, hend⟩ := writeLoop_end c.enabledEndpoints [] ""
      exact hend.notReplayed hfront hhttpx

/-- A write is never replayed: whatever the endpoints, the answers of httpx and the error texts, they are
called in order, each after an unsent failure of the one before, and at most one endpoint ever received
a request that may have been applied. -/
theorem clusterWrite_once (c : PassCluster) (call : MutatingCall α) (errorMessage : ProxmoxAPIError → String)
    (clients : PassEndpoint → Except Refusal Unit) (http : PassEndpoint → HttpOutcome)
    (hhttpx : ∀ e, HttpxContract (http e)) :
    WrittenOnce c call clients http (clusterWrite c call errorMessage clients http).1
      (clusterWrite c call errorMessage clients http).2 := by
  refine ⟨clusterWrite_notReplayed c hhttpx, fun acquired hacquired pre e post hsplit hpre hclients => ?_⟩
  have hsome : ¬ c.enabledEndpoints.isEmpty = true := by simp [hsplit]
  unfold clusterWrite
  rw [hacquired]
  dsimp only
  rw [if_neg hsome, hsplit]
  exact writeLoop_continues hpre hclients [] ""

end

end

/-- Three members, the first of which refuses connections and the second of which times out. -/
def degradedCluster : PassCluster where
  key := "lab"
  endpoints := [⟨"pve1", "https://pve1:8006", true, "ok", .invalid⟩, ⟨"pve2", "https://pve2:8006", true, "ok", .invalid⟩,
    ⟨"pve3", "https://pve3:8006", true, "ok", .invalid⟩]

def degradedHttp (e : PassEndpoint) : HttpOutcome :=
  if e.name = "pve1" then .failed .connectError false false
  else if e.name = "pve2" then .failed .readTimeout false true
  else .response (some (.obj [("data", .str "UPID:pve3:1")]))

/-- A shutdown that fails over to the second member and stops there. -/
theorem shutdown_written_once :
    (clusterWrite degradedCluster ⟨"nodes/pve1/qemu/100/status/shutdown", "public", .ok (), .ok⟩ (fun _ => "")
      (fun _ => .ok ()) degradedHttp).2.map (·.name) = ["pve1", "pve2"] ∧
    WrittenOnce degradedCluster ⟨"nodes/pve1/qemu/100/status/shutdown", "public", .ok (), .ok⟩ (fun _ => .ok ()) degradedHttp
      (clusterWrite degradedCluster ⟨"nodes/pve1/qemu/100/status/shutdown", "public", .ok (), .ok⟩ (fun _ => "")
        (fun _ => .ok ()) degradedHttp).1
      (clusterWrite degradedCluster ⟨"nodes/pve1/qemu/100/status/shutdown", "public", .ok (), .ok⟩ (fun _ => "")
        (fun _ => .ok ()) degradedHttp).2 := by
  refine ⟨by decide +kernel, clusterWrite_once _ _ _ _ _ fun e => ⟨fun h hu => ?_, fun h => ?_⟩⟩
  · unfold degradedHttp at h
    split at h
    · cases h
      rfl
    · split at h
      · cases h
        cases hu
      · cases h
  · unfold degradedHttp at h
    split at h
    · cases h
    · split at h <;> cases h

end PveHelper.Operations
