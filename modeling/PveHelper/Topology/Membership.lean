/-
One cluster's membership projection, after `core/services/cluster_membership.py`:
a `cluster/status` body is validated whole or refused (`normalizeClusterStatus`),
the enabled endpoints are asked in turn until one speaks for the scope
(`askEndpoints`), and the answer is published as one generation
(`publishComplete`) or not at all (`publishIncomplete`).

The operational footprint stamp and the log lines are left out: nothing here
reads them.
-/
import Mathlib.Data.List.Sort
import PveHelper.Lib.Json
import PveHelper.Lib.Table
import PveHelper.Lib.Text
import PveHelper.Topology.Role

namespace PveHelper.Topology

open Lib

abbrev Time := Int

abbrev Fields := List (String × Json)

/-! ## Reading one answer -/

structure MembershipNodeObservation where
  nodeName : String
  nodeid : Nat
  online : Bool
  ringAddress : String
deriving DecidableEq

structure NormalizedMembership where
  nodes : List MembershipNodeObservation
  hasClusterRow : Bool
  quorate : Bool
  observedFrom : String
deriving DecidableEq

def NormalizedMembership.observation (n : NormalizedMembership) (accepted : List String) : MembershipObservation :=
  ⟨true, n.hasClusterRow, n.nodes.length, n.quorate, n.observedFrom, accepted⟩

/-- `_required_str`. -/
def requiredStr (row : Fields) (key : String) (nonempty : Bool) : Except String String :=
  let error := .error ("Membership row field '" ++ key ++ "' is not a valid string.")
  match Json.lookup row key with
  | some (.str s) => if nonempty && Text.strip s = "" then error else .ok (if nonempty then Text.strip s else s)
  | _ => error

/-- `_required_int`; no reader asks for a negative one. -/
def requiredInt (row : Fields) (key : String) (minimum : Nat) : Except String Nat :=
  let error := .error ("Membership row field '" ++ key ++ "' is not a valid integer.")
  match Json.lookup row key with
  | some (.int n) => if n < minimum then error else .ok n.toNat
  | _ => error

/-- `_binary_int`. -/
def binaryInt (row : Fields) (key : String) : Except String Bool := do
  let n ← requiredInt row key 0
  if n = 0 then .ok false
  else if n = 1 then .ok true
  else .error ("Membership row field '" ++ key ++ "' is not binary.")

/-- `_optional_binary_int`. -/
def optionalBinaryInt (row : Fields) (key : String) : Except String Bool :=
  if (Json.lookup row key).isNone then .ok false else binaryInt row key

/-- One node row, read after rows that named `names`; with its `local` flag. -/
def readNodeRow (row : Fields) (names : List String) : Except String (MembershipNodeObservation × Bool) := do
  let nodeName ← requiredStr row "name" true
  if nodeName.toList.contains ':' || names.contains nodeName then
    .error "Membership node names must be unique valid NodeRefs."
  let ringAddress ← if (Json.lookup row "ip").isSome then requiredStr row "ip" false else .ok ""
  let nodeid ← requiredInt row "nodeid" 0
  let online ← binaryInt row "online"
  let isLocal ← optionalBinaryInt row "local"
  .ok (⟨nodeName, nodeid, online, ringAddress⟩, isLocal)

/-- The loop over the node rows. -/
def readNodeRows : List Fields → List String → Except String (List (MembershipNodeObservation × Bool))
  | [], _ => .ok []
  | row :: rows, names => do
    let node ← readNodeRow row names
    let nodes ← readNodeRows rows (node.1.nodeName :: names)
    .ok (node :: nodes)

/-- `row.get("type") == kind`. -/
def hasType (kind : String) (row : Fields) : Bool :=
  match Json.lookup row "type" with
  | some (.str s) => s == kind
  | _ => false

/-- The mappings of a list, or nothing when one of its items is none. -/
def asMappings : List Json → Option (List Fields)
  | [] => some []
  | .obj fields :: xs => (asMappings xs).map (fields :: ·)
  | _ :: _ => none

/-- `sorted(nodes, key=lambda item: item.node_name)`. -/
def sortedByName (nodes : List MembershipNodeObservation) : List MembershipNodeObservation :=
  nodes.insertionSort fun a b => ¬ b.nodeName < a.nodeName

/-- `normalize_cluster_status`; the error is the text of `InvalidMembershipPayload`. -/
def normalizeClusterStatus (payload : Json) : Except String NormalizedMembership := do
  let items ← match payload with
    | .arr (x :: xs) => Except.ok (x :: xs)
    | _ => .error "Membership payload must be a nonempty list."
  let rows ← match asMappings items with
    | some rows => Except.ok rows
    | none => .error "Every membership row must be a mapping."
  let nodeRows := rows.filter (hasType "node")
  let clusterRows := rows.filter (hasType "cluster")
  if nodeRows.length + clusterRows.length ≠ rows.length then
    .error "Membership payload contains an unknown row type."
  if nodeRows.isEmpty || 1 < clusterRows.length then
    .error "Membership payload has an ambiguous cluster shape."
  let read ← readNodeRows nodeRows []
  let nodes := read.map (·.1)
  let localNames := (read.filter (·.2)).map (·.1.nodeName)
  match localNames with
  | [observedFrom] =>
    match clusterRows with
    | [] =>
      if nodes.length ≠ 1 then .error "A standalone response must contain exactly one node."
      else .ok ⟨sortedByName nodes, false, false, observedFrom⟩
    | clusterRow :: _ =>
      if nodes.any fun n => n.nodeid == 0 then .error "A clustered node must carry a corosync nodeid."
      let reported ← requiredInt clusterRow "nodes" 1
      if reported ≠ nodes.length then .error "Cluster node count does not match its node rows."
      let quorate ← binaryInt clusterRow "quorate"
      .ok ⟨sortedByName nodes, true, quorate, observedFrom⟩
  | _ => .error "Membership payload must identify exactly one local node."

/-- What `_provider_error_code` reads of a `ProxmoxAPIError`. -/
inductive ProviderError
  | invalidResponse
  | transport (timeout : Bool)
  | api (statusCode : Option Int) (text : String) (causeStatus : Option Int)

def unauthorizedStatus (code : Option Int) : Bool := code = some 401 || code = some 403

/-- `_provider_error_code`. -/
def providerErrorCode : ProviderError → String
  | .invalidResponse => "invalid_payload"
  | .transport true => "provider_timeout"
  | .transport false => "provider_error"
  | .api statusCode text causeStatus =>
    let (leading, detail) := Text.partition ':' text
    if unauthorizedStatus statusCode then "provider_unauthorized"
    else if detail.isSome && ["401", "403"].contains (Text.strip leading) then "provider_unauthorized"
    else if unauthorizedStatus causeStatus then "provider_unauthorized"
    else "provider_error"

/-! ## Rows -/

structure ClusterMembershipState where
  topologyRole : String := "unknown"
  transitionPending : Bool := false
  pendingTopologyRole : String := "unknown"
  membershipGeneration : Nat := 0
  memberCount : Nat := 0
  quorate : Bool := false
  observedFrom : String := ""
deriving DecidableEq

def ClusterMembershipState.role (st : ClusterMembershipState) : TopologyRole :=
  (TopologyRole.ofText st.topologyRole).getD .unknown

def ClusterMembershipState.pendingRole (st : ClusterMembershipState) : TopologyRole :=
  (TopologyRole.ofText st.pendingTopologyRole).getD .unknown

def ClusterMembershipState.pendingRoleIsReadable (st : ClusterMembershipState) : Bool :=
  (TopologyRole.ofText st.pendingTopologyRole).isSome

/-- The check constraint `core_membership_pending_role_coherent`. -/
def ClusterMembershipState.Coherent (st : ClusterMembershipState) : Prop :=
  (st.transitionPending = false ∧ st.pendingTopologyRole = "unknown") ∨
  (st.transitionPending = true ∧ st.pendingTopologyRole ≠ "" ∧ st.pendingTopologyRole ≠ "unknown" ∧
    st.pendingTopologyRole ≠ st.topologyRole)

/-- The membership columns of `ClusterNodeState`. -/
structure ClusterNodeState where
  nodeName : String
  nodeid : Option Nat
  present : Bool
  online : Bool
  reportedRingAddress : String
  membershipGeneration : Nat
  firstDiscoveredAt : Option Time
  lastDiscoveredAt : Option Time

/-- The cluster-grain membership row of `ClusterProjectionCoverage`. -/
structure MembershipCoverage where
  generation : Nat := 0
  complete : Bool := false
  attemptedAt : Option Time := none
  observedAt : Option Time := none
  errorCode : String := ""

/-- The audit events membership publication and its repairs record. -/
inductive TopologyAudit
  | transitionDetected (registeredRole pendingRole : TopologyRole)
  | transitionWithdrawn (registeredRole : TopologyRole) (withdrawnPendingRole : String)
  | pendingRepaired (discardedPendingRole : String)
  | membershipRecovered (acceptedMembers : List String) (observedFrom : String) (generation : Nat)

/-- One cluster's rows as the membership services see them. -/
structure Scope where
  key : String
  retired : Bool
  enabled : Bool
  ingestionQuarantined : Bool
  state : Option ClusterMembershipState
  nodes : Table ClusterNodeState.nodeName
  coverage : Option MembershipCoverage
  audit : List TopologyAudit

/-- `_accepted_members`. -/
def acceptedMembers (s : Scope) : List String :=
  match s.state, s.coverage with
  | some st, some c =>
    if c.observedAt.isNone then []
    else (s.nodes.rows.filter fun n => n.present && n.membershipGeneration == st.membershipGeneration).map (·.nodeName)
  | _, _ => []

/-! ## Publishing -/

def errorTopologyRoleChange : String := "topology_role_change_observed"
def errorObserverNotMember : String := "observer_not_a_member"

def publishIncomplete (s : Scope) (attemptedAt : Time) (errorCode : String) : Scope × Nat :=
  let c := s.coverage.getD {}
  ({ s with coverage := some { c with complete := false, attemptedAt := some attemptedAt, errorCode := errorCode } },
    c.generation)

/-- What a complete decision writes to the state row, its error code and its
audit event; the exception is the `RuntimeError` of an unexpected decision. -/
def applyDecision (st : ClusterMembershipState) (d : RoleDecision) :
    Except String (ClusterMembershipState × String × List TopologyAudit) :=
  match d.transition with
  | .adopted | .stable => .ok ({ st with topologyRole := d.role.value }, "", [])
  | .transitionPending =>
    .ok ({ st with transitionPending := true, pendingTopologyRole := d.pendingRole.value }, errorTopologyRoleChange,
      if st.transitionPending then [] else [.transitionDetected d.previousRole d.pendingRole])
  | .transitionWithdrawn =>
    .ok ({ st with transitionPending := false, pendingTopologyRole := TopologyRole.unknown.value }, "",
      [.transitionWithdrawn d.role st.pendingTopologyRole])
  | .indeterminate =>
    if st.transitionPending && !st.pendingRoleIsReadable then .ok (st, errorTopologyRoleChange, [])
    else .error "Unexpected complete membership decision: indeterminate"
  | .observerNotAMember => .error "Unexpected complete membership decision: observer_not_a_member"

/-- One observed node written over its row, if it has one. -/
def publishNode (generation : Nat) (observedAt : Time) (nodes : Table ClusterNodeState.nodeName)
    (item : MembershipNodeObservation) : Table ClusterNodeState.nodeName :=
  nodes.put {
    nodeName := item.nodeName
    nodeid := some item.nodeid
    present := true
    online := item.online
    reportedRingAddress := item.ringAddress
    membershipGeneration := generation
    firstDiscoveredAt := some (((nodes.get item.nodeName).bind (·.firstDiscoveredAt)).getD observedAt)
    lastDiscoveredAt := some observedAt }

/-- The row of a node the generation proves absent. -/
def absentNode (generation : Nat) (n : ClusterNodeState) : ClusterNodeState :=
  { n with present := false, online := false, membershipGeneration := generation }

@[simp] theorem absentNode_nodeName (generation : Nat) (n : ClusterNodeState) :
    (absentNode generation n).nodeName = n.nodeName := rfl

/-- `_publish_complete`: the new rows, the generation and the error code. -/
def publishComplete (s : Scope) (n : NormalizedMembership) (d : RoleDecision) (observedAt : Time) :
    Except String (Scope × Nat × String) := do
  let st := s.state.getD {}
  let generation := st.membershipGeneration + 1
  let (st', errorCode, audit) ← applyDecision st d
  let observedNames := n.nodes.map (·.nodeName)
  let written := n.nodes.foldl (publishNode generation observedAt) s.nodes
  let nodes := written.updateWhere (fun row => !observedNames.contains row.nodeName) (absentNode generation)
    (absentNode_nodeName generation)
  .ok ({ s with
    state := some { st' with
      membershipGeneration := generation
      memberCount := n.nodes.length
      quorate := n.quorate
      observedFrom := n.observedFrom }
    nodes := nodes
    coverage := some ⟨generation, true, some observedAt, some observedAt, errorCode⟩
    audit := s.audit ++ audit }, generation, errorCode)

/-! ## Asking the endpoints -/

/-- What one endpoint answers to `cluster/status`. -/
inductive EndpointAnswer
  | body (payload : Json)
  | failed (error : ProviderError)

structure MembershipEndpointAttempt where
  endpointName : String
  errorCode : String
  observedFrom : String
deriving DecidableEq

/-- What the loop over the endpoints ends with. -/
structure Asked where
  attempts : List MembershipEndpointAttempt
  outsideObservers : List String
  answer : Option (NormalizedMembership × MembershipObservation)

/-- One endpoint tried and passed over. -/
def Asked.after (a : Asked) (attempt : MembershipEndpointAttempt) (outside : List String) : Asked :=
  { a with attempts := attempt :: a.attempts, outsideObservers := outside ++ a.outsideObservers }

/-- Each endpoint is asked at most once, until one speaks for the scope. -/
def askEndpoints (accepted : List String) : List (String × EndpointAnswer) → Asked
  | [] => ⟨[], [], none⟩
  | (name, .failed e) :: rest => (askEndpoints accepted rest).after ⟨name, providerErrorCode e, ""⟩ []
  | (name, .body payload) :: rest =>
    match normalizeClusterStatus payload with
    | .error _ => (askEndpoints accepted rest).after ⟨name, "invalid_payload", ""⟩ []
    | .ok n =>
      let o := n.observation accepted
      if !o.speaksForTheScope then
        (askEndpoints accepted rest).after ⟨name, errorObserverNotMember, n.observedFrom⟩ [n.observedFrom]
      else ⟨[⟨name, "", n.observedFrom⟩], [], some (n, o)⟩

/-- The error code of a refresh no endpoint answered: the one code all attempts
share, if they do. -/
def incompleteCode (a : Asked) : String :=
  if !a.outsideObservers.isEmpty then errorObserverNotMember
  else match a.attempts with
    | [] => "provider_error"
    | x :: xs => if xs.all fun y => y.errorCode == x.errorCode then x.errorCode else "provider_error"

/-- A refresh between its decision and its publication. -/
structure Pass where
  normalized : NormalizedMembership
  observation : MembershipObservation
  decision : RoleDecision

/-- The decision on a complete observation; an unreadable pending target is
kept for its repair. -/
def decideRole (s : Scope) (o : MembershipObservation) : RoleDecision :=
  let st := s.state.getD {}
  if st.transitionPending && !st.pendingRoleIsReadable then
    ⟨.indeterminate, st.role, st.role, .unknown,
      "The pending topology role was written by a newer build and requires operator repair."⟩
  else evaluateRoleTransition st.role o st.pendingRole

/-- `refresh_cluster_membership` up to its publication. -/
inductive RefreshRead
  /-- No endpoint is asked. -/
  | zeroCall (errorCode : String)
  | incomplete (scope : Scope) (generation : Nat) (errorCode observedFrom : String)
      (attempts : List MembershipEndpointAttempt)
  | complete (pass : Pass) (attempts : List MembershipEndpointAttempt)

def refreshRead (s : Scope) (endpoints : List (String × EndpointAnswer)) (attemptedAt : Time) : RefreshRead :=
  if s.retired then .zeroCall "acquisition_retired"
  else if !s.enabled then .zeroCall "acquisition_disabled"
  else if s.ingestionQuarantined then .zeroCall "acquisition_quarantined"
  else if endpoints.isEmpty then .zeroCall "no_enabled_endpoint"
  else
    let asked := askEndpoints (acceptedMembers s) endpoints
    match asked.answer with
    | none =>
      let (s', generation) := publishIncomplete s attemptedAt (incompleteCode asked)
      .incomplete s' generation (incompleteCode asked) (asked.outsideObservers.headD "") asked.attempts
    | some (n, o) => .complete ⟨n, o, decideRole s o⟩ asked.attempts

/-! ## The operator's repairs -/

/-- The checks of a confirmed hand-off on the pending state. -/
def pendingDecision (st : ClusterMembershipState) (membershipComplete : Bool) (verifiedRole : TopologyRole)
    (nodeCount : Nat) : Except String RoleDecision :=
  if !st.transitionPending || !st.pendingRoleIsReadable then
    .error "This topology hand-off is no longer available."
  else if !membershipComplete || verifiedRole = .unknown then
    .error "The replacement did not return a complete topology observation."
  else if verifiedRole ≠ st.pendingRole then
    .error ("This connection is pending toward " ++ st.pendingRole.value ++ ", but the replacement verified as " ++
      verifiedRole.value ++ ".")
  else
    let o : MembershipObservation := ⟨true, decide (verifiedRole = .corosync), nodeCount, false, "", []⟩
    match resolveTransition (evaluateRoleTransition st.role o st.pendingRole) verifiedRole with
    | .ok d => .ok d
    | .error _ => .error "The current pending topology decision cannot be resolved by this verified replacement."

/-- `repair_unreadable_pending_transition`. -/
def repairUnreadablePendingTransition (s : Scope) (typedClusterKey : String) : Except String Scope :=
  if typedClusterKey ≠ s.key then .error "Type the exact permanent cluster key to discard the evidence."
  else match s.state with
    | none => .error "There is no unreadable pending topology evidence to repair."
    | some st =>
      if !st.transitionPending || st.pendingRoleIsReadable then
        .error "There is no unreadable pending topology evidence to repair."
      else .ok { s with
        state := some { st with transitionPending := false, pendingTopologyRole := TopologyRole.unknown.value }
        audit := s.audit ++ [.pendingRepaired st.pendingTopologyRole] }

/-- `confirm_membership_recovery`, over the answer of the chosen endpoint. -/
def confirmMembershipRecovery (s : Scope) (payload : Json) (now : Time) : Except String Scope :=
  match s.coverage with
  | none => .error "The stale-observer condition no longer exists."
  | some c =>
    if c.errorCode ≠ errorObserverNotMember then .error "The stale-observer condition no longer exists."
    else match normalizeClusterStatus payload with
      | .error _ => .error "The endpoint did not return a fresh complete membership response."
      | .ok n =>
        let st := s.state.getD {}
        let d := evaluateRoleTransition st.role (n.observation []) st.pendingRole
        match publishComplete s n d now with
        | .error e => .error e
        | .ok (s', generation, _) =>
          .ok { s' with
            audit := s'.audit ++ [.membershipRecovered (n.nodes.map (·.nodeName)) n.observedFrom generation] }

/-- The rows a committed hand-off leaves of the old identity. -/
def retiredScope (s : Scope) : Scope :=
  { s with retired := true, enabled := false, state := none, nodes := .empty, coverage := none }

end PveHelper.Topology
