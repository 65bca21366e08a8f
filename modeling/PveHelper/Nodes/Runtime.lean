/-
Per-node runtime publication, after `core/services/cluster_node_runtime.py`, and
the status its readers derive (`_runtime_status` of `cluster_projection_read.py`).

A node row has two publishers. Its membership columns are those of `Scope.nodes`;
its runtime columns stand beside them. A membership refresh saves whole rows, but
it reads them in the transaction that saves them, under the lifecycle lock every
writer here takes, so it writes the runtime columns back as they are. Each
function here is one such transaction; the provider is asked inside it. The
enabled endpoints of a transaction come with their answers. The footprint stamp
and the log lines are left out.
-/
import PveHelper.Lib.Sweep
import PveHelper.Nodes.EndpointHealth
import PveHelper.Nodes.Status
import PveHelper.Topology.Generations

namespace PveHelper.Nodes

open Lib PveHelper.Topology

def errorNodeOffline : String := "node_offline_by_membership"
def errorNodeAbsent : String := "node_absent_from_membership"
def errorTransitionPending : String := "topology_transition_pending"
def errorNodeNotAMember : String := "node_not_a_member"

/-! ## The cluster's answer -/

/-- `_acquisition_refusal`. -/
def acquisitionRefusal (s : Scope) : Option String :=
  if s.retired then some "acquisition_retired"
  else if !s.enabled then some "acquisition_disabled"
  else if s.ingestionQuarantined then some "acquisition_quarantined"
  else none

/-- `_cluster_gate`: whether the membership is complete, or the refusal. -/
def clusterGate (s : Scope) (hasEndpoint : Bool) : Except String Bool :=
  match acquisitionRefusal s with
  | some refusal => .error refusal
  | none =>
    if !hasEndpoint then .error "no_enabled_endpoint"
    else match s.coverage with
      | none => .error "membership_not_published"
      | some c => if c.observedAt.isNone then .error "membership_not_published" else .ok c.complete

/-! ## Rows -/

/-- The runtime columns of `ClusterNodeState`, blank by default. -/
structure RuntimeColumns where
  cpuUsage : Option Double := none
  cpuWait : Option Double := none
  cpuModel : String := ""
  cpuSockets : Option Nat := none
  cpuCores : Option Nat := none
  memoryTotalBytes : Option Nat := none
  memoryUsedBytes : Option Nat := none
  swapTotalBytes : Option Nat := none
  swapUsedBytes : Option Nat := none
  rootfsTotalBytes : Option Nat := none
  rootfsUsedBytes : Option Nat := none
  loadAverage1m : Option Double := none
  loadAverage5m : Option Double := none
  loadAverage15m : Option Double := none
  uptimeSeconds : Option Nat := none
  pveVersion : String := ""
  kernelVersion : String := ""
  currentKernelRelease : String := ""
  bootMode : String := ""
  secureBootEnabled : Option Bool := none
deriving DecidableEq

/-- `_apply_runtime`, but for the generation. -/
def NormalizedNodeRuntime.columns (r : NormalizedNodeRuntime) : RuntimeColumns where
  cpuUsage := some r.cpuUsage
  cpuWait := r.cpuWait
  cpuModel := r.cpuModel
  cpuSockets := r.cpuSockets
  cpuCores := r.cpuCores
  memoryTotalBytes := some r.memoryTotalBytes
  memoryUsedBytes := some r.memoryUsedBytes
  swapTotalBytes := r.swapTotalBytes
  swapUsedBytes := r.swapUsedBytes
  rootfsTotalBytes := some r.rootfsTotalBytes
  rootfsUsedBytes := some r.rootfsUsedBytes
  loadAverage1m := some r.loadAverage1m
  loadAverage5m := some r.loadAverage5m
  loadAverage15m := some r.loadAverage15m
  uptimeSeconds := some r.uptimeSeconds
  pveVersion := r.pveVersion
  kernelVersion := r.kernelVersion
  currentKernelRelease := r.currentKernelRelease
  bootMode := r.bootMode
  secureBootEnabled := r.secureBootEnabled

/-- The runtime side of a node row. -/
structure NodeRuntime where
  generation : Nat := 0
  columns : RuntimeColumns := {}
deriving DecidableEq

/-- `_clear_runtime`: the generation stays. -/
def NodeRuntime.clear (r : NodeRuntime) : NodeRuntime := { r with columns := {} }

/-- A node's row of `ClusterProjectionCoverage`, in one domain. -/
structure NodeCoverage where
  nodeName : String
  generation : Nat := 0
  basedOnGeneration : Nat
  complete : Bool := false
  attemptedAt : Option Time := none
  observedAt : Option Time := none
  errorCode : String := ""
deriving DecidableEq

/-- The coverage rows of one domain. -/
abbrev Coverages := Table NodeCoverage.nodeName

/-- `_coverage_for`: the row there is, or a new one. -/
def coverageFor (t : Coverages) (name : String) (basedOn : Nat) : NodeCoverage :=
  (t.get name).getD { nodeName := name, basedOnGeneration := basedOn }

/-- The row after an attempt that published nothing. -/
def NodeCoverage.attempted (c : NodeCoverage) (now : Time) (errorCode : String) (basedOn : Nat) : NodeCoverage :=
  { c with complete := false, attemptedAt := some now, errorCode := errorCode, basedOnGeneration := basedOn }

/-- The row after a publication. -/
def NodeCoverage.published (c : NodeCoverage) (now : Time) (generation basedOn : Nat) : NodeCoverage where
  nodeName := c.nodeName
  generation := generation
  basedOnGeneration := basedOn
  complete := true
  attemptedAt := some now
  observedAt := some now
  errorCode := ""

def recordAttempt (t : Coverages) (name : String) (now : Time) (errorCode : String) (basedOn : Nat) : Coverages :=
  t.put ((coverageFor t name basedOn).attempted now errorCode basedOn)

def recordPublication (t : Coverages) (name : String) (now : Time) (generation basedOn : Nat) : Coverages :=
  t.put ((coverageFor t name basedOn).published now generation basedOn)

theorem coverageFor_nodeName (t : Coverages) (name : String) (basedOn : Nat) :
    (coverageFor t name basedOn).nodeName = name := by
  unfold coverageFor
  cases h : t.get name with
  | none => rfl
  | some c => exact Table.key_of_get h

theorem get_recordAttempt (t : Coverages) (name : String) (now : Time) (errorCode : String) (basedOn : Nat) (k : String) :
    (recordAttempt t name now errorCode basedOn).get k =
      if k = name then some ((coverageFor t name basedOn).attempted now errorCode basedOn) else t.get k := by
  have hname : ((coverageFor t name basedOn).attempted now errorCode basedOn).nodeName = name := coverageFor_nodeName ..
  rw [recordAttempt, Table.get_put, hname]

/-- One cluster's membership and runtime rows. -/
structure RuntimeCluster where
  scope : Scope
  /-- The runtime side of each node row; a new row has the defaults. -/
  runtime : String → NodeRuntime
  coverage : Coverages

/-! ## Refreshing one node -/

/-- `_read_node_status`: the runtime or a stable code; the exception is one it does not catch. -/
def readNodeStatus (endpoints : List (String × Answer Json)) (h : SweepEndpointHealth) :
    Except String (Except String NormalizedNodeRuntime) × SweepEndpointHealth :=
  match readUsable endpoints h with
  | (.error code, h) => (.ok (.error code), h)
  | (.ok (_, payload), h) =>
    match normalizeNodeStatus payload with
    | .ok runtime => (.ok (.ok runtime), h)
    | .error (.invalid _) => (.ok (.error "invalid_payload"), h)
    | .error .overflow => (.error "OverflowError: int too large to convert to float", h)

/-- What `_refresh_one_node` finds, up to the writes that go through. -/
inductive NodeVisit
  /-- Refused before any call; nothing is written. -/
  | refused (errorCode : String) (basedOn : Option Nat)
  | absent
  | offline
  | failed (errorCode : String)
  | read (runtime : NormalizedNodeRuntime)

/-- A runtime as far as its `row.save`. -/
def savedRuntime (runtime : NormalizedNodeRuntime) : Except String NodeVisit :=
  if runtime.storable then .ok (.read runtime) else .error "DataError: PostgreSQL text fields cannot contain NUL"

def visitNode (s : RuntimeCluster) (name : String) (endpoints : List (String × Answer Json)) (h : SweepEndpointHealth) :
    Except String NodeVisit × SweepEndpointHealth :=
  match clusterGate s.scope (!endpoints.isEmpty) with
  | .error refusal => (.ok (.refused refusal none), h)
  | .ok membershipComplete =>
    if s.scope.row.transitionPending then
      (.ok (.refused errorTransitionPending (some s.scope.row.membershipGeneration)), h)
    else match s.scope.nodes.get name with
      | none => (.ok (.refused errorNodeNotAMember none), h)
      | some row =>
        if !row.present then (.ok .absent, h)
        else if membershipComplete && !row.online then (.ok .offline, h)
        else match readNodeStatus endpoints h with
          | (.error raised, h) => (.error raised, h)
          | (.ok (.error code), h) => (.ok (.failed code), h)
          | (.ok (.ok runtime), h) => (savedRuntime runtime, h)

structure NodeRuntimeResult where
  nodeName : String
  complete : Bool
  errorCode : String
  generation : Nat
  basedOnGeneration : Option Nat := none
  calledProvider : Bool := false

/-- What `_refresh_one_node` writes. -/
def writeVisit (s : RuntimeCluster) (name : String) (now : Time) (visit : NodeVisit) : RuntimeCluster × NodeRuntimeResult :=
  let basedOn := s.scope.row.membershipGeneration
  let held := (coverageFor s.coverage name basedOn).generation
  match visit with
  | .refused code based => (s, ⟨name, false, code, 0, based, false⟩)
  | .absent =>
    ({ s with
        runtime := Function.update s.runtime name (s.runtime name).clear
        coverage := recordAttempt s.coverage name now errorNodeAbsent basedOn },
      ⟨name, false, errorNodeAbsent, held, some basedOn, false⟩)
  | .offline =>
    ({ s with coverage := recordAttempt s.coverage name now errorNodeOffline basedOn },
      ⟨name, false, errorNodeOffline, held, some basedOn, false⟩)
  | .failed code =>
    ({ s with coverage := recordAttempt s.coverage name now code basedOn },
      ⟨name, false, code, held, some basedOn, code != "endpoints_exhausted"⟩)
  | .read runtime =>
    let generation := (s.runtime name).generation + 1
    ({ s with
        runtime := Function.update s.runtime name ⟨generation, runtime.columns⟩
        coverage := recordPublication s.coverage name now generation basedOn },
      ⟨name, true, "", generation, some basedOn, true⟩)

/-- `_refresh_one_node`; an exception rolls its transaction back. -/
def refreshOneNode (s : RuntimeCluster) (name : String) (endpoints : List (String × Answer Json))
    (h : SweepEndpointHealth) (now : Time) : Except String (RuntimeCluster × NodeRuntimeResult) × SweepEndpointHealth :=
  match visitNode s name endpoints h with
  | (.error raised, h) => (.error raised, h)
  | (.ok visit, h) => (.ok (writeVisit s name now visit), h)

/-! ## The ends of a sweep -/

/-- The members, in the order of their names. -/
def presentNames (s : Scope) : List String :=
  ((s.nodes.rows.filter (·.present)).map (·.nodeName)).insertionSort fun a b => ¬ b < a

/-- The members a sweep goes over, or its refusal. -/
def sweepTargets (s : Scope) (hasEndpoint : Bool) : Except String (List String) :=
  (clusterGate s hasEndpoint).map fun _ => presentNames s

/-- Coverage that says the node is absent. -/
def NodeCoverage.handled (c : NodeCoverage) : Bool := c.errorCode == errorNodeAbsent && !c.complete

/-- One row of `_mark_departed_nodes`. -/
def markDeparted (now : Time) (s : RuntimeCluster) (row : ClusterNodeState) : RuntimeCluster :=
  { s with
    runtime := Function.update s.runtime row.nodeName (s.runtime row.nodeName).clear
    coverage := recordAttempt s.coverage row.nodeName now errorNodeAbsent s.scope.row.membershipGeneration }

/-- The rows `_mark_departed_nodes` has to mark. -/
def departedRows (s : RuntimeCluster) : List ClusterNodeState :=
  (s.scope.nodes.rows.filter fun row => !row.present && !((s.coverage.get row.nodeName).any (·.handled))).insertionSort
    fun a b => ¬ b.nodeName < a.nodeName

/-- The departure pass writes nothing. -/
def departureRefused (s : Scope) : Bool := (acquisitionRefusal s).isSome || s.row.transitionPending

/-- `_mark_departed_nodes`, with the number of newly departed nodes. -/
def markDepartedNodes (s : RuntimeCluster) (now : Time) : RuntimeCluster × Nat :=
  if departureRefused s.scope then (s, 0)
  else ((departedRows s).foldl (markDeparted now) s, (departedRows s).length)

/-- What a membership refresh or an operator's switch does to the cluster's other rows. -/
def scopeStep (s : Scope) : MembershipAction → Scope
  | .flags retired enabled quarantined =>
    { s with retired := retired, enabled := enabled, ingestionQuarantined := quarantined }
  | .refresh endpoints now =>
    match refreshClusterMembership s endpoints now with
    | .error _ => s
    | .ok (s', _) => s'

/-! ## Reading -/

inductive NodeRuntimeReadStatus
  | unknown | current | stale | offlineSkipped | departed | failed
deriving DecidableEq

/-- `_fresh`. -/
def fresh (observedAt : Option Time) (now maxAge : Time) : Bool :=
  match observedAt with
  | none => false
  | some t => 0 ≤ now - t && now - t ≤ maxAge

/-- `_runtime_status`. -/
def runtimeStatus (row : ClusterNodeState) (runtimeGeneration : Nat) (coverage : Option NodeCoverage)
    (membershipGeneration : Option Nat) (now maxAge : Time) : NodeRuntimeReadStatus :=
  let aligned := some row.membershipGeneration == membershipGeneration
  match coverage with
  | none => .unknown
  | some c =>
    let bound := some c.basedOnGeneration == membershipGeneration
    if c.errorCode == errorNodeAbsent && !c.complete && bound && aligned && !row.present then .departed
    else if c.errorCode == errorNodeOffline && !c.complete && bound && aligned && row.present && !row.online then
      .offlineSkipped
    else if !c.complete && bound then .failed
    else if row.present && row.online && aligned && c.complete && c.errorCode == "" && bound &&
        c.generation == runtimeGeneration && fresh c.observedAt now maxAge then .current
    else .stale

/-- `published_membership_generation` of `read_cluster_projection`. -/
def publishedGeneration (s : Scope) : Option Nat :=
  if 0 < s.row.membershipGeneration then some s.row.membershipGeneration else none

/-- The status `read_cluster_projection` gives the node's row. -/
def RuntimeCluster.status (s : RuntimeCluster) (name : String) (now maxAge : Time) : Option NodeRuntimeReadStatus :=
  (s.scope.nodes.get name).map fun row =>
    runtimeStatus row (s.runtime name).generation (s.coverage.get name) (publishedGeneration s.scope) now maxAge

end PveHelper.Nodes
