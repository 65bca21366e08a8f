/-
Per-node interface publication, after `core/services/cluster_node_networks.py`,
and the read of what a guest may attach to (`_node_network_read` and
`attachable_bridges` of `cluster_projection_read.py`).

A node is read twice through one endpoint: the plain listing is its configuration,
the `any_bridge` listing says what is attachable. As in the runtime pass each
function here is one transaction under the lifecycle lock. The footprint stamp and
the log lines are left out.
-/
import PveHelper.Guests.Inventory
import PveHelper.Nodes.Runtime

namespace PveHelper.Nodes

open Lib PveHelper.Topology
open Guests (PublicationScope sortedSet)

def errorNodeNotPublished : String := "node_not_published"

/-! ## Reading the provider's fields -/

section
-- Python's `repr` of a float, a list or a dictionary
variable (repr : Json → String)

/-- `str(value)`. -/
def pyStr : Json → String
  | .null => "None"
  | .bool b => if b then "True" else "False"
  | .int n => toString n
  | .str s => s
  | value => repr value

/-- `row.get(key)`. -/
def getField (row : Fields) (key : String) : Json := (Json.lookup row key).getD .null

/-- `_text`. -/
def textOf (value : Json) (limit : Nat) : String :=
  match value with
  | .null => ""
  | value => String.ofList ((pyStr repr value).toList.take limit)

/-- `_flag`. -/
def flagOf (value : Json) : Option Bool :=
  match value with
  | .null | .str "" => none
  | value => some (!(["0", "False", "false"].contains (pyStr repr value)))

/-- `_row_key`. -/
def rowKey : Json → String
  | .obj row => textOf repr (getField row "iface") 120
  | _ => ""

/-! ## Composing the two listings -/

/-- What a publication says of one interface. -/
structure InterfaceValues where
  iface : String
  interfaceType : String := ""
  attachable : Bool := false
  active : Option Bool := none
  autostart : Option Bool := none
  method : String := ""
  address : String := ""
  cidr : String := ""
  gateway : String := ""
  bridgePorts : String := ""
  bridgeVids : String := ""
  bridgeVlanAware : Option Bool := none
  bondMode : String := ""
  bondSlaves : String := ""
  comments : String := ""
deriving DecidableEq

/-- The database takes every text. -/
def InterfaceValues.storable (v : InterfaceValues) : Bool :=
  [v.iface, v.interfaceType, v.method, v.address, v.cidr, v.gateway, v.bridgePorts, v.bridgeVids, v.bondMode,
    v.bondSlaves, v.comments].all Text.storable

abbrev Composed := Table InterfaceValues.iface

/-- A row of the plain listing. -/
def plainValues (name : String) (row : Fields) : InterfaceValues where
  iface := name
  interfaceType := textOf repr (getField row "type") 32
  active := flagOf repr (getField row "active")
  autostart := flagOf repr (getField row "autostart")
  method := textOf repr (getField row "method") 32
  address := textOf repr (getField row "address") 64
  cidr := textOf repr (getField row "cidr") 64
  gateway := textOf repr (getField row "gateway") 64
  bridgePorts := textOf repr (getField row "bridge_ports") 255
  bridgeVids := textOf repr (getField row "bridge_vids") 255
  bridgeVlanAware := flagOf repr (getField row "bridge_vlan_aware")
  bondMode := textOf repr (getField row "bond_mode") 64
  bondSlaves := textOf repr (getField row "slaves") 255
  comments := textOf repr (getField row "comments") 4096

/-- A row of the `any_bridge` listing over what is known of its interface. -/
def bridgeValues (entry : InterfaceValues) (row : Fields) : InterfaceValues :=
  let interfaceType := textOf repr (getField row "type") 32
  { entry with
    attachable := true
    interfaceType := if interfaceType = "" then entry.interfaceType else interfaceType
    active := entry.active.or (flagOf repr (getField row "active"))
    bridgeVlanAware := entry.bridgeVlanAware.or (flagOf repr (getField row "vlanaware"))
    comments := if entry.comments = "" then textOf repr (getField row "comments") 4096 else entry.comments }

def composePlain (t : Composed) (row : Json) : Composed :=
  match row with
  | .obj fields => if rowKey repr row = "" then t else t.put (plainValues repr (rowKey repr row) fields)
  | _ => t

def composeBridge (t : Composed) (row : Json) : Composed :=
  match row with
  | .obj fields =>
    let name := rowKey repr row
    if name = "" then t else t.put (bridgeValues repr ((t.get name).getD { iface := name }) fields)
  | _ => t

/-- `_compose`. -/
def compose (plain bridges : List Json) : Composed :=
  bridges.foldl (composeBridge repr) (plain.foldl (composePlain repr) .empty)

end

/-! ## Reading one node -/

/-- What an endpoint answers to the two reads of a node. -/
structure NetworkAnswer where
  plain : Answer Json
  anyBridge : Answer Json

/-- The second read is made when the first is answered. -/
def NetworkAnswer.both (a : NetworkAnswer) : Answer (Json × Json) := do
  let plain ← a.plain
  let bridges ← a.anyBridge
  .ok (plain, bridges)

/-- `_read_interfaces`. -/
def readInterfaces (endpoints : List (String × NetworkAnswer)) (h : SweepEndpointHealth) :
    Except String (List Json × List Json) × SweepEndpointHealth :=
  match readUsable (endpoints.map fun e => (e.1, e.2.both)) h with
  | (.error code, h) => (.error code, h)
  | (.ok (_, listings), h) =>
    match listings with
    | (.arr plain, .arr bridges) => (.ok (plain, bridges), h)
    | _ => (.error "invalid_payload", h)

/-! ## Rows -/

structure ClusterNodeInterface extends InterfaceValues where
  nodeName : String
  observedGeneration : Nat := 0
  basedOnEnrollmentGeneration : Option Nat := none
  lastSeenAt : Option Time := none
  present : Bool := true
  unreachable : Bool := false
deriving DecidableEq

/-- The key within a cluster. -/
def ClusterNodeInterface.key (r : ClusterNodeInterface) : String × String := (r.nodeName, r.iface)

abbrev Interfaces := Table ClusterNodeInterface.key

/-- One cluster's membership, enrollment and interface rows. -/
structure NetworkCluster where
  scope : Scope
  /-- What `publication_scope` resolves of the enrollment. -/
  enrollment : PublicationScope
  interfaces : Interfaces
  coverage : Coverages

/-- `_demote_coverage`. -/
def demoteCoverage (t : Coverages) (name : String) (refusal : String) (now : Time) : Coverages :=
  match t.get name with
  | none => t
  | some c =>
    if !c.complete && c.errorCode == refusal then t
    else t.put { c with complete := false, attemptedAt := some now, errorCode := refusal }

/-- An interface flipped to unknown. -/
def ClusterNodeInterface.unknown (r : ClusterNodeInterface) : ClusterNodeInterface :=
  { r with present := false, unreachable := true, attachable := false }

theorem ClusterNodeInterface.unknown_key (r : ClusterNodeInterface) : r.unknown.key = r.key := rfl

/-- `_mark_unreachable`. -/
def markUnreachable (t : Interfaces) (name : String) : Interfaces :=
  t.updateWhere (fun r => r.nodeName == name && !r.unreachable) ClusterNodeInterface.unknown
    ClusterNodeInterface.unknown_key

/-- The row a publication writes for an interface, over the one there if any. -/
def InterfaceValues.row (name : String) (generation enrollment : Nat) (now : Time) (v : InterfaceValues) :
    ClusterNodeInterface where
  toInterfaceValues := v
  nodeName := name
  observedGeneration := generation
  basedOnEnrollmentGeneration := some enrollment
  lastSeenAt := some now
  present := true
  unreachable := false

/-- The interface rows after a publication: the composed ones written, the node's others deleted. -/
def publishInterfaces (t : Interfaces) (composed : Composed) (name : String) (generation enrollment : Nat) (now : Time) :
    Interfaces :=
  let sorted := composed.rows.insertionSort fun a b => ¬ b.iface < a.iface
  (sorted.foldl (fun t v => t.put (v.row name generation enrollment now)) t).keep
    fun r => r.nodeName != name || (composed.get r.iface).isSome

/-! ## Refreshing one node -/

/-- What `_refresh_one_node` finds, up to its writes. -/
inductive NetworkVisit
  /-- Refused for the whole cluster: no call, no new row. -/
  | refused (errorCode : String)
  | notAMember
  /-- Not to be read now: its rows turn unknown. -/
  | unread (errorCode : String)
  | failed (errorCode : String)
  | read (plain bridges : List Json)

def visitNetwork (s : NetworkCluster) (name : String) (endpoints : List (String × NetworkAnswer)) (h : SweepEndpointHealth) :
    NetworkVisit × SweepEndpointHealth :=
  match clusterGate s.scope (!endpoints.isEmpty) with
  | .error refusal => (.refused refusal, h)
  | .ok membershipComplete =>
    if s.scope.row.transitionPending then (.refused errorTransitionPending, h)
    else match s.scope.nodes.get name with
      | none => (.notAMember, h)
      | some row =>
        if !s.enrollment.publishes name then (.unread errorNodeNotPublished, h)
        else if !row.present then (.unread errorNodeAbsent, h)
        else if membershipComplete && !row.online then (.unread errorNodeOffline, h)
        else match readInterfaces endpoints h with
          | (.error code, h) => (.failed code, h)
          | (.ok (plain, bridges), h) => (.read plain bridges, h)

structure NodeNetworkResult where
  nodeName : String
  published : Bool
  errorCode : String
  generation : Nat := 0
  interfaces : Nat := 0
  calledProvider : Bool := false

/-- Retirement deletes the projection itself, so its refusal is silent. -/
def demoteUnlessRetired (t : Coverages) (name : String) (refusal : String) (now : Time) : Coverages :=
  if refusal = "acquisition_retired" then t else demoteCoverage t name refusal now

/-- What `_refresh_one_node` writes, and the exception of `target.save` at a text that the database
refuses. -/
def writeNetwork (repr : Json → String) (s : NetworkCluster) (name : String) (now : Time) (visit : NetworkVisit) :
    Except String (NetworkCluster × NodeNetworkResult) :=
  let basedOn := s.scope.row.membershipGeneration
  let held := (coverageFor s.coverage name basedOn).generation
  match visit with
  | .refused code =>
    .ok ({ s with coverage := demoteUnlessRetired s.coverage name code now }, ⟨name, false, code, 0, 0, false⟩)
  | .notAMember => .ok (s, ⟨name, false, errorNodeNotAMember, 0, 0, false⟩)
  | .unread code =>
    .ok ({ s with
        interfaces := markUnreachable s.interfaces name
        coverage := recordAttempt s.coverage name now code basedOn }, ⟨name, false, code, held, 0, false⟩)
  | .failed code =>
    .ok ({ s with coverage := recordAttempt s.coverage name now code basedOn },
      ⟨name, false, code, held, 0, code != "endpoints_exhausted"⟩)
  | .read plain bridges =>
    let composed := compose repr plain bridges
    if composed.rows.all (·.storable) then
      .ok ({ s with
          interfaces := publishInterfaces s.interfaces composed name (held + 1) s.enrollment.generation now
          coverage := recordPublication s.coverage name now (held + 1) basedOn },
        ⟨name, true, "", held + 1, composed.rows.length, true⟩)
    else .error "DataError: PostgreSQL text fields cannot contain NUL"

/-- `_refresh_one_node`; an exception rolls its transaction back. -/
def refreshOneNodeNetwork (repr : Json → String) (s : NetworkCluster) (name : String)
    (endpoints : List (String × NetworkAnswer)) (h : SweepEndpointHealth) (now : Time) :
    Except String (NetworkCluster × NodeNetworkResult) × SweepEndpointHealth :=
  (writeNetwork repr s name now (visitNetwork s name endpoints h).1, (visitNetwork s name endpoints h).2)

/-! ## The ends of a sweep -/

/-- The first transaction of `refresh_cluster_node_networks`: its targets, or the
demotion that goes with its refusal. -/
def openNetworkSweep (s : NetworkCluster) (hasEndpoint : Bool) (now : Time) : NetworkCluster × Option (List String) :=
  match clusterGate s.scope hasEndpoint with
  | .ok _ => (s, some (presentNames s.scope))
  | .error refusal =>
    ({ s with coverage := (presentNames s.scope).foldl (fun t name => demoteUnlessRetired t name refusal now) s.coverage },
      none)

/-- One node of `_retract_departed_nodes`. -/
def retractDeparted (now : Time) (s : NetworkCluster) (name : String) : NetworkCluster :=
  { s with
    interfaces := markUnreachable s.interfaces name
    coverage := recordAttempt s.coverage name now errorNodeAbsent s.scope.row.membershipGeneration }

/-- The nodes `_retract_departed_nodes` has to retract. -/
def departedNames (s : NetworkCluster) : List String :=
  ((s.scope.nodes.rows.filter fun row => !row.present && !((s.coverage.get row.nodeName).any (·.handled))).map
    (·.nodeName)).insertionSort fun a b => ¬ b < a

/-- `_retract_departed_nodes`, with the number of nodes retracted. -/
def retractDepartedNodes (s : NetworkCluster) (now : Time) : NetworkCluster × Nat :=
  if departureRefused s.scope then (s, 0)
  else ((departedNames s).foldl (retractDeparted now) s, (departedNames s).length)

/-! ## Reading -/

inductive NodeNetworkReadStatus
  | missing | current | failed | notPublished
deriving DecidableEq

/-- `NodeInterfaceRead`: the row, and whether it is of the generation last completed. -/
structure NodeInterfaceRead extends ClusterNodeInterface where
  current : Bool

structure NodeNetworkRead where
  nodeName : String
  status : NodeNetworkReadStatus
  coverage : Option NodeCoverage
  interfaces : List NodeInterfaceRead

/-- `_node_network_read`. -/
def nodeNetworkRead (name : String) (coverage : Option NodeCoverage) (rows : List ClusterNodeInterface) (published : Bool) :
    NodeNetworkRead :=
  if !published then ⟨name, .notPublished, coverage, []⟩
  else
    let status := match coverage with
      | none => .missing
      | some c => if !c.complete then .failed else .current
    let generation := (coverage.map (·.generation)).getD 0
    ⟨name, status, coverage, rows.map fun r => ⟨r, generation != 0 && r.observedGeneration == generation⟩⟩

/-- `attachable_bridges`. -/
def NodeNetworkRead.attachableBridges (r : NodeNetworkRead) : List String :=
  if r.status ≠ .current then []
  else ((r.interfaces.filter fun i => i.attachable && i.present && !i.unreachable && i.current).map (·.iface)).insertionSort
    fun a b => ¬ b < a

/-- What `read_node_networks` gives of one node. -/
def NetworkCluster.network (s : NetworkCluster) (name : String) : NodeNetworkRead :=
  nodeNetworkRead name (s.coverage.get name) (s.interfaces.rows.filter fun r => r.nodeName == name)
    (s.enrollment.publishes name)

end PveHelper.Nodes
