/-
The standalone/corosync role transition as pure functions, after
`core/services/cluster_topology_role.py`: an observation classifies a role or
nothing, and `evaluateRoleTransition` says what it means for the registered
role and for a hand-off a previous observation opened.
-/
import Mathlib.Data.List.Basic

namespace PveHelper.Topology

inductive TopologyRole
  | standalone | corosync | unknown
deriving DecidableEq, Repr

/-- The enumeration's text, as the columns store it. -/
def TopologyRole.value : TopologyRole → String
  | .standalone => "standalone"
  | .corosync => "corosync"
  | .unknown => "unknown"

theorem TopologyRole.value_injective {a b : TopologyRole} (h : a.value = b.value) : a = b := by
  cases a <;> cases b <;> first | rfl | exact absurd h (by decide)

/-- `TopologyRole(text)`; nothing for a text this build cannot read. -/
def TopologyRole.ofText (text : String) : Option TopologyRole :=
  if text = "standalone" then some .standalone
  else if text = "corosync" then some .corosync
  else if text = "unknown" then some .unknown
  else none

@[simp] theorem TopologyRole.ofText_value (r : TopologyRole) : ofText r.value = some r := by
  cases r <;> rfl

theorem TopologyRole.ofText_eq_some {text : String} {r : TopologyRole} (h : ofText text = some r) :
    text = r.value := by
  unfold ofText at h
  split at h
  · cases h; assumption
  split at h
  · cases h; assumption
  split at h
  · cases h; assumption
  · cases h

inductive RoleTransition
  | stable | adopted | transitionPending | transitionWithdrawn | indeterminate | observerNotAMember
deriving DecidableEq, Repr

/-- One normalized membership read. -/
structure MembershipObservation where
  complete : Bool
  hasClusterRow : Bool
  memberCount : Nat
  quorate : Bool
  observedFrom : String
  acceptedMembers : List String

/-- `speaks_for_the_scope`. -/
def MembershipObservation.speaksForTheScope (o : MembershipObservation) : Bool :=
  if o.acceptedMembers.isEmpty || o.observedFrom = "" then true else o.acceptedMembers.contains o.observedFrom

structure RoleDecision where
  transition : RoleTransition
  role : TopologyRole
  previousRole : TopologyRole
  pendingRole : TopologyRole
  reason : String

/-- `RoleDecision.transition_pending`. -/
def RoleDecision.isPending (d : RoleDecision) : Bool := decide (d.pendingRole ≠ .unknown)

def classifyRole (o : MembershipObservation) : TopologyRole :=
  if !o.complete || !o.speaksForTheScope then .unknown
  else if o.hasClusterRow then .corosync else .standalone

/-- The reason both pending verdicts give. -/
def pendingReason (stored observed : TopologyRole) : String :=
  "This scope is registered as " ++ stored.value ++ " but is observed as " ++ observed.value ++
    ". Provider work is blocked until the identity hand-off is confirmed."

def evaluateRoleTransition (stored : TopologyRole) (o : MembershipObservation) (pending : TopologyRole) :
    RoleDecision :=
  let observed := classifyRole o
  if observed = .unknown then
    if !o.speaksForTheScope then
      ⟨.observerNotAMember, stored, stored, pending,
        "The node that answered (" ++ o.observedFrom ++ ") is not a member this scope accepts, so its complete " ++
        "response is not evidence about this scope. Its endpoint is probably stale."⟩
    else
      ⟨.indeterminate, stored, stored, pending,
        "Membership coverage is incomplete; the previous role is preserved as stale."⟩
  else if pending ≠ .unknown then
    if observed = stored then
      ⟨.transitionWithdrawn, stored, stored, .unknown,
        "The pending transition toward " ++ pending.value ++ " was withdrawn: this scope is observed as " ++
        stored.value ++ " again, which is what it is registered as. Provider work is no longer blocked."⟩
    else
      -- The target already opened is kept, not the role just observed.
      ⟨.transitionPending, stored, stored, pending, pendingReason stored observed⟩
  else if stored = .unknown then ⟨.adopted, observed, stored, .unknown, ""⟩
  else if observed = stored then ⟨.stable, observed, stored, .unknown, ""⟩
  else ⟨.transitionPending, stored, stored, observed, pendingReason stored observed⟩

/-- `resolve_transition`: the decision a confirmed hand-off concludes with. -/
def resolveTransition (d : RoleDecision) (confirmed : TopologyRole) : Except String RoleDecision :=
  if !d.isPending then .error "Only a transition-pending decision can be resolved by a hand-off."
  else if confirmed = .unknown then .error "A hand-off must confirm a concrete role."
  else if confirmed ≠ d.pendingRole then
    .error ("This scope is pending toward " ++ d.pendingRole.value ++ "; a hand-off cannot confirm " ++
      confirmed.value ++ " instead.")
  else .ok ⟨.adopted, confirmed, d.previousRole, .unknown, ""⟩

/-- What a decision on an observation of a concrete role can be, and when. -/
inductive Verdict (stored observed pending : TopologyRole) : RoleDecision → Prop
  | adopted : stored = .unknown → pending = .unknown → d.transition = .adopted → d.role = observed →
      d.previousRole = stored → Verdict stored observed pending d
  | stable : observed = stored → pending = .unknown → d.transition = .stable → d.role = stored →
      d.previousRole = stored → Verdict stored observed pending d
  | opened : stored ≠ .unknown → observed ≠ stored → pending = .unknown → d.transition = .transitionPending →
      d.role = stored → d.previousRole = stored → d.pendingRole = observed → Verdict stored observed pending d
  | stillOpen : observed ≠ stored → pending ≠ .unknown → d.transition = .transitionPending → d.role = stored →
      d.previousRole = stored → d.pendingRole = pending → Verdict stored observed pending d
  | withdrawn : observed = stored → pending ≠ .unknown → d.transition = .transitionWithdrawn → d.role = stored →
      d.previousRole = stored → d.pendingRole = .unknown → Verdict stored observed pending d

theorem evaluateRoleTransition_verdict {stored pending : TopologyRole} {o : MembershipObservation}
    (h : classifyRole o ≠ .unknown) :
    Verdict stored (classifyRole o) pending (evaluateRoleTransition stored o pending) := by
  simp only [evaluateRoleTransition, if_neg h]
  by_cases hp : pending = .unknown
  · rw [if_neg (by simpa using hp)]
    by_cases hs : stored = .unknown
    · rw [if_pos hs]
      exact .adopted hs hp rfl rfl rfl
    · rw [if_neg hs]
      by_cases ho : classifyRole o = stored
      · rw [if_pos ho]
        exact .stable ho hp rfl ho rfl
      · rw [if_neg ho]
        exact .opened hs ho hp rfl rfl rfl rfl
  · rw [if_pos (by simpa using hp)]
    by_cases ho : classifyRole o = stored
    · rw [if_pos ho]
      exact .withdrawn ho hp rfl rfl rfl rfl
    · rw [if_neg ho]
      exact .stillOpen ho hp rfl rfl rfl rfl

end PveHelper.Topology
