/-
Reading one node through the cluster's endpoints, as the runtime and the network
passes both do: each endpoint not condemned in this sweep is asked in turn until
one answers. `SweepEndpointHealth` is what a sweep has learned of its endpoints.
-/
import PveHelper.Topology.Membership

namespace PveHelper.Nodes

open Lib PveHelper.Topology

/-- What `_provider_error_code` and the readers see of a `ProxmoxAPIError`. -/
inductive NodeReadError
  | invalidResponse
  | transport (timeout requestSent : Bool)
  | api (statusCode causeStatus : Option Int)

/-- `_provider_error_code` of `cluster_node_runtime`. -/
def nodeErrorCode : NodeReadError → String
  | .invalidResponse => "invalid_payload"
  | .transport timeout _ => if timeout then "provider_timeout" else "provider_error"
  | .api statusCode causeStatus =>
    if unauthorizedStatus statusCode || unauthorizedStatus causeStatus then "provider_unauthorized" else "provider_error"

structure SweepEndpointHealth where
  condemned : List String := []
  /-- The run of ambiguous failures of each endpoint; no entry counts as none. -/
  ambiguous : String → Nat := fun _ => 0

namespace SweepEndpointHealth

def isCondemned (h : SweepEndpointHealth) (name : String) : Bool := h.condemned.contains name

def condemn (h : SweepEndpointHealth) (name : String) : SweepEndpointHealth :=
  { h with condemned := name :: h.condemned }

def recordSuccess (h : SweepEndpointHealth) (name : String) : SweepEndpointHealth :=
  { h with ambiguous := Function.update h.ambiguous name 0 }

/-- `record_ambiguous`; an endpoint that was the only usable one is not condemned by it. -/
def recordAmbiguous (h : SweepEndpointHealth) (name : String) (usableCount : Nat) : SweepEndpointHealth :=
  let streak := h.ambiguous name + 1
  let h := { h with ambiguous := Function.update h.ambiguous name streak }
  if 2 ≤ streak && 1 < usableCount then h.condemn name else h

/-- What a failed read tells of its endpoint. -/
def afterFailure (h : SweepEndpointHealth) (name : String) (usableCount : Nat) (e : NodeReadError) : SweepEndpointHealth :=
  match e with
  | .invalidResponse => h
  | .transport _ requestSent => if requestSent then h.recordAmbiguous name usableCount else h.condemn name
  | .api _ _ => if nodeErrorCode e = "provider_unauthorized" then h.condemn name else h

end SweepEndpointHealth

/-- What an endpoint answers to a read. -/
abbrev Answer (β : Type) := Except NodeReadError β

section
variable {β : Type}

/-- The loop over the usable endpoints: the first answer with its endpoint, else the
code of the last failure. -/
def askUsable (usableCount : Nat) : List (String × Answer β) → SweepEndpointHealth → String →
    Except String (String × β) × SweepEndpointHealth
  | [], h, lastCode => (.error lastCode, h)
  | (name, .ok b) :: _, h, _ => (.ok (name, b), h.recordSuccess name)
  | (name, .error e) :: rest, h, _ => askUsable usableCount rest (h.afterFailure name usableCount e) (nodeErrorCode e)

def readUsable (endpoints : List (String × Answer β)) (h : SweepEndpointHealth) :
    Except String (String × β) × SweepEndpointHealth :=
  let usable := endpoints.filter fun e => !h.isCondemned e.1
  if usable.isEmpty then (.error "endpoints_exhausted", h) else askUsable usable.length usable h "provider_error"

/-- The codes of a read that fails. -/
def readErrorCodes : List String :=
  ["endpoints_exhausted", "provider_error", "provider_timeout", "provider_unauthorized", "invalid_payload"]

theorem nodeErrorCode_mem (e : NodeReadError) : nodeErrorCode e ∈ readErrorCodes := by
  cases e with
  | invalidResponse => decide
  | transport timeout requestSent =>
    simp only [nodeErrorCode]
    split <;> decide
  | api statusCode causeStatus =>
    simp only [nodeErrorCode]
    split <;> decide

/-- A read is answered by an endpoint, or fails with a code of its own. -/
theorem askUsable_cases (usableCount : Nat) (endpoints : List (String × Answer β)) (h : SweepEndpointHealth)
    {lastCode : String} (hcode : lastCode ∈ readErrorCodes) :
    (∃ e b, (e, .ok b) ∈ endpoints ∧ (askUsable usableCount endpoints h lastCode).1 = .ok (e, b)) ∨
      ∃ code ∈ readErrorCodes, (askUsable usableCount endpoints h lastCode).1 = .error code := by
  induction endpoints generalizing h lastCode with
  | nil => exact .inr ⟨lastCode, hcode, rfl⟩
  | cons endpoint rest ih =>
    obtain ⟨name, answer⟩ := endpoint
    cases answer with
    | ok b => exact .inl ⟨name, b, List.mem_cons_self .., rfl⟩
    | error e =>
      rcases ih (h.afterFailure name usableCount e) (nodeErrorCode_mem e) with ⟨e', b, hmem, heq⟩ | hfailed
      · exact .inl ⟨e', b, List.mem_cons_of_mem _ hmem, heq⟩
      · exact .inr hfailed

theorem readUsable_cases (endpoints : List (String × Answer β)) (h : SweepEndpointHealth) :
    (∃ e b, (e, .ok b) ∈ endpoints ∧ (readUsable endpoints h).1 = .ok (e, b)) ∨
      ∃ code ∈ readErrorCodes, (readUsable endpoints h).1 = .error code := by
  unfold readUsable
  simp only
  split
  · exact .inr ⟨_, by decide, rfl⟩
  · have hcode : "provider_error" ∈ readErrorCodes := by decide
    rcases askUsable_cases _ (endpoints.filter fun e => !h.isCondemned e.1) h hcode with ⟨e, b, hmem, heq⟩ | hfailed
    · exact .inl ⟨e, b, (List.mem_filter.mp hmem).1, heq⟩
    · exact .inr hfailed

end

end PveHelper.Nodes
