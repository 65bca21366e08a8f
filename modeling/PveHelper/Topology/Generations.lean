/-
The membership generation over whole sequences of refreshes. A complete refresh writes
the state row, every node row and the coverage row as one generation; one that no
endpoint answers writes three columns of the coverage row; one that is not acquirable
writes nothing. So the members by which the next observer is judged
(`acceptedMembers`) are the nodes of the last complete refresh.
-/
import PveHelper.Topology.RoleMachine

namespace PveHelper.Topology

open Lib

structure MembershipRefreshResult where
  generation : Nat
  complete : Bool
  errorCode : String
  observedFrom : String := ""
  attempts : List MembershipEndpointAttempt := []
  roleDecision : Option RoleDecision := none

/-- `refresh_cluster_membership`; an exception rolls its transaction back. -/
def refreshClusterMembership (s : Scope) (endpoints : List (String × EndpointAnswer)) (now : Time) :
    Except String (Scope × MembershipRefreshResult) :=
  match refreshRead s endpoints now with
  | .zeroCall code => .ok (s, { generation := s.row.membershipGeneration, complete := false, errorCode := code })
  | .incomplete s' generation code observedFrom attempts =>
    .ok (s', { generation := generation, complete := false, errorCode := code, observedFrom := observedFrom, attempts := attempts })
  | .complete p attempts =>
    match publishComplete s p.normalized p.decision now with
    | .error e => .error e
    | .ok (s', generation, code) =>
      .ok (s', { generation := generation, complete := true, errorCode := code, observedFrom := p.normalized.observedFrom
                 attempts := attempts, roleDecision := some p.decision })

/-! ## The names of an answer -/

theorem readNodeRow_name {row : Fields} {names : List String} {x : MembershipNodeObservation × Bool}
    (h : readNodeRow row names = .ok x) : x.1.nodeName ∉ names := by
  simp only [readNodeRow, bind, Except.bind] at h
  repeat' split at h
  all_goals first | (cases h; done) | skip
  all_goals
    rename_i hfree
    cases h
    simp_all

theorem readNodeRows_names {rows : List Fields} {names : List String} {read : List (MembershipNodeObservation × Bool)}
    (h : readNodeRows rows names = .ok read) :
    (read.map (·.1.nodeName)).Nodup ∧ ∀ x ∈ read, x.1.nodeName ∉ names := by
  induction rows generalizing names read with
  | nil =>
    cases h
    simp
  | cons row rows ih =>
    simp only [readNodeRows, bind, Except.bind] at h
    split at h
    · cases h
    rename_i x hx
    split at h
    · cases h
    rename_i rest hrest
    cases h
    obtain ⟨hnodup, hfresh⟩ := ih hrest
    refine ⟨List.nodup_cons.mpr ⟨fun hin => ?_, hnodup⟩, fun y hy => ?_⟩
    · obtain ⟨y, hy, hname⟩ := List.mem_map.mp hin
      exact hfresh y hy (hname ▸ List.mem_cons_self ..)
    · rcases List.mem_cons.mp hy with rfl | hy
      · exact readNodeRow_name hx
      · exact fun hin => hfresh y hy (List.mem_cons_of_mem _ hin)

theorem sortedByName_nodup {nodes : List MembershipNodeObservation} (h : (nodes.map (·.nodeName)).Nodup) :
    ((sortedByName nodes).map (·.nodeName)).Nodup :=
  ((List.perm_insertionSort _ nodes).map _).nodup_iff.mpr h

/-- No answer names a node twice. -/
theorem normalizeClusterStatus_nodup {payload : Json} {n : NormalizedMembership}
    (h : normalizeClusterStatus payload = .ok n) : (n.nodes.map (·.nodeName)).Nodup := by
  simp only [normalizeClusterStatus, bind, Except.bind] at h
  repeat' split at h
  all_goals first | (cases h; done) | skip
  all_goals
    cases h
    refine sortedByName_nodup ?_
    rw [List.map_map]
    apply And.left
    exact readNodeRows_names (by assumption)

/-! ## One generation -/

section
variable {s s' : Scope} {n : NormalizedMembership} {d : RoleDecision} {now : Time}

/-- The loop over the observed nodes writes their rows, at the generation, and no other. -/
theorem publishNodes_get (generation : Nat) (now : Time) (items : List MembershipNodeObservation)
    (nodes : Table ClusterNodeState.nodeName) (k : String) :
    (k ∈ items.map (·.nodeName) → ∃ row, (items.foldl (publishNode generation now) nodes).get k = some row ∧
      row.present = true ∧ row.membershipGeneration = generation) ∧
    (k ∉ items.map (·.nodeName) → (items.foldl (publishNode generation now) nodes).get k = nodes.get k) := by
  induction items generalizing nodes with
  | nil => exact ⟨fun h => absurd h List.not_mem_nil, fun _ => rfl⟩
  | cons item items ih =>
    simp only [List.foldl_cons, List.map_cons, List.mem_cons, not_or]
    obtain ⟨hin, hout⟩ := ih (publishNode generation now nodes item)
    refine ⟨fun h => ?_, fun h => ?_⟩
    · by_cases hk : k ∈ items.map (·.nodeName)
      · exact hin hk
      · have heq : k = item.nodeName := h.resolve_right hk
        rw [hout hk, publishNode, Table.get_put, if_pos heq]
        exact ⟨_, rfl, rfl, rfl⟩
    · rw [hout h.2, publishNode, Table.get_put, if_neg h.1]

/-- What one complete refresh leaves: one generation, over every row. -/
structure WholeGeneration (s s' : Scope) (n : NormalizedMembership) (now : Time) : Prop where
  next : s'.row.membershipGeneration = s.row.membershipGeneration + 1
  stamped : ∀ k row, s'.nodes.get k = some row → row.membershipGeneration = s'.row.membershipGeneration
  present : ∀ k, (∃ row, s'.nodes.get k = some row ∧ row.present = true) ↔ k ∈ n.nodes.map (·.nodeName)
  kept : ∀ k, (s.nodes.get k).isSome = true → (s'.nodes.get k).isSome = true
  counted : s'.row.memberCount = (s'.nodes.rows.filter (·.present)).length
  covered : ∃ c, s'.coverage = some c ∧ c.complete = true ∧ c.generation = s'.row.membershipGeneration ∧ c.observedAt = some now

/-- The node rows that a complete refresh leaves. -/
def publishedNodes (nodes : Table ClusterNodeState.nodeName) (items : List MembershipNodeObservation) (generation : Nat)
    (now : Time) : Table ClusterNodeState.nodeName :=
  (items.foldl (publishNode generation now) nodes).updateWhere
    (fun row => !(items.map (·.nodeName)).contains row.nodeName) (absentNode generation) (absentNode_nodeName generation)

theorem publishedNodes_stamped {nodes : Table ClusterNodeState.nodeName} {items : List MembershipNodeObservation}
    {generation : Nat} {k : String} {row : ClusterNodeState}
    (h : (publishedNodes nodes items generation now).get k = some row) :
    row.membershipGeneration = generation ∧ (row.present = true ↔ k ∈ items.map (·.nodeName)) := by
  rw [publishedNodes, Table.get_updateWhere, Option.map_eq_some_iff] at h
  obtain ⟨row₀, hrow₀, rfl⟩ := h
  have hname : row₀.nodeName = k := Table.key_of_get hrow₀
  by_cases hk : k ∈ items.map (·.nodeName)
  · obtain ⟨row', hrow', hpresent, hstamp⟩ := (publishNodes_get generation now items nodes k).1 hk
    rw [hrow₀] at hrow'
    cases hrow'
    have hkept : (!(items.map (·.nodeName)).contains row₀.nodeName) = false := by
      rw [hname]
      simpa using hk
    rw [hkept]
    exact ⟨hstamp, iff_of_true hpresent hk⟩
  · have habsent : (!(items.map (·.nodeName)).contains row₀.nodeName) = true := by
      rw [hname]
      simpa using hk
    rw [habsent]
    exact ⟨rfl, iff_of_false Bool.false_ne_true hk⟩

/-- Observed nodes have a row, and no row is lost. -/
theorem publishedNodes_isSome {nodes : Table ClusterNodeState.nodeName} {items : List MembershipNodeObservation}
    {generation : Nat} {k : String} (h : k ∈ items.map (·.nodeName) ∨ (nodes.get k).isSome = true) :
    ((publishedNodes nodes items generation now).get k).isSome = true := by
  rw [publishedNodes, Table.get_updateWhere, Option.isSome_map]
  by_cases hin : k ∈ items.map (·.nodeName)
  · obtain ⟨row, hget, -, -⟩ := (publishNodes_get generation now items nodes k).1 hin
    exact Option.isSome_iff_exists.mpr ⟨row, hget⟩
  · rw [(publishNodes_get generation now items nodes k).2 hin]
    exact h.resolve_left hin

theorem publishedNodes_present {nodes : Table ClusterNodeState.nodeName} {items : List MembershipNodeObservation}
    {generation : Nat} (k : String) :
    (∃ row, (publishedNodes nodes items generation now).get k = some row ∧ row.present = true) ↔
      k ∈ items.map (·.nodeName) := by
  constructor
  · intro h
    obtain ⟨row, hget, hpresent⟩ := h
    exact (publishedNodes_stamped hget).2.mp hpresent
  · intro hk
    have hsome : ((publishedNodes nodes items generation now).get k).isSome = true := publishedNodes_isSome (.inl hk)
    obtain ⟨row, hget⟩ := Option.isSome_iff_exists.mp hsome
    exact ⟨row, hget, (publishedNodes_stamped hget).2.mpr hk⟩

/-- As many rows are present as nodes were observed. -/
theorem present_length {nodes : Table ClusterNodeState.nodeName} {names : List String} (hnodup : names.Nodup)
    (h : ∀ k, (∃ row, nodes.get k = some row ∧ row.present = true) ↔ k ∈ names) :
    (nodes.rows.filter (·.present)).length = names.length := by
  have hnodup' : ((nodes.rows.filter (·.present)).map (·.nodeName)).Nodup :=
    nodes.unique.sublist (List.filter_sublist.map _)
  rw [← List.length_map (f := (·.nodeName)), ((List.perm_ext_iff_of_nodup hnodup' hnodup).mpr ?_).length_eq]
  intro k
  rw [← h k, List.mem_map]
  constructor
  · intro hk
    obtain ⟨row, hrow, rfl⟩ := hk
    obtain ⟨hrow, hpresent⟩ := List.mem_filter.mp hrow
    exact ⟨row, Table.get_of_mem hrow, hpresent⟩
  · intro hk
    obtain ⟨row, hrow, hpresent⟩ := hk
    exact ⟨row, List.mem_filter.mpr ⟨Table.mem_of_get hrow, hpresent⟩, Table.key_of_get hrow⟩

theorem publishComplete_nodes {generation : Nat} {code : String}
    (h : publishComplete s n d now = .ok (s', generation, code)) :
    s'.nodes = publishedNodes s.nodes n.nodes (s.row.membershipGeneration + 1) now ∧
      s'.row.membershipGeneration = s.row.membershipGeneration + 1 ∧ s'.row.memberCount = n.nodes.length ∧
      s'.coverage = some ⟨s.row.membershipGeneration + 1, true, some now, some now, code⟩ := by
  simp only [publishComplete, bind, Except.bind] at h
  split at h
  · cases h
  cases h
  exact ⟨rfl, rfl, rfl, rfl⟩

theorem publishComplete_whole (hnodup : (n.nodes.map (·.nodeName)).Nodup) {generation : Nat} {code : String}
    (h : publishComplete s n d now = .ok (s', generation, code)) : WholeGeneration s s' n now := by
  obtain ⟨hnodes, hgeneration, hcount, hcoverage⟩ := publishComplete_nodes h
  refine ⟨hgeneration, fun k row hget => ?_, fun k => ?_, fun k hk => ?_, ?_, ⟨_, hcoverage, rfl, hgeneration.symm, rfl⟩⟩
  · rw [hnodes] at hget
    rw [hgeneration]
    exact (publishedNodes_stamped hget).1
  · rw [hnodes]
    exact publishedNodes_present k
  · rw [hnodes]
    exact publishedNodes_isSome (.inr hk)
  · rw [hcount, hnodes, present_length hnodup publishedNodes_present, List.length_map]

end

/-! ## What a refresh does -/

/-- The answer an endpoint's body gives, when it is a complete one by an observer that
may speak for the scope. -/
def acceptableAnswer (accepted : List String) : EndpointAnswer → Option NormalizedMembership
  | .failed _ => none
  | .body payload =>
    match normalizeClusterStatus payload with
    | .error _ => none
    | .ok n => if (n.observation accepted).speaksForTheScope then some n else none

/-- The refresh goes on with the first acceptable answer. -/
theorem askEndpoints_findSome (accepted : List String) (endpoints : List (String × EndpointAnswer)) :
    (askEndpoints accepted endpoints).answer =
      (endpoints.findSome? fun e => acceptableAnswer accepted e.2).map fun n => (n, n.observation accepted) := by
  induction endpoints with
  | nil => rfl
  | cons e rest ih =>
    obtain ⟨name, answer⟩ := e
    cases answer with
    | failed error => exact ih
    | body payload =>
      cases hn : normalizeClusterStatus payload with
      | error text =>
        simp only [askEndpoints, acceptableAnswer, hn, List.findSome?_cons]
        exact ih
      | ok n =>
        cases hspeaks : (n.observation accepted).speaksForTheScope with
        | false =>
          simp only [askEndpoints, acceptableAnswer, hn, hspeaks, List.findSome?_cons, Bool.not_false, if_true,
            Bool.false_eq_true, if_false]
          exact ih
        | true =>
          simp only [askEndpoints, acceptableAnswer, hn, hspeaks, List.findSome?_cons, Bool.not_true, if_true,
            Bool.false_eq_true, if_false, Option.map_some]

theorem acceptableAnswer_nodup {accepted : List String} {answer : EndpointAnswer} {n : NormalizedMembership}
    (h : acceptableAnswer accepted answer = some n) :
    (n.nodes.map (·.nodeName)).Nodup ∧ (n.observation accepted).speaksForTheScope = true := by
  cases answer with
  | failed error => cases h
  | body payload =>
    simp only [acceptableAnswer] at h
    split at h
    · cases h
    · rename_i m hm
      split at h
      · rename_i hspeaks
        cases h
        exact ⟨normalizeClusterStatus_nodup hm, hspeaks⟩
      · cases h

/-- No provider is asked for the cluster. -/
def Scope.closed (s : Scope) (endpoints : List (String × EndpointAnswer)) : Bool :=
  s.retired || !s.enabled || s.ingestionQuarantined || endpoints.isEmpty

theorem refreshRead_cases (s : Scope) (endpoints : List (String × EndpointAnswer)) (now : Time) :
    if s.closed endpoints then ∃ code, refreshRead s endpoints now = .zeroCall code
    else match endpoints.findSome? fun e => acceptableAnswer (acceptedMembers s) e.2 with
      | none => ∃ code observedFrom attempts, refreshRead s endpoints now =
          .incomplete (publishIncomplete s now code).1 (publishIncomplete s now code).2 code observedFrom attempts
      | some n => ∃ attempts, refreshRead s endpoints now =
          .complete ⟨n, n.observation (acceptedMembers s), decideRole s (n.observation (acceptedMembers s))⟩ attempts := by
  have hanswer := askEndpoints_findSome (acceptedMembers s) endpoints
  unfold Scope.closed refreshRead
  cases s.retired with
  | true => exact ⟨_, rfl⟩
  | false =>
    cases s.enabled with
    | false => exact ⟨_, rfl⟩
    | true =>
      cases s.ingestionQuarantined with
      | true => exact ⟨_, rfl⟩
      | false =>
        cases endpoints.isEmpty with
        | true => exact ⟨_, rfl⟩
        | false =>
          simp only [Bool.not_true, Bool.or_false, Bool.false_eq_true, if_false]
          rw [hanswer]
          cases endpoints.findSome? fun e => acceptableAnswer (acceptedMembers s) e.2 with
          | none => exact ⟨_, _, _, rfl⟩
          | some n => exact ⟨_, rfl⟩

/-- Only the coverage row's `complete`, `attempted_at` and `error_code` differ; a missing
row counts as one with the column defaults. -/
structure OnlyAttempt (s s' : Scope) : Prop where
  state : s'.state = s.state
  nodes : s'.nodes = s.nodes
  generation : (s'.coverage.getD {}).generation = (s.coverage.getD {}).generation
  observedAt : (s'.coverage.getD {}).observedAt = (s.coverage.getD {}).observedAt
  failed : (s'.coverage.getD {}).complete = false

/-- What one refresh of a cluster does, by what it is given. -/
def RefreshEffect (s : Scope) (endpoints : List (String × EndpointAnswer)) (now : Time) (s' : Scope)
    (result : MembershipRefreshResult) : Prop :=
  if s.closed endpoints then result.complete = false ∧ s' = s
  else match endpoints.findSome? fun e => acceptableAnswer (acceptedMembers s) e.2 with
    | none => result.complete = false ∧ OnlyAttempt s s'
    | some n => result.complete = true ∧ WholeGeneration s s' n now

/-- A refresh of coherent rows does not raise. -/
theorem refreshClusterMembership_effect {s : Scope} (hrow : RowOk s.row) (endpoints : List (String × EndpointAnswer))
    (now : Time) : ∃ s' result, refreshClusterMembership s endpoints now = .ok (s', result) ∧ RowOk s'.row ∧
      RefreshEffect s endpoints now s' result := by
  have hcases := refreshRead_cases s endpoints now
  unfold RefreshEffect
  by_cases hclosed : s.closed endpoints = true
  · rw [if_pos hclosed] at hcases
    obtain ⟨code, hread⟩ := hcases
    simp only [refreshClusterMembership, hread, if_pos hclosed]
    exact ⟨_, _, rfl, hrow, rfl, rfl⟩
  · rw [if_neg hclosed] at hcases
    simp only [if_neg hclosed]
    cases hfind : endpoints.findSome? fun e => acceptableAnswer (acceptedMembers s) e.2 with
    | none =>
      rw [hfind] at hcases
      obtain ⟨code, observedFrom, attempts, hread⟩ := hcases
      simp only [refreshClusterMembership, hread]
      exact ⟨_, _, rfl, hrow, rfl, rfl, rfl, rfl, rfl, rfl⟩
    | some n =>
      rw [hfind] at hcases
      obtain ⟨attempts, hread⟩ := hcases
      obtain ⟨e, he, haccept⟩ := List.exists_of_findSome?_eq_some hfind
      obtain ⟨hnodup, hspeaks⟩ := acceptableAnswer_nodup haccept
      have hpass := refreshRead_pass hrow hread
      obtain ⟨s', generation, code, hpublish, hpub⟩ := publishComplete_spec (n := n) hrow hpass.concrete hpass.decision now
      simp only [refreshClusterMembership, hread, hpublish]
      exact ⟨_, _, rfl, hpub.rowOk hrow, rfl, publishComplete_whole hnodup hpublish⟩

/-! ## Sequences of refreshes -/

/-- The cluster with the node names of its last complete refresh. -/
structure MembershipSys where
  scope : Scope
  last : List String

inductive MembershipAction
  | flags (retired enabled quarantined : Bool)
  | refresh (endpoints : List (String × EndpointAnswer)) (now : Time)

/-- The names a refresh observes, when it is complete. -/
def observedNames (s : Scope) (endpoints : List (String × EndpointAnswer)) : Option (List String) :=
  if s.closed endpoints then none
  else (endpoints.findSome? fun e => acceptableAnswer (acceptedMembers s) e.2).map fun n => n.nodes.map (·.nodeName)

def membershipStep (s : MembershipSys) : MembershipAction → Option MembershipSys
  | .flags retired enabled quarantined =>
    some { s with scope := { s.scope with retired := retired, enabled := enabled, ingestionQuarantined := quarantined } }
  | .refresh endpoints now =>
    match refreshClusterMembership s.scope endpoints now with
    | .error _ => some s
    | .ok (scope, _) => some ⟨scope, (observedNames s.scope endpoints).getD s.last⟩

/-- Nothing was published of the cluster yet. -/
structure Unpublished (s : MembershipSys) : Prop where
  state : s.scope.state = none
  coverage : s.scope.coverage = none
  last : s.last = []

structure MembershipInv (s : MembershipSys) : Prop where
  row : RowOk s.scope.row
  accepted : ∀ name, name ∈ acceptedMembers s.scope ↔ name ∈ s.last

theorem Unpublished.inv {s : MembershipSys} (h : Unpublished s) : MembershipInv s where
  row := by
    rw [Scope.row, h.state]
    exact rowOk_default
  accepted := by
    intro name
    rw [acceptedMembers, h.state, h.last]

theorem mem_acceptedMembers {s : Scope} {name : String} : name ∈ acceptedMembers s ↔
    ∃ st c row, s.state = some st ∧ s.coverage = some c ∧ c.observedAt.isSome = true ∧ s.nodes.get name = some row ∧
      row.present = true ∧ row.membershipGeneration = st.membershipGeneration := by
  unfold acceptedMembers
  cases hst : s.state with
  | none => simp
  | some st =>
    cases hc : s.coverage with
    | none => simp
    | some c =>
      cases hobserved : c.observedAt with
      | none => simp [hobserved]
      | some t =>
        simp only [hobserved, Option.isNone_some, Bool.false_eq_true, if_false, List.mem_map, List.mem_filter,
          Bool.and_eq_true, beq_iff_eq]
        constructor
        · intro h
          obtain ⟨row, ⟨hrow, hpresent, hstamp⟩, rfl⟩ := h
          exact ⟨st, c, row, rfl, rfl, by rw [hobserved]; rfl, Table.get_of_mem hrow, hpresent, hstamp⟩
        · intro h
          obtain ⟨st', c', row, hst', -, -, hrow, hpresent, hstamp⟩ := h
          cases hst'
          exact ⟨row, ⟨Table.mem_of_get hrow, hpresent, hstamp⟩, Table.key_of_get hrow⟩

/-- After a complete refresh its nodes are the accepted members. -/
theorem WholeGeneration.accepted {s s' : Scope} {n : NormalizedMembership} {now : Time} (h : WholeGeneration s s' n now)
    (name : String) : name ∈ acceptedMembers s' ↔ name ∈ n.nodes.map (·.nodeName) := by
  rw [← h.present name, mem_acceptedMembers]
  constructor
  · intro hmem
    obtain ⟨-, -, row, -, -, -, hrow, hpresent, -⟩ := hmem
    exact ⟨row, hrow, hpresent⟩
  · intro hmem
    obtain ⟨row, hrow, hpresent⟩ := hmem
    obtain ⟨c, hc, -, -, hobserved⟩ := h.covered
    cases hst : s'.state with
    | none =>
      have hnext := h.next
      simp [Scope.row, hst] at hnext
    | some st =>
      have hstamp := h.stamped name row hrow
      rw [Scope.row, hst] at hstamp
      exact ⟨st, c, row, rfl, hc, by rw [hobserved]; rfl, hrow, hpresent, hstamp⟩

theorem OnlyAttempt.accepted {s s' : Scope} (h : OnlyAttempt s s') (name : String) :
    name ∈ acceptedMembers s' ↔ name ∈ acceptedMembers s := by
  have hcovered : ∀ {s s' : Scope}, (s'.coverage.getD {}).observedAt = (s.coverage.getD {}).observedAt →
      (∃ c, s'.coverage = some c ∧ c.observedAt.isSome = true) → ∃ c, s.coverage = some c ∧ c.observedAt.isSome = true := by
    intro s s' heq hc
    obtain ⟨c', hc', hobserved⟩ := hc
    rw [hc', Option.getD_some] at heq
    rw [heq] at hobserved
    cases hc : s.coverage with
    | none =>
      rw [hc] at hobserved
      cases hobserved
    | some c =>
      rw [hc] at hobserved
      exact ⟨c, rfl, hobserved⟩
  rw [mem_acceptedMembers, mem_acceptedMembers, h.state, h.nodes]
  constructor
  · intro hmem
    obtain ⟨st, c, row, hst, hc, hobserved, hrow⟩ := hmem
    obtain ⟨c₀, hc₀, hobserved₀⟩ := hcovered h.observedAt ⟨c, hc, hobserved⟩
    exact ⟨st, c₀, row, hst, hc₀, hobserved₀, hrow⟩
  · intro hmem
    obtain ⟨st, c, row, hst, hc, hobserved, hrow⟩ := hmem
    obtain ⟨c₀, hc₀, hobserved₀⟩ := hcovered h.observedAt.symm ⟨c, hc, hobserved⟩
    exact ⟨st, c₀, row, hst, hc₀, hobserved₀, hrow⟩

theorem membershipStep_inv {s s' : MembershipSys} {a : MembershipAction} (hinv : MembershipInv s)
    (h : membershipStep s a = some s') : MembershipInv s' := by
  cases a with
  | flags retired enabled quarantined =>
    cases h
    exact ⟨hinv.row, hinv.accepted⟩
  | refresh endpoints now =>
    obtain ⟨scope, result, hok, hrow, heffect⟩ := refreshClusterMembership_effect hinv.row endpoints now
    simp only [membershipStep, hok] at h
    cases h
    refine ⟨hrow, fun name => ?_⟩
    unfold RefreshEffect at heffect
    unfold observedNames
    by_cases hclosed : s.scope.closed endpoints = true
    · rw [if_pos hclosed] at heffect ⊢
      rw [heffect.2]
      exact hinv.accepted name
    · rw [if_neg hclosed] at heffect ⊢
      cases hfind : endpoints.findSome? fun e => acceptableAnswer (acceptedMembers s.scope) e.2 with
      | none =>
        rw [hfind] at heffect
        exact (heffect.2.accepted name).trans (hinv.accepted name)
      | some n =>
        rw [hfind] at heffect
        exact heffect.2.accepted name

/-- **Membership generations are whole.** After any sequence of refreshes and changes of the
cluster's flags, the accepted members are the nodes of the last complete refresh, and the
next refresh, whatever it is given, writes nothing (retired, disabled, quarantined or no
endpoint), or the coverage row's attempt alone (no acceptable answer), or one whole
generation. -/
theorem membershipGenerations_whole {s : MembershipSys} (h : Reachable membershipStep Unpublished s)
    (endpoints : List (String × EndpointAnswer)) (now : Time) :
    (∀ name, name ∈ acceptedMembers s.scope ↔ name ∈ s.last) ∧
      ∃ s' result, refreshClusterMembership s.scope endpoints now = .ok (s', result) ∧
        RefreshEffect s.scope endpoints now s' result := by
  have hinv : MembershipInv s := h.inv (fun _ h₀ => h₀.inv) membershipStep_inv
  obtain ⟨s', result, hok, -, heffect⟩ := refreshClusterMembership_effect hinv.row endpoints now
  exact ⟨hinv.accepted, s', result, hok, heffect⟩

/-- A cluster just added. -/
def addedCluster : MembershipSys where
  scope := ⟨"lab", false, true, false, none, .empty, none, []⟩
  last := []

/-- The `cluster/status` body of a standalone node. -/
def standaloneStatus : Json :=
  .arr [.obj [("type", .str "node"), ("name", .str "pve1"), ("nodeid", .int 0), ("online", .int 1), ("local", .int 1)]]

/-- The `cluster/status` body of two nodes, the first of which answers. -/
def pairStatus (other : String) : Json :=
  .arr [.obj [("type", .str "cluster"), ("name", .str "lab"), ("nodes", .int 2), ("quorate", .int 1)],
    .obj [("type", .str "node"), ("name", .str "pve1"), ("nodeid", .int 1), ("online", .int 1), ("local", .int 1)],
    .obj [("type", .str "node"), ("name", .str other), ("nodeid", .int 2), ("online", .int 1), ("local", .int 0)]]

/-- Two nodes, an unanswered refresh, and one of the nodes replaced. -/
def pairRefreshes : List MembershipAction :=
  [.refresh [("a", .body (pairStatus "pve2"))] 1, .refresh [("a", .failed (.transport true))] 2,
    .refresh [("a", .body (pairStatus "pve3"))] 3]

theorem membershipGenerations_pair : ∃ s, run membershipStep addedCluster pairRefreshes = some s ∧
    s.last = ["pve1", "pve3"] ∧ (∀ name, name ∈ acceptedMembers s.scope ↔ name ∈ s.last) := by
  refine ⟨_, rfl, by decide +kernel, ?_⟩
  exact (membershipGenerations_whole ⟨addedCluster, pairRefreshes, ⟨rfl, rfl, rfl⟩, rfl⟩ [] 4).1

end PveHelper.Topology
