/-
The topology role over whole runs. A refresh holds the cluster's lifecycle
lock from its reads to its publication, so other services do not run in
between; a build this one cannot read may still rewrite the pending column of
an open transition at any moment, the gap between a refresh's decision and its
publication included.

`Inv` ties the stored columns to each other and the decision in flight to the
columns; `applyDecision_spec` says what publishing such a decision writes, and
the theorem at the end reads the role machine off it.
-/
import PveHelper.Lib.Trans
import PveHelper.Topology.Membership

namespace PveHelper.Topology

open Lib

structure TopologySys where
  scope : Scope
  /-- The refresh under way, if any. -/
  pass : Option Pass

inductive TopologyLabel
  | refreshRead (endpoints : List (String × EndpointAnswer)) (attemptedAt : Time)
  | refreshPublish (observedAt : Time)
  /-- The refresh's transaction is rolled back. -/
  | refreshAbort
  /-- Another build rewrites the pending column. -/
  | overwritePending (text : String)
  | configure (enabled quarantined : Bool)
  | recover (payload : Json) (now : Time)
  | repair (typedClusterKey : String)
  | handOff (membershipComplete : Bool) (verifiedRole : TopologyRole) (nodeCount : Nat)

/-- The pending column of an open transition, replaced by another build. -/
def overwritePending (s : Scope) (text : String) : Option Scope :=
  match s.state with
  | none => none
  | some st =>
    -- The database refuses the empty text; a readable one is this build's own.
    if !st.transitionPending || text = "" || (TopologyRole.ofText text).isSome then none
    else some { s with state := some { st with pendingTopologyRole := text } }

/-- A service that raises is rolled back and is no step. -/
def topologyStep (s : TopologySys) (l : TopologyLabel) : Option TopologySys :=
  match l, s.pass with
  | .overwritePending text, _ => (overwritePending s.scope text).map fun sc => { s with scope := sc }
  | .refreshPublish observedAt, some p =>
    match publishComplete s.scope p.normalized p.decision observedAt with
    | .ok (sc, _, _) => some ⟨sc, none⟩
    | .error _ => none
  | .refreshAbort, some _ => some { s with pass := none }
  | .refreshRead endpoints attemptedAt, none =>
    match refreshRead s.scope endpoints attemptedAt with
    | .zeroCall _ => some s
    | .incomplete sc _ _ _ _ => some ⟨sc, none⟩
    | .complete p _ => some ⟨s.scope, some p⟩
  | .configure enabled quarantined, none =>
    some ⟨{ s.scope with enabled := enabled, ingestionQuarantined := quarantined }, none⟩
  | .recover payload now, none =>
    match confirmMembershipRecovery s.scope payload now with
    | .ok sc => some ⟨sc, none⟩
    | .error _ => none
  | .repair typedClusterKey, none =>
    match repairUnreadablePendingTransition s.scope typedClusterKey with
    | .ok sc => some ⟨sc, none⟩
    | .error _ => none
  | .handOff membershipComplete verifiedRole nodeCount, none =>
    match s.scope.state with
    | none => none
    | some st =>
      match pendingDecision st membershipComplete verifiedRole nodeCount with
      | .ok _ => some ⟨retiredScope s.scope, none⟩
      | .error _ => none
  | _, _ => none

/-- The state row, with its defaults while there is none. -/
def Scope.row (s : Scope) : ClusterMembershipState := s.state.getD {}

/-- No membership was ever published. -/
structure Fresh (s : TopologySys) : Prop where
  noState : s.scope.state = none
  noPass : s.pass = none

/-- The complete observation a step publishes. -/
def publishedObservation (s : TopologySys) : TopologyLabel → Option MembershipObservation
  | .refreshPublish _ => s.pass.map (·.observation)
  | .recover payload _ =>
    match normalizeClusterStatus payload with
    | .ok n => some (n.observation [])
    | .error _ => none
  | _ => none

/-! ## The invariant -/

/-- The columns agree with each other, and a transition is pending only away
from a concrete registered role. -/
structure RowOk (st : ClusterMembershipState) : Prop where
  readable : st.topologyRole = st.role.value
  coherent : st.Coherent
  registered : st.transitionPending = true → st.role ≠ .unknown

/-- A target a decision carries over is the open transition's. -/
def PendingTarget (st : ClusterMembershipState) (pending : TopologyRole) : Prop :=
  pending ≠ .unknown → st.transitionPending = true ∧ pending ≠ st.role

/-- A decision that was taken on the row, up to the pending column's text. -/
inductive DecisionOk (st : ClusterMembershipState) (observed : TopologyRole) (d : RoleDecision) : Prop
  | kept : d.transition = .indeterminate → st.transitionPending = true → st.pendingRoleIsReadable = false →
      DecisionOk st observed d
  | decided (pending : TopologyRole) : PendingTarget st pending → Verdict st.role observed pending d →
      DecisionOk st observed d

structure PassOk (st : ClusterMembershipState) (p : Pass) : Prop where
  complete : p.observation.complete = true
  concrete : classifyRole p.observation ≠ .unknown
  decision : DecisionOk st (classifyRole p.observation) p.decision

structure Inv (s : TopologySys) : Prop where
  row : RowOk s.scope.row
  pass : ∀ p, s.pass = some p → PassOk s.scope.row p

theorem rowOk_default : RowOk {} := ⟨rfl, .inl ⟨rfl, rfl⟩, by simp⟩

theorem Fresh.inv {s : TopologySys} (h : Fresh s) : Inv s :=
  ⟨by rw [Scope.row, h.noState]; exact rowOk_default, by simp [h.noPass]⟩

/-- The stored pending target, where it can be read, is the open transition's. -/
theorem RowOk.pendingTarget {st : ClusterMembershipState} (h : RowOk st) : PendingTarget st st.pendingRole := by
  intro hne
  rcases h.coherent with ⟨-, ht⟩ | ⟨hp, -, -, hdiff⟩
  · exact absurd (by simp [ClusterMembershipState.pendingRole, ht, TopologyRole.ofText]) hne
  · refine ⟨hp, ?_⟩
    intro he
    cases hof : TopologyRole.ofText st.pendingTopologyRole with
    | none => exact hne (by simp [ClusterMembershipState.pendingRole, hof])
    | some r =>
      have hrole : st.pendingRole = r := by simp [ClusterMembershipState.pendingRole, hof]
      rw [TopologyRole.ofText_eq_some hof, ← hrole, he] at hdiff
      exact hdiff h.readable.symm

/-! ## What a publication writes -/

/-- The role columns of two rows agree. -/
structure SameRole (st st' : ClusterMembershipState) : Prop where
  role : st'.topologyRole = st.topologyRole
  pending : st'.transitionPending = st.transitionPending
  target : st'.pendingTopologyRole = st.pendingTopologyRole

/-- The role columns after publishing an observation of the role `observed`. -/
inductive Published (st : ClusterMembershipState) (observed : TopologyRole) (st' : ClusterMembershipState) : Prop
  | same : SameRole st st' → Published st observed st'
  | adopted : st.role = .unknown → st'.topologyRole = observed.value →
      st'.transitionPending = st.transitionPending → st'.pendingTopologyRole = st.pendingTopologyRole →
      Published st observed st'
  | pending (target : TopologyRole) : st.role ≠ .unknown → observed ≠ st.role → target ≠ .unknown →
      target ≠ st.role → st'.topologyRole = st.topologyRole → st'.transitionPending = true →
      st'.pendingTopologyRole = target.value → Published st observed st'
  | withdrawn : observed = st.role → st.transitionPending = true → st'.topologyRole = st.topologyRole →
      st'.transitionPending = false → st'.pendingTopologyRole = TopologyRole.unknown.value → Published st observed st'

theorem Published.of_sameRole {st st₁ st₂ : ClusterMembershipState} {observed : TopologyRole}
    (h : Published st observed st₁) (hs : SameRole st₁ st₂) : Published st observed st₂ := by
  cases h with
  | same h => exact .same ⟨hs.role.trans h.role, hs.pending.trans h.pending, hs.target.trans h.target⟩
  | adopted hu hr hp ht => exact .adopted hu (hs.role.trans hr) (hs.pending.trans hp) (hs.target.trans ht)
  | pending target h₁ h₂ h₃ h₄ hr hp ht =>
    exact .pending target h₁ h₂ h₃ h₄ (hs.role.trans hr) (hs.pending.trans hp) (hs.target.trans ht)
  | withdrawn h₁ h₂ hr hp ht => exact .withdrawn h₁ h₂ (hs.role.trans hr) (hs.pending.trans hp) (hs.target.trans ht)

/-- A decision taken on the row is never unexpected. -/
theorem applyDecision_spec {st : ClusterMembershipState} {observed : TopologyRole} {d : RoleDecision} (hrow : RowOk st)
    (hobs : observed ≠ .unknown) (hd : DecisionOk st observed d) :
    ∃ st' code audit, applyDecision st d = .ok (st', code, audit) ∧ Published st observed st' := by
  cases hd with
  | kept ht hp hu =>
    simp only [applyDecision, ht, hp, hu, Bool.not_false, Bool.and_self, if_true]
    exact ⟨_, _, _, rfl, .same ⟨rfl, rfl, rfl⟩⟩
  | decided pending htarget hv =>
    cases hv with
    | adopted hs _ ht hr =>
      simp only [applyDecision, ht]
      exact ⟨_, _, _, rfl, .adopted hs (by rw [hr]) rfl rfl⟩
    | stable _ _ ht hr =>
      simp only [applyDecision, ht]
      exact ⟨_, _, _, rfl, .same ⟨by rw [hr]; exact hrow.readable.symm, rfl, rfl⟩⟩
    | opened hs ho _ ht _ _ hp =>
      simp only [applyDecision, ht]
      exact ⟨_, _, _, rfl, .pending observed hs ho hobs ho rfl rfl (by rw [hp])⟩
    | stillOpen ho hne ht _ _ hp =>
      obtain ⟨hpend, hdiff⟩ := htarget hne
      simp only [applyDecision, ht]
      exact ⟨_, _, _, rfl, .pending pending (hrow.registered hpend) ho hne hdiff rfl rfl (by rw [hp])⟩
    | withdrawn ho hne ht =>
      simp only [applyDecision, ht]
      exact ⟨_, _, _, rfl, .withdrawn ho (htarget hne).1 rfl rfl rfl⟩

theorem publishComplete_spec {s : Scope} {n : NormalizedMembership} {d : RoleDecision} {observed : TopologyRole}
    (hrow : RowOk s.row) (hobs : observed ≠ .unknown) (hd : DecisionOk s.row observed d) (observedAt : Time) :
    ∃ s' generation code, publishComplete s n d observedAt = .ok (s', generation, code) ∧
      Published s.row observed s'.row := by
  obtain ⟨st', code, audit, happ, hpub⟩ := applyDecision_spec hrow hobs hd
  refine ⟨_, _, _, by simp only [publishComplete, bind, Except.bind, Scope.row] at happ ⊢; rw [happ], ?_⟩
  exact hpub.of_sameRole ⟨rfl, rfl, rfl⟩

theorem Published.rowOk {st st' : ClusterMembershipState} {observed : TopologyRole} (hrow : RowOk st)
    (h : Published st observed st') : RowOk st' := by
  have hkeep : st'.topologyRole = st.topologyRole → st'.role = st.role := fun hr => by
    simp [ClusterMembershipState.role, hr]
  cases h with
  | same h =>
    refine ⟨?_, ?_, fun hp => ?_⟩
    · rw [h.role, hkeep h.role]
      exact hrow.readable
    · simpa [ClusterMembershipState.Coherent, h.role, h.pending, h.target] using hrow.coherent
    · rw [hkeep h.role]
      exact hrow.registered (h.pending.symm.trans hp)
  | adopted hu hr hp ht =>
    have hnp : st.transitionPending = false := by
      simpa using fun hp => hrow.registered hp hu
    have hrole : st'.role = observed := by simp [ClusterMembershipState.role, hr]
    refine ⟨by rw [hr, hrole], .inl ⟨hp.trans hnp, ?_⟩, fun hp' => ?_⟩
    · rcases hrow.coherent with ⟨-, h⟩ | ⟨h, -⟩
      · exact ht.trans h
      · rw [hnp] at h
        cases h
    · rw [hp, hnp] at hp'
      cases hp'
  | pending target hs ho hne hdiff hr hp ht =>
    refine ⟨by rw [hr, hkeep hr]; exact hrow.readable, .inr ⟨hp, ?_, ?_, ?_⟩, fun _ => hkeep hr ▸ hs⟩
    · rw [ht]
      cases target <;> decide
    · rw [ht]
      exact fun he => hne (TopologyRole.value_injective (b := .unknown) he)
    · rw [ht, hr, hrow.readable]
      exact fun he => hdiff (TopologyRole.value_injective he)
  | withdrawn ho hpend hr hp ht =>
    refine ⟨by rw [hr, hkeep hr]; exact hrow.readable, .inl ⟨hp, ht⟩, ?_⟩
    intro hp'
    rw [hp] at hp'
    cases hp'

/-! ## Steps -/

theorem classifyRole_observation {n : NormalizedMembership} {accepted : List String}
    (h : (n.observation accepted).speaksForTheScope = true) : classifyRole (n.observation accepted) ≠ .unknown := by
  have hc : (n.observation accepted).complete = true := rfl
  simp only [classifyRole, h, hc, Bool.not_true, Bool.or_self, Bool.false_eq_true, if_false]
  split <;> decide

/-- The answer a refresh goes on with is a complete one that speaks for the scope. -/
theorem askEndpoints_answer {accepted : List String} (endpoints : List (String × EndpointAnswer))
    {n : NormalizedMembership} {o : MembershipObservation}
    (h : (askEndpoints accepted endpoints).answer = some (n, o)) :
    o = n.observation accepted ∧ o.speaksForTheScope = true := by
  induction endpoints with
  | nil => cases h
  | cons endpoint rest ih =>
    obtain ⟨name, answer⟩ := endpoint
    cases answer with
    | failed e => exact ih h
    | body payload =>
      simp only [askEndpoints] at h
      split at h
      · exact ih h
      next m hm =>
      split at h
      · exact ih h
      next hspeaks =>
      simp only [Option.some.injEq, Prod.mk.injEq] at h
      obtain ⟨rfl, rfl⟩ := h
      exact ⟨rfl, by simpa using hspeaks⟩

theorem decideRole_ok {s : Scope} (hrow : RowOk s.row) {o : MembershipObservation} (ho : classifyRole o ≠ .unknown) :
    DecisionOk s.row (classifyRole o) (decideRole s o) := by
  simp only [decideRole]
  split
  · rename_i h
    simp only [Bool.and_eq_true, Bool.not_eq_true'] at h
    exact .kept rfl h.1 h.2
  · exact .decided _ hrow.pendingTarget (evaluateRoleTransition_verdict ho)

theorem refreshRead_pass {s : Scope} (hrow : RowOk s.row) {endpoints : List (String × EndpointAnswer)} {t : Time}
    {p : Pass} {attempts : List MembershipEndpointAttempt} (h : refreshRead s endpoints t = .complete p attempts) :
    PassOk s.row p := by
  simp only [refreshRead, publishIncomplete] at h
  repeat' split at h
  all_goals cases h
  next n o hans =>
  obtain ⟨rfl, hspeaks⟩ := askEndpoints_answer _ hans
  have hconc := classifyRole_observation hspeaks
  exact ⟨rfl, hconc, decideRole_ok hrow hconc⟩

theorem refreshRead_incomplete {s s' : Scope} {endpoints : List (String × EndpointAnswer)} {t : Time} {g : Nat}
    {code o : String} {attempts : List MembershipEndpointAttempt}
    (h : refreshRead s endpoints t = .incomplete s' g code o attempts) : s'.row = s.row := by
  simp only [refreshRead, publishIncomplete] at h
  repeat' split at h
  all_goals cases h
  rfl

/-- The ways one step can move the role columns. -/
inductive RowStep (s s' : TopologySys) : TopologyLabel → Prop
  | kept : s'.scope.row = s.scope.row → RowStep s s' l
  | published (o : MembershipObservation) : publishedObservation s l = some o → o.complete = true →
      classifyRole o ≠ .unknown → Published s.scope.row (classifyRole o) s'.scope.row → RowStep s s' l
  | overwritten : s.scope.row.transitionPending = true → text ≠ "" → TopologyRole.ofText text = none →
      s'.scope.row = { s.scope.row with pendingTopologyRole := text } → RowStep s s' (.overwritePending text)
  | repaired : s'.scope.row =
        { s.scope.row with transitionPending := false, pendingTopologyRole := TopologyRole.unknown.value } →
      RowStep s s' (.repair key)
  | handedOff : s'.scope.row = {} → s'.scope.retired = true → RowStep s s' (.handOff c r k)

theorem recover_row {s s' : Scope} (hrow : RowOk s.row) {payload : Json} {now : Time}
    (h : confirmMembershipRecovery s payload now = .ok s') :
    ∃ n, normalizeClusterStatus payload = .ok n ∧ Published s.row (classifyRole (n.observation [])) s'.row := by
  unfold confirmMembershipRecovery at h
  split at h
  · cases h
  split at h
  · cases h
  split at h
  · cases h
  next n hn =>
  have hconc : classifyRole (n.observation []) ≠ .unknown := classifyRole_observation rfl
  obtain ⟨sc, g, code, hpub, hrow'⟩ := publishComplete_spec (n := n) hrow hconc
    (.decided _ hrow.pendingTarget (evaluateRoleTransition_verdict hconc)) now
  simp only [Scope.row] at hpub
  simp only [hpub, Except.ok.injEq] at h
  subst h
  exact ⟨n, hn, hrow'⟩

theorem step_row {s s' : TopologySys} {l : TopologyLabel} (hi : Inv s) (h : topologyStep s l = some s') :
    RowStep s s' l := by
  unfold topologyStep at h
  split at h
  · -- the pending column is overwritten
    next text =>
    simp only [overwritePending, Option.map_eq_some_iff] at h
    obtain ⟨sc, h, rfl⟩ := h
    split at h
    · cases h
    next st hst =>
    split at h
    · cases h
    next hg =>
    simp only [Bool.or_eq_true, Bool.not_eq_true', decide_eq_true_eq, not_or, Bool.not_eq_false,
      Option.not_isSome_iff_eq_none] at hg
    cases h
    have hrow : s.scope.row = st := by simp [Scope.row, hst]
    refine .overwritten ?_ hg.1.2 hg.2 ?_
    · rw [hrow]
      exact hg.1.1
    · rw [hrow]
      rfl
  · -- a refresh publishes
    next p hp =>
    have hok := hi.pass p hp
    obtain ⟨sc, g, code, hpub, hrow'⟩ := publishComplete_spec (n := p.normalized) hi.row hok.concrete hok.decision _
    rw [hpub] at h
    cases h
    exact .published p.observation (by simp [publishedObservation, hp]) hok.complete hok.concrete hrow'
  · cases h
    exact .kept rfl
  · -- a refresh reads
    split at h
    · cases h
      exact .kept rfl
    next hread =>
      cases h
      exact .kept (refreshRead_incomplete hread)
    · cases h
      exact .kept rfl
  · cases h
    exact .kept rfl
  · -- an operator accepts another member set
    split at h
    next sc hrec =>
      cases h
      obtain ⟨n, hn, hpub⟩ := recover_row hi.row hrec
      exact .published (n.observation []) (by simp [publishedObservation, hn]) rfl (classifyRole_observation rfl) hpub
    · cases h
  · -- an operator discards unreadable evidence
    split at h
    next sc hrep =>
      cases h
      unfold repairUnreadablePendingTransition at hrep
      repeat' split at hrep
      all_goals cases hrep
      next st hst _ => exact .repaired (by simp [Scope.row, hst])
    · cases h
  · split at h
    · cases h
    · split at h <;> cases h
      exact .handedOff rfl rfl
  · cases h

/-- A pass is one just read, or one whose pending column was overwritten. -/
theorem step_pass {s s' : TopologySys} {l : TopologyLabel} {p : Pass} (h : topologyStep s l = some s')
    (hp : s'.pass = some p) :
    (∃ endpoints t attempts, s'.scope = s.scope ∧ refreshRead s.scope endpoints t = .complete p attempts) ∨
      (s.pass = some p ∧ ∃ text, l = .overwritePending text) := by
  unfold topologyStep at h
  split at h
  · simp only [Option.map_eq_some_iff] at h
    obtain ⟨sc, -, rfl⟩ := h
    exact .inr ⟨hp, _, rfl⟩
  · split at h <;> cases h
    cases hp
  · cases h
    cases hp
  · rename_i hnone
    split at h
    · cases h
      rw [hnone] at hp
      cases hp
    · cases h
      cases hp
    next hread =>
      cases h
      cases hp
      exact .inl ⟨_, _, _, rfl, hread⟩
  · cases h
    cases hp
  · split at h <;> cases h
    cases hp
  · split at h <;> cases h
    cases hp
  · split at h
    · cases h
    · split at h <;> cases h
      cases hp
  · cases h

theorem RowOk.overwritten {st : ClusterMembershipState} (h : RowOk st) (hp : st.transitionPending = true)
    {text : String} (he : text ≠ "") (hu : TopologyRole.ofText text = none) :
    RowOk { st with pendingTopologyRole := text } := by
  refine ⟨h.readable, .inr ⟨hp, he, ?_, ?_⟩, h.registered⟩
  · rintro rfl
    cases hu
  · intro heq
    have heq : text = st.role.value := heq.trans h.readable
    rw [heq, TopologyRole.ofText_value] at hu
    cases hu

theorem PassOk.overwritten {st : ClusterMembershipState} {p : Pass} (h : PassOk st p) {text : String}
    (hu : TopologyRole.ofText text = none) : PassOk { st with pendingTopologyRole := text } p := by
  refine ⟨h.complete, h.concrete, ?_⟩
  cases h.decision with
  | kept ht hp _ => exact .kept ht hp (by simp [ClusterMembershipState.pendingRoleIsReadable, hu])
  | decided pending htarget hv => exact .decided pending htarget hv

theorem step_invariant {s s' : TopologySys} {l : TopologyLabel} (hi : Inv s) (h : topologyStep s l = some s') :
    Inv s' := by
  have hrow := step_row hi h
  refine ⟨?_, fun p hp => ?_⟩
  · cases hrow with
    | kept he => rw [he]; exact hi.row
    | published o _ _ _ hpub => exact hpub.rowOk hi.row
    | overwritten hp he hu heq => rw [heq]; exact hi.row.overwritten hp he hu
    | repaired heq => rw [heq]; exact ⟨hi.row.readable, .inl ⟨rfl, rfl⟩, nofun⟩
    | handedOff heq => rw [heq]; exact rowOk_default
  · rcases step_pass h hp with ⟨_, _, _, hsc, hread⟩ | ⟨hold, text, rfl⟩
    · rw [hsc]
      exact refreshRead_pass hi.row hread
    · cases hrow with
      | kept he => rw [he]; exact hi.pass p hold
      | published o ho => cases ho
      | overwritten _ _ hu heq => rw [heq]; exact (hi.pass p hold).overwritten hu

/-- The registered role changes only by adoption from an unknown one, or with the scope's retirement. -/
theorem Inv.role_change {s s' : TopologySys} (hi : Inv s) {l : TopologyLabel} (h : topologyStep s l = some s')
    (hne : s'.scope.row.topologyRole ≠ s.scope.row.topologyRole) :
    (∃ c r k, l = .handOff c r k ∧ s'.scope.retired = true) ∨
    ∃ o, publishedObservation s l = some o ∧ o.complete = true ∧ s.scope.row.role = .unknown ∧
      classifyRole o ≠ .unknown ∧ s'.scope.row.topologyRole = (classifyRole o).value := by
  cases step_row hi h with
  | kept he => rw [he] at hne; exact absurd rfl hne
  | published o ho hc hconc hpub =>
    cases hpub with
    | same hsame => exact absurd hsame.role hne
    | adopted hu hr => exact .inr ⟨o, ho, hc, hu, hconc, hr⟩
    | pending _ _ _ _ _ hr => exact absurd hr hne
    | withdrawn _ _ hr => exact absurd hr hne
  | overwritten _ _ _ heq => rw [heq] at hne; exact absurd rfl hne
  | repaired heq => rw [heq] at hne; exact absurd rfl hne
  | handedOff _ hret => exact .inl ⟨_, _, _, rfl, hret⟩

/-- A transition opens only on a complete observation of another concrete role. -/
theorem Inv.transition_opens {s s' : TopologySys} (hi : Inv s) {l : TopologyLabel} (h : topologyStep s l = some s')
    (hnp : s.scope.row.transitionPending = false) (hp : s'.scope.row.transitionPending = true) :
    ∃ o, publishedObservation s l = some o ∧ o.complete = true ∧ s.scope.row.role ≠ .unknown ∧
      classifyRole o ≠ .unknown ∧ classifyRole o ≠ s.scope.row.role := by
  cases step_row hi h with
  | kept he => rw [he, hnp] at hp; cases hp
  | published o ho hc hconc hpub =>
    cases hpub with
    | same hsame => rw [hsame.pending, hnp] at hp; cases hp
    | adopted _ _ hsame => rw [hsame, hnp] at hp; cases hp
    | pending _ hs ho' => exact ⟨o, ho, hc, hs, hconc, ho'⟩
    | withdrawn _ _ _ hn => rw [hn] at hp; cases hp
  | overwritten hold => rw [hold] at hnp; cases hnp
  | repaired heq => rw [heq] at hp; cases hp
  | handedOff heq => rw [heq] at hp; cases hp

/-- A refresh withdraws one only on a complete observation of the registered role. -/
theorem Inv.transition_withdrawn {s s' : TopologySys} (hi : Inv s) {t : Time}
    (h : topologyStep s (.refreshPublish t) = some s') (hp : s.scope.row.transitionPending = true)
    (hnp : s'.scope.row.transitionPending = false) :
    ∃ o, publishedObservation s (.refreshPublish t) = some o ∧ o.complete = true ∧ classifyRole o = s.scope.row.role := by
  cases step_row hi h with
  | kept he => rw [he, hp] at hnp; cases hnp
  | published o ho hc _ hpub =>
    cases hpub with
    | same hsame => rw [hsame.pending, hp] at hnp; cases hnp
    | adopted _ _ hsame => rw [hsame, hp] at hnp; cases hnp
    | pending _ _ _ _ _ _ hpend => rw [hpend] at hnp; cases hnp
    | withdrawn hobs => exact ⟨o, ho, hc, hobs⟩

/-- **The topology role machine.** In every reachable state: the stored columns
meet the coherence constraint; a step changes the registered role only by
adopting, from an unknown one, the role a complete observation proved, or by
the operator's hand-off, which retires the scope; it opens a transition only
on a complete observation of another role than the concrete registered one;
a refresh withdraws one only on a complete observation of the registered
role; and publishing never meets an unexpected decision. -/
theorem topology_role_machine {s : TopologySys} (h : Reachable topologyStep Fresh s) :
    (∀ st, s.scope.state = some st → st.Coherent) ∧
    (∀ l s', topologyStep s l = some s' → s'.scope.row.topologyRole ≠ s.scope.row.topologyRole →
      (∃ c r k, l = .handOff c r k ∧ s'.scope.retired = true) ∨
      ∃ o, publishedObservation s l = some o ∧ o.complete = true ∧ s.scope.row.role = .unknown ∧
        classifyRole o ≠ .unknown ∧ s'.scope.row.topologyRole = (classifyRole o).value) ∧
    (∀ l s', topologyStep s l = some s' → s.scope.row.transitionPending = false →
      s'.scope.row.transitionPending = true →
      ∃ o, publishedObservation s l = some o ∧ o.complete = true ∧ s.scope.row.role ≠ .unknown ∧
        classifyRole o ≠ .unknown ∧ classifyRole o ≠ s.scope.row.role) ∧
    (∀ t s', topologyStep s (.refreshPublish t) = some s' → s.scope.row.transitionPending = true →
      s'.scope.row.transitionPending = false →
      ∃ o, publishedObservation s (.refreshPublish t) = some o ∧ o.complete = true ∧
        classifyRole o = s.scope.row.role) ∧
    (∀ p t, s.pass = some p → ∃ r, publishComplete s.scope p.normalized p.decision t = .ok r) := by
  have hi : Inv s := h.inv (fun _ => Fresh.inv) step_invariant
  refine ⟨?_, fun l s' hs hne => hi.role_change hs hne, fun l s' hs hnp hp => hi.transition_opens hs hnp hp,
    fun t s' hs hp hnp => hi.transition_withdrawn hs hp hnp, ?_⟩
  · intro st hst
    have hrow : s.scope.row = st := by simp [Scope.row, hst]
    exact hrow ▸ hi.row.coherent
  · intro p t hp
    have hok := hi.pass p hp
    obtain ⟨s', g, code, hpub, -⟩ := publishComplete_spec (n := p.normalized) hi.row hok.concrete hok.decision t
    exact ⟨_, hpub⟩

/-- One host's `cluster/status`, as a standalone host or as a cluster of one. -/
def hostStatus (clustered : Bool) : Json :=
  let host : Json := .obj [("type", .str "node"), ("name", .str "pve1"), ("nodeid", .int (if clustered then 1 else 0)),
    ("online", .int 1), ("local", .int 1)]
  .arr (if clustered then
    [host, .obj [("type", .str "cluster"), ("nodes", .int 1), ("quorate", .int 1)]] else [host])

def onboarded : TopologySys := ⟨⟨"lab", false, true, false, none, .empty, none, []⟩, none⟩

/-- The host joins a cluster, leaves it again, and another build rewrites the
pending column while the refresh that sees this is under way. -/
def joinsAndLeaves : List TopologyLabel :=
  [.refreshRead [("pve1", .body (hostStatus false))] 10, .refreshPublish 11,
    .refreshRead [("pve1", .body (hostStatus true))] 20, .refreshPublish 21,
    .refreshRead [("pve1", .body (hostStatus false))] 30, .overwritePending "stretched"]

theorem onboarded_topology_role_machine : ∃ s s', run topologyStep onboarded joinsAndLeaves = some s ∧
    (∀ st, s.scope.state = some st → st.Coherent) ∧ s.scope.row.pendingTopologyRole = "stretched" ∧
    topologyStep s (.refreshPublish 31) = some s' ∧ s'.scope.row.transitionPending = false ∧
    ∃ o, publishedObservation s (.refreshPublish 31) = some o ∧ o.complete = true ∧
      classifyRole o = s.scope.row.role := by
  have hr : Reachable topologyStep Fresh _ := ⟨onboarded, joinsAndLeaves, ⟨rfl, rfl⟩, rfl⟩
  obtain ⟨hcoh, -, -, hwith, -⟩ := topology_role_machine hr
  exact ⟨_, _, rfl, hcoh, rfl, rfl, rfl, hwith 31 _ rfl rfl rfl⟩

end PveHelper.Topology
