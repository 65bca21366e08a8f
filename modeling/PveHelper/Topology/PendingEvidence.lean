/-
A pending role that this build cannot read is evidence of another build, and
`repair_unreadable_pending_transition` is the one service meant to discard it.
A refresh checks that it can read the column before it decides, a hand-off
refuses; `confirm_membership_recovery` decides as if nothing were pending, and
where the member it accepts shows another role than the registered one, the
transition it opens overwrites the text.
-/
import PveHelper.Lib.Atomic
import PveHelper.Topology.RoleMachine

namespace PveHelper.Topology

open Lib

/-- A call of one of the services; the other label is another build's write. -/
def TopologyLabel.isService : TopologyLabel → Bool
  | .overwritePending _ => false
  | _ => true

/-- One call, up to the repair's success, which ends the run. A call that raises
changes nothing. -/
def unrepairedStep (s : TopologySys) (l : TopologyLabel) : Option TopologySys :=
  match l, topologyStep s l with
  | .repair _, some _ => none
  | _, some s' => some s'
  | _, none => some s

/-- The transition is pending toward the stored text. -/
def HoldsPending (text : String) (s : TopologySys) : Prop :=
  ∃ st, s.scope.state = some st ∧ st.transitionPending = true ∧ st.pendingTopologyRole = text

/-- A transition is pending toward a text this build cannot read, with no refresh under way. -/
structure UnreadablePending (text : String) (s : TopologySys) : Prop where
  holds : HoldsPending text s
  unreadable : TopologyRole.ofText text = none
  noPass : s.pass = none

/-- A membership recovery that is confirmed shows the scope in its registered role. -/
def RecoversRegistered (s : TopologySys) : TopologyLabel → Prop
  | .recover payload _ => ∀ c n, s.pass = none → s.scope.coverage = some c → c.errorCode = errorObserverNotMember →
      normalizeClusterStatus payload = .ok n →
      s.scope.row.role = .unknown ∨ classifyRole (n.observation []) = s.scope.row.role
  | _ => True

/-- A decision under way on unreadable evidence keeps it. -/
def KeepsEvidence (text : String) (s : TopologySys) : Prop :=
  HoldsPending text s → ∀ p, s.pass = some p → p.decision.transition = .indeterminate

section
variable {s s' : TopologySys} {text : String}

theorem HoldsPending.row (h : HoldsPending text s) :
    s.scope.row.transitionPending = true ∧ s.scope.row.pendingTopologyRole = text := by
  obtain ⟨st, hst, hp, ht⟩ := h
  simp [Scope.row, hst, hp, ht]

theorem HoldsPending.unreadableRow (h : HoldsPending text s) (hu : TopologyRole.ofText text = none) :
    s.scope.row.pendingRoleIsReadable = false ∧ s.scope.row.pendingRole = .unknown := by
  simp [ClusterMembershipState.pendingRoleIsReadable, ClusterMembershipState.pendingRole, h.row.2, hu]

/-- The role columns a publication leaves are those its decision writes. -/
theorem publishComplete_state {sc sc' : Scope} {n : NormalizedMembership} {d : RoleDecision} {t : Time} {g : Nat}
    {code : String} (h : publishComplete sc n d t = .ok (sc', g, code)) :
    ∃ st code' audit, applyDecision sc.row d = .ok (st, code', audit) ∧ ∃ st', sc'.state = some st' ∧ SameRole st st' := by
  unfold publishComplete at h
  obtain ⟨⟨st, code₁, audit⟩, happ, h⟩ := except_bind_ok.mp h
  cases h
  exact ⟨st, _, audit, happ, _, rfl, rfl, rfl, rfl⟩

/-- A publication raises only for its decision. -/
theorem publishComplete_error {sc : Scope} {n : NormalizedMembership} {d : RoleDecision} {t : Time} {e : String}
    (h : publishComplete sc n d t = .error e) : applyDecision sc.row d = .error e := by
  unfold publishComplete at h
  simp only [bind, Except.bind] at h
  split at h
  · rename_i happ
    cases h
    exact happ
  · cases h

/-- The evidence after a publication, by what its decision wrote. -/
theorem holdsPending_published {sc : Scope} {st st' : ClusterMembershipState} {pass : Option Pass}
    (hst : sc.state = some st') (hsame : SameRole st st') :
    HoldsPending text ⟨sc, pass⟩ ↔ st.transitionPending = true ∧ st.pendingTopologyRole = text := by
  constructor
  · intro h
    obtain ⟨st₁, hst₁, hp, ht⟩ := h
    have heq : st' = st₁ := Option.some.inj (hst.symm.trans hst₁)
    rw [← hsame.pending, ← hsame.target, heq]
    exact ⟨hp, ht⟩
  · intro h
    exact ⟨st', hst, hsame.pending.trans h.1, hsame.target.trans h.2⟩

/-! ## One call -/

theorem unrepairedStep_cases {l : TopologyLabel} (h : unrepairedStep s l = some s') :
    (topologyStep s l = some s' ∧ ∀ key, l ≠ .repair key) ∨ (topologyStep s l = none ∧ s' = s) := by
  unfold unrepairedStep at h
  split at h
  · cases h
  · rename_i hrepair hstep
    cases h
    exact .inl ⟨hstep, fun key hl => hrepair key hl⟩
  · rename_i hstep
    cases h
    exact .inr ⟨hstep, rfl⟩

/-- What a confirmed recovery decides on unreadable evidence: as if nothing were pending. -/
theorem recover_verdict (hu : s.scope.row.pendingRole = .unknown) {payload : Json} {now : Time} {sc : Scope}
    (h : confirmMembershipRecovery s.scope payload now = .ok sc) :
    ∃ c n d st code audit st', s.scope.coverage = some c ∧ c.errorCode = errorObserverNotMember ∧
      normalizeClusterStatus payload = .ok n ∧
      Verdict s.scope.row.role (classifyRole (n.observation [])) .unknown d ∧
      applyDecision s.scope.row d = .ok (st, code, audit) ∧ sc.state = some st' ∧ SameRole st st' := by
  unfold confirmMembershipRecovery at h
  split at h
  · cases h
  rename_i c hc
  split at h
  · cases h
  rename_i hcode
  split at h
  · cases h
  rename_i n hn
  simp only at h
  split at h
  · cases h
  rename_i sc' g code hpub
  cases h
  obtain ⟨st, code', audit, happ, st', hst', hsame⟩ := publishComplete_state hpub
  have hconc : classifyRole (n.observation []) ≠ .unknown := classifyRole_observation rfl
  have hv : Verdict s.scope.row.role _ s.scope.row.pendingRole _ := evaluateRoleTransition_verdict hconc
  refine ⟨c, n, _, st, code', audit, st', hc, not_ne_iff.mp hcode, hn, ?_, happ, hst', hsame⟩
  have hrow : (s.scope.state.getD {}).pendingRole = .unknown := hu
  rw [hu] at hv
  rw [hrow]
  exact hv

/-- A confirmed recovery keeps the evidence exactly when it shows the registered role. -/
theorem recover_holds_iff (hh : HoldsPending text s) (hunread : TopologyRole.ofText text = none) {payload : Json}
    {now : Time} {sc : Scope} (hp : s.pass = none) (h : confirmMembershipRecovery s.scope payload now = .ok sc) :
    HoldsPending text ⟨sc, none⟩ ↔ RecoversRegistered s (.recover payload now) := by
  obtain ⟨c, n, d, st, code, audit, st', hc, hcode, hn, hv, happ, hst', hsame⟩ :=
    recover_verdict (hh.unreadableRow hunread).2 h
  rw [holdsPending_published hst' hsame]
  have hcond : RecoversRegistered s (.recover payload now) ↔
      s.scope.row.role = .unknown ∨ classifyRole (n.observation []) = s.scope.row.role := by
    constructor
    · intro hr
      exact hr c n hp hc hcode hn
    · intro hr c' n' _ _ _ hn'
      rw [hn] at hn'
      cases hn'
      exact hr
  rw [hcond]
  cases hv with
  | adopted hs _ ht =>
    simp only [applyDecision, ht, Except.ok.injEq, Prod.mk.injEq] at happ
    obtain ⟨rfl, -, -⟩ := happ
    exact iff_of_true hh.row (.inl hs)
  | stable ho _ ht =>
    simp only [applyDecision, ht, Except.ok.injEq, Prod.mk.injEq] at happ
    obtain ⟨rfl, -, -⟩ := happ
    exact iff_of_true hh.row (.inr ho)
  | opened hs ho _ ht =>
    simp only [applyDecision, ht, Except.ok.injEq, Prod.mk.injEq] at happ
    obtain ⟨rfl, -, -⟩ := happ
    refine iff_of_false (fun hk => ?_) (not_or.mpr ⟨hs, ho⟩)
    rw [← hk.2, TopologyRole.ofText_value] at hunread
    cases hunread
  | stillOpen _ hne => exact absurd rfl hne
  | withdrawn _ hne => exact absurd rfl hne

/-- A decision on a concrete role is never unexpected. -/
theorem Verdict.applies {stored observed pending : TopologyRole} {d : RoleDecision} (h : Verdict stored observed pending d)
    (st : ClusterMembershipState) : ∃ r, applyDecision st d = .ok r := by
  cases h with
  | adopted _ _ ht => exact ⟨_, by simp only [applyDecision, ht]; rfl⟩
  | stable _ _ ht => exact ⟨_, by simp only [applyDecision, ht]; rfl⟩
  | opened _ _ _ ht => exact ⟨_, by simp only [applyDecision, ht]; rfl⟩
  | stillOpen _ _ ht => exact ⟨_, by simp only [applyDecision, ht]; rfl⟩
  | withdrawn _ _ ht => exact ⟨_, by simp only [applyDecision, ht]; rfl⟩

/-- A recovery that raises met one of its refusals. -/
theorem recover_refused {payload : Json} {now : Time} {e : String}
    (h : confirmMembershipRecovery s.scope payload now = .error e) : RecoversRegistered s (.recover payload now) := by
  intro c n _ hc hcode hn
  exfalso
  unfold confirmMembershipRecovery at h
  simp only [hc, hcode, hn, ne_eq, not_true_eq_false, if_false] at h
  have hconc : classifyRole (n.observation []) ≠ .unknown := classifyRole_observation rfl
  have hv : Verdict s.scope.row.role _ s.scope.row.pendingRole _ := evaluateRoleTransition_verdict hconc
  obtain ⟨r, happ⟩ := hv.applies s.scope.row
  split at h
  · rename_i hpub
    have herr := (publishComplete_error hpub).symm.trans happ
    cases herr
  · cases h

/-- A refresh that publishes a decision to keep the evidence keeps it. -/
theorem publish_holds (hh : HoldsPending text s) (hunread : TopologyRole.ofText text = none) {p : Pass}
    (hp : p.decision.transition = .indeterminate) {t : Time} {sc : Scope} {g : Nat} {code : String}
    (h : publishComplete s.scope p.normalized p.decision t = .ok (sc, g, code)) : HoldsPending text ⟨sc, none⟩ := by
  obtain ⟨st, code', audit, happ, st', hst', hsame⟩ := publishComplete_state h
  rw [holdsPending_published hst' hsame]
  simp only [applyDecision, hp, hh.row.1, (hh.unreadableRow hunread).1, Bool.not_false, Bool.and_self, if_true,
    Except.ok.injEq, Prod.mk.injEq] at happ
  rw [← happ.1]
  exact hh.row

/-- One call keeps the evidence exactly when it is no recovery that shows another role. -/
theorem unrepairedStep_holds_iff {l : TopologyLabel} (hl : l.isService = true) (hk : KeepsEvidence text s)
    (hh : HoldsPending text s) (hunread : TopologyRole.ofText text = none) (h : unrepairedStep s l = some s') :
    HoldsPending text s' ↔ RecoversRegistered s l := by
  rcases unrepairedStep_cases h with ⟨hstep, hrepair⟩ | ⟨hnone, rfl⟩
  · unfold topologyStep at hstep
    split at hstep
    · cases hl
    · rename_i p hp
      split at hstep
      · rename_i hpub
        cases hstep
        exact iff_of_true (publish_holds hh hunread (hk hh p hp) hpub) trivial
      · cases hstep
    · cases hstep
      exact iff_of_true hh trivial
    · -- a refresh reads: whatever it finds, the state row stays
      split at hstep
      · cases hstep
        exact iff_of_true hh trivial
      · rename_i sc _ _ _ _ hread
        cases hstep
        refine iff_of_true ?_ trivial
        obtain ⟨st, hst, hrow⟩ := hh
        simp only [refreshRead, publishIncomplete] at hread
        repeat' split at hread
        all_goals cases hread
        exact ⟨st, hst, hrow⟩
      · cases hstep
        exact iff_of_true hh trivial
    · cases hstep
      exact iff_of_true hh trivial
    · rename_i hp
      split at hstep
      · rename_i sc hrec
        cases hstep
        exact recover_holds_iff hh hunread hp hrec
      · cases hstep
    · exact absurd rfl (hrepair _)
    · -- a hand-off is refused
      split at hstep
      · cases hstep
      · rename_i st hst
        have hu := (hh.unreadableRow hunread).1
        rw [Scope.row, hst] at hu
        simp only [Option.getD_some] at hu
        simp [pendingDecision, hu] at hstep
    · cases hstep
  · refine iff_of_true hh ?_
    cases l with
    | recover payload now =>
      cases hp : s'.pass with
      | some p => intro _ _ hnone'; rw [hp] at hnone'; cases hnone'
      | none =>
        simp only [topologyStep, hp] at hnone
        split at hnone
        · cases hnone
        · rename_i e hrec
          exact recover_refused hrec
    | _ => trivial

/-- No service writes an unreadable text, and a refresh that finds one decides to keep it. -/
theorem keepsEvidence_step {l : TopologyLabel} (hl : l.isService = true) (hunread : TopologyRole.ofText text = none)
    (hk : KeepsEvidence text s) (h : unrepairedStep s l = some s') : KeepsEvidence text s' := by
  rcases unrepairedStep_cases h with ⟨hstep, -⟩ | ⟨-, rfl⟩
  · intro hh p hp
    rcases step_pass hstep hp with ⟨endpoints, t, attempts, hsc, hread⟩ | ⟨-, text, rfl⟩
    · have hh₀ : HoldsPending text s := by
        obtain ⟨st, hst, hrow⟩ := hh
        rw [hsc] at hst
        exact ⟨st, hst, hrow⟩
      have hrow := hh₀.row.1
      have hu := (hh₀.unreadableRow hunread).1
      simp only [refreshRead, publishIncomplete] at hread
      repeat' split at hread
      all_goals cases hread
      simp only [Scope.row] at hrow hu
      simp only [decideRole, hrow, hu, Bool.not_false, Bool.and_self, if_true]
    · cases hl
  · exact hk

end

/-- **Unreadable pending evidence stays until its repair where every confirmed recovery shows the
registered role.** From a transition pending toward a text this build cannot read, over any calls
of the services up to the repair's success: the text stays, and the transition pending, throughout
exactly when each membership recovery that is confirmed on the way shows the scope in the role it
is registered in, or the scope has none yet. -/
theorem unreadablePending_kept_iff {s : TopologySys} {text : String} (h : UnreadablePending text s)
    {ls : List TopologyLabel} (hls : ∀ l ∈ ls, l.isService = true) :
    Always unrepairedStep (HoldsPending text) s ls ↔
      Along unrepairedStep (fun s l _ => RecoversRegistered s l) s ls := by
  have hkeeps : KeepsEvidence text s := by
    intro _ p hp
    rw [h.noPass] at hp
    cases hp
  exact always_iff_along_of (J := KeepsEvidence text) (Q := fun l => l.isService = true)
    (fun hl hk hstep => keepsEvidence_step hl h.unreadable hk hstep)
    (fun hl hk hh hstep => unrepairedStep_holds_iff hl hk hh h.unreadable hstep) hls hkeeps h.holds

/-- A host registered as standalone whose transition another build opened, and whose last refresh
found only a node outside the accepted members. -/
def stretched : TopologySys where
  scope :=
    { key := "lab"
      retired := false
      enabled := true
      ingestionQuarantined := false
      state := some { topologyRole := "standalone", transitionPending := true, pendingTopologyRole := "stretched" }
      nodes := .empty
      coverage := some { errorCode := errorObserverNotMember }
      audit := [] }
  pass := none

theorem stretched_unreadable : UnreadablePending "stretched" stretched :=
  ⟨⟨_, rfl, rfl, rfl⟩, by decide, rfl⟩

/-- A recovery that sees the standalone host, a refresh, a refused repair and a hand-off. -/
def recoversStandalone : List TopologyLabel :=
  [.recover (hostStatus false) 10, .refreshRead [("pve1", .body (hostStatus true))] 20, .refreshPublish 21,
    .repair "other", .handOff true .corosync 1]

theorem stretched_kept : Always unrepairedStep (HoldsPending "stretched") stretched recoversStandalone := by
  refine (unreadablePending_kept_iff stretched_unreadable (by decide)).mpr ?_
  refine fun _ _ => ⟨?_, fun _ _ => ⟨trivial, fun _ _ => ⟨trivial, fun _ _ => ⟨trivial, fun _ _ => ⟨trivial, trivial⟩⟩⟩⟩⟩
  intro c n _ _ _ hn
  cases hn
  exact .inr rfl

/-- A recovery that sees the host in a cluster overwrites the evidence. -/
theorem recovery_discards_evidence : ¬ ∀ (s : TopologySys) (text : String) (ls : List TopologyLabel),
    UnreadablePending text s → (TopologyRole.ofText s.scope.row.topologyRole).isSome = true →
    (∀ l ∈ ls, l.isService = true) → Always unrepairedStep (HoldsPending text) s ls := by
  intro h
  obtain ⟨st, hst, -, ht⟩ := h stretched "stretched" [.recover (hostStatus true) 10] stretched_unreadable rfl (by decide)
    _ [] _ (List.append_nil _).symm rfl
  cases hst
  revert ht
  decide

end PveHelper.Topology
