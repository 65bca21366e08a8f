/-
What a forced retirement leaves behind. The transaction deletes the cluster's
schedules and cancels every run still in flight, so nothing can queue another
run; but a worker, a reaper or a cancel view that read a run before it still
writes that run afterwards, by primary key. The cluster stays silent exactly
when no such write submits a run of the cluster or hits one the retirement
cancelled (`retirement_silences_iff`).
-/
import PveHelper.Scheduling.Terminal

namespace PveHelper.Scheduling

open Lib

/-- The runs a forced retirement of the cluster in state `s₀` terminalises. -/
def Terminalised (cluster : Nat) (s₀ : Sys) (pk : Nat) : Prop :=
  ∃ r₀, s₀.runs.get pk = some r₀ ∧ ofCluster s₀.actions cluster r₀ = true ∧ inFlight r₀.status = true

/-- What is promised of every later state `s`, for a retirement in `s₀`. -/
structure Silenced (cluster : Nat) (s₀ s : Sys) : Prop where
  quiet : ∀ {pk r}, s.runs.get pk = some r → ofCluster s.actions cluster r = true → inFlight r.status = false
  nothingNew : ∀ {pk r}, s.runs.get pk = some r → ofCluster s.actions cluster r = true →
    ∃ r₀, s₀.runs.get pk = some r₀ ∧ r.scheduledAction = r₀.scheduledAction
  kept : ∀ {pk r}, Terminalised cluster s₀ pk → s.runs.get pk = some r →
    r.status = .cancelled ∧ r.result = .retirement codeForceRetiredUnresolvable

/-- An unguarded write about to hit a run of the cluster neither submits it nor
hits a run the retirement terminalised. -/
def SparesRetired (cluster : Nat) (s₀ s : Sys) (x : Act) : Prop :=
  ∀ pk st r, unguardedWrite s x = some (pk, st) → s.runs.get pk = some r → ofCluster s.actions cluster r = true →
    inFlight st = false ∧ ¬ Terminalised cluster s₀ pk

/-! ## The transaction -/

/-- A forced retirement is never blocked, and cancels every run in flight. -/
theorem finalizeRetirement_runs {s s' : Sys} {cluster : Nat} {t : Time}
    (h : finalizeRetirement s cluster .forced t = some s') (pk : Nat) :
    s'.runs.get pk = (s.runs.get pk).map fun r =>
      if ofCluster s.actions cluster r && inFlight r.status then retiredRun codeForceRetiredUnresolvable t r else r := by
  simp only [finalizeRetirement] at h
  split at h
  · cases h
  simp only [Option.some.injEq] at h
  subst h
  simp only [Table.get_updateWhere]
  cases s.runs.get pk with
  | none => rfl
  | some r =>
    simp only [Option.map_some, Option.some.injEq]
    cases hc : ofCluster s.actions cluster r with
    | false => simp [hc]
    | true =>
      cases hst : r.status <;>
        simp [hc, hst, inFlight, retirementNotStarted, retirementActive, retiredRun, notStartedCode]

theorem finalizeRetirement_deleted {s s' : Sys} {cluster : Nat} {t : Time} {mode : RetirementMode}
    (h : finalizeRetirement s cluster mode t = some s') {pk : Nat} {a : ScheduledAction}
    (ha : s'.actions.get pk = some a) (hc : a.cluster = cluster) : a.deletedAt ≠ none := by
  simp only [finalizeRetirement] at h
  split at h
  · cases h
  simp only [Option.some.injEq] at h
  subst h
  simp only [Table.get_updateWhere, Option.map_eq_some_iff] at ha
  obtain ⟨b, -, rfl⟩ := ha
  split at hc
  · rename_i hd
    simp [hd]
  · rename_i hd
    simp only [hc, decide_true, Bool.true_and, Bool.not_eq_true, Option.isNone_eq_false_iff] at hd
    have hd := Option.isSome_iff_ne_none.mp hd
    rw [if_neg (by simp [hd])]
    exact hd

/-! ## Afterwards -/

/-- What holds after a retirement of the cluster in `s₀` whatever the parties
do: its schedules stay deleted, and its runs are runs of `s₀`. -/
structure SinceRetirement (cluster : Nat) (s₀ s : Sys) : Prop where
  counted : Counted s
  spent : s₀.nextPk ≤ s.nextPk
  clusters : ∀ k, (s.actions.get k).map (·.cluster) = (s₀.actions.get k).map (·.cluster)
  deleted : ∀ {k a}, s.actions.get k = some a → a.cluster = cluster → a.deletedAt ≠ none
  stored : ∀ {pk r}, s.runs.get pk = some r →
    (∃ r₀, s₀.runs.get pk = some r₀ ∧ r.scheduledAction = r₀.scheduledAction) ∨
      (s₀.nextPk ≤ pk ∧ ofCluster s.actions cluster r = false)

theorem ofCluster_congr {acts acts' : Table ScheduledAction.pk} {cluster : Nat} {r r' : ScheduledActionRun}
    (hc : ∀ k, (acts'.get k).map (·.cluster) = (acts.get k).map (·.cluster))
    (ha : r'.scheduledAction = r.scheduledAction) : ofCluster acts' cluster r' = ofCluster acts cluster r := by
  have hmap : ∀ (o : Option ScheduledAction), (o.any fun a => decide (a.cluster = cluster))
      = (o.map (·.cluster)).any fun c => decide (c = cluster) := fun o => by cases o <;> rfl
  rw [ofCluster, ofCluster, ha, hmap, hmap, hc]

theorem act_clusters {s s' : Sys} {x : Act} (h : act s x = some s') (k : Nat) :
    (s'.actions.get k).map (·.cluster) = (s.actions.get k).map (·.cluster) := by
  have hc : ActionChange s s' k _ _ := act_action h k
  generalize s.actions.get k = o, s'.actions.get k = o' at hc
  cases hc with
  | absent => rfl
  | kept hf => simp [hf.cluster]

theorem act_since {cluster : Nat} {s₀ s s' : Sys} {x : Act} (hi : SinceRetirement cluster s₀ s)
    (h : act s x = some s') : SinceRetirement cluster s₀ s' := by
  refine ⟨act_counted hi.counted h, Nat.le_trans hi.spent (act_nextPk h),
    fun k => (act_clusters h k).trans (hi.clusters k), fun {k a'} ha' hc => ?_, fun {pk r'} hr' => ?_⟩
  · have hch : ActionChange s s' k _ _ := act_action h k
    rw [ha'] at hch
    generalize ho : s.actions.get k = o at hch
    cases hch with
    | kept hf =>
      have hd := hi.deleted ho (hf.cluster.symm.trans hc)
      rw [hf.deleted hd]
      exact hd
  · -- Only queueing adds a run, and only for an action that is not deleted.
    have hold : ∀ {r : ScheduledActionRun}, s.runs.get pk = some r → r'.scheduledAction = r.scheduledAction →
        (∃ r₀, s₀.runs.get pk = some r₀ ∧ r'.scheduledAction = r₀.scheduledAction) ∨
          (s₀.nextPk ≤ pk ∧ ofCluster s'.actions cluster r' = false) := by
      intro r hr ha
      rcases hi.stored hr with ⟨r₀, hr₀, hact⟩ | ⟨hpk, hc⟩
      · exact .inl ⟨r₀, hr₀, ha.trans hact⟩
      · exact .inr ⟨hpk, (ofCluster_congr (act_clusters h) ha).trans hc⟩
    have hch := act_run_change h pk
    rw [hr'] at hch
    generalize ho : s.runs.get pk = o at hch
    cases hch with
    | same => exact hold ho rfl
    | @created a _ _ _ _ hpk _ ha hd _ hra =>
      refine .inr ⟨hpk ▸ hi.spent, ?_⟩
      rw [ofCluster_congr (act_clusters h) (r := r') rfl, ofCluster, hra, ha, Option.any_some, decide_eq_false_iff_not]
      exact fun hc => hi.deleted ha hc hd
    | noted _ _ hs | started _ _ hs | overLimit _ _ hs | written _ _ hs => exact hold ho hs.action
    | retired => exact hold ho rfl

/-- A step after which the cluster is silent has spared the retired runs: an
unguarded write would have landed. -/
theorem act_spares {cluster : Nat} {s₀ s s' : Sys} {x : Act} (h : act s x = some s') (hi : Silenced cluster s₀ s') :
    SparesRetired cluster s₀ s x := by
  intro pk st r hw hr hc
  obtain ⟨r', hr', hst, hs, hres⟩ := unguardedWrite_lands h hw hr
  have hc' : ofCluster s'.actions cluster r' = true := (ofCluster_congr (act_clusters h) hs.action).trans hc
  refine ⟨hst ▸ hi.quiet hr' hc', ?_⟩
  intro ht
  obtain ⟨hcan, hcode⟩ := hi.kept ht hr'
  rcases hres with hpoll | hres
  · rw [hst, hpoll] at hcan
    cases hcan
  · exact hres _ hcode

/-- A step that spares the retired runs leaves none of the cluster's runs in flight. -/
theorem act_quiet {cluster : Nat} {s₀ s s' : Sys} {x : Act} (h₀ : Counted s₀) (hj : SinceRetirement cluster s₀ s)
    (hi : Silenced cluster s₀ s) (h : act s x = some s') (hsp : SparesRetired cluster s₀ s x) {pk : Nat}
    {r' : ScheduledActionRun} (hr' : s'.runs.get pk = some r') (hc' : ofCluster s'.actions cluster r' = true) :
    inFlight r'.status = false := by
  have hback : ∀ {r : ScheduledActionRun}, s.runs.get pk = some r → r'.scheduledAction = r.scheduledAction →
      ofCluster s.actions cluster r = true := fun hr ha => (ofCluster_congr (act_clusters h) ha).symm.trans hc'
  have hch := act_run_change h pk
  rw [hr'] at hch
  generalize ho : s.runs.get pk = o at hch
  cases hch with
  | same => exact hi.quiet ho (hback ho rfl)
  | created _ hpk =>
    rcases (act_since hj h).stored hr' with ⟨r₀, hr₀, -⟩ | ⟨-, hn⟩
    · have hlt := h₀.stored hr₀
      have hspent := hj.spent
      omega
    · rw [hn] at hc'
      cases hc'
  | noted hst _ hs => exact hst ▸ hi.quiet ho (hback ho hs.action)
  | started hq _ hs =>
    have hquiet := hi.quiet ho (hback ho hs.action)
    rw [hq] at hquiet
    cases hquiet
  | overLimit _ hst => rw [hst]; rfl
  | written hw _ hs => exact (hsp _ _ _ hw ho (hback ho hs.action)).1
  | retired => rfl

/-- And it keeps what the retirement wrote into the runs it terminalised. -/
theorem act_kept {cluster : Nat} {s₀ s s' : Sys} {x : Act} (h₀ : Counted s₀) (hj : SinceRetirement cluster s₀ s)
    (hi : Silenced cluster s₀ s) (h : act s x = some s') (hsp : SparesRetired cluster s₀ s x) {pk : Nat}
    {r' : ScheduledActionRun} (ht : Terminalised cluster s₀ pk) (hr' : s'.runs.get pk = some r') :
    r'.status = .cancelled ∧ r'.result = .retirement codeForceRetiredUnresolvable := by
  obtain ⟨r₀, hr₀, hc₀, hf₀⟩ := id ht
  have hlt : pk < s₀.nextPk := h₀.stored hr₀
  have hch := act_run_change h pk
  rw [hr'] at hch
  generalize ho : s.runs.get pk = o at hch
  cases hch with
  | same => exact hi.kept ht ho
  | created _ hpk =>
    have hspent := hj.spent
    omega
  | noted hst hres => rw [hst, hres]; exact hi.kept ht ho
  | started hq | overLimit hq =>
    have hcan := (hi.kept ht ho).1
    rw [hq] at hcan
    cases hcan
  | @written _ r _ hw =>
    have hc : ofCluster s.actions cluster r = true := by
      rcases hj.stored ho with ⟨r₁, hr₁, hact⟩ | ⟨hle, -⟩
      · rw [hr₀] at hr₁
        cases hr₁
        exact (ofCluster_congr hj.clusters hact).trans hc₀
      · omega
    exact absurd ht (hsp _ _ _ hw ho hc).2
  | retired _ hf =>
    rw [(hi.kept ht ho).1] at hf
    cases hf

/-- One step keeps the cluster silent exactly when it spares the retired runs. -/
theorem act_silenced_iff {cluster : Nat} {s₀ s s' : Sys} {x : Act} (h₀ : Counted s₀)
    (hj : SinceRetirement cluster s₀ s) (hi : Silenced cluster s₀ s) (h : act s x = some s') :
    Silenced cluster s₀ s' ↔ SparesRetired cluster s₀ s x := by
  refine ⟨act_spares h, fun hsp => ⟨fun hr' hc' => act_quiet h₀ hj hi h hsp hr' hc', fun {pk r'} hr' hc' => ?_,
    fun ht hr' => act_kept h₀ hj hi h hsp ht hr'⟩⟩
  rcases (act_since hj h).stored hr' with hold | ⟨-, hn⟩
  · exact hold
  · rw [hn] at hc'
    cases hc'

theorem step_silenced_iff {cluster : Nat} {s₀ s s' : Sys} {l : Label} (h₀ : Counted s₀)
    (hj : SinceRetirement cluster s₀ s) (hi : Silenced cluster s₀ s) (h : step s l = some s') :
    Silenced cluster s₀ s' ↔ OnActs (SparesRetired cluster s₀) s l s' := by
  cases l with
  | one x => exact act_silenced_iff h₀ hj hi h
  | dispatch now claims =>
    have hclaim : ∀ s now k, SparesRetired cluster s₀ s (.claim now k) :=
      fun _ _ _ _ _ _ hw => by simp [unguardedWrite] at hw
    refine ⟨fun _ => trivial, ?_⟩
    intro hc
    exact (step_inv_on (I := fun t => SinceRetirement cluster s₀ t ∧ Silenced cluster s₀ t) hclaim
      (fun hji h hc => ⟨act_since hji.1 h, (act_silenced_iff h₀ hji.1 hji.2 h).mpr hc⟩) ⟨hj, hi⟩ h hc).2

theorem retirement_since {cluster : Nat} {s₀ s₁ : Sys} {t : Time} (h₀ : Counted s₀)
    (h : act s₀ (.retire cluster .forced t) = some s₁) : SinceRetirement cluster s₀ s₁ := by
  refine ⟨act_counted h₀ h, act_nextPk h, act_clusters h, finalizeRetirement_deleted h, fun {pk r} hr => .inl ?_⟩
  rw [finalizeRetirement_runs h, Option.map_eq_some_iff] at hr
  obtain ⟨r₀, hr₀, rfl⟩ := hr
  exact ⟨r₀, hr₀, by split <;> rfl⟩

theorem retirement_silenced {cluster : Nat} {s₀ s₁ : Sys} {t : Time}
    (h : act s₀ (.retire cluster .forced t) = some s₁) : Silenced cluster s₀ s₁ := by
  refine ⟨fun {pk r} hr hc => ?_, fun {pk r} hr _ => ?_, fun {pk r} ht hr => ?_⟩
  · rw [finalizeRetirement_runs h, Option.map_eq_some_iff] at hr
    obtain ⟨r₀, hr₀, rfl⟩ := hr
    split
    · rfl
    · rename_i hn
      rw [if_neg hn, ofCluster_congr (r := r₀) (act_clusters h) rfl] at hc
      simpa [hc] using hn
  · rw [finalizeRetirement_runs h, Option.map_eq_some_iff] at hr
    obtain ⟨r₀, hr₀, rfl⟩ := hr
    exact ⟨r₀, hr₀, by split <;> rfl⟩
  · obtain ⟨r₀, hr₀, hc₀, hf₀⟩ := ht
    rw [finalizeRetirement_runs h, hr₀, Option.map_some, Option.some.injEq] at hr
    subst hr
    rw [if_pos (by rw [hc₀, hf₀]; rfl)]
    exact ⟨rfl, rfl⟩

/-- **A forced retirement silences the cluster's schedules exactly when every
later unguarded write spares the retired runs.** -/
theorem retirement_silences_iff {cluster : Nat} {s₀ s₁ : Sys} {t : Time} (h₀ : Reachable step Initial s₀)
    (h : step s₀ (.one (.retire cluster .forced t)) = some s₁) (ls : List Label) :
    Always step (Silenced cluster s₀) s₁ ls ↔ Along step (OnActs (SparesRetired cluster s₀)) s₁ ls := by
  have hc : Counted s₀ := h₀.inv (fun _ => Initial.counted) step_counted
  refine always_iff_along (J := SinceRetirement cluster s₀) (P := OnActs (SparesRetired cluster s₀)) ?_ ?_
    (retirement_since hc h) (retirement_silenced h)
  · intro s l s' hj hs
    exact step_inv act_since hj hs
  · intro s l s' hj hi hs
    exact step_silenced_iff hc hj hi hs

/-- A worker picks up the cancelled run's task only after the retirement. -/
theorem nightly_retirement_silences : ∃ s₀ s₁,
    run step (scheduled nightly) [.dispatch 1000 [⟨0, .ok (some 2000)⟩]] = some s₀ ∧
    step s₀ (.one (.retire 1 .forced 1100)) = some s₁ ∧
    Always step (Silenced 1 s₀) s₁ [.one (.deliver 0 0 1200)] := by
  have hr : Reachable step Initial _ :=
    ⟨scheduled nightly, [.dispatch 1000 [⟨0, .ok (some 2000)⟩]], scheduled_initial rfl, rfl⟩
  refine ⟨_, _, rfl, rfl, (retirement_silences_iff hr rfl _).mpr ?_⟩
  exact fun s' _ => ⟨fun pk st r hw => by simp [unguardedWrite] at hw, trivial⟩

/-- A worker has looked the guest up when the cluster is retired; it submits. -/
theorem retired_run_submitted : ¬ ∀ cluster s₀ s₁ t ls, Reachable step Initial s₀ →
    step s₀ (.one (.retire cluster .forced t)) = some s₁ → Always step (Silenced cluster s₀) s₁ ls := by
  intro h
  have hs := h 1 _ _ 1100 [.one (.submit 0 "pve1" "UPID:1")]
    ⟨scheduled nightly, [.dispatch 1000 [⟨0, .ok (some 2000)⟩], .one (.deliver 0 0 1001),
      .one (.lookUp 0 ⟨"pve1", "running", ""⟩)], scheduled_initial rfl, rfl⟩ rfl [.one (.submit 0 "pve1" "UPID:1")] [] _ rfl rfl
  have hq : inFlight .polling = false := @hs.quiet 0 _ rfl rfl
  cases hq

end PveHelper.Scheduling
