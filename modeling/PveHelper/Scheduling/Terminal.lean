/-
Whether a closed run stays closed. The worker, the reaper and the cancel view
write a run's status by primary key without looking at the stored one, so a
terminal status is absorbing, and an action has one run in flight, only as
long as these writes land on runs that are still open. Both theorems below are
exact: a run of the system keeps the property throughout if and only if each
of its steps meets the condition named there.
-/
import PveHelper.Scheduling.RunCount

namespace PveHelper.Scheduling

open Lib

/-- A condition on one party's step, read on a step of the system; a claim
transaction meets it by making no unguarded write. -/
def OnActs (c : Sys → Act → Prop) (s : Sys) : Label → Sys → Prop
  | .one x, _ => c s x
  | .dispatch _ _, _ => True

theorem claims_inv {I : Sys → Prop} {now : Time} (hact : ∀ {s c s'}, I s → act s (.claim now c) = some s' → I s')
    {claims : List Claim} {s s' : Sys} (hi : I s) (h : run act s (claims.map (.claim now)) = some s') : I s' := by
  induction claims generalizing s with
  | nil =>
    simp only [List.map_nil, run_nil, Option.some.injEq] at h
    exact h ▸ hi
  | cons c claims ih =>
    obtain ⟨s₁, h₁, h₂⟩ := run_cons.mp h
    exact ih (hact hi h₁) h₂

/-- What a party's step meeting `c` preserves, a step meeting it preserves. -/
theorem step_inv_on {I : Sys → Prop} {c : Sys → Act → Prop} (hclaim : ∀ s now k, c s (.claim now k))
    (hact : ∀ {s x s'}, I s → act s x = some s' → c s x → I s') {s s' : Sys} {l : Label} (hi : I s)
    (h : step s l = some s') (hc : OnActs c s l s') : I s' := by
  cases l with
  | one x => exact hact hi h hc
  | dispatch now claims =>
    simp only [step] at h
    split at h
    · exact claims_inv (fun hi h => hact hi h (hclaim _ _ _)) hi h
    · cases h

/-- An unguarded write lands whatever is stored. -/
theorem unguardedWrite_lands {s s' : Sys} {x : Act} {pk : Nat} {st : RunStatus} {r : ScheduledActionRun}
    (h : act s x = some s') (hw : unguardedWrite s x = some (pk, st)) (hr : s.runs.get pk = some r) :
    ∃ r', s'.runs.get pk = some r' ∧ r'.status = st ∧ SameRun r r' ∧
      (st = .polling ∨ ∀ code, r'.result ≠ .retirement code) := by
  -- The write is the step's own, so the row it alters is the one stored under `pk`.
  cases act_effect h with
  | aside _ hgone =>
    rw [hgone pk st hw] at hr
    cases hr
  | noted _ hnone =>
    rw [hnone] at hw
    cases hw
  | @submitted _ _ node upid hs hw' =>
    obtain ⟨rfl, rfl⟩ := Prod.mk.inj (Option.some.inj (hw'.symm.trans hw))
    refine ⟨submittedRun node upid r, ?_, rfl, ⟨rfl, rfl⟩, .inl rfl⟩
    rw [hs.runs, markSubmitted, Table.get_alter_self, hr, Option.map_some]
  | @finished _ _ _ f now hs hw' =>
    obtain ⟨rfl, rfl⟩ := Prod.mk.inj (Option.some.inj (hw'.symm.trans hw))
    refine ⟨f.onRun now r, ?_, rfl, ⟨rfl, rfl⟩, .inr f.ownResult⟩
    rw [hs.runs, Table.get_alter_self, hr, Option.map_some]
  | @cancelled _ _ _ username now hs hw' =>
    obtain ⟨rfl, rfl⟩ := Prod.mk.inj (Option.some.inj (hw'.symm.trans hw))
    refine ⟨cancelledRun username now r, ?_, rfl, ⟨rfl, rfl⟩, .inr (by simp [cancelledRun])⟩
    rw [hs.runs, Table.get_alter_self, hr, Option.map_some]
  | delivered | claimed | queued | toggled | deleted | pruned | retired => cases hw

/-! ## A terminal status is absorbing -/

/-- Once a run is closed, no later step changes its status: between any two
states of the run of the system, the earlier one showing it closed. -/
def TerminalAbsorbing (s₀ : Sys) (ls : List Label) : Prop :=
  ∀ ls₁ ls₂ ls₃ s₁ s₂, ls = ls₁ ++ ls₂ ++ ls₃ → run step s₀ ls₁ = some s₁ → run step s₁ ls₂ = some s₂ →
    ∀ pk r r', s₁.runs.get pk = some r → inFlight r.status = false → s₂.runs.get pk = some r' → r'.status = r.status

/-- The run an unguarded write is about to hit is still in flight, or already
has the status written. -/
def WritesOpenRun (s : Sys) (x : Act) : Prop :=
  ∀ pk st r, unguardedWrite s x = some (pk, st) → s.runs.get pk = some r → inFlight r.status = true ∨ r.status = st

/-- The run under `pk` is gone for good or has the closed status `st`. -/
structure Settled (pk : Nat) (st : RunStatus) (s : Sys) : Prop where
  counted : Counted s
  spent : pk < s.nextPk
  status : ∀ r, s.runs.get pk = some r → r.status = st

theorem act_settled {pk : Nat} {st : RunStatus} (hst : inFlight st = false) {s s' : Sys} {x : Act}
    (hi : Settled pk st s) (h : act s x = some s') (hc : WritesOpenRun s x) : Settled pk st s' := by
  refine ⟨act_counted hi.counted h, Nat.lt_of_lt_of_le hi.spent (act_nextPk h), ?_⟩
  intro r' hr'
  have hch := act_run_change h pk
  rw [hr'] at hch
  generalize ho : s.runs.get pk = o at hch
  cases hch with
  | same => exact hi.status r' ho
  | created _ hpk => exact absurd hpk (Nat.ne_of_lt hi.spent)
  | noted heq => exact heq.trans (hi.status _ ho)
  | started hq | overLimit hq =>
    rw [hi.status _ ho] at hq
    rw [hq] at hst
    cases hst
  | written hw =>
    have hold := hi.status _ ho
    rcases hc _ _ _ hw ho with hf | heq
    · rw [hold, hst] at hf
      cases hf
    · exact heq.symm.trans hold
  | retired _ hf =>
    rw [hi.status _ ho, hst] at hf
    cases hf

/-- **A terminal status is absorbing exactly when no unguarded write hits a
closed run.** -/
theorem terminal_absorbing_iff {s₀ : Sys} (h₀ : Initial s₀) (ls : List Label) :
    TerminalAbsorbing s₀ ls ↔ Along step (OnActs WritesOpenRun) s₀ ls := by
  constructor
  · intro h
    refine along_of_forall ?_
    intro ls₁ l ls₂ s₁ s₂ he hr hst
    cases l with
    | dispatch => trivial
    | one x =>
      intro pk st r hw hg
      by_cases hf : inFlight r.status = true
      · exact .inl hf
      · obtain ⟨r', hr', hst', -⟩ := unguardedWrite_lands hst hw hg
        have := h ls₁ [.one x] ls₂ s₁ s₂ (by simp [he]) hr (run_cons.mpr ⟨s₂, hst, rfl⟩) pk r r' hg (by simpa using hf) hr'
        exact .inr (this.symm.trans hst')
  · rintro h ls₁ ls₂ ls₃ s₁ s₂ rfl hr₁ hr₂ pk r r' hg hf hr'
    have hc₁ : Counted s₁ := run_inv step_counted h₀.counted hr₁
    have hset : Settled pk r.status s₁ :=
      ⟨hc₁, hc₁.stored hg, fun x hx => by rw [hg] at hx; cases hx; rfl⟩
    have ha : Along step (OnActs WritesOpenRun) s₁ ls₂ := (h.take).after hr₁
    exact (run_inv_along (fun hi hst hc => step_inv_on (fun _ _ _ _ _ _ hw => by cases hw) (act_settled hf) hi hst hc)
      hset ha hr₂).status r' hr'

/-- A queued run nobody picks up, closed by the reaper. -/
def nightlyGoesStale : List Label :=
  [.dispatch 1000 [⟨0, .ok (some 2000)⟩], .one (.reap 0 1400 60), .one (.reapNext 0 1401)]

theorem nightly_terminal_absorbing : TerminalAbsorbing (scheduled nightly) nightlyGoesStale := by
  refine (terminal_absorbing_iff (scheduled_initial rfl) _).mpr ?_
  refine fun s₁ h₁ => ⟨trivial, ?_⟩
  obtain rfl := Option.some.inj h₁
  refine fun s₂ h₂ => ⟨fun pk st r hw _ => by simp [unguardedWrite] at hw, ?_⟩
  obtain rfl := Option.some.inj h₂
  refine fun s₃ h₃ => ⟨fun pk st r hw hr => ?_, trivial⟩
  -- The reaper's write finds the run queued.
  have hpk : (0, RunStatus.stale) = (pk, st) := Option.some.inj hw
  cases hpk
  obtain rfl := Option.some.inj hr
  exact .inl rfl

/-- An operator cancels a submitted run; the worker's wait then times out. -/
def cancelledThenTimesOut : List Label :=
  [.dispatch 1000 [⟨0, .ok (some 2000)⟩], .one (.deliver 0 0 1001), .one (.lookUp 0 ⟨"pve1", "running", ""⟩),
    .one (.submit 0 "pve1" "UPID:1"), .one (.cancelRead 0 0), .one (.cancelSave 0 "operator" 1010)]

/-- The timeout path closes the run without asking whether it was cancelled. -/
theorem cancelled_run_times_out : ¬ ∀ s₀ ls, Initial s₀ → TerminalAbsorbing s₀ ls := by
  intro h
  have := h (scheduled nightly) (cancelledThenTimesOut ++ [.one (.timesOut 0 "timeout"), .one (.finish 0 1062)] ++ [])
    (scheduled_initial rfl) _ _ _ _ _ rfl rfl rfl 0 _ _ rfl rfl rfl
  cases this

/-! ## At most one run in flight -/

/-- Each action has at most one run in flight. -/
def AtMostOneInFlight (s : Sys) : Prop :=
  ∀ pk pk' r r', s.runs.get pk = some r → s.runs.get pk' = some r' → r.scheduledAction = r'.scheduledAction →
    inFlight r.status = true → inFlight r'.status = true → pk = pk'

/-- The run `_mark_submitted` is about to hit is still in flight, or its action
has nothing in flight. -/
def SubmitsAlone (s : Sys) (x : Act) : Prop :=
  ∀ pk r, unguardedWrite s x = some (pk, .polling) → s.runs.get pk = some r →
    inFlight r.status = true ∨ hasInFlightRun s.runs r.scheduledAction = false

theorem hasInFlightRun_iff {runs : Table ScheduledActionRun.pk} {action : Nat} :
    hasInFlightRun runs action = true ↔
      ∃ pk r, runs.get pk = some r ∧ r.scheduledAction = action ∧ inFlight r.status = true := by
  rw [hasInFlightRun, Table.any_rows]
  simp

/-- No party writes an in-flight status blindly except `_mark_submitted`. -/
theorem unguardedWrite_inFlight {s : Sys} {x : Act} {pk : Nat} {st : RunStatus}
    (h : unguardedWrite s x = some (pk, st)) (hf : inFlight st = true) : st = .polling := by
  cases x <;> simp only [unguardedWrite, Option.bind_eq_some_iff, Option.map_eq_some_iff, reduceCtorEq,
    Prod.mk.injEq] at h
  case submit =>
    obtain ⟨w, -, h⟩ := h
    split at h <;> cases h
    rfl
  case finish =>
    obtain ⟨w, -, h⟩ := h
    split at h <;> cases h
    next f _ => rw [f.closed] at hf; cases hf
  case reapNext =>
    obtain ⟨p, -, h⟩ := h
    split at h
    · cases h
    · split at h <;> cases h
      cases hf
  case cancelSave =>
    obtain ⟨v, -, -, rfl⟩ := h
    cases hf

/-- Where a run in flight comes from: it was in flight before, or its action
had nothing in flight and it is the one run the step created or submitted. -/
theorem inFlight_before {s s' : Sys} {x : Act} (h : act s x = some s') (hc : SubmitsAlone s x) {pk : Nat}
    {r' : ScheduledActionRun} (hr : s'.runs.get pk = some r') (hf : inFlight r'.status = true) :
    (∃ r, s.runs.get pk = some r ∧ r.scheduledAction = r'.scheduledAction ∧ inFlight r.status = true) ∨
      (hasInFlightRun s.runs r'.scheduledAction = false ∧
        (unguardedWrite s x = none ∧ pk = s.nextPk ∨ unguardedWrite s x = some (pk, .polling))) := by
  have hch := act_run_change h pk
  rw [hr] at hch
  generalize ho : s.runs.get pk = o at hch
  cases hch with
  | same => exact .inl ⟨r', rfl, rfl, hf⟩
  | created hw hpk _ _ _ hn hra => exact .inr ⟨hra ▸ hn, .inl ⟨hw, hpk⟩⟩
  | noted hst _ hs => exact .inl ⟨_, rfl, hs.action.symm, hst ▸ hf⟩
  | started hq _ hs => exact .inl ⟨_, rfl, hs.action.symm, by rw [hq]; rfl⟩
  | overLimit _ hst => rw [hst] at hf; cases hf
  | retired => cases hf
  | written hw _ hs =>
    have hst := unguardedWrite_inFlight hw hf
    rw [hst] at hw
    rcases hc pk _ hw ho with hold | hnone
    · exact .inl ⟨_, rfl, hs.action.symm, hold⟩
    · exact .inr ⟨hs.action ▸ hnone, .inr hw⟩

/-- A run in flight that the step does not write stays in flight. -/
theorem inFlight_kept {s s' : Sys} {x : Act} (h : act s x = some s') {pk k : Nat} {st : RunStatus}
    (hw : unguardedWrite s x = some (pk, st)) (hne : k ≠ pk) {r : ScheduledActionRun} (hr : s.runs.get k = some r)
    (hf : inFlight r.status = true) :
    ∃ r', s'.runs.get k = some r' ∧ r'.scheduledAction = r.scheduledAction ∧ inFlight r'.status = true := by
  have hch := act_run_change h k
  rw [hr] at hch
  generalize ho : s'.runs.get k = o at hch
  cases hch with
  | same => exact ⟨r, rfl, rfl, hf⟩
  | created hnw => rw [hw] at hnw; cases hnw
  | pruned hcl => rw [hcl] at hf; cases hf
  | noted hst _ hs => exact ⟨_, rfl, hs.action, by rw [hst]; exact hf⟩
  | started | overLimit | retired => simp [unguardedWrite] at hw
  | written hw' =>
    rw [hw] at hw'
    simp only [Option.some.injEq, Prod.mk.injEq] at hw'
    exact absurd hw'.1.symm hne

theorem act_atMostOne_iff {s s' : Sys} {x : Act} (hi : AtMostOneInFlight s) (h : act s x = some s') :
    AtMostOneInFlight s' ↔ SubmitsAlone s x := by
  constructor
  · intro hi' pk r hw hr
    by_cases hf : inFlight r.status = true
    · exact .inl hf
    · refine .inr (Bool.not_eq_true _ ▸ ?_)
      intro hany
      obtain ⟨k, r₁, hr₁, hra, hf₁⟩ := hasInFlightRun_iff.mp hany
      have hne : k ≠ pk := by
        rintro rfl
        rw [hr] at hr₁
        cases hr₁
        exact hf hf₁
      -- The submitted run joins the one in flight.
      obtain ⟨r', hr', hst', hs, -⟩ := unguardedWrite_lands h hw hr
      obtain ⟨r₁', hr₁', hra', hf₁'⟩ := inFlight_kept h hw hne hr₁ hf₁
      have hact : r₁'.scheduledAction = r'.scheduledAction := by rw [hra', hra, hs.action]
      exact hne (hi' k pk r₁' r' hr₁' hr' hact hf₁' (by rw [hst']; rfl))
  · intro hc pk pk' r r' hr hr' hact hf hf'
    rcases inFlight_before h hc hr hf with ⟨o, ho, hoa, hof⟩ | ⟨hn, hnew⟩
    · rcases inFlight_before h hc hr' hf' with ⟨o', ho', hoa', hof'⟩ | ⟨hn', -⟩
      · exact hi pk pk' o o' ho ho' (by rw [hoa, hoa', hact]) hof hof'
      · rw [← hact, ← hoa] at hn'
        have := hasInFlightRun_iff.mpr ⟨pk, o, ho, rfl, hof⟩
        rw [hn'] at this
        cases this
    · rcases inFlight_before h hc hr' hf' with ⟨o', ho', hoa', hof'⟩ | ⟨-, hnew'⟩
      · rw [hact, ← hoa'] at hn
        have := hasInFlightRun_iff.mpr ⟨pk', o', ho', rfl, hof'⟩
        rw [hn] at this
        cases this
      · rcases hnew with ⟨hw, hpk⟩ | hw <;> rcases hnew' with ⟨hw', hpk'⟩ | hw'
        · exact hpk.trans hpk'.symm
        · rw [hw] at hw'; cases hw'
        · rw [hw] at hw'; cases hw'
        · rw [hw] at hw'
          simp only [Option.some.injEq, Prod.mk.injEq, and_true] at hw'
          exact hw'

theorem step_atMostOne_iff {s s' : Sys} {l : Label} (hi : AtMostOneInFlight s) (h : step s l = some s') :
    AtMostOneInFlight s' ↔ OnActs SubmitsAlone s l s' := by
  cases l with
  | one x => exact act_atMostOne_iff hi h
  | dispatch now claims =>
    have hclaim : ∀ s now k, SubmitsAlone s (.claim now k) := fun _ _ _ _ _ hw => by simp [unguardedWrite] at hw
    exact ⟨fun _ => trivial, fun hc => step_inv_on hclaim (fun hi h hc => (act_atMostOne_iff hi h).mpr hc) hi h hc⟩

theorem Initial.atMostOne {s : Sys} (h : Initial s) : AtMostOneInFlight s := by
  intro pk pk' r r' hr
  have hm := Table.mem_of_get hr
  simp [h.noRuns] at hm

/-- **At most one run in flight per action, exactly when no submission revives
a closed run beside another in flight.** -/
theorem at_most_one_in_flight_iff {s₀ : Sys} (h₀ : Initial s₀) (ls : List Label) :
    Always step AtMostOneInFlight s₀ ls ↔ Along step (OnActs SubmitsAlone) s₀ ls := by
  refine always_iff_along (J := fun _ => True) (P := OnActs SubmitsAlone) (fun _ _ => trivial) ?_ trivial h₀.atMostOne
  intro s l s' _ hi h
  exact step_atMostOne_iff hi h

theorem nightly_at_most_one_in_flight : Always step AtMostOneInFlight (scheduled nightly) nightlyGoesStale := by
  refine (at_most_one_in_flight_iff (scheduled_initial rfl) _).mpr ?_
  refine fun s₁ h₁ => ⟨trivial, ?_⟩
  obtain rfl := Option.some.inj h₁
  refine fun s₂ h₂ => ⟨fun pk r hw _ => by simp [unguardedWrite] at hw, ?_⟩
  obtain rfl := Option.some.inj h₂
  -- The reaper's write is no submission.
  refine fun s₃ h₃ => ⟨fun pk r hw _ => ?_, trivial⟩
  have hst : (0, RunStatus.stale) = (pk, RunStatus.polling) := Option.some.inj hw
  cases hst

/-- A worker held up between lookup and submission: the reaper closes its run,
an operator queues another, and the worker then submits. -/
def submittedAfterStale : List Label :=
  [.dispatch 1000 [⟨0, .ok (some 2000)⟩], .one (.deliver 0 0 1001), .one (.lookUp 0 ⟨"pve1", "running", ""⟩),
    .one (.reap 0 1400 60), .one (.reapNext 0 1401), .one (.queueManual 0 "operator" 1402),
    .one (.submit 0 "pve1" "UPID:1")]

theorem stale_run_submitted_beside_another : ¬ ∀ s₀ ls, Initial s₀ → Always step AtMostOneInFlight s₀ ls := by
  intro h
  have := h (scheduled nightly) submittedAfterStale (scheduled_initial rfl) submittedAfterStale [] _ rfl rfl
    0 1 _ _ rfl rfl rfl rfl rfl
  cases this

end PveHelper.Scheduling
