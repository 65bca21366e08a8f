/-
How often a schedule runs. A task may be delivered any number of times and the
limit is checked both when an occurrence is claimed and when its run starts;
whatever the interleaving, an action's `scheduled_run_count` is the number of
its automated runs that entered preflight, no run enters it twice, and the
count stays within the action's maximum.

The history `entered` is not stored by the source. `step_enters` says that it
records exactly the runs whose stored status turns to preflight.
-/
import PveHelper.Scheduling.Changes

namespace PveHelper.Scheduling

open Lib

/-- The step moves the run stored under `pk` into preflight. -/
def EntersPreflight (s s' : Sys) (pk : Nat) : Prop :=
  (∀ r, s.runs.get pk = some r → r.status ≠ .preflight) ∧ ∃ r, s'.runs.get pk = some r ∧ r.status = .preflight

/-- No party writes the two statuses a run waits in. -/
theorem unguardedWrite_status {s : Sys} {x : Act} {pk : Nat} {st : RunStatus}
    (h : unguardedWrite s x = some (pk, st)) : st ≠ .queued ∧ st ≠ .preflight := by
  cases x <;> simp only [unguardedWrite, Option.bind_eq_some_iff, Option.map_eq_some_iff, reduceCtorEq,
    Prod.mk.injEq] at h
  case submit =>
    obtain ⟨w, -, h⟩ := h
    split at h <;> cases h
    decide
  case finish =>
    obtain ⟨w, -, h⟩ := h
    split at h <;> cases h
    next f _ => constructor <;> intro hst <;> have := f.closed <;> simp [hst, inFlight] at this
  case reapNext =>
    obtain ⟨p, -, h⟩ := h
    split at h
    · cases h
    · split at h <;> cases h
      decide
  case cancelSave =>
    obtain ⟨v, -, -, rfl⟩ := h
    decide

/-- A run waits for a worker only if it did before, or is new. -/
theorem queued_before {s s' : Sys} {x : Act} (h : act s x = some s') {pk : Nat} {r' : ScheduledActionRun}
    (hr : s'.runs.get pk = some r') (hq : r'.status = .queued) :
    (∃ r, s.runs.get pk = some r ∧ r.status = .queued) ∨ pk = s.nextPk := by
  have hc := act_run_change h pk
  rw [hr] at hc
  generalize ho : s.runs.get pk = o at hc
  cases hc with
  | same => exact .inl ⟨r', rfl, hq⟩
  | created _ hpk => exact .inr hpk
  | noted hst => exact .inl ⟨_, rfl, hst.symm.trans hq⟩
  | started _ hst | overLimit _ hst => rw [hst] at hq; cases hq
  | written hw => exact absurd hq (unguardedWrite_status hw).1
  | retired => cases hq

/-- A run is in preflight only if it was before, or its entry is recorded now. -/
theorem preflight_before {s s' : Sys} {x : Act} (h : act s x = some s') {pk : Nat} {r' : ScheduledActionRun}
    (hr : s'.runs.get pk = some r') (hp : r'.status = .preflight) :
    (∃ r, s.runs.get pk = some r ∧ r.status = .preflight) ∨
      ∃ w t r, x = .deliver w pk t ∧ s.runs.get pk = some r ∧
        s'.entered = ⟨pk, r.scheduledAction, r.automated⟩ :: s.entered := by
  have hc := act_run_change h pk
  rw [hr] at hc
  generalize ho : s.runs.get pk = o at hc
  cases hc with
  | same => exact .inl ⟨r', rfl, hp⟩
  | created _ _ _ _ _ _ _ hst => rcases hst with hst | hst <;> rw [hst] at hp <;> cases hp
  | noted hst => exact .inl ⟨_, rfl, hst.symm.trans hp⟩
  | started _ _ _ he => exact .inr ⟨_, _, _, rfl, rfl, he⟩
  | overLimit _ hst => rw [hst] at hp; cases hp
  | written hw => exact absurd hp (unguardedWrite_status hw).2
  | retired => cases hp

/-- Claiming an occurrence starts nothing. -/
theorem claim_entered {s s' : Sys} {now : Time} {c : Claim} (h : act s (.claim now c) = some s') :
    s'.entered = s.entered := by
  cases act_history h with
  | same he => exact he
  | enters hr hq hr' hp =>
    rcases preflight_before h hr' hp with ⟨r, hr₀, hp₀⟩ | ⟨_, _, _, hx, _⟩
    · rw [hr] at hr₀
      cases hr₀
      rw [hq] at hp₀
      cases hp₀
    · cases hx

theorem claims_enter_nothing {now : Time} {claims : List Claim} {s s' : Sys}
    (h : run act s (claims.map (.claim now)) = some s') : s'.entered = s.entered ∧
      ∀ {pk r'}, s'.runs.get pk = some r' → r'.status = .preflight →
        ∃ r, s.runs.get pk = some r ∧ r.status = .preflight := by
  induction claims generalizing s with
  | nil =>
    simp only [List.map_nil, run_nil, Option.some.injEq] at h
    subst h
    exact ⟨rfl, fun hr hp => ⟨_, hr, hp⟩⟩
  | cons c claims ih =>
    obtain ⟨s₁, h₁, h₂⟩ := run_cons.mp h
    obtain ⟨he, hp⟩ := ih h₂
    refine ⟨he.trans (claim_entered h₁), fun hr hst => ?_⟩
    obtain ⟨r₁, hr₁, hst₁⟩ := hp hr hst
    rcases preflight_before h₁ hr₁ hst₁ with hb | ⟨_, _, _, hx, _⟩
    · exact hb
    · cases hx

theorem act_enters {s s' : Sys} {x : Act} (h : act s x = some s') (pk : Nat) :
    EntersPreflight s s' pk ↔ ∃ r, s.runs.get pk = some r ∧
      s'.entered = ⟨pk, r.scheduledAction, r.automated⟩ :: s.entered := by
  constructor
  · intro hx
    obtain ⟨hn, r', hr', hp⟩ := hx
    rcases preflight_before h hr' hp with ⟨r, hr, hst⟩ | ⟨_, _, r, -, hr, he⟩
    · exact absurd hst (hn r hr)
    · exact ⟨r, hr, he⟩
  · intro hex
    obtain ⟨r, hr, he⟩ := hex
    cases act_history h with
    | same he' => rw [he'] at he; exact absurd he (List.cons_ne_self _ _).symm
    | enters hr₁ hq hr' hp he₁ =>
      rw [he] at he₁
      simp only [List.cons.injEq, Entry.mk.injEq, and_true] at he₁
      obtain ⟨rfl, -, -⟩ := he₁
      rw [hr] at hr₁
      cases hr₁
      refine ⟨?_, _, hr', hp⟩
      intro r₀ hr₀
      rw [hr] at hr₀
      cases hr₀
      rw [hq]
      decide

/-- **The history is the runs' own.** A step moves a run into preflight exactly
when it records the run. -/
theorem step_enters {s s' : Sys} {l : Label} (h : step s l = some s') (pk : Nat) :
    EntersPreflight s s' pk ↔ ∃ r, s.runs.get pk = some r ∧
      s'.entered = ⟨pk, r.scheduledAction, r.automated⟩ :: s.entered := by
  cases l with
  | one x => exact act_enters h pk
  | dispatch now claims =>
    simp only [step] at h
    split at h
    · obtain ⟨he, hp⟩ := claims_enter_nothing h
      constructor
      · intro hx
        obtain ⟨hn, r', hr', hst⟩ := hx
        obtain ⟨r, hr, hst'⟩ := hp hr' hst
        exact absurd hst' (hn r hr)
      · intro hex
        obtain ⟨r, -, he'⟩ := hex
        rw [he] at he'
        exact absurd he' (List.cons_ne_self _ _).symm
    · cases h

/-! ## The count -/

/-- What every reachable state satisfies: keys are spent in order, a queued
run has no entry yet, no run has two, and the counts are the entries. -/
structure Counted (s : Sys) : Prop where
  stored : ∀ {pk r}, s.runs.get pk = some r → pk < s.nextPk
  past : ∀ e ∈ s.entered, e.run < s.nextPk
  waiting : ∀ {pk r}, s.runs.get pk = some r → r.status = .queued → ∀ e ∈ s.entered, e.run ≠ pk
  once : (s.entered.map Entry.run).Nodup
  count : ∀ {pk a}, s.actions.get pk = some a → a.scheduledRunCount = automatedEntries s.entered pk
  limit : ∀ {pk a}, s.actions.get pk = some a → WithinLimit a

theorem Initial.counted {s : Sys} (h : Initial s) : Counted s where
  stored hr := by have := Table.mem_of_get hr; simp [h.noRuns] at this
  past := by simp [h.nothingEntered]
  waiting hr := by have := Table.mem_of_get hr; simp [h.noRuns] at this
  once := by simp [h.nothingEntered]
  count ha := by simp [h.uncounted _ _ ha, h.nothingEntered, automatedEntries]
  limit ha := fun _ _ _ => by simp [h.uncounted _ _ ha]

theorem act_nextPk {s s' : Sys} {x : Act} (h : act s x = some s') : s.nextPk ≤ s'.nextPk := by
  cases act_history h with
  | same _ hn => exact hn
  | enters _ _ _ _ _ hn => exact Nat.le_of_eq hn.symm

theorem act_stored {s s' : Sys} {x : Act} (hi : Counted s) (h : act s x = some s') {pk : Nat} {r' : ScheduledActionRun}
    (hr : s'.runs.get pk = some r') : pk < s'.nextPk := by
  have hle : s.nextPk ≤ s'.nextPk := act_nextPk h
  have hc := act_run_change h pk
  rw [hr] at hc
  generalize ho : s.runs.get pk = o at hc
  cases hc with
  | same => exact Nat.lt_of_lt_of_le (hi.stored ho) hle
  | created _ hpk hn => omega
  | noted | started | overLimit | written | retired => exact Nat.lt_of_lt_of_le (hi.stored ho) hle

theorem act_counted {s s' : Sys} {x : Act} (hi : Counted s) (h : act s x = some s') : Counted s' := by
  have hstored : ∀ {pk r'}, s'.runs.get pk = some r' → pk < s'.nextPk := act_stored hi h
  have hcount : ∀ {pk a'}, s'.actions.get pk = some a' →
      a'.scheduledRunCount = automatedEntries s'.entered pk ∧ WithinLimit a' := by
    intro pk a' ha'
    have hc : ActionChange s s' pk _ _ := act_action h pk
    rw [ha'] at hc
    generalize ho : s.actions.get pk = o at hc
    cases hc with
    | kept hf hn =>
      have := hi.count ho
      exact ⟨by omega, hf.limit (hi.limit ho)⟩
  -- A run queued now was queued before or is new; either way nothing was recorded for it before.
  have hfree : ∀ {pk r'}, s'.runs.get pk = some r' → r'.status = .queued → ∀ e ∈ s.entered, e.run ≠ pk := by
    intro pk r' hr' hq e he heq
    rcases queued_before h hr' hq with ⟨r, hr, hq⟩ | hpk
    · exact hi.waiting hr hq e he heq
    · have := hi.past e he
      omega
  cases act_history h with
  | same he hn =>
    refine ⟨hstored, fun e hm => ?_, fun hr hq => ?_, ?_, fun ha => (hcount ha).1, fun ha => (hcount ha).2⟩
    · rw [he] at hm
      exact Nat.lt_of_lt_of_le (hi.past e hm) hn
    · rw [he]
      exact hfree hr hq
    · rw [he]
      exact hi.once
  | enters hr hq hr' hp he hn =>
    rename_i r r'
    refine ⟨hstored, fun e hm => ?_, fun hr₁ hq₁ e hm => ?_, ?_, fun ha => (hcount ha).1, fun ha => (hcount ha).2⟩
    · rw [he, List.mem_cons] at hm
      rcases hm with rfl | hm
      · exact hstored hr'
      · rw [hn]
        exact hi.past e hm
    · rw [he, List.mem_cons] at hm
      rcases hm with rfl | hm
      · rintro rfl
        rw [hr'] at hr₁
        cases hr₁
        rw [hp] at hq₁
        cases hq₁
      · exact hfree hr₁ hq₁ e hm
    · rw [he, List.map_cons, List.nodup_cons]
      refine ⟨?_, hi.once⟩
      intro hm
      obtain ⟨e, hm, heq⟩ := List.mem_map.mp hm
      exact hi.waiting hr hq e hm heq

theorem step_counted {s s' : Sys} {l : Label} (hi : Counted s) (h : step s l = some s') : Counted s' :=
  step_inv act_counted hi h

/-- A queued automated run delivered once its action has reached the limit. -/
theorem deliver_over_limit {s s' : Sys} {worker pk : Nat} {now : Time} {r : ScheduledActionRun} {a : ScheduledAction}
    (h : act s (.deliver worker pk now) = some s') (hr : s.runs.get pk = some r) (hq : r.status = .queued)
    (hm : r.automated = true) (ha : s.actions.get r.scheduledAction = some a)
    (hl : scheduledActionRunLimitReached a = true) :
    (∃ r', s'.runs.get pk = some r' ∧ r'.status = .cancelled ∧ r'.outcome = .cancelled) ∧
      (∃ a', s'.actions.get r.scheduledAction = some a' ∧ a'.enabled = false ∧ a'.nextRunAt = none) ∧
      s'.entered = s.entered := by
  have hrk : r.pk = pk := Table.key_of_get hr
  have hak : a.pk = r.scheduledAction := Table.key_of_get ha
  simp only [act, startRun, hr, hq, ha, hm, hl, ne_eq, not_true_eq_false, if_false, Bool.and_self, if_true] at h
  split at h
  · cases h
  · cases h
    exact ⟨⟨_, by rw [Table.get_put, if_pos hrk.symm], rfl, rfl⟩,
      ⟨_, by rw [Table.get_put, if_pos hak.symm], rfl, rfl⟩, rfl⟩

/-- **The run count is history, and history stays within the limit.** In every
reachable state an action's count is the number of its automated runs that
entered preflight (`step_enters`: the recorded entries are exactly those), a
run-count limit is respected, no run entered twice, and a run delivered over
the limit is cancelled in the step that disables its action. -/
theorem scheduled_run_count_is_history {s : Sys} (h : Reachable step Initial s) :
    (∀ pk a, s.actions.get pk = some a → a.scheduledRunCount = automatedEntries s.entered pk) ∧
    (∀ pk a limit, s.actions.get pk = some a → a.endCondition = .runCount → a.maxScheduledRuns = some limit →
      a.scheduledRunCount ≤ limit) ∧
    (s.entered.map Entry.run).Nodup ∧
    (∀ l s', step s l = some s' → ∀ pk, EntersPreflight s s' pk ↔ ∃ r, s.runs.get pk = some r ∧
      s'.entered = ⟨pk, r.scheduledAction, r.automated⟩ :: s.entered) ∧
    (∀ worker pk now s' r a, step s (.one (.deliver worker pk now)) = some s' → s.runs.get pk = some r →
      r.status = .queued → r.automated = true → s.actions.get r.scheduledAction = some a →
      scheduledActionRunLimitReached a = true →
      (∃ r', s'.runs.get pk = some r' ∧ r'.status = .cancelled ∧ r'.outcome = .cancelled) ∧
      (∃ a', s'.actions.get r.scheduledAction = some a' ∧ a'.enabled = false ∧ a'.nextRunAt = none) ∧
      s'.entered = s.entered) := by
  have hc : Counted s := h.inv (fun _ => Initial.counted) step_counted
  refine ⟨fun _ _ => hc.count, fun _ _ limit ha he hl => hc.limit ha he limit hl, hc.once,
    fun _ _ hs pk => step_enters hs pk, ?_⟩
  intro worker pk now s' r a hs hr hq hm ha hl
  exact deliver_over_limit hs hr hq hm ha hl

/-- A nightly shutdown that may run once. -/
def nightly : ScheduledAction where
  pk := 0
  cluster := 1
  enabled := true
  actionType := .shutdown
  actionTimeoutSeconds := 60
  scheduleType := .recurring
  catchUpPolicy := .skipMissed
  maxLatenessMinutes := 0
  endCondition := .runCount
  runUntil := none
  maxScheduledRuns := some 1
  scheduledRunCount := 0
  lastRunAt := none
  nextRunAt := some 1000
  lastStatus := .neverRun
  deletedAt := none

/-- The system with one action, before anything ran. -/
def scheduled (a : ScheduledAction) : Sys where
  actions := ⟨[a], by simp⟩
  runs := .empty
  workers := .empty
  reapers := .empty
  cancels := .empty
  nextPk := 0
  entered := []

theorem scheduled_initial {a : ScheduledAction} (h : a.scheduledRunCount = 0) : Initial (scheduled a) where
  noRuns := rfl
  noWorkers := rfl
  noReapers := rfl
  noCancels := rfl
  nothingEntered := rfl
  uncounted pk b hb := by
    have hm := Table.mem_of_get hb
    simp only [scheduled, List.mem_singleton] at hm
    rw [hm, h]

/-- The task is delivered twice, the run fails, an operator switches the
schedule on again and a second occurrence is queued. -/
def nightlyAgain : List Label :=
  [.dispatch 1000 [⟨0, .ok (some 2000)⟩], .one (.deliver 0 0 1001), .one (.deliver 1 0 1002),
    .one (.fails 0 "node unreachable"), .one (.finish 0 1003), .one (.toggle 0 true (some 2000)),
    .dispatch 2000 [⟨0, .ok (some 3000)⟩]]

theorem nightly_run_count_is_history : ∃ s s' r',
    run step (scheduled nightly) nightlyAgain = some s ∧
    (∀ pk a, s.actions.get pk = some a → a.scheduledRunCount = automatedEntries s.entered pk) ∧
    automatedEntries s.entered 0 = 1 ∧
    step s (.one (.deliver 0 1 2001)) = some s' ∧ s'.runs.get 1 = some r' ∧ r'.status = .cancelled := by
  have hr : Reachable step Initial _ := ⟨scheduled nightly, nightlyAgain, scheduled_initial rfl, rfl⟩
  obtain ⟨hcount, -, -, -, hover⟩ := scheduled_run_count_is_history hr
  obtain ⟨⟨r', hr', hst, -⟩, -⟩ := hover 0 1 2001 _ _ _ rfl rfl rfl rfl rfl rfl
  exact ⟨_, _, r', rfl, hcount, rfl, rfl, hr', hst⟩

end PveHelper.Scheduling
