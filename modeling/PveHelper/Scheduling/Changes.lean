/-
What one step writes, said once (`Effect`, `act_effect`), and from it what a
step can do to a stored run (`RunChange`, `act_run_change`), to a stored action
(`act_action`) and to the history (`act_history`). Every property of runs below
is derived from these, and no other proof unfolds a step.

The writes the source makes without looking at the stored status are singled
out by `unguardedWrite`: the worker's `_mark_submitted` and `_finish_run`, the
reaper's `_finish_run` and the cancel view's save.
-/
import PveHelper.Scheduling.System

namespace PveHelper.Scheduling

open Lib

/-- The run a step is about to overwrite without checking its stored status,
and the status it writes there. -/
def unguardedWrite (s : Sys) : Act → Option (Nat × RunStatus)
  | .submit worker _ _ => (s.workers.get worker).bind fun w =>
    match w.phase with
    | .ready => some (w.run, .polling)
    | _ => none
  | .finish worker _ => (s.workers.get worker).bind fun w =>
    match w.phase with
    | .closing f => some (w.run, f.status)
    | _ => none
  | .reapNext reaper _ => (s.reapers.get reaper).bind fun p =>
    match p.rows with
    | [] => none
    | row :: _ => if isStale p.now p.settingsTimeout row then some (row.1.pk, .stale) else none
  | .cancelSave view _ _ => (s.cancels.get view).map fun v => (v.run.pk, .cancelled)
  | _ => none

/-- The tables a step leaves, where the history and the key sequence stand still. -/
structure Writes (s s' : Sys) (runs : Table ScheduledActionRun.pk) (actions : Table ScheduledAction.pk) : Prop where
  runs : s'.runs = runs
  actions : s'.actions = actions
  entered : s'.entered = s.entered
  nextPk : s'.nextPk = s.nextPk

/-- What a party's step writes. -/
inductive Effect (s s' : Sys) : Act → Prop
  /-- Neither runs nor actions; an unguarded write is due here only for a row that is gone. -/
  | aside {x : Act} : Writes s s' s.runs s.actions →
      (∀ pk st, unguardedWrite s x = some (pk, st) → s.runs.get pk = none) → Effect s s' x
  | noted {x : Act} {run : Nat} {p : Option Preflight} : Writes s s' (storePreflight s.runs run p) s.actions →
      unguardedWrite s x = none → Effect s s' x
  | submitted {x : Act} {run : Nat} {node upid : String} : Writes s s' (markSubmitted s.runs run node upid) s.actions →
      unguardedWrite s x = some (run, .polling) → Effect s s' x
  | finished {x : Act} {run action : Nat} {f : Finish} {now : Time} :
      Writes s s' (s.runs.alter run (f.onRun now) (f.onRun_pk now))
        (s.actions.alter action (f.onAction now) (f.onAction_pk now)) →
      unguardedWrite s x = some (run, f.status) → Effect s s' x
  | cancelled {x : Act} {run action : Nat} {username : String} {now : Time} :
      Writes s s' (s.runs.alter run (cancelledRun username now) (cancelledRun_pk username now))
        (s.actions.alter action (fun a => { a with lastStatus := .cancelled, lastRunAt := some now }) fun _ => rfl) →
      unguardedWrite s x = some (run, .cancelled) → Effect s s' x
  | delivered {worker run : Nat} {now : Time} : startRun s worker run now = some s' →
      Effect s s' (.deliver worker run now)
  | claimed {now : Time} {c : Claim} : claimAction s now c = some s' → Effect s s' (.claim now c)
  | queued {action : Nat} {username : String} {now : Time} : queueManual s action username now = some s' →
      Effect s s' (.queueManual action username now)
  | toggled {action : Nat} {enabled : Bool} {next : Option Time} :
      Writes s s' s.runs (s.actions.alter action (toggledAction enabled next) (toggledAction_pk enabled next)) →
      Effect s s' (.toggle action enabled next)
  | deleted {action : Nat} {now : Time} : deleteAction s action now = some s' → Effect s s' (.deleteAction action now)
  | pruned {now : Time} {days : Nat} : Writes s s' (pruneRuns s.runs now days) s.actions →
      Effect s s' (.prune now days)
  | retired {cluster : Nat} {mode : RetirementMode} {t : Time} : finalizeRetirement s cluster mode t = some s' →
      Effect s s' (.retire cluster mode t)

theorem Effect.quiet {s s' : Sys} {x : Act} (hs : Writes s s' s.runs s.actions) (hw : unguardedWrite s x = none) :
    Effect s s' x := by
  refine .aside hs ?_
  intro pk st hw'
  rw [hw] at hw'
  cases hw'

/-- Every step writes what `Effect` says. -/
theorem act_effect {s s' : Sys} {x : Act} (h : act s x = some s') : Effect s s' x := by
  cases x with
  | deliver worker run now =>
    simp only [act] at h
    split at h
    · cases h
    · exact .delivered h
  | lookUp worker p =>
    simp only [act, Option.bind_eq_some_iff] at h
    obtain ⟨w, _, h⟩ := h
    split at h <;> cases h
    exact .noted (p := some p) ⟨rfl, rfl, rfl, rfl⟩ rfl
  | lookUpFailed worker p message =>
    simp only [act, Option.bind_eq_some_iff] at h
    obtain ⟨w, _, h⟩ := h
    split at h <;> cases h
    exact .noted (p := p) ⟨rfl, rfl, rfl, rfl⟩ rfl
  | submit worker node upid =>
    simp only [act, Option.bind_eq_some_iff] at h
    obtain ⟨w, hw, h⟩ := h
    split at h <;> cases h
    next hp => exact .submitted ⟨rfl, rfl, rfl, rfl⟩ (by simp [unguardedWrite, hw, hp])
  | taskEnds | timesOut =>
    simp only [act, Option.bind_eq_some_iff] at h
    obtain ⟨w, _, h⟩ := h
    split at h <;> cases h
    exact .quiet ⟨rfl, rfl, rfl, rfl⟩ rfl
  | fails worker message =>
    simp only [act, Option.bind_eq_some_iff] at h
    obtain ⟨w, _, h⟩ := h
    split at h <;> cases h <;> exact .quiet ⟨rfl, rfl, rfl, rfl⟩ rfl
  | checkCancelled worker e =>
    simp only [act, Option.bind_eq_some_iff] at h
    obtain ⟨w, _, h⟩ := h
    split at h
    · split at h
      · cases h
        exact .quiet ⟨rfl, rfl, rfl, rfl⟩ rfl
      · split at h <;> cases h <;> exact .quiet ⟨rfl, rfl, rfl, rfl⟩ rfl
    · cases h
  | finish worker now =>
    simp only [act, Option.bind_eq_some_iff] at h
    obtain ⟨w, hw, h⟩ := h
    split at h <;> cases h
    next f hp => exact .finished (f := f) ⟨rfl, rfl, rfl, rfl⟩ (by simp [unguardedWrite, hw, hp])
  | crash worker | cancelAbandon view =>
    simp only [act, Option.map_eq_some_iff] at h
    obtain ⟨w, _, rfl⟩ := h
    exact .quiet ⟨rfl, rfl, rfl, rfl⟩ rfl
  | reap reaper now timeout =>
    simp only [act] at h
    split at h <;> cases h
    exact .quiet ⟨rfl, rfl, rfl, rfl⟩ rfl
  | reapNext reaper now =>
    simp only [act, Option.bind_eq_some_iff] at h
    obtain ⟨p, hp, h⟩ := h
    split at h
    · rename_i hrows
      cases h
      exact .quiet ⟨rfl, rfl, rfl, rfl⟩ (by simp [unguardedWrite, hp, hrows])
    next row rows hrows =>
    split at h
    · rename_i hst
      cases h
      exact .finished (f := finishStale) ⟨rfl, rfl, rfl, rfl⟩ (by simp [unguardedWrite, hp, hrows, hst, finishStale])
    · rename_i hst
      cases h
      exact .quiet ⟨rfl, rfl, rfl, rfl⟩ (by simp [unguardedWrite, hp, hrows, hst])
  | cancelRead view run =>
    simp only [act, Option.bind_eq_some_iff] at h
    obtain ⟨r, _, h⟩ := h
    split at h <;> cases h
    exact .quiet ⟨rfl, rfl, rfl, rfl⟩ rfl
  | cancelSave view username now =>
    simp only [act, Option.map_eq_some_iff] at h
    obtain ⟨v, hv, rfl⟩ := h
    have hw : unguardedWrite s (.cancelSave view username now) = some (v.run.pk, .cancelled) := by
      simp [unguardedWrite, hv]
    split
    · -- The row is gone, and nothing is saved.
      rename_i hnone
      refine .aside ⟨rfl, rfl, rfl, rfl⟩ ?_
      intro pk st hw'
      rw [hw] at hw'
      cases hw'
      exact Option.isNone_iff_eq_none.mp hnone
    · exact .cancelled ⟨rfl, rfl, rfl, rfl⟩ hw
  | claim now c => exact .claimed h
  | queueManual action username now => exact .queued h
  | toggle action enabled nextRunAt =>
    simp only [act, Option.some.injEq] at h
    subst h
    exact .toggled ⟨rfl, rfl, rfl, rfl⟩
  | deleteAction action now => exact .deleted h
  | prune now days =>
    simp only [act, Option.some.injEq] at h
    subst h
    exact .pruned ⟨rfl, rfl, rfl, rfl⟩
  | retire cluster mode t => exact .retired h

/-- The run's identity: what no step rewrites. -/
structure SameRun (r r' : ScheduledActionRun) : Prop where
  action : r'.scheduledAction = r.scheduledAction
  key : r'.occurrenceKey = r.occurrenceKey

theorem SameRun.refl (r : ScheduledActionRun) : SameRun r r := ⟨rfl, rfl⟩

/-- The ways one step from `s` to `s'` can change the run stored under `pk`. -/
inductive RunChange (s s' : Sys) (pk : Nat) : Act → Option ScheduledActionRun → Option ScheduledActionRun → Prop
  | same : RunChange s s' pk x o o
  /-- Queued or recorded as missed, for an action with nothing in flight. -/
  | created : unguardedWrite s x = none → pk = s.nextPk → s'.nextPk = s.nextPk + 1 →
      s.actions.get a.pk = some a → a.deletedAt = none → hasInFlightRun s.runs a.pk = false →
      r.scheduledAction = a.pk → r.status = .queued ∨ r.status = .missed →
      RunChange s s' pk x o (some r)
  | pruned : inFlight r.status = false → RunChange s s' pk x (some r) none
  /-- `_store_preflight`. -/
  | noted : r'.status = r.status → r'.result = r.result → SameRun r r' → RunChange s s' pk x (some r) (some r')
  | started : r.status = .queued → r'.status = .preflight → SameRun r r' →
      s'.entered = ⟨pk, r.scheduledAction, r.automated⟩ :: s.entered →
      RunChange s s' pk (.deliver w pk t) (some r) (some r')
  /-- Over its action's run limit. -/
  | overLimit : r.status = .queued → r'.status = .cancelled → SameRun r r' →
      RunChange s s' pk (.deliver w pk t) (some r) (some r')
  | written : unguardedWrite s x = some (pk, r'.status) → (r'.result = r.result ∨ ∀ code, r'.result ≠ .retirement code) →
      SameRun r r' → RunChange s s' pk x (some r) (some r')
  | retired : ofCluster s.actions c r = true → inFlight r.status = true →
      (code = notStartedCode m ∨ code = codeForceRetiredUnresolvable) →
      RunChange s s' pk (.retire c m t) (some r) (some (retiredRun code t r))

/-! ## Table writes as changes -/

theorem storePreflight_change {s s' : Sys} {x : Act} (run : Nat) (p : Option Preflight) (pk : Nat) :
    RunChange s s' pk x (s.runs.get pk) ((storePreflight s.runs run p).get pk) := by
  cases p with
  | none => exact .same
  | some p =>
    simp only [storePreflight, Table.get_alter]
    split
    · cases s.runs.get pk with
      | none => exact .same
      | some r => exact .noted rfl rfl ⟨rfl, rfl⟩
    · exact .same

/-- An unguarded write of one row. -/
theorem alter_change {s s' : Sys} {x : Act} {run : Nat} (st : RunStatus) {f : ScheduledActionRun → ScheduledActionRun}
    (hf : ∀ r, (f r).pk = r.pk) (hw : unguardedWrite s x = some (run, st)) (hst : ∀ r, (f r).status = st)
    (hres : ∀ r, (f r).result = r.result ∨ ∀ code, (f r).result ≠ .retirement code) (hsame : ∀ r, SameRun r (f r))
    (pk : Nat) : RunChange s s' pk x (s.runs.get pk) ((s.runs.alter run f hf).get pk) := by
  rw [Table.get_alter]
  split
  · rename_i he
    subst he
    cases s.runs.get pk with
    | none => exact .same
    | some r => exact .written (by rw [hst]; exact hw) (hres r) (hsame r)
  · exact .same

theorem put_new_change {s s' : Sys} {x : Act} {a : ScheduledAction} {r : ScheduledActionRun}
    (hw : unguardedWrite s x = none) (hpk : r.pk = s.nextPk) (hnext : s'.nextPk = s.nextPk + 1)
    (ha : s.actions.get a.pk = some a) (hd : a.deletedAt = none) (hn : hasInFlightRun s.runs a.pk = false)
    (hra : r.scheduledAction = a.pk) (hst : r.status = .queued ∨ r.status = .missed) (pk : Nat) :
    RunChange s s' pk x (s.runs.get pk) ((s.runs.put r).get pk) := by
  rw [Table.get_put]
  split
  · rename_i he
    exact .created hw (he.trans hpk) hnext ha hd hn hra hst
  · exact .same

/-- A stored run is stored again. -/
theorem put_stored_change {s s' : Sys} {x : Act} {run : Nat} {r : ScheduledActionRun} (r' : ScheduledActionRun)
    (hr : s.runs.get run = some r) (hpk : r'.pk = r.pk) (hc : RunChange s s' run x (some r) (some r')) (pk : Nat) :
    RunChange s s' pk x (s.runs.get pk) ((s.runs.put r').get pk) := by
  have hrk : r.pk = run := Table.key_of_get hr
  rw [Table.get_put]
  by_cases hk : pk = r'.pk
  · rw [if_pos hk]
    have hk : pk = run := hk.trans (hpk.trans hrk)
    subst hk
    rw [hr]
    exact hc
  · rw [if_neg hk]
    exact .same

theorem startRun_change {s s' : Sys} {worker run : Nat} {now : Time} (h : startRun s worker run now = some s')
    (pk : Nat) : RunChange s s' pk (.deliver worker run now) (s.runs.get pk) (s'.runs.get pk) := by
  unfold startRun at h
  split at h
  · cases h; exact .same
  next r hr =>
  split at h
  · cases h; exact .same
  next hq =>
  simp only [ne_eq, Decidable.not_not] at hq
  split at h
  · cases h
  next a ha =>
  have hak : a.pk = r.scheduledAction := Table.key_of_get ha
  split at h
  · cases h
    exact put_stored_change { r with
      status := .cancelled, outcome := .cancelled, finishedAt := some now
      error := "The scheduled run limit was already reached." } hr rfl (.overLimit hq rfl ⟨rfl, rfl⟩) pk
  · simp only [Option.some.injEq] at h
    subst h
    exact put_stored_change { r with status := .preflight, startedAt := some now } hr rfl
      (.started hq rfl ⟨rfl, rfl⟩ (by rw [hak])) pk

theorem claimAction_change {s s' : Sys} {now : Time} {c : Claim} (h : claimAction s now c = some s') (pk : Nat) :
    RunChange s s' pk (.claim now c) (s.runs.get pk) (s'.runs.get pk) := by
  unfold claimAction at h
  split at h
  · cases h
  next a ha =>
  have hak : a.pk = c.action := Table.key_of_get ha
  rw [← hak] at ha
  split at h
  · cases h
  next hen =>
  have hd : a.deletedAt = none := by
    simp only [Bool.or_eq_true, not_or, Bool.not_eq_true, Option.isSome_eq_false_iff, Option.isNone_iff_eq_none] at hen
    exact hen.2
  split at h
  · cases h
  next plannedFor _ =>
  split at h
  · cases h
  split at h
  · cases h; exact .same
  next hn =>
  have hn : hasInFlightRun s.runs a.pk = false := by simpa using hn
  split at h
  · cases h; exact .same
  split at h
  · cases h
    exact put_new_change rfl rfl rfl ha hd hn rfl (.inr rfl) pk
  · cases h
    exact put_new_change rfl rfl rfl ha hd hn rfl (.inl rfl) pk

theorem queueManual_change {s s' : Sys} {action : Nat} {username : String} {now : Time}
    (h : queueManual s action username now = some s') (pk : Nat) :
    RunChange s s' pk (.queueManual action username now) (s.runs.get pk) (s'.runs.get pk) := by
  unfold queueManual at h
  split at h
  · cases h
  next a ha =>
  have hak : a.pk = action := Table.key_of_get ha
  rw [← hak] at ha
  simp only at h
  split at h
  · cases h
  next hg =>
  simp only [Bool.or_eq_true, not_or, Bool.not_eq_true, Option.isSome_eq_false_iff, Option.isNone_iff_eq_none] at hg
  cases h
  exact put_new_change rfl rfl rfl ha hg.1.1 hg.1.2 rfl (.inl rfl) pk

theorem pruneRuns_change {s s' : Sys} {x : Act} (now : Time) (days : Nat) (pk : Nat) :
    RunChange s s' pk x (s.runs.get pk) ((pruneRuns s.runs now days).get pk) := by
  rw [pruneRuns, Table.get_keep]
  cases s.runs.get pk with
  | none => exact .same
  | some r =>
    rw [Option.filter_some]
    split
    · exact .same
    next hp =>
    simp only [Bool.or_eq_true, not_or, Bool.not_eq_true] at hp
    exact .pruned hp.1

theorem finalizeRetirement_change {s s' : Sys} {cluster : Nat} {mode : RetirementMode} {t : Time}
    (h : finalizeRetirement s cluster mode t = some s') (pk : Nat) :
    RunChange s s' pk (.retire cluster mode t) (s.runs.get pk) (s'.runs.get pk) := by
  unfold finalizeRetirement at h
  split at h
  · cases h
  simp only [Option.some.injEq] at h
  subst h
  cases hr : s.runs.get pk with
  | none => cases mode <;> simp only [Table.get_updateWhere, hr, Option.map_none] <;> exact .same
  | some r =>
    by_cases hc : ofCluster s.actions cluster r = true
    · by_cases hn : retirementNotStarted r.status = true
      · have hf : inFlight r.status = true := by rw [inFlight_eq_retirement, hn]; rfl
        cases mode with
        | verified =>
          simp only [Table.get_updateWhere, hr, Option.map_some, hc, hn, Bool.and_true, if_true]
          exact .retired hc hf (.inl rfl)
        | forced =>
          simp only [Table.get_updateWhere, hr, Option.map_some, hc, hn, Bool.and_true, if_true, retiredRun,
            retirementActive, Bool.and_false, Bool.false_eq_true, if_false]
          exact .retired hc hf (.inl rfl)
      · cases mode with
        | verified => simp only [Table.get_updateWhere, hr, Option.map_some, hn, Bool.and_false]; exact .same
        | forced =>
          simp only [Table.get_updateWhere, hr, Option.map_some, hn, Bool.and_false, Bool.false_eq_true, if_false,
            hc, Bool.true_and]
          split
          · rename_i hact
            exact .retired hc (by rw [inFlight_eq_retirement, hact, Bool.or_true]) (.inr rfl)
          · exact .same
    · cases mode <;> simp only [Table.get_updateWhere, hr, Option.map_some, hc, Bool.false_and, Bool.false_eq_true,
        if_false] <;> exact .same

theorem deleteAction_runs {s s' : Sys} {action : Nat} {now : Time} (h : deleteAction s action now = some s') :
    s'.runs = s.runs := by
  unfold deleteAction at h
  split at h
  · cases h
  split at h <;> cases h
  rfl

/-- Every step changes each stored run in one of the ways of `RunChange`. -/
theorem act_run_change {s s' : Sys} {x : Act} (h : act s x = some s') (pk : Nat) :
    RunChange s s' pk x (s.runs.get pk) (s'.runs.get pk) := by
  cases act_effect h with
  | aside hs => rw [hs.runs]; exact .same
  | noted hs => rw [hs.runs]; exact storePreflight_change _ _ pk
  | submitted hs hw =>
    rw [hs.runs]
    exact alter_change .polling (submittedRun_pk _ _) hw (fun _ => rfl) (fun _ => .inl rfl) (fun _ => ⟨rfl, rfl⟩) pk
  | @finished _ _ _ f now hs hw =>
    rw [hs.runs]
    exact alter_change f.status (f.onRun_pk now) hw (fun _ => rfl) (fun _ => .inr f.ownResult) (fun _ => ⟨rfl, rfl⟩) pk
  | @cancelled _ _ _ username now hs hw =>
    rw [hs.runs]
    exact alter_change .cancelled (cancelledRun_pk username now) hw (fun _ => rfl)
      (fun _ => .inr (by simp [cancelledRun])) (fun _ => ⟨rfl, rfl⟩) pk
  | delivered hs => exact startRun_change hs pk
  | claimed hs => exact claimAction_change hs pk
  | queued hs => exact queueManual_change hs pk
  | toggled hs => rw [hs.runs]; exact .same
  | deleted hs => rw [deleteAction_runs hs]; exact .same
  | pruned hs => rw [hs.runs]; exact pruneRuns_change _ _ pk
  | retired hs => exact finalizeRetirement_change hs pk

/-! ## Actions and history -/

/-- The automated runs of an action that entered preflight. -/
def automatedEntries (es : List Entry) (action : Nat) : Nat :=
  es.countP fun e => decide (e.action = action) && e.automated

/-- Under a run-count end condition, no more scheduled runs than its maximum. -/
def WithinLimit (a : ScheduledAction) : Prop :=
  a.endCondition = .runCount → ∀ limit, a.maxScheduledRuns = some limit → a.scheduledRunCount ≤ limit

/-- What a step keeps of a stored action. -/
structure ActionFrame (a a' : ScheduledAction) : Prop where
  cluster : a'.cluster = a.cluster
  endCondition : a'.endCondition = a.endCondition
  maxScheduledRuns : a'.maxScheduledRuns = a.maxScheduledRuns
  deleted : a.deletedAt ≠ none → a'.deletedAt = a.deletedAt
  limit : WithinLimit a → WithinLimit a'

theorem ActionFrame.refl (a : ScheduledAction) : ActionFrame a a := ⟨rfl, rfl, rfl, fun _ => rfl, id⟩

/-- Rewriting columns the frame does not speak of. -/
theorem ActionFrame.of_eq {a a' : ScheduledAction} (hc : a'.cluster = a.cluster)
    (he : a'.endCondition = a.endCondition) (hm : a'.maxScheduledRuns = a.maxScheduledRuns)
    (hd : a'.deletedAt = a.deletedAt) (hn : a'.scheduledRunCount = a.scheduledRunCount) : ActionFrame a a' :=
  ⟨hc, he, hm, fun _ => hd, fun h he' limit hl => hn ▸ h (he ▸ he') limit (hm ▸ hl)⟩

/-- What a step does to the action stored under `pk`: its count moves with the
history, and nothing appears or disappears. -/
inductive ActionChange (s s' : Sys) (pk : Nat) : Option ScheduledAction → Option ScheduledAction → Prop
  | absent : ActionChange s s' pk none none
  | kept : ActionFrame a a' →
      a'.scheduledRunCount + automatedEntries s.entered pk = a.scheduledRunCount + automatedEntries s'.entered pk →
      ActionChange s s' pk (some a) (some a')

/-- The step changes the action stored under `pk` in one of these ways. -/
def ActionStep (s s' : Sys) (pk : Nat) : Prop := ActionChange s s' pk (s.actions.get pk) (s'.actions.get pk)

theorem ActionStep.same {s s' : Sys} {pk : Nat} (ha : s'.actions = s.actions) (he : s'.entered = s.entered) :
    ActionStep s s' pk := by
  unfold ActionStep
  rw [ha]
  cases s.actions.get pk with
  | none => exact .absent
  | some a => exact .kept (.refl a) (by rw [he])

theorem ActionStep.alter {s s' : Sys} {pk k : Nat} {f : ScheduledAction → ScheduledAction}
    (hf : ∀ a, (f a).pk = a.pk) (ha : s'.actions = s.actions.alter k f hf) (he : s'.entered = s.entered)
    (hfr : ∀ a, ActionFrame a (f a)) (hn : ∀ a, (f a).scheduledRunCount = a.scheduledRunCount) :
    ActionStep s s' pk := by
  unfold ActionStep
  rw [ha, Table.get_alter]
  cases s.actions.get pk with
  | none => split <;> exact .absent
  | some a =>
    split
    · exact .kept (hfr a) (by rw [he, hn])
    · exact .kept (.refl a) (by rw [he])

/-- The action is stored again with some columns rewritten. -/
theorem ActionStep.put {s s' : Sys} {pk : Nat} {b : ScheduledAction} (b' : ScheduledAction)
    (hb : s.actions.get b.pk = some b) (hpk : b'.pk = b.pk) (ha : s'.actions = s.actions.put b')
    (hfr : ActionFrame b b')
    (hn : b'.scheduledRunCount + automatedEntries s.entered b.pk =
      b.scheduledRunCount + automatedEntries s'.entered b.pk)
    (ho : ∀ k, k ≠ b.pk → automatedEntries s'.entered k = automatedEntries s.entered k) : ActionStep s s' pk := by
  unfold ActionStep
  rw [ha, Table.get_put, hpk]
  by_cases hk : pk = b.pk
  · subst hk
    rw [if_pos rfl, hb]
    exact .kept hfr hn
  · rw [if_neg hk]
    cases s.actions.get pk with
    | none => exact .absent
    | some a => exact .kept (.refl a) (by rw [ho pk hk])

theorem advance_frame (a : ScheduledAction) (now : Time) (next : Except String (Option Time)) (status : LastStatus) :
    ActionFrame a (advanceActionAfterClaim a now next status).1 := by
  obtain ⟨-, hc, he, hm, hn, hd⟩ := advanceActionAfterClaim_frame a now next status
  exact .of_eq hc he hm hd hn

theorem startRun_action {s s' : Sys} {worker run : Nat} {now : Time} (h : startRun s worker run now = some s')
    (pk : Nat) : ActionStep s s' pk := by
  unfold startRun at h
  split at h
  · cases h; exact .same rfl rfl
  next r hr =>
  split at h
  · cases h; exact .same rfl rfl
  split at h
  · cases h
  next b hb =>
  have hbk : b.pk = r.scheduledAction := Table.key_of_get hb
  rw [← hbk] at hb
  split at h
  · cases h
    exact .put { b with enabled := false, nextRunAt := none } hb rfl rfl (.of_eq rfl rfl rfl rfl rfl) rfl fun _ _ => rfl
  next hlim =>
  simp only [Option.some.injEq] at h
  subst h
  cases hm : r.automated with
  | false =>
    refine .put b hb rfl (by simp) (.refl b) (by simp [automatedEntries]) fun k hk => by simp [automatedEntries]
  | true =>
    -- An automated run: the limit check has just passed, and the count moves by one.
    have hlim : scheduledActionRunLimitReached b = false := by simpa [hm] using hlim
    have hlt : ∀ limit, b.endCondition = .runCount → b.maxScheduledRuns = some limit → b.scheduledRunCount < limit := by
      intro limit he hl
      simpa [scheduledActionRunLimitReached, he, hl] using hlim
    have hother : ∀ k, k ≠ b.pk →
        automatedEntries (⟨run, b.pk, true⟩ :: s.entered) k = automatedEntries s.entered k := by
      intro k hk
      simp [automatedEntries, Ne.symm hk]
    have hself : automatedEntries (⟨run, b.pk, true⟩ :: s.entered) b.pk = automatedEntries s.entered b.pk + 1 := by
      simp [automatedEntries]
    refine .put (if scheduledActionRunLimitReached { b with scheduledRunCount := b.scheduledRunCount + 1 } then
        { b with scheduledRunCount := b.scheduledRunCount + 1, enabled := false, nextRunAt := none }
        else { b with scheduledRunCount := b.scheduledRunCount + 1 }) hb (by split <;> rfl) (by simp) ?_ ?_ hother
    · split <;> exact ⟨rfl, rfl, rfl, fun _ => rfl, fun _ he limit hl => hlt limit he hl⟩
    · rw [hself]
      split <;> simp only [] <;> omega

theorem claimAction_action {s s' : Sys} {now : Time} {c : Claim} (h : claimAction s now c = some s')
    (pk : Nat) : ActionStep s s' pk := by
  unfold claimAction at h
  split at h
  · cases h
  next b hb =>
  have hbk : b.pk = c.action := Table.key_of_get hb
  rw [← hbk] at hb
  have hput : ∀ status, ∀ s'' : Sys, s''.actions = s.actions.put (advanceActionAfterClaim b now c.next status).1 →
      s''.entered = s.entered → ActionStep s s'' pk := fun status s'' ha he => by
    obtain ⟨hpk, -, -, -, hn, -⟩ := advanceActionAfterClaim_frame b now c.next status
    exact .put _ hb hpk ha (advance_frame b now c.next status) (by rw [hn, he]) fun _ _ => by rw [he]
  split at h
  · cases h
  split at h
  · cases h
  split at h
  · cases h
  split at h
  · cases h; exact .same rfl rfl
  split at h
  · cases h; exact hput .skipped _ rfl rfl
  split at h
  · cases h; exact hput .missed _ rfl rfl
  · cases h; exact hput .queued _ rfl rfl

theorem queueManual_action {s s' : Sys} {action : Nat} {username : String} {now : Time}
    (h : queueManual s action username now = some s') (pk : Nat) : ActionStep s s' pk := by
  simp only [queueManual] at h
  split at h
  · cases h
  next b hb =>
  have hbk : b.pk = action := Table.key_of_get hb
  rw [← hbk] at hb
  split at h
  · cases h
  · cases h
    exact .put { b with lastStatus := .queued, lastRunAt := some now } hb rfl rfl (.of_eq rfl rfl rfl rfl rfl)
      rfl fun _ _ => rfl

theorem deleteAction_action {s s' : Sys} {action : Nat} {now : Time} (h : deleteAction s action now = some s')
    (pk : Nat) : ActionStep s s' pk := by
  simp only [deleteAction] at h
  split at h
  · cases h
  next b hb =>
  have hbk : b.pk = action := Table.key_of_get hb
  rw [← hbk] at hb
  split at h
  · cases h
  next hg =>
  simp only [Bool.or_eq_true, not_or, Option.not_isSome_iff_eq_none] at hg
  cases h
  exact .put { b with enabled := false, nextRunAt := none, deletedAt := some now } hb rfl rfl
    ⟨rfl, rfl, rfl, fun hd => absurd hg.1 hd, id⟩ rfl fun _ _ => rfl

theorem finalizeRetirement_action {s s' : Sys} {cluster : Nat} {mode : RetirementMode} {t : Time}
    (h : finalizeRetirement s cluster mode t = some s') (pk : Nat) : ActionStep s s' pk := by
  simp only [finalizeRetirement] at h
  split at h
  · cases h
  simp only [Option.some.injEq] at h
  subst h
  unfold ActionStep
  simp only [Table.get_updateWhere]
  cases s.actions.get pk with
  | none => exact .absent
  | some a =>
    rw [Option.map_some]
    by_cases hc : (decide (a.cluster = cluster) && a.deletedAt.isNone) = true
    · rw [if_pos hc]
      simp only [Bool.and_eq_true, Option.isNone_iff_eq_none] at hc
      exact .kept ⟨rfl, rfl, rfl, fun hd => absurd hc.2 hd, id⟩ rfl
    · rw [if_neg hc]
      exact .kept (.refl a) rfl

/-- Every step keeps the stored actions, and moves an action's count exactly
with the entries of its automated runs into preflight. -/
theorem act_action {s s' : Sys} {x : Act} (h : act s x = some s') (pk : Nat) : ActionStep s s' pk := by
  cases act_effect h with
  | aside hs | noted hs | submitted hs | pruned hs => exact .same hs.actions hs.entered
  | @finished _ _ _ f now hs =>
    exact .alter (f.onAction_pk now) hs.actions hs.entered (fun _ => .of_eq rfl rfl rfl rfl rfl) fun _ => rfl
  | cancelled hs => exact .alter _ hs.actions hs.entered (fun _ => .of_eq rfl rfl rfl rfl rfl) fun _ => rfl
  | toggled hs => exact .alter _ hs.actions hs.entered (fun _ => .of_eq rfl rfl rfl rfl rfl) fun _ => rfl
  | delivered hs => exact startRun_action hs pk
  | claimed hs => exact claimAction_action hs pk
  | queued hs => exact queueManual_action hs pk
  | deleted hs => exact deleteAction_action hs pk
  | retired hs => exact finalizeRetirement_action hs pk

/-- What a step does to the history and to the key sequence: nothing but
spending keys, or one queued run entering preflight. -/
inductive HistoryStep (s s' : Sys) : Prop
  | same : s'.entered = s.entered → s.nextPk ≤ s'.nextPk → HistoryStep s s'
  | enters {r r' : ScheduledActionRun} : s.runs.get r.pk = some r → r.status = .queued →
      s'.runs.get r.pk = some r' → r'.status = .preflight →
      s'.entered = ⟨r.pk, r.scheduledAction, r.automated⟩ :: s.entered → s'.nextPk = s.nextPk → HistoryStep s s'

theorem startRun_history {s s' : Sys} {worker run : Nat} {now : Time} (h : startRun s worker run now = some s') :
    HistoryStep s s' := by
  unfold startRun at h
  split at h
  · cases h; exact .same rfl (Nat.le_refl _)
  next r hr =>
  have hrk : r.pk = run := Table.key_of_get hr
  split at h
  · cases h; exact .same rfl (Nat.le_refl _)
  next hq =>
  simp only [ne_eq, Decidable.not_not] at hq
  split at h
  · cases h
  next a ha =>
  have hak : a.pk = r.scheduledAction := Table.key_of_get ha
  split at h
  · cases h; exact .same rfl (Nat.le_refl _)
  · simp only [Option.some.injEq] at h
    subst h
    refine .enters (r := r) (hrk ▸ hr) hq (by rw [Table.get_put, if_pos rfl]) rfl ?_ rfl
    rw [hak, hrk]

/-- Whatever branch claims, only the key sequence may move. -/
theorem claimAction_history {s s' : Sys} {now : Time} {c : Claim} (h : claimAction s now c = some s') :
    HistoryStep s s' := by
  simp only [claimAction] at h
  repeat' split at h
  all_goals cases h
  all_goals exact .same rfl (by simp)

theorem act_history {s s' : Sys} {x : Act} (h : act s x = some s') : HistoryStep s s' := by
  cases act_effect h with
  | aside hs | noted hs | submitted hs | finished hs | cancelled hs | toggled hs | pruned hs =>
    exact .same hs.entered (Nat.le_of_eq hs.nextPk.symm)
  | delivered hs => exact startRun_history hs
  | claimed hs => exact claimAction_history hs
  | queued hs =>
    simp only [queueManual] at hs
    split at hs
    · cases hs
    · split at hs <;> cases hs
      exact .same rfl (Nat.le_succ _)
  | deleted hs =>
    simp only [deleteAction] at hs
    split at hs
    · cases hs
    · split at hs <;> cases hs
      exact .same rfl (Nat.le_refl _)
  | retired hs =>
    simp only [finalizeRetirement] at hs
    split at hs <;> cases hs
    exact .same rfl (Nat.le_refl _)

end PveHelper.Scheduling
