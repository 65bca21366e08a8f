/-
When a schedule runs next (`core/services/scheduled_recurrence.py`). The times of a
recurrence are wall-clock times, which `dateutil` compares as such, and the answer is
the instant that the next of them stands for; the two orders differ where the zone sets
its clock back.
-/
import PveHelper.Lib.Atomic
import PveHelper.Lib.Double
import PveHelper.Lib.Json
import PveHelper.Lib.Zone
import PveHelper.Scheduling.Rows

namespace PveHelper.Scheduling

open Lib

/-! ## Schedules -/

/-- `ScheduledAction.RecurrenceKind`, and whatever else the column holds. -/
inductive RecurrenceKind
  | none | daily | weekly | monthlyOrdinal | monthlyDay
  | other (kind : String)
deriving DecidableEq, Repr

def RecurrenceKind.text : RecurrenceKind → String
  | .none => "none"
  | .daily => "daily"
  | .weekly => "weekly"
  | .monthlyOrdinal => "monthly_ordinal"
  | .monthlyDay => "monthly_day"
  | .other kind => kind

/-- What `next_run_after` reads of a `ScheduledAction`; instants are in microseconds. -/
structure ActionSchedule where
  scheduleType : ScheduleType
  runAt : Option Int
  nextRunAt : Option Int
  timezone : String
  recurrenceKind : RecurrenceKind
  recurrence : Json

abbrev RecurrenceFields := List (String × Json)

/-- `action.recurrence if isinstance(action.recurrence, dict) else {}`. -/
def ActionSchedule.fields (a : ActionSchedule) : RecurrenceFields :=
  match a.recurrence with
  | .obj fields => fields
  | _ => []

/-- What is raised: `RecurrenceError`, or the `OverflowError` of an infinite number. -/
inductive RecurrenceRaised
  | recurrence (message : String)
  | overflow
deriving DecidableEq, Repr

abbrev RecurrenceM := Except RecurrenceRaised

def recurrenceError {α : Type} (message : String) : RecurrenceM α := .error (.recurrence message)

/-! ## Values -/

/-- `int(value)`, where `TypeError` and `ValueError` are raised as this. -/
def intOr (message : String) : Json → RecurrenceM Int
  | .int n => .ok n
  | .bool b => .ok (if b then 1 else 0)
  | .str s => (Text.toInt s).elim (recurrenceError message) .ok
  | .float text =>
    match Double.ofText text with
    | some (.finite negative units) =>
      let whole : Int := units / 2 ^ 1074
      .ok (if negative then -whole else whole)
    | some (.inf _) => .error .overflow
    | _ => recurrenceError message
  | _ => recurrenceError message

/-- `fields.get(key, fields.get(…, default))`. -/
def getAny (fields : RecurrenceFields) (keys : List String) (default : Json) : Json :=
  (keys.findSome? (Json.lookup fields)).getD default

/-- `_list_values`. -/
def listValues : Json → List Json
  | .null => []
  | .arr xs => xs
  | .str s =>
    if s.toList.contains ',' then (((Text.split ',' s).map Text.strip).filter (· != "")).map .str else [.str s]
  | value => [value]

def weekdayNames : List (String × Int) :=
  [("monday", 0), ("mon", 0), ("tuesday", 1), ("tue", 1), ("wednesday", 2), ("wed", 2), ("thursday", 3), ("thu", 3),
    ("friday", 4), ("fri", 4), ("saturday", 5), ("sat", 5), ("sunday", 6), ("sun", 6)]

def ordinals : List (String × Int) :=
  [("first", 1), ("second", 2), ("third", 3), ("fourth", 4), ("fifth", 5), ("last", -1)]

/-- A number, or one of the names it has. -/
def named (names : List (String × Int)) (unknown range : String) (admits : Int → Bool) (value : Json) : RecurrenceM Int := do
  let name := match value with
    | .str s => names.lookup (Text.lower (Text.strip s))
    | _ => none
  match name with
  | some n => pure n
  | none =>
    let n ← intOr (unknown ++ value.shown) value
    if admits n then pure n else recurrenceError range

/-- `_weekday_number`. -/
def weekdayNumber : Json → RecurrenceM Int :=
  named weekdayNames "Unknown weekday: " "Weekday must be 0-6, where Monday is 0." fun n => 0 ≤ n && n ≤ 6

/-- `_ordinal_number`. -/
def ordinalNumber : Json → RecurrenceM Int :=
  named ordinals "Unknown monthly ordinal: " "Monthly ordinal must be 1-5 or last." fun n => [-1, 1, 2, 3, 4, 5].contains n

/-- `_time_parts`. -/
def timeParts (recurrence : RecurrenceFields) : RecurrenceM (Int × Int) := do
  let (hour, minute) ← match Json.lookup recurrence "time" with
    | some (.str s) =>
      if s = "" then pure (getAny recurrence ["hour"] (.int 0), getAny recurrence ["minute"] (.int 0))
      else match Text.split ':' s with
        | hour :: minute :: _ => pure (.str hour, .str minute)
        | _ => recurrenceError "Recurrence time must use HH:MM format."
    | _ => pure (getAny recurrence ["hour"] (.int 0), getAny recurrence ["minute"] (.int 0))
  let hour ← intOr "Recurrence time must contain numeric hour and minute." hour
  let minute ← intOr "Recurrence time must contain numeric hour and minute." minute
  if hour < 0 || 23 < hour || minute < 0 || 59 < minute then
    recurrenceError "Recurrence time must be between 00:00 and 23:59."
  else pure (hour, minute)

def monthNumber (month : Json) : RecurrenceM Int := do
  let n ← intOr ("Unknown month: " ++ month.shown) month
  if n < 1 || 12 < n then recurrenceError "Month must be between 1 and 12." else pure n

/-- `_month_numbers`. -/
def monthNumbers (recurrence : RecurrenceFields) : RecurrenceM (Option (List Int)) :=
  match Json.lookup recurrence "months" with
  | none | some .null | some (.str "") | some (.arr []) => pure none
  | some months => do pure (some (← (listValues months).mapM monthNumber))

def dayNumber (day : Json) : RecurrenceM Int := do
  let n ← intOr "Monthly day recurrence requires day_of_month 1-31." day
  if n < 1 || 31 < n then recurrenceError "Monthly day recurrence requires day_of_month 1-31." else pure n

/-! ## Rules -/

inductive Frequency
  | daily | weekly | monthly
deriving DecidableEq, Repr

/-- What `rrule` is given beside `dtstart`; a weekday goes with its ordinal, if it has one. -/
structure Pattern where
  freq : Frequency
  bymonth : Option (List Int)
  byweekday : Option (List (Int × Option Int))
  bymonthday : Option (List Int)
  byhour : Int
  byminute : Int
  bysecond : Int
deriving DecidableEq, Repr

/-- The days are named, so that `rrule` takes none of them from `dtstart`. -/
def Pattern.NamesDays (p : Pattern) : Prop :=
  p.freq = .daily ∨ (∃ d ds, p.byweekday = some (d :: ds)) ∨ ∃ d ds, p.bymonthday = some (d :: ds)

/-- The microseconds of a day. -/
abbrev day : Int := 86400000000

/-- `datetime.weekday`. -/
def weekdayOf (w : Int) : Int := (w / day + 3) % 7

/-- `_daily_rule`. -/
def dailyRule (recurrence : RecurrenceFields) : RecurrenceM Pattern := do
  let (hour, minute) ← timeParts recurrence
  pure ⟨.daily, ← monthNumbers recurrence, none, none, hour, minute, 0⟩

/-- `_weekly_rule`. -/
def weeklyRule (recurrence : RecurrenceFields) (dtstart : Int) : RecurrenceM Pattern := do
  let (hour, minute) ← timeParts recurrence
  let weekdays : List Json := match getAny recurrence ["weekdays", "weekday"] .null with
    | .null => [.int (weekdayOf dtstart)]
    | .arr xs => xs
    | value => [value]
  let byweekday ← weekdays.mapM weekdayNumber
  pure ⟨.weekly, ← monthNumbers recurrence, some (byweekday.map fun n => (n, none)), none, hour, minute, 0⟩

/-- `WEEKDAYS[_weekday_number(weekday)](_ordinal_number(ordinal))`. -/
def weekdayWithOrdinal (pair : Json × Json) : RecurrenceM (Int × Option Int) := do
  let weekday ← weekdayNumber pair.2
  let ordinal ← ordinalNumber pair.1
  pure (weekday, some ordinal)

/-- The ordinals and the weekdays of a monthly recurrence, each with each. -/
def ordinalWeekdays (recurrence : RecurrenceFields) : List (Json × Json) :=
  (listValues (getAny recurrence ["ordinals", "ordinal", "week"] (.str "first"))).product
    (listValues (getAny recurrence ["weekdays", "weekday"] (.str "monday")))

/-- `_monthly_ordinal_rule`. -/
def monthlyOrdinalRule (recurrence : RecurrenceFields) : RecurrenceM Pattern := do
  let (hour, minute) ← timeParts recurrence
  let byweekday ← (ordinalWeekdays recurrence).mapM weekdayWithOrdinal
  pure ⟨.monthly, ← monthNumbers recurrence, some byweekday, none, hour, minute, 0⟩

/-- `_monthly_day_rule`. -/
def monthlyDayRule (recurrence : RecurrenceFields) : RecurrenceM Pattern := do
  let (hour, minute) ← timeParts recurrence
  let bymonthday ← (listValues (getAny recurrence ["days_of_month", "day", "day_of_month"] .null)).mapM dayNumber
  pure ⟨.monthly, ← monthNumbers recurrence, none, some bymonthday, hour, minute, 0⟩

/-- The rule that `next_run_after` chooses by the kind. -/
def recurrenceRule (a : ActionSchedule) (dtstart : Int) : RecurrenceM Pattern :=
  match a.recurrenceKind with
  | .daily => dailyRule a.fields
  | .weekly => weeklyRule a.fields dtstart
  | .monthlyOrdinal => monthlyOrdinalRule a.fields
  | .monthlyDay => monthlyDayRule a.fields
  | kind => recurrenceError ("Unsupported recurrence kind: " ++ kind.text)

/-- `dateutil.rrule`, of rules that name their days: `after` answers the first of the
matching wall-clock times, not before `dtstart` without its microseconds, that is past
the given one. -/
structure Dateutil where
  Matches : Pattern → Set Int
  after : Pattern → Int → Int → Option Int
  after_some : ∀ {p dtstart dt w}, p.NamesDays → after p dtstart dt = some w →
    IsLeast {w | w ∈ Matches p ∧ dtstart / 1000000 * 1000000 ≤ w ∧ dt < w} w
  after_none : ∀ {p dtstart dt w}, p.NamesDays → after p dtstart dt = none → w ∈ Matches p →
    dtstart / 1000000 * 1000000 ≤ w → w ≤ dt

section
variable (dateutil : Dateutil) (zoneInfo : String → Option TimeZone)

/-- `value or "UTC"`. -/
def zoneName (value : String) : String := if value = "" then "UTC" else value

/-- `_schedule_timezone`. -/
def scheduleTimezone (value : String) : RecurrenceM TimeZone :=
  match zoneInfo (zoneName value) with
  | some z => pure z
  | none => recurrenceError ("Unknown timezone: " ++ value)

/-- `next_run_after`. -/
def nextRunAfter (a : ActionSchedule) (after : Int) : RecurrenceM (Option Int) :=
  match a.scheduleType with
  | .once => pure (a.runAt.or a.nextRunAt)
  | .recurring => do
    let localTz ← scheduleTimezone zoneInfo a.timezone
    let afterLocal := localTz.clock after
    let rule ← recurrenceRule a afterLocal
    pure ((dateutil.after rule afterLocal afterLocal).map localTz.instant)

end

/-! ## Days that the recurrence names -/

/-- The recurrence names its weekdays, its ordinals or its month days. -/
def ActionSchedule.NamesDays (a : ActionSchedule) : Prop :=
  match a.recurrenceKind with
  | .weekly => getAny a.fields ["weekdays", "weekday"] .null ≠ .null ∧ getAny a.fields ["weekdays", "weekday"] .null ≠ .arr []
  | .monthlyOrdinal => ordinalWeekdays a.fields ≠ []
  | .monthlyDay => listValues (getAny a.fields ["days_of_month", "day", "day_of_month"] .null) ≠ []
  | _ => True

theorem mapM_ok_cons {α β : Type} {f : α → RecurrenceM β} {xs : List α} {ys : List β} (hxs : xs ≠ []) (h : xs.mapM f = .ok ys) :
    ∃ y ys', ys = y :: ys' := by
  cases xs with
  | nil => exact absurd rfl hxs
  | cons x xs =>
    rw [List.mapM_cons] at h
    obtain ⟨y, -, h₁⟩ := except_bind_ok.mp h
    obtain ⟨ys', -, h₂⟩ := except_bind_ok.mp h₁
    exact ⟨y, ys', (Except.ok.inj h₂).symm⟩

/-- A rule that names its days is the same from every start. -/
theorem recurrenceRule_fixed {a : ActionSchedule} (h : a.NamesDays) (x y : Int) : recurrenceRule a x = recurrenceRule a y := by
  unfold recurrenceRule
  cases hkind : a.recurrenceKind with
  | weekly =>
    have hnamed : getAny a.fields ["weekdays", "weekday"] .null ≠ .null := by
      unfold ActionSchedule.NamesDays at h
      rw [hkind] at h
      exact h.1
    dsimp only
    unfold weeklyRule
    cases hdays : getAny a.fields ["weekdays", "weekday"] .null with
    | null => exact absurd hdays hnamed
    | _ => rfl
  | _ => rfl

theorem recurrenceRule_namesDays {a : ActionSchedule} {x : Int} {p : Pattern} (h : a.NamesDays)
    (hrule : recurrenceRule a x = .ok p) : p.NamesDays := by
  unfold recurrenceRule at hrule
  unfold ActionSchedule.NamesDays at h
  cases hkind : a.recurrenceKind with
  | daily =>
    rw [hkind] at hrule
    obtain ⟨time, -, h₁⟩ := except_bind_ok.mp hrule
    obtain ⟨months, -, h₂⟩ := except_bind_ok.mp h₁
    obtain rfl := Except.ok.inj h₂
    exact .inl rfl
  | weekly =>
    rw [hkind] at hrule h
    obtain ⟨time, -, h₁⟩ := except_bind_ok.mp hrule
    obtain ⟨days, hdays, h₂⟩ := except_bind_ok.mp h₁
    obtain ⟨months, -, h₃⟩ := except_bind_ok.mp h₂
    obtain rfl := Except.ok.inj h₃
    obtain ⟨d, ds, rfl⟩ := mapM_ok_cons (by
      split
      · simp
      · rename_i xs hxs
        rintro rfl
        exact h.2 hxs
      · simp) hdays
    exact .inr (.inl ⟨_, _, rfl⟩)
  | monthlyOrdinal =>
    rw [hkind] at hrule h
    obtain ⟨time, -, h₁⟩ := except_bind_ok.mp hrule
    obtain ⟨days, hdays, h₂⟩ := except_bind_ok.mp h₁
    obtain ⟨months, -, h₃⟩ := except_bind_ok.mp h₂
    obtain rfl := Except.ok.inj h₃
    obtain ⟨d, ds, rfl⟩ := mapM_ok_cons h hdays
    exact .inr (.inl ⟨_, _, rfl⟩)
  | monthlyDay =>
    rw [hkind] at hrule h
    obtain ⟨time, -, h₁⟩ := except_bind_ok.mp hrule
    obtain ⟨days, hdays, h₂⟩ := except_bind_ok.mp h₁
    obtain ⟨months, -, h₃⟩ := except_bind_ok.mp h₂
    obtain rfl := Except.ok.inj h₃
    obtain ⟨d, ds, rfl⟩ := mapM_ok_cons h hdays
    exact .inr (.inr ⟨_, _, rfl⟩)
  | none =>
    rw [hkind] at hrule
    cases hrule
  | other kind =>
    rw [hkind] at hrule
    cases hrule

/-! ## Runs one after another -/

/-- The wall-clock times of the recurrence. -/
def scheduledTimes (dateutil : Dateutil) (a : ActionSchedule) : Set Int :=
  {w | ∃ x p, recurrenceRule a x = .ok p ∧ w ∈ dateutil.Matches p}

section
variable {dateutil : Dateutil} {zoneInfo : String → Option TimeZone} {a : ActionSchedule} {z : TimeZone} {t r : Int}

theorem mem_scheduledTimes {x w : Int} {p : Pattern} (hdays : a.NamesDays) (hrule : recurrenceRule a x = .ok p) :
    w ∈ scheduledTimes dateutil a ↔ w ∈ dateutil.Matches p := by
  constructor
  · rintro ⟨y, p', hrule', hw⟩
    rw [recurrenceRule_fixed hdays y x, hrule, Except.ok.injEq] at hrule'
    exact hrule' ▸ hw
  · exact fun hw => ⟨x, p, hrule, hw⟩

/-- The times that `rrule` is asked for are those that the clock has before it. -/
theorem asked_comesNext {x w : Int} {p : Pattern} (hdays : a.NamesDays) (hrule : recurrenceRule a x = .ok p) :
    IsLeast {w | w ∈ dateutil.Matches p ∧ z.clock t / 1000000 * 1000000 ≤ w ∧ z.clock t < w} w ↔
      z.ComesNext (scheduledTimes dateutil a) t w := by
  have hasked : {w | w ∈ dateutil.Matches p ∧ z.clock t / 1000000 * 1000000 ≤ w ∧ z.clock t < w} =
      {w | w ∈ scheduledTimes dateutil a ∧ z.clock t < w} := by
    ext v
    simp only [Set.mem_ofPred_eq, mem_scheduledTimes hdays hrule]
    constructor
    · exact fun hv => ⟨hv.1, hv.2.2⟩
    · exact fun hv => ⟨hv.1, by omega, hv.2⟩
  rw [hasked, TimeZone.ComesNext]

/-- The next run is at the instant of the time that comes next. -/
theorem nextRunAfter_some (hrecurring : a.scheduleType = .recurring) (hdays : a.NamesDays)
    (hz : zoneInfo (zoneName a.timezone) = some z) : nextRunAfter dateutil zoneInfo a t = .ok (some r) ↔
      ∃ w, z.ComesNext (scheduledTimes dateutil a) t w ∧ r = z.instant w := by
  have hzone : scheduleTimezone zoneInfo a.timezone = .ok z := by
    rw [scheduleTimezone, hz]
    rfl
  unfold nextRunAfter
  rw [hrecurring]
  constructor
  · intro h
    obtain ⟨z', hz', h₁⟩ := except_bind_ok.mp h
    rw [hzone, Except.ok.injEq] at hz'
    subst hz'
    obtain ⟨p, hrule, h₂⟩ := except_bind_ok.mp h₁
    obtain ⟨w, hw, rfl⟩ := Option.map_eq_some_iff.mp (Except.ok.inj h₂)
    exact ⟨w, (asked_comesNext hdays hrule).mp (dateutil.after_some (recurrenceRule_namesDays hdays hrule) hw), rfl⟩
  · rintro ⟨w, hw, rfl⟩
    obtain ⟨⟨x, p, hrule, hmatches⟩, hahead⟩ := hw.1
    rw [recurrenceRule_fixed hdays x (z.clock t)] at hrule
    have hnames := recurrenceRule_namesDays hdays hrule
    refine except_bind_ok.mpr ⟨z, hzone, except_bind_ok.mpr ⟨p, hrule, ?_⟩⟩
    cases hafter : dateutil.after p (z.clock t) (z.clock t) with
    | none =>
      have hpast := dateutil.after_none hnames hafter hmatches (by omega)
      omega
    | some v =>
      have hv := (asked_comesNext hdays hrule).mp (dateutil.after_some hnames hafter)
      rw [hv.unique hw]
      rfl

variable (dateutil zoneInfo a) in
/-- The next run is later than the instant asked about, and never earlier than the one of
an earlier instant. -/
def RunsForward : Prop := ∀ s t r q, s ≤ t → nextRunAfter dateutil zoneInfo a s = .ok (some r) →
  nextRunAfter dateutil zoneInfo a t = .ok (some q) → s < r ∧ r ≤ q

theorem runsForward_iff (hrecurring : a.scheduleType = .recurring) (hdays : a.NamesDays)
    (hz : zoneInfo (zoneName a.timezone) = some z) :
    RunsForward dateutil zoneInfo a ↔ z.Forward (scheduledTimes dateutil a) := by
  simp only [RunsForward, nextRunAfter_some hrecurring hdays hz]
  constructor
  · exact fun h s t w v hst hw hv => h s t _ _ hst ⟨w, hw, rfl⟩ ⟨v, hv, rfl⟩
  · rintro h s t r q hst ⟨w, hw, rfl⟩ ⟨v, hv, rfl⟩
    exact h s t w v hst hw hv

/-- Where the zone's clock is never set back over a scheduled time, the runs go forward
exactly when the times that come next stand for instants in their order. Where all
scheduled times do, a clock that is set back over one of them, with another to come, takes
a run back. -/
theorem nextRunAfter_forward (hrecurring : a.scheduleType = .recurring) (hdays : a.NamesDays)
    (hz : zoneInfo (zoneName a.timezone) = some z) :
    (z.NeverSetBack (scheduledTimes dateutil a) →
      (RunsForward dateutil zoneInfo a ↔ z.InOrder (scheduledTimes dateutil a))) ∧
    ((∀ w ∈ scheduledTimes dateutil a, ∀ v ∈ scheduledTimes dateutil a, w < v → z.instant w < z.instant v) →
      RunsForward dateutil zoneInfo a → ∀ s t, s ≤ t → (∃ r, nextRunAfter dateutil zoneInfo a s = .ok (some r)) →
        ∀ w ∈ scheduledTimes dateutil a, w ≤ z.clock s → w ≤ z.clock t) := by
  rw [runsForward_iff hrecurring hdays hz]
  refine ⟨fun hnever => hnever.forward_iff, fun horder hforward s t hst hnext w hw hreached => ?_⟩
  obtain ⟨r, hr⟩ := hnext
  obtain ⟨u, hu, -⟩ := (nextRunAfter_some hrecurring hdays hz).mp hr
  exact hforward.not_set_back horder hst hu hw hreached

end

/-! ## A night with an hour twice -/

/-- The wall-clock times of a rule. -/
def Pattern.admits (p : Pattern) : Set Int :=
  {w | w % day = ((p.byhour * 60 + p.byminute) * 60 + p.bysecond) * 1000000 ∧
    (∀ months ∈ p.bymonth, (Text.civilDate (w / day)).2.1 ∈ months) ∧
    (∀ days ∈ p.byweekday, ∃ d ∈ days, d.1 = weekdayOf w ∧ ∀ n ∈ d.2,
      n = ((Text.civilDate (w / day)).2.2 - 1) / 7 + 1 ∨
        n = -1 ∧ (Text.civilDate (w / day + 7)).2.1 ≠ (Text.civilDate (w / day)).2.1) ∧
    ∀ days ∈ p.bymonthday, (Text.civilDate (w / day)).2.2 ∈ days}

theorem exists_first (times : Set Int) (start dt : Int) : ∃ next : Option Int,
    (∀ w, next = some w → IsLeast {w | w ∈ times ∧ start ≤ w ∧ dt < w} w) ∧
    (next = none → ∀ w ∈ times, start ≤ w → w ≤ dt) := by
  by_cases hsome : ∃ w, w ∈ times ∧ start ≤ w ∧ dt < w
  · obtain ⟨w, hw, hleast⟩ := Int.exists_least_of_bdd (P := fun w => w ∈ times ∧ start ≤ w ∧ dt < w)
      ⟨dt, fun v hv => hv.2.2.le⟩ hsome
    exact ⟨some w, fun v hv => Option.some.inj hv ▸ ⟨hw, fun u hu => hleast u hu⟩, by simp⟩
  · push Not at hsome
    exact ⟨none, by simp, fun _ w hw hstart => hsome w hw hstart⟩

/-- `dateutil` with the times of a rule in their order. -/
noncomputable def rrules : Dateutil where
  Matches := Pattern.admits
  after p dtstart dt := (exists_first p.admits (dtstart / 1000000 * 1000000) dt).choose
  after_some _ h := (exists_first _ _ _).choose_spec.1 _ h
  after_none _ h hw := (exists_first _ _ _).choose_spec.2 h _ hw

/-- Every night at half past two. -/
def halfPastTwo : ActionSchedule :=
  ⟨.recurring, none, none, "Europe/Stockholm", .daily, .obj [("time", .str "02:30")]⟩

theorem nightly_rule (x : Int) : recurrenceRule halfPastTwo x = .ok ⟨.daily, none, none, none, 2, 30, 0⟩ := by rfl

theorem nightly_namesDays : halfPastTwo.NamesDays := trivial

theorem mem_nightly {w : Int} : w ∈ scheduledTimes rrules halfPastTwo ↔ w % 86400000000 = 9000000000 := by
  rw [mem_scheduledTimes nightly_namesDays (nightly_rule 0)]
  simp [rrules, Pattern.admits]

theorem nightly_utc_forward : RunsForward rrules (fun _ => some .utc) halfPastTwo := by
  refine ((nextRunAfter_forward (z := .utc) rfl nightly_namesDays rfl).1 fun s t hst w _ hw => ?_).mpr fun s t w v _ _ hwv => ?_
  · rw [TimeZone.clock_utc] at hw ⊢
    exact hw.trans hst
  · rw [TimeZone.instant_utc, TimeZone.instant_utc]
    exact hwv.le

/-- The zone's clock goes from three back to two in the night of 25 October 2026. -/
def stockholm : TimeZone := ⟨7200000000, [(1792890000000000, 3600000000)], List.pairwise_singleton ..⟩

/-- Ten minutes later the run of half an hour before comes next. -/
theorem nightly_goes_back : ¬ RunsForward rrules (fun _ => some stockholm) halfPastTwo := by
  intro h
  have hnext : stockholm.ComesNext (scheduledTimes rrules halfPastTwo) 1792890600000000 1792895400000000 := by
    have hclock : stockholm.clock 1792890600000000 = 1792894200000000 := by decide
    rw [TimeZone.ComesNext, hclock]
    refine ⟨⟨mem_nightly.mpr (by decide), by decide⟩, ?_⟩
    rintro w ⟨hw, hahead⟩
    have hnight := mem_nightly.mp hw
    omega
  have hforward := (runsForward_iff (z := stockholm) rfl nightly_namesDays rfl).mp h
  have hlater := (hforward _ _ _ _ (le_refl _) hnext hnext).1
  revert hlater
  decide

end PveHelper.Scheduling
