/-
The question whether a guest that did not shut down shall be stopped by force. Three readers
decide whether a row asks it: a filter of the database (`_guest_question_q`), the builder of
the task row (`_guest_task`) and the reaper that answers it when the guest is off
(`_is_open_force_stop_question`). They agree on the rows that are written as one expects; the
reaper still reads the words of the error, where the others read its code.
-/
import PveHelper.Lib.Json
import PveHelper.Lib.Numbers
import PveHelper.Lib.SqlTruth
import PveHelper.Lib.Text

namespace PveHelper.Operations

open Lib

/-! ## The row -/

/-- An `AuditEvent`, with an object for its details. -/
structure QuestionRow where
  action : String
  outcome : String
  details : List (String × Json)

section
variable (d : List (String × Json))

/-- `details.get(key)`. -/
def detail (key : String) : Json := (Json.lookup d key).getD .null

def hasKey (key : String) : Bool := (Json.lookup d key).isSome

/-- `str(details.get(key) or "")`. -/
def detailText (key : String) : String := if (detail d key).truthy then (detail d key).shown else ""

/-- `SHUTDOWN_INCOMPLETE_CODES`. -/
def isIncompleteCode (code : String) : Bool := code = "task_timeout" || code = "powerdown_failed"

/-- What both Python readers look for in the error. -/
def errorSaysSo : Bool :=
  let text := Text.lower (detailText d "error")
  Text.includes text "timeout" || Text.includes text "powerdown failed"

/-! ## The task row -/

/-- `_shutdown_left_guest_running`. -/
def shutdownLeftGuestRunning : Bool :=
  if detailText d "error_code" ≠ "" then isIncompleteCode (detailText d "error_code") else errorSaysSo d

def isText : Json → Bool
  | .str _ => true
  | _ => false

/-- `details.get("vmid") is not None`. -/
def vmidGiven : Bool :=
  match detail d "vmid" with
  | .null => false
  | _ => true

/-- `", ".join(details["fields"])` raises; it is not reached where another key gives the text. -/
def fieldsRaise : Bool :=
  match detail d "fields" with
  | .arr items => !items.all isText && !(["snapshot", "archive", "storage", "volid", "job_id", "target"].any fun key => (detail d key).truthy)
  | _ => false

/-- `int(vmid)` of `guest_identity` raises what it does not catch. -/
def vmidRaises : Bool := (detail d "vmid").intOverflows

variable (parseRaises : String → Bool)

/-- `_guest_task_finished_at` raises. `parseRaises` says when `parse_datetime` does: for a text in the form
of a date and a time that is none. -/
def finishedAtRaises : Bool :=
  match detail d "finished_at" with
  | .str s => s ≠ "" && parseRaises s
  | _ => false

/-- The builder raises for a failed shutdown. -/
def taskRaises : Bool := vmidRaises d || finishedAtRaises d parseRaises || fieldsRaise d

end

/-- A shutdown that failed. -/
def QuestionRow.failedShutdown (row : QuestionRow) : Bool := row.action = "guest.power.shutdown" && row.outcome = "failed"

/-- `_guest_task(event)["offer_force_stop"]`; none where the builder raises for a failed
shutdown. A row of another kind offers nothing. -/
def offerForceStop (parseRaises : String → Bool) (row : QuestionRow) : Option Bool :=
  let d := row.details
  if !row.failedShutdown then some false
  else if taskRaises d parseRaises then none
  else if !shutdownLeftGuestRunning d then some false
  else if (detail d "force_stop_dismissed").truthy then some false
  else if !(Text.strip (detailText d "target_type") ≠ "" && vmidGiven d) then some false
  else some !(detail d "force_stop_resolved_at").truthy

/-- `_is_open_force_stop_question`. -/
def isOpenForceStopQuestion (row : QuestionRow) : Bool :=
  let d := row.details
  !(detail d "force_stop_dismissed").truthy && !(detail d "force_stop_resolved_at").truthy &&
    (detail d "target_type").truthy && vmidGiven d && errorSaysSo d

/-! ## The filter -/

section
variable (d : List (String × Json))

/-- `Q(details__has_key=key)`. -/
def hasKeyQ (key : String) : SqlTruth := some (hasKey d key)

/-- `Q(details__key=value)`, with the test for the value: NULL where the key is missing. -/
def valueQ (test : Json → Bool) (key : String) : SqlTruth := (Json.lookup d key).map test

/-- `Q(details__key__icontains=word)`: the database looks for the word in the text of the value,
and a null value has none. -/
def containsQ (contains : String → Json → Bool) (key word : String) : SqlTruth :=
  match Json.lookup d key with
  | none | some .null => none
  | some value => some (contains word value)

def isTrue : Json → Bool
  | .bool b => b
  | _ => false

def isEmptyText : Json → Bool
  | .str s => s = ""
  | _ => false

def isNullValue : Json → Bool
  | .null => true
  | _ => false

/-- One of `SHUTDOWN_INCOMPLETE_CODES`, as a value. -/
def isIncompleteCodeValue : Json → Bool
  | .str code => isIncompleteCode code
  | _ => false

/-- `_dismissed_flag_q`. -/
def dismissedFlagQ (flag : String) : SqlTruth := (hasKeyQ d flag).and (valueQ d isTrue flag)

variable (contains : String → Json → Bool)

/-- `_shutdown_incomplete_q`. -/
def shutdownIncompleteQ : SqlTruth :=
  let legacy := (hasKeyQ d "error_code").not.and ((containsQ d contains "error" "timeout").or (containsQ d contains "error" "powerdown failed"))
  (valueQ d isIncompleteCodeValue "error_code").or legacy

end

/-- `_open_force_stop_question_q`. -/
def openForceStopQuestionQ (contains : String → Json → Bool) (row : QuestionRow) : SqlTruth :=
  let d := row.details
  ((SqlTruth.and (some (row.action = "guest.power.shutdown")) (some (row.outcome = "failed"))).and (shutdownIncompleteQ d contains)).and
    (hasKeyQ d "force_stop_resolved_at").not

/-- `_guest_question_q`. -/
def guestQuestionQ (contains : String → Json → Bool) (row : QuestionRow) : SqlTruth :=
  let d := row.details
  (((((openForceStopQuestionQ contains row).and (dismissedFlagQ d "force_stop_dismissed").not).and (hasKeyQ d "target_type")).and
    (valueQ d isEmptyText "target_type").not).and (hasKeyQ d "vmid")).and (valueQ d isNullValue "vmid").not

/-! ## Where the readers agree -/

section
variable (contains : String → Json → Bool) (parseRaises : String → Bool) (row : QuestionRow)

/-- The database finds the words in the error. -/
def databaseSaysSo (d : List (String × Json)) : Bool :=
  match Json.lookup d "error" with
  | none | some .null => false
  | some value => contains "timeout" value || contains "powerdown failed" value

/-- A row that one of the readers may take for a question: a failed shutdown of a named guest, not
dismissed or answered, whose code or error says that the guest may still run. -/
def questionCandidate : Bool :=
  let d := row.details
  row.failedShutdown && vmidGiven d && (hasKey d "target_type" && !isEmptyText (detail d "target_type")) &&
    !isTrue (detail d "force_stop_dismissed") && !(detail d "force_stop_resolved_at").truthy &&
    (shutdownLeftGuestRunning d || !hasKey d "error_code" && databaseSaysSo contains d)

/-- A text that is not empty. -/
def isFilledText : Json → Bool
  | .str s => s ≠ ""
  | _ => false

/-- What makes the filter decline a candidate: an empty note that it was answered, a code that is
no text or an empty one, or words that the database does not find. -/
def filterDeclines : Bool :=
  let d := row.details
  hasKey d "force_stop_resolved_at" || (hasKey d "error_code" && !isFilledText (detail d "error_code")) ||
    (!hasKey d "error_code" && !databaseSaysSo contains d)

/-- What makes the builder of the task decline a candidate: fields that it cannot join, a time or a
VMID that it cannot read, a dismissal that is not simply true, a blank type, or words that Python does
not find. -/
def taskDeclines : Bool :=
  let d := row.details
  taskRaises d parseRaises || (detail d "force_stop_dismissed").truthy || Text.strip (detailText d "target_type") = "" ||
    (!hasKey d "error_code" && !errorSaysSo d)

/-- The readers agree on the row. -/
structure QuestionAgreed : Prop where
  filter : (guestQuestionQ contains row).holds = true ↔ offerForceStop parseRaises row = some true
  reaper : (guestQuestionQ contains row).holds = true → isOpenForceStopQuestion row = true

end

section
variable {contains : String → Json → Bool} {parseRaises : String → Bool} {row : QuestionRow} {d : List (String × Json)}

theorem holds_valueQ (test : Json → Bool) (key : String) : (valueQ d test key).holds = (hasKey d key && test (detail d key)) := by
  unfold valueQ hasKey detail
  cases Json.lookup d key with
  | none => rfl
  | some value => simp

theorem fails_valueQ (test : Json → Bool) (key : String) : (valueQ d test key).fails = (hasKey d key && !test (detail d key)) := by
  unfold valueQ hasKey detail
  cases Json.lookup d key with
  | none => rfl
  | some value => simp

theorem holds_containsQ : ((containsQ d contains "error" "timeout").or (containsQ d contains "error" "powerdown failed")).holds =
    databaseSaysSo contains d := by
  unfold containsQ databaseSaysSo
  rw [SqlTruth.holds_or]
  split
  · rfl
  · rfl
  · simp

theorem detail_of_missing {key : String} (h : hasKey d key = false) : detail d key = .null := by
  unfold hasKey at h
  unfold detail
  rw [Option.isSome_eq_false_iff, Option.isNone_iff_eq_none] at h
  rw [h]
  rfl

theorem hasKey_of_truthy {key : String} (h : (detail d key).truthy = true) : hasKey d key = true := by
  by_contra hmissing
  rw [detail_of_missing (Bool.eq_false_iff.mpr hmissing)] at h
  cases h

theorem fails_dismissedFlagQ (flag : String) : (dismissedFlagQ d flag).fails = !isTrue (detail d flag) := by
  unfold dismissedFlagQ hasKeyQ
  rw [SqlTruth.fails_and, SqlTruth.fails_some, fails_valueQ]
  cases hkey : hasKey d flag with
  | true => simp
  | false =>
    rw [detail_of_missing hkey]
    rfl

theorem vmidGiven_eq : vmidGiven d = (hasKey d "vmid" && !isNullValue (detail d "vmid")) := by
  unfold vmidGiven
  cases hkey : hasKey d "vmid" with
  | true =>
    split
    · next hnull =>
      rw [hnull]
      rfl
    · next hvalue =>
      cases hdetail : detail d "vmid" with
      | null => exact absurd hdetail hvalue
      | _ => rfl
  | false =>
    rw [detail_of_missing hkey]
    rfl

/-- What the filter says of the code and the error. -/
theorem holds_shutdownIncompleteQ : (shutdownIncompleteQ d contains).holds =
    ((hasKey d "error_code" && isIncompleteCodeValue (detail d "error_code")) || (!hasKey d "error_code" && databaseSaysSo contains d)) := by
  unfold shutdownIncompleteQ
  dsimp only
  rw [SqlTruth.holds_or, SqlTruth.holds_and, SqlTruth.holds_not, holds_containsQ, holds_valueQ]
  unfold hasKeyQ
  rw [SqlTruth.fails_some]

theorem holds_guestQuestionQ : (guestQuestionQ contains row).holds =
    (row.failedShutdown && (shutdownIncompleteQ row.details contains).holds && !hasKey row.details "force_stop_resolved_at" &&
      !isTrue (detail row.details "force_stop_dismissed") &&
      (hasKey row.details "target_type" && !isEmptyText (detail row.details "target_type")) && vmidGiven row.details) := by
  unfold guestQuestionQ openForceStopQuestionQ
  dsimp only
  simp only [SqlTruth.holds_and, SqlTruth.holds_not, fails_dismissedFlagQ, fails_valueQ]
  unfold hasKeyQ QuestionRow.failedShutdown
  simp only [SqlTruth.holds_some, SqlTruth.fails_some, vmidGiven_eq]
  generalize hasKey row.details "target_type" = t
  generalize hasKey row.details "vmid" = v
  cases t <;> cases v <;> simp

/-- The code decides where it is a text that is not empty. -/
theorem shutdownLeftGuestRunning_of_text (h : isFilledText (detail d "error_code") = true) :
    shutdownLeftGuestRunning d = isIncompleteCodeValue (detail d "error_code") := by
  unfold shutdownLeftGuestRunning detailText
  cases hcode : detail d "error_code" with
  | str code =>
    rw [hcode] at h
    have hne : code ≠ "" := by simpa [isFilledText] using h
    have htruthy : (Json.str code).truthy = true := by simpa [Json.truthy] using hne
    rw [if_pos htruthy]
    exact if_pos hne
  | _ =>
    rw [hcode] at h
    cases h

theorem shutdownLeftGuestRunning_of_missing (h : hasKey d "error_code" = false) : shutdownLeftGuestRunning d = errorSaysSo d := by
  unfold shutdownLeftGuestRunning detailText
  rw [detail_of_missing h]
  rfl

theorem isFilledText_of_code {value : Json} (h : isIncompleteCodeValue value = true) : isFilledText value = true := by
  cases value with
  | str code =>
    unfold isFilledText
    refine decide_eq_true fun hempty => ?_
    subst hempty
    revert h
    decide
  | _ => cases h

/-- The filter selects the candidates it does not decline. -/
theorem guestQuestionQ_holds_iff :
    (guestQuestionQ contains row).holds = true ↔ questionCandidate contains row = true ∧ filterDeclines contains row = false := by
  have hresolved := @hasKey_of_truthy row.details "force_stop_resolved_at"
  have htext := shutdownLeftGuestRunning_of_text (d := row.details)
  have hcode := @isFilledText_of_code (detail row.details "error_code")
  rw [holds_guestQuestionQ, holds_shutdownIncompleteQ]
  unfold questionCandidate filterDeclines
  dsimp only
  grind

theorem offerForceStop_eq : offerForceStop parseRaises row = some true ↔
    row.failedShutdown = true ∧ taskRaises row.details parseRaises = false ∧ shutdownLeftGuestRunning row.details = true ∧
      (detail row.details "force_stop_dismissed").truthy = false ∧
      (Text.strip (detailText row.details "target_type") ≠ "" ∧ vmidGiven row.details = true) ∧
      (detail row.details "force_stop_resolved_at").truthy = false := by
  unfold offerForceStop
  dsimp only
  grind

theorem truthy_of_isTrue {value : Json} (h : isTrue value = true) : value.truthy = true := by
  cases value with
  | bool b => exact h
  | _ => cases h

/-- A type that is not blank is there and not empty. -/
theorem type_of_strip (h : Text.strip (detailText d "target_type") ≠ "") :
    (detail d "target_type").truthy = true ∧ isEmptyText (detail d "target_type") = false := by
  have htruthy : (detail d "target_type").truthy = true := by
    by_contra hfalse
    refine h ?_
    rw [detailText, if_neg hfalse]
    decide
  refine ⟨htruthy, Bool.eq_false_iff.mpr fun hempty => ?_⟩
  cases hvalue : detail d "target_type" with
  | str text =>
    rw [hvalue] at hempty htruthy
    have htext : text = "" := by simpa [isEmptyText] using hempty
    subst htext
    cases htruthy
  | _ =>
    rw [hvalue] at hempty
    cases hempty

/-- The builder offers the candidates it does not decline. -/
theorem offerForceStop_iff :
    offerForceStop parseRaises row = some true ↔ questionCandidate contains row = true ∧ taskDeclines parseRaises row = false := by
  have hdismissed := @truthy_of_isTrue (detail row.details "force_stop_dismissed")
  have htype := type_of_strip (d := row.details)
  have hkey := @hasKey_of_truthy row.details "target_type"
  have hmissing := shutdownLeftGuestRunning_of_missing (d := row.details)
  rw [offerForceStop_eq]
  unfold questionCandidate taskDeclines
  dsimp only
  grind

/-- The reaper takes up what is offered where the error has the words. -/
theorem isOpenForceStopQuestion_of_offer (h : offerForceStop parseRaises row = some true) :
    isOpenForceStopQuestion row = errorSaysSo row.details := by
  obtain ⟨-, -, -, hdismissed, ⟨htype, hvmid⟩, hresolved⟩ := offerForceStop_eq.mp h
  unfold isOpenForceStopQuestion
  dsimp only
  simp only [hdismissed, hresolved, (type_of_strip htype).1, hvmid, Bool.not_false, Bool.true_and]

/-- The readers agree on exactly these rows: on one that is no candidate, on one that both decline,
and on one that neither declines and whose error has the words. -/
theorem questionAgreed_iff (contains : String → Json → Bool) (parseRaises : String → Bool) (row : QuestionRow) :
    QuestionAgreed contains parseRaises row ↔
      (questionCandidate contains row = true →
        (filterDeclines contains row = true ∧ taskDeclines parseRaises row = true) ∨
          (filterDeclines contains row = false ∧ taskDeclines parseRaises row = false ∧ errorSaysSo row.details = true)) := by
  have hfilter := @guestQuestionQ_holds_iff contains row
  have hoffer := @offerForceStop_iff contains parseRaises row
  have hopen := @isOpenForceStopQuestion_of_offer parseRaises row
  constructor
  · rintro ⟨hagree, hreaper⟩ hcandidate
    cases hf : filterDeclines contains row with
    | true =>
      cases ht : taskDeclines parseRaises row with
      | true => exact .inl ⟨rfl, rfl⟩
      | false =>
        have hselected := hagree.mpr (hoffer.mpr ⟨hcandidate, ht⟩)
        rw [(hfilter.mp hselected).2] at hf
        cases hf
    | false =>
      have hselected := hfilter.mpr ⟨hcandidate, hf⟩
      have hoffered := hagree.mp hselected
      exact .inr ⟨rfl, (hoffer.mp hoffered).2, (hopen hoffered).symm.trans (hreaper hselected)⟩
  · intro h
    refine ⟨⟨fun hselected => ?_, fun hoffered => ?_⟩, fun hselected => ?_⟩
    · obtain ⟨hcandidate, hf⟩ := hfilter.mp hselected
      rcases h hcandidate with ⟨hf', -⟩ | ⟨-, ht, -⟩
      · rw [hf] at hf'
        cases hf'
      · exact hoffer.mpr ⟨hcandidate, ht⟩
    · obtain ⟨hcandidate, ht⟩ := hoffer.mp hoffered
      rcases h hcandidate with ⟨-, ht'⟩ | ⟨hf, -, -⟩
      · rw [ht] at ht'
        cases ht'
      · exact hfilter.mpr ⟨hcandidate, hf⟩
    · obtain ⟨hcandidate, hf⟩ := hfilter.mp hselected
      rcases h hcandidate with ⟨hf', -⟩ | ⟨-, ht, hwords⟩
      · rw [hf] at hf'
        cases hf'
      · exact (hopen (hoffer.mpr ⟨hcandidate, ht⟩)).trans hwords

end

/-! ## A guest that ignored the powerdown -/

/-- A row with the code that `proxmox_task_failure` gives, and the first sentence of its text. -/
def powerdownFailed : QuestionRow where
  action := "guest.power.shutdown"
  outcome := "failed"
  details := [("target_type", .str "vm"), ("vmid", .int 100), ("error_code", .str "powerdown_failed"),
    ("error", .str "The guest did not shut down.")]

theorem powerdownFailed_silent : errorSaysSo powerdownFailed.details = false := by decide +kernel

/-- The question is shown, and the reaper does not see it. -/
theorem powerdownFailed_unresolved : ¬ ∀ contains parseRaises row, QuestionAgreed contains parseRaises row := by
  intro h
  have hselected : (guestQuestionQ (fun _ _ => false) powerdownFailed).holds = true := by decide +kernel
  have hopen := (h (fun _ _ => false) (fun _ => false) powerdownFailed).reaper hselected
  unfold isOpenForceStopQuestion at hopen
  dsimp only at hopen
  rw [powerdownFailed_silent, Bool.and_false] at hopen
  cases hopen

end PveHelper.Operations
