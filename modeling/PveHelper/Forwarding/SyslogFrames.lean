/-
The messages that `_rfc5424_message` of `core/services/log_forwarding.py` makes of
deliveries: a header of seven fields, the payload as its JSON text, and the length in
octets in front. A collector that reads a length, a space and that many octets in turn
gets the same lines back, and in each of them the text after the seventh space is the
payload with the event and the revision it belongs to.
-/
import PveHelper.Forwarding.Outbox
import PveHelper.Lib.JsonText
import PveHelper.Lib.OctetCounting

namespace PveHelper.Forwarding

open Lib JsonText

/-- What a message takes from its surroundings: the configured facility, `socket.gethostname()` and
`str.lower`. -/
structure Sender where
  facility : Nat
  hostname : String
  lower : String → String

/-! ## The message -/

/-- `_severity`. -/
def severity (s : Sender) (outcome : String) : Nat :=
  let normalized := s.lower outcome
  if ["failed", "failure", "error", "timeout", "stale"].contains normalized then 3
  else if ["warning", "partial", "skipped", "cancelled", "missed"].contains normalized then 4
  else 6

/-- `_header_value`. -/
def headerValue (value : String) (maxLength : Nat) : String :=
  let normalized := (value.toList.map fun c => if 0x21 ≤ c.toNat && c.toNat ≤ 0x7e then c else '_').take maxLength
  if normalized.isEmpty then "-" else String.ofList normalized

/-- `str(payload.get(key) or default)`. -/
def payloadText (payload : List (String × String)) (key default : String) : String :=
  match payload.lookup key with
  | some value => if value = "" then default else value
  | none => default

/-- `payload[key] = value`; the place of a key does not matter, since the body sorts them. -/
def withField (payload : List (String × Scalar)) (key : String) (value : Scalar) : List (String × Scalar) :=
  payload.filter (fun f => f.1 ≠ key) ++ [(key, value)]

/-- The payload that is sent, with the event and the revision. -/
def sentPayload (d : Delivery) : List (String × Scalar) :=
  withField (withField (d.payload.map fun f => (f.1, .text f.2)) "event_id" (.text ("audit-" ++ toString d.auditEventId)))
    "sequence" (.int d.sequence)

/-- The line of a delivery. -/
def syslogLine (s : Sender) (d : Delivery) : String :=
  let priority := s.facility * 8 + severity s (payloadText d.payload "outcome" "")
  let timestamp := payloadText d.payload "timestamp" "-"
  let hostname := headerValue s.hostname 255
  let msgId := headerValue (payloadText d.payload "action" "audit") 32
  let body := dumpsObject (sentPayload d)
  "<" ++ toString priority ++ ">1 " ++ timestamp ++ " " ++ hostname ++ " pve-helper - " ++ msgId ++ " - " ++ body

/-- `_rfc5424_message`. -/
def rfc5424Message (s : Sender) (d : Delivery) : List UInt8 :=
  OctetCounting.frame (Percent.utf8 (syslogLine s d).toList)

/-- The timestamp of a payload: an instant in UTC, counted in microseconds, to the millisecond. -/
def isoMilliseconds (micros : Int) : String :=
  let date := Text.civilDate (micros / 86400000000)
  let time := micros % 86400000000
  let second := time / 1000000
  Text.padded 4 date.1 ++ "-" ++ Text.padded 2 date.2.1 ++ "-" ++ Text.padded 2 date.2.2 ++ "T" ++
    Text.padded 2 (second / 3600) ++ ":" ++ Text.padded 2 (second / 60 % 60) ++ ":" ++ Text.padded 2 (second % 60) ++ "." ++
    Text.padded 3 (time % 1000000 / 1000) ++ "Z"

/-- The payload is what `_safe_payload` made of some event. -/
def FromEvent (d : Delivery) : Prop :=
  ∃ (e : AuditSnapshot) (instant : Int), d.payload = safePayload { e with timestamp := isoMilliseconds instant }

/-! ## What the collector reads -/

/-- The payload with the event and the revision of the delivery. -/
def deliveredFields (d : Delivery) : List (String × Scalar) :=
  d.payload.map (fun f => (f.1, .text f.2)) ++
    [("event_id", .text ("audit-" ++ toString d.auditEventId)), ("sequence", .int d.sequence)]

/-- A line as the collector takes it apart: seven fields without a blank, and a body that is the
JSON text of the payload. -/
structure Readable (s : Sender) (d : Delivery) (line : List UInt8) (header : List String) (body : String) : Prop where
  seven : header.length = 7
  blank : ∀ f ∈ header, ' ' ∉ f.toList
  splits : Text.splitMax ' ' 7 (String.ofList (Percent.decodeReplace line)) = header ++ [body]
  /-- Every reader that may open an object gets the fields of the payload, each key once. -/
  decodes : ∀ room, ∃ members, loads ⟨none, room + 1⟩ body = .ok (.obj members) ∧ (members.map (·.1)).Nodup ∧
    members.Perm ((deliveredFields d).map memberValue)

/-! ## The header -/

section
variable {s : Sender} {d : Delivery}

theorem blank_not_mem_headerValue (value : String) (maxLength : Nat) : ' ' ∉ (headerValue value maxLength).toList := by
  unfold headerValue
  dsimp only
  split
  · simp
  · rw [String.toList_ofList]
    intro hmem
    obtain ⟨c, -, hc⟩ := List.mem_map.mp (List.mem_of_mem_take hmem)
    split at hc
    · next hrange =>
      subst hc
      exact absurd hrange (by decide)
    · exact absurd hc (by decide)

theorem blank_not_mem_digits (n : Nat) : ' ' ∉ Nat.toDigits 10 n := by
  intro hmem
  have hdigit := Nat.isDigit_of_mem_toDigits (b := 10) (by decide) (by decide) hmem
  exact absurd hdigit (by decide)

theorem blank_not_mem_padded (width : Nat) (n : Int) : ' ' ∉ (Text.padded width n).toList := by
  have hnumber : ' ' ∉ (toString n).toList := by
    cases n with
    | ofNat m =>
      rw [toList_ofNat]
      exact blank_not_mem_digits m
    | negSucc m =>
      rw [toList_negSucc, List.mem_cons]
      rintro (hdash | hdigit)
      · exact absurd hdash (by decide)
      · exact blank_not_mem_digits _ hdigit
  unfold Text.padded
  rw [String.toList_ofList, List.mem_append]
  rintro (hzero | hdigit)
  · exact absurd (List.eq_of_mem_replicate hzero) (by decide)
  · exact hnumber hdigit

theorem blank_not_mem_isoMilliseconds (instant : Int) : ' ' ∉ (isoMilliseconds instant).toList := by
  unfold isoMilliseconds
  simp [blank_not_mem_padded]

/-! ## The body -/

/-- Every key that a payload may have, the optional ones last. -/
def payloadKeys : List String :=
  ["timestamp", "action", "outcome", "module", "username", "source_ip", "cluster", "object_type", "object_id"] ++
    ["storage_id"] ++ ["path"] ++ ["target_preallocation"]

theorem optional_keys (p : Prop) [Decidable p] (key value : String) :
    ((if p then [(key, value)] else []).map (·.1)).Sublist [key] := by
  split
  · exact List.Sublist.refl _
  · exact List.nil_sublist _

theorem payload_keys (h : FromEvent d) : (d.payload.map (·.1)).Sublist payloadKeys := by
  obtain ⟨e, instant, hpayload⟩ := h
  rw [hpayload]
  unfold safePayload payloadKeys
  simp only [List.map_append]
  exact (((List.Sublist.refl _).append (optional_keys _ _ _)).append (optional_keys _ _ _)).append (optional_keys _ _ _)

theorem withField_of_not_mem {payload : List (String × Scalar)} {key : String} {value : Scalar} (h : key ∉ payload.map (·.1)) :
    withField payload key value = payload ++ [(key, value)] := by
  unfold withField
  rw [List.filter_eq_self.mpr]
  intro f hf
  exact decide_eq_true fun hkey => h (List.mem_map.mpr ⟨f, hf, hkey⟩)

theorem textKeys (d : Delivery) : (d.payload.map fun f => (f.1, Scalar.text f.2)).map (·.1) = d.payload.map (·.1) := by
  rw [List.map_map]
  rfl

theorem sentPayload_of_event (h : FromEvent d) : sentPayload d = deliveredFields d := by
  have hkeys := (payload_keys h).subset
  have hevent : "event_id" ∉ (d.payload.map fun f => (f.1, Scalar.text f.2)).map (·.1) := by
    rw [textKeys]
    exact fun hmem => absurd (hkeys hmem) (by decide)
  unfold sentPayload deliveredFields
  rw [withField_of_not_mem hevent, withField_of_not_mem, List.append_assoc]
  · rfl
  · rw [List.map_append, textKeys, List.mem_append]
    rintro (hmem | hmem)
    · exact absurd (hkeys hmem) (by decide)
    · simp at hmem

theorem keys_nodup (h : FromEvent d) : ((deliveredFields d).map (·.1)).Nodup := by
  unfold deliveredFields
  rw [List.map_append, textKeys]
  have hkeys : (payloadKeys ++ ["event_id", "sequence"]).Nodup := by decide
  exact ((payload_keys h).append (List.Sublist.refl ["event_id", "sequence"])).nodup hkeys

/-- The body is read back as the fields that were delivered. -/
theorem body_decodes (h : FromEvent d) (room : Nat) :
    ∃ members, loads ⟨none, room + 1⟩ (dumpsObject (sentPayload d)) = .ok (.obj members) ∧ (members.map (·.1)).Nodup ∧
      members.Perm ((deliveredFields d).map memberValue) := by
  have hperm : (sortedFields (sentPayload d)).Perm (deliveredFields d) := by
    rw [sentPayload_of_event h]
    exact List.perm_insertionSort _ _
  refine ⟨_, loads_dumpsObject rfl (Nat.succ_pos room) _, ?_, hperm.map memberValue⟩
  have hkeys : ((sortedFields (sentPayload d)).map memberValue).map (·.1) =
      ((sortedFields (sentPayload d)).map (·.1)).map ofText := by
    rw [List.map_map, List.map_map]
    rfl
  rw [hkeys]
  exact ((hperm.map (·.1)).nodup_iff.mpr (keys_nodup h)).map ofText_injective

/-! ## The line -/

/-- The fields of the header. -/
def headerFields (s : Sender) (d : Delivery) : List String :=
  ["<" ++ toString (s.facility * 8 + severity s (payloadText d.payload "outcome" "")) ++ ">1",
    payloadText d.payload "timestamp" "-", headerValue s.hostname 255, "pve-helper", "-",
    headerValue (payloadText d.payload "action" "audit") 32, "-"]

theorem syslogLine_eq (s : Sender) (d : Delivery) :
    syslogLine s d = Text.join ' ' (headerFields s d ++ [dumpsObject (sentPayload d)]) := by
  rw [← String.toList_inj]
  unfold syslogLine headerFields
  simp [Text.toList_join, List.intercalate_cons_cons]

theorem timestamp_of_event (h : FromEvent d) : ∃ instant, payloadText d.payload "timestamp" "-" = isoMilliseconds instant := by
  obtain ⟨e, instant, hpayload⟩ := h
  refine ⟨instant, ?_⟩
  have hlookup : d.payload.lookup "timestamp" = some (isoMilliseconds instant) := by
    rw [hpayload]
    rfl
  unfold payloadText
  rw [hlookup]
  exact if_neg (by simp [isoMilliseconds])

theorem blank_not_mem_headerFields (h : FromEvent d) : ∀ f ∈ headerFields s d, ' ' ∉ f.toList := by
  obtain ⟨instant, htimestamp⟩ := timestamp_of_event h
  unfold headerFields
  rw [htimestamp]
  simp only [List.forall_mem_cons]
  refine ⟨?_, blank_not_mem_isoMilliseconds _, blank_not_mem_headerValue _ _, by decide, by decide,
    blank_not_mem_headerValue _ _, by decide, fun f hf => by cases hf⟩
  simp only [String.toList_append, Nat.toString_eq_ofList_toDigits, String.toList_ofList, List.mem_append]
  rintro ((hopen | hdigit) | hclose)
  · exact absurd hopen (by decide)
  · exact blank_not_mem_digits _ hdigit
  · exact absurd hclose (by decide)

/-- Deliveries of events are received line by line, and each line is taken apart into its header and
the payload that was sent. -/
theorem syslogFrames_received (s : Sender) (ds : List Delivery) (h : ∀ d ∈ ds, FromEvent d) :
    OctetCounting.receive (ds.flatMap (rfc5424Message s)) = some (ds.map fun d => Percent.utf8 (syslogLine s d).toList) ∧
      ∀ d ∈ ds, ∃ header body, Readable s d (Percent.utf8 (syslogLine s d).toList) header body := by
  constructor
  · have hframes : ds.flatMap (rfc5424Message s) = (ds.map fun d => Percent.utf8 (syslogLine s d).toList).flatMap OctetCounting.frame := by
      rw [List.flatMap_map]
      rfl
    rw [hframes, OctetCounting.receive_frames]
  · intro d hd
    have hblank := @blank_not_mem_headerFields s d (h d hd)
    refine ⟨headerFields s d, dumpsObject (sentPayload d), rfl, hblank, ?_, body_decodes (h d hd)⟩
    rw [Percent.decodeReplace_utf8, String.ofList_toList, syslogLine_eq]
    exact Text.splitMax_join_concat (headerFields s d) _ hblank

end

/-- An event with a line break and a quote in its path. -/
def brokenPathEvent : AuditSnapshot where
  pk := 7
  timestamp := isoMilliseconds 0
  action := "file.moved"
  outcome := "failed"
  path := "a\n\"b"

def brokenPath : Delivery where
  pk := 1
  auditEventId := 7
  sequence := 2
  payload := safePayload brokenPathEvent
  nextAttemptAt := 0

theorem brokenPath_received :
    OctetCounting.receive ([brokenPath].flatMap (rfc5424Message ⟨16, "helper", id⟩)) =
      some ([brokenPath].map fun d => Percent.utf8 (syslogLine ⟨16, "helper", id⟩ d).toList) :=
  (syslogFrames_received ⟨16, "helper", id⟩ [brokenPath] fun d hd => by
    rw [List.mem_singleton.mp hd]
    exact ⟨brokenPathEvent, 0, rfl⟩).1

end PveHelper.Forwarding
