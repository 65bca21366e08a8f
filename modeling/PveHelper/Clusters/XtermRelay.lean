/-
What the xterm relay of the console gateway makes of the browser's messages, after
`browser_to_upstream` of `_relay_xterm` in `console_app/main.py`. Keystrokes and control
objects share one channel: what `json.loads` does not read is sent on as it is, and what it
reads is taken for a control object. So a message is relayed as it should be exactly where
nothing that it reads is anything but a well-formed control object.
-/
import PveHelper.Lib.JsonText
import PveHelper.Lib.Percent

namespace PveHelper.Clusters

open Lib JsonText

/-- A `websocket.receive` message. -/
structure BrowserMessage where
  text : Option String := none
  bytes : Option (List UInt8) := none

/-- What an exception of the relay is. -/
inductive RelayFailure
  /-- `decoded.get` of a value that is no object. -/
  | attribute
  | value
  | type
  | overflow
  | recursion
  /-- A surrogate in the data: `UnicodeEncodeError`. -/
  | encode
deriving DecidableEq

/-- The interpreter: how far it reads, and `str` of a value that is no text, whose escapes leave no
surrogate. -/
structure Interpreter where
  limits : Limits
  shown : Value → String

section
variable (env : Interpreter)

/-! ## The relay -/

/-- The text of a message, empty where it has none. -/
def payloadOf (m : BrowserMessage) : String :=
  match m.text, m.bytes with
  | some text, _ => text
  | none, some bytes => String.ofList (Percent.decodeReplace bytes)
  | none, none => ""

/-- `0:LEN:DATA`. -/
def dataFrame (data : String) : String := "0:" ++ toString (Percent.utf8 data.toList).length ++ ":" ++ data

/-- `int(s)` of a text, which takes so many digits at most. -/
def intOfText (s : List CodePoint) : Option Int := do
  let text ← toText? s
  let n ← Text.toInt text
  if env.limits.allows (text.toList.filter Text.isDigit).length then some n else none

/-- `int(value)`. -/
def intOf : Value → Except RelayFailure Int
  | .bool b => .ok (if b then 1 else 0)
  | .int n => .ok n
  | .float (.inf _) => .error .overflow
  | .float x => x.toInt.elim (.error .value) .ok
  | .str s =>
    match intOfText env s with
    | some n => .ok n
    | none => .error .value
  | .null | .arr _ | .obj _ => .error .type

/-- `max(1, int(value or default))`. -/
def sizeOf (default : Int) (value : Option Value) : Except RelayFailure Int :=
  match value.filter Value.truthy with
  | some v => (intOf env v).map (max 1)
  | none => .ok (max 1 default)

/-- `str(value or "")`, which is then encoded. -/
def dataOf (value : Option Value) : Except RelayFailure String :=
  match value.filter Value.truthy with
  | some (.str s) =>
    match toText? s with
    | some text => .ok text
    | none => .error .encode
  | some v => .ok (env.shown v)
  | none => .ok ""

/-- `members.get("type") == kind`. -/
def hasType (members : List (List CodePoint × Value)) (kind : String) : Bool :=
  match get? members "type" with
  | some (.str s) => s = ofText kind
  | _ => false

/-- A control object that was read. -/
def relayObject (members : List (List CodePoint × Value)) : Except RelayFailure (List String) :=
  if hasType members "resize" then do
    let cols ← sizeOf env 80 (get? members "cols")
    let rows ← sizeOf env 24 (get? members "rows")
    .ok ["1:" ++ toString cols ++ ":" ++ toString rows ++ ":"]
  else if hasType members "data" then do
    let data ← dataOf env (get? members "data")
    .ok [dataFrame data]
  else if hasType members "ping" then .ok ["2"]
  else .ok []

/-- One turn of `browser_to_upstream`: the frames it sends. -/
def browserToUpstream (m : BrowserMessage) : Except RelayFailure (List String) :=
  let payload := payloadOf m
  if payload = "" then .ok []
  else
    match loads env.limits payload with
    | .ok (.obj members) => relayObject env members
    | .ok _ => .error .attribute
    | .error .decode => .ok [dataFrame payload]
    | .error .digits => .error .value
    | .error .depth => .error .recursion

/-! ## What the relay should do -/

/-- The three frames of the terminal. -/
inductive TerminalFrame : String → Prop
  | data (data : String) : TerminalFrame ("0:" ++ toString (Percent.utf8 data.toList).length ++ ":" ++ data)
  | resize {cols rows : Nat} (hcols : 0 < cols) (hrows : 0 < rows) :
    TerminalFrame ("1:" ++ toString cols ++ ":" ++ toString rows ++ ":")
  | ping : TerminalFrame "2"

/-- The types of a control object. -/
def isProtocolObject (payload : String) : Bool :=
  match loads env.limits payload with
  | .ok (.obj members) => hasType members "resize" || hasType members "data" || hasType members "ping"
  | _ => false

/-- The message is relayed: nothing is raised, at most one frame is sent, and a text that is no
control object goes on unchanged; an empty one has nothing to send. -/
def Relayed (m : BrowserMessage) : Prop :=
  ∃ sent, browserToUpstream env m = .ok sent ∧ sent.length ≤ 1 ∧ (∀ f ∈ sent, TerminalFrame f) ∧
    (isProtocolObject env (payloadOf m) = false →
      sent = if payloadOf m = "" then [] else [dataFrame (payloadOf m)])

/-- What `int` takes: a boolean, an integer, a finite number or the text of an integer. -/
def integral : Value → Bool
  | .bool _ | .int _ | .float (.finite _ _) => true
  | .str s => (intOfText env s).isSome
  | _ => false

/-- A text without a surrogate, or no text. -/
def encodable : Value → Bool
  | .str s => (toText? s).isSome
  | _ => true

/-- A control object whose sizes are integers, or whose data can be encoded. -/
def wellFormedObject (members : List (List CodePoint × Value)) : Bool :=
  if hasType members "resize" then
    ((get? members "cols").filter Value.truthy).all (integral env) && ((get? members "rows").filter Value.truthy).all (integral env)
  else if hasType members "data" then ((get? members "data").filter Value.truthy).all encodable
  else hasType members "ping"

/-- The message is empty, or no JSON, or a well-formed control object. -/
inductive Handled (m : BrowserMessage) : Prop
  | empty (h : payloadOf m = "")
  | plain (h : loads env.limits (payloadOf m) = .error .decode)
  | object {members : List (List CodePoint × Value)} (h : loads env.limits (payloadOf m) = .ok (.obj members))
    (hwell : wellFormedObject env members = true)

end

/-! ## Sizes and data -/

section
variable {env : Interpreter}

theorem intOf_integral (v : Value) : (∃ n, intOf env v = .ok n) ↔ integral env v = true := by
  cases v with
  | null | arr | obj => simp [intOf, integral]
  | bool | int => simp [intOf, integral]
  | float d =>
    cases d with
    | finite negative units => exact ⟨fun _ => rfl, fun _ => ⟨_, rfl⟩⟩
    | inf => simp [intOf, integral]
    | nan => simp [intOf, integral, Double.toInt]
  | str s =>
    cases hs : intOfText env s <;> simp [intOf, integral, hs]

/-- A size that is read is positive. -/
theorem sizeOf_ok {default n : Int} {value : Option Value} (h : sizeOf env default value = .ok n) :
    ∃ k : Nat, 0 < k ∧ n = k := by
  have hpos : ∀ x : Int, ∃ k : Nat, 0 < k ∧ max 1 x = k := by
    intro x
    refine ⟨(max 1 x).toNat, ?_, ?_⟩
    · omega
    · omega
  unfold sizeOf at h
  split at h
  · next v hvalue =>
    cases hv : intOf env v with
    | error e =>
      rw [hv] at h
      cases h
    | ok x =>
      rw [hv] at h
      cases h
      exact hpos x
  · cases h
    exact hpos default

theorem sizeOf_isOk (default : Int) (value : Option Value) :
    (∃ n, sizeOf env default value = .ok n) ↔ (value.filter Value.truthy).all (integral env) = true := by
  unfold sizeOf
  cases value.filter Value.truthy with
  | none => simp
  | some v =>
    rw [Option.all_some, ← intOf_integral]
    cases hv : intOf env v <;> simp [Except.map, hv]

theorem dataOf_isOk (value : Option Value) :
    (∃ data, dataOf env value = .ok data) ↔ (value.filter Value.truthy).all encodable = true := by
  unfold dataOf
  cases value.filter Value.truthy with
  | none => simp
  | some v =>
    cases v with
    | str s =>
      cases hs : toText? s <;> simp [encodable, hs]
    | _ => simp [encodable]

/-! ## Relayed messages -/

/-- What a control object sends is one frame of the terminal, or nothing. -/
theorem relayObject_frames {members : List (List CodePoint × Value)} {sent : List String} (h : relayObject env members = .ok sent) :
    sent.length ≤ 1 ∧ ∀ f ∈ sent, TerminalFrame f := by
  have hone : ∀ f, TerminalFrame f → [f].length ≤ 1 ∧ ∀ g ∈ [f], TerminalFrame g := by
    intro f hf
    refine ⟨Nat.le_refl 1, fun g hg => ?_⟩
    rw [List.mem_singleton.mp hg]
    exact hf
  unfold relayObject at h
  split at h
  · simp only [except_bind_ok] at h
    obtain ⟨cols, hcols, rows, hrows, h⟩ := h
    obtain ⟨c, hc, rfl⟩ := sizeOf_ok hcols
    obtain ⟨r, hr, rfl⟩ := sizeOf_ok hrows
    cases h
    exact hone _ (.resize hc hr)
  · split at h
    · rw [except_bind_ok] at h
      obtain ⟨data, -, h⟩ := h
      cases h
      exact hone _ (.data data)
    · split at h
      · cases h
        exact hone _ .ping
      · cases h
        exact ⟨Nat.zero_le 1, fun f hf => by cases hf⟩

theorem relayObject_isOk (members : List (List CodePoint × Value)) :
    ((∃ sent, relayObject env members = .ok sent) ∧
      (hasType members "resize" || hasType members "data" || hasType members "ping") = true) ↔
      wellFormedObject env members = true := by
  unfold relayObject wellFormedObject
  cases hasType members "resize" with
  | true =>
    simp only [if_true, Bool.true_or, and_true, Bool.and_eq_true, except_bind_ok, ← @sizeOf_isOk env 80 (get? members "cols"),
      ← @sizeOf_isOk env 24 (get? members "rows")]
    constructor
    · rintro ⟨sent, cols, hcols, rows, hrows, -⟩
      exact ⟨⟨cols, hcols⟩, rows, hrows⟩
    · rintro ⟨⟨cols, hcols⟩, rows, hrows⟩
      exact ⟨_, cols, hcols, rows, hrows, rfl⟩
  | false =>
    cases hasType members "data" with
    | true =>
      simp only [if_true, Bool.false_eq_true, if_false, Bool.true_or, Bool.or_true, and_true, except_bind_ok,
        ← @dataOf_isOk env]
      constructor
      · rintro ⟨sent, data, hd, -⟩
        exact ⟨data, hd⟩
      · rintro ⟨data, hd⟩
        exact ⟨_, data, hd, rfl⟩
    | false => cases hasType members "ping" <;> simp

/-- A message is relayed as it should be exactly where it is empty, no JSON or a well-formed control
object. -/
theorem relayed_iff (env : Interpreter) (m : BrowserMessage) : Relayed env m ↔ Handled env m := by
  constructor
  · rintro ⟨sent, hsent, -, -, hplain⟩
    unfold browserToUpstream at hsent
    dsimp only at hsent
    split at hsent
    · next hempty => exact .empty hempty
    · next hne =>
      split at hsent
      · next members hloads =>
        have hknown : (hasType members "resize" || hasType members "data" || hasType members "ping") = true := by
          by_contra hunknown
          -- an object of another type sends nothing, where the text should go on
          have hobject : isProtocolObject env (payloadOf m) = false := by
            unfold isProtocolObject
            rw [hloads]
            exact Bool.eq_false_iff.mpr hunknown
          have hnone : relayObject env members = .ok [] := by
            simp only [Bool.or_eq_true, not_or, Bool.not_eq_true] at hunknown
            unfold relayObject
            rw [hunknown.1.1, hunknown.1.2, hunknown.2]
            rfl
          rw [hnone] at hsent
          cases hsent
          have htext := hplain hobject
          rw [if_neg hne] at htext
          cases htext
        exact .object hloads ((relayObject_isOk members).mp ⟨⟨sent, hsent⟩, hknown⟩)
      · cases hsent
      · next hloads => exact .plain hloads
      · cases hsent
      · cases hsent
  · intro h
    by_cases hempty : payloadOf m = ""
    · refine ⟨[], ?_, Nat.zero_le 1, fun f hf => (by cases hf), fun _ => (if_pos hempty).symm⟩
      unfold browserToUpstream
      exact if_pos hempty
    · cases h with
      | empty h => exact absurd h hempty
      | plain h =>
        refine ⟨[dataFrame (payloadOf m)], ?_, Nat.le_refl 1, fun f hf => ?_, fun _ => (if_neg hempty).symm⟩
        · unfold browserToUpstream
          dsimp only
          rw [if_neg hempty, h]
        · rw [List.mem_singleton.mp hf]
          exact .data _
      | @object members hloads hwell =>
        obtain ⟨⟨sent, hsent⟩, hknown⟩ := (relayObject_isOk members).mpr hwell
        obtain ⟨hlength, hframes⟩ := relayObject_frames hsent
        refine ⟨sent, ?_, hlength, hframes, fun hobject => ?_⟩
        · unfold browserToUpstream
          dsimp only
          rw [if_neg hempty, hloads]
          exact hsent
        · unfold isProtocolObject at hobject
          rw [hloads] at hobject
          dsimp only at hobject
          rw [hknown] at hobject
          cases hobject

/-- A typed digit is read as JSON, and is no object. -/
theorem typedDigit_raises : ¬ ∀ env m, Relayed env m := by
  intro hall
  obtain ⟨sent, hsent, -⟩ := hall ⟨⟨some 4300, 1000⟩, fun _ => ""⟩ ⟨some "5", none⟩
  have hraised : browserToUpstream ⟨⟨some 4300, 1000⟩, fun _ => ""⟩ ⟨some "5", none⟩ = .error .attribute := rfl
  rw [hraised] at hsent
  cases hsent

end

end PveHelper.Clusters
