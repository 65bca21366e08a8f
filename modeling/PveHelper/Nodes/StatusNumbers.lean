/-
The numbers of a `nodes/<node>/status` body. `loadavg` is parsed and then asked
to be finite; `cpu` and `wait` go through `_number`, which asks nothing of what
`float` returns, and neither expects the `OverflowError` of an integer with no
float. Said here: which bodies are read, which ones raise that error, which ones
publish a number that is none or hold a text that cannot be saved, and which nodes a
sweep still gets to.
-/
import Mathlib.Algebra.Group.Int.Defs
import PveHelper.Lib.Atomic
import PveHelper.Nodes.Runtime

namespace PveHelper.Nodes

open Lib PveHelper.Topology

/-! ## Values -/

/-- The field is there and its value meets `P`. -/
def Has (payload : Fields) (key : String) (P : Json → Prop) : Prop :=
  ∃ value, Json.lookup payload key = some value ∧ P value

/-- The field is missing or its value meets `P`. -/
def MayHave (payload : Fields) (key : String) (P : Json → Prop) : Prop :=
  ∀ value, Json.lookup payload key = some value → P value

def IsObject (P : Fields → Prop) (value : Json) : Prop := ∃ fields, value = .obj fields ∧ P fields

def IsText (value : Json) : Prop := ∃ s, value = .str s

/-- An integer that fits its column. -/
def IsCount (max : Nat) (value : Json) : Prop := ∃ n : Nat, value = .int n ∧ n ≤ max

/-- An integer past the largest float. -/
def TooLarge (value : Json) : Prop := ∃ n, value = .int n ∧ Double.ofInt n = none

/-- What `float` makes of a number, if it can. -/
def floatOf : Json → Option Double
  | .int n => Double.ofInt n
  | .float text => some ((Double.ofText text).getD .nan)
  | _ => none

def IsNumber (value : Json) : Prop := (floatOf value).isSome

/-- A number of the body that is not one: a NaN or an infinity. -/
def NotFinite (value : Json) : Prop := ∃ x, floatOf value = some x ∧ x.isFinite = false

/-- An entry of `loadavg` that is a load. -/
def IsLoad (value : Json) : Prop :=
  (∃ s x, value = .str s ∧ Double.ofText s = some x ∧ x.isFinite = true) ∨
    ∃ x, floatOf value = some x ∧ x.isFinite = true

def IsSwitch (value : Json) : Prop := (∃ b, value = .bool b) ∨ value = .int 0 ∨ value = .int 1

def IsRelease (value : Json) : Prop :=
  IsText value ∨ IsObject (fun fields => Has fields "release" IsText ∨ Has fields "version" IsText) value

/-- A text that the database refuses, cut to its column. -/
def Refused (limit : Nat) (value : Json) : Prop :=
  ∃ s, value = .str s ∧ Text.storable (truncate (Text.strip s) limit) = false

def RefusedRelease (value : Json) : Prop :=
  Refused 255 value ∨ IsObject (fun fields => Has fields "release" (Refused 255) ∨
    (¬ Has fields "release" IsText ∧ Has fields "version" (Refused 255))) value

/-- The used and total bytes of the memory or the root file system. -/
def IsUsage (value : Json) : Prop :=
  IsObject (fun fields => Has fields "total" (IsCount (2 ^ 63 - 1)) ∧ Has fields "used" (IsCount (2 ^ 63 - 1))) value

/-- A body all of whose fields are there, where they must be, and of their kind. -/
structure Legible (payload : Fields) : Prop where
  cpuinfo : Has payload "cpuinfo" (IsObject fun info =>
    Has info "model" IsText ∧ MayHave info "sockets" (IsCount 32767) ∧ MayHave info "cores" (IsCount 32767))
  memory : Has payload "memory" IsUsage
  rootfs : Has payload "rootfs" IsUsage
  swap : MayHave payload "swap" (IsObject fun swap =>
    MayHave swap "total" (IsCount (2 ^ 63 - 1)) ∧ MayHave swap "used" (IsCount (2 ^ 63 - 1)))
  bootInfo : MayHave payload "boot-info" (IsObject fun info =>
    MayHave info "mode" IsText ∧ MayHave info "secureboot" IsSwitch)
  loadavg : Has payload "loadavg" fun value => ∃ a b c, value = .arr [a, b, c] ∧ IsLoad a ∧ IsLoad b ∧ IsLoad c
  cpu : Has payload "cpu" IsNumber
  wait : MayHave payload "wait" IsNumber
  uptime : Has payload "uptime" (IsCount (2 ^ 63 - 1))
  pveversion : Has payload "pveversion" IsText
  kversion : MayHave payload "kversion" IsText
  currentKernel : MayHave payload "current-kernel" IsRelease

/-! ## The readers -/

section
variable {α β : Type}

/-- The reader gets through. -/
def Reads (m : StatusM α) : Prop := ∃ a, m = .ok a

/-- The reader raises the `OverflowError` of `float`. -/
def Overflows (m : StatusM α) : Prop := m = .error .overflow

theorem reads_iff {m : StatusM α} : (∃ a, m = .ok a) ↔ Reads m := Iff.rfl

theorem reads_ok {a : α} : Reads (.ok a : StatusM α) := ⟨a, rfl⟩

theorem reads_bind {m : StatusM α} {f : α → StatusM β} : Reads (m >>= f) ↔ ∃ a, m = .ok a ∧ Reads (f a) := by
  unfold Reads
  simp only [except_bind_ok]
  exact ⟨fun ⟨b, a, hm, hf⟩ => ⟨a, hm, b, hf⟩, fun ⟨a, hm, b, hf⟩ => ⟨b, a, hm, hf⟩⟩

theorem overflows_bind {m : StatusM α} {f : α → StatusM β} :
    Overflows (m >>= f) ↔ Overflows m ∨ ∃ a, m = .ok a ∧ Overflows (f a) := by
  unfold Overflows
  cases m with
  | ok a => simp [bind, Except.bind]
  | error e => simp [bind, Except.bind]

theorem reads_map {m : StatusM α} {f : α → β} : Reads (m.map f) ↔ Reads m := by
  unfold Reads
  cases m <;> simp [Except.map]

theorem overflows_map {m : StatusM α} {f : α → β} : Overflows (m.map f) ↔ Overflows m := by
  unfold Overflows
  cases m <;> simp [Except.map]

theorem required_ok {payload : Fields} {key : String} {value : Json} :
    required payload key = .ok value ↔ Json.lookup payload key = some value := by
  unfold required
  cases Json.lookup payload key <;> simp

theorem not_overflows_required {payload : Fields} {key : String} : ¬ Overflows (required payload key) := by
  unfold required Overflows
  cases Json.lookup payload key <;> simp

theorem reads_optionalField {payload : Fields} {key : String} {read : Json → StatusM α} {P : Json → Prop}
    (h : ∀ value, Reads (read value) ↔ P value) : Reads (optionalField payload key read) ↔ MayHave payload key P := by
  unfold optionalField MayHave
  cases hv : Json.lookup payload key with
  | none => simp [Reads]
  | some value => simp only [reads_map, h, Option.some.injEq, forall_eq']

theorem overflows_optionalField {payload : Fields} {key : String} {read : Json → StatusM α} :
    Overflows (optionalField payload key read) ↔ Has payload key fun value => Overflows (read value) := by
  unfold optionalField Has
  cases hv : Json.lookup payload key with
  | none => simp [Overflows]
  | some value => simp only [overflows_map, Option.some.injEq, exists_eq_left']

theorem not_has {payload : Fields} {key : String} : ¬ Has payload key fun _ => False := by
  simp [Has]

theorem overflows_ok {a : α} : ¬ Overflows (.ok a : StatusM α) := by
  simp [Overflows]

end

/-- The number read is what `float` makes of it. -/
theorem number_ok {key : String} {value : Json} {x : Double} : number key value = .ok x ↔ floatOf value = some x := by
  cases value with
  | int n =>
    simp only [number, floatOf, floatOfInt_eq]
    exact convertedBy_ok
  | _ => simp [number, floatOf]

theorem reads_number {key : String} (value : Json) : Reads (number key value) ↔ IsNumber value := by
  unfold Reads IsNumber
  simp only [number_ok, Option.isSome_iff_exists]

theorem overflows_number {key : String} (value : Json) : Overflows (number key value) ↔ TooLarge value := by
  unfold TooLarge Overflows
  cases value with
  | int n =>
    simp only [number, Json.int.injEq, exists_eq_left', floatOfInt_eq]
    exact convertedBy_overflow
  | _ => simp [number, invalidField]

theorem count_ok {max n : Nat} {what key : String} {value : Json} :
    count max what key value = .ok n ↔ value = .int n ∧ n ≤ max := by
  unfold count
  cases value with
  | int k =>
    simp only [Bool.or_eq_true, decide_eq_true_eq, Json.int.injEq]
    by_cases hk : k < 0 ∨ (max : Int) < k
    · rw [if_pos hk]
      simp only [reduceCtorEq, false_iff, not_and]
      omega
    · rw [if_neg hk, Except.ok.injEq]
      omega
  | _ => simp

theorem reads_count {max : Nat} {what key : String} (value : Json) :
    Reads (count max what key value) ↔ IsCount max value :=
  exists_congr fun _ => count_ok

theorem overflows_count {max : Nat} {what key : String} (value : Json) : ¬ Overflows (count max what key value) := by
  unfold Overflows count
  cases value with
  | int k =>
    simp only
    split <;> simp [invalidField]
  | _ => simp [invalidField]

theorem overflows_byteCount {key : String} (value : Json) : ¬ Overflows (byteCount key value) := overflows_count value

theorem overflows_smallCount {key : String} (value : Json) : ¬ Overflows (smallCount key value) := overflows_count value

theorem reads_byteCount {key : String} (value : Json) : Reads (byteCount key value) ↔ IsCount (2 ^ 63 - 1) value :=
  reads_count value

theorem reads_smallCount {key : String} (value : Json) : Reads (smallCount key value) ↔ IsCount 32767 value :=
  reads_count value

theorem reads_text {key : String} (value : Json) : Reads (text key value) ↔ IsText value := by
  unfold Reads IsText text
  cases value <;> simp

theorem text_ok {key found : String} {value : Json} :
    text key value = .ok found ↔ ∃ s, value = .str s ∧ Text.strip s = found := by
  unfold text
  cases value <;> simp

theorem overflows_text {key : String} (value : Json) : ¬ Overflows (text key value) := by
  unfold Overflows text
  cases value <;> simp [invalidField]

theorem mappingOf_ok {key : String} {value : Json} {fields : Fields} :
    mappingOf key value = .ok fields ↔ value = .obj fields := by
  unfold mappingOf
  cases value <;> simp

theorem overflows_mappingOf {key : String} (value : Json) : ¬ Overflows (mappingOf key value) := by
  unfold Overflows mappingOf
  cases value <;> simp [invalidField]

/-- A text of `loadavg`, once parsed. -/
def parsedText (parsed : Option Double) : StatusM Double :=
  match parsed with
  | some x => .ok x
  | none => .error (invalidField "loadavg" "holds an unparsable entry.")

theorem parsedText_ok {parsed : Option Double} {x : Double} : parsedText parsed = .ok x ↔ parsed = some x := by
  cases parsed <;> simp [parsedText]

theorem overflows_parsedText (parsed : Option Double) : ¬ Overflows (parsedText parsed) := by
  cases parsed <;> simp [parsedText, Overflows, invalidField]

/-- An entry of `loadavg` before it is asked to be finite, over any conversion of integers. -/
def parsedEntry (convert : Int → Option Double) : Json → StatusM Double
  | .str s => parsedText (Double.ofText s)
  | .int n => convertedBy convert n
  | .float t => .ok ((Double.ofText t).getD .nan)
  | _ => .error (invalidField "loadavg" "holds an unparsable entry.")

def finiteEntry (x : Double) : StatusM Double :=
  if x.isFinite then .ok x else .error (invalidField "loadavg" "holds a non-finite entry.")

theorem loadEntry_eq (entry : Json) : loadEntry entry = parsedEntry Double.ofInt entry >>= finiteEntry := by
  cases entry with
  | str s =>
    delta loadEntry parsedEntry
    cases h : Double.ofText s with
    | none =>
      simp only [h]
      rfl
    | some x =>
      simp only [h]
      rfl
  | int n =>
    have hint : parsedEntry Double.ofInt (.int n) = floatOfInt n := by
      rw [floatOfInt_eq]
      rfl
    rw [hint]
    rfl
  | _ => rfl

theorem finiteEntry_ok {x y : Double} : finiteEntry x = .ok y ↔ x.isFinite = true ∧ y = x := by
  unfold finiteEntry
  cases x.isFinite <;> simp [eq_comm]

theorem overflows_finiteEntry (x : Double) : ¬ Overflows (finiteEntry x) := by
  unfold Overflows finiteEntry
  split <;> simp [invalidField]

theorem parsedEntry_ok {entry : Json} {x : Double} :
    parsedEntry Double.ofInt entry = .ok x ↔
      (∃ s, entry = .str s ∧ Double.ofText s = some x) ∨ floatOf entry = some x := by
  cases entry with
  | str s =>
    simp only [parsedEntry, parsedText_ok, floatOf, Json.str.injEq, exists_eq_left', reduceCtorEq, or_false]
  | int n =>
    rw [parsedEntry, convertedBy_ok]
    simp only [floatOf, reduceCtorEq, false_and, exists_false, false_or]
  | _ => simp [parsedEntry, floatOf]

theorem overflows_parsedEntry (entry : Json) : Overflows (parsedEntry Double.ofInt entry) ↔ TooLarge entry := by
  unfold TooLarge
  cases entry with
  | str s =>
    simp only [parsedEntry, reduceCtorEq, false_and, exists_false, iff_false]
    exact overflows_parsedText _
  | int n =>
    rw [parsedEntry, Overflows, convertedBy_overflow]
    simp only [Json.int.injEq, exists_eq_left']
  | _ => simp [parsedEntry, Overflows, invalidField]

/-- What is read of `loadavg` is finite. -/
theorem loadEntry_ok {entry : Json} {x : Double} :
    loadEntry entry = .ok x ↔
      ((∃ s, entry = .str s ∧ Double.ofText s = some x) ∨ floatOf entry = some x) ∧ x.isFinite = true := by
  rw [loadEntry_eq, except_bind_ok]
  simp only [parsedEntry_ok, finiteEntry_ok]
  constructor
  · rintro ⟨y, hparsed, hfinite, rfl⟩
    exact ⟨hparsed, hfinite⟩
  · rintro ⟨hparsed, hfinite⟩
    exact ⟨x, hparsed, hfinite, rfl⟩

theorem reads_loadEntry (entry : Json) : Reads (loadEntry entry) ↔ IsLoad entry := by
  unfold Reads IsLoad
  simp only [loadEntry_ok, or_and_right, exists_or]
  refine or_congr ⟨?_, ?_⟩ Iff.rfl
  · rintro ⟨x, ⟨s, hs, hx⟩, hfinite⟩
    exact ⟨s, x, hs, hx, hfinite⟩
  · rintro ⟨s, x, hs, hx, hfinite⟩
    exact ⟨x, ⟨s, hs, hx⟩, hfinite⟩

theorem overflows_loadEntry (entry : Json) : Overflows (loadEntry entry) ↔ TooLarge entry := by
  rw [loadEntry_eq, overflows_bind, overflows_parsedEntry]
  simp only [overflows_finiteEntry, and_false, exists_false, or_false]

theorem reads_secureBoot (info : Option Fields) :
    Reads (secureBoot info) ↔ MayHave (info.getD []) "secureboot" IsSwitch := by
  unfold secureBoot
  cases info with
  | none => simp [Reads, MayHave, Json.lookup]
  | some fields =>
    refine reads_optionalField fun value => ?_
    unfold Reads IsSwitch
    split <;> simp_all

theorem overflows_secureBoot (info : Option Fields) : ¬ Overflows (secureBoot info) := by
  unfold secureBoot
  cases info with
  | none => simp [Overflows]
  | some fields =>
    simp only
    rw [overflows_optionalField]
    rintro ⟨value, -, h⟩
    unfold Overflows at h
    split at h <;> simp [invalidField] at h

theorem reads_currentKernel (payload : Fields) :
    Reads (currentKernel payload) ↔ MayHave payload "current-kernel" IsRelease := by
  unfold currentKernel MayHave IsRelease IsText IsObject Has Reads
  cases Json.lookup payload "current-kernel" with
  | none => simp
  | some value =>
    cases value with
    | obj fields =>
      simp only [Option.some.injEq, forall_eq']
      split <;> simp_all
    | _ => simp

theorem overflows_currentKernel (payload : Fields) : ¬ Overflows (currentKernel payload) := by
  unfold currentKernel Overflows
  simp only
  split
  · simp
  · simp
  · split <;> simp [invalidField]
  · simp [invalidField]

theorem reads_loadAverage (value : Json) :
    Reads (loadAverage value) ↔ ∃ a b c, value = .arr [a, b, c] ∧ IsLoad a ∧ IsLoad b ∧ IsLoad c := by
  unfold loadAverage
  split
  · rename_i a b c
    simp only [reads_bind, reads_ok, and_true, exists_and_right, reads_iff, reads_loadEntry, Json.arr.injEq,
      List.cons.injEq]
    constructor
    · intro h
      exact ⟨a, b, c, ⟨rfl, rfl, rfl⟩, h⟩
    · rintro ⟨_, _, _, ⟨rfl, rfl, rfl, -⟩, h⟩
      exact h
  · rename_i hnot
    simp only [Reads, reduceCtorEq, exists_false, false_iff, not_exists, not_and]
    rintro a b c rfl
    exact absurd rfl (hnot a b c)

/-- An entry too large for a float, after loads only. -/
def LoadsOverflow (value : Json) : Prop :=
  ∃ a b c, value = .arr [a, b, c] ∧ (TooLarge a ∨ (IsLoad a ∧ (TooLarge b ∨ (IsLoad b ∧ TooLarge c))))

theorem overflows_loadAverage (value : Json) : Overflows (loadAverage value) ↔ LoadsOverflow value := by
  unfold loadAverage LoadsOverflow
  split
  · rename_i a b c
    simp only [overflows_bind, overflows_ok, overflows_loadEntry, or_false, and_false, exists_false, exists_and_right,
      reads_iff, reads_loadEntry, Json.arr.injEq, List.cons.injEq]
    constructor
    · intro h
      exact ⟨a, b, c, ⟨rfl, rfl, rfl, trivial⟩, h⟩
    · rintro ⟨_, _, _, ⟨rfl, rfl, rfl, -⟩, h⟩
      exact h
  · rename_i hnot
    simp only [Overflows, invalidField, Except.error.injEq, reduceCtorEq, false_iff, not_exists, not_and]
    rintro a b c rfl
    exact absurd rfl (hnot a b c)

/-! ## The whole body -/

theorem section_ok {payload fields : Fields} {key label : String} :
    (required payload key >>= mappingOf label) = .ok fields ↔ Json.lookup payload key = some (.obj fields) := by
  simp only [except_bind_ok, required_ok, mappingOf_ok]
  constructor
  · rintro ⟨value, hvalue, rfl⟩
    exact hvalue
  · intro hvalue
    exact ⟨_, hvalue, rfl⟩

theorem optionalSection_ok {payload : Fields} {key label : String} {fields : Option Fields} :
    optionalField payload key (mappingOf label) = .ok fields ↔
      (Json.lookup payload key = none ∧ fields = none) ∨
        ∃ found, Json.lookup payload key = some (.obj found) ∧ fields = some found := by
  unfold optionalField
  cases Json.lookup payload key with
  | none => simp [eq_comm]
  | some value =>
    cases value with
    | obj found => simp [mappingOf, Except.map, eq_comm]
    | _ => simp [mappingOf, Except.map]

theorem swapSection_ok {payload fields : Fields} {key label : String} :
    (optionalField payload key (mappingOf label)).map (fun found => found.getD []) = .ok fields ↔
      (Json.lookup payload key = none ∧ fields = []) ∨ Json.lookup payload key = some (.obj fields) := by
  unfold optionalField
  cases Json.lookup payload key with
  | none => simp [Except.map, eq_comm]
  | some value =>
    cases value with
    | obj found => simp [mappingOf, Except.map]
    | _ => simp [mappingOf, Except.map]

theorem mayHave_nil {key : String} {P : Json → Prop} : MayHave [] key P := by
  intro value h
  cases h

/-- A body is read exactly when it is legible. -/
theorem reads_normalizeNodeStatus {payload : Fields} :
    Reads (normalizeNodeStatus (.obj payload)) ↔ Legible payload := by
  unfold normalizeNodeStatus
  simp only [reads_bind, reads_ok, and_true, Except.ok.injEq, exists_eq_left', exists_and_right, reads_iff, required_ok,
    reads_text, reads_number, reads_loadAverage, reads_byteCount, reads_optionalField reads_text,
    reads_optionalField reads_number, reads_optionalField reads_byteCount, reads_optionalField reads_smallCount,
    reads_secureBoot, reads_currentKernel, section_ok, optionalSection_ok, swapSection_ok]
  constructor
  · rintro ⟨info, hinfo, memory, hmemory, rootfs, hrootfs, swap, hswap, boot, hboot, hload, hcpu, hwait, hmodel,
      hsockets, hcores, hmemTotal, hmemUsed, hswapTotal, hswapUsed, hrootTotal, hrootUsed, huptime, hversion, hkversion,
      hkernel,
      hmode, hsecure⟩
    refine ⟨⟨_, hinfo, _, rfl, hmodel, hsockets, hcores⟩, ⟨_, hmemory, _, rfl, hmemTotal, hmemUsed⟩,
      ⟨_, hrootfs, _, rfl, hrootTotal, hrootUsed⟩, ?_, ?_, hload, hcpu, hwait, huptime, hversion, hkversion, hkernel⟩
    · intro value hvalue
      rcases hswap with ⟨hnone, -⟩ | hsome
      · rw [hnone] at hvalue
        cases hvalue
      · rw [hsome] at hvalue
        cases hvalue
        exact ⟨swap, rfl, hswapTotal, hswapUsed⟩
    · intro value hvalue
      rcases hboot with ⟨hnone, -⟩ | ⟨found, hsome, rfl⟩
      · rw [hnone] at hvalue
        cases hvalue
      · rw [hsome] at hvalue
        cases hvalue
        exact ⟨found, rfl, hmode, hsecure⟩
  · rintro ⟨⟨_, hinfo, info, rfl, hmodel, hsockets, hcores⟩, ⟨_, hmemory, memory, rfl, hmemTotal, hmemUsed⟩,
      ⟨_, hrootfs, rootfs, rfl, hrootTotal, hrootUsed⟩, hswap, hboot, hload, hcpu, hwait, huptime, hversion, hkversion,
      hkernel⟩
    obtain ⟨swap, hswapSection, hswapTotal, hswapUsed⟩ : ∃ swap,
        ((Json.lookup payload "swap" = none ∧ swap = []) ∨ Json.lookup payload "swap" = some (.obj swap)) ∧
          MayHave swap "total" (IsCount (2 ^ 63 - 1)) ∧ MayHave swap "used" (IsCount (2 ^ 63 - 1)) := by
      cases h : Json.lookup payload "swap" with
      | none => exact ⟨[], .inl ⟨rfl, rfl⟩, mayHave_nil, mayHave_nil⟩
      | some value =>
        obtain ⟨swap, rfl, htotal, hused⟩ := hswap value h
        exact ⟨swap, .inr rfl, htotal, hused⟩
    obtain ⟨boot, hbootSection, hmode, hsecure⟩ : ∃ boot : Option Fields,
        ((Json.lookup payload "boot-info" = none ∧ boot = none) ∨
          ∃ found, Json.lookup payload "boot-info" = some (.obj found) ∧ boot = some found) ∧
          MayHave (boot.getD []) "mode" IsText ∧ MayHave (boot.getD []) "secureboot" IsSwitch := by
      cases h : Json.lookup payload "boot-info" with
      | none => exact ⟨none, .inl ⟨rfl, rfl⟩, mayHave_nil, mayHave_nil⟩
      | some value =>
        obtain ⟨found, rfl, hmode, hsecure⟩ := hboot value h
        exact ⟨some found, .inr ⟨found, rfl, rfl⟩, hmode, hsecure⟩
    exact ⟨info, hinfo, memory, hmemory, rootfs, hrootfs, swap, hswapSection, boot, hbootSection, hload, hcpu, hwait,
      hmodel, hsockets, hcores, hmemTotal, hmemUsed, hswapTotal, hswapUsed, hrootTotal, hrootUsed, huptime, hversion,
      hkversion, hkernel, hmode, hsecure⟩

/-- Some text of the body is one that the database refuses. -/
def HasRefused (payload : Fields) : Prop :=
  Has payload "cpuinfo" (IsObject fun info => Has info "model" (Refused 255)) ∨ Has payload "pveversion" (Refused 120) ∨
    Has payload "kversion" (Refused 255) ∨ Has payload "current-kernel" RefusedRelease ∨
      Has payload "boot-info" (IsObject fun info => Has info "mode" (Refused 32))

/-- A legible body with a text that the database refuses. -/
structure Garbled (payload : Fields) : Prop where
  legible : Legible payload
  text : HasRefused payload

/-- A body in which an integer too large for a float is met before any fault. -/
structure Oversized (payload : Fields) : Prop where
  cpuinfo : Has payload "cpuinfo" (IsObject fun _ => True)
  memory : Has payload "memory" (IsObject fun _ => True)
  rootfs : Has payload "rootfs" (IsObject fun _ => True)
  swap : MayHave payload "swap" (IsObject fun _ => True)
  bootInfo : MayHave payload "boot-info" (IsObject fun _ => True)
  number : Has payload "loadavg" LoadsOverflow ∨
    ((Has payload "loadavg" fun value => ∃ a b c, value = .arr [a, b, c] ∧ IsLoad a ∧ IsLoad b ∧ IsLoad c) ∧
      (Has payload "cpu" TooLarge ∨ (Has payload "cpu" IsNumber ∧ Has payload "wait" TooLarge)))

theorem overflows_normalizeNodeStatus {payload : Fields} :
    Overflows (normalizeNodeStatus (.obj payload)) ↔ Oversized payload := by
  unfold normalizeNodeStatus
  simp only [overflows_bind, required_ok, not_overflows_required, overflows_mappingOf, overflows_text,
    overflows_optionalField, overflows_number, overflows_map, overflows_byteCount, overflows_smallCount,
    overflows_currentKernel, overflows_secureBoot, overflows_loadAverage, overflows_ok, not_has, false_or, and_false,
    exists_false, or_false, Except.ok.injEq, exists_eq_left', section_ok, optionalSection_ok, swapSection_ok]
  -- what is left: the sections, then the loads, the use and the wait of the processor
  have hloads : ∀ P : Prop, (∃ loads, (required payload "loadavg" >>= loadAverage) = .ok loads ∧ P) ↔
      (Has payload "loadavg" fun value => ∃ a b c, value = .arr [a, b, c] ∧ IsLoad a ∧ IsLoad b ∧ IsLoad c) ∧ P := by
    intro P
    rw [exists_and_right, reads_iff, reads_bind]
    simp only [required_ok, reads_loadAverage]
    rfl
  have hcpu : ∀ P : Prop, (∃ x, (required payload "cpu" >>= number "cpu") = .ok x ∧ P) ↔
      Has payload "cpu" IsNumber ∧ P := by
    intro P
    rw [exists_and_right, reads_iff, reads_bind]
    simp only [required_ok, reads_number]
    rfl
  simp only [hloads, hcpu]
  constructor
  · rintro ⟨info, hinfo, memory, hmemory, rootfs, hrootfs, swap, hswap, boot, hboot, hnumber⟩
    refine ⟨⟨_, hinfo, _, rfl, trivial⟩, ⟨_, hmemory, _, rfl, trivial⟩, ⟨_, hrootfs, _, rfl, trivial⟩, ?_, ?_, hnumber⟩
    · intro value hvalue
      rcases hswap with ⟨hnone, -⟩ | hsome
      · rw [hnone] at hvalue
        cases hvalue
      · rw [hsome] at hvalue
        cases hvalue
        exact ⟨swap, rfl, trivial⟩
    · intro value hvalue
      rcases hboot with ⟨hnone, -⟩ | ⟨found, hsome, -⟩
      · rw [hnone] at hvalue
        cases hvalue
      · rw [hsome] at hvalue
        cases hvalue
        exact ⟨found, rfl, trivial⟩
  · rintro ⟨⟨_, hinfo, info, rfl, -⟩, ⟨_, hmemory, memory, rfl, -⟩, ⟨_, hrootfs, rootfs, rfl, -⟩, hswap, hboot, hnumber⟩
    obtain ⟨swap, hswapSection⟩ : ∃ swap,
        (Json.lookup payload "swap" = none ∧ swap = []) ∨ Json.lookup payload "swap" = some (.obj swap) := by
      cases h : Json.lookup payload "swap" with
      | none => exact ⟨[], .inl ⟨rfl, rfl⟩⟩
      | some value =>
        obtain ⟨swap, rfl, -⟩ := hswap value h
        exact ⟨swap, .inr rfl⟩
    obtain ⟨boot, hbootSection⟩ : ∃ boot : Option Fields,
        (Json.lookup payload "boot-info" = none ∧ boot = none) ∨
          ∃ found, Json.lookup payload "boot-info" = some (.obj found) ∧ boot = some found := by
      cases h : Json.lookup payload "boot-info" with
      | none => exact ⟨none, .inl ⟨rfl, rfl⟩⟩
      | some value =>
        obtain ⟨found, rfl, -⟩ := hboot value h
        exact ⟨some found, .inr ⟨found, rfl, rfl⟩⟩
    exact ⟨info, hinfo, memory, hmemory, rootfs, hrootfs, swap, hswapSection, boot, hbootSection, hnumber⟩

/-- All numbers are finite and fit their columns. -/
structure NormalizedNodeRuntime.InRange (r : NormalizedNodeRuntime) : Prop where
  cpuUsage : r.cpuUsage.isFinite = true
  cpuWait : ∀ x ∈ r.cpuWait, x.isFinite = true
  loadAverage : r.loadAverage1m.isFinite = true ∧ r.loadAverage5m.isFinite = true ∧ r.loadAverage15m.isFinite = true
  cpus : (∀ n ∈ r.cpuSockets, n ≤ 32767) ∧ ∀ n ∈ r.cpuCores, n ≤ 32767
  memory : r.memoryTotalBytes ≤ 2 ^ 63 - 1 ∧ r.memoryUsedBytes ≤ 2 ^ 63 - 1
  swap : (∀ n ∈ r.swapTotalBytes, n ≤ 2 ^ 63 - 1) ∧ ∀ n ∈ r.swapUsedBytes, n ≤ 2 ^ 63 - 1
  rootfs : r.rootfsTotalBytes ≤ 2 ^ 63 - 1 ∧ r.rootfsUsedBytes ≤ 2 ^ 63 - 1
  uptime : r.uptimeSeconds ≤ 2 ^ 63 - 1

theorem count_le {max n : Nat} {what key : String} {value : Json} (h : count max what key value = .ok n) : n ≤ max :=
  (count_ok.mp h).2

/-- An optional field that was read: it is missing, or its value was. -/
theorem optionalField_ok {α : Type} {payload : Fields} {key : String} {read : Json → StatusM α} {found : Option α} :
    optionalField payload key read = .ok found ↔ (Json.lookup payload key = none ∧ found = none) ∨
      ∃ value a, Json.lookup payload key = some value ∧ read value = .ok a ∧ found = some a := by
  unfold optionalField
  cases Json.lookup payload key with
  | none => simp [eq_comm]
  | some value => cases h : read value <;> simp [h, Except.map, eq_comm (a := found)]

theorem optionalCount_le {payload : Fields} {key label what : String} {max : Nat} {found : Option Nat}
    (h : optionalField payload key (count max what label) = .ok found) : ∀ n ∈ found, n ≤ max := by
  rcases optionalField_ok.mp h with ⟨-, rfl⟩ | ⟨value, k, -, hread, rfl⟩
  · simp
  · simpa using count_le hread

theorem loadAverage_finite {value : Json} {loads : Double × Double × Double} (h : loadAverage value = .ok loads) :
    loads.1.isFinite = true ∧ loads.2.1.isFinite = true ∧ loads.2.2.isFinite = true := by
  unfold loadAverage at h
  split at h
  · simp only [except_bind_ok, Except.ok.injEq] at h
    obtain ⟨a, ha, b, hb, c, hc, rfl⟩ := h
    exact ⟨(loadEntry_ok.mp ha).2, (loadEntry_ok.mp hb).2, (loadEntry_ok.mp hc).2⟩
  · cases h

/-- The record of a body that is read is in range exactly when `cpu` and `wait` are numbers. -/
theorem normalizeNodeStatus_inRange {payload : Fields} {r : NormalizedNodeRuntime}
    (h : normalizeNodeStatus (.obj payload) = .ok r) :
    r.InRange ↔ ¬ Has payload "cpu" NotFinite ∧ ¬ Has payload "wait" NotFinite := by
  unfold normalizeNodeStatus at h
  simp only [except_bind_ok, required_ok, Except.ok.injEq, exists_eq_left'] at h
  obtain ⟨info, _, memory, _, rootfs, _, swap, _, boot, _, loads, ⟨_, _, hloads⟩, cpu, ⟨cpuValue, hcpu, hcpuNumber⟩,
    wait, hwait, model, _, sockets, hsockets, cores, hcores, memTotal, ⟨_, _, hmemTotal⟩, memUsed, ⟨_, _, hmemUsed⟩,
    swapTotal, hswapTotal, swapUsed, hswapUsed, rootTotal, ⟨_, _, hrootTotal⟩, rootUsed, ⟨_, _, hrootUsed⟩,
    uptime, ⟨_, _, huptime⟩, version, _, kversion, _, kernel, _, mode, _, secure, _, hr⟩ := h
  subst hr
  have hcpuFinite : cpu.isFinite = true ↔ ¬ Has payload "cpu" NotFinite := by
    unfold Has NotFinite
    simp only [hcpu, Option.some.injEq, exists_eq_left', number_ok.mp hcpuNumber]
    simp
  have hwaitFinite : (∀ x ∈ wait, x.isFinite = true) ↔ ¬ Has payload "wait" NotFinite := by
    unfold Has NotFinite
    rcases optionalField_ok.mp hwait with ⟨hnone, rfl⟩ | ⟨value, x, hvalue, hx, rfl⟩
    · simp [hnone]
    · simp only [hvalue, Option.some.injEq, exists_eq_left', number_ok.mp hx]
      simp
  rw [← hcpuFinite, ← hwaitFinite]
  constructor
  · intro hr
    exact ⟨hr.cpuUsage, hr.cpuWait⟩
  · rintro ⟨hc, hw⟩
    exact ⟨hc, hw, loadAverage_finite hloads, ⟨optionalCount_le hsockets, optionalCount_le hcores⟩,
      ⟨count_le hmemTotal, count_le hmemUsed⟩, ⟨optionalCount_le hswapTotal, optionalCount_le hswapUsed⟩,
      ⟨count_le hrootTotal, count_le hrootUsed⟩, count_le huptime⟩

/-! ## Texts the database refuses -/

theorem not_has_none {payload : Fields} {key : String} (h : Json.lookup payload key = none) {P : Json → Prop} :
    ¬ Has payload key P := by
  rintro ⟨value, hvalue, -⟩
  rw [h] at hvalue
  cases hvalue

theorem has_section {payload fields : Fields} {key : String} (h : Json.lookup payload key = some (.obj fields))
    {P : Fields → Prop} : Has payload key (IsObject P) ↔ P fields := by
  unfold Has IsObject
  simp [h]

theorem has_refused {payload : Fields} {key s : String} (h : Json.lookup payload key = some (.str s)) {limit : Nat} :
    Has payload key (Refused limit) ↔ Text.storable (truncate (Text.strip s) limit) = false := by
  unfold Has Refused
  simp [h]

theorem has_text_of_refused {payload : Fields} {key : String} {limit : Nat} (h : Has payload key (Refused limit)) :
    Has payload key IsText := by
  obtain ⟨value, hvalue, s, hs, -⟩ := h
  exact ⟨value, hvalue, s, hs⟩

theorem refused_text {payload : Fields} {key label found : String} {limit : Nat}
    (h : (required payload key >>= text label) = .ok found) :
    Text.storable (truncate found limit) = false ↔ Has payload key (Refused limit) := by
  simp only [except_bind_ok, required_ok] at h
  obtain ⟨value, hvalue, htext⟩ := h
  obtain ⟨s, rfl, rfl⟩ := text_ok.mp htext
  exact (has_refused hvalue).symm

theorem storable_empty : Text.storable "" = true := rfl

theorem refused_optionalText {payload : Fields} {key label : String} {limit : Nat} {found : Option String}
    (h : optionalField payload key (text label) = .ok found) :
    Text.storable ((found.map (truncate · limit)).getD "") = false ↔ Has payload key (Refused limit) := by
  rcases optionalField_ok.mp h with ⟨hnone, rfl⟩ | ⟨value, s, hvalue, htext, rfl⟩
  · refine iff_of_false ?_ (not_has_none hnone)
    rw [Option.map_none, Option.getD_none, storable_empty]
    decide
  · obtain ⟨t, rfl, rfl⟩ := text_ok.mp htext
    rw [Option.map_some, Option.getD_some, has_refused hvalue]

theorem refused_currentKernel {payload : Fields} {found : String} (h : currentKernel payload = .ok found) :
    Text.storable found = false ↔ Has payload "current-kernel" RefusedRelease := by
  unfold currentKernel at h
  cases hkernel : Json.lookup payload "current-kernel" with
  | none =>
    simp only [hkernel, Except.ok.injEq] at h
    rw [← h, storable_empty]
    exact iff_of_false (by decide) (not_has_none hkernel)
  | some value =>
    have hhas : Has payload "current-kernel" RefusedRelease ↔ RefusedRelease value := by
      unfold Has
      simp [hkernel]
    rw [hhas, RefusedRelease]
    cases value with
    | str s =>
      simp only [hkernel, Except.ok.injEq] at h
      rw [← h]
      simp [Refused, IsObject]
    | obj fields =>
      have hobject : ∀ P, IsObject P (.obj fields) ↔ P fields := by simp [IsObject]
      have hnot : ¬ Refused 255 (.obj fields) := by simp [Refused]
      rw [or_iff_right hnot, hobject]
      simp only [hkernel] at h
      split at h
      · next release hrelease =>
        rw [← Except.ok.inj h, has_refused hrelease]
        exact (or_iff_left fun hversion => hversion.1 ⟨_, hrelease, release, rfl⟩).symm
      · next version hversion hrelease =>
        have hnone : ¬ Has fields "release" IsText := fun hhas => by
          obtain ⟨_, hvalue, release, rfl⟩ := hhas
          exact hrelease release hvalue
        rw [← Except.ok.inj h, has_refused hversion, or_iff_right fun hrefused => hnone (has_text_of_refused hrefused)]
        exact (and_iff_right hnone).symm
      · cases h
    | _ =>
      simp only [hkernel, reduceCtorEq] at h

/-- The database refuses a text of the record. -/
theorem normalizeNodeStatus_storable {payload : Fields} {r : NormalizedNodeRuntime}
    (h : normalizeNodeStatus (.obj payload) = .ok r) : r.storable = false ↔ HasRefused payload := by
  unfold normalizeNodeStatus at h
  simp only [except_bind_ok, Except.ok.injEq, exists_eq_left'] at h
  obtain ⟨info, hinfo, memory, -, rootfs, -, swap, -, boot, hboot, loads, -, cpu, -, wait, -, model, hmodel, sockets, -,
    cores, -, memTotal, -, memUsed, -, swapTotal, -, swapUsed, -, rootTotal, -, rootUsed, -, uptime, -, version, hversion,
    kversion, hkversion, kernel, hkernel, mode, hmode, secure, -, hr⟩ := h
  subst hr
  have hsection : Json.lookup payload "cpuinfo" = some (.obj info) := section_ok.mp (except_bind_ok.mpr hinfo)
  have hbootInfo : Has payload "boot-info" (IsObject fun info => Has info "mode" (Refused 32)) ↔
      Has (boot.getD []) "mode" (Refused 32) := by
    rcases optionalSection_ok.mp hboot with ⟨hnone, rfl⟩ | ⟨found, hsome, rfl⟩
    · exact iff_of_false (not_has_none hnone) (not_has_none rfl)
    · exact has_section hsome
  unfold HasRefused
  rw [has_section hsection, hbootInfo, ← refused_text (except_bind_ok.mpr hmodel),
    ← refused_text (except_bind_ok.mpr hversion), ← refused_optionalText hkversion, ← refused_currentKernel hkernel,
    ← refused_optionalText hmode]
  simp only [NormalizedNodeRuntime.storable, List.all_cons, List.all_nil, Bool.and_true, Bool.and_eq_false_iff]

/-- A body is garbled exactly when it is read and its record is then refused. -/
theorem garbled_iff {payload : Fields} :
    (∃ r, normalizeNodeStatus (.obj payload) = .ok r ∧ r.storable = false) ↔ Garbled payload := by
  constructor
  · intro h
    obtain ⟨r, hr, hstorable⟩ := h
    exact ⟨reads_normalizeNodeStatus.mp ⟨r, hr⟩, (normalizeNodeStatus_storable hr).mp hstorable⟩
  · intro h
    obtain ⟨r, hr⟩ := reads_normalizeNodeStatus.mpr h.legible
    exact ⟨r, hr, (normalizeNodeStatus_storable hr).mpr h.text⟩

/-! ## The answer -/

/-- The body is refused as it should be, or its record is in range. -/
def Answered : StatusM NormalizedNodeRuntime → Prop
  | .ok r => r.InRange
  | .error (.invalid _) => True
  | .error .overflow => False

/-- A body that `normalizeNodeStatus` neither refuses nor makes a proper record of. -/
def Harmful (payload : Json) : Prop :=
  IsObject (fun fields => Oversized fields ∨
    (Legible fields ∧ (Has fields "cpu" NotFinite ∨ Has fields "wait" NotFinite))) payload

theorem answered_iff (payload : Json) : Answered (normalizeNodeStatus payload) ↔ ¬ Harmful payload := by
  unfold Harmful IsObject
  cases payload with
  | obj fields =>
    simp only [Json.obj.injEq, exists_eq_left', ← overflows_normalizeNodeStatus, ← reads_normalizeNodeStatus]
    cases h : normalizeNodeStatus (.obj fields) with
    | ok r =>
      have hread : Reads (.ok r : StatusM NormalizedNodeRuntime) := reads_ok
      simp only [Answered, normalizeNodeStatus_inRange h, overflows_ok, hread]
      tauto
    | error e =>
      cases e with
      | invalid text => simp [Answered, Overflows, Reads]
      | overflow => simp [Answered, Overflows]
  | _ => simp [normalizeNodeStatus, bind, Except.bind, Answered]

/-! ## Sweeps -/

/-- A node's turn in a sweep: the rows as its transaction finds them, whatever was
written since the last turn, and what the endpoints answer. -/
structure NodeTurn where
  name : String
  cluster : RuntimeCluster
  answers : List (String × Answer Json)

def NodeTurn.visit (turn : NodeTurn) (h : SweepEndpointHealth) : Except String NodeVisit × SweepEndpointHealth :=
  visitNode turn.cluster turn.name turn.answers h

/-- The nodes the loop of `refresh_cluster_node_runtime` gets to: an exception ends it. -/
def attempted (h : SweepEndpointHealth) : List NodeTurn → List String
  | [] => []
  | turn :: turns => turn.name ::
    match turn.visit h with
    | (.ok _, h') => attempted h' turns
    | (.error _, _) => []

/-- What the sweep has learned of the endpoints after these turns. -/
def learnedAfter (turns : List NodeTurn) : SweepEndpointHealth :=
  turns.foldl (fun h turn => (turn.visit h).2) {}

/-- The node's status is asked for: its cluster is open, and it is a member not known to be offline. -/
def NodeTurn.Asks (turn : NodeTurn) : Prop :=
  ∃ complete row, clusterGate turn.cluster.scope (!turn.answers.isEmpty) = .ok complete ∧
    turn.cluster.scope.row.transitionPending = false ∧ turn.cluster.scope.nodes.get turn.name = some row ∧
    row.present = true ∧ (complete = true → row.online = true)

/-- The turn asks, and the first usable endpoint that answers sends an oversized or a garbled body. -/
def NodeTurn.Breaks (turn : NodeTurn) (h : SweepEndpointHealth) : Prop :=
  turn.Asks ∧ ∃ endpoint fields, (readUsable turn.answers h).1 = .ok (endpoint, .obj fields) ∧
    (Oversized fields ∨ Garbled fields)

theorem readNodeStatus_raises (answers : List (String × Answer Json)) (h : SweepEndpointHealth) :
    ((∃ e, (readNodeStatus answers h).1 = .error e) ∨
        ∃ r, (readNodeStatus answers h).1 = .ok (.ok r) ∧ r.storable = false) ↔
      ∃ endpoint fields, (readUsable answers h).1 = .ok (endpoint, .obj fields) ∧
        (Oversized fields ∨ Garbled fields) := by
  unfold readNodeStatus
  obtain ⟨read, h'⟩ := readUsable answers h
  cases read with
  | error code => simp
  | ok answer =>
    obtain ⟨endpoint, payload⟩ := answer
    simp only [Except.ok.injEq, Prod.mk.injEq]
    cases payload with
    | obj fields =>
      simp only [Json.obj.injEq]
      have hraises : Oversized fields ↔ normalizeNodeStatus (.obj fields) = .error .overflow :=
        overflows_normalizeNodeStatus.symm
      have hgarbled := @garbled_iff fields
      cases hn : normalizeNodeStatus (.obj fields) with
      | ok r => simp [hraises, ← hgarbled, hn]
      | error e => cases e <;> simp [hraises, ← hgarbled, hn]
    | _ => simp [normalizeNodeStatus, bind, Except.bind]

theorem savedRuntime_raises {runtime : NormalizedNodeRuntime} :
    (∃ e, savedRuntime runtime = .error e) ↔ runtime.storable = false := by
  unfold savedRuntime
  cases runtime.storable <;> simp

/-- A turn raises exactly when it breaks. -/
theorem NodeTurn.visit_raises (turn : NodeTurn) (h : SweepEndpointHealth) :
    (∃ e, (turn.visit h).1 = .error e) ↔ turn.Breaks h := by
  unfold NodeTurn.Breaks NodeTurn.Asks NodeTurn.visit visitNode
  rw [← readNodeStatus_raises]
  cases clusterGate turn.cluster.scope (!turn.answers.isEmpty) with
  | error refusal => simp
  | ok complete =>
    simp only [Except.ok.injEq]
    cases hpending : turn.cluster.scope.row.transitionPending with
    | true => simp
    | false =>
      cases hrow : turn.cluster.scope.nodes.get turn.name with
      | none => simp
      | some row =>
        cases hpresent : row.present with
        | false => simp [hpresent]
        | true =>
          by_cases hoffline : (complete && !row.online) = true
          · have honline : ¬ (complete = true → row.online = true) := by
              simpa using hoffline
            simp [hoffline, honline, hpresent]
          · have honline : complete = true → row.online = true := by
              simpa using hoffline
            simp only [hpresent, hoffline]
            generalize readNodeStatus turn.answers h = read
            obtain ⟨read, h'⟩ := read
            rcases read with e | (code | runtime)
            · simpa [hpresent] using honline
            · simp
            · simpa [hpresent, savedRuntime_raises] using fun _ => honline

theorem attempted_iff (h : SweepEndpointHealth) (turns : List NodeTurn) :
    attempted h turns = turns.map (·.name) ↔
      ∀ before turn after, turns = before ++ turn :: after → after ≠ [] →
        ¬ turn.Breaks (before.foldl (fun h turn => (turn.visit h).2) h) := by
  induction turns generalizing h with
  | nil => simp [attempted]
  | cons first turns ih =>
    -- the first turn, and the turns after it
    have hsplit : (∀ before turn after, first :: turns = before ++ turn :: after → after ≠ [] →
          ¬ turn.Breaks (before.foldl (fun h turn => (turn.visit h).2) h)) ↔
        (turns ≠ [] → ¬ first.Breaks h) ∧ ∀ before turn after, turns = before ++ turn :: after → after ≠ [] →
          ¬ turn.Breaks (before.foldl (fun h turn => (turn.visit h).2) (first.visit h).2) := by
      constructor
      · intro hall
        refine ⟨fun hne => hall [] first turns rfl hne, ?_⟩
        rintro before turn after rfl hne
        exact hall (first :: before) turn after rfl hne
      · rintro ⟨hfirst, hrest⟩ before turn after heq hne
        cases before with
        | nil =>
          obtain ⟨rfl, rfl⟩ := List.cons.inj heq
          exact hfirst hne
        | cons x before =>
          obtain ⟨rfl, rfl⟩ := List.cons.inj heq
          exact hrest before turn after rfl hne
    rw [hsplit, ← ih, ← first.visit_raises h, attempted, List.map_cons, List.cons.injEq]
    generalize first.visit h = visit
    obtain ⟨visited, h'⟩ := visit
    cases visited with
    | ok visit => simp
    | error e => cases turns <;> simp [attempted]

/-- A status body is answered properly unless it is harmful, and a sweep attempts
all its nodes unless a turn before the last one meets an oversized or a garbled body. -/
theorem nodeAnswers_iff (payload : Json) (turns : List NodeTurn) :
    (Answered (normalizeNodeStatus payload) ↔ ¬ Harmful payload) ∧
    (attempted {} turns = turns.map (·.name) ↔
      ∀ before turn after, turns = before ++ turn :: after → after ≠ [] → ¬ turn.Breaks (learnedAfter before)) :=
  ⟨answered_iff payload, attempted_iff {} turns⟩

/-- A status body with the given use of the processor and load. -/
def loadedBody (cpu load : Json) : Json :=
  .obj [("cpuinfo", .obj [("model", .str "EPYC")]), ("memory", .obj [("total", .int 8), ("used", .int 3)]),
    ("rootfs", .obj [("total", .int 9), ("used", .int 2)]), ("loadavg", .arr [load, .str "0.2", .str "0.3"]),
    ("cpu", cpu), ("uptime", .int 60), ("pveversion", .str "8.4")]

/-- A cluster of two members. -/
def pairCluster : RuntimeCluster where
  scope := scopeStep addedCluster.scope (.refresh [("a", .body (.arr [
    .obj [("type", .str "cluster"), ("nodes", .int 2), ("quorate", .int 1)],
    .obj [("type", .str "node"), ("name", .str "pve1"), ("nodeid", .int 1), ("online", .int 1), ("local", .int 1)],
    .obj [("type", .str "node"), ("name", .str "pve2"), ("nodeid", .int 2), ("online", .int 1)]]))] 1)
  runtime _ := {}
  coverage := .empty

/-- A load too large for a float on the first of two members. -/
def pairTurns : List NodeTurn :=
  [⟨"pve1", pairCluster, [("a", .ok (loadedBody (.int 0) (.int (10 ^ 400))))]⟩,
    ⟨"pve2", pairCluster, [("a", .ok (loadedBody (.int 0) (.str "0.1")))]⟩]

/-- A use of NaN is published, and an oversized load of one node keeps the sweep from the next. -/
theorem harmful_bodies_break :
    ¬ Answered (normalizeNodeStatus (loadedBody (.float "NaN") (.str "0.1"))) ∧
      attempted {} pairTurns ≠ pairTurns.map (·.name) := by
  constructor
  · have hread : (normalizeNodeStatus (loadedBody (.float "NaN") (.str "0.1"))).toOption.map (·.cpuUsage) =
        some .nan := by decide +kernel
    cases h : normalizeNodeStatus (loadedBody (.float "NaN") (.str "0.1")) with
    | error e => simp [h, Except.toOption] at hread
    | ok r =>
      rw [h] at hread
      have hnan : r.cpuUsage = .nan := by simpa [Except.toOption] using hread
      intro hr
      have hfinite := hr.cpuUsage
      rw [hnan] at hfinite
      cases hfinite
  · decide +kernel

end PveHelper.Nodes
