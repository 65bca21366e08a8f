/-
`normalize_node_status` of `core/services/cluster_node_runtime.py`: one
`nodes/<node>/status` body, read whole or refused. A number too large for a
float is neither: `float` raises an `OverflowError`, which no reader expects.
-/
import PveHelper.Lib.Double
import PveHelper.Lib.Json

namespace PveHelper.Nodes

open Lib

abbrev Fields := List (String × Json)

/-- The typed subset of `nodes/<node>/status` that is published. -/
structure NormalizedNodeRuntime where
  cpuUsage : Double
  cpuWait : Option Double
  cpuModel : String
  cpuSockets : Option Nat
  cpuCores : Option Nat
  memoryTotalBytes : Nat
  memoryUsedBytes : Nat
  swapTotalBytes : Option Nat
  swapUsedBytes : Option Nat
  rootfsTotalBytes : Nat
  rootfsUsedBytes : Nat
  loadAverage1m : Double
  loadAverage5m : Double
  loadAverage15m : Double
  uptimeSeconds : Nat
  pveVersion : String
  kernelVersion : String
  currentKernelRelease : String
  bootMode : String
  secureBootEnabled : Option Bool
deriving DecidableEq

/-- The database takes every text. -/
def NormalizedNodeRuntime.storable (r : NormalizedNodeRuntime) : Bool :=
  [r.cpuModel, r.pveVersion, r.kernelVersion, r.currentKernelRelease, r.bootMode].all Text.storable

inductive NodeStatusError
  /-- `InvalidNodeStatusPayload`, with its text. -/
  | invalid (text : String)
  /-- The `OverflowError` of `float`. -/
  | overflow
deriving DecidableEq

abbrev StatusM := Except NodeStatusError

def invalidField (key what : String) : NodeStatusError := .invalid ("Node status field '" ++ key ++ "' " ++ what)

/-- `_truncate`: a display text cut to its column, marked as cut. -/
def truncate (value : String) (limit : Nat) : String :=
  if value.length ≤ limit then value else String.ofList (value.toList.take (limit - 1)) ++ "…"

/-- `_required`. -/
def required (payload : Fields) (key : String) : StatusM Json :=
  match Json.lookup payload key with
  | some value => .ok value
  | none => .error (.invalid ("Node status is missing required key '" ++ key ++ "'."))

/-- A reader of a field that may be missing. -/
def optionalField {α : Type} (payload : Fields) (key : String) (read : Json → StatusM α) : StatusM (Option α) :=
  match Json.lookup payload key with
  | some value => (read value).map some
  | none => .ok none

/-- `float(n)` of an integer. -/
def floatOfInt (n : Int) : StatusM Double :=
  match Double.ofInt n with
  | some x => .ok x
  | none => .error .overflow

/-- `floatOfInt` over any conversion: what holds of it needs nothing of `Double.ofInt`,
which the kernel would otherwise compute with. -/
def convertedBy (convert : Int → Option Double) (n : Int) : StatusM Double :=
  match convert n with
  | some x => .ok x
  | none => .error .overflow

theorem floatOfInt_eq : floatOfInt = convertedBy Double.ofInt := by
  delta floatOfInt convertedBy
  exact Eq.refl _

theorem convertedBy_ok {convert : Int → Option Double} {n : Int} {x : Double} :
    convertedBy convert n = .ok x ↔ convert n = some x := by
  unfold convertedBy
  cases convert n <;> simp

theorem convertedBy_overflow {convert : Int → Option Double} {n : Int} :
    convertedBy convert n = .error .overflow ↔ convert n = none := by
  unfold convertedBy
  cases convert n <;> simp

/-- `_number`. -/
def number (key : String) : Json → StatusM Double
  | .int n => floatOfInt n
  | .float text => .ok ((Double.ofText text).getD .nan)
  | _ => .error (invalidField key "is not a number.")

/-- `_byte_count` and `_small_count`. -/
def count (max : Nat) (what key : String) : Json → StatusM Nat
  | .int n => if n < 0 || (max : Int) < n then .error (invalidField key what) else .ok n.toNat
  | _ => .error (invalidField key what)

def byteCount : String → Json → StatusM Nat := count (2 ^ 63 - 1) "is not a byte count."
def smallCount : String → Json → StatusM Nat := count 32767 "is not a small count."

/-- `_text`. -/
def text (key : String) : Json → StatusM String
  | .str s => .ok (Text.strip s)
  | _ => .error (invalidField key "is not a string.")

/-- `_mapping`, once the key is there. -/
def mappingOf (key : String) : Json → StatusM Fields
  | .obj fields => .ok fields
  | _ => .error (invalidField key "is not an object.")

/-- One entry of `loadavg`, which the provider sends as a text. -/
def loadEntry (entry : Json) : StatusM Double := do
  let x ← match entry with
    | .str s =>
      match Double.ofText s with
      | some x => .ok x
      | none => .error (invalidField "loadavg" "holds an unparsable entry.")
    | .int n => floatOfInt n
    | .float t => .ok ((Double.ofText t).getD .nan)
    | _ => .error (invalidField "loadavg" "holds an unparsable entry.")
  if x.isFinite then .ok x else .error (invalidField "loadavg" "holds a non-finite entry.")

/-- `_load_average`. -/
def loadAverage : Json → StatusM (Double × Double × Double)
  | .arr [a, b, c] => do .ok (← loadEntry a, ← loadEntry b, ← loadEntry c)
  | _ => .error (invalidField "loadavg" "is not a three-entry list.")

/-- `_secure_boot`. -/
def secureBoot (bootInfo : Option Fields) : StatusM (Option Bool) :=
  match bootInfo with
  | none => .ok none
  | some fields => optionalField fields "secureboot" fun
    | .bool b => .ok b
    | .int 0 => .ok false
    | .int 1 => .ok true
    | _ => .error (invalidField "boot-info.secureboot" "is not binary.")

/-- `_current_kernel`. -/
def currentKernel (payload : Fields) : StatusM String :=
  let refused := .error (invalidField "current-kernel" "is not a release string.")
  match Json.lookup payload "current-kernel" with
  | none => .ok ""
  | some (.str s) => .ok (truncate (Text.strip s) 255)
  | some (.obj fields) =>
    match Json.lookup fields "release", Json.lookup fields "version" with
    | some (.str release), _ => .ok (truncate (Text.strip release) 255)
    | _, some (.str version) => .ok (truncate (Text.strip version) 255)
    | _, _ => refused
  | some _ => refused

/-- `normalize_node_status`, its fields in the order they are read. -/
def normalizeNodeStatus (payload : Json) : StatusM NormalizedNodeRuntime := do
  let payload ← match payload with
    | .obj fields => Except.ok fields
    | _ => .error (.invalid "Node status payload must be an object.")
  let cpuinfo ← required payload "cpuinfo" >>= mappingOf "cpuinfo"
  let memory ← required payload "memory" >>= mappingOf "memory"
  let rootfs ← required payload "rootfs" >>= mappingOf "rootfs"
  let swap ← (optionalField payload "swap" (mappingOf "swap")).map fun fields => fields.getD []
  let bootInfo ← optionalField payload "boot-info" (mappingOf "boot-info")
  let (load1m, load5m, load15m) ← required payload "loadavg" >>= loadAverage
  .ok {
    cpuUsage := ← required payload "cpu" >>= number "cpu"
    cpuWait := ← optionalField payload "wait" (number "wait")
    cpuModel := truncate (← required cpuinfo "model" >>= text "cpuinfo.model") 255
    cpuSockets := ← optionalField cpuinfo "sockets" (smallCount "cpuinfo.sockets")
    cpuCores := ← optionalField cpuinfo "cores" (smallCount "cpuinfo.cores")
    memoryTotalBytes := ← required memory "total" >>= byteCount "memory.total"
    memoryUsedBytes := ← required memory "used" >>= byteCount "memory.used"
    swapTotalBytes := ← optionalField swap "total" (byteCount "swap.total")
    swapUsedBytes := ← optionalField swap "used" (byteCount "swap.used")
    rootfsTotalBytes := ← required rootfs "total" >>= byteCount "rootfs.total"
    rootfsUsedBytes := ← required rootfs "used" >>= byteCount "rootfs.used"
    loadAverage1m := load1m
    loadAverage5m := load5m
    loadAverage15m := load15m
    uptimeSeconds := ← required payload "uptime" >>= byteCount "uptime"
    pveVersion := truncate (← required payload "pveversion" >>= text "pveversion") 120
    kernelVersion := ((← optionalField payload "kversion" (text "kversion")).map (truncate · 255)).getD ""
    currentKernelRelease := ← currentKernel payload
    bootMode := ((← optionalField (bootInfo.getD []) "mode" (text "boot-info.mode")).map (truncate · 32)).getD ""
    secureBootEnabled := ← secureBoot bootInfo }

end PveHelper.Nodes
