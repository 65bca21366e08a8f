/-
What the imports of `core/services/vm_register.py` share: what they raise, the client
they write with, and the body of the request that creates a guest. A job keeps the
record of what it has done outside: the files it linked and asked to be removed, and
what it asked of the provider.
-/
import PveHelper.Lib.Calls
import PveHelper.Lib.Percent
import PveHelper.Operations.ClusterWrite

namespace PveHelper.Registration

open Lib Operations

/-- What the imports raise. -/
inductive ImportRaised
  /-- `VmRegisterError`. -/
  | register (message : String)
  /-- `ClusterCredentialError` or `TransportTrustError`, while a client is built. -/
  | client (refusal : Refusal)
  | provider (e : ProxmoxAPIError)
  /-- `StorageMountError`. -/
  | mount
  | confined
  | os
  /-- `KeyError`, `AttributeError`, `TypeError`. -/
  | key (name : String)
  | attribute
  | type

/-- What a job does outside. -/
inductive Effect
  /-- A file is hard-linked under this path. -/
  | linked (path : String)
  | removalAsked (path : String)
  | requested (method path : String) (body : List (String × Json)) (o : HttpOutcome)
  /-- A task status is read that says stopped. -/
  | stopped (upid : String)

abbrev Job := EStateM ImportRaised (List Effect)

def record (e : Effect) : Job Unit := fun log => .ok () (log ++ [e])

/-- Everything that is recorded is one of these. -/
def Records (P : Effect → Prop) (log log' : List Effect) : Prop := ∃ new, log' = log ++ new ∧ ∀ e ∈ new, P e

instance (P : Effect → Prop) : Std.Refl (Records P) := ⟨fun _ => ⟨[], by simp⟩⟩

instance (P : Effect → Prop) : IsTrans (List Effect) (Records P) := ⟨by
  rintro log₁ log₂ log₃ ⟨new, rfl, hnew⟩ ⟨new', rfl, hnew'⟩
  refine ⟨new ++ new', by rw [List.append_assoc], fun e he => ?_⟩
  exact (List.mem_append.mp he).elim (hnew e) (hnew' e)⟩

theorem record_records {P : Effect → Prop} {e : Effect} (h : P e) : Maintains (Records P) (record e) :=
  fun _ => ⟨[e], rfl, by simpa using h⟩

def liftImport {α : Type} (x : Except ImportRaised α) : Job α := fun log =>
  match x with
  | .ok a => .ok a log
  | .error e => .error e log

theorem liftImport_maintains {α : Type} {R : List Effect → List Effect → Prop} [Std.Refl R] (x : Except ImportRaised α) :
    Maintains R (liftImport x) := by
  intro log
  cases x <;> exact Std.Refl.refl log

/-! ## Calls on the tree -/

/-- How a call on the tree fails: with a `ConfinedFilesystemError` or an `OSError`. -/
inductive FsFailure
  | confined | os

def FsFailure.raised : FsFailure → ImportRaised
  | .confined => .confined
  | .os => .os

/-- A call that fails so, if it fails. -/
def call : Option FsFailure → Job Unit
  | none => pure ()
  | some failure => raise failure.raised

/-- `except (ConfinedFilesystemError, OSError) as exc: raise VmRegisterError(message) from exc`. -/
def raisingRegister {α : Type} (message : String) (m : Job α) : Job α :=
  except m fun
    | .confined => some (raise (.register message))
    | .os => some (raise (.register message))
    | _ => none

theorem call_maintains {R : List Effect → List Effect → Prop} [Std.Refl R] (failure : Option FsFailure) :
    Maintains R (call failure) := by
  cases failure with
  | none => exact Maintains.pure ()
  | some failure => exact Maintains.raise _

theorem raisingRegister_maintains {α : Type} {R : List Effect → List Effect → Prop} [Std.Refl R] [IsTrans (List Effect) R]
    {message : String} {m : Job α} (hm : Maintains R m) : Maintains R (raisingRegister message m) := by
  refine hm.except fun e handler hhandler => ?_
  cases e with
  | confined =>
    obtain rfl := Option.some.inj hhandler
    exact Maintains.raise _
  | os =>
    obtain rfl := Option.some.inj hhandler
    exact Maintains.raise _
  | _ => cases hhandler

/-! ## The client -/

/-- `pin_cluster_write_client`. -/
def pinClusterWriteClient (c : PassCluster) : Except WriteRefusal PassEndpoint :=
  match c.requireAcquirable with
  | .error refusal => .error (.acquisition refusal)
  | .ok _ => match c.enabledEndpoints with
    | [] => .error (.noEndpoint c.key)
    | endpoint :: _ => match c.client with
      | .error refusal => .error (.acquisition refusal)
      | .ok _ => .ok endpoint

/-- `_client`: a `ClusterResolutionError` is raised as `VmRegisterError`. -/
def importClient (c : PassCluster) : Except ImportRaised PassEndpoint :=
  match pinClusterWriteClient c with
  | .ok endpoint => .ok endpoint
  | .error (.acquisition (.credential key)) => .error (.client (.credential key))
  | .error (.acquisition (.trust key)) => .error (.client (.trust key))
  | .error _ => .error (.register "The cluster has no usable Proxmox endpoint for this write.")

/-! ## Parameters -/

abbrev Params := List (String × Json)

/-- `params[key]`. -/
def required (params : Params) (key : String) : Except ImportRaised Json :=
  match Json.lookup params key with
  | some value => .ok value
  | none => .error (.key key)

/-- `params.get(key, default)`. -/
def paramOr (params : Params) (key : String) (default : Json) : Json := (Json.lookup params key).getD default

/-- `params.setdefault(key, default)`. -/
def setDefault (params : Params) (key : String) (default : Json) : Params :=
  if (Json.lookup params key).isSome then params else params ++ [(key, default)]

def isText (value : Json) (text : String) : Bool :=
  match value with
  | .str s => s = text
  | _ => false

/-- The keys of `DISK_BUSES`. -/
def diskBuses : List String := ["sata", "scsi", "virtio", "ide"]

/-- `_bus_key`; a value that cannot be hashed is no member of a set. -/
def busKey : Json → Except ImportRaised String
  | .str bus => if diskBuses.contains bus then .ok (bus ++ "0") else .error (.register ("Unsupported disk bus: " ++ bus))
  | .arr _ | .obj _ => .error .type
  | bus => .error (.register ("Unsupported disk bus: " ++ bus.shown))

/-- `_disk_key`. -/
def diskKey (bus : String) (index : Nat) : Except ImportRaised String :=
  if !diskBuses.contains bus then .error (.register ("Unsupported disk bus: " ++ bus))
  else if bus = "ide" && 1 < index then
    .error (.register "IDE supports at most two imported disks; use SATA or SCSI for this package.")
  else .ok (bus ++ toString index)

/-! ## The body -/

/-- One entry of `nics`. -/
def nicField (index : Nat) : Json → Except ImportRaised (List (String × Json))
  | .obj nic =>
    let model := paramOr nic "model" .null
    let bridge := paramOr nic "bridge" .null
    let vlan := paramOr nic "vlan" .null
    if !bridge.truthy then .ok []
    else
      let spec := (if model.truthy then model.shown else "e1000") ++ ",bridge=" ++ bridge.shown
      .ok [("net" ++ toString index, .str (if vlan.truthy then spec ++ ",tag=" ++ vlan.shown else spec))]
  | _ => .error .attribute

def nicEntries : Nat → List Json → Except ImportRaised (List (String × Json))
  | _, [] => .ok []
  | index, nic :: nics => do
    let field ← nicField index nic
    pure (field ++ (← nicEntries (index + 1) nics))

/-- The loop over `params.get("nics") or []`; what a text or an object yields has no `get`. -/
def nicFields (nics : Json) : Except ImportRaised (List (String × Json)) :=
  if !nics.truthy then .ok []
  else match nics with
    | .arr xs => nicEntries 0 xs
    | .str _ | .obj _ => .error .attribute
    | _ => .error .type

def efidisk (params : Params) : List (String × Json) :=
  if isText (paramOr params "bios" .null) "ovmf" then
    let source := paramOr params "efidisk_source" .null
    let efidiskStorage := paramOr params "efidisk_storage" .null
    let storage := if efidiskStorage.truthy then efidiskStorage else paramOr params "target_storage" .null
    if source.truthy then
      [("efidisk0", .str (storage.shown ++ ":0,import-from=" ++ source.shown ++ ",efitype=4m,pre-enrolled-keys=1"))]
    else [("efidisk0", .str (storage.shown ++ ":1,efitype=4m,pre-enrolled-keys=1"))]
  else []

/-- `_base_body`. -/
def baseBody (params : Params) : Except ImportRaised (List (String × Json)) := do
  let vmid ← required params "vmid"
  let name ← required params "name"
  let shape := [("vmid", vmid), ("name", name), ("cores", paramOr params "cores" (.int 2)),
    ("sockets", paramOr params "sockets" (.int 1)), ("memory", paramOr params "memory" (.int 2048)),
    ("ostype", paramOr params "ostype" (.str "l26")), ("bios", paramOr params "bios" (.str "seabios"))]
  let machine := if isText (paramOr params "machine" .null) "q35" then [("machine", Json.str "q35")] else []
  let scsihw := paramOr params "scsihw" .null
  let nics ← nicFields (paramOr params "nics" .null)
  pure (shape ++ machine ++ efidisk params ++ (if scsihw.truthy then [("scsihw", scsihw)] else []) ++ nics ++
    [("ide2", .str "none,media=cdrom")])

/-- `f"{target_storage}:0,import-from={volid},format={…}"`. -/
def importFrom (params : Params) (volid : String) : Except ImportRaised Json := do
  let storage ← required params "target_storage"
  pure (.str (storage.shown ++ ":0,import-from=" ++ volid ++ ",format=" ++ (paramOr params "format" (.str "qcow2")).shown))

/-- `f"nodes/{quote(node, safe='')}/qemu"`. -/
def guestsPath (node : String) : String := "nodes/" ++ Percent.quote node ++ "/qemu"

/-- A request to the provider, in the words of `Operations.request`. -/
def send (trustMode method path : String) (body : List (String × Json)) (o : HttpOutcome) : Job Json := do
  record (.requested method path body o)
  match request trustMode path o with
  | .ok data => pure data
  | .error e => raise (.provider e)

end PveHelper.Registration
