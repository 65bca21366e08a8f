/-
The durable references of `core/services/refs.py`: six classes in one
colon-separated syntax, each under a version of its own. A reference that a
constructor checks carries what was checked, so one that cannot be constructed is
no value here. `serialize` either quotes a field or relies on those checks to keep
separators out of it.
-/
import PveHelper.Lib.Fields
import PveHelper.Lib.Percent
import PveHelper.Guests.Inventory
import PveHelper.Operations.HostRefresh

namespace PveHelper.Refs

open Lib Lib.Percent Guests
open PveHelper.Operations (validClusterKey)

/-! ## The classes -/

/-- What a `RefParseError` says, with the value its text shows. -/
inductive RefParseError
  | invalidClusterStorage
  | invalidStorageInstance
  | invalidVolume
  | invalidMountKey
  | invalidMount
  | nodeClusterKey (key : String)
  | nodeName (node : String)
  | emptyNode
  | malformedNode (raw : String)
  | nodeVersion (version raw : String)
  | guestClusterKey (key : String)
  | guestType (objectType : String)
  | guestVmid (vmid : Int)
  | guestNode (node : String)
  | emptyGuest
  | malformedGuest (raw : String)
  | guestVersion (version raw : String)
  | guestVmidText (text : String)

structure ClusterStorageRef where
  clusterKey : String
  storageId : String
  checked : clusterKey ≠ "" ∧ storageId ≠ "" ∧ ':' ∉ clusterKey.toList

/-- `ClusterStorageRef(..)`. -/
def ClusterStorageRef.make (clusterKey storageId : String) : Except RefParseError ClusterStorageRef :=
  if h : clusterKey ≠ "" ∧ storageId ≠ "" ∧ ':' ∉ clusterKey.toList then .ok ⟨clusterKey, storageId, h⟩
  else .error .invalidClusterStorage

structure StorageInstanceRef where
  clusterKey : String
  storageId : String
  node : String := ""

structure VolumeRef where
  instanceRef : StorageInstanceRef
  volid : String

/-- `s.replace(part, "")`. -/
def withoutFrom (part : List Char) : Nat → List Char → List Char
  | _, [] => []
  | skip + 1, _ :: cs => withoutFrom part skip cs
  | 0, c :: cs => if part.isPrefixOf (c :: cs) then withoutFrom part (part.length - 1) cs else c :: withoutFrom part 0 cs

/-- Hexadecimal digits with single underscores between them. -/
def parseHexDigits : List Char → Nat → Bool → Option Nat
  | [], n, digit => if digit then some n else none
  | c :: cs, n, digit =>
    if c = '_' then if digit then parseHexDigits cs n false else none
    else match (Text.digitValue c).or (hexValue c) with
      | some v => parseHexDigits cs (16 * n + v) true
      | none => none

/-- The digits of `int(s, 16)`, after an optional `0x`. -/
def parseHex : List Char → Option Nat
  | '0' :: x :: cs =>
    if x = 'x' || x = 'X' then parseHexDigits (if cs.head? = some '_' then cs.drop 1 else cs) 0 false
    else parseHexDigits ('0' :: x :: cs) 0 false
  | cs => parseHexDigits cs 0 false

/-- `int(s, 16)`, where it does not raise. -/
def toIntHex (s : String) : Option Int :=
  match (Text.stripNumber s).toList with
  | '-' :: cs => (parseHex cs).map fun n => -(n : Int)
  | '+' :: cs => (parseHex cs).map Int.ofNat
  | cs => (parseHex cs).map Int.ofNat

/-- `uuid.UUID(s)` does not raise. -/
def isUuid (s : String) : Bool :=
  let hex := withoutFrom "uuid:".toList 0 (withoutFrom "urn:".toList 0 s.toList)
  let braces := fun c : Char => c = '\x7b' || c = '\x7d'
  let hex := (((hex.dropWhile braces).reverse.dropWhile braces).reverse).filter (· ≠ '-')
  hex.length = 32 && match toIntHex (String.ofList hex) with
    | some n => 0 ≤ n && n < 340282366920938463463374607431768211456
    | none => false

structure MountRef where
  mountKey : String
  checked : isUuid mountKey = true

/-- `MountRef(..)`. -/
def MountRef.make (mountKey : String) : Except RefParseError MountRef :=
  if h : isUuid mountKey = true then .ok ⟨mountKey, h⟩ else .error .invalidMountKey

structure NodeRef where
  clusterKey : String
  node : String
  checked : validClusterKey clusterKey = true ∧ node ≠ "" ∧ ':' ∉ node.toList

/-- `NodeRef(..)`. -/
def NodeRef.make (clusterKey node : String) : Except RefParseError NodeRef :=
  if hkey : validClusterKey clusterKey = true then
    if hnode : node ≠ "" ∧ ':' ∉ node.toList then .ok ⟨clusterKey, node, hkey, hnode⟩ else .error (.nodeName node)
  else .error (.nodeClusterKey clusterKey)

/-- The object types a `GuestRef` accepts. -/
def guestTypeOf (text : String) : Option ObjectType :=
  if text = "vm" then some .vm else if text = "ct" then some .ct else none

def guestTypeText : ObjectType → String
  | .vm => "vm"
  | .ct => "ct"

structure GuestRef where
  clusterKey : String
  objectType : ObjectType
  vmid : Nat
  node : String := ""
  checked : validClusterKey clusterKey = true ∧ 0 < vmid ∧ (':' ∉ node.toList ∧ '@' ∉ node.toList)

/-- `GuestRef(..)`. -/
def GuestRef.make (clusterKey objectType : String) (vmid : Int) (node : String) : Except RefParseError GuestRef :=
  if hkey : validClusterKey clusterKey = true then
    match guestTypeOf objectType with
    | none => .error (.guestType objectType)
    | some objectType =>
      if hvmid : 0 < vmid.toNat then
        if hnode : ':' ∉ node.toList ∧ '@' ∉ node.toList then
          .ok ⟨clusterKey, objectType, vmid.toNat, node, hkey, hvmid, hnode⟩
        else .error (.guestNode node)
      else .error (.guestVmid vmid)
  else .error (.guestClusterKey clusterKey)

/-! ## Writing -/

def ClusterStorageRef.serialize (r : ClusterStorageRef) : String :=
  Text.join ':' ["sr1", quote r.clusterKey, quote r.storageId]

def StorageInstanceRef.serialize (r : StorageInstanceRef) : String :=
  Text.join ':' ["si1", quote r.clusterKey, quote r.storageId, quote r.node]

def VolumeRef.serialize (r : VolumeRef) : String :=
  Text.join ':' ["vr1", quote r.instanceRef.serialize, quote r.volid]

def MountRef.serialize (r : MountRef) : String := Text.join ':' ["mr1", r.mountKey]

def NodeRef.serialize (r : NodeRef) : String := Text.join ':' ["nr1", r.clusterKey, r.node]

def GuestRef.serialize (r : GuestRef) (includeNode : Bool := true) : String :=
  let stable := Text.join ':' ["gr1", r.clusterKey, guestTypeText r.objectType, toString r.vmid]
  if includeNode && r.node != "" then Text.join '@' [stable, r.node] else stable

/-! ## Reading -/

def ClusterStorageRef.parse (raw : String) : Except RefParseError ClusterStorageRef :=
  match Text.split ':' raw with
  | [version, key, storage] =>
    if version = "sr1" then ClusterStorageRef.make (unquote key) (unquote storage) else .error .invalidClusterStorage
  | _ => .error .invalidClusterStorage

def StorageInstanceRef.parse (raw : String) : Except RefParseError StorageInstanceRef :=
  match Text.split ':' raw with
  | [version, key, storage, node] =>
    if version = "si1" && unquote key != "" && unquote storage != "" then .ok ⟨unquote key, unquote storage, unquote node⟩
    else .error .invalidStorageInstance
  | _ => .error .invalidStorageInstance

def VolumeRef.parse (raw : String) : Except RefParseError VolumeRef :=
  match Text.split ':' raw with
  | [version, inner, volid] =>
    if version = "vr1" then
      match StorageInstanceRef.parse (unquote inner) with
      | .ok instanceRef => .ok ⟨instanceRef, unquote volid⟩
      | .error e => .error e
    else .error .invalidVolume
  | _ => .error .invalidVolume

def MountRef.parse (raw : String) : Except RefParseError MountRef :=
  match Text.split ':' raw with
  | [version, key] => if version = "mr1" && key != "" then MountRef.make key else .error .invalidMount
  | _ => .error .invalidMount

def NodeRef.parse (raw : String) : Except RefParseError NodeRef :=
  if raw = "" then .error .emptyNode
  else match Text.splitMax ':' 2 raw with
    | [version, key, node] => if version = "nr1" then NodeRef.make key node else .error (.nodeVersion version raw)
    | _ => .error (.malformedNode raw)

def GuestRef.parse (raw : String) : Except RefParseError GuestRef :=
  if raw = "" then .error .emptyGuest
  else
    let (stable, node) := Text.partition '@' raw
    if node = some "" then .error (.malformedGuest raw)
    else match Text.splitMax ':' 3 stable with
      | [version, key, objectType, vmidText] =>
        if version = "gr1" then
          match Text.toInt vmidText with
          | some vmid => GuestRef.make key objectType vmid (node.getD "")
          | none => .error (.guestVmidText vmidText)
        else .error (.guestVersion version raw)
      | _ => .error (.malformedGuest raw)

/-! ## Round trips -/

theorem ClusterStorageRef.make_self (r : ClusterStorageRef) : ClusterStorageRef.make r.clusterKey r.storageId = .ok r := by
  rw [ClusterStorageRef.make, dif_pos r.checked]

theorem MountRef.make_self (r : MountRef) : MountRef.make r.mountKey = .ok r := by
  rw [MountRef.make, dif_pos r.checked]

theorem NodeRef.make_self (r : NodeRef) : NodeRef.make r.clusterKey r.node = .ok r := by
  rw [NodeRef.make, dif_pos r.checked.1, dif_pos r.checked.2]

theorem guestTypeOf_text (t : ObjectType) : guestTypeOf (guestTypeText t) = some t := by
  cases t <;> decide

theorem GuestRef.make_self (r : GuestRef) :
    GuestRef.make r.clusterKey (guestTypeText r.objectType) (r.vmid : Int) r.node = .ok r := by
  simp only [GuestRef.make, dif_pos r.checked.1, guestTypeOf_text, Int.toNat_natCast, dif_pos r.checked.2.1,
    dif_pos r.checked.2.2]

theorem colon_not_mem_quote (s : String) : ':' ∉ (quote s).toList := fun h => (quote_chars h).2 rfl

theorem ClusterStorageRef.parse_serialize (r : ClusterStorageRef) : ClusterStorageRef.parse r.serialize = .ok r := by
  have hsplit : Text.split ':' r.serialize = ["sr1", quote r.clusterKey, quote r.storageId] := by
    refine Text.split_join (by simp) ?_
    simp only [List.mem_cons, List.not_mem_nil, or_false, forall_eq_or_imp, forall_eq]
    exact ⟨by decide, colon_not_mem_quote _, colon_not_mem_quote _⟩
  simp only [ClusterStorageRef.parse, hsplit, if_true, unquote_quote, r.make_self]

/-- The fields the parser of an instance asks for are there. -/
def StorageInstanceRef.Named (r : StorageInstanceRef) : Prop := r.clusterKey ≠ "" ∧ r.storageId ≠ ""

theorem StorageInstanceRef.parse_serialize {r : StorageInstanceRef} (h : r.Named) :
    StorageInstanceRef.parse r.serialize = .ok r := by
  have hsplit : Text.split ':' r.serialize = ["si1", quote r.clusterKey, quote r.storageId, quote r.node] := by
    refine Text.split_join (by simp) ?_
    simp only [List.mem_cons, List.not_mem_nil, or_false, forall_eq_or_imp, forall_eq]
    exact ⟨by decide, colon_not_mem_quote _, colon_not_mem_quote _, colon_not_mem_quote _⟩
  simp [StorageInstanceRef.parse, hsplit, unquote_quote, h.1, h.2]

theorem VolumeRef.parse_serialize {r : VolumeRef} (h : r.instanceRef.Named) : VolumeRef.parse r.serialize = .ok r := by
  have hsplit : Text.split ':' r.serialize = ["vr1", quote r.instanceRef.serialize, quote r.volid] := by
    refine Text.split_join (by simp) ?_
    simp only [List.mem_cons, List.not_mem_nil, or_false, forall_eq_or_imp, forall_eq]
    exact ⟨by decide, colon_not_mem_quote _, colon_not_mem_quote _⟩
  simp only [VolumeRef.parse, hsplit, if_true, unquote_quote, StorageInstanceRef.parse_serialize h]

theorem MountRef.key_ne_empty (r : MountRef) : r.mountKey ≠ "" := by
  intro h
  have hchecked := r.checked
  rw [h] at hchecked
  revert hchecked
  decide

theorem MountRef.parse_serialize {r : MountRef} (h : ':' ∉ r.mountKey.toList) : MountRef.parse r.serialize = .ok r := by
  have hsplit : Text.split ':' r.serialize = ["mr1", r.mountKey] := by
    refine Text.split_join (by simp) ?_
    simp only [List.mem_cons, List.not_mem_nil, or_false, forall_eq_or_imp, forall_eq]
    exact ⟨by decide, h⟩
  simp [MountRef.parse, hsplit, r.key_ne_empty, r.make_self]

/-- The pattern's characters are no separators. -/
theorem key_char_ne {c : Char} (h : (('a' ≤ c && c ≤ 'z') || ('0' ≤ c && c ≤ '9')) = true ∨ c = '-') :
    c ≠ ':' ∧ c ≠ '@' := by
  constructor
  · rintro rfl
    revert h
    decide
  · rintro rfl
    revert h
    decide

/-- A cluster key is made of lower-case letters, digits and dashes, and a last line break. -/
theorem validClusterKey_chars {key : String} (h : validClusterKey key = true) {c : Char} (hc : c ∈ key.toList) :
    c ≠ ':' ∧ c ≠ '@' := by
  have hbody : c ∈ (if key.toList.getLast? = some '\n' then key.toList.dropLast else key.toList) ∨ c = '\n' := by
    split
    · rename_i hlast
      rw [← List.dropLast_append_getLast? '\n' hlast, List.mem_append, List.mem_singleton] at hc
      exact hc
    · exact .inl hc
  rcases hbody with hbody | rfl
  · unfold validClusterKey at h
    simp only at h
    split at h
    · cases h
    · rename_i first rest hchars
      rw [hchars] at hbody
      simp only [Bool.and_eq_true, List.all_eq_true] at h
      rcases List.mem_cons.mp hbody with rfl | hrest
      · exact key_char_ne (.inl h.1.1)
      · have hall := h.2 c hrest
        rw [Bool.or_eq_true, decide_eq_true_eq] at hall
        exact key_char_ne hall
  · decide

theorem NodeRef.parse_serialize (r : NodeRef) : NodeRef.parse r.serialize = .ok r := by
  have hsplit : Text.splitMax ':' 2 r.serialize = ["nr1", r.clusterKey, r.node] := by
    refine Text.splitMax_join rfl ?_
    simp only [List.mem_cons, List.not_mem_nil, or_false, forall_eq_or_imp, forall_eq]
    exact ⟨by decide, fun hc => (validClusterKey_chars r.checked.1 hc).1 rfl, r.checked.2.2⟩
  have hne : r.serialize ≠ "" := Text.join_ne_empty _ _ _
  simp only [NodeRef.parse, if_neg hne, hsplit, if_true, r.make_self]

/-! ### Guests -/

/-- The part of a guest's reference before its node. -/
def GuestRef.stableText (r : GuestRef) : String :=
  Text.join ':' ["gr1", r.clusterKey, guestTypeText r.objectType, toString r.vmid]

theorem digit_ne {n : Nat} {c : Char} (hc : c ∈ (toString n).toList) : c ≠ ':' ∧ c ≠ '@' := by
  have hdigit : c.isDigit = true := by
    rw [Nat.toString_eq_ofList_toDigits, String.toList_ofList] at hc
    exact Nat.isDigit_of_mem_toDigits (by decide) (by decide) hc
  constructor
  · rintro rfl
    revert hdigit
    decide
  · rintro rfl
    revert hdigit
    decide

theorem guestTypeText_chars (t : ObjectType) : ∀ c ∈ (guestTypeText t).toList, c ≠ ':' ∧ c ≠ '@' := by
  have hall : (guestTypeText t).toList.all (fun c => decide (c ≠ ':' ∧ c ≠ '@')) = true := by
    cases t <;> decide
  exact List.all_iff_forall_prop.mp hall

/-- The fields of the stable part hold no separator. -/
theorem GuestRef.fields_chars (r : GuestRef) :
    ∀ f ∈ ["gr1", r.clusterKey, guestTypeText r.objectType, toString r.vmid], ∀ c ∈ f.toList, c ≠ ':' ∧ c ≠ '@' := by
  simp only [List.mem_cons, List.not_mem_nil, or_false, forall_eq_or_imp, forall_eq]
  have htag : ("gr1").toList.all (fun c => decide (c ≠ ':' ∧ c ≠ '@')) = true := by decide
  exact ⟨List.all_iff_forall_prop.mp htag, fun c hc => validClusterKey_chars r.checked.1 hc, guestTypeText_chars _,
    fun c hc => digit_ne hc⟩

theorem GuestRef.split_stableText (r : GuestRef) :
    Text.splitMax ':' 3 r.stableText = ["gr1", r.clusterKey, guestTypeText r.objectType, toString r.vmid] :=
  Text.splitMax_join rfl fun f hf hc => (r.fields_chars f hf ':' hc).1 rfl

theorem GuestRef.at_not_mem_stableText (r : GuestRef) : '@' ∉ r.stableText.toList := by
  intro hc
  rcases Text.mem_join hc with hat | ⟨f, hf, hcf⟩
  · revert hat
    decide
  · exact (r.fields_chars f hf '@' hcf).2 rfl

theorem GuestRef.serialize_stable {r : GuestRef} (h : r.node = "") : r.serialize = r.stableText := by
  simp [GuestRef.serialize, GuestRef.stableText, h]

theorem GuestRef.serialize_at {r : GuestRef} (h : r.node ≠ "") : r.serialize = Text.join '@' [r.stableText, r.node] := by
  simp [GuestRef.serialize, GuestRef.stableText, h]

theorem GuestRef.parse_serialize (r : GuestRef) : GuestRef.parse r.serialize = .ok r := by
  by_cases hnode : r.node = ""
  · have hne : r.stableText ≠ "" := Text.join_ne_empty _ _ _
    have hmake := r.make_self
    rw [hnode] at hmake
    simp only [GuestRef.parse, GuestRef.serialize_stable hnode, if_neg hne,
      Text.partition_of_not_mem r.at_not_mem_stableText, r.split_stableText, if_true, Text.toInt_toString,
      Option.getD_none, hmake, reduceCtorEq, if_false]
  · have hne : Text.join '@' [r.stableText, r.node] ≠ "" := Text.join_ne_empty _ _ _
    have hpart : Text.partition '@' (Text.join '@' [r.stableText, r.node]) = (r.stableText, some r.node) := by
      rw [Text.partition_of_first (Text.toList_join_pair ..) r.at_not_mem_stableText, String.ofList_toList]
    simp only [GuestRef.parse, GuestRef.serialize_at hnode, if_neg hne, hpart, Option.some.injEq, hnode, if_false,
      r.split_stableText, if_true, Text.toInt_toString, Option.getD_some, r.make_self]

/-! ## References of every kind -/

inductive RefKind
  | clusterStorage
  | storageInstance
  | volume
  | mount
  | node
  | guest
  deriving DecidableEq

def RefKind.version : RefKind → String
  | .clusterStorage => "sr1"
  | .storageInstance => "si1"
  | .volume => "vr1"
  | .mount => "mr1"
  | .node => "nr1"
  | .guest => "gr1"

inductive Ref
  | clusterStorage (r : ClusterStorageRef)
  | storageInstance (r : StorageInstanceRef)
  | volume (r : VolumeRef)
  | mount (r : MountRef)
  | node (r : NodeRef)
  | guest (r : GuestRef)

def Ref.kind : Ref → RefKind
  | .clusterStorage _ => .clusterStorage
  | .storageInstance _ => .storageInstance
  | .volume _ => .volume
  | .mount _ => .mount
  | .node _ => .node
  | .guest _ => .guest

def Ref.serialize : Ref → String
  | .clusterStorage r => r.serialize
  | .storageInstance r => r.serialize
  | .volume r => r.serialize
  | .mount r => r.serialize
  | .node r => r.serialize
  | .guest r => r.serialize

/-- The `parse` of a class. -/
def RefKind.parse (k : RefKind) (raw : String) : Except RefParseError Ref :=
  match k with
  | .clusterStorage => (ClusterStorageRef.parse raw).map .clusterStorage
  | .storageInstance => (StorageInstanceRef.parse raw).map .storageInstance
  | .volume => (VolumeRef.parse raw).map .volume
  | .mount => (MountRef.parse raw).map .mount
  | .node => (NodeRef.parse raw).map .node
  | .guest => (GuestRef.parse raw).map .guest

/-- What the classes without a check of their own need: an instance is named, and a mount's key has no
colon (`uuid.UUID` accepts the `urn:uuid:` form). -/
def Ref.Durable : Ref → Prop
  | .storageInstance r => r.Named
  | .volume r => r.instanceRef.Named
  | .mount r => ':' ∉ r.mountKey.toList
  | _ => True

theorem Ref.parse_serialize {r : Ref} (h : r.Durable) : r.kind.parse r.serialize = .ok r := by
  cases r with
  | clusterStorage r => simp only [Ref.kind, Ref.serialize, RefKind.parse, r.parse_serialize, Except.map]
  | storageInstance r => simp only [Ref.kind, Ref.serialize, RefKind.parse, StorageInstanceRef.parse_serialize h, Except.map]
  | volume r => simp only [Ref.kind, Ref.serialize, RefKind.parse, VolumeRef.parse_serialize h, Except.map]
  | mount r => simp only [Ref.kind, Ref.serialize, RefKind.parse, MountRef.parse_serialize h, Except.map]
  | node r => simp only [Ref.kind, Ref.serialize, RefKind.parse, r.parse_serialize, Except.map]
  | guest r => simp only [Ref.kind, Ref.serialize, RefKind.parse, r.parse_serialize, Except.map]

/-! ### Other classes reject it -/

/-- Every text begins with its version and a colon. -/
theorem Ref.serialize_version (r : Ref) : ∃ rest, r.serialize.toList = r.kind.version.toList ++ ':' :: rest := by
  cases r with
  | clusterStorage r => exact ⟨_, Text.toList_join_cons "sr1" _ _⟩
  | storageInstance r => exact ⟨_, Text.toList_join_cons "si1" _ _⟩
  | volume r => exact ⟨_, Text.toList_join_cons "vr1" _ _⟩
  | mount r => exact ⟨_, Text.toList_join_cons "mr1" _ _⟩
  | node r => exact ⟨_, Text.toList_join_cons "nr1" _ _⟩
  | guest r =>
    have hstable : r.stableText.toList = "gr1".toList ++ ':' :: _ := Text.toList_join_cons "gr1" _ _
    by_cases hnode : r.node = ""
    · exact ⟨_, by rw [Ref.serialize, GuestRef.serialize_stable hnode]; exact hstable⟩
    · exact ⟨_, by rw [Ref.serialize, GuestRef.serialize_at hnode, Text.toList_join_cons, hstable, List.append_assoc]; rfl⟩

theorem version_chars (k : RefKind) : ':' ∉ k.version.toList ∧ '@' ∉ k.version.toList := by
  cases k <;> decide

theorem version_ne {k k' : RefKind} (h : k ≠ k') : k.version ≠ k'.version := by
  cases k <;> cases k' <;> first | exact absurd rfl h | decide

section
variable {raw version : String} {fields : List String}

theorem ClusterStorageRef.parse_rejects (hsplit : Text.split ':' raw = version :: fields) (hne : version ≠ "sr1") :
    ClusterStorageRef.parse raw = .error .invalidClusterStorage := by
  unfold ClusterStorageRef.parse
  split
  · rename_i heq
    rw [hsplit] at heq
    cases heq
    exact if_neg hne
  · rfl

theorem StorageInstanceRef.parse_rejects (hsplit : Text.split ':' raw = version :: fields) (hne : version ≠ "si1") :
    StorageInstanceRef.parse raw = .error .invalidStorageInstance := by
  unfold StorageInstanceRef.parse
  split
  · rename_i heq
    rw [hsplit] at heq
    cases heq
    simp [hne]
  · rfl

theorem VolumeRef.parse_rejects (hsplit : Text.split ':' raw = version :: fields) (hne : version ≠ "vr1") :
    VolumeRef.parse raw = .error .invalidVolume := by
  unfold VolumeRef.parse
  split
  · rename_i heq
    rw [hsplit] at heq
    cases heq
    exact if_neg hne
  · rfl

theorem MountRef.parse_rejects (hsplit : Text.split ':' raw = version :: fields) (hne : version ≠ "mr1") :
    MountRef.parse raw = .error .invalidMount := by
  unfold MountRef.parse
  split
  · rename_i heq
    rw [hsplit] at heq
    cases heq
    simp [hne]
  · rfl

theorem NodeRef.parse_rejects (hsplit : Text.splitMax ':' 2 raw = version :: fields) (hne : version ≠ "nr1") :
    ∃ e, NodeRef.parse raw = .error e := by
  unfold NodeRef.parse
  split
  · exact ⟨_, rfl⟩
  · split
    · rename_i heq
      rw [hsplit] at heq
      cases heq
      exact ⟨_, if_neg hne⟩
    · exact ⟨_, rfl⟩

theorem GuestRef.parse_rejects (hsplit : Text.splitMax ':' 3 (Text.partition '@' raw).1 = version :: fields)
    (hne : version ≠ "gr1") : ∃ e, GuestRef.parse raw = .error e := by
  unfold GuestRef.parse
  split
  · exact ⟨_, rfl⟩
  · simp only
    split
    · exact ⟨_, rfl⟩
    · split
      · rename_i heq
        rw [hsplit] at heq
        cases heq
        exact ⟨_, if_neg hne⟩
      · exact ⟨_, rfl⟩

end

/-- Cut at an `@`, a text still begins with its version. -/
theorem partition_version {raw version : String} {rest : List Char} (hraw : raw.toList = version.toList ++ ':' :: rest)
    (hat : '@' ∉ version.toList) : ∃ rest', (Text.partition '@' raw).1.toList = version.toList ++ ':' :: rest' := by
  by_cases hmem : '@' ∈ rest
  · obtain ⟨before, after, rfl, hbefore⟩ := List.eq_append_cons_of_mem hmem
    have hfirst : raw.toList = (String.ofList (version.toList ++ ':' :: before)).toList ++ '@' :: after := by
      rw [hraw, String.toList_ofList]
      simp
    have hnot : '@' ∉ (String.ofList (version.toList ++ ':' :: before)).toList := by
      rw [String.toList_ofList, List.mem_append, List.mem_cons, not_or, not_or]
      exact ⟨hat, by decide, hbefore⟩
    exact ⟨before, by rw [Text.partition_of_first hfirst hnot, String.toList_ofList]⟩
  · have hnot : '@' ∉ raw.toList := by
      rw [hraw, List.mem_append, List.mem_cons, not_or, not_or]
      exact ⟨hat, by decide, hmem⟩
    exact ⟨rest, by rw [Text.partition_of_not_mem hnot]; exact hraw⟩

/-- A class rejects a text that begins with another version. -/
theorem RefKind.parse_rejects {k k' : RefKind} (hk : k ≠ k') {raw : String} {rest : List Char}
    (hraw : raw.toList = k.version.toList ++ ':' :: rest) : ∃ e, k'.parse raw = .error e := by
  obtain ⟨hcolon, hat⟩ := version_chars k
  have hne := version_ne hk
  obtain ⟨fields, hsplit⟩ := Text.split_of_first hraw hcolon
  cases k' with
  | clusterStorage => exact ⟨_, by rw [RefKind.parse, ClusterStorageRef.parse_rejects hsplit hne]; rfl⟩
  | storageInstance => exact ⟨_, by rw [RefKind.parse, StorageInstanceRef.parse_rejects hsplit hne]; rfl⟩
  | volume => exact ⟨_, by rw [RefKind.parse, VolumeRef.parse_rejects hsplit hne]; rfl⟩
  | mount => exact ⟨_, by rw [RefKind.parse, MountRef.parse_rejects hsplit hne]; rfl⟩
  | node =>
    obtain ⟨fields', hsplit'⟩ := Text.splitMax_of_first 1 hraw hcolon
    obtain ⟨e, he⟩ := NodeRef.parse_rejects hsplit' hne
    exact ⟨e, by rw [RefKind.parse, he]; rfl⟩
  | guest =>
    obtain ⟨rest', hstable⟩ := partition_version hraw hat
    obtain ⟨fields', hsplit'⟩ := Text.splitMax_of_first 2 hstable hcolon
    obtain ⟨e, he⟩ := GuestRef.parse_rejects hsplit' hne
    exact ⟨e, by rw [RefKind.parse, he]; rfl⟩

/-- Durable references round-trip in their own class, are rejected by every other, and never collide. -/
theorem refs_round_trip :
    (∀ r : Ref, r.Durable → r.kind.parse r.serialize = .ok r ∧ ∀ k, k ≠ r.kind → ∃ e, k.parse r.serialize = .error e) ∧
      ∀ r r' : Ref, r.Durable → r'.Durable → r ≠ r' → r.serialize ≠ r'.serialize := by
  have hround : ∀ r : Ref, r.Durable →
      r.kind.parse r.serialize = .ok r ∧ ∀ k, k ≠ r.kind → ∃ e, k.parse r.serialize = .error e := by
    intro r hr
    refine ⟨Ref.parse_serialize hr, fun k hk => ?_⟩
    obtain ⟨rest, hrest⟩ := r.serialize_version
    exact RefKind.parse_rejects (Ne.symm hk) hrest
  refine ⟨hround, fun r r' hr hr' hne htext => ?_⟩
  by_cases hk : r.kind = r'.kind
  · have hown := (hround r hr).1
    rw [htext, hk, (hround r' hr').1] at hown
    exact hne (Except.ok.inj hown).symm
  · obtain ⟨e, he⟩ := (hround r hr).2 r'.kind (Ne.symm hk)
    rw [htext, (hround r' hr').1] at he
    cases he

/-- A volume on a node-local storage, and the storage it is on. -/
def localVolume : VolumeRef := ⟨⟨"lab", "local:é", "pve1"⟩, "local:iso/debian 13.iso"⟩

theorem localVolume_round_trip :
    RefKind.volume.parse (Ref.volume localVolume).serialize = .ok (.volume localVolume) ∧
      (Ref.volume localVolume).serialize ≠ (Ref.storageInstance localVolume.instanceRef).serialize := by
  have hnamed : localVolume.instanceRef.Named := ⟨by decide, by decide⟩
  exact ⟨(refs_round_trip.1 (.volume localVolume) hnamed).1, refs_round_trip.2 _ _ hnamed hnamed (by simp)⟩

end PveHelper.Refs
