/-
The release of a cluster's storage consumers, after `core/services/storage_consumers.py`. The
confirmation an operator is shown signs a digest of the relationships on the page; the release
holds it against the rows under its locks, which keep scans and retirement out, so that a release
is one step here. Between the two the database may do anything that gives no primary key twice.
The signature and the hash are parameters.
-/
import Mathlib.Logic.Relation
import PveHelper.Clusters.Footprint
import PveHelper.Lib.PrefixCode
import PveHelper.Operations.Refs
import PveHelper.Retirement.Rows

namespace PveHelper.Retirement.ConsumerRelease

open Lib
open Refs (MountRef NodeRef RefParseError)

/-! ## Rows -/

/-- A `datetime` in UTC. -/
@[ext] structure DateTime where
  year : Fin 10000
  month : Fin 13
  day : Fin 32
  hour : Fin 24
  minute : Fin 60
  second : Fin 60
  microsecond : Fin 1000000
deriving DecidableEq

def DateTime.isoformat (t : DateTime) : String :=
  Text.padded 4 t.year.val ++ "-" ++ Text.padded 2 t.month.val ++ "-" ++ Text.padded 2 t.day.val ++ "T" ++
    Text.padded 2 t.hour.val ++ ":" ++ Text.padded 2 t.minute.val ++ ":" ++ Text.padded 2 t.second.val ++
    (if t.microsecond.val = 0 then "" else "." ++ Text.padded 6 t.microsecond.val) ++ "+00:00"

/-- `ProxmoxStorageConsumer`. -/
structure StorageConsumer where
  pk : Nat
  storage : Nat
  cluster : Nat
  expectedNodeName : String
  lastSuccessfulInventoryScan : Option DateTime := none
  lastGateStatus : String := ""

/-- The rows a release reads and writes. -/
structure Db where
  clusters : Table Clusters.ProxmoxCluster.pk
  mounts : Table StorageMount.pk
  consumers : Serial StorageConsumer.pk
  scans : Table ScanRun.pk
  events : Serial AuditEvent.pk
  /-- The foreign key of a consumer. -/
  mounted : ∀ {k r}, consumers.table.get k = some r → (mounts.get r.storage).isSome = true

/-- What the database makes of `order_by`: the same rows in some order. -/
structure RowOrder where
  sort : List (StorageConsumer × StorageMount) → List (StorageConsumer × StorageMount)
  perm : ∀ rows, (sort rows).Perm rows

/-- `signing.dumps` at an instant, `signing.loads` at an instant with none where it raises, both
with the salt of the release, and the hex digest of a text. -/
structure Signer where
  dumps : Json → Nat → String
  loads : String → Nat → Option Json
  hexdigest : String → String

/-! ## Errors -/

inductive ReleaseError
  | invalid (message : String)
  | changed (message : String)
  | notAllowed (message : String)
  | activeScan
  | refParse (e : RefParseError)

def confirmationExpired : ReleaseError :=
  .invalid "This storage-consumer confirmation is invalid or has expired. Reload the datastore and confirm again."

def confirmationInvalid : ReleaseError :=
  .invalid "This storage-consumer confirmation is invalid. Reload the datastore and confirm again."

def otherConfirmation : ReleaseError :=
  .invalid "This confirmation belongs to another cluster or operator. Reload the datastore and confirm again."

def clusterGone : ReleaseError := .notAllowed "The cluster connection no longer exists."

def clusterRetired : ReleaseError := .notAllowed "A retired cluster has no active storage consumers to release."

def relationshipsChanged : ReleaseError :=
  .changed ("Storage consumer relationships changed after they were shown. " ++
    "Reload the datastore, review the exact list and confirm again.")

def releasedMeanwhile : ReleaseError :=
  .changed ("Storage consumer relationships changed while they were being released. " ++
    "Reload the datastore and review the remaining relationships.")

/-! ## The relationships -/

@[ext] structure StorageConsumerRelationship where
  pk : Nat
  mountRef : String
  storageId : String
  storageName : String
  nodeRef : String
  node : String
  lastObservedAt : Option DateTime
  lastGateStatus : String

/-- One row of `_consumer_snapshot`. -/
def relationship (clusterKey : String) (row : StorageConsumer × StorageMount) :
    Except ReleaseError StorageConsumerRelationship := do
  let mountRef ← (MountRef.make row.2.mountKey).mapError .refParse
  let nodeRef ← (NodeRef.make clusterKey row.1.expectedNodeName).mapError .refParse
  pure {
    pk := row.1.pk
    mountRef := mountRef.serialize
    storageId := row.2.storageId
    storageName := row.2.displayName
    nodeRef := nodeRef.serialize
    node := row.1.expectedNodeName
    lastObservedAt := row.1.lastSuccessfulInventoryScan
    lastGateStatus := row.1.lastGateStatus }

/-- The consumers of a cluster, each joined to its mount. -/
def joined (cluster : Nat) (db : Db) : List (StorageConsumer × StorageMount) :=
  (db.consumers.table.rows.filter (·.cluster == cluster)).filterMap fun r => (db.mounts.get r.storage).map (r, ·)

section
variable (order : RowOrder) (signer : Signer)

/-- `_consumer_snapshot`. -/
def consumerSnapshot (clusterId : Nat) (clusterKey : String) (db : Db) :
    Except ReleaseError (List StorageConsumerRelationship) :=
  (order.sort (joined clusterId db)).mapM (relationship clusterKey)

def StorageConsumerRelationship.json (c : StorageConsumerRelationship) : Json :=
  .obj [("pk", .int c.pk), ("mount_ref", .str c.mountRef), ("storage_id", .str c.storageId),
    ("storage_name", .str c.storageName), ("node_ref", .str c.nodeRef), ("node", .str c.node),
    ("last_observed_at", c.lastObservedAt.elim .null fun t => .str t.isoformat), ("last_gate_status", .str c.lastGateStatus)]

/-- The text that `_consumer_digest` hashes. -/
def serialized (consumers : List StorageConsumerRelationship) : String := Json.dumps (.arr (consumers.map (·.json)))

/-- `_consumer_digest`. -/
def consumerDigest (consumers : List StorageConsumerRelationship) : String := signer.hexdigest (serialized consumers)

/-! ## Preflight -/

/-- `_actor_id`; an actor that is not authenticated is none. -/
def actorId : Option Nat → String
  | none => ""
  | some pk => toString pk

/-- What a confirmation signs. -/
def confirmationFields (current : Clusters.ProxmoxCluster) (actor : Option Nat)
    (consumers : List StorageConsumerRelationship) : Json :=
  .obj [("version", .int 1), ("cluster_pk", .int current.pk), ("cluster_key", .str current.key),
    ("user_id", .str (actorId actor)), ("consumer_count", .int consumers.length),
    ("consumer_digest", .str (consumerDigest signer consumers))]

structure ReleasePreflight where
  cluster : Clusters.ProxmoxCluster
  consumers : List StorageConsumerRelationship
  confirmation : String

/-- `cluster_storage_consumer_release_preflight`. -/
def releasePreflight (cluster : Nat) (actor : Option Nat) (now : Nat) (db : Db) : Except ReleaseError ReleasePreflight := do
  let current ← orRaise (db.clusters.get cluster) clusterGone
  ensure current.retiredAt.isNone clusterRetired
  let consumers ← consumerSnapshot order current.pk current.key db
  pure ⟨current, consumers, if consumers = [] then "" else signer.dumps (confirmationFields signer current actor consumers) now⟩

/-! ## The confirmation -/

structure ConfirmationPayload where
  clusterPk : Int
  clusterKey : String
  userId : String
  consumerCount : Int
  consumerDigest : String

def tokenFields : List String :=
  ["version", "cluster_pk", "cluster_key", "user_id", "consumer_count", "consumer_digest"]

/-- The checks of `_load_confirmation` on an object. -/
def payloadOfFields (fields : Columns) : Except ReleaseError ConfirmationPayload := do
  ensure (Json.hasKeys fields tokenFields && Json.isVersion fields 1) confirmationInvalid
  let clusterPk ← Json.intField confirmationInvalid fields "cluster_pk"
  let clusterKey ← Json.strField confirmationInvalid fields "cluster_key"
  let userId ← Json.strField confirmationInvalid fields "user_id"
  let consumerCount ← Json.intField confirmationInvalid fields "consumer_count"
  let consumerDigest ← Json.strField confirmationInvalid fields "consumer_digest"
  pure ⟨clusterPk, clusterKey, userId, consumerCount, consumerDigest⟩

/-- `_load_confirmation`. -/
def loadConfirmation (confirmation : String) (now : Nat) : Except ReleaseError ConfirmationPayload :=
  match signer.loads confirmation now with
  | none => .error confirmationExpired
  | some (.obj fields) => payloadOfFields fields
  | some _ => .error confirmationInvalid

/-! ## Release -/

/-- `STORAGE_CONSUMER_AUDIT_DETAIL_LIMIT`. -/
def auditDetailLimit : Nat := 100

/-- `_audit_consumer_refs`. -/
def auditConsumerRefs (consumers : List StorageConsumerRelationship) : List String × Nat :=
  let shown := consumers.take auditDetailLimit
  (shown.map fun c => c.mountRef ++ "@" ++ c.nodeRef, consumers.length - shown.length)

def releaseEvent (current : Clusters.ProxmoxCluster) (actor : Option Nat) (consumers : List StorageConsumerRelationship)
    (pk : Nat) : AuditEvent where
  pk := pk
  cluster := some current.pk
  action := "storage.consumers.released"
  outcome := .success
  objectType := "cluster_storage_consumers"
  objectId := current.key
  user := actor
  details := .obj [("cluster_key", .str current.key), ("consumer_count", .int consumers.length),
    ("consumer_refs", .arr ((auditConsumerRefs consumers).1.map .str)),
    ("consumer_refs_omitted", .int (auditConsumerRefs consumers).2), ("explicit_operator_resolution", .bool true)]

theorem releaseEvent_pk (current : Clusters.ProxmoxCluster) (actor : Option Nat) (consumers : List StorageConsumerRelationship)
    (pk : Nat) : (releaseEvent current actor consumers pk).pk = pk := rfl

/-- `record_audit_event`, whose action is a provider operation to the footprint of the cluster. -/
def recordRelease (current : Clusters.ProxmoxCluster) (actor : Option Nat) (consumers : List StorageConsumerRelationship)
    (now : Nat) (db : Db) : Db :=
  { db with
    events := db.events.insert (releaseEvent current actor consumers) (releaseEvent_pk current actor consumers)
    clusters := match Clusters.auditFootprintReason "storage.consumers.released" with
      | none => db.clusters
      | some reason => (Clusters.stampOperationalFootprint db.clusters (.row current) reason now).1 }

/-- The rows that `filter(cluster_id=.., pk__in=..).delete()` selects. -/
def selected (cluster : Nat) (pks : List Nat) (r : StorageConsumer) : Bool := r.cluster == cluster && pks.contains r.pk

def deleteConsumers (cluster : Nat) (pks : List Nat) (db : Db) : Db :=
  { db with
    consumers := db.consumers.keep fun r => !selected cluster pks r
    mounted := by
      intro k r h
      rw [Serial.get_keep, Option.filter_eq_some_iff] at h
      exact db.mounted h.1 }

/-- What the operator sends, and the cluster as the view loaded it. -/
structure ReleaseRequest where
  cluster : Clusters.ProxmoxCluster
  confirmation : String
  actor : Option Nat

structure ReleaseResult where
  clusterPk : Nat
  clusterKey : String
  consumersDeleted : Nat
  auditEventId : Nat

/-- A scan is queued or running. -/
def scanActive (db : Db) : Bool := db.scans.rows.any fun s => s.status == .queued || s.status == .running

/-- What the transaction reads before it writes: the cluster and the relationships confirmed. -/
def confirmedRelationships (request : ReleaseRequest) (payload : ConfirmationPayload) (db : Db) :
    Except ReleaseError (Clusters.ProxmoxCluster × List StorageConsumerRelationship) := do
  let current ← orRaise (db.clusters.get request.cluster.pk) clusterGone
  ensure current.retiredAt.isNone clusterRetired
  ensure (!scanActive db) .activeScan
  let consumers ← consumerSnapshot order current.pk current.key db
  ensure (!consumers.isEmpty && decide (payload.consumerCount = consumers.length) &&
    payload.consumerDigest == consumerDigest signer consumers) relationshipsChanged
  pure (current, consumers)

/-- The transaction. -/
def releaseConfirmed (request : ReleaseRequest) (payload : ConfirmationPayload) (now : Nat) :
    EStateM ReleaseError Db ReleaseResult := do
  let (current, consumers) ← query (confirmedRelationships order signer request payload)
  let pks := consumers.map (·.pk)
  let deleted ← query fun db => .ok (db.consumers.table.rows.countP (selected current.pk pks))
  change fun db => .ok (deleteConsumers current.pk pks db)
  query fun _ => ensure (decide (deleted = consumers.length)) releasedMeanwhile
  let event ← query fun db => .ok db.events.next
  change fun db => .ok (recordRelease current request.actor consumers now db)
  pure ⟨current.pk, current.key, deleted, event⟩

/-- `release_cluster_storage_consumers`. -/
def releaseClusterStorageConsumers (request : ReleaseRequest) (now : Nat) : EStateM ReleaseError Db ReleaseResult := do
  let payload ← query fun _ => loadConfirmation signer request.confirmation now
  query fun _ => ensure (decide (payload.clusterPk = request.cluster.pk) && payload.clusterKey == request.cluster.key &&
    payload.userId == actorId request.actor) otherConfirmation
  atomic (releaseConfirmed order signer request payload now)

end

/-! ## What is signed tells the relationships apart -/

theorem padded_toList (width n : Nat) : (Text.padded width n).toList = List.replicate (width - (Nat.toDigits 10 n).length) '0' ++ Nat.toDigits 10 n := by
  have hdigits : (toString (n : Int)).toList = Nat.toDigits 10 n := JsonText.toList_ofNat n
  rw [Text.padded, String.toList_ofList, hdigits]

theorem digits_padded (width n : Nat) : ∀ d ∈ (Text.padded width n).toList, d.isDigit = true := by
  intro d hd
  rw [padded_toList, List.mem_append] at hd
  rcases hd with hd | hd
  · rw [List.eq_of_mem_replicate hd]
    rfl
  · exact Nat.isDigit_of_mem_toDigits (by decide) (by decide) hd

theorem padded_injective {width n m : Nat} (h : (Text.padded width n).toList = (Text.padded width m).toList) : n = m := by
  have hvalue : ∀ k n, Nat.ofDigitChars 10 (List.replicate k '0' ++ Nat.toDigits 10 n) 0 = n := by
    intro k n
    induction k with
    | zero => exact Nat.ofDigitChars_ten_toDigits
    | succ k ih =>
      rw [List.replicate_succ, List.cons_append, Nat.ofDigitChars_cons]
      exact ih
  rw [padded_toList, padded_toList] at h
  rw [← hvalue (width - (Nat.toDigits 10 n).length) n, h, hvalue]

/-- What stands after the seconds. -/
def DateTime.fraction (t : DateTime) : List Char :=
  if t.microsecond.val = 0 then ['+', '0', '0', ':', '0', '0']
  else '.' :: ((Text.padded 6 t.microsecond.val).toList ++ ['+', '0', '0', ':', '0', '0'])

theorem DateTime.isoformat_toList (t : DateTime) :
    t.isoformat.toList = (Text.padded 4 t.year.val).toList ++ '-' :: ((Text.padded 2 t.month.val).toList ++
      '-' :: ((Text.padded 2 t.day.val).toList ++ 'T' :: ((Text.padded 2 t.hour.val).toList ++
        ':' :: ((Text.padded 2 t.minute.val).toList ++ ':' :: ((Text.padded 2 t.second.val).toList ++ t.fraction))))) := by
  have hdash : "-".toList = ['-'] := rfl
  have hcolon : ":".toList = [':'] := rfl
  have hletter : "T".toList = ['T'] := rfl
  have hoffset : "+00:00".toList = ['+', '0', '0', ':', '0', '0'] := rfl
  have hpoint : ".".toList = ['.'] := rfl
  have hfraction : (if t.microsecond.val = 0 then "" else "." ++ Text.padded 6 t.microsecond.val).toList ++ "+00:00".toList =
      t.fraction := by
    unfold fraction
    split
    · rw [String.toList_empty, List.nil_append, hoffset]
    · rw [String.toList_append, hpoint, hoffset, List.append_assoc, List.singleton_append]
  simp only [isoformat, String.toList_append, hdash, hcolon, hletter, List.append_assoc, hfraction, List.cons_append,
    List.nil_append]

theorem DateTime.fraction_cons (t : DateTime) : ∃ c rest, t.fraction = c :: rest ∧ c.isDigit = false := by
  unfold fraction
  split
  · exact ⟨'+', _, rfl, rfl⟩
  · exact ⟨'.', _, rfl, rfl⟩

theorem DateTime.fraction_injective {t u : DateTime} (h : t.fraction = u.fraction) : t.microsecond.val = u.microsecond.val := by
  unfold fraction at h
  split at h
  · next ht =>
    split at h
    · next hu => rw [ht, hu]
    · exact absurd (List.cons.inj h).1 (by decide)
  · split at h
    · exact absurd (List.cons.inj h).1 (by decide)
    · exact padded_injective (digits_append_inj (digits_padded _ _) (digits_padded _ _) rfl rfl (List.cons.inj h).2).1

theorem DateTime.isoformat_injective : Function.Injective DateTime.isoformat := by
  intro t u h
  have hlist := congrArg String.toList h
  rw [isoformat_toList, isoformat_toList] at hlist
  obtain ⟨hyear, hlist⟩ := digits_append_inj (digits_padded _ _) (digits_padded _ _) rfl rfl hlist
  obtain ⟨hmonth, hlist⟩ := digits_append_inj (digits_padded _ _) (digits_padded _ _) rfl rfl (List.cons.inj hlist).2
  obtain ⟨hday, hlist⟩ := digits_append_inj (digits_padded _ _) (digits_padded _ _) rfl rfl (List.cons.inj hlist).2
  obtain ⟨hhour, hlist⟩ := digits_append_inj (digits_padded _ _) (digits_padded _ _) rfl rfl (List.cons.inj hlist).2
  obtain ⟨hminute, hlist⟩ := digits_append_inj (digits_padded _ _) (digits_padded _ _) rfl rfl (List.cons.inj hlist).2
  obtain ⟨c, rest, hfraction, hc⟩ := t.fraction_cons
  obtain ⟨c', rest', hfraction', hc'⟩ := u.fraction_cons
  rw [hfraction, hfraction'] at hlist
  obtain ⟨hsecond, hlist⟩ := digits_append_inj (digits_padded _ _) (digits_padded _ _) hc hc' (List.cons.inj hlist).2
  rw [← hfraction, ← hfraction'] at hlist
  exact DateTime.ext (Fin.ext (padded_injective hyear)) (Fin.ext (padded_injective hmonth)) (Fin.ext (padded_injective hday))
    (Fin.ext (padded_injective hhour)) (Fin.ext (padded_injective hminute)) (Fin.ext (padded_injective hsecond))
    (Fin.ext (fraction_injective hlist))

/-! ### The JSON text -/

/-- The time of a relationship's last observation. -/
def observedText (o : Option DateTime) : List Char := o.elim ['n', 'u', 'l', 'l'] fun t => (Json.quoted t.isoformat).toList

theorem observedText_prefixCode : PrefixCode observedText := by
  refine PrefixCode.option (Json.quoted_prefixCode.comp DateTime.isoformat_injective) fun t rest rest' h => ?_
  rw [Json.quoted_toList, List.cons_append] at h
  exact absurd (List.cons.inj h).1 (by decide)

/-- A member in front of what follows it. -/
def memberText (key : String) (value rest : List Char) : List Char := (Json.quoted key).toList ++ ':' :: (value ++ rest)

theorem memberText_eq {key : String} {value value' rest rest' : List Char}
    (h : memberText key value rest = memberText key value' rest') : value ++ rest = value' ++ rest' :=
  (List.cons.inj (List.append_cancel_left h)).2

theorem sorted_members {v₁ v₂ v₃ v₄ v₅ v₆ v₇ v₈ : String} :
    [("pk", v₁), ("mount_ref", v₂), ("storage_id", v₃), ("storage_name", v₄), ("node_ref", v₅), ("node", v₆),
        ("last_observed_at", v₇), ("last_gate_status", v₈)].insertionSort (fun a b => ¬ b.1 < a.1) =
      [("last_gate_status", v₈), ("last_observed_at", v₇), ("mount_ref", v₂), ("node", v₆), ("node_ref", v₅), ("pk", v₁),
        ("storage_id", v₃), ("storage_name", v₄)] := by
  simp +decide only [List.insertionSort, List.foldr, List.orderedInsert, if_true, if_false]

/-- The text of a relationship, its members by their keys. -/
theorem dumps_json (c : StorageConsumerRelationship) : (Json.dumps c.json).toList =
    '\x7b' :: memberText "last_gate_status" (Json.quoted c.lastGateStatus).toList (',' ::
      memberText "last_observed_at" (observedText c.lastObservedAt) (',' ::
        memberText "mount_ref" (Json.quoted c.mountRef).toList (',' ::
          memberText "node" (Json.quoted c.node).toList (',' ::
            memberText "node_ref" (Json.quoted c.nodeRef).toList (',' ::
              memberText "pk" (toString c.pk).toList (',' ::
                memberText "storage_id" (Json.quoted c.storageId).toList (',' ::
                  memberText "storage_name" (Json.quoted c.storageName).toList ['\x7d']))))))) := by
  have hobserved : (Json.dumps (c.lastObservedAt.elim .null fun t => .str t.isoformat)).toList = observedText c.lastObservedAt := by
    cases c.lastObservedAt with
    | none => rfl
    | some t => rw [Option.elim_some, Json.dumps, observedText, Option.elim_some]
  have hopen : "\x7b".toList = ['\x7b'] := rfl
  have hclose : "\x7d".toList = ['\x7d'] := rfl
  have hcolon : ":".toList = [':'] := rfl
  have hcomma : ",".toList = [','] := rfl
  have hstr : ∀ s, Json.dumps (.str s) = Json.quoted s := fun s => by rw [Json.dumps]
  have hpk : (Json.dumps (.int c.pk)).toList = (toString c.pk).toList := by
    have hint : (toString (c.pk : Int)).toList = Nat.toDigits 10 c.pk := JsonText.toList_ofNat c.pk
    rw [Json.dumps, hint, Nat.toString_eq_ofList_toDigits, String.toList_ofList]
  rw [StorageConsumerRelationship.json, Json.dumps, Json.dumpsSorted]
  simp only [hstr, hpk, Json.dumpsFields, sorted_members, List.map_cons, List.map_nil, String.toList_append, String.toList_intercalate,
    List.intercalate_cons_cons, List.intercalate_singleton, hopen, hclose, hcolon, hcomma, hobserved, memberText, List.append_assoc,
    List.cons_append, List.nil_append]

theorem memberText_append (key : String) (value rest rest' : List Char) :
    memberText key value rest ++ rest' = memberText key value (rest ++ rest') := by
  rw [memberText, memberText, List.append_assoc, List.cons_append, List.append_assoc]

theorem json_prefixCode : PrefixCode fun c : StorageConsumerRelationship => (Json.dumps c.json).toList := by
  intro c d rest rest' h
  simp only [dumps_json, List.cons_append, memberText_append] at h
  obtain ⟨hgate, h⟩ := Json.quoted_prefixCode _ _ _ _ (memberText_eq (List.cons.inj h).2)
  obtain ⟨hobserved, h⟩ := observedText_prefixCode _ _ _ _ (memberText_eq (List.cons.inj h).2)
  obtain ⟨hmount, h⟩ := Json.quoted_prefixCode _ _ _ _ (memberText_eq (List.cons.inj h).2)
  obtain ⟨hnode, h⟩ := Json.quoted_prefixCode _ _ _ _ (memberText_eq (List.cons.inj h).2)
  obtain ⟨hnodeRef, h⟩ := Json.quoted_prefixCode _ _ _ _ (memberText_eq (List.cons.inj h).2)
  have hnumber := memberText_eq (List.cons.inj h).2
  have hpk : c.pk = d.pk := Text.toString_append_inj rfl hnumber
  rw [hpk] at hnumber
  have h := List.append_cancel_left hnumber
  obtain ⟨hstorage, h⟩ := Json.quoted_prefixCode _ _ _ _ (memberText_eq (List.cons.inj h).2)
  obtain ⟨hname, h⟩ := Json.quoted_prefixCode _ _ _ _ (memberText_eq (List.cons.inj h).2)
  exact ⟨StorageConsumerRelationship.ext hpk hmount hstorage hname hnodeRef hnode hobserved hgate, (List.cons.inj h).2⟩

/-- The text that is hashed is another one for other relationships. -/
theorem serialized_injective : Function.Injective serialized := by
  have hclose : ∀ (c : StorageConsumerRelationship) rest rest', (Json.dumps c.json).toList ++ rest ≠ ']' :: rest' := by
    intro c rest rest' h
    rw [dumps_json, List.cons_append] at h
    exact absurd (List.cons.inj h).1 (by decide)
  have hall : ∀ cs : List StorageConsumerRelationship, Json.dumpsAll (cs.map (·.json)) = cs.map fun c => Json.dumps c.json := by
    intro cs
    induction cs with
    | nil => rfl
    | cons c cs ih => rw [List.map_cons, Json.dumpsAll, ih, List.map_cons]
  have htext : ∀ cs, (serialized cs).toList =
      '[' :: ([','].intercalate (cs.map fun c => (Json.dumps c.json).toList) ++ [']']) := by
    intro cs
    have hopen : "[".toList = ['['] := rfl
    have hend : "]".toList = [']'] := rfl
    have hcomma : ",".toList = [','] := rfl
    rw [serialized, Json.dumps, hall, String.toList_append, String.toList_append, String.toList_intercalate, List.map_map, hopen,
      hend, hcomma, List.append_assoc, List.singleton_append]
    rfl
  intro cs ds h
  have hlist := congrArg String.toList h
  rw [htext, htext] at hlist
  exact (json_prefixCode.array (by decide) hclose).injective (List.cons.inj hlist).2

/-! ## Confirmations over time -/

/-- What signing and hashing are relied on for. -/
structure Signer.Sound (signer : Signer) : Prop where
  reads : ∀ payload now later read, signer.loads (signer.dumps payload now) later = some read → read = payload
  collisionFree : Function.Injective signer.hexdigest

/-- A confirmation that was handed out, with the database its page was made from. -/
structure Issue where
  token : String
  actor : Option Nat
  cluster : Clusters.ProxmoxCluster
  db : Db
  consumers : List StorageConsumerRelationship

structure World where
  db : Db
  issues : List Issue := []
  /-- The confirmations a release has returned for. -/
  succeeded : List String := []

/-- No primary key is given twice: the sequence only goes on, and what is gone stays gone. -/
def NoKeyTwice (db db' : Db) : Prop :=
  db.consumers.next ≤ db'.consumers.next ∧
    ∀ k < db.consumers.next, db.consumers.table.get k = none → db'.consumers.table.get k = none

/-- A text whose signature holds is one that was handed out. -/
def Signer.Unforged (signer : Signer) (issues : List Issue) (token : String) (now : Nat) : Prop :=
  ∀ payload, signer.loads token now = some payload → ∃ i ∈ issues, i.token = token

def World.afterRelease (w : World) (token : String) : EStateM.Result ReleaseError Db ReleaseResult → World
  | .ok _ db => { w with db := db, succeeded := w.succeeded ++ [token] }
  | .error _ db => { w with db := db }

section
variable (order : RowOrder) (signer : Signer)

inductive Step : World → World → Prop
  | issue {w : World} {cluster : Nat} {actor : Option Nat} {now : Nat} {p : ReleasePreflight}
      (hp : releasePreflight order signer cluster actor now w.db = .ok p) (hne : p.consumers ≠ []) :
      Step w { w with issues := w.issues ++ [⟨p.confirmation, actor, p.cluster, w.db, p.consumers⟩] }
  | release {w : World} {request : ReleaseRequest} {now : Nat} (hunforged : signer.Unforged w.issues request.confirmation now) :
      Step w (w.afterRelease request.confirmation (releaseClusterStorageConsumers order signer request now w.db))
  /-- Anything else that happens to the database. -/
  | change {w : World} {db : Db} (hkeys : NoKeyTwice w.db db) : Step w { w with db := db }

end

/-- What is shown of a consumer beside its key and its cluster. -/
structure Observed where
  mountKey : String
  storageId : String
  storageName : String
  node : String
  lastObservedAt : Option DateTime
  lastGateStatus : String
deriving DecidableEq

def observed (row : StorageConsumer × StorageMount) : Observed :=
  ⟨row.2.mountKey, row.2.storageId, row.2.displayName, row.1.expectedNodeName, row.1.lastSuccessfulInventoryScan,
    row.1.lastGateStatus⟩

/-- The consumer of a cluster under a key, with its mount. -/
def consumerAt (cluster : Nat) (db : Db) (k : Nat) : Option (StorageConsumer × StorageMount) :=
  ((db.consumers.table.get k).filter (·.cluster == cluster)).bind fun r => (db.mounts.get r.storage).map (r, ·)

/-- The consumers of a cluster as they are seen. -/
def shownConsumers (cluster : Nat) (db : Db) (k : Nat) : Option Observed := (consumerAt cluster db k).map observed

/-! ### Snapshots -/

theorem mem_joined {cluster : Nat} {db : Db} {row : StorageConsumer × StorageMount} :
    row ∈ joined cluster db ↔ consumerAt cluster db row.1.pk = some row := by
  obtain ⟨r, m⟩ := row
  simp only [joined, consumerAt, List.mem_filterMap, List.mem_filter, Table.mem_iff_get, Option.bind_eq_some_iff,
    Option.filter_eq_some_iff]
  constructor
  · rintro ⟨r', ⟨hget, hcluster⟩, hm⟩
    obtain ⟨m', hm', heq⟩ := Option.map_eq_some_iff.mp hm
    obtain ⟨rfl, rfl⟩ := Prod.mk.inj heq
    exact ⟨r', ⟨hget, hcluster⟩, hm⟩
  · rintro ⟨r', ⟨hget, hcluster⟩, hm⟩
    obtain ⟨m', hm', heq⟩ := Option.map_eq_some_iff.mp hm
    obtain ⟨rfl, rfl⟩ := Prod.mk.inj heq
    exact ⟨r', ⟨hget, hcluster⟩, hm⟩

theorem mapError_ok {ε ε' α : Type} {f : ε → ε'} {x : Except ε α} {a : α} (h : x.mapError f = .ok a) : x = .ok a := by
  cases x with
  | error e => cases h
  | ok b => rw [Except.ok.inj h]

theorem relationship_ok {key : String} {row : StorageConsumer × StorageMount} {c : StorageConsumerRelationship}
    (h : relationship key row = .ok c) : c.pk = row.1.pk ∧ c.mountRef = Text.join ':' ["mr1", row.2.mountKey] ∧
      c.storageId = row.2.storageId ∧ c.storageName = row.2.displayName ∧ c.node = row.1.expectedNodeName ∧
      c.lastObservedAt = row.1.lastSuccessfulInventoryScan ∧ c.lastGateStatus = row.1.lastGateStatus := by
  unfold relationship at h
  obtain ⟨mount, hmount, h⟩ := except_bind_ok.mp h
  obtain ⟨node, -, h⟩ := except_bind_ok.mp h
  have hmade := mapError_ok hmount
  unfold MountRef.make at hmade
  split at hmade
  · cases hmade
    cases h
    exact ⟨rfl, rfl, rfl, rfl, rfl, rfl, rfl⟩
  · cases hmade

/-- Rows with one relationship look alike. -/
theorem observed_of_relationship {key key' : String} {row row' : StorageConsumer × StorageMount} {c : StorageConsumerRelationship}
    (h : relationship key row = .ok c) (h' : relationship key' row' = .ok c) : row.1.pk = row'.1.pk ∧ observed row = observed row' := by
  obtain ⟨hpk, hmount, hstorage, hname, hnode, hobserved, hgate⟩ := relationship_ok h
  obtain ⟨hpk', hmount', hstorage', hname', hnode', hobserved', hgate'⟩ := relationship_ok h'
  have hkey : row.2.mountKey = row'.2.mountKey := by
    have hlist := congrArg String.toList (hmount.symm.trans hmount')
    rw [Text.toList_join, Text.toList_join] at hlist
    simp only [List.map_cons, List.map_nil, List.intercalate_cons_cons, List.intercalate_singleton, List.append_assoc,
      List.append_cancel_left_eq] at hlist
    exact String.toList_inj.mp hlist
  refine ⟨hpk.symm.trans hpk', ?_⟩
  simp only [observed, Observed.mk.injEq]
  exact ⟨hkey, hstorage.symm.trans hstorage', hname.symm.trans hname', hnode.symm.trans hnode',
    hobserved.symm.trans hobserved', hgate.symm.trans hgate'⟩

/-- What a loop over rows makes, row by row. -/
theorem mem_mapM_ok {ε α β : Type} {f : α → Except ε β} {xs : List α} {ys : List β} (h : xs.mapM f = .ok ys) :
    (∀ y ∈ ys, ∃ x ∈ xs, f x = .ok y) ∧ ∀ x ∈ xs, ∃ y ∈ ys, f x = .ok y := by
  induction xs generalizing ys with
  | nil =>
    cases h
    exact ⟨fun _ h => absurd h List.not_mem_nil, fun _ h => absurd h List.not_mem_nil⟩
  | cons x xs ih =>
    rw [List.mapM_cons] at h
    obtain ⟨y, hy, h⟩ := except_bind_ok.mp h
    obtain ⟨ys', hys, h⟩ := except_bind_ok.mp h
    cases h
    obtain ⟨hleft, hright⟩ := ih hys
    constructor
    · intro z hz
      rcases List.mem_cons.mp hz with rfl | hz
      · exact ⟨x, List.mem_cons_self, hy⟩
      · obtain ⟨x', hx', hz⟩ := hleft z hz
        exact ⟨x', List.mem_cons_of_mem _ hx', hz⟩
    · intro z hz
      rcases List.mem_cons.mp hz with rfl | hz
      · exact ⟨y, List.mem_cons_self, hy⟩
      · obtain ⟨y', hy', hz⟩ := hright z hz
        exact ⟨y', List.mem_cons_of_mem _ hy', hz⟩

theorem consumerAt_pk {cluster k : Nat} {db : Db} {row : StorageConsumer × StorageMount} (h : consumerAt cluster db k = some row) :
    row.1.pk = k := by
  obtain ⟨r, hr, hrow⟩ := Option.bind_eq_some_iff.mp h
  obtain ⟨m, -, rfl⟩ := Option.map_eq_some_iff.mp hrow
  exact Table.key_of_get (Option.filter_eq_some_iff.mp hr).1

section
variable {order : RowOrder} {signer : Signer}

/-- The relationships of a snapshot are those of the joined rows, one each. -/
theorem mem_snapshot {cluster : Nat} {key : String} {db : Db} {cs : List StorageConsumerRelationship}
    (h : consumerSnapshot order cluster key db = .ok cs) :
    (∀ c ∈ cs, ∃ row, relationship key row = .ok c ∧ consumerAt cluster db row.1.pk = some row) ∧
      ∀ k row, consumerAt cluster db k = some row → ∃ c ∈ cs, relationship key row = .ok c ∧ c.pk = k := by
  obtain ⟨hleft, hright⟩ := mem_mapM_ok h
  have hmem : ∀ row, row ∈ order.sort (joined cluster db) ↔ consumerAt cluster db row.1.pk = some row :=
    fun row => (order.perm _).mem_iff.trans mem_joined
  constructor
  · intro c hc
    obtain ⟨row, hrow, hrel⟩ := hleft c hc
    exact ⟨row, hrel, (hmem row).mp hrow⟩
  · intro k row hrow
    have hk := consumerAt_pk hrow
    obtain ⟨c, hc, hrel⟩ := hright row ((hmem row).mpr (hk ▸ hrow))
    exact ⟨c, hc, hrel, (relationship_ok hrel).1.trans hk⟩

/-- Databases with one snapshot show the same consumers. -/
theorem shownConsumers_of_snapshot {cluster cluster' : Nat} {key key' : String} {db db' : Db} {cs : List StorageConsumerRelationship}
    (h : consumerSnapshot order cluster key db = .ok cs) (h' : consumerSnapshot order cluster' key' db' = .ok cs) (k : Nat) :
    shownConsumers cluster db k = shownConsumers cluster' db' k := by
  have hhalf : ∀ {cluster cluster' : Nat} {key key' : String} {db db' : Db},
      consumerSnapshot order cluster key db = .ok cs → consumerSnapshot order cluster' key' db' = .ok cs →
      ∀ o, shownConsumers cluster db k = some o → shownConsumers cluster' db' k = some o := by
    intro cluster cluster' key key' db db' h h' o ho
    obtain ⟨row, hrow, rfl⟩ := Option.map_eq_some_iff.mp ho
    obtain ⟨c, hc, hrel, hk⟩ := (mem_snapshot h).2 k row hrow
    obtain ⟨row', hrel', hrow'⟩ := (mem_snapshot h').1 c hc
    obtain ⟨hpk, hobserved⟩ := observed_of_relationship hrel hrel'
    rw [consumerAt_pk hrow] at hpk
    rw [shownConsumers, hpk, hrow', hobserved]
    rfl
  exact Option.ext fun o => ⟨hhalf h h' o, hhalf h' h o⟩

/-- The rows of a cluster are those of its snapshot. -/
theorem selected_of_snapshot {cluster : Nat} {key : String} {db : Db} {cs : List StorageConsumerRelationship}
    (h : consumerSnapshot order cluster key db = .ok cs) {k : Nat} {r : StorageConsumer} (hr : db.consumers.table.get k = some r) :
    selected cluster (cs.map (·.pk)) r = (r.cluster == cluster) := by
  unfold selected
  by_cases hcluster : (r.cluster == cluster) = true
  · rw [hcluster, Bool.true_and, List.contains_iff_mem]
    obtain ⟨m, hm⟩ := Option.isSome_iff_exists.mp (db.mounted hr)
    have hrow : consumerAt cluster db k = some (r, m) := by
      rw [consumerAt, hr, Option.filter_some, if_pos hcluster, Option.bind_some, hm, Option.map_some]
    obtain ⟨c, hc, hrel, -⟩ := (mem_snapshot h).2 k (r, m) hrow
    exact List.mem_map.mpr ⟨c, hc, (relationship_ok hrel).1⟩
  · rw [Bool.not_eq_true] at hcluster
    rw [hcluster, Bool.false_and]

/-- A deletion of what a snapshot lists leaves the rows of the other clusters. -/
theorem get_deleteConsumers {cluster : Nat} {key : String} {db : Db} {cs : List StorageConsumerRelationship}
    (h : consumerSnapshot order cluster key db = .ok cs) (k : Nat) :
    (deleteConsumers cluster (cs.map (·.pk)) db).consumers.table.get k =
      (db.consumers.table.get k).filter (·.cluster != cluster) := by
  rw [deleteConsumers, Serial.get_keep]
  cases hr : db.consumers.table.get k with
  | none => rfl
  | some r =>
    rw [Option.filter_some, Option.filter_some, selected_of_snapshot h hr]
    rfl

/-! ### A release -/

theorem loadConfirmation_issued {current : Clusters.ProxmoxCluster} {actor : Option Nat} {cs : List StorageConsumerRelationship}
    {token : String} {now : Nat} (h : signer.loads token now = some (confirmationFields signer current actor cs)) :
    loadConfirmation signer token now =
      .ok ⟨current.pk, current.key, actorId actor, cs.length, consumerDigest signer cs⟩ := by
  rw [loadConfirmation, h]
  rfl

theorem loadConfirmation_ok {token : String} {now : Nat} {payload : ConfirmationPayload}
    (h : loadConfirmation signer token now = .ok payload) : ∃ read, signer.loads token now = some read := by
  unfold loadConfirmation at h
  split at h
  · cases h
  · next hloads => exact ⟨_, hloads⟩
  · cases h

theorem actorId_injective : Function.Injective actorId := by
  have hne : ∀ n : Nat, toString n ≠ "" := by
    intro n h
    have hlist := congrArg String.toList h
    rw [Nat.toString_eq_ofList_toDigits, String.toList_ofList] at hlist
    exact Nat.toDigits_ne_nil hlist
  intro a b h
  cases a with
  | none =>
    cases b with
    | none => rfl
    | some b => exact absurd h.symm (hne b)
  | some a =>
    cases b with
    | none => exact absurd h (hne a)
    | some b =>
      have happ : (toString a).toList ++ ',' :: [] = (toString b).toList ++ ',' :: [] := congrArg (·.toList ++ ',' :: []) h
      rw [Text.toString_append_inj rfl happ]

/-- What a release that returns has read, and what it leaves. -/
theorem release_ok {request : ReleaseRequest} {now : Nat} {db db' : Db} {result : ReleaseResult}
    (h : releaseClusterStorageConsumers order signer request now db = .ok result db') :
    ∃ payload current cs, loadConfirmation signer request.confirmation now = .ok payload ∧
      payload.clusterPk = request.cluster.pk ∧ payload.userId = actorId request.actor ∧ current.pk = request.cluster.pk ∧
      consumerSnapshot order current.pk current.key db = .ok cs ∧ cs ≠ [] ∧ payload.consumerDigest = consumerDigest signer cs ∧
      db' = recordRelease current request.actor cs now (deleteConsumers current.pk (cs.map (·.pk)) db) := by
  unfold releaseClusterStorageConsumers at h
  obtain ⟨payload, hpayload, h⟩ := query_bind_ok.mp h
  obtain ⟨_, hmatch, h⟩ := query_bind_ok.mp h
  rw [ensure_ok, Bool.and_eq_true, Bool.and_eq_true, decide_eq_true_eq, beq_iff_eq, beq_iff_eq] at hmatch
  rw [atomic_ok, releaseConfirmed] at h
  obtain ⟨⟨current, cs⟩, hread, h⟩ := query_bind_ok.mp h
  obtain ⟨deleted, -, h⟩ := query_bind_ok.mp h
  obtain ⟨db₁, hdb₁, h⟩ := change_bind_ok.mp h
  obtain ⟨_, -, h⟩ := query_bind_ok.mp h
  obtain ⟨event, -, h⟩ := query_bind_ok.mp h
  obtain ⟨db₂, hdb₂, h⟩ := change_bind_ok.mp h
  cases hdb₁
  cases hdb₂
  cases h
  unfold confirmedRelationships at hread
  obtain ⟨found, hfound, hread⟩ := except_bind_ok.mp hread
  obtain ⟨_, -, hread⟩ := except_bind_ok.mp hread
  obtain ⟨_, -, hread⟩ := except_bind_ok.mp hread
  obtain ⟨cs', hcs, hread⟩ := except_bind_ok.mp hread
  obtain ⟨_, hsame, hread⟩ := except_bind_ok.mp hread
  cases hread
  rw [ensure_ok, Bool.and_eq_true, Bool.and_eq_true, beq_iff_eq] at hsame
  have hne : cs ≠ [] := by
    rintro rfl
    exact absurd hsame.1.1 (by decide)
  exact ⟨payload, current, cs, hpayload, hmatch.1.1, hmatch.2, Table.key_of_get (orRaise_ok.mp hfound), hcs, hne, hsame.2, rfl⟩

/-- A release that raises writes nothing. -/
theorem release_error {request : ReleaseRequest} {now : Nat} {db db' : Db} {e : ReleaseError}
    (h : releaseClusterStorageConsumers order signer request now db = .error e db') : db' = db := by
  unfold releaseClusterStorageConsumers at h
  rcases query_bind_error.mp h with ⟨-, rfl⟩ | ⟨payload, -, h⟩
  · rfl
  rcases query_bind_error.mp h with ⟨-, rfl⟩ | ⟨_, -, h⟩
  · rfl
  exact atomic_error h

/-! ### Runs -/

/-- What holds of every confirmation handed out and of every one that was used. -/
structure World.Inv (order : RowOrder) (signer : Signer) (w : World) : Prop where
  issued : ∀ i ∈ w.issues, i.consumers ≠ [] ∧ consumerSnapshot order i.cluster.pk i.cluster.key i.db = .ok i.consumers ∧
    ∃ now, i.token = signer.dumps (confirmationFields signer i.cluster i.actor i.consumers) now
  spent : ∀ token ∈ w.succeeded, ∃ i ∈ w.issues, i.token = token ∧
    ∀ c ∈ i.consumers, c.pk < w.db.consumers.next ∧ w.db.consumers.table.get c.pk = none

/-- A release that returns holds exactly what its confirmation was issued for. -/
theorem release_issued (hs : signer.Sound) {w : World} (hw : w.Inv order signer) {request : ReleaseRequest} {now : Nat}
    (hunforged : signer.Unforged w.issues request.confirmation now) {result : ReleaseResult} {db : Db}
    (h : releaseClusterStorageConsumers order signer request now w.db = .ok result db) :
    ∃ i ∈ w.issues, i.token = request.confirmation ∧ i.actor = request.actor ∧ i.cluster.pk = request.cluster.pk ∧
      ∃ current, current.pk = request.cluster.pk ∧ consumerSnapshot order current.pk current.key w.db = .ok i.consumers ∧
        db = recordRelease current request.actor i.consumers now
          (deleteConsumers current.pk (i.consumers.map (·.pk)) w.db) := by
  obtain ⟨payload, current, cs, hpayload, hpk, huser, hcurrent, hcs, -, hdigest, hdb⟩ := release_ok h
  obtain ⟨read, hread⟩ := loadConfirmation_ok hpayload
  obtain ⟨i, hi, htoken⟩ := hunforged read hread
  obtain ⟨-, hsnapshot, issuedAt, hdumps⟩ := hw.issued i hi
  have hfields : read = confirmationFields signer i.cluster i.actor i.consumers := by
    rw [← htoken, hdumps] at hread
    exact hs.reads _ _ _ _ hread
  rw [hfields] at hread
  have hloaded := (loadConfirmation_issued hread).symm.trans hpayload
  cases hloaded
  have hconsumers : cs = i.consumers := (serialized_injective (hs.collisionFree hdigest)).symm
  subst hconsumers
  exact ⟨i, hi, htoken, actorId_injective huser, Int.ofNat_inj.mp hpk, current, hcurrent, hcs, hdb⟩

/-- The keys of what was released stay gone. -/
theorem spent_of_noKeyTwice {db db' : Db} (hkeys : NoKeyTwice db db') {cs : List StorageConsumerRelationship}
    (h : ∀ c ∈ cs, c.pk < db.consumers.next ∧ db.consumers.table.get c.pk = none) :
    ∀ c ∈ cs, c.pk < db'.consumers.next ∧ db'.consumers.table.get c.pk = none :=
  fun c hc => ⟨Nat.lt_of_lt_of_le (h c hc).1 hkeys.1, hkeys.2 c.pk (h c hc).1 (h c hc).2⟩

theorem noKeyTwice_release {cluster : Nat} {pks : List Nat} {current : Clusters.ProxmoxCluster} {actor : Option Nat}
    {cs : List StorageConsumerRelationship} {now : Nat} {db : Db} :
    NoKeyTwice db (recordRelease current actor cs now (deleteConsumers cluster pks db)) := by
  refine ⟨Nat.le_refl _, fun k _ hk => ?_⟩
  show (db.consumers.keep _).table.get k = none
  rw [Serial.get_keep, hk]
  rfl

/-- What a release deletes is spent. -/
theorem spent_release {cluster : Nat} {key : String} {current : Clusters.ProxmoxCluster} {actor : Option Nat}
    {cs : List StorageConsumerRelationship} {now : Nat} {db : Db} (h : consumerSnapshot order cluster key db = .ok cs) :
    ∀ c ∈ cs, c.pk < (recordRelease current actor cs now (deleteConsumers cluster (cs.map (·.pk)) db)).consumers.next ∧
      (recordRelease current actor cs now (deleteConsumers cluster (cs.map (·.pk)) db)).consumers.table.get c.pk = none := by
  intro c hc
  obtain ⟨row, hrel, hrow⟩ := (mem_snapshot h).1 c hc
  obtain ⟨r, hr, -⟩ := Option.bind_eq_some_iff.mp hrow
  obtain ⟨hget, hcluster⟩ := Option.filter_eq_some_iff.mp hr
  rw [(relationship_ok hrel).1]
  refine ⟨db.consumers.below hget, ?_⟩
  show (deleteConsumers cluster (cs.map (·.pk)) db).consumers.table.get row.1.pk = none
  rw [get_deleteConsumers h, hget, Option.filter_some, if_neg (by simpa using hcluster)]

theorem preflight_ok {cluster : Nat} {actor : Option Nat} {now : Nat} {db : Db} {p : ReleasePreflight}
    (h : releasePreflight order signer cluster actor now db = .ok p) (hne : p.consumers ≠ []) :
    consumerSnapshot order p.cluster.pk p.cluster.key db = .ok p.consumers ∧
      p.confirmation = signer.dumps (confirmationFields signer p.cluster actor p.consumers) now := by
  unfold releasePreflight at h
  obtain ⟨current, -, h⟩ := except_bind_ok.mp h
  obtain ⟨_, -, h⟩ := except_bind_ok.mp h
  obtain ⟨cs, hcs, h⟩ := except_bind_ok.mp h
  cases h
  exact ⟨hcs, if_neg hne⟩

theorem releasePreflight_of {cluster : Nat} {actor : Option Nat} {now : Nat} {db : Db} {current : Clusters.ProxmoxCluster}
    {cs : List StorageConsumerRelationship} (hget : db.clusters.get cluster = some current) (hlive : current.retiredAt = none)
    (hcs : consumerSnapshot order current.pk current.key db = .ok cs) (hne : cs ≠ []) :
    releasePreflight order signer cluster actor now db =
      .ok ⟨current, cs, signer.dumps (confirmationFields signer current actor cs) now⟩ := by
  have hensure : ensure current.retiredAt.isNone clusterRetired = .ok () := by rw [hlive]; rfl
  rw [releasePreflight, orRaise_ok.mpr hget]
  simp only [bind, Except.bind, hensure, hcs, if_neg hne]
  rfl

theorem World.Inv.step (hs : signer.Sound) {w w' : World} (hw : w.Inv order signer) (h : Step order signer w w') : w'.Inv order signer := by
  cases h with
  | @issue cluster actor now p hp hne =>
    obtain ⟨hsnapshot, htoken⟩ := preflight_ok hp hne
    constructor
    · intro i hi
      rcases List.mem_append.mp hi with hi | hi
      · exact hw.issued i hi
      · rw [List.mem_singleton.mp hi]
        exact ⟨hne, hsnapshot, now, htoken⟩
    · intro token hspent
      obtain ⟨i, hi, hsame, hgone⟩ := hw.spent token hspent
      exact ⟨i, List.mem_append_left _ hi, hsame, hgone⟩
  | change hkeys =>
    refine ⟨hw.issued, fun token htoken => ?_⟩
    obtain ⟨i, hi, hsame, hspent⟩ := hw.spent token htoken
    exact ⟨i, hi, hsame, spent_of_noKeyTwice hkeys hspent⟩
  | @release request now hunforged =>
    cases hr : releaseClusterStorageConsumers order signer request now w.db with
    | error e db =>
      rw [release_error hr]
      exact ⟨hw.issued, hw.spent⟩
    | ok result db =>
      obtain ⟨i, hi, htoken, -, -, current, -, hsnapshot, rfl⟩ := release_issued hs hw hunforged hr
      refine ⟨hw.issued, fun token hspent => ?_⟩
      rcases List.mem_append.mp hspent with hspent | hspent
      · obtain ⟨i', hi', hsame, hgone⟩ := hw.spent token hspent
        exact ⟨i', hi', hsame, spent_of_noKeyTwice noKeyTwice_release hgone⟩
      · exact ⟨i, hi, htoken.trans (List.mem_singleton.mp hspent).symm, spent_release hsnapshot⟩

/-- Nothing has been handed out yet; the database is any. -/
def World.Unissued (w : World) : Prop := w.issues = [] ∧ w.succeeded = []

theorem World.Unissued.inv {w : World} (h : w.Unissued) : w.Inv order signer :=
  ⟨fun _ hi => absurd (h.1 ▸ hi) List.not_mem_nil, fun _ ht => absurd (h.2 ▸ ht) List.not_mem_nil⟩

theorem inv_of_run (hs : signer.Sound) {w₀ w : World} (h₀ : w₀.Unissued) (hrun : Relation.ReflTransGen (Step order signer) w₀ w) :
    w.Inv order signer := by
  induction hrun with
  | refl => exact h₀.inv
  | tail _ hstep ih => exact ih.step hs hstep

/-- A confirmation whose consumers are gone is of no use. -/
theorem not_succeeded (hs : signer.Sound) {w : World} (hw : w.Inv order signer) {i : Issue} (hi : i ∈ w.issues) {cluster : Nat}
    {key : String} (hsnapshot : consumerSnapshot order cluster key w.db = .ok i.consumers) {now : Nat} {read : Json}
    (hread : signer.loads i.token now = some read) : i.token ∉ w.succeeded := by
  intro hspent
  obtain ⟨i', hi', hsame, hgone⟩ := hw.spent i.token hspent
  obtain ⟨hne, -, issuedAt, hdumps⟩ := hw.issued i hi
  obtain ⟨-, -, issuedAt', hdumps'⟩ := hw.issued i' hi'
  have hfields : confirmationFields signer i.cluster i.actor i.consumers = confirmationFields signer i'.cluster i'.actor i'.consumers := by
    have hone := hs.reads _ _ _ _ (hdumps ▸ hread)
    have htwo := hs.reads _ _ _ _ (hdumps' ▸ hsame.symm ▸ hread)
    exact hone.symm.trans htwo
  have hconsumers : i.consumers = i'.consumers := by
    simp only [confirmationFields, Json.obj.injEq, List.cons.injEq, Prod.mk.injEq, Json.str.injEq] at hfields
    exact serialized_injective (hs.collisionFree hfields.2.2.2.2.2.1.2)
  obtain ⟨c, cs, hcons⟩ := List.exists_cons_of_ne_nil hne
  have hc : c ∈ i.consumers := hcons ▸ List.mem_cons_self
  obtain ⟨row, hrel, hrow⟩ := (mem_snapshot hsnapshot).1 c hc
  obtain ⟨r, hr, -⟩ := Option.bind_eq_some_iff.mp hrow
  rw [← (relationship_ok hrel).1, (hgone c (hconsumers ▸ hc)).2] at hr
  cases hr

/-- A release either raises and writes nothing, or deletes the consumers of its cluster and no others, which are then as
they were when the confirmation was handed out to the same operator; and it has not succeeded before. -/
inductive DeletesConfirmed (w : World) (request : ReleaseRequest) : EStateM.Result ReleaseError Db ReleaseResult → Prop
  | raised (e : ReleaseError) : DeletesConfirmed w request (.error e w.db)
  | deleted (result : ReleaseResult) (db : Db)
      (others : ∀ k, db.consumers.table.get k = (w.db.consumers.table.get k).filter (·.cluster != request.cluster.pk))
      (confirmed : ∃ i ∈ w.issues, i.token = request.confirmation ∧ i.actor = request.actor ∧ i.cluster.pk = request.cluster.pk ∧
        ∀ k, shownConsumers request.cluster.pk w.db k = shownConsumers request.cluster.pk i.db k)
      (unused : request.confirmation ∉ w.succeeded) : DeletesConfirmed w request (.ok result db)

theorem release_deletes_confirmed (hs : signer.Sound) {w₀ w : World} (h₀ : w₀.Unissued)
    (hrun : Relation.ReflTransGen (Step order signer) w₀ w) (request : ReleaseRequest) (now : Nat)
    (hunforged : signer.Unforged w.issues request.confirmation now) :
    DeletesConfirmed w request (releaseClusterStorageConsumers order signer request now w.db) := by
  have hw := inv_of_run hs h₀ hrun
  cases hr : releaseClusterStorageConsumers order signer request now w.db with
  | error e db => exact release_error hr ▸ .raised e
  | ok result db =>
    obtain ⟨i, hi, htoken, hactor, hcluster, current, hcurrent, hsnapshot, rfl⟩ := release_issued hs hw hunforged hr
    obtain ⟨read, hread⟩ : ∃ read, signer.loads i.token now = some read := by
      obtain ⟨payload, _, _, hpayload, -⟩ := release_ok hr
      rw [htoken]
      exact loadConfirmation_ok hpayload
    refine .deleted result _ (fun k => ?_) ⟨i, hi, htoken, hactor, hcluster, fun k => ?_⟩ (htoken ▸ not_succeeded hs hw hi hsnapshot hread)
    · exact hcurrent ▸ get_deleteConsumers hsnapshot k
    · rw [← hcurrent]
      exact shownConsumers_of_snapshot hsnapshot (hcurrent.trans hcluster.symm ▸ (hw.issued i hi).2.1) k

end

/-! ### One consumer -/

def labCluster : Clusters.ProxmoxCluster := { pk := 1, key := "lab" }

def labMount : MountRef := ⟨"6f1c1d7e-52a5-4d58-9d5c-0a4d3c7be9a1", by decide +kernel⟩

def labNode : NodeRef := ⟨"lab", "pve1", by decide +kernel⟩

def labConsumer : StorageConsumer :=
  { pk := 1, storage := 1, cluster := 1, expectedNodeName := labNode.node, lastGateStatus := "ok" }

def labDb : Db where
  clusters := ⟨[labCluster], by decide⟩
  mounts := ⟨[⟨1, labMount.mountKey, "nfs-lab", "NFS lab"⟩], by decide⟩
  consumers := ⟨⟨[labConsumer], by decide⟩, 2, by
    intro k r h
    rw [← Table.key_of_get h, List.mem_singleton.mp (Table.mem_of_get h)]
    decide⟩
  scans := .empty
  events := .empty
  mounted := by
    intro k r h
    rw [List.mem_singleton.mp (Table.mem_of_get h)]
    rfl

def labOrder : RowOrder := ⟨id, fun rows => .refl rows⟩

def labShown : StorageConsumerRelationship where
  pk := 1
  mountRef := labMount.serialize
  storageId := "nfs-lab"
  storageName := "NFS lab"
  nodeRef := labNode.serialize
  node := labNode.node
  lastObservedAt := none
  lastGateStatus := "ok"

def labPayload : Json :=
  .obj [("version", .int 1), ("cluster_pk", .int 1), ("cluster_key", .str "lab"), ("user_id", .str "7"),
    ("consumer_count", .int 1), ("consumer_digest", .str (serialized [labShown]))]

def isLabPayload : Json → Bool
  | .obj [(k₁, .int version), (k₂, .int pk), (k₃, .str key), (k₄, .str user), (k₅, .int count), (k₆, .str digest)] =>
    decide ([k₁, k₂, k₃, k₄, k₅, k₆] = tokenFields ∧ version = 1 ∧ pk = 1 ∧ key = "lab" ∧ user = "7" ∧ count = 1 ∧
      digest = serialized [labShown])
  | _ => false

theorem eq_labPayload {payload : Json} (h : isLabPayload payload = true) : payload = labPayload := by
  unfold isLabPayload at h
  split at h
  · simp only [tokenFields, decide_eq_true_eq, List.cons.injEq] at h
    obtain ⟨⟨rfl, rfl, rfl, rfl, rfl, rfl, -⟩, rfl, rfl, rfl, rfl, rfl, rfl⟩ := h
    rfl
  · cases h

/-- A signature over this one payload, and a digest that is the text itself. -/
def labSigner : Signer where
  dumps payload _ := if isLabPayload payload then "signed" else ""
  loads token _ := if token = "signed" then some labPayload else none
  hexdigest text := text

theorem labSigner_sound : labSigner.Sound where
  reads payload now later read h := by
    simp only [labSigner] at h
    split at h
    · next hlab =>
      split at h
      · rw [← Option.some.inj h, eq_labPayload hlab]
      · cases h
    · rw [if_neg (by decide)] at h
      cases h
  collisionFree := fun _ _ h => h

theorem labSnapshot : consumerSnapshot labOrder labCluster.pk labCluster.key labDb = .ok [labShown] := by
  have hmount : MountRef.make labMount.mountKey = .ok labMount := MountRef.make_self labMount
  have hnode : NodeRef.make labCluster.key labConsumer.expectedNodeName = .ok labNode := NodeRef.make_self labNode
  have hrel : relationship labCluster.key (labConsumer, ⟨1, labMount.mountKey, "nfs-lab", "NFS lab"⟩) = .ok labShown := by
    simp only [relationship, hmount, hnode]
    rfl
  have hjoined : labOrder.sort (joined labCluster.pk labDb) = [(labConsumer, ⟨1, labMount.mountKey, "nfs-lab", "NFS lab"⟩)] := rfl
  rw [consumerSnapshot, hjoined, List.mapM_cons, hrel]
  rfl

/-- The page the operator is shown, and what is sent from it. -/
def labPreflight : ReleasePreflight :=
  ⟨labCluster, [labShown], labSigner.dumps (confirmationFields labSigner labCluster (some 7) [labShown]) 0⟩

def labIssue : Issue := ⟨labPreflight.confirmation, some 7, labPreflight.cluster, labDb, labPreflight.consumers⟩

def labRequest : ReleaseRequest := ⟨labCluster, labPreflight.confirmation, some 7⟩

theorem release_deletes_confirmed_lab :
    DeletesConfirmed { db := labDb, issues := [labIssue] } labRequest
      (releaseClusterStorageConsumers labOrder labSigner labRequest 60 labDb) := by
  have hunissued : World.Unissued { db := labDb } := ⟨rfl, rfl⟩
  have hpreflight : releasePreflight labOrder labSigner 1 (some 7) 0 labDb = .ok labPreflight :=
    releasePreflight_of rfl rfl labSnapshot (List.cons_ne_nil _ _)
  have hissue : Step labOrder labSigner { db := labDb } { db := labDb, issues := [labIssue] } :=
    Step.issue hpreflight (List.cons_ne_nil _ _)
  exact release_deletes_confirmed labSigner_sound hunissued (.single hissue) labRequest 60
    fun _ _ => ⟨labIssue, List.mem_singleton_self _, rfl⟩

end PveHelper.Retirement.ConsumerRelease
