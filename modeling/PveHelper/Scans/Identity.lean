/-
Which cluster an endpoint speaks for, after `core/services/cluster_identity.py`
and `_verify_scan_cluster_identities` of `core/tasks.py`. A scan asks each
cluster's endpoints for the cluster CA until one answers, pins the answer on
first use and quarantines the cluster when it is not the pinned one. An answer
another managed cluster has pinned is a collision, which nothing in the scan
catches.

A provider stands as what it answers to each read, with no answer for an
error. A row of a node listing that is no object raises, and so does a fingerprint
that its column does not take; nothing in the scan catches these either. Every
endpoint row has a cluster, so the branches for a missing one are left out.
-/
import PveHelper.Guests.ScanReconcile

namespace PveHelper.Scans

open Lib Guests

/-- The identity columns of `ProxmoxCluster`, its scopes, and whether a
credential and a transport trust can be resolved for it. -/
structure IdentityCluster where
  pk : Nat
  key : String
  enabled : Bool := true
  retired : Bool := false
  transitionPending : Bool := false
  hasTransport : Bool := true
  discoveredCaUuid : String := ""
  discoveredCaFingerprint : String := ""
  ingestionQuarantined : Bool := false
  quarantineReason : String := ""
  quarantinedAt : Option Time := none

structure ProxmoxEndpoint where
  pk : Nat
  name : String
  cluster : Nat
  enabled : Bool := true
  lastHealthStatus : String := ""
deriving DecidableEq

/-- The stored connections; endpoint rows stand in the order of their names. -/
structure Fleet where
  clusters : Table IdentityCluster.pk
  endpoints : Table ProxmoxEndpoint.pk
  known : ∀ e ∈ endpoints.rows, (clusters.get e.cluster).isSome

/-! ## What a provider answers -/

/-- One entry of `certificates/info`. -/
structure Certificate where
  filename : String
  subject : String
  fingerprint : String

/-- `InventoryResult`. -/
structure InventoryResult where
  ok : Bool
  objects : List ProxmoxObject

/-- What `nodes` answers. -/
inductive NodesAnswer
  /-- An error, or no list. -/
  | unread
  /-- The names of the rows. -/
  | listed (names : List String)
  /-- A list that raises in its reader: a row is no object and is asked for its name all the same, or
  the one name in it does not go into a path (a lone surrogate, which no `String` holds). -/
  | broken
deriving DecidableEq

/-- The reads of one endpoint that a scan makes; those below `nodes/<node>` by node. -/
structure Client where
  nodes : NodesAnswer
  certificates : String → Option (List Certificate)
  inventory : String → InventoryResult

/-- `node_names` raises, or the path of the node it settles on. -/
def Client.broken (c : Client) : Bool := c.nodes = .broken

/-- The names of the listing that are not empty. -/
def Client.listedNames (c : Client) : List String :=
  match c.nodes with
  | .listed names => names.filter (· != "")
  | .unread | .broken => []

/-- `ProxmoxClient.node_names`, where it does not raise. -/
def Client.nodeNames (c : Client) (fallback : String) : List String :=
  let names := c.listedNames
  if names.isEmpty then if fallback = "" then [] else [fallback] else names

/-- `ProxmoxClient.discover_node_name`. -/
def Client.discoverNodeName (c : Client) (fallback : String) : String :=
  let names := c.nodeNames fallback
  if names.contains fallback then fallback
  else match names with
    | [name] => name
    | _ => fallback

/-! ## The cluster CA -/

/-- `ObservedClusterIdentity`; the UUID is a match of the pattern, so it is not empty. -/
structure ObservedClusterIdentity where
  caUuid : String
  caFingerprint : String
  named : caUuid ≠ ""

/-- Groups of hexadecimal digits with dashes between them, at the start of the text. -/
def hexGroups : List Nat → List Char → Option (List Char)
  | [], _ => some []
  | n :: ns, cs =>
    let group := cs.take n
    if group.length = n && group.all (fun c => c.isDigit || ('a' ≤ c && c ≤ 'f') || ('A' ≤ c && c ≤ 'F')) then
      match ns, cs.drop n with
      | [], _ => some group
      | _, '-' :: rest => (hexGroups ns rest).map (group ++ '-' :: ·)
      | _, _ => none
    else none

/-- `_CA_UUID_RE` at one place: `OU`, an equals sign between blanks, a UUID. -/
def caUuidHere (cs : List Char) : Option (List Char) :=
  match cs with
  | 'O' :: 'U' :: rest => match rest.dropWhile Text.isSpace with
    | '=' :: value => hexGroups [8, 4, 4, 4, 12] (value.dropWhile Text.isSpace)
    | _ => none
  | _ => none

/-- `ca_uuid_in`. -/
def caUuidIn (distinguishedName : String) : String :=
  match distinguishedName.toList.tails.findSome? caUuidHere with
  | some uuid => Text.lower (String.ofList uuid)
  | none => ""

/-- `discover_cluster_identity`, with `extract_root_ca`. -/
def discoverClusterIdentity (c : Client) (node : String) : Option ObservedClusterIdentity :=
  (c.certificates node).bind fun entries =>
    (entries.find? fun e => e.filename == "pve-root-ca.pem").bind fun rootCa =>
      let uuid := caUuidIn rootCa.subject
      if h : uuid = "" then none else some ⟨uuid, Text.strip rootCa.fingerprint, h⟩

/-- What an endpoint reports when it is asked for its cluster's identity. -/
def reportedIdentity (answers : Nat → Client) (e : ProxmoxEndpoint) : Option ObservedClusterIdentity :=
  if (answers e.pk).broken then none
  else discoverClusterIdentity (answers e.pk) ((answers e.pk).discoverNodeName e.name)

/-- `_health_rank`. -/
def healthRank (status : String) : Nat := if status = "ok" then 0 else if status = "" then 1 else 2

/-- `enabled_endpoints`: by health, then by name. -/
def enabledEndpoints (endpoints : List ProxmoxEndpoint) (pk : Nat) : List ProxmoxEndpoint :=
  let es := endpoints.filter fun e => e.cluster == pk && e.enabled
  [0, 1, 2].flatMap fun rank => es.filter fun e => healthRank e.lastHealthStatus == rank

/-- `observe_cluster_identity`: the first answer; nothing when no endpoint has one. -/
def observeClusterIdentity (endpoints : List ProxmoxEndpoint) (answers : Nat → Client) (pk : Nat) :
    Option ObservedClusterIdentity :=
  (enabledEndpoints endpoints pk).findSome? (reportedIdentity answers)

/-- `observe_cluster_identity` raises: a broken node listing is asked for before any endpoint has
reported. -/
def observeRaises (endpoints : List ProxmoxEndpoint) (answers : Nat → Client) (pk : Nat) : Bool :=
  ((enabledEndpoints endpoints pk).find? fun e => (answers e.pk).broken || (reportedIdentity answers e).isSome).any
    fun e => (answers e.pk).broken

/-! ## Pinning -/

/-- `_assert_ca_uuid_is_unclaimed` fails. -/
def claimed (clusters : Table IdentityCluster.pk) (pk : Nat) (uuid : String) : Bool :=
  clusters.rows.any fun c => !c.retired && c.discoveredCaUuid == uuid && c.pk != pk

inductive IdentityVerdict
  | bound | matched | mismatch
deriving DecidableEq

/-- `verify_or_bind_identity` past the check for a claim: the verdict, and the row it saves. -/
def IdentityCluster.verifyOrBind (c : IdentityCluster) (observed : ObservedClusterIdentity) (now : Time) :
    IdentityVerdict × IdentityCluster :=
  if c.discoveredCaUuid = "" then
    (.bound, { c with
      discoveredCaUuid := observed.caUuid
      discoveredCaFingerprint := observed.caFingerprint
      ingestionQuarantined := false
      quarantineReason := ""
      quarantinedAt := none })
  else if observed.caUuid ≠ c.discoveredCaUuid then
    let reason := "Endpoint reported cluster CA " ++ observed.caUuid ++ " but '" ++ c.key ++ "' is pinned to " ++
      c.discoveredCaUuid ++ ". Ingestion halted pending re-approval."
    (.mismatch, { c with
      ingestionQuarantined := true
      quarantineReason := String.ofList (reason.toList.take 255)
      quarantinedAt := some now })
  else if observed.caFingerprint ≠ "" ∧ observed.caFingerprint ≠ c.discoveredCaFingerprint then
    (.matched, { c with discoveredCaFingerprint := observed.caFingerprint })
  else (.matched, c)

/-- The fingerprint's column takes the text. -/
def fitsFingerprint (fingerprint : String) : Bool := fingerprint.length ≤ 200 && Text.storable fingerprint

/-- The fingerprint that is saved, if one is, fits its column. -/
def IdentityCluster.takes (c : IdentityCluster) (observed : ObservedClusterIdentity) : Bool :=
  c.discoveredCaUuid != "" && observed.caUuid != c.discoveredCaUuid ||
    observed.caFingerprint == c.discoveredCaFingerprint || fitsFingerprint observed.caFingerprint

/-- The clusters in the order in which their first endpoint comes up. -/
def clusterTurns (seen : List Nat) : List ProxmoxEndpoint → List Nat
  | [] => []
  | e :: es => if e.cluster ∈ seen then clusterTurns seen es else e.cluster :: clusterTurns (e.cluster :: seen) es

section
variable (endpoints : List ProxmoxEndpoint) (answers : Nat → Client) (now : Time)

/-- One cluster's turn: whether it joins the quarantined ones, and the rows
after it. Nothing when `client_for_endpoint`, a node listing, the claim check or the save raises. -/
def verifyTurn (clusters : Table IdentityCluster.pk) (pk : Nat) : Option (Bool × Table IdentityCluster.pk) :=
  (clusters.get pk).bind fun c =>
    if !c.hasTransport && !(enabledEndpoints endpoints pk).isEmpty then none
    else if observeRaises endpoints answers pk then none
    else match observeClusterIdentity endpoints answers pk with
      | none => some (false, clusters)
      | some observed =>
        if claimed clusters pk observed.caUuid || !c.takes observed then none
        else
          let outcome := c.verifyOrBind observed now
          some (outcome.1 == .mismatch, clusters.put outcome.2)

/-- The turns one after the other; the rows saved so far stay when one raises. -/
def verifyTurns (clusters : Table IdentityCluster.pk) : List Nat → Table IdentityCluster.pk × Option (List Nat)
  | [] => (clusters, some [])
  | pk :: pks => match verifyTurn endpoints answers now clusters pk with
    | none => (clusters, none)
    | some (bad, clusters') =>
      let rest := verifyTurns clusters' pks
      (rest.1, rest.2.map fun quarantined => if bad then pk :: quarantined else quarantined)

end

/-- `_verify_scan_cluster_identities` over some of the stored endpoints: the
rows after it, and the quarantined clusters unless it raised. -/
def verifyScanClusterIdentities (fleet : Fleet) (answers : Nat → Client) (now : Time)
    (scanned : List ProxmoxEndpoint) : Table IdentityCluster.pk × Option (List Nat) :=
  verifyTurns fleet.endpoints.rows answers now fleet.clusters (clusterTurns [] scanned)

/-! ## The turns -/

theorem mem_clusterTurns {seen : List Nat} {es : List ProxmoxEndpoint} {pk : Nat} :
    pk ∈ clusterTurns seen es ↔ pk ∉ seen ∧ ∃ e ∈ es, e.cluster = pk := by
  induction es generalizing seen with
  | nil => simp [clusterTurns]
  | cons e es ih =>
    unfold clusterTurns
    by_cases hs : e.cluster ∈ seen
    · rw [if_pos hs, ih]
      refine and_congr_right fun hpk => ?_
      have hne : e.cluster ≠ pk := fun he => hpk (he ▸ hs)
      simp [hne]
    · rw [if_neg hs, List.mem_cons, ih]
      by_cases he : pk = e.cluster
      · simp [he, hs]
      · simp [he, Ne.symm he]

theorem nodup_clusterTurns (seen : List Nat) (es : List ProxmoxEndpoint) : (clusterTurns seen es).Nodup := by
  induction es generalizing seen with
  | nil => exact List.nodup_nil
  | cons e es ih =>
    unfold clusterTurns
    by_cases hs : e.cluster ∈ seen
    · rw [if_pos hs]
      exact ih seen
    · rw [if_neg hs, List.nodup_cons]
      refine ⟨?_, ih _⟩
      intro hm
      exact (mem_clusterTurns.mp hm).1 (List.mem_cons_self ..)

theorem claimed_iff {clusters : Table IdentityCluster.pk} {pk : Nat} {uuid : String} :
    claimed clusters pk uuid = true ↔
      ∃ j c, clusters.get j = some c ∧ c.retired = false ∧ c.discoveredCaUuid = uuid ∧ j ≠ pk := by
  rw [claimed, Table.any_rows]
  simp only [Bool.and_eq_true, Bool.not_eq_true', beq_iff_eq, bne_iff_ne, and_assoc]
  constructor
  · intro h
    obtain ⟨j, c, hc, hr, hu, hne⟩ := h
    exact ⟨j, c, hc, hr, hu, Table.key_of_get hc ▸ hne⟩
  · intro h
    obtain ⟨j, c, hc, hr, hu, hne⟩ := h
    exact ⟨j, c, hc, hr, hu, (Table.key_of_get hc).symm ▸ hne⟩

/-- The cluster's observed CA is not the one it has pinned. -/
def IdentityCluster.Differs (c : IdentityCluster) (observed : Option ObservedClusterIdentity) : Prop :=
  c.discoveredCaUuid ≠ "" ∧ ∃ id, observed = some id ∧ id.caUuid ≠ c.discoveredCaUuid

/-- The row after a turn that did not raise. -/
def IdentityCluster.verified (c : IdentityCluster) (observed : Option ObservedClusterIdentity) (now : Time) :
    IdentityCluster :=
  match observed with
  | none => c
  | some id => (c.verifyOrBind id now).2

/-- What of a row a turn leaves alone. -/
theorem verifyOrBind_kept (c : IdentityCluster) (id : ObservedClusterIdentity) (now : Time) :
    (c.verifyOrBind id now).2.pk = c.pk ∧ (c.verifyOrBind id now).2.retired = c.retired ∧
      (c.verifyOrBind id now).2.hasTransport = c.hasTransport := by
  unfold IdentityCluster.verifyOrBind
  split
  · exact ⟨rfl, rfl, rfl⟩
  split
  · exact ⟨rfl, rfl, rfl⟩
  split <;> exact ⟨rfl, rfl, rfl⟩

/-- A pin stays; an empty one takes the observed UUID. -/
theorem verifyOrBind_pin (c : IdentityCluster) (id : ObservedClusterIdentity) (now : Time) :
    (c.verifyOrBind id now).2.discoveredCaUuid = if c.discoveredCaUuid = "" then id.caUuid else c.discoveredCaUuid := by
  unfold IdentityCluster.verifyOrBind
  by_cases hpin : c.discoveredCaUuid = ""
  · rw [if_pos hpin, if_pos hpin]
  · rw [if_neg hpin, if_neg hpin]
    split
    · rfl
    · split <;> rfl

theorem verifyOrBind_mismatch_iff {c : IdentityCluster} {id : ObservedClusterIdentity} {now : Time} :
    (c.verifyOrBind id now).1 = .mismatch ↔ c.Differs (some id) := by
  unfold IdentityCluster.verifyOrBind IdentityCluster.Differs
  by_cases hpin : c.discoveredCaUuid = ""
  · simp [hpin]
  · by_cases hsame : id.caUuid = c.discoveredCaUuid
    · have hif : ∀ p : Prop, [Decidable p] → ∀ a b : IdentityCluster,
          (if p then (IdentityVerdict.matched, a) else (.matched, b)).1 = .matched := by
        intro p _ a b
        split <;> rfl
      rw [if_neg hpin, if_neg (not_not.mpr hsame), hif]
      simp [hsame]
    · simp [hpin, hsame]

theorem verifyOrBind_flags {c : IdentityCluster} {id : ObservedClusterIdentity} {now : Time}
    (h : c.Differs (some id)) : (c.verifyOrBind id now).2.ingestionQuarantined = true := by
  obtain ⟨hpin, id', he, hne⟩ := h
  obtain rfl := Option.some.inj he
  simp [IdentityCluster.verifyOrBind, hpin, hne]

section
variable {endpoints : List ProxmoxEndpoint} {answers : Nat → Client} {now : Time}

/-- A turn that does not raise rewrites its own row, by that row and its own endpoints' answer. -/
theorem verifyTurn_get {clusters clusters' : Table IdentityCluster.pk} {pk : Nat} {bad : Bool}
    (h : verifyTurn endpoints answers now clusters pk = some (bad, clusters')) :
    ∃ c, clusters.get pk = some c ∧ (bad = true ↔ c.Differs (observeClusterIdentity endpoints answers pk)) ∧
      ∀ k, clusters'.get k = if k = pk then some (c.verified (observeClusterIdentity endpoints answers pk) now)
        else clusters.get k := by
  simp only [verifyTurn, Option.bind_eq_some_iff] at h
  obtain ⟨c, hc, h⟩ := h
  refine ⟨c, hc, ?_⟩
  split at h
  · cases h
  split at h
  · cases h
  cases ho : observeClusterIdentity endpoints answers pk with
  | none =>
    rw [ho] at h
    simp only [Option.some.injEq, Prod.mk.injEq] at h
    obtain ⟨rfl, rfl⟩ := h
    refine ⟨by simp [IdentityCluster.Differs], fun k => ?_⟩
    by_cases hk : k = pk
    · rw [if_pos hk, hk, hc]
      rfl
    · rw [if_neg hk]
  | some id =>
    rw [ho] at h
    simp only at h
    split at h
    · cases h
    simp only [Option.some.injEq, Prod.mk.injEq] at h
    obtain ⟨rfl, rfl⟩ := h
    refine ⟨by rw [beq_iff_eq, verifyOrBind_mismatch_iff], fun k => ?_⟩
    have hpk : (c.verifyOrBind id now).2.pk = pk := (verifyOrBind_kept c id now).1.trans (Table.key_of_get hc)
    rw [Table.get_put, hpk]
    rfl

variable (endpoints answers) in
/-- No turn raises: every cluster can be reached, no node listing that is asked for is broken, no
observed CA is pinned by another managed cluster, be it from before or by an earlier turn, and every
fingerprint that is saved fits its column. -/
structure Clear (clusters : Table IdentityCluster.pk) (turns : List Nat) : Prop where
  reachable : ∀ k ∈ turns, ∀ c, clusters.get k = some c → c.hasTransport = true ∨ enabledEndpoints endpoints k = []
  listed : ∀ k ∈ turns, observeRaises endpoints answers k = false
  saved : ∀ k ∈ turns, ∀ c id, clusters.get k = some c → observeClusterIdentity endpoints answers k = some id →
    c.takes id = true
  unpinned : ∀ k ∈ turns, ∀ id, observeClusterIdentity endpoints answers k = some id → ∀ j c, clusters.get j = some c →
    c.retired = false → j ≠ k → c.discoveredCaUuid ≠ id.caUuid
  unbound : turns.Pairwise fun j k => ∀ c idj idk, clusters.get j = some c → c.retired = false →
    c.discoveredCaUuid = "" → observeClusterIdentity endpoints answers j = some idj →
    observeClusterIdentity endpoints answers k = some idk → idj.caUuid ≠ idk.caUuid

variable (now) in
theorem verifyTurn_isSome_iff {clusters : Table IdentityCluster.pk} {pk : Nat} {c : IdentityCluster}
    (hc : clusters.get pk = some c) :
    (verifyTurn endpoints answers now clusters pk).isSome = true ↔
      (c.hasTransport = true ∨ enabledEndpoints endpoints pk = []) ∧ observeRaises endpoints answers pk = false ∧
        (∀ id, observeClusterIdentity endpoints answers pk = some id → c.takes id = true) ∧
        ∀ id, observeClusterIdentity endpoints answers pk = some id → ∀ j c, clusters.get j = some c →
          c.retired = false → j ≠ pk → c.discoveredCaUuid ≠ id.caUuid := by
  have hreach : (!c.hasTransport && !(enabledEndpoints endpoints pk).isEmpty) = false ↔
      c.hasTransport = true ∨ enabledEndpoints endpoints pk = [] := by
    cases c.hasTransport <;> simp
  simp only [verifyTurn, hc, Option.bind_some]
  by_cases hr : (!c.hasTransport && !(enabledEndpoints endpoints pk).isEmpty) = true
  · rw [if_pos hr]
    have hn := mt hreach.mpr (by rw [hr]; exact Bool.noConfusion)
    simp [hn]
  · rw [if_neg hr, and_iff_right (hreach.mp (by simpa using hr))]
    cases hraises : observeRaises endpoints answers pk with
    | true => simp
    | false =>
      rw [if_neg Bool.false_ne_true, and_iff_right rfl]
      cases ho : observeClusterIdentity endpoints answers pk with
      | none => simp
      | some id =>
        simp only [Option.some.injEq, forall_eq']
        by_cases hcl : claimed clusters pk id.caUuid = true
        · obtain ⟨j, cj, hj, hret, hu, hne⟩ := claimed_iff.mp hcl
          simp only [hcl, Bool.true_or, if_true, Option.isSome_none, Bool.false_eq_true, false_iff]
          exact fun h => h.2 j cj hj hret hne hu
        · have hfree : ∀ j c, clusters.get j = some c → c.retired = false → j ≠ pk → c.discoveredCaUuid ≠ id.caUuid :=
            fun j cj hj hret hne hu => hcl (claimed_iff.mpr ⟨j, cj, hj, hret, hu, hne⟩)
          rw [and_iff_left hfree]
          cases c.takes id <;> simp [hcl]

variable (now) in
/-- The rows after a turn: the others are as before, its own keeps its scope
and takes the observed UUID where none was pinned. -/
theorem verified_row (c : IdentityCluster) (observed : Option ObservedClusterIdentity) :
    (c.verified observed now).retired = c.retired ∧ (c.verified observed now).hasTransport = c.hasTransport ∧
      (c.discoveredCaUuid ≠ "" → (c.verified observed now).discoveredCaUuid = c.discoveredCaUuid) ∧
      ∀ id, observed = some id → c.discoveredCaUuid = "" → (c.verified observed now).discoveredCaUuid = id.caUuid := by
  cases observed with
  | none => exact ⟨rfl, rfl, fun _ => rfl, fun id he => by cases he⟩
  | some id =>
    obtain ⟨-, hret, htr⟩ := verifyOrBind_kept c id now
    refine ⟨hret, htr, fun hpin => ?_, fun id' he hpin => ?_⟩
    · exact (verifyOrBind_pin c id now).trans (if_neg hpin)
    · obtain rfl := Option.some.inj he
      exact (verifyOrBind_pin c id now).trans (if_pos hpin)

/-- A first turn that does not raise leaves the question of the others to the rows after it. -/
theorem clear_cons_iff {clusters clusters' : Table IdentityCluster.pk} {pk : Nat} {pks : List Nat} {bad : Bool}
    (hn : (pk :: pks).Nodup) (h : verifyTurn endpoints answers now clusters pk = some (bad, clusters')) :
    Clear endpoints answers clusters (pk :: pks) ↔ Clear endpoints answers clusters' pks := by
  obtain ⟨c, hc, -, hget⟩ := verifyTurn_get h
  have hturn := (verifyTurn_isSome_iff now hc).mp (by rw [h]; rfl)
  obtain ⟨hret, htr, hkeep, hbind⟩ := verified_row now c (observeClusterIdentity endpoints answers pk)
  have hself : clusters'.get pk = some (c.verified (observeClusterIdentity endpoints answers pk) now) := by
    rw [hget, if_pos rfl]
  have hother : ∀ k, k ≠ pk → clusters'.get k = clusters.get k := by
    intro k hk
    rw [hget, if_neg hk]
  have hne : ∀ k ∈ pks, k ≠ pk := by
    intro k hk he
    exact (List.nodup_cons.mp hn).1 (he ▸ hk)
  constructor
  · intro hcl
    obtain ⟨hfirst, hrest⟩ := List.pairwise_cons.mp hcl.unbound
    refine ⟨?_, ?_, ?_, ?_, hrest.imp_of_mem ?_⟩
    · intro k hk ck hck
      rw [hother k (hne k hk)] at hck
      exact hcl.reachable k (List.mem_cons_of_mem _ hk) ck hck
    · exact fun k hk => hcl.listed k (List.mem_cons_of_mem _ hk)
    · intro k hk ck id hck hid
      rw [hother k (hne k hk)] at hck
      exact hcl.saved k (List.mem_cons_of_mem _ hk) ck id hck hid
    · intro k hk id hid j cj hcj hretj hjk
      by_cases hj : j = pk
      · subst hj
        rw [hself] at hcj
        obtain rfl := Option.some.inj hcj
        rw [hret] at hretj
        by_cases hpin : c.discoveredCaUuid = ""
        · cases ho : observeClusterIdentity endpoints answers j with
          | none => exact fun he => id.named (he.symm.trans hpin)
          | some idj =>
            rw [← ho, hbind idj ho hpin]
            exact hfirst k hk c idj id hc hretj hpin ho hid
        · rw [hkeep hpin]
          exact hcl.unpinned k (List.mem_cons_of_mem _ hk) id hid j c hc hretj hjk
      · rw [hother j hj] at hcj
        exact hcl.unpinned k (List.mem_cons_of_mem _ hk) id hid j cj hcj hretj hjk
    · intro j k hj _ hp cj idj idk hcj
      rw [hother j (hne j hj)] at hcj
      exact hp cj idj idk hcj
  · intro hcl
    refine ⟨?_, ?_, ?_, ?_, List.pairwise_cons.mpr ⟨?_, hcl.unbound.imp_of_mem ?_⟩⟩
    · intro k hk ck hck
      rcases List.mem_cons.mp hk with rfl | hk
      · rw [hc] at hck
        obtain rfl := Option.some.inj hck
        exact hturn.1
      · exact hcl.reachable k hk ck ((hother k (hne k hk)).trans hck)
    · intro k hk
      rcases List.mem_cons.mp hk with rfl | hk
      · exact hturn.2.1
      · exact hcl.listed k hk
    · intro k hk ck id hck hid
      rcases List.mem_cons.mp hk with rfl | hk
      · rw [hc] at hck
        obtain rfl := Option.some.inj hck
        exact hturn.2.2.1 id hid
      · exact hcl.saved k hk ck id ((hother k (hne k hk)).trans hck) hid
    · intro k hk id hid j cj hcj hretj hjk
      rcases List.mem_cons.mp hk with rfl | hmem
      · exact hturn.2.2.2 id hid j cj hcj hretj hjk
      · by_cases hj : j = pk
        · subst hj
          rw [hc] at hcj
          obtain rfl := Option.some.inj hcj
          by_cases hpin : c.discoveredCaUuid = ""
          · rw [hpin]
            exact id.named.symm
          · rw [← hkeep hpin]
            exact hcl.unpinned k hmem id hid j _ hself (hret.trans hretj) hjk
        · exact hcl.unpinned k hmem id hid j cj ((hother j hj).trans hcj) hretj hjk
    · intro k hk cj idj idk hcj hretj hpin hidj hidk
      rw [hc] at hcj
      obtain rfl := Option.some.inj hcj
      rw [← hbind idj hidj hpin]
      exact hcl.unpinned k hk idk hidk pk _ hself (hret.trans hretj) (hne k hk).symm
    · intro j k hj _ hp cj idj idk hcj
      exact hp cj idj idk ((hother j (hne j hj)).trans hcj)

variable (endpoints answers now) in
/-- The turns end without an exception exactly when the way is clear. -/
theorem verifyTurns_isSome_iff {clusters : Table IdentityCluster.pk} {turns : List Nat} (hn : turns.Nodup)
    (hdb : ∀ k ∈ turns, (clusters.get k).isSome) :
    (verifyTurns endpoints answers now clusters turns).2.isSome = true ↔ Clear endpoints answers clusters turns := by
  induction turns generalizing clusters with
  | nil => exact iff_of_true rfl ⟨by simp, by simp, by simp, by simp, List.Pairwise.nil⟩
  | cons pk pks ih =>
    obtain ⟨c, hc⟩ := Option.isSome_iff_exists.mp (hdb pk (List.mem_cons_self ..))
    unfold verifyTurns
    cases hv : verifyTurn endpoints answers now clusters pk with
    | none =>
      refine iff_of_false (by simp) ?_
      intro hcl
      have := (verifyTurn_isSome_iff now hc).mpr
        ⟨hcl.reachable pk (List.mem_cons_self ..) c hc, hcl.listed pk (List.mem_cons_self ..),
          fun id hid => hcl.saved pk (List.mem_cons_self ..) c id hc hid, hcl.unpinned pk (List.mem_cons_self ..)⟩
      rw [hv] at this
      cases this
    | some out =>
      obtain ⟨bad, clusters'⟩ := out
      have hdb' : ∀ k ∈ pks, (clusters'.get k).isSome := by
        intro k hk
        obtain ⟨c₁, -, -, hget⟩ := verifyTurn_get hv
        rw [hget]
        split
        · rfl
        · exact hdb k (List.mem_cons_of_mem _ hk)
      rw [clear_cons_iff hn hv, ← ih (List.nodup_cons.mp hn).2 hdb', Option.isSome_map]

variable (endpoints answers now) in
/-- However the turns end, a row is as it was or as its own turn left it. -/
theorem verifyTurns_get (clusters : Table IdentityCluster.pk) {turns : List Nat} (hn : turns.Nodup) (k : Nat) :
    (verifyTurns endpoints answers now clusters turns).1.get k = clusters.get k ∨
      (k ∈ turns ∧ (verifyTurns endpoints answers now clusters turns).1.get k =
        (clusters.get k).map (·.verified (observeClusterIdentity endpoints answers k) now)) := by
  induction turns generalizing clusters with
  | nil => exact .inl rfl
  | cons pk pks ih =>
    unfold verifyTurns
    cases hv : verifyTurn endpoints answers now clusters pk with
    | none => exact .inl rfl
    | some out =>
      obtain ⟨bad, clusters'⟩ := out
      obtain ⟨c, hc, -, hget⟩ := verifyTurn_get hv
      have hn' := List.nodup_cons.mp hn
      rcases ih clusters' hn'.2 with hsame | ⟨hm, hrow⟩
      · by_cases hk : k = pk
        · refine .inr ⟨hk ▸ List.mem_cons_self .., ?_⟩
          rw [hsame, hget, if_pos hk, hk, hc]
          rfl
        · refine .inl ?_
          rw [hsame, hget, if_neg hk]
      · have hk : k ≠ pk := fun he => hn'.1 (he ▸ hm)
        rw [hget, if_neg hk] at hrow
        exact .inr ⟨List.mem_cons_of_mem _ hm, hrow⟩

/-- Turns that all end: each verdict and each row follow from the row before
and that cluster's own observation. -/
theorem verifyTurns_some {clusters : Table IdentityCluster.pk} {turns quarantined : List Nat} (hn : turns.Nodup)
    (h : (verifyTurns endpoints answers now clusters turns).2 = some quarantined) :
    (∀ k ∈ quarantined, k ∈ turns) ∧ ∀ k ∈ turns, ∃ c, clusters.get k = some c ∧
      (k ∈ quarantined ↔ c.Differs (observeClusterIdentity endpoints answers k)) ∧
      (verifyTurns endpoints answers now clusters turns).1.get k =
        some (c.verified (observeClusterIdentity endpoints answers k) now) := by
  induction turns generalizing clusters quarantined with
  | nil =>
    obtain rfl := Option.some.inj h
    exact ⟨by simp, by simp⟩
  | cons pk pks ih =>
    unfold verifyTurns at h ⊢
    cases hv : verifyTurn endpoints answers now clusters pk with
    | none =>
      rw [hv] at h
      cases h
    | some out =>
      obtain ⟨bad, clusters'⟩ := out
      rw [hv] at h
      obtain ⟨qs, hqs, rfl⟩ := Option.map_eq_some_iff.mp h
      obtain ⟨c, hc, hbad, hget⟩ := verifyTurn_get hv
      have hn' := List.nodup_cons.mp hn
      obtain ⟨hsub, hrows⟩ := ih hn'.2 hqs
      have hmem : ∀ k, k ∈ (if bad = true then pk :: qs else qs) ↔ (bad = true ∧ k = pk) ∨ k ∈ qs := by
        intro k
        split <;> rename_i hb <;> simp [hb]
      refine ⟨?_, ?_⟩
      · intro k hk
        rcases (hmem k).mp hk with ⟨-, rfl⟩ | hk
        · exact List.mem_cons_self ..
        · exact List.mem_cons_of_mem _ (hsub k hk)
      · intro k hk
        rcases List.mem_cons.mp hk with rfl | hk
        · have hnot : k ∉ qs := fun hq => hn'.1 (hsub k hq)
          refine ⟨c, hc, ?_, ?_⟩
          · rw [hmem, ← hbad]
            simp [hnot]
          · rcases verifyTurns_get endpoints answers now clusters' hn'.2 k with hsame | ⟨hin, -⟩
            · rw [hget, if_pos rfl] at hsame
              exact hsame
            · exact absurd hin hn'.1
        · have hne : k ≠ pk := fun he => hn'.1 (he ▸ hk)
          obtain ⟨ck, hck, hq, hrow⟩ := hrows k hk
          rw [hget, if_neg hne] at hck
          refine ⟨ck, hck, ?_, hrow⟩
          rw [hmem, ← hq]
          simp [hne]

end

/-! ## Faults stay with their cluster -/

theorem mem_enabledEndpoints {endpoints : List ProxmoxEndpoint} {pk : Nat} {e : ProxmoxEndpoint} :
    e ∈ enabledEndpoints endpoints pk ↔ e ∈ endpoints ∧ e.cluster = pk ∧ e.enabled = true := by
  have hrank : ∃ rank ∈ [0, 1, 2], healthRank e.lastHealthStatus = rank := by
    unfold healthRank
    split
    · exact ⟨0, by simp, rfl⟩
    · split
      · exact ⟨1, by simp, rfl⟩
      · exact ⟨2, by simp, rfl⟩
  simp only [enabledEndpoints, List.mem_flatMap, List.mem_filter, Bool.and_eq_true, beq_iff_eq]
  constructor
  · intro h
    obtain ⟨-, -, he, -⟩ := h
    exact he
  · intro he
    obtain ⟨rank, hr, hrank⟩ := hrank
    exact ⟨rank, hr, he, hrank⟩

/-- A cluster's identity is observed through its own endpoints only. -/
theorem observeClusterIdentity_congr {endpoints : List ProxmoxEndpoint} {answers answers' : Nat → Client} {pk : Nat}
    (h : ∀ e ∈ endpoints, e.cluster = pk → answers' e.pk = answers e.pk) :
    observeClusterIdentity endpoints answers' pk = observeClusterIdentity endpoints answers pk := by
  have hes : ∀ es : List ProxmoxEndpoint, (∀ e ∈ es, answers' e.pk = answers e.pk) →
      es.findSome? (reportedIdentity answers') = es.findSome? (reportedIdentity answers) := by
    intro es hes
    induction es with
    | nil => rfl
    | cons e es ih =>
      have he : reportedIdentity answers' e = reportedIdentity answers e := by
        unfold reportedIdentity
        rw [hes e (List.mem_cons_self ..)]
      rw [List.findSome?_cons, List.findSome?_cons, he, ih fun e' he' => hes e' (List.mem_cons_of_mem _ he')]
  refine hes _ fun e he => ?_
  obtain ⟨hm, hc, -⟩ := mem_enabledEndpoints.mp he
  exact h e hm hc

/-- The identity pass returns; every scanned cluster whose observed CA is not
the pinned one is in the result and flagged; and whether a cluster is in the
result is the same whatever the endpoints of the others answer. -/
def FaultsIsolated (fleet : Fleet) (answers : Nat → Client) (now : Time) (scanned : List ProxmoxEndpoint) : Prop :=
  ∃ quarantined, (verifyScanClusterIdentities fleet answers now scanned).2 = some quarantined ∧
    (∀ k c, (∃ e ∈ scanned, e.cluster = k) → fleet.clusters.get k = some c →
      c.Differs (observeClusterIdentity fleet.endpoints.rows answers k) →
      k ∈ quarantined ∧ ∃ c', (verifyScanClusterIdentities fleet answers now scanned).1.get k = some c' ∧
        c'.ingestionQuarantined = true) ∧
    ∀ k answers' quarantined', (∀ e ∈ fleet.endpoints.rows, e.cluster = k → answers' e.pk = answers e.pk) →
      (verifyScanClusterIdentities fleet answers' now scanned).2 = some quarantined' →
      (k ∈ quarantined' ↔ k ∈ quarantined)

/-- The clusters of stored endpoints are stored. -/
theorem Fleet.turns_known (fleet : Fleet) {scanned : List ProxmoxEndpoint}
    (hs : ∀ e ∈ scanned, e ∈ fleet.endpoints.rows) :
    ∀ k ∈ clusterTurns [] scanned, (fleet.clusters.get k).isSome := by
  intro k hk
  obtain ⟨-, e, he, rfl⟩ := mem_clusterTurns.mp hk
  exact fleet.known e (hs e he)

/-- **Identity faults stay with their cluster exactly when no turn raises**: every scanned cluster can be
reached, no node listing asked for is broken, no CA observed for one is pinned by another, and the
fingerprints that are saved fit. -/
theorem identity_faults_isolated_iff (fleet : Fleet) (answers : Nat → Client) (now : Time)
    (scanned : List ProxmoxEndpoint) (hs : ∀ e ∈ scanned, e ∈ fleet.endpoints.rows) :
    FaultsIsolated fleet answers now scanned ↔
      Clear fleet.endpoints.rows answers fleet.clusters (clusterTurns [] scanned) := by
  have hsome := verifyTurns_isSome_iff fleet.endpoints.rows answers now (nodup_clusterTurns [] scanned) (fleet.turns_known hs)
  constructor
  · intro h
    obtain ⟨quarantined, hq, -⟩ := h
    exact hsome.mp (Option.isSome_iff_exists.mpr ⟨quarantined, hq⟩)
  · intro hcl
    obtain ⟨quarantined, hq⟩ := Option.isSome_iff_exists.mp (hsome.mpr hcl)
    obtain ⟨hsub, hrows⟩ := verifyTurns_some (nodup_clusterTurns ..) hq
    refine ⟨quarantined, hq, ?_, ?_⟩
    · intro k c hk hc hdiff
      obtain ⟨c₁, hc₁, hin, hrow⟩ := hrows k (mem_clusterTurns.mpr ⟨by simp, hk⟩)
      rw [hc] at hc₁
      obtain rfl := Option.some.inj hc₁
      refine ⟨hin.mpr hdiff, _, hrow, ?_⟩
      have hdiff' := hdiff
      obtain ⟨-, id, hid, -⟩ := hdiff
      rw [hid] at hdiff' ⊢
      exact verifyOrBind_flags hdiff'
    · intro k answers' quarantined' hsame hq'
      obtain ⟨hsub', hrows'⟩ := verifyTurns_some (nodup_clusterTurns ..) hq'
      have hobs := observeClusterIdentity_congr hsame
      by_cases hk : k ∈ clusterTurns [] scanned
      · obtain ⟨c, hc, hin, -⟩ := hrows k hk
        obtain ⟨c', hc', hin', -⟩ := hrows' k hk
        rw [hc] at hc'
        obtain rfl := Option.some.inj hc'
        rw [hin, hin', hobs]
      · exact iff_of_false (fun h => hk (hsub' k h)) fun h => hk (hsub k h)

/-- An endpoint of one node that reports a CA and has no guest. -/
def reporting (node uuid : String) : Client where
  nodes := .listed [node]
  certificates := fun _ => some [⟨"pve-root-ca.pem", "OU=" ++ uuid ++ ",O=PVE Cluster Manager CA", "AA:BB"⟩]
  inventory := fun _ => ⟨true, []⟩

def uuidA : String := "aaaaaaaa-0000-0000-0000-000000000001"

def uuidB : String := "bbbbbbbb-0000-0000-0000-000000000002"

def uuidC : String := "cccccccc-0000-0000-0000-000000000003"

/-- Two pinned clusters with an endpoint each. -/
def twoClusters : Fleet where
  clusters := ⟨[{ pk := 1, key := "alpha", discoveredCaUuid := uuidA }, { pk := 2, key := "beta", discoveredCaUuid := uuidB }],
    by decide⟩
  endpoints := ⟨[⟨10, "pve1", 1, true, ""⟩, ⟨20, "pve2", 2, true, ""⟩], by decide⟩
  known := by decide

/-- The first cluster's endpoint was re-pointed at hardware nobody registered. -/
def repointedAway (pk : Nat) : Client := if pk = 10 then reporting "pve1" uuidC else reporting "pve2" uuidB

theorem repointedAway_isolated : FaultsIsolated twoClusters repointedAway 5 twoClusters.endpoints.rows := by
  refine (identity_faults_isolated_iff twoClusters repointedAway 5 _ fun e he => he).mpr ?_
  exact (verifyTurns_isSome_iff _ _ 5 (nodup_clusterTurns ..) (twoClusters.turns_known fun e he => he)).mp
    (by decide +kernel)

/-- The first cluster's endpoint was re-pointed at the second cluster. -/
def repointedAcross (pk : Nat) : Client := if pk = 10 then reporting "pve1" uuidB else reporting "pve2" uuidB

/-- The collision ends the pass, and the scan of both clusters with it. -/
theorem collision_ends_identity_pass : ¬ ∀ (fleet : Fleet) answers now scanned,
    (∀ e ∈ scanned, e ∈ fleet.endpoints.rows) → FaultsIsolated fleet answers now scanned := by
  intro h
  obtain ⟨quarantined, hq, -⟩ := h twoClusters repointedAcross 5 twoClusters.endpoints.rows fun e he => he
  have hnone : (verifyScanClusterIdentities twoClusters repointedAcross 5 twoClusters.endpoints.rows).2 = none := by
    decide +kernel
  rw [hnone] at hq
  cases hq

end PveHelper.Scans
