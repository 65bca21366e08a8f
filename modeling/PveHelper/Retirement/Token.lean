/-
The signed confirmation of a retirement and what it is held against, after
`_load_confirmation`, `validate_retirement_preflight` and `_forced_confirmation`
of `core/services/cluster_retirement.py`. The signature and the hash are
parameters.
-/
import PveHelper.Retirement.Finalizers

namespace PveHelper.Retirement

open Lib Scheduling

/-- `signing.loads` with the salt and maximal age of retirement at an instant, none where it
raises; and the hex digest of a snapshot's JSON text. -/
structure Signer where
  loads : String → Time → Option Json
  hexdigest : StorageImpact → String

/-- When the transaction reads the clock: twice to load the token, to compare its issue and
for the retirement itself. -/
structure Clock where
  loadedAt : Time
  validatedAt : Time
  comparedAt : Time
  retiredAt : Time

/-- What the operator sends. -/
structure RetirementRequest where
  confirmation : String
  actor : Option Nat := none
  reason : String := ""
  typedClusterKey : String := ""
  permanentUnavailabilityAsserted : Bool := false
  replacementCaUuid : String := ""

inductive RetirementError
  | preflightInvalid (message : String)
  | preflightChanged (message : String)
  | preflightNotAllowed (message : String)
  | confirmationRequired (message : String)
  | activeScan
  | blocked (blockerCode : String)
  | scheduledActionsBlocked
  | consolesBlocked
  | auditOperationsBlocked
  | storageImpactChanged (expectedDigest actualDigest : String)
  | storageConsumersBlock
  | postconditionFailed
  /-- An unhashable value looked up in a set. -/
  | typeError
deriving DecidableEq

/-! ## The token -/

def confirmationInvalid : RetirementError :=
  .preflightInvalid "This retirement confirmation is invalid or has expired. Run preflight again."

def connectionChanged : RetirementError :=
  .preflightChanged "The cluster connection changed after preflight. Run preflight again."

def tokenFields : List String :=
  ["version", "cluster_pk", "cluster_key", "mode", "endpoint_id", "pinned_ca_uuid", "lifecycle_generation",
    "credential_version", "trust_version", "storage_impact_digest", "issued_at", "identity_verification",
    "replacement_ca_uuid"]

inductive IdentityVerification
  | matched
  | skipped
  | supersededByVerifiedHandoff
deriving DecidableEq

structure ConfirmationPayload where
  clusterPk : Int
  clusterKey : String
  mode : String
  endpointId : Option Int
  pinnedCaUuid : String
  lifecycleGeneration : Int
  credentialVersion : String
  trustVersion : String
  storageImpactDigest : String
  issuedAt : Int
  identityVerification : IdentityVerification
  replacementCaUuid : String

def identityField (fields : Columns) : Except RetirementError IdentityVerification :=
  match Json.lookup fields "identity_verification" with
  | some (.str "matched") => .ok .matched
  | some (.str "skipped") => .ok .skipped
  | some (.str "superseded_by_verified_handoff") => .ok .supersededByVerifiedHandoff
  | some (.arr _) | some (.obj _) => .error .typeError
  | _ => .error confirmationInvalid

def endpointField (fields : Columns) : Except RetirementError (Option Int) :=
  match Json.lookup fields "endpoint_id" with
  | some (.int n) => .ok (some n)
  | none | some .null => .ok none
  | _ => .error confirmationInvalid

/-- The checks of `_load_confirmation` on an object, in its order. -/
def payloadOfFields (fields : Columns) : Except RetirementError ConfirmationPayload := do
  ensure (Json.hasKeys fields tokenFields && Json.isVersion fields 2) confirmationInvalid
  let clusterPk ← Json.intField confirmationInvalid fields "cluster_pk"
  let lifecycleGeneration ← Json.intField confirmationInvalid fields "lifecycle_generation"
  let issuedAt ← Json.intField confirmationInvalid fields "issued_at"
  let clusterKey ← Json.strField confirmationInvalid fields "cluster_key"
  let mode ← Json.strField confirmationInvalid fields "mode"
  let pinnedCaUuid ← Json.strField confirmationInvalid fields "pinned_ca_uuid"
  let credentialVersion ← Json.strField confirmationInvalid fields "credential_version"
  let trustVersion ← Json.strField confirmationInvalid fields "trust_version"
  let storageImpactDigest ← Json.strField confirmationInvalid fields "storage_impact_digest"
  let identityVerification ← identityField fields
  let replacementCaUuid ← Json.strField confirmationInvalid fields "replacement_ca_uuid"
  let endpointId ← endpointField fields
  pure ⟨clusterPk, clusterKey, mode, endpointId, pinnedCaUuid, lifecycleGeneration, credentialVersion, trustVersion,
    storageImpactDigest, issuedAt, identityVerification, replacementCaUuid⟩

/-- `_load_confirmation`. -/
def loadConfirmation (signer : Signer) (token : String) (now : Time) : Except RetirementError ConfirmationPayload :=
  match signer.loads token now with
  | some (.obj fields) => payloadOfFields fields
  | _ => .error confirmationInvalid

/-! ## Validation -/

def normalizeMode : String → Except RetirementError RetirementMode
  | "verified" => .ok .verified
  | "forced" => .ok .forced
  | _ => .error (.preflightInvalid "Choose verified or forced retirement.")

/-- `_configuration_version`. -/
def configurationVersion (db : Db) (kind : OwnedKind) (cluster : Nat) : String :=
  match (ownedBy cluster db kind).head? with
  | none => ""
  | some row => toString row.pk ++ ":" ++ Text.isoformat row.updatedAt

/-- `_current_cluster`, of a saved cluster. -/
def currentCluster (cluster : Nat) (db : Db) : Except RetirementError ProxmoxCluster := do
  let current ← orRaise (db.clusters.table.get cluster) (.preflightNotAllowed "The cluster connection no longer exists.")
  ensure current.retiredAt.isNone (.preflightNotAllowed "This cluster connection has already been retired.")
  pure current

/-- Healthy endpoints come first, then those never tried. -/
def ProxmoxEndpoint.healthRank (e : ProxmoxEndpoint) : Nat :=
  if e.lastHealthStatus = "ok" then 0 else if e.lastHealthStatus = "" then 1 else 2

/-- `enabled_endpoints`. -/
def enabledEndpoints (db : Db) (cluster : Nat) : List ProxmoxEndpoint :=
  (db.endpoints.rows.filter fun e => e.cluster == cluster && e.enabled).insertionSort fun a b =>
    a.healthRank < b.healthRank ∨ (a.healthRank = b.healthRank ∧ ¬ b.name < a.name)

/-- `_selected_endpoint`, none where it raises. -/
def selectedEndpoint (db : Db) (cluster : Nat) : Option Int → Option ProxmoxEndpoint
  | none => (enabledEndpoints db cluster).head?
  | some id => db.endpoints.rows.find? fun e => decide ((e.pk : Int) = id) && e.cluster == cluster && e.enabled

structure ConfirmedRetirementPreflight where
  mode : RetirementMode
  endpointId : Option Nat
  pinnedCaUuid : String
  storageImpactDigest : String
  issuedAt : Int
  identityVerification : IdentityVerification
  replacementCaUuid : String

/-- What a verified token must still agree with: the endpoint it was issued for. -/
def verifiedEvidence (db : Db) (current : ProxmoxCluster) (payload : ConfirmationPayload) :
    Except RetirementError (Option Nat) := do
  ensure (!current.enabled) connectionChanged
  let endpoint ← orRaise (selectedEndpoint db current.pk payload.endpointId)
    (.preflightChanged "The selected endpoint changed after preflight. Choose an endpoint again.")
  ensure (payload.pinnedCaUuid == current.discoveredCaUuid)
    (.preflightChanged "The cluster identity changed after preflight. Run preflight again.")
  if payload.identityVerification = .supersededByVerifiedHandoff then
    ensure (payload.replacementCaUuid != "" && payload.replacementCaUuid != payload.pinnedCaUuid) confirmationInvalid
  else
    ensure (decide (payload.identityVerification = .matched) && payload.replacementCaUuid == "") confirmationInvalid
  pure (some endpoint.pk)

/-- A forced token names no endpoint and no identity. -/
def forcedEvidence (payload : ConfirmationPayload) : Except RetirementError (Option Nat) := do
  ensure (payload.endpointId.isNone && payload.pinnedCaUuid == "" &&
    decide (payload.identityVerification = .skipped) && payload.replacementCaUuid == "") confirmationInvalid
  pure none

section
variable (signer : Signer) (clock : Clock)

/-- `validate_retirement_preflight`. -/
def validateRetirementPreflight (token : String) (cluster : Nat) (mode : String) (db : Db) :
    Except RetirementError ConfirmedRetirementPreflight := do
  let expectedMode ← normalizeMode mode
  let payload ← loadConfirmation signer token clock.validatedAt
  let current ← currentCluster cluster db
  ensure (decide (payload.clusterPk = current.pk) && payload.clusterKey == current.key && payload.mode == mode &&
    decide (payload.lifecycleGeneration = current.lifecycleGeneration) &&
    payload.credentialVersion == configurationVersion db .clusterCredential current.pk &&
    payload.trustVersion == configurationVersion db .clusterTransportTrust current.pk) connectionChanged
  let endpointId ← match expectedMode with
    | .verified => verifiedEvidence db current payload
    | .forced => forcedEvidence payload
  let digest := signer.hexdigest (storageSnapshot expectedMode current db)
  ensure (payload.storageImpactDigest == digest)
    (.preflightChanged "The storage impact changed after preflight. Review it again.")
  ensure (!decide (clock.comparedAt + 60 < payload.issuedAt)) confirmationInvalid
  pure {
    mode := expectedMode
    endpointId := endpointId
    pinnedCaUuid := payload.pinnedCaUuid
    storageImpactDigest := digest
    issuedAt := payload.issuedAt
    identityVerification := payload.identityVerification
    replacementCaUuid := payload.replacementCaUuid }

/-- `RETIREMENT_REASON_MAX_LENGTH`. -/
def retirementReasonMaxLength : Nat := 1000

/-- `_forced_confirmation`: the reason as it is stored. -/
def forcedConfirmation (locked : ProxmoxCluster) (mode : RetirementMode) (request : RetirementRequest) :
    Except RetirementError String := do
  let reason := Text.strip request.reason
  ensure (decide (reason.length ≤ retirementReasonMaxLength))
    (.confirmationRequired ("The retirement reason may contain at most " ++ toString retirementReasonMaxLength ++ " characters."))
  if mode = .forced then
    ensure (request.typedClusterKey == locked.key)
      (.confirmationRequired "Type the exact permanent cluster key to force retirement.")
    ensure request.permanentUnavailabilityAsserted
      (.confirmationRequired "Confirm that the Proxmox site is permanently unavailable before forced retirement.")
    ensure (reason != "") (.confirmationRequired "A reason is required for forced retirement.")
  pure reason

end

end PveHelper.Retirement
