/-
The two passes that publish a cluster's storage catalog, after
`refresh_storage_metadata` and `refresh_storage_volumes`. A metadata pass
writes in one transaction. A volume pass reads every listed definition first
and publishes afterwards, in a transaction of its own, so a metadata pass may
commit in between.

What a provider read returns stands in a step as the values `str`, `_list`,
`_bool` and `_int` coerce it to.
-/
import PveHelper.Storage.Catalog

namespace PveHelper.Storage

open Lib Guests

/-- What a read can fail with, as far as `_public_error` tells. -/
inductive ReadError
  | resolution | api | other
deriving DecidableEq, Repr

/-- `_public_error`. -/
def publicError : ReadError → String
  | .resolution => "Cluster connection is unavailable."
  | .api => "Proxmox storage inventory is unavailable."
  | .other => "Storage inventory refresh failed."

/-- One definition of `/storage`. -/
structure StorageRow where
  storage : String
  /-- `str(raw.get("type") or "unknown").lower()`. -/
  type : String
  content : List String
  shared : Bool
  nodes : List String
  disable : Bool
  raw : List (String × Json)

/-- One member of `/nodes`; the status is lowered, empty when there is none. -/
structure NodeRow where
  node : String
  status : String

def NodeRow.online (r : NodeRow) : Bool := ["online", ""].contains r.status

/-- One row of `nodes/<node>/storage`; `enabled` is true when it does not say. -/
structure NodeStorageRow where
  storage : String
  active : Bool
  enabled : Bool

/-- What the broad reads of a metadata pass returned. An answer of the wrong
shape is an error. -/
structure MetadataReads where
  definitions : List StorageRow
  nodes : List NodeRow
  storageOf : String → Except ReadError (List NodeStorageRow)

/-! ## The metadata pass -/

section metadata

variable (scope : PublicationScope) (reads : MetadataReads)

/-- The definitions with a storage id. -/
def MetadataReads.listed : List StorageRow := reads.definitions.filter fun r => r.storage != ""

/-- The members enrollment lets the pass read. -/
def MetadataReads.observed : List NodeRow := reads.nodes.filter fun r => r.node != "" && scope.observes r.node

/-- `_node_inventory` collected an error: an online member did not answer. -/
def MetadataReads.failed : Bool :=
  (reads.observed scope).any fun r => r.online && match reads.storageOf r.node with | .error _ => true | .ok _ => false

/-- `observed_names`. -/
def MetadataReads.observedNames : List String := (reads.observed scope).map (·.node)

/-- `node_online.get(node, False)`; a later row for the node wins. -/
def MetadataReads.nodeOnline (node : String) : Bool :=
  match (reads.observed scope).reverse.find? fun r => r.node == node with
  | some r => r.online
  | none => false

/-- `by_storage_node.get((storage_id, node))`; an offline member answered nothing. -/
def MetadataReads.rawState (storageId node : String) : Option NodeStorageRow :=
  if !reads.nodeOnline scope node then none
  else match reads.storageOf node with
    | .error _ => none
    | .ok rows => rows.reverse.find? fun r => r.storage == storageId

/-- `permitted`. -/
def MetadataReads.permitted (row : StorageRow) : List String :=
  sortedSet (if row.nodes.isEmpty then reads.observedNames scope
    else (reads.observedNames scope).filter row.nodes.contains)

/-- The state of one node's access that a definition's row is stored with. -/
def MetadataReads.nodeState (generation : Gen) (row : StorageRow) (node : String) : NodeState :=
  let raw := reads.rawState scope row.storage node
  let online := reads.nodeOnline scope node
  let present := raw.isSome && online
  { node := node
    active := present && (raw.map (·.active)).getD false
    enabled := present && (raw.map (·.enabled)).getD true && !row.disable
    present := present
    unreachable := !online
    observedMetadataGeneration := generation }

/-- A definition before its first write. -/
def ClusterStorage.new (storageId : String) (generation : Gen) : ClusterStorage where
  storageId := storageId
  storageType := ""
  content := []
  shared := false
  nodes := []
  disabled := false
  config := []
  present := true
  observedMetadataGeneration := generation
  nodeStates := .empty
  coverages := .empty
  observations := .empty
  mountBindings := .empty

/-- `update_or_create` of one definition and of its permitted node states. -/
def MetadataReads.write (generation : Gen) (storages : Table ClusterStorage.storageId) (row : StorageRow) :
    Table ClusterStorage.storageId :=
  let d := (storages.get row.storage).getD (.new row.storage generation)
  storages.put { d with
    storageId := row.storage
    storageType := row.type
    content := sortedSet row.content
    shared := row.shared
    nodes := row.nodes
    disabled := row.disable
    config := row.raw
    present := true
    observedMetadataGeneration := generation
    nodeStates := (reads.permitted scope row).foldl (fun t n => t.put (reads.nodeState scope generation row n))
      d.nodeStates }

/-- A node state no definition of the pass permits: gone where the node was
asked, unreachable where it was not. -/
def MetadataReads.sweepNode (storageId : String) (s : NodeState) : NodeState :=
  if reads.listed.any fun row => row.storage == storageId && (reads.permitted scope row).contains s.node then s
  else { s with present := false, active := false, unreachable := !(reads.observedNames scope).contains s.node }

@[simp] theorem MetadataReads.sweepNode_node (storageId : String) (s : NodeState) :
    (reads.sweepNode scope storageId s).node = s.node := by
  simp only [sweepNode]
  split <;> rfl

/-- The rows the pass did not see. -/
def MetadataReads.sweep (d : ClusterStorage) : ClusterStorage :=
  if d.unmanaged then d
  else { d with
    present := d.present && reads.listed.any fun row => row.storage == d.storageId
    nodeStates := d.nodeStates.modify (reads.sweepNode scope d.storageId) (reads.sweepNode_node scope d.storageId) }

@[simp] theorem MetadataReads.sweep_storageId (d : ClusterStorage) :
    (reads.sweep scope d).storageId = d.storageId := by
  simp only [sweep]
  split <;> rfl

end metadata

/-- A coverage row after the definitions were written: still valid, re-stamped;
or invalidated by the change. -/
def Coverage.rebase (unchanged : Bool) (generation : Gen) (cov : Coverage) : Coverage :=
  if unchanged && cov.complete && cov.volumeGeneration.isSome then
    { cov with basedOnMetadataGeneration := some generation }
  else if !unchanged then
    { cov with
      complete := false
      errorCode := "metadata_changed"
      errorReason := "Storage metadata changed; volume coverage requires refresh." }
  else cov

@[simp] theorem Coverage.rebase_node (unchanged : Bool) (generation : Gen) (cov : Coverage) :
    (cov.rebase unchanged generation).node = cov.node := by
  simp only [rebase]
  split
  · rfl
  split <;> rfl

/-- The coverage rows of a definition rebased. -/
def ClusterStorage.rebase (unchanged : String → Bool) (generation : Gen) (d : ClusterStorage) : ClusterStorage :=
  if d.unmanaged then d
  else { d with
    coverages := d.coverages.modify (·.rebase (unchanged d.storageId) generation)
      (Coverage.rebase_node (unchanged d.storageId) generation) }

@[simp] theorem ClusterStorage.rebase_storageId (unchanged : String → Bool) (generation : Gen) (d : ClusterStorage) :
    (d.rebase unchanged generation).storageId = d.storageId := by
  simp only [rebase]
  split <;> rfl

/-- `_coverage_summary_complete`. -/
def coverageSummaryComplete (c : Catalog) (generation : Gen) : Bool :=
  let definitions := c.storages.rows.filter fun d => !c.retired && !d.unmanaged && d.present && !d.disabled
  definitions.all fun d =>
    if (backendProfile d.storageType).contentListMode ≠ .pveApi then true
    else
      let candidates := candidateNodes d
      let required := if d.shared then [none] else candidates.map some
      !candidates.isEmpty && required.all fun node => match d.coverages.get node with
        | none => false
        | some cov => cov.complete && cov.volumeGeneration.isSome &&
            decide (cov.basedOnMetadataGeneration = some generation)

/-- The definitions and their node states as the pass saw them. -/
def writeDefinitions (scope : PublicationScope) (reads : MetadataReads) (c : Catalog) : Catalog :=
  { c with
    nextGeneration := c.nextGeneration + 1
    storages := (reads.listed.foldl (reads.write scope c.nextGeneration) c.storages).modify (reads.sweep scope)
      (reads.sweep_storageId scope) }

/-- The catalog a metadata pass publishes. -/
def publishMetadata (scope : PublicationScope) (reads : MetadataReads) (c : Catalog) : Catalog :=
  let generation := c.nextGeneration
  let written := writeDefinitions scope reads c
  let unchanged := fun id => decide (metadataSemantics c id = metadataSemantics written id)
  let rebased := { written with
    storages := written.storages.modify (·.rebase unchanged generation)
      (ClusterStorage.rebase_storageId unchanged generation) }
  { rebased with
    state := some {
      metadataGeneration := some generation
      metadataComplete := true
      volumeComplete := coverageSummaryComplete rebased generation } }

/-- The reads of a pass, when none of them failed. -/
def acceptedReads (scope : PublicationScope) : Except ReadError MetadataReads → Option MetadataReads
  | .error _ => none
  | .ok reads => if reads.failed scope then none else some reads

/-- `_refresh_storage_metadata_locked`. -/
def refreshStorageMetadata (scope : PublicationScope) (answer : Except ReadError MetadataReads)
    (c : Catalog) : Catalog :=
  match acceptedReads scope answer with
  | none => { c with state := some { catalogState c with metadataComplete := false } }
  | some reads => publishMetadata scope reads c

/-! ## The reads of a volume pass -/

/-- The tuple two shared answers are compared by. -/
structure Signature where
  volid : String
  vmid : Option Int
  content : String
  sizeBytes : Option Int
deriving DecidableEq

def Volume.signature (v : Volume) : Signature := ⟨v.volid, v.vmid, v.content, v.sizeBytes⟩

/-- Ordering two tuples reaches no comparison of a number with `None`. -/
def Signature.comparable (a b : Signature) : Bool :=
  if a.volid ≠ b.volid then true
  else if a.vmid ≠ b.vmid then a.vmid.isSome && b.vmid.isSome
  else if a.content ≠ b.content then true
  else if a.sizeBytes ≠ b.sizeBytes then a.sizeBytes.isSome && b.sizeBytes.isSome
  else true

/-- Tuple order, where it is defined. -/
def Signature.before (a b : Signature) : Bool :=
  if a.volid ≠ b.volid then decide (a.volid < b.volid)
  else if a.vmid ≠ b.vmid then decide (a.vmid.getD 0 < b.vmid.getD 0)
  else if a.content ≠ b.content then decide (a.content < b.content)
  else decide (a.sizeBytes.getD 0 < b.sizeBytes.getD 0)

/-- Sorting one node's rows does not raise: a sort that ends has compared every
two neighbours of its result, so it raises exactly when two rows cannot be
ordered. -/
def sortable (rows : List Volume) : Bool :=
  let signatures := rows.map Volume.signature
  signatures.all fun a => signatures.all a.comparable

/-- `tuple(sorted(...))` of one node's rows. -/
def sortedSignatures (rows : List Volume) : List Signature :=
  (rows.map Volume.signature).insertionSort fun a b => !b.before a

/-- A scope a volume pass read; no node for a shared definition. -/
structure Success where
  storageId : String
  node : Option String
  answers : List (String × List Volume)

structure Failure where
  storageId : String
  scope : Scope
  node : Option String
  errorCode : String
  errorReason : String

/-- What a volume pass holds between its reads and its transaction. -/
structure VolumePass where
  metadataGeneration : Gen
  successes : List Success
  failures : List Failure

/-- `nodes/<node>/storage/<storage>/content`, by node and storage. -/
abbrev ContentReads := String → String → Except ReadError (List Volume)

section volumes

variable (contentOf : ContentReads)

/-- One node's listing; rows without a volid are dropped. -/
def readNode (d : ClusterStorage) (node : String) : Except ReadError (List Volume) :=
  (contentOf node d.storageId).map fun rows => rows.filter fun v => v.volid != ""

/-- The listings of all nodes, if all answered. -/
def readNodes (d : ClusterStorage) : List String → Option (List (String × List Volume))
  | [] => some []
  | n :: ns => match readNode contentOf d n with
    | .error _ => none
    | .ok rows => (readNodes d ns).map ((n, rows) :: ·)

/-- A shared definition: every candidate answers, and all answer the same. No
value when comparing raises. -/
def readShared (d : ClusterStorage) (candidates : List String) : Option (List Success × List Failure) :=
  match readNodes contentOf d candidates with
  | none => some ([], [⟨d.storageId, .shared, none, "required_node_unavailable",
      "Volume inventory is unavailable on one or more required nodes."⟩])
  | some answers =>
    if !answers.all fun a => sortable a.2 then none
    else if (answers.map fun a => sortedSignatures a.2).dedup.length ≠ 1 then
      some ([], [⟨d.storageId, .shared, none, "shared_node_disagreement",
        "Shared nodes returned inconsistent volume sets."⟩])
    else some ([⟨d.storageId, none, answers⟩], [])

/-- One node of a node-local definition. -/
def readLocal (d : ClusterStorage) (node : String) : List Success × List Failure :=
  match readNode contentOf d node with
  | .ok rows => ([⟨d.storageId, some node, [(node, rows)]⟩], [])
  | .error e => ([], [⟨d.storageId, .node, some node, "node_inventory_unavailable", publicError e⟩])

/-- The turn of one definition in the pass. -/
def readDefinition (d : ClusterStorage) : Option (List Success × List Failure) :=
  -- An unsupported plugin is no failed scope: it does not poison the others.
  if (backendProfile d.storageType).contentListMode ≠ .pveApi then some ([], [])
  else
    let candidates := candidateNodes d
    if candidates.isEmpty then some ([], [⟨d.storageId, if d.shared then .shared else .node, none, "no_active_node",
      "No permitted active node."⟩])
    else if d.shared then readShared contentOf d candidates
    else some ((candidates.map (readLocal contentOf d)).flatMap (·.1),
      (candidates.map (readLocal contentOf d)).flatMap (·.2))

/-- Every definition in turn. -/
def readDefinitions : List ClusterStorage → Option (List Success × List Failure)
  | [] => some ([], [])
  | d :: ds => do
    let (successes, failures) ← readDefinition contentOf d
    let (successes', failures') ← readDefinitions ds
    pure (successes ++ successes', failures ++ failures')

end volumes

/-- The definitions a volume pass lists. -/
def listedDefinitions (c : Catalog) : List ClusterStorage :=
  (c.storages.rows.filter fun d => !c.retired && !d.unmanaged && d.present && !d.disabled).insertionSort
    fun a b => ¬ b.storageId < a.storageId

/-! ## Publishing a volume pass -/

/-- Every coverage row of the cluster withdrawn. -/
def withdrawCoverage (errorCode errorReason : String) (c : Catalog) : Catalog :=
  { c with
    state := some { catalogState c with volumeComplete := false }
    storages := c.storages.modify (fun d => if d.unmanaged then d else { d with
        coverages := d.coverages.modify (fun cov => { cov with
          complete := false
          errorCode := errorCode
          errorReason := errorReason }) fun _ => rfl })
      fun d => by cases h : d.unmanaged <;> simp }

/-- The reads of `_refresh_storage_volumes_locked`: the pass to publish, or none
when it ended by withdrawing all coverage. -/
def readVolumes (clients : Except ReadError Unit) (contentOf : ContentReads) (c : Catalog) :
    Catalog × Option VolumePass :=
  let st := catalogState c
  match st.metadataComplete, st.metadataGeneration with
  | true, some generation =>
    match clients with
    | .error e => (withdrawCoverage "refresh_failed" (publicError e) c, none)
    | .ok _ => match readDefinitions contentOf (listedDefinitions c) with
      | none => (withdrawCoverage "refresh_failed" (publicError .other) c, none)
      | some (successes, failures) => ({ c with state := some st }, some ⟨generation, successes, failures⟩)
  | _, _ => (withdrawCoverage "metadata_incomplete" "Complete storage metadata is required." c, none)

/-- `scope` of a coverage row's node. -/
def scopeOf (node : Option String) : Scope := if node.isSome then .node else .shared

/-- `desired`: the volumes to store, each under its observation node. -/
def Success.desired (s : Success) : List (String × Volume) :=
  match s.node with
  | none => ((s.answers.head?.map (·.2)).getD []).map fun v => (sharedObservationNode, v)
  | some _ => s.answers.flatMap fun a => a.2.map fun v => (a.1, v)

/-- Payload drift written in place; of several volumes with one id the last wins. -/
def Observation.drift (desired : List (String × Volume)) (o : Observation) : Observation :=
  match desired.reverse.find? fun p => decide ((p.1, p.2.volid) = o.key) with
  | some p => { o with volume := p.2 }
  | none => o

@[simp] theorem Observation.drift_key (desired : List (String × Volume)) (o : Observation) :
    (o.drift desired).key = o.key := by
  simp only [drift]
  split
  · rename_i p hp
    have := List.find?_some hp
    simp only [decide_eq_true_eq, key, Prod.mk.injEq] at this
    simp [key, this.2]
  · rfl

/-- `membership_changed`: a row of the scope is no longer there, or a volume has no row. -/
def membershipChanged (observations : Table Observation.key) (node : Option String)
    (desired : List (String × Volume)) : Bool :=
  (observations.rows.any fun o => decide (o.node = observationNode node) &&
    !desired.any fun p => decide ((p.1, p.2.volid) = o.key)) ||
    desired.any fun p => (observations.get (p.1, p.2.volid)).isNone

/-- `_apply_volume_diff`: the observations, and whether they need a new
generation. A survivor is re-stamped with its payload, so it becomes the row
that an added volume is stored as. -/
def applyVolumeDiff (observations : Table Observation.key) (node : Option String) (desired : List (String × Volume))
    (generation metadataGeneration : Gen) (publishedGeneration : Option Gen) : Table Observation.key × Bool :=
  if !membershipChanged observations node desired && publishedGeneration.isSome then
    (observations.modify (·.drift desired) (Observation.drift_key desired), false)
  else
    let kept := observations.keep fun o =>
      decide (o.node ≠ observationNode node) || desired.any fun p => decide ((p.1, p.2.volid) = o.key)
    (desired.foldl (fun t p => t.put ⟨p.1, p.2, generation, metadataGeneration⟩) kept, true)

/-- One scope of a pass published on its definition. -/
def Success.publish (generation metadataGeneration : Gen) (s : Success) (d : ClusterStorage) : ClusterStorage :=
  let cov := (d.coverages.get s.node).getD { node := s.node, scope := scopeOf s.node }
  let (observations, changed) := applyVolumeDiff d.observations s.node s.desired generation metadataGeneration
    (if cov.complete then cov.volumeGeneration else none)
  { d with
    observations := observations
    coverages := d.coverages.put { cov with
      node := s.node
      scope := scopeOf s.node
      volumeGeneration := if changed then some generation else cov.volumeGeneration.or (some generation)
      basedOnMetadataGeneration := some metadataGeneration
      agreeingNodes := if s.node.isNone then sortedSet (s.answers.map (·.1)) else []
      complete := true
      errorCode := ""
      errorReason := "" } }

/-- One failure recorded; a node-local definition without an active node has no
scope to record it on. -/
def Failure.record (f : Failure) (d : ClusterStorage) : ClusterStorage :=
  if f.scope = .node ∧ f.node = none then d
  else
    let cov := (d.coverages.get f.node).getD { node := f.node, scope := f.scope }
    { d with coverages := d.coverages.put { cov with
        node := f.node
        scope := f.scope
        complete := false
        errorCode := f.errorCode
        errorReason := f.errorReason } }

@[simp] theorem Success.publish_storageId (generation metadataGeneration : Gen) (s : Success) (d : ClusterStorage) :
    (s.publish generation metadataGeneration d).storageId = d.storageId := rfl

@[simp] theorem Failure.record_storageId (f : Failure) (d : ClusterStorage) : (f.record d).storageId = d.storageId := by
  simp only [record]
  split <;> rfl

def publishSuccesses (generation metadataGeneration : Gen) (successes : List Success)
    (storages : Table ClusterStorage.storageId) : Table ClusterStorage.storageId :=
  successes.foldl (fun t s => t.alter s.storageId (s.publish generation metadataGeneration)
    (s.publish_storageId generation metadataGeneration)) storages

def recordFailures (failures : List Failure) (storages : Table ClusterStorage.storageId) :
    Table ClusterStorage.storageId :=
  failures.foldl (fun t f => t.alter f.storageId f.record f.record_storageId) storages

/-- The transaction accepts the pass: the metadata it read is still published. -/
def VolumePass.accepted (p : VolumePass) (c : Catalog) : Bool :=
  decide ((catalogState c).metadataGeneration = some p.metadataGeneration) && (catalogState c).metadataComplete

/-- The publishing transaction of a volume pass. -/
def publishVolumes (p : VolumePass) (c : Catalog) : Catalog :=
  let st := catalogState c
  if !p.accepted c then { c with state := some { st with volumeComplete := false } }
  else
    let published := { c with
      nextGeneration := c.nextGeneration + 1
      storages := recordFailures p.failures
        (publishSuccesses c.nextGeneration p.metadataGeneration p.successes c.storages) }
    { published with
      state := some { st with
        volumeComplete := p.failures.isEmpty && coverageSummaryComplete published p.metadataGeneration } }

/-! ## Runs -/

/-- One scope as a pass published it. -/
structure Publication where
  storageId : String
  node : Option String
  answers : List (String × List Volume)
  metadataGeneration : Gen

/-- One cluster's catalog under refresh, with what happened so far: the scopes
published, newest first, and the semantics each metadata generation was
published with. No step reads the last two. -/
structure RefreshState where
  catalog : Catalog
  pass : Option VolumePass := none
  published : List Publication := []
  snapshots : List (Gen × (String → Option Semantics)) := []

inductive RefreshStep
  | metadata (scope : PublicationScope) (answer : Except ReadError MetadataReads)
  | readVolumes (clients : Except ReadError Unit) (contentOf : ContentReads)
  | publishVolumes
  /-- A pass dies before its transaction commits. -/
  | abandonVolumes

def Success.publication (metadataGeneration : Gen) (s : Success) : Publication :=
  ⟨s.storageId, s.node, s.answers, metadataGeneration⟩

/-- The advisory lock lets one volume pass run at a time. -/
def refreshStep (w : RefreshState) : RefreshStep → Option RefreshState
  | .metadata scope answer =>
    let c := refreshStorageMetadata scope answer w.catalog
    some { w with
      catalog := c
      snapshots := if (acceptedReads scope answer).isSome then
          (w.catalog.nextGeneration, metadataSemantics c) :: w.snapshots
        else w.snapshots }
  | .readVolumes clients contentOf =>
    if w.pass.isSome then none
    else
      let (c, pass) := readVolumes clients contentOf w.catalog
      some { w with catalog := c, pass := pass }
  | .publishVolumes => w.pass.map fun p => { w with
      catalog := publishVolumes p w.catalog
      pass := none
      published := if p.accepted w.catalog then
          (p.successes.map (·.publication p.metadataGeneration)).reverse ++ w.published
        else w.published }
  | .abandonVolumes => w.pass.map fun _ => { w with pass := none }

/-- No refresh has run yet on a cluster that is not retired. -/
def EmptyCatalog (w : RefreshState) : Prop :=
  w = { catalog := { state := none, storages := .empty, nextGeneration := 0 } }

/-- The most recent publication of a scope. -/
def lastPublication (published : List Publication) (storageId : String) (node : Option String) : Option Publication :=
  published.find? fun p => decide (p.storageId = storageId) && decide (p.node = node)

/-- A definition's entry of `_metadata_semantics` in a metadata generation. -/
def semanticsAt (snapshots : List (Gen × (String → Option Semantics))) (generation : Gen) (storageId : String) :
    Option Semantics :=
  (snapshots.find? fun s => decide (s.1 = generation)).bind fun s => s.2 storageId

end PveHelper.Storage
