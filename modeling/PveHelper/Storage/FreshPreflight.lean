/-
How fresh the coverage under a fresh preflight is. `StorageOperationScope` refreshes
a cluster's catalog once and then answers every preflight of one operator action from
it. Either half of the refresh returns the stored state when another worker holds its
lock, a volume pass is thrown away when the metadata moved under it, and it is not
begun at all after a metadata pass that failed; the scope takes the cluster for
refreshed in all of these. The coverage that a later metadata pass re-stamps may then
be of any age.

The clock counts steps, and the times at which the reads of a volume pass began are
kept beside the catalog. No step decides by them.
-/
import PveHelper.Storage.ReadScopes
import PveHelper.Storage.Evidence

namespace PveHelper.Storage

open Lib Guests

/-! ## One scope among the workers of a cluster -/

/-- How far the scope is with the refresh of the cluster. -/
inductive ScopePhase
  | absent
  | unrefreshed
  /-- The metadata pass returned; whether the state it returned is complete. -/
  | metadataReturned (complete : Bool)
  /-- The scope's own volume pass has read. -/
  | volumesRead
  | refreshed
deriving DecidableEq

/-- One cluster's catalog, the workers that refresh it and one operation scope. -/
structure ScopeState where
  refresh : RefreshState
  clock : Nat := 0
  /-- When the volume pass in flight began to read. -/
  passStart : Nat := 0
  /-- When the reads of each published scope began, newest first. -/
  starts : List ((String × Option String) × Nat) := []
  phase : ScopePhase := .absent
  createdAt : Nat := 0
  tokens : List ((String × String × String) × String) := []

/-- A preflight of one volume, and the rest of the installation when it is asked. -/
structure PreflightCall where
  health : Nat → StorageBackendProfile → MountHealth
  inst : Installation
  cluster : StorageCluster
  storageId : String
  node : String
  volid : String

def PreflightCall.tokenKey (call : PreflightCall) : String × String × String :=
  (call.cluster.guest.key, call.storageId, call.node)

inductive ScopeStep
  /-- Another worker's pass. -/
  | other (step : RefreshStep)
  | create
  /-- The scope's `refresh_storage_metadata`; nothing read where the lock is held. -/
  | metadata (reads : Option (PublicationScope × Except ReadError MetadataReads))
  /-- Its `refresh_storage_volumes` up to the transaction. -/
  | volumes (locked : Bool) (clients : Except ReadError Unit) (contentOf : ContentReads)
  | publish
  /-- The refresh raises. -/
  | fail
  | preflight (call : PreflightCall)

/-- The times a publication adds. -/
def ScopeState.publishedStarts (w : ScopeState) : List ((String × Option String) × Nat) :=
  match w.refresh.pass with
  | none => []
  | some p =>
    if p.accepted w.refresh.catalog then (p.successes.map fun s => ((s.storageId, s.node), w.passStart)).reverse else []

/-- A step of a pass, whoever makes it. -/
def ScopeState.advance (w : ScopeState) (step : RefreshStep) : Option ScopeState :=
  (refreshStep w.refresh step).map fun r => { w with
    refresh := r
    clock := w.clock + 1
    passStart := match step with | .readVolumes .. => w.clock | _ => w.passStart
    starts := match step with | .publishVolumes => w.publishedStarts ++ w.starts | _ => w.starts }

/-- `StorageCatalogState.objects.get_or_create`. -/
def ScopeState.storedState (w : ScopeState) : ScopeState :=
  let catalog := w.refresh.catalog
  { w with
    refresh := { w.refresh with catalog := { catalog with state := some (catalogState catalog) } }
    clock := w.clock + 1 }

/-- `refresh_storage_metadata` returns the state as it now is. -/
def ScopeState.metadataReturn (w : ScopeState) : ScopeState :=
  { w with phase := .metadataReturned (catalogState w.refresh.catalog).metadataComplete }

/-- The step ends a volume pass. -/
def RefreshStep.endsPass : RefreshStep → Bool
  | .publishVolumes | .abandonVolumes => true
  | _ => false

/-- The cluster, and the installation with it, as the preflight finds them. -/
def ScopeState.cluster (w : ScopeState) (call : PreflightCall) : StorageCluster :=
  { call.cluster with catalog := w.refresh.catalog }

def ScopeState.installation (w : ScopeState) (call : PreflightCall) : Installation :=
  { call.inst with clusters := call.inst.clusters.put (w.cluster call) }

/-- `usage_preflight(definition, volid=volid, node=node, fresh=False)`; nothing where the definition is gone. -/
def ScopeState.result (w : ScopeState) (call : PreflightCall) : Option UsagePreflight :=
  (w.refresh.catalog.storages.get call.storageId).map fun d =>
    usageDecision (usageScope call.health (w.installation call) (w.cluster call) d call.node) call.volid

/-- `self._tokens.get(key)`. -/
def ScopeState.token (w : ScopeState) (call : PreflightCall) : Option String :=
  (w.tokens.find? fun t => t.1 == call.tokenKey).map (·.2)

/-- What `preflight` returns once the cluster is refreshed; nothing where it raises. -/
def ScopeState.answer (w : ScopeState) (call : PreflightCall) : Option UsagePreflight :=
  if w.phase = .refreshed then (w.result call).filter fun p => decide ((w.token call).getD p.token = p.token) else none

/-- `setdefault` of the token. -/
def ScopeState.remember (w : ScopeState) (call : PreflightCall) : ScopeState :=
  match w.result call, w.token call with
  | some p, none => { w with tokens := (call.tokenKey, p.token) :: w.tokens }
  | _, _ => w

def scopeStep (w : ScopeState) : ScopeStep → Option ScopeState
  -- The lane's lock: while the scope's own pass is in flight nobody else ends one.
  | .other step => if w.phase = .volumesRead ∧ step.endsPass = true then none else w.advance step
  | .create =>
    if w.phase = .absent then
      some { w with phase := .unrefreshed, createdAt := w.clock, clock := w.clock + 1, tokens := [] }
    else none
  | .metadata reads =>
    if w.phase ≠ .unrefreshed then none
    else match reads with
      | none => some w.storedState.metadataReturn
      | some (scope, answer) => (w.advance (.metadata scope answer)).map (·.metadataReturn)
  | .volumes locked clients contentOf => match w.phase with
    | .metadataReturned false => some { w with phase := .refreshed, clock := w.clock + 1 }
    | .metadataReturned true =>
      if locked || w.refresh.pass.isSome then some { w.storedState with phase := .refreshed }
      else (w.advance (.readVolumes clients contentOf)).map fun w' =>
        { w' with phase := if w'.refresh.pass.isSome then .volumesRead else .refreshed }
    | _ => none
  | .publish =>
    if w.phase = .volumesRead then (w.advance .publishVolumes).map ({ · with phase := .refreshed }) else none
  | .fail => match w.phase with
    | .metadataReturned _ => some { w with phase := .unrefreshed, clock := w.clock + 1 }
    | .volumesRead => (w.advance .abandonVolumes).map ({ · with phase := .unrefreshed })
    | _ => none
  | .preflight call => if w.phase = .refreshed then some { w.remember call with clock := w.clock + 1 } else none

/-- Nothing has been refreshed, and there is no scope. -/
def NoScope (w : ScopeState) : Prop :=
  w = { refresh := { catalog := { state := none, storages := .empty, nextGeneration := 0 } } }

/-! ## What a preflight rests on -/

/-- When the reads began that the scope's published set comes from. -/
def readsStarted (starts : List ((String × Option String) × Nat)) (storageId : String) (node : Option String) :
    Option Nat :=
  (starts.find? fun t => decide (t.1 = (storageId, node))).map (·.2)

/-- The published set of the scope was read after the operation scope was created. -/
def ScopeState.ReadSince (w : ScopeState) (storageId : String) (node : Option String) : Prop :=
  ∃ t, readsStarted w.starts storageId node = some t ∧ w.createdAt ≤ t

/-- A view of the cluster's storage asks only scopes read since then. -/
def ScopeState.ViewSince (w : ScopeState) (d : ClusterStorage) (node : String) : Prop :=
  ∀ s ∈ requestedScopes d node, w.ReadSince d.storageId s

/-- Every preflight that returns UNREFERENCED rests, in its own cluster, on
coverage read since the scope was created: that of the definition, and that of
the cluster's other storages that may be the same backend. -/
def FreshPreflights (w : ScopeState) : Prop :=
  ∀ call p d, w.refresh.catalog.storages.get call.storageId = some d → w.answer call = some p →
    p.state = .unreferenced → w.ViewSince d call.node ∧
      ∀ x ∈ (crossClusterCandidates (w.installation call) (w.cluster call) d).1, x.cluster.pk = call.cluster.pk →
        w.ViewSince x.storage x.node

/-- The step lets the scope refresh: at the scope's volume pass the metadata is
complete and no other worker is in the volumes lane, and when that pass
publishes, the metadata it read is still the published one. -/
def RefreshTakesPlace (w : ScopeState) (l : ScopeStep) (_ : ScopeState) : Prop :=
  match l with
  | .volumes locked _ _ => w.phase ≠ .metadataReturned false ∧ locked = false ∧ w.refresh.pass.isSome = false
  | .publish => w.refresh.pass.all (·.accepted w.refresh.catalog) = true
  | _ => True

instance (w : ScopeState) (l : ScopeStep) (w' : ScopeState) : Decidable (RefreshTakesPlace w l w') :=
  match l with
  | .volumes locked _ _ => inferInstanceAs (Decidable (w.phase ≠ .metadataReturned false ∧ locked = false ∧
      w.refresh.pass.isSome = false))
  | .publish => inferInstanceAs (Decidable (w.refresh.pass.all (·.accepted w.refresh.catalog) = true))
  | .other _ | .create | .metadata _ | .fail | .preflight _ => isTrue trivial

/-! ## When the reads began -/

section starts

variable {w : ScopeState}

theorem mem_publishedStarts {t : (String × Option String) × Nat} (h : t ∈ w.publishedStarts) : t.2 = w.passStart := by
  simp only [ScopeState.publishedStarts] at h
  split at h
  · cases h
  split at h
  · rw [List.mem_reverse, List.mem_map] at h
    obtain ⟨s, -, rfl⟩ := h
    rfl
  · cases h

/-- A publication puts the start of its pass before the older times. -/
theorem readsStarted_append (id : String) (s : Option String) :
    readsStarted (w.publishedStarts ++ w.starts) id s = some w.passStart ∨
      readsStarted (w.publishedStarts ++ w.starts) id s = readsStarted w.starts id s := by
  simp only [readsStarted, List.find?_append]
  cases hf : w.publishedStarts.find? fun t => decide (t.1 = (id, s)) with
  | none => exact .inr rfl
  | some t =>
    refine .inl ?_
    rw [Option.some_or, Option.map_some, mem_publishedStarts (List.mem_of_find?_eq_some hf)]

theorem readsStarted_success {p : VolumePass} (hp : w.refresh.pass = some p)
    (hacc : p.accepted w.refresh.catalog = true) {x : Success} (hx : x ∈ p.successes) :
    readsStarted (w.publishedStarts ++ w.starts) x.storageId x.node = some w.passStart := by
  have hmem : ((x.storageId, x.node), w.passStart) ∈ w.publishedStarts := by
    simp only [ScopeState.publishedStarts, hp, hacc, if_true, List.mem_reverse]
    exact List.mem_map_of_mem (f := fun s : Success => ((s.storageId, s.node), w.passStart)) hx
  simp only [readsStarted, List.find?_append]
  cases hf : w.publishedStarts.find? fun t => decide (t.1 = (x.storageId, x.node)) with
  | none =>
    have hno := List.find?_eq_none.mp hf _ hmem
    simp at hno
  | some t => rw [Option.some_or, Option.map_some, mem_publishedStarts (List.mem_of_find?_eq_some hf)]

end starts

/-! ## Every step of the scope and of the others -/

/-- Every complete row of a scope that a pass reads was read since the scope was created. -/
def ScopeState.Fresh (w : ScopeState) : Prop :=
  ∀ id d s, w.refresh.catalog.storages.get id = some d → d.semantics.Listed → s ∈ d.semantics.scopes →
    CompleteAt w.refresh.catalog.storages id s → w.ReadSince id s

/-- The scope's own pass began after its creation, and if it is still acceptable
it read every definition there is. -/
def ScopeState.OwnPass (w : ScopeState) : Prop :=
  w.createdAt ≤ w.passStart ∧ ∃ p, w.refresh.pass = some p ∧ (p.accepted w.refresh.catalog = true →
    ∀ id d, w.refresh.catalog.storages.get id = some d → d.semantics.Listed → Touches p.successes p.failures d)

structure ScopeInv (w : ScopeState) : Prop where
  refresh : RefreshInv w.refresh
  present : w.refresh.catalog.storages.All NodesPresent
  clock : w.createdAt ≤ w.clock
  reading : w.phase = .volumesRead → w.OwnPass
  fresh : w.phase = .refreshed → w.Fresh ∧ (w.refresh.pass.isSome = true → w.createdAt ≤ w.passStart)

theorem NoScope.inv {w : ScopeState} (h : NoScope w) : ScopeInv w := by
  subst h
  exact ⟨emptyCatalog_inv rfl, nofun, Nat.le_refl _, nofun, nofun⟩

section steps

variable {w w' : ScopeState} {step : RefreshStep}

theorem advance_cases (h : w.advance step = some w') : ∃ r, refreshStep w.refresh step = some r ∧
    w'.refresh = r ∧ w'.clock = w.clock + 1 ∧ w'.createdAt = w.createdAt ∧ w'.phase = w.phase := by
  obtain ⟨r, hr, rfl⟩ := Option.map_eq_some_iff.mp h
  exact ⟨r, hr, rfl, rfl, rfl, rfl⟩

/-- Whoever takes the step, the catalog stays right and the clock runs on. -/
theorem ScopeInv.advance_catalog (hi : ScopeInv w) (h : w.advance step = some w') :
    RefreshInv w'.refresh ∧ w'.refresh.catalog.storages.All NodesPresent ∧ w'.createdAt ≤ w'.clock := by
  obtain ⟨r, hr, rfl, hclock, hcreated, -⟩ := advance_cases h
  refine ⟨hi.refresh.step hr, refreshStep_nodesPresent hi.refresh hi.present hr, ?_⟩
  rw [hclock, hcreated]
  exact Nat.le_succ_of_le hi.clock

theorem ScopeState.Fresh.metadata (hi : RefreshInv w.refresh) (hf : w.Fresh) {scope : PublicationScope}
    {answer : Except ReadError MetadataReads} (h : w.advance (.metadata scope answer) = some w') : w'.Fresh := by
  obtain ⟨r, hr, rfl⟩ := Option.map_eq_some_iff.mp h
  simp only [refreshStep, refreshStorageMetadata, Option.some.injEq] at hr
  subst hr
  intro id d s hd hl hs hcomp
  cases ha : acceptedReads scope answer with
  | none =>
    simp only [ha] at hd hcomp
    exact hf id d s hd hl hs hcomp
  | some reads =>
    simp only [ha] at hd hcomp
    obtain ⟨d₀, hd₀, hsem, hcomp₀⟩ := publishMetadata_completeAt hi.managed hi.written hd hcomp
    rw [hsem] at hl hs
    exact hf id d₀ s hd₀ hl hs hcomp₀

theorem ScopeState.Fresh.readVolumes (hi : RefreshInv w.refresh) (hf : w.Fresh) {clients : Except ReadError Unit}
    {contentOf : ContentReads} (h : w.advance (.readVolumes clients contentOf) = some w') : w'.Fresh := by
  obtain ⟨r, hr, rfl⟩ := Option.map_eq_some_iff.mp h
  simp only [refreshStep] at hr
  split at hr
  · cases hr
  cases hr
  intro id d s hd hl hs hcomp
  rcases readVolumes_cases clients contentOf w.refresh.catalog with ⟨-, code, reason, hc⟩ | ⟨p, -, hc, -⟩
  · simp only [hc] at hcomp
    exact absurd hcomp (withdrawCoverage_incomplete hi.written)
  · simp only [hc] at hd hcomp
    exact hf id d s hd hl hs hcomp

/-- Publishing a pass begun since the creation keeps the coverage fresh. -/
theorem ScopeState.Fresh.publishVolumes (hf : w.Fresh) (hstart : w.refresh.pass.isSome = true → w.createdAt ≤ w.passStart)
    (h : w.advance .publishVolumes = some w') : w'.Fresh := by
  obtain ⟨r, hr, rfl⟩ := Option.map_eq_some_iff.mp h
  obtain ⟨p, hp, rfl⟩ := Option.map_eq_some_iff.mp hr
  have hlate : w.createdAt ≤ w.passStart := hstart (by rw [hp]; rfl)
  intro id d s hd hl hs hcomp
  have hkeep : w.ReadSince id s → ∃ t, readsStarted (w.publishedStarts ++ w.starts) id s = some t ∧ w.createdAt ≤ t := by
    intro hold
    rcases readsStarted_append (w := w) id s with he | he
    · exact ⟨_, he, hlate⟩
    · rw [he]
      exact hold
  obtain ⟨d₀, hd₀, hsem, -⟩ := publishVolumes_semantics hd
  rw [hsem] at hl hs
  cases hacc : p.accepted w.refresh.catalog with
  | false =>
    simp only [Storage.publishVolumes, hacc, Bool.not_false, if_true] at hcomp
    exact hkeep (hf id d₀ s hd₀ hl hs hcomp)
  | true =>
    obtain ⟨-, ⟨x, hx, rfl, rfl⟩ | hold⟩ := publishVolumes_completeAt hacc hcomp
    · exact ⟨_, readsStarted_success hp hacc hx, hlate⟩
    · exact hkeep (hf id d₀ s hd₀ hl hs hold)

theorem ScopeState.Fresh.abandonVolumes (hf : w.Fresh) (h : w.advance .abandonVolumes = some w') : w'.Fresh := by
  obtain ⟨r, hr, rfl⟩ := Option.map_eq_some_iff.mp h
  obtain ⟨p, -, rfl⟩ := Option.map_eq_some_iff.mp hr
  exact hf

/-- Publishing the scope's own pass makes the coverage fresh. -/
theorem ScopeState.OwnPass.publish (ho : w.OwnPass) (hpass : w.refresh.pass.all (·.accepted w.refresh.catalog) = true)
    (h : w.advance .publishVolumes = some w') : w'.Fresh := by
  obtain ⟨hlate, p, hp, htouch⟩ := ho
  have hacc : p.accepted w.refresh.catalog = true := by simpa [hp] using hpass
  obtain ⟨r, hr, rfl⟩ := Option.map_eq_some_iff.mp h
  simp only [refreshStep, hp, Option.map_some, Option.some.injEq] at hr
  subst hr
  intro id d s hd hl hs hcomp
  obtain ⟨d₀, hd₀, hsem, -⟩ := publishVolumes_semantics hd
  rw [hsem] at hl hs
  obtain ⟨hclear, -⟩ := publishVolumes_completeAt hacc hcomp
  have hid := ClusterStorage.storageId_of_get hd₀
  -- The pass read the scope, and a failure would have withdrawn it.
  rcases htouch hacc id d₀ hd₀ hl s hs with ⟨x, hx, hxid, rfl⟩ | ⟨f, hfm, hmark⟩
  · refine ⟨_, ?_, hlate⟩
    rw [← hid, ← hxid]
    exact readsStarted_success hp hacc hx
  · rw [hid] at hmark
    exact absurd hmark (hclear f hfm)

/-- After a metadata pass in between, failed or not, the scope's own pass is no longer accepted. -/
theorem ScopeState.OwnPass.metadata (hi : RefreshInv w.refresh) (ho : w.OwnPass) {scope : PublicationScope}
    {answer : Except ReadError MetadataReads} (h : w.advance (.metadata scope answer) = some w') : w'.OwnPass := by
  obtain ⟨hlate, p, hp, htouch⟩ := ho
  obtain ⟨r, hr, rfl⟩ := Option.map_eq_some_iff.mp h
  simp only [refreshStep, refreshStorageMetadata, Option.some.injEq] at hr
  subst hr
  refine ⟨hlate, p, hp, fun hacc => ?_⟩
  simp only [VolumePass.accepted, Bool.and_eq_true, decide_eq_true_eq] at hacc
  cases ha : acceptedReads scope answer with
  | none =>
    simp only [ha] at hacc
    exact absurd hacc.2 (by simp [catalogState])
  | some reads =>
    simp only [ha] at hacc
    have hgen : w.refresh.catalog.nextGeneration = p.metadataGeneration := by
      simpa [publishMetadata, catalogState] using hacc.1
    exact absurd hgen.symm (Nat.ne_of_lt (hi.pass p hp).1)

/-- The scope's reads begin its own pass, or withdraw all coverage. -/
theorem advance_readVolumes (hi : ScopeInv w) {clients : Except ReadError Unit} {contentOf : ContentReads}
    (h : w.advance (.readVolumes clients contentOf) = some w') :
    (w'.refresh.pass.isSome = true → w'.OwnPass) ∧ (w'.refresh.pass.isSome = false → w'.Fresh) := by
  obtain ⟨r, hr, rfl⟩ := Option.map_eq_some_iff.mp h
  simp only [refreshStep] at hr
  split at hr
  · cases hr
  cases hr
  rcases readVolumes_cases clients contentOf w.refresh.catalog with ⟨hnone, code, reason, hc⟩ | ⟨p, hp, hc, hread⟩
  · refine ⟨fun hsome => ?_, fun _ id d s _ _ _ hcomp => ?_⟩
    · simp [hnone] at hsome
    · simp only [hc] at hcomp
      exact absurd hcomp (withdrawCoverage_incomplete hi.refresh.written)
  · refine ⟨fun _ => ⟨hi.clock, p, hp, fun _ id d hd hl => ?_⟩, fun hnone => ?_⟩
    · simp only [hc] at hd
      refine readDefinitions_touches ?_ hl.2.2 hread
      simp only [listedDefinitions, List.mem_insertionSort, List.mem_filter]
      refine ⟨Table.mem_of_get hd, ?_⟩
      have hpres : d.present = true := hl.1
      have hdis : d.disabled = false := hl.2.1
      simp [hi.refresh.managed, (hi.refresh.written id d hd).1, hpres, hdis]
    · simp [hp] at hnone

theorem ScopeInv.advance_other (hi : ScopeInv w) (hend : ¬ (w.phase = .volumesRead ∧ step.endsPass = true))
    (h : w.advance step = some w') : ScopeInv w' := by
  obtain ⟨hr, hp, hc⟩ := hi.advance_catalog h
  obtain ⟨r, hstep, hre, -, hcreated, hphase⟩ := advance_cases h
  refine ⟨hr, hp, hc, fun hread => ?_, fun hfresh => ?_⟩
  · rw [hphase] at hread
    have ho := hi.reading hread
    cases step with
    | metadata scope answer => exact ho.metadata hi.refresh h
    | readVolumes clients contentOf =>
      obtain ⟨-, p, hpass, -⟩ := ho
      simp [refreshStep, hpass] at hstep
    | publishVolumes => exact absurd ⟨hread, rfl⟩ hend
    | abandonVolumes => exact absurd ⟨hread, rfl⟩ hend
  · rw [hphase] at hfresh
    obtain ⟨hf, hlate⟩ := hi.fresh hfresh
    obtain ⟨r', hr', rfl⟩ := Option.map_eq_some_iff.mp h
    cases step with
    | metadata scope answer =>
      cases hr'
      exact ⟨hf.metadata hi.refresh h, hlate⟩
    | readVolumes clients contentOf => exact ⟨hf.readVolumes hi.refresh h, fun _ => hi.clock⟩
    | publishVolumes =>
      obtain ⟨p, -, rfl⟩ := Option.map_eq_some_iff.mp hr'
      exact ⟨hf.publishVolumes hlate h, by simp⟩
    | abandonVolumes =>
      obtain ⟨p, -, rfl⟩ := Option.map_eq_some_iff.mp hr'
      exact ⟨hf.abandonVolumes h, by simp⟩

theorem RefreshInv.storedState (hi : RefreshInv w.refresh) : RefreshInv w.storedState.refresh :=
  hi.with_catalog w.refresh.pass rfl rfl rfl (fun _ => rfl) hi.definitions hi.pass

theorem ScopeInv.metadata (hi : ScopeInv w) {reads : Option (PublicationScope × Except ReadError MetadataReads)}
    (h : scopeStep w (.metadata reads) = some w') : ScopeInv w' := by
  simp only [scopeStep] at h
  split at h
  · cases h
  split at h
  · cases h
    exact ⟨hi.refresh.storedState, hi.present, Nat.le_succ_of_le hi.clock, nofun, nofun⟩
  · obtain ⟨w₁, h₁, rfl⟩ := Option.map_eq_some_iff.mp h
    obtain ⟨hr, hp, hc⟩ := hi.advance_catalog h₁
    exact ⟨hr, hp, hc, nofun, nofun⟩

theorem ScopeInv.volumes (hi : ScopeInv w) {locked : Bool} {clients : Except ReadError Unit} {contentOf : ContentReads}
    (hc : RefreshTakesPlace w (.volumes locked clients contentOf) w')
    (h : scopeStep w (.volumes locked clients contentOf) = some w') : ScopeInv w' := by
  obtain ⟨hcomplete, rfl, hpass⟩ := hc
  simp only [scopeStep] at h
  split at h
  · exact absurd ‹_› hcomplete
  · simp only [hpass, Bool.or_false, Bool.false_eq_true, if_false] at h
    obtain ⟨w₁, h₁, rfl⟩ := Option.map_eq_some_iff.mp h
    obtain ⟨hr, hp, hclock⟩ := hi.advance_catalog h₁
    obtain ⟨hown, hwithdrawn⟩ := advance_readVolumes hi h₁
    cases hsome : w₁.refresh.pass.isSome with
    | true => exact ⟨hr, hp, hclock, fun _ => hown hsome, by simp⟩
    | false => exact ⟨hr, hp, hclock, by simp, fun _ => ⟨hwithdrawn hsome, fun hs => by simp [hsome] at hs⟩⟩
  · cases h

theorem ScopeInv.publish (hi : ScopeInv w) (hc : RefreshTakesPlace w .publish w') (h : scopeStep w .publish = some w') :
    ScopeInv w' := by
  simp only [scopeStep] at h
  split at h
  · rename_i hread
    obtain ⟨w₁, h₁, rfl⟩ := Option.map_eq_some_iff.mp h
    obtain ⟨hr, hp, hclock⟩ := hi.advance_catalog h₁
    have hfresh : w₁.Fresh := (hi.reading hread).publish hc h₁
    refine ⟨hr, hp, hclock, nofun, fun _ => ⟨hfresh, ?_⟩⟩
    obtain ⟨r, hr', rfl⟩ := Option.map_eq_some_iff.mp h₁
    obtain ⟨p, -, rfl⟩ := Option.map_eq_some_iff.mp hr'
    exact nofun
  · cases h

theorem ScopeInv.fail (hi : ScopeInv w) (h : scopeStep w .fail = some w') : ScopeInv w' := by
  simp only [scopeStep] at h
  split at h
  · cases h
    exact ⟨hi.refresh, hi.present, Nat.le_succ_of_le hi.clock, nofun, nofun⟩
  · obtain ⟨w₁, h₁, rfl⟩ := Option.map_eq_some_iff.mp h
    obtain ⟨hr, hp, hclock⟩ := hi.advance_catalog h₁
    exact ⟨hr, hp, hclock, nofun, nofun⟩
  · cases h

/-- The scope that remembers a token is otherwise the one it was. -/
theorem ScopeState.remember_eq (w : ScopeState) (call : PreflightCall) :
    ∃ tokens, w.remember call = { w with tokens := tokens } := by
  simp only [ScopeState.remember]
  split
  · exact ⟨_, rfl⟩
  · exact ⟨w.tokens, rfl⟩

theorem ScopeInv.preflight (hi : ScopeInv w) {call : PreflightCall} (h : scopeStep w (.preflight call) = some w') :
    ScopeInv w' := by
  simp only [scopeStep] at h
  split at h
  · cases h
    obtain ⟨tokens, he⟩ := w.remember_eq call
    rw [he]
    exact ⟨hi.refresh, hi.present, Nat.le_succ_of_le hi.clock, hi.reading, hi.fresh⟩
  · cases h

theorem scopeStep_inv {l : ScopeStep} (hi : ScopeInv w) (h : scopeStep w l = some w') (hc : RefreshTakesPlace w l w') :
    ScopeInv w' := by
  cases l with
  | other step =>
    simp only [scopeStep] at h
    split at h
    · cases h
    · rename_i hend
      exact hi.advance_other hend h
  | create =>
    simp only [scopeStep] at h
    split at h
    · cases h
      exact ⟨hi.refresh, hi.present, Nat.le_succ _, nofun, nofun⟩
    · cases h
  | metadata reads => exact hi.metadata h
  | volumes locked clients contentOf => exact hi.volumes hc h
  | publish => exact hi.publish hc h
  | fail => exact hi.fail h
  | preflight call => exact hi.preflight h

end steps

/-- A complete view of a refreshed cluster asks only scopes read since the creation. -/
theorem ScopeInv.viewSince {w : ScopeState} (hi : ScopeInv w) (hphase : w.phase = .refreshed) {d : ClusterStorage}
    (hd : d ∈ w.refresh.catalog.storages.rows) {node : String}
    (h : listReason (catalogState w.refresh.catalog) d node = "") : w.ViewSince d node := by
  intro s hs
  have hget := Table.get_of_mem hd
  obtain ⟨hlisted, hscopes⟩ := requestedScopes_read (hi.present _ d hget) h
  have hcur := (listReason_empty h).2.2 s hs
  cases hcov : d.coverages.get s with
  | none => simp [hcov, coverageIsCurrent] at hcur
  | some cov =>
    simp only [hcov, coverageIsCurrent, Bool.and_eq_true] at hcur
    exact (hi.fresh hphase).1 _ d s hget hlisted (hscopes s hs) ⟨d, cov, hget, hcov, hcur.1.1.1⟩

theorem ScopeInv.freshPreflights {w : ScopeState} (hi : ScopeInv w) : FreshPreflights w := by
  intro call p d hd hans hun
  simp only [ScopeState.answer] at hans
  split at hans
  · rename_i hphase
    obtain ⟨hresult, -⟩ := Option.filter_eq_some_iff.mp hans
    simp only [ScopeState.result, hd, Option.map_some, Option.some.injEq] at hresult
    subst hresult
    obtain ⟨hcomplete, -, hcands⟩ := usageDecision_checked hun
    refine ⟨hi.viewSince hphase (Table.mem_of_get hd) (by simpa [storageView, ScopeState.cluster] using hcomplete), ?_⟩
    intro x hx hown
    obtain ⟨hcluster, hstorage⟩ := candidate_mem hx
    -- The installation has one cluster of that key, the one whose catalog this is.
    have hself : x.cluster = w.cluster call := by
      have hpk : x.cluster.pk = (w.cluster call).pk := hown
      have hget := Table.get_of_mem hcluster
      rw [ScopeState.installation, Table.get_put, if_pos hpk] at hget
      exact (Option.some.inj hget).symm
    have hview := (hcands x hx).1
    rw [hself] at hstorage
    simp only [Candidate.view, hself] at hview
    exact hi.viewSince hphase hstorage (by simpa [storageView, ScopeState.cluster] using hview)
  · cases hans

/-- **A fresh preflight is fresh** in every run, among any other workers, in which
the scope's refresh takes place: in each state on the way, a preflight that returns
UNREFERENCED rests only on coverage whose reads began after the scope was created. -/
theorem fresh_preflights {w : ScopeState} (hw : NoScope w) {ls : List ScopeStep}
    (h : Along scopeStep RefreshTakesPlace w ls) : Always scopeStep FreshPreflights w ls := by
  have hinv : Always scopeStep ScopeInv w ls := h.always scopeStep_inv hw.inv
  intro ls₁ ls₂ w' he hr
  exact (hinv ls₁ ls₂ w' he hr).freshPreflights

/-! ## Another worker in the volumes lane -/

/-- Nothing refreshed yet, and no scope. -/
def unusedScope : ScopeState := { refresh := { catalog := newCluster.catalog } }

def poolListing : ContentReads := fun _ _ => .ok [{ volid := "local-lvm:vm-100-disk-0" }]

/-- Another worker's refresh of the pool. -/
def workerRefresh : List ScopeStep :=
  [.other (.metadata newCluster.scope (.ok thinReads)), .other (.readVolumes (.ok ()) poolListing), .other .publishVolumes]

/-- A scope that refreshes the pool itself. -/
def scopeRefresh : List ScopeStep :=
  [.create, .metadata (some (newCluster.scope, .ok thinReads)), .volumes false (.ok ()) poolListing, .publish]

/-- A scope that finds a worker's next pass in the volumes lane. -/
def scopeOvertaken : List ScopeStep :=
  [.other (.readVolumes (.ok ()) poolListing), .create, .metadata (some (newCluster.scope, .ok thinReads)),
    .volumes false (.ok ()) poolListing]

def poolCall : PreflightCall := ⟨noMounts, newInstallation.inst, newCluster, "local-lvm", "pve1", "local-lvm:vm-100-disk-0"⟩

def scopeAfter (ls : List ScopeStep) : ScopeState := (run scopeStep unusedScope ls).getD unusedScope

/-- The pool's disk is unreferenced to a scope that refreshed, and its coverage is fresh. -/
theorem refreshed_preflight_fresh :
    ((scopeAfter (workerRefresh ++ scopeRefresh)).answer poolCall).map (·.state) = some .unreferenced ∧
      FreshPreflights (scopeAfter (workerRefresh ++ scopeRefresh)) := by
  refine ⟨by decide +kernel, ?_⟩
  exact @fresh_preflights unusedScope rfl (workerRefresh ++ scopeRefresh) (by decide +kernel) _ [] _
    (List.append_nil _).symm (eq_some_getD (by decide +kernel) _)

/-- To a scope that found the lane taken it is unreferenced as well, by what was read before. -/
theorem overtaken_preflight_stale : ¬ ∀ (w : ScopeState) (ls : List ScopeStep), NoScope w →
    Always scopeStep FreshPreflights w ls := by
  intro h
  have hfresh := h unusedScope (workerRefresh ++ scopeOvertaken) rfl _ [] (scopeAfter (workerRefresh ++ scopeOvertaken))
    (List.append_nil _).symm (eq_some_getD (by decide +kernel) _)
  have hanswer : ((scopeAfter (workerRefresh ++ scopeOvertaken)).answer poolCall).map (·.state) = some .unreferenced := by
    decide +kernel
  have hscopes : ((scopeAfter (workerRefresh ++ scopeOvertaken)).refresh.catalog.storages.get "local-lvm").map
      (requestedScopes · "pve1") = some [some "pve1"] := by decide +kernel
  obtain ⟨p, hp, hun⟩ := Option.map_eq_some_iff.mp hanswer
  obtain ⟨d, hd, hs⟩ := Option.map_eq_some_iff.mp hscopes
  obtain ⟨t, ht, hlate⟩ := (hfresh poolCall p d hd hp hun).1 (some "pve1") (by rw [poolCall, hs]; exact List.mem_singleton_self _)
  rw [ClusterStorage.storageId_of_get hd] at ht
  -- The reads began with step 1, and the scope was created with step 4.
  have hstart : readsStarted (scopeAfter (workerRefresh ++ scopeOvertaken)).starts "local-lvm" (some "pve1") = some 1 := by
    decide +kernel
  have hcreated : (scopeAfter (workerRefresh ++ scopeOvertaken)).createdAt = 4 := by decide +kernel
  rw [hstart] at ht
  cases ht
  rw [hcreated] at hlate
  exact absurd hlate (by decide)

end PveHelper.Storage
