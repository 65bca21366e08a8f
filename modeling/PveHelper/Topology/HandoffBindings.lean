/-
The storage bindings of a topology hand-off (`apply_topology_handoff_storage_bindings` of
`core/services/cluster_topology_handoff.py`): the intents that wait on a replacement
cluster are all applied or all refused once it has published a metadata generation of its
own. The first intent that cannot be applied gives the reason for all of them, and a
reason has to fit its column.
-/
import PveHelper.Lib.Atomic
import PveHelper.Lib.Calls
import PveHelper.Storage.Refresh

namespace PveHelper.Topology

open Lib Storage

/-- `ClusterTopologyHandoffStorageBinding.Status`. -/
inductive IntentStatus
  | pending | applied | refused
deriving DecidableEq, Repr

/-- `ClusterTopologyHandoffStorageBinding`, with its check on scope and node, and its columns' widths. -/
structure Intent where
  pk : Nat
  cluster : Nat
  storageId : String
  mount : Nat
  scope : Scope
  node : Option String
  status : IntentStatus := .pending
  appliedAt : Option Nat := none
  refusalReason : String := ""
  scopeNode : (scope = .shared ∧ node = none) ∨ (scope = .node ∧ ∃ n, node = some n ∧ n ≠ "")
  storageIdWidth : storageId.length ≤ 120
  nodeWidth : ∀ n, node = some n → n.length ≤ 120

/-- The audit event at the end. -/
structure HandoffEvent where
  action : String
  cluster : Nat
  outcome : String
  intentIds : List Nat
  reason : String

/-- Every cluster's catalog, and the intents. -/
structure HandoffStore where
  catalogs : Nat → Catalog
  intents : Table Intent.pk
  events : List HandoffEvent := []

inductive HandoffRaised
  /-- `ClusterTopologyHandoffError`. -/
  | handoff (message : String)
  /-- `IntegrityError`. -/
  | integrity
  /-- `DataError`: a text is longer than its column. -/
  | data

/-- The pending intents of a cluster, by their primary keys. -/
def HandoffStore.pending (w : HandoffStore) (cluster : Nat) : List Intent :=
  (w.intents.rows.filter fun i => decide (i.cluster = cluster ∧ i.status = .pending)).insertionSort fun i j => i.pk ≤ j.pk

/-! ## What refuses an intent -/

/-- Why an intent is refused. -/
inductive Refusal
  | absent | scopeChanged | notPermitted | noNodeState | alreadyBound
deriving DecidableEq, Repr

def Refusal.text (i : Intent) : Refusal → String
  | .absent => "Storage '" ++ i.storageId ++ "' was absent from complete replacement metadata."
  | .scopeChanged => "Storage '" ++ i.storageId ++ "' changed shared/node scope."
  | .notPermitted => "Storage '" ++ i.storageId ++ "' no longer permits node '" ++ i.node.getD "" ++ "'."
  | .noNodeState =>
    "Storage '" ++ i.storageId ++ "' has no complete present metadata for node '" ++ i.node.getD "" ++ "'."
  | .alreadyBound =>
    "Storage '" ++ i.storageId ++ "' already has a binding for the confirmed scope and node; " ++
      "it may have changed after hand-off."

section
variable (c : Catalog) (generation : Gen)

/-- `definitions.get(storage_id)`. -/
def definitionOf (storageId : String) : Option ClusterStorage :=
  (c.storages.get storageId).filter fun d => d.present && !d.unmanaged && d.observedMetadataGeneration = generation

/-- `(definition.pk, node) in node_states`. -/
def hasNodeState (d : ClusterStorage) (node : String) : Bool :=
  (d.nodeStates.get node).any fun s => s.present && s.observedMetadataGeneration = generation

/-- The checks on one intent. -/
def refusalOf (i : Intent) : Option Refusal :=
  match definitionOf c generation i.storageId with
  | none => some .absent
  | some d =>
    if d.shared ≠ decide (i.scope = .shared) then some .scopeChanged
    else if i.scope = .node && !d.nodes.isEmpty && !d.nodes.contains (i.node.getD "") then some .notPermitted
    else if i.scope = .node && !hasNodeState generation d (i.node.getD "") then some .noNodeState
    else if (d.mountBindings.get i.node).isSome then some .alreadyBound
    else none

/-- The loop over the intents, up to the first that is refused. -/
def firstRefusal (intents : List Intent) : Option (Intent × Refusal) :=
  intents.findSome? fun i => (refusalOf c generation i).map fun r => (i, r)

end

/-! ## What is written -/

/-- `refusal_reason` is that wide. -/
def refusalWidth : Nat := 255

def HandoffStore.refuse (w : HandoffStore) (reason : String) (i : Intent) : HandoffStore :=
  { w with intents := w.intents.alter i.pk (fun i => { i with status := .refused, refusalReason := reason }) fun _ => rfl }

def saveRefused (reason : String) (i : Intent) : EStateM HandoffRaised HandoffStore Unit :=
  change fun w => if refusalWidth < reason.length then .error .data else .ok (w.refuse reason i)

def Intent.binding (i : Intent) : MountBinding := ⟨i.node, i.scope, i.mount⟩

def HandoffStore.bind (w : HandoffStore) (cluster : Nat) (i : Intent) : HandoffStore :=
  { w with catalogs := Function.update w.catalogs cluster { w.catalogs cluster with
    storages := (w.catalogs cluster).storages.alter i.storageId
      (fun d => { d with mountBindings := d.mountBindings.put i.binding }) fun _ => rfl } }

/-- `ClusterStorageMount.objects.create`, under the constraint on storage and node. -/
def createBinding (cluster : Nat) (i : Intent) : EStateM HandoffRaised HandoffStore Unit :=
  change fun w => match (w.catalogs cluster).storages.get i.storageId with
    | none => .error .integrity
    | some d => if (d.mountBindings.get i.node).isSome then .error .integrity else .ok (w.bind cluster i)

def HandoffStore.markApplied (w : HandoffStore) (now : Nat) (i : Intent) : HandoffStore :=
  { w with intents := w.intents.alter i.pk (fun i => { i with status := .applied, appliedAt := some now }) fun _ => rfl }

def saveApplied (now : Nat) (i : Intent) : EStateM HandoffRaised HandoffStore Unit :=
  change fun w => .ok (w.markApplied now i)

def recordHandoff (e : HandoffEvent) : EStateM HandoffRaised HandoffStore Unit :=
  change fun w => .ok { w with events := w.events ++ [e] }

/-- The catalog's metadata is complete, and of this generation. -/
def AtGeneration (c : Catalog) (generation : Gen) : Prop :=
  ∃ st, c.state = some st ∧ st.metadataComplete = true ∧ st.metadataGeneration = some generation

instance (c : Catalog) (generation : Gen) : Decidable (AtGeneration c generation) :=
  match h : c.state with
  | none => .isFalse fun ⟨st, hst, _⟩ => by rw [h] at hst; cases hst
  | some st => decidable_of_iff (st.metadataComplete = true ∧ st.metadataGeneration = some generation)
      ⟨fun hst => ⟨st, h, hst⟩, fun ⟨st', hst', hrest⟩ => by rw [h] at hst'; cases hst'; exact hrest⟩

/-- The branch that refuses. -/
def refuseAll (cluster : Nat) (intents : List Intent) (reason : String) : EStateM HandoffRaised HandoffStore Unit := do
  intents.forM (saveRefused reason)
  recordHandoff ⟨"cluster.topology_handoff_storage_refused", cluster, "refused", intents.map (·.pk), reason⟩

/-- The branch that applies. -/
def applyAll (cluster now : Nat) (intents : List Intent) : EStateM HandoffRaised HandoffStore Unit := do
  intents.forM fun i => do
    createBinding cluster i
    saveApplied now i
  recordHandoff ⟨"cluster.topology_handoff_storage_applied", cluster, "success", intents.map (·.pk), ""⟩

/-- `apply_topology_handoff_storage_bindings`. -/
def applyHandoffStorageBindings (cluster : Nat) (generation : Gen) (now : Nat) : EStateM HandoffRaised HandoffStore Unit := do
  let intents ← query fun w => .ok (w.pending cluster)
  if intents.isEmpty then pure ()
  else do
    let c ← query fun w => if AtGeneration (w.catalogs cluster) generation then .ok (w.catalogs cluster)
      else .error (.handoff "Storage hand-off mappings require the replacement's current complete metadata generation.")
    match firstRefusal c generation intents with
    | some (i, refusal) => refuseAll cluster intents (refusal.text i)
    | none => applyAll cluster now intents

/-! ## When an intent can be applied -/

/-- The storage of the intent is managed and of this generation, with the scope of the intent;
for a node it permits the node and was seen there; and it is not bound yet for the node or,
of a shared one, at all. -/
structure Grantable (c : Catalog) (generation : Gen) (i : Intent) (d : ClusterStorage) : Prop where
  found : c.storages.get i.storageId = some d
  present : d.present = true
  managed : d.unmanaged = false
  current : d.observedMetadataGeneration = generation
  scope : d.shared = true ↔ i.scope = .shared
  permits : ∀ n, i.node = some n → d.nodes = [] ∨ n ∈ d.nodes
  observed : ∀ n, i.node = some n →
    ∃ s, d.nodeStates.get n = some s ∧ s.present = true ∧ s.observedMetadataGeneration = generation
  unbound : d.mountBindings.get i.node = none

section
variable {c : Catalog} {generation : Gen} {i : Intent} {d : ClusterStorage}

theorem definitionOf_eq_some {storageId : String} : definitionOf c generation storageId = some d ↔
    c.storages.get storageId = some d ∧ d.present = true ∧ d.unmanaged = false ∧ d.observedMetadataGeneration = generation := by
  unfold definitionOf
  rw [Option.filter_eq_some_iff]
  simp [and_assoc]

theorem hasNodeState_iff {node : String} : hasNodeState generation d node = true ↔
    ∃ s, d.nodeStates.get node = some s ∧ s.present = true ∧ s.observedMetadataGeneration = generation := by
  unfold hasNodeState
  cases d.nodeStates.get node <;> simp

/-- A shared intent names no node, and one for a node names it. -/
theorem Intent.node_eq (i : Intent) : (i.scope = .shared ∧ i.node = none) ∨ (i.scope = .node ∧ i.node = some (i.node.getD "")) := by
  rcases i.scopeNode with h | ⟨hscope, n, hn, -⟩
  · exact .inl h
  · exact .inr ⟨hscope, by rw [hn]; rfl⟩

theorem refusalOf_eq_none : refusalOf c generation i = none ↔ ∃ d, Grantable c generation i d := by
  unfold refusalOf
  cases hdef : definitionOf c generation i.storageId with
  | none =>
    simp only [reduceCtorEq, false_iff, not_exists]
    intro d hd
    have hsome := definitionOf_eq_some.mpr ⟨hd.found, hd.present, hd.managed, hd.current⟩
    rw [hdef] at hsome
    cases hsome
  | some d =>
    obtain ⟨hfound, hpresent, hmanaged, hcurrent⟩ := definitionOf_eq_some.mp hdef
    have hone : (∃ d', Grantable c generation i d') ↔ Grantable c generation i d := by
      refine ⟨?_, fun h => ⟨d, h⟩⟩
      rintro ⟨d', hd'⟩
      obtain rfl := Option.some.inj (hfound.symm.trans hd'.found)
      exact hd'
    rw [hone]
    dsimp only
    have hshared : d.shared ≠ decide (i.scope = .shared) ↔ ¬ (d.shared = true ↔ i.scope = .shared) := by
      cases hs : d.shared <;> simp
    by_cases hscope : d.shared = true ↔ i.scope = .shared
    · rw [if_neg (by rw [hshared, not_not]; exact hscope)]
      rcases i.node_eq with ⟨hkind, hnode⟩ | ⟨hkind, hnode⟩
      · simp only [hkind, reduceCtorEq, decide_false, Bool.false_and, Bool.false_eq_true, if_false, hnode]
        constructor
        · intro h
          refine ⟨hfound, hpresent, hmanaged, hcurrent, hscope, by simp [hnode], by simp [hnode], ?_⟩
          cases hbound : d.mountBindings.get none with
          | none => rw [hnode, hbound]
          | some b =>
            rw [hbound] at h
            cases h
        · intro h
          rw [← hnode, h.unbound]
          rfl
      · generalize i.node.getD "" = n at hnode ⊢
        simp only [hkind, decide_true, Bool.true_and, Bool.and_eq_true, Bool.not_eq_true']
        constructor
        · intro h
          have hpermits : d.nodes = [] ∨ n ∈ d.nodes := by
            by_contra hnot
            rw [not_or] at hnot
            rw [if_pos (by simpa using hnot)] at h
            cases h
          rw [if_neg (by simpa [or_iff_not_imp_left] using hpermits)] at h
          have hobserved : hasNodeState generation d n = true := by
            by_contra hnot
            rw [if_pos (by simpa using hnot)] at h
            cases h
          rw [if_neg (by simp [hobserved])] at h
          have hfree : d.mountBindings.get i.node = none := by
            by_contra hnot
            rw [if_pos (by simpa [Option.isSome_iff_ne_none] using hnot)] at h
            cases h
          refine ⟨hfound, hpresent, hmanaged, hcurrent, hscope, ?_, ?_, hfree⟩
          · intro m hm
            obtain rfl := Option.some.inj (hnode.symm.trans hm)
            exact hpermits
          · intro m hm
            obtain rfl := Option.some.inj (hnode.symm.trans hm)
            exact hasNodeState_iff.mp hobserved
        · intro h
          have hpermits := h.permits n hnode
          rw [if_neg (by simpa [or_iff_not_imp_left] using hpermits),
            if_neg (by simp [hasNodeState_iff.mpr (h.observed n hnode)]), if_neg (by simp [h.unbound])]
    · rw [if_pos (hshared.mpr hscope)]
      simp only [reduceCtorEq, false_iff]
      exact fun h => hscope h.scope

theorem firstRefusal_eq_none {intents : List Intent} :
    firstRefusal c generation intents = none ↔ ∀ i ∈ intents, ∃ d, Grantable c generation i d := by
  unfold firstRefusal
  rw [List.findSome?_eq_none_iff]
  exact forall₂_congr fun i _ => by rw [Option.map_eq_none_iff, refusalOf_eq_none]

end

/-! ## The two loops -/

/-- The binding of a storage for a node. -/
def HandoffStore.binding (w : HandoffStore) (cluster : Nat) (storageId : String) (node : Option String) :
    Option MountBinding :=
  ((w.catalogs cluster).storages.get storageId).bind fun d => d.mountBindings.get node

theorem forM_change {f : Intent → EStateM HandoffRaised HandoffStore Unit} {g : HandoffStore → Intent → HandoffStore}
    {inv : HandoffStore → List Intent → Prop}
    (hstep : ∀ w i is, inv w (i :: is) → f i w = .ok () (g w i) ∧ inv (g w i) is) {is : List Intent} {w : HandoffStore}
    (h : inv w is) : is.forM f w = .ok () (is.foldl g w) := by
  induction is generalizing w with
  | nil => rfl
  | cons i is ih =>
    obtain ⟨hfirst, hrest⟩ := hstep w i is h
    exact bind_ok.mpr ⟨(), _, hfirst, ih hrest⟩

/-- What a loop does to the row of each intent that it goes over, and to no other. -/
theorem get_intents_foldl {g : HandoffStore → Intent → HandoffStore} {f : Intent → Intent} {hf : ∀ i, (f i).pk = i.pk}
    (hg : ∀ w i, (g w i).intents = w.intents.alter i.pk f hf) (hff : ∀ i, f (f i) = f i) (is : List Intent)
    (w : HandoffStore) (pk : Nat) :
    (is.foldl g w).intents.get pk = if pk ∈ is.map (·.pk) then (w.intents.get pk).map f else w.intents.get pk := by
  induction is generalizing w with
  | nil => rfl
  | cons i is ih =>
    rw [List.foldl_cons, ih, hg, Table.get_alter]
    by_cases hi : pk = i.pk
    · subst hi
      have htwice : f ∘ f = f := funext hff
      simp [htwice]
    · simp [hi]

section
variable {w : HandoffStore} {cluster : Nat} {reason : String} {is : List Intent}

theorem refuse_foldl_catalogs : (is.foldl (fun w i => w.refuse reason i) w).catalogs = w.catalogs := by
  induction is generalizing w with
  | nil => rfl
  | cons i is ih => rw [List.foldl_cons, ih, HandoffStore.refuse]

/-- One turn of the loop that applies. -/
def HandoffStore.grant (w : HandoffStore) (cluster now : Nat) (i : Intent) : HandoffStore :=
  (w.bind cluster i).markApplied now i

theorem grant_binding {now : Nat} {i : Intent} {d : ClusterStorage} (hfound : (w.catalogs cluster).storages.get i.storageId = some d)
    (c : Nat) (storageId : String) (node : Option String) :
    (w.grant cluster now i).binding c storageId node =
      if c = cluster ∧ storageId = i.storageId ∧ node = i.node then some i.binding else w.binding c storageId node := by
  have hcatalogs : (w.grant cluster now i).catalogs = (w.bind cluster i).catalogs := rfl
  unfold HandoffStore.binding
  rw [hcatalogs, HandoffStore.bind]
  dsimp only
  by_cases hc : c = cluster
  · subst hc
    rw [Function.update_self, Table.get_alter]
    by_cases hs : storageId = i.storageId
    · subst hs
      rw [if_pos rfl, hfound]
      simp only [Option.map_some, Option.bind_some, Table.get_put, true_and]
      rfl
    · simp [hs]
  · rw [Function.update_of_ne hc]
    simp [hc]

theorem grant_found {now : Nat} {i : Intent} (storageId : String) :
    (((w.grant cluster now i).catalogs cluster).storages.get storageId).isSome =
      ((w.catalogs cluster).storages.get storageId).isSome := by
  have hcatalogs : (w.grant cluster now i).catalogs = (w.bind cluster i).catalogs := rfl
  rw [hcatalogs, HandoffStore.bind]
  dsimp only
  rw [Function.update_self, Table.get_alter]
  split <;> simp

/-- Where each of these intents has a storage that is not bound for it yet. -/
structure Free (w : HandoffStore) (cluster : Nat) (is : List Intent) : Prop where
  found : ∀ i ∈ is, ((w.catalogs cluster).storages.get i.storageId).isSome
  unbound : ∀ i ∈ is, w.binding cluster i.storageId i.node = none
  distinct : (is.map fun i => (i.storageId, i.node)).Nodup

theorem Free.step {now : Nat} {i : Intent} (h : Free w cluster (i :: is)) :
    (do createBinding cluster i; saveApplied now i) w = .ok () (w.grant cluster now i) ∧
      Free (w.grant cluster now i) cluster is := by
  obtain ⟨d, hfound⟩ := Option.isSome_iff_exists.mp (h.found i List.mem_cons_self)
  have hunbound : d.mountBindings.get i.node = none := by
    have hnone := h.unbound i List.mem_cons_self
    rwa [HandoffStore.binding, hfound] at hnone
  have hdistinct := h.distinct
  rw [List.map_cons, List.nodup_cons] at hdistinct
  refine ⟨?_, ⟨fun j hj => ?_, fun j hj => ?_, hdistinct.2⟩⟩
  · refine change_bind_ok.mpr ⟨w.bind cluster i, ?_, rfl⟩
    rw [hfound]
    dsimp only
    rw [hunbound]
    rfl
  · rw [grant_found]
    exact h.found j (List.mem_cons_of_mem _ hj)
  · rw [grant_binding hfound, if_neg, h.unbound j (List.mem_cons_of_mem _ hj)]
    rintro ⟨-, hs, hn⟩
    exact hdistinct.1 (List.mem_map.mpr ⟨j, hj, by rw [hs, hn]⟩)

/-- After the loop the intents' bindings are there, and every other is as it was. -/
theorem grant_foldl_binding {now : Nat} (h : Free w cluster is) (c : Nat) (storageId : String) (node : Option String) :
    (is.foldl (fun w i => w.grant cluster now i) w).binding c storageId node =
      ((is.find? fun i => decide (c = cluster ∧ storageId = i.storageId ∧ node = i.node)).map Intent.binding).or
        (w.binding c storageId node) := by
  induction is generalizing w with
  | nil => rfl
  | cons i is ih =>
    obtain ⟨d, hfound⟩ := Option.isSome_iff_exists.mp (h.found i List.mem_cons_self)
    rw [List.foldl_cons, ih (@Free.step _ _ _ now _ h).2, grant_binding hfound, List.find?_cons]
    by_cases hi : c = cluster ∧ storageId = i.storageId ∧ node = i.node
    · rw [if_pos hi, decide_eq_true hi]
      have hnone : is.find? (fun j => decide (c = cluster ∧ storageId = j.storageId ∧ node = j.node)) = none := by
        refine List.find?_eq_none.mpr fun j hj => ?_
        have hdistinct := h.distinct
        rw [List.map_cons, List.nodup_cons] at hdistinct
        simp only [decide_eq_true_eq, not_and]
        intro _ hs hn
        exact hdistinct.1 (List.mem_map.mpr ⟨j, hj, by rw [← hs, ← hn, hi.2.1, hi.2.2]⟩)
      rw [hnone]
      rfl
    · rw [if_neg hi, decide_eq_false hi]

end

/-! ## Reasons that fit -/

/-- The two reasons that name the storage and the node leave room for this much of both. -/
def Refusal.Fits (i : Intent) : Refusal → Prop
  | .notPermitted => i.storageId.length + (i.node.getD "").length ≤ 218
  | .noNodeState => i.storageId.length + (i.node.getD "").length ≤ 199
  | _ => True

theorem Refusal.text_length (i : Intent) (r : Refusal) : (r.text i).length ≤ refusalWidth ↔ r.Fits i := by
  have hwidth := i.storageIdWidth
  have hstorage : "Storage '".length = 9 := rfl
  have hclose : "'.".length = 2 := rfl
  unfold refusalWidth
  cases r with
  | absent =>
    have htail : "' was absent from complete replacement metadata.".length = 48 := rfl
    refine iff_of_true ?_ trivial
    rw [Refusal.text, String.length_append, String.length_append]
    omega
  | scopeChanged =>
    have htail : "' changed shared/node scope.".length = 28 := rfl
    refine iff_of_true ?_ trivial
    rw [Refusal.text, String.length_append, String.length_append]
    omega
  | notPermitted =>
    have hmiddle : "' no longer permits node '".length = 26 := rfl
    rw [Refusal.text, String.length_append, String.length_append, String.length_append, String.length_append, Refusal.Fits]
    omega
  | noNodeState =>
    have hmiddle : "' has no complete present metadata for node '".length = 45 := rfl
    rw [Refusal.text, String.length_append, String.length_append, String.length_append, String.length_append, Refusal.Fits]
    omega
  | alreadyBound =>
    have hmiddle : "' already has a binding for the confirmed scope and node; ".length = 58 := rfl
    have htail : "it may have changed after hand-off.".length = 35 := rfl
    refine iff_of_true ?_ trivial
    rw [Refusal.text, String.length_append, String.length_append, String.length_append]
    omega

/-! ## All or none -/

/-- The pending intents of a cluster are applied where each of them can be, and otherwise
refused for one reason, with nothing bound; no other intent and no other binding changes. -/
structure AllOrNone (w w' : HandoffStore) (cluster : Nat) (generation : Gen) (now : Nat) : Prop where
  applied : (∀ i ∈ w.pending cluster, ∃ d, Grantable (w.catalogs cluster) generation i d) →
    ∀ i ∈ w.pending cluster, w.binding cluster i.storageId i.node = none ∧
      w'.binding cluster i.storageId i.node = some i.binding ∧
      w'.intents.get i.pk = some { i with status := .applied, appliedAt := some now }
  refused : ¬ (∀ i ∈ w.pending cluster, ∃ d, Grantable (w.catalogs cluster) generation i d) →
    w'.catalogs = w.catalogs ∧ ∃ reason, ∀ i ∈ w.pending cluster,
      w'.intents.get i.pk = some { i with status := .refused, refusalReason := reason }
  settled : ∀ pk, (∀ i ∈ w.pending cluster, i.pk ≠ pk) → w'.intents.get pk = w.intents.get pk
  elsewhere : ∀ c storageId node, (c = cluster → ∀ i ∈ w.pending cluster, (i.storageId, i.node) ≠ (storageId, node)) →
    w'.binding c storageId node = w.binding c storageId node

section
variable {w : HandoffStore} {cluster : Nat} {generation : Gen} {now : Nat}

theorem mem_pending {i : Intent} : i ∈ w.pending cluster ↔ w.intents.get i.pk = some i ∧ i.cluster = cluster ∧ i.status = .pending := by
  unfold HandoffStore.pending
  rw [List.mem_insertionSort, List.mem_filter, Table.mem_iff_get, decide_eq_true_eq]

theorem get_pending_foldl {g : HandoffStore → Intent → HandoffStore} {f : Intent → Intent}
    {hf : ∀ i, (f i).pk = i.pk}
    (hg : ∀ w i, (g w i).intents = w.intents.alter i.pk f hf) (hff : ∀ i, f (f i) = f i) {i : Intent}
    (hi : i ∈ w.pending cluster) : ((w.pending cluster).foldl g w).intents.get i.pk = some (f i) := by
  rw [get_intents_foldl hg hff, if_pos (List.mem_map.mpr ⟨i, hi, rfl⟩), (mem_pending.mp hi).1]
  rfl

theorem get_settled_foldl {g : HandoffStore → Intent → HandoffStore} {f : Intent → Intent} {hf : ∀ i, (f i).pk = i.pk}
    (hg : ∀ w i, (g w i).intents = w.intents.alter i.pk f hf) (hff : ∀ i, f (f i) = f i) {pk : Nat}
    (hpk : ∀ i ∈ w.pending cluster, i.pk ≠ pk) : ((w.pending cluster).foldl g w).intents.get pk = w.intents.get pk := by
  rw [get_intents_foldl hg hff, if_neg]
  intro hmem
  obtain ⟨i, hi, hpk'⟩ := List.mem_map.mp hmem
  exact hpk i hi hpk'

/-- The run of a hand-off with nothing pending. -/
theorem apply_nothing (hnone : w.pending cluster = []) : applyHandoffStorageBindings cluster generation now w = .ok () w := by
  unfold applyHandoffStorageBindings
  refine query_bind_ok.mpr ⟨[], by rw [hnone], rfl⟩

theorem apply_pending (hsome : w.pending cluster ≠ []) (hpublished : AtGeneration (w.catalogs cluster) generation) :
    applyHandoffStorageBindings cluster generation now w =
      (match firstRefusal (w.catalogs cluster) generation (w.pending cluster) with
        | some (i, refusal) => refuseAll cluster (w.pending cluster) (refusal.text i)
        | none => applyAll cluster now (w.pending cluster)) w := by
  unfold applyHandoffStorageBindings
  rw [bind_of_ok (show query (fun w => .ok (w.pending cluster)) w = .ok (w.pending cluster) w from rfl),
    if_neg (by simpa using hsome)]
  refine bind_of_ok ?_
  unfold query
  dsimp only
  rw [if_pos hpublished]

theorem refuseAll_fits {intents : List Intent} {reason : String} (hfits : reason.length ≤ refusalWidth) :
    ∃ events, refuseAll cluster intents reason w =
      .ok () { intents.foldl (fun w i => w.refuse reason i) w with events := events } := by
  refine ⟨_, bind_ok.mpr ⟨(), _, @forM_change _ _ (fun _ _ => True) (fun w i is _ => ⟨?_, trivial⟩) _ _ trivial, rfl⟩⟩
  exact change_ok.mpr (if_neg (by omega))

theorem refuseAll_too_long {intents : List Intent} {reason : String} (hsome : intents ≠ []) (hlong : refusalWidth < reason.length) :
    ∃ w', refuseAll cluster intents reason w = .error .data w' := by
  obtain ⟨i, is, rfl⟩ := List.exists_cons_of_ne_nil hsome
  refine ⟨w, bind_error.mpr (.inl (bind_error.mpr (.inl ?_)))⟩
  unfold saveRefused change
  dsimp only
  rw [if_pos hlong]

theorem applyAll_free {intents : List Intent} (h : Free w cluster intents) :
    ∃ events, applyAll cluster now intents w =
      .ok () { intents.foldl (fun w i => w.grant cluster now i) w with events := events } := by
  refine ⟨_, bind_ok.mpr ⟨(), _, @forM_change _ _ (fun w is => Free w cluster is) (fun w i is h => h.step) _ _ h, rfl⟩⟩

theorem free_of_grantable (hdistinct : ((w.pending cluster).map fun i => (i.storageId, i.node)).Nodup)
    (h : ∀ i ∈ w.pending cluster, ∃ d, Grantable (w.catalogs cluster) generation i d) : Free w cluster (w.pending cluster) where
  found i hi := by
    obtain ⟨d, hd⟩ := h i hi
    rw [hd.found]
    rfl
  unbound i hi := by
    obtain ⟨d, hd⟩ := h i hi
    rw [HandoffStore.binding, hd.found]
    exact hd.unbound
  distinct := hdistinct

theorem allOrNone_applied (hdistinct : ((w.pending cluster).map fun i => (i.storageId, i.node)).Nodup)
    (h : ∀ i ∈ w.pending cluster, ∃ d, Grantable (w.catalogs cluster) generation i d) (events : List HandoffEvent) :
    AllOrNone w { (w.pending cluster).foldl (fun w i => w.grant cluster now i) w with events := events } cluster generation
      now := by
  have hfree := free_of_grantable hdistinct h
  have hbinding := @grant_foldl_binding _ _ _ now hfree
  refine ⟨fun _ i hi => ⟨hfree.unbound i hi, ?_, ?_⟩, fun hnot => absurd h hnot, ?_, ?_⟩
  · show ((w.pending cluster).foldl (fun w i => w.grant cluster now i) w).binding cluster i.storageId i.node = _
    rw [hbinding]
    -- what is found under the pair of `i` is `i`
    cases hfind : (w.pending cluster).find? fun j => decide (cluster = cluster ∧ i.storageId = j.storageId ∧ i.node = j.node) with
    | none =>
      have hi' := List.find?_eq_none.mp hfind i hi
      simp at hi'
    | some j =>
      have hpair := List.find?_some hfind
      simp only [true_and, decide_eq_true_eq] at hpair
      have hsame := List.inj_on_of_nodup_map hdistinct hi (List.mem_of_find?_eq_some hfind) (Prod.ext hpair.1 hpair.2)
      rw [hsame]
      rfl
  · exact @get_pending_foldl _ _ _ (fun i => { i with status := .applied, appliedAt := some now }) (fun _ => rfl) (fun _ _ => rfl) (fun _ => rfl) _ hi
  · intro pk hpk
    exact @get_settled_foldl _ _ _ (fun i => { i with status := .applied, appliedAt := some now }) (fun _ => rfl) (fun _ _ => rfl) (fun _ => rfl) _ hpk
  · intro c storageId node hother
    show ((w.pending cluster).foldl (fun w i => w.grant cluster now i) w).binding c storageId node = _
    rw [hbinding, List.find?_eq_none.mpr]
    · rfl
    · intro i hi
      simp only [decide_eq_true_eq, not_and]
      intro hc hs hn
      exact hother hc i hi (Prod.ext hs.symm hn.symm)

theorem allOrNone_refused (reason : String) (h : ¬ ∀ i ∈ w.pending cluster, ∃ d, Grantable (w.catalogs cluster) generation i d)
    (events : List HandoffEvent) :
    AllOrNone w { (w.pending cluster).foldl (fun w i => w.refuse reason i) w with events := events } cluster generation now := by
  have hcatalogs : ((w.pending cluster).foldl (fun w i => w.refuse reason i) w).catalogs = w.catalogs := refuse_foldl_catalogs
  refine ⟨fun hall => absurd hall h, fun _ => ⟨hcatalogs, reason, fun i hi => ?_⟩, ?_, ?_⟩
  · exact @get_pending_foldl _ _ _ (fun i => { i with status := .refused, refusalReason := reason }) (fun _ => rfl) (fun _ _ => rfl) (fun _ => rfl) _ hi
  · intro pk hpk
    exact @get_settled_foldl _ _ _ (fun i => { i with status := .refused, refusalReason := reason }) (fun _ => rfl) (fun _ _ => rfl) (fun _ => rfl) _ hpk
  · intro c storageId node _
    unfold HandoffStore.binding
    rw [hcatalogs]

end

/-- A metadata pass publishes its generation; and with that a hand-off does not raise, and is all
or none, exactly where the first intent that is refused has a reason that fits. -/
theorem applyHandoffStorageBindings_allOrNone (cluster : Nat) (generation : Gen) (now : Nat) :
    (∀ scope reads c, AtGeneration (publishMetadata scope reads c) c.nextGeneration) ∧
    ∀ w : HandoffStore, AtGeneration (w.catalogs cluster) generation →
      ((w.pending cluster).map fun i => (i.storageId, i.node)).Nodup →
      ((∃ w', applyHandoffStorageBindings cluster generation now w = .ok () w' ∧ AllOrNone w w' cluster generation now) ↔
        ∀ i refusal, firstRefusal (w.catalogs cluster) generation (w.pending cluster) = some (i, refusal) → refusal.Fits i) := by
  refine ⟨fun scope reads c => ⟨_, rfl, rfl, rfl⟩, fun w hpublished hdistinct => ?_⟩
  by_cases hsome : w.pending cluster = []
  · have hfirst : firstRefusal (w.catalogs cluster) generation (w.pending cluster) = none := by rw [hsome]; rfl
    rw [hfirst]
    refine ⟨fun _ i refusal h => (by cases h), fun _ => ⟨w, apply_nothing hsome, ?_⟩⟩
    exact ⟨fun _ => by simp [hsome], fun h => by simp [hsome] at h, fun _ _ => rfl, fun _ _ _ _ => rfl⟩
  rw [apply_pending hsome hpublished]
  cases hfirst : firstRefusal (w.catalogs cluster) generation (w.pending cluster) with
  | none =>
    have hall := firstRefusal_eq_none.mp hfirst
    obtain ⟨events, hrun⟩ := @applyAll_free _ _ now _ (free_of_grantable hdistinct hall)
    refine ⟨fun _ i refusal h => ?_, fun _ => ⟨_, hrun, allOrNone_applied hdistinct hall events⟩⟩
    cases h
  | some refused =>
    obtain ⟨i, refusal⟩ := refused
    have hnot : ¬ ∀ i ∈ w.pending cluster, ∃ d, Grantable (w.catalogs cluster) generation i d := by
      rw [← firstRefusal_eq_none, hfirst]
      simp
    dsimp only
    by_cases hfits : refusal.Fits i
    · obtain ⟨events, hrun⟩ := @refuseAll_fits w cluster (w.pending cluster) _ ((Refusal.text_length i refusal).mpr hfits)
      refine ⟨fun _ j r h => ?_, fun _ => ⟨_, hrun, allOrNone_refused _ hnot events⟩⟩
      cases h
      exact hfits
    · obtain ⟨w', hrun⟩ := @refuseAll_too_long w cluster _ _ hsome (not_le.mp (mt (Refusal.text_length i refusal).mp hfits))
      constructor
      · rintro ⟨w'', hok, -⟩
        rw [hrun] at hok
        cases hok
      · intro h
        exact absurd (h i refusal rfl) hfits

/-! ## Shared storages, and names that are too long -/

def sharedIntent (pk : Nat) (storageId : String) (mount : Nat) (h : storageId.length ≤ 120) : Intent where
  pk := pk
  cluster := 1
  storageId := storageId
  mount := mount
  scope := .shared
  node := none
  scopeNode := .inl ⟨rfl, rfl⟩
  storageIdWidth := h
  nodeWidth := by simp

def sharedStorage (storageId : String) : ClusterStorage := { ClusterStorage.new storageId 1 with shared := true }

/-- Two intents, for the two storages of a published catalog. -/
def sharedIntents : HandoffStore where
  catalogs := fun _ => {
    state := some { metadataGeneration := some 1, metadataComplete := true }
    storages := ⟨[sharedStorage "nas", sharedStorage "iso"], by decide⟩
    nextGeneration := 2 }
  intents := ⟨[sharedIntent 1 "nas" 7 (by decide), sharedIntent 2 "iso" 8 (by decide)], by decide⟩

theorem sharedIntents_applied : ∃ w', applyHandoffStorageBindings 1 1 0 sharedIntents = .ok () w' ∧
    AllOrNone sharedIntents w' 1 1 0 := by
  refine ((applyHandoffStorageBindings_allOrNone 1 1 0).2 _ ⟨_, rfl, rfl, rfl⟩ (by decide)).mpr fun i refusal h => ?_
  have hnone : firstRefusal (sharedIntents.catalogs 1) 1 (sharedIntents.pending 1) = none := by decide
  rw [hnone] at h
  cases h

/-- A published catalog with one storage. -/
def oneStorage (d : ClusterStorage) : Catalog where
  state := some { metadataGeneration := some 1, metadataComplete := true }
  storages := ⟨[d], by simp⟩
  nextGeneration := 2

def oneIntent (d : ClusterStorage) (i : Intent) : HandoffStore where
  catalogs := fun _ => oneStorage d
  intents := ⟨[i], by simp⟩

/-- A name as long as its column. -/
@[irreducible] def longName : String := String.ofList (List.replicate 120 'a')

theorem longName_length : longName.length = 120 := by
  unfold longName
  rw [String.length_ofList, List.length_replicate]

def longIntent : Intent where
  pk := 1
  cluster := 1
  storageId := longName
  mount := 7
  scope := .node
  node := some longName
  scopeNode := by
    refine .inr ⟨rfl, longName, rfl, fun h => ?_⟩
    have hlength := longName_length
    rw [h] at hlength
    cases hlength
  storageIdWidth := longName_length.le
  nodeWidth := by
    rintro n ⟨⟩
    exact longName_length.le

/-- Of a node that was not seen. -/
theorem firstRefusal_unseen {i : Intent} (hscope : i.scope = .node) :
    firstRefusal (oneStorage (.new i.storageId 1)) 1 [i] = some (i, .noNodeState) := by
  have hmem : ClusterStorage.new i.storageId 1 ∈ (oneStorage (.new i.storageId 1)).storages.rows := List.mem_singleton.mpr rfl
  have hdef : definitionOf (oneStorage (.new i.storageId 1)) 1 i.storageId = some (.new i.storageId 1) :=
    definitionOf_eq_some.mpr ⟨Table.get_of_mem hmem, rfl, rfl, rfl⟩
  have hrefusal : refusalOf (oneStorage (.new i.storageId 1)) 1 i = some .noNodeState := by
    unfold refusalOf
    rw [hdef]
    simp [ClusterStorage.new, hasNodeState, hscope]
  simp [firstRefusal, hrefusal]

theorem longIntent_raises : ¬ ∃ w',
    applyHandoffStorageBindings 1 1 0 (oneIntent (.new longName 1) longIntent) = .ok () w' ∧
      AllOrNone (oneIntent (.new longName 1) longIntent) w' 1 1 0 := by
  have hpending : (oneIntent (.new longName 1) longIntent).pending 1 = [longIntent] := rfl
  rw [apply_pending (by simp [hpending]) ⟨_, rfl, rfl, rfl⟩, hpending,
    show (oneIntent (.new longName 1) longIntent).catalogs 1 = oneStorage (.new longIntent.storageId 1) from rfl,
    firstRefusal_unseen rfl]
  have hlong : refusalWidth < (Refusal.noNodeState.text longIntent).length := by
    refine not_le.mp (mt (Refusal.text_length longIntent .noNodeState).mp ?_)
    have hsid : longIntent.storageId = longName := rfl
    have hnode : longIntent.node = some longName := rfl
    rw [Refusal.Fits, hsid, hnode, Option.getD_some, longName_length]
    decide
  obtain ⟨w', hrun⟩ := @refuseAll_too_long (oneIntent (.new longName 1) longIntent) 1 [longIntent] _ (by simp) hlong
  rintro ⟨w'', hok, -⟩
  dsimp only at hok
  rw [hrun] at hok
  cases hok

end PveHelper.Topology
