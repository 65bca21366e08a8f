/-
Switching off a content type of a storage, after `update_api_storage_content` of
`core/views/storage/api.py`. The change is to the cluster's one definition of the
storage. Whether a type is in use is asked of the volumes that the page of one node
lists, and neither that page's coverage nor the other nodes are looked at; a storage
the catalog does not have lists nothing at all.
-/
import PveHelper.Storage.Catalog

namespace PveHelper.Storage

open Lib Guests

/-! ## Content types -/

/-- An entry of `STORAGE_CONTENT_TYPES`, without its description. -/
structure ContentType where
  key : String
  label : String

/-- `STORAGE_CONTENT_TYPES`. -/
def storageContentTypes : List ContentType :=
  [⟨"images", "Disk image"⟩, ⟨"iso", "ISO image"⟩, ⟨"vztmpl", "Container template"⟩, ⟨"backup", "Backup"⟩,
    ⟨"rootdir", "Container"⟩, ⟨"snippets", "Snippets"⟩, ⟨"import", "Import"⟩]

/-- `STORAGE_CONTENT_ORDER`. -/
def storageContentOrder : List String := storageContentTypes.map (·.key)

/-- `labels.get(key, key)`. -/
def contentLabel (key : String) : String := ((storageContentTypes.find? fun t => t.key == key).map (·.label)).getD key

/-- `_ordered_storage_content`. -/
def orderedStorageContent (values current : List String) : List String :=
  storageContentOrder.filter values.contains ++
    sortedSet (values.filter fun v => v != "" && current.contains v && !storageContentOrder.contains v)

/-- The type a volume counts as. -/
def Volume.contentType (v : Volume) : String := Text.strip v.content

/-! ## What is in use -/

/-- One entry of `_api_content_usage`. -/
structure ContentUsage where
  key : String
  count : Nat := 0
  examples : List String := []

/-- One volume counted; up to three are kept as examples. -/
def countVolume (usage : Table ContentUsage.key) (v : CatalogVolume) : Table ContentUsage.key :=
  let key := v.volume.contentType
  if key = "" then usage
  else
    let bucket := (usage.get key).getD { key := key }
    usage.put
      { key := key
        count := bucket.count + 1
        examples := if bucket.examples.length < 3 ∧ v.volume.volid ≠ "" then bucket.examples ++ [v.volume.volid]
          else bucket.examples }

/-- `usage.get(key, {}).get("count", 0)`. -/
def usageCount (usage : Table ContentUsage.key) (key : String) : Nat := ((usage.get key).map (·.count)).getD 0

structure ContentBlocker where
  key : String
  label : String
  count : Nat
  examples : List String

/-- `_api_content_blockers`. -/
def apiContentBlockers (usage : Table ContentUsage.key) (removed : List String) : List ContentBlocker :=
  (removed.filter fun key => decide (0 < usageCount usage key)).map fun key =>
    ⟨key, contentLabel key, usageCount usage key, ((usage.get key).map (·.examples)).getD []⟩

/-- The message a blocker is shown as. -/
def ContentBlocker.message (b : ContentBlocker) : String :=
  "Cannot disable " ++ b.label ++ " because " ++ toString b.count ++ " volume" ++ (if b.count = 1 then "" else "s") ++
    " on this storage use it." ++
    (if (b.examples.take 3).isEmpty then "" else " Examples: " ++ ", ".intercalate (b.examples.take 3) ++ ".")

/-! ## The page -/

/-- The definition that the pages of a datastore show. -/
def pageDefinition (c : Catalog) (storage : String) : Option ClusterStorage :=
  if c.retired then none else (c.storages.get storage).filter fun d => !d.unmanaged && d.present

section page

variable (health : Nat → StorageBackendProfile → MountHealth) (scope : PublicationScope) (c : Catalog)

/-- `_resolve_datastore_scope`: the definition, the node and whether the page is elsewhere. -/
def resolveDatastoreScope (storage node : String) : Except String (Option ClusterStorage × String × Bool) :=
  match pageDefinition c storage with
  | none => .ok (none, node, false)
  | some d =>
    if d.shared then .ok (some d, "", node != "")
    else
      let present := ((d.nodeStates.rows.filter fun s => s.present && scope.publishes s.node).map (·.node)).insertionSort
        fun a b => ¬ b < a
      if node ≠ "" then
        if present.contains node then .ok (some d, node, false) else .error "Storage is not present on that node."
      else match present with
        | [only] => .ok (some d, only, true)
        | _ => .error "This datastore is node-local; address it through a node."

/-- `_api_live_content_values`. -/
def apiLiveContentValues (storage : String) : List String := ((pageDefinition c storage).map (·.content)).getD []

/-- What the volumes of a page are sorted by. -/
def CatalogVolume.sortKey (v : CatalogVolume) : String × String :=
  (match v.volume.vmid with | some n => if n = 0 then "" else toString n | none => "", v.volume.volid)

/-- `_api_storage_volumes`. -/
def apiStorageVolumes (definition : Option ClusterStorage) (node : String) : List CatalogVolume × Bool × String :=
  match definition with
  | none => ([], false, "Storage is not present in the latest catalog.")
  | some d =>
    let view := storageView health scope c d node
    ((storageVolumes view).insertionSort fun a b => ¬ (b.sortKey.1 < a.sortKey.1 ∨
        b.sortKey.1 = a.sortKey.1 ∧ b.sortKey.2 < a.sortKey.2),
      view.coverageComplete, view.coverageReason)

/-- `_api_content_usage`: whether the list is complete is not asked. -/
def apiContentUsage (definition : Option ClusterStorage) (node : String) : Table ContentUsage.key :=
  (apiStorageVolumes health scope c definition node).1.foldl countVolume .empty

end page

/-! ## The update -/

/-- `set_storage_content`: the list put to Proxmox. Its text is empty exactly when the list is. -/
def setStorageContent (writeEnabled : Bool) (content : List String) : Except String (List String) :=
  if !writeEnabled then .error "Storage content writes are disabled."
  else
    let content := (content.filter (· != "")).eraseDups
    if content.isEmpty then .error "Storage content cannot be empty." else .ok content

/-- The clients in turn until one takes the list: the lists sent, and the last
error when none did. A client is what it answers. -/
def sendContent (writeEnabled : Bool) (requested : List String) : List (Except String Unit) → String →
    List (List String) × Option String
  | [], err => ([], some err)
  | client :: rest, _ => match setStorageContent writeEnabled requested with
    | .error err => sendContent writeEnabled requested rest err
    | .ok content => match client with
      | .ok _ => ([content], none)
      | .error err =>
        let (sent, failed) := sendContent writeEnabled requested rest err
        (content :: sent, failed)

structure ContentRequest where
  storage : String
  node : String
  content : List String

inductive ContentOutcome
  | notFound (reason : String)
  | forbidden (reason : String)
  | refused (messages : List String)
  | updated (old new : List String)

/-- What the update meets outside the catalog: the setting that allows writes,
the cluster's clients and the health of the mounts. -/
structure ContentEnv where
  writeEnabled : Bool
  clients : List (Except String Unit)
  health : Nat → StorageBackendProfile → MountHealth

section update

variable (env : ContentEnv) (scope : PublicationScope) (c : Catalog) (req : ContentRequest)

/-- The content list the request asks for. -/
def requestedContent : List String := orderedStorageContent req.content (apiLiveContentValues c req.storage)

/-- The types the request takes from the catalog's list. -/
def removedContent : List String :=
  (apiLiveContentValues c req.storage).filter fun key => !(requestedContent c req).contains key

/-- `update_api_storage_content`: the content lists sent, and the answer. -/
def updateApiStorageContent : List (List String) × ContentOutcome :=
  if c.retired then ([], .notFound "Proxmox cluster not found")
  else match resolveDatastoreScope scope c req.storage req.node with
    | .error reason => ([], .notFound reason)
    | .ok (definition, node, _) =>
      if !env.writeEnabled then ([], .forbidden "Storage write actions are disabled.")
      else if (requestedContent c req).isEmpty then ([], .refused ["Select at least one content type."])
      else
        let blockers := apiContentBlockers (apiContentUsage env.health scope c definition node) (removedContent c req)
        if !blockers.isEmpty then ([], .refused (blockers.map (·.message)))
        else
          let result := sendContent env.writeEnabled (requestedContent c req) env.clients ""
          (result.1, match result.2 with
            | none => .updated (apiLiveContentValues c req.storage) (requestedContent c req)
            | some err => .refused ["Failed to update storage content: " ++
                (if err = "" then "No configured Proxmox endpoints." else err)])

end update

/-! ## What the check counts -/

theorem usageCount_countVolume (usage : Table ContentUsage.key) (v : CatalogVolume) {key : String} (hk : key ≠ "") :
    usageCount (countVolume usage v) key = usageCount usage key + if v.volume.contentType = key then 1 else 0 := by
  simp only [countVolume]
  split
  · rename_i he
    have hne : v.volume.contentType ≠ key := fun h => hk (h.symm.trans he)
    simp [hne]
  · by_cases h : v.volume.contentType = key
    · subst h
      simp only [usageCount, Table.get_put, if_true, Option.map_some, Option.getD_some]
      cases usage.get v.volume.contentType <;> simp
    · simp [usageCount, Table.get_put, h, Ne.symm h]

/-- The fold counts the volumes of each type. -/
theorem usageCount_foldl (volumes : List CatalogVolume) (usage : Table ContentUsage.key) {key : String} (hk : key ≠ "") :
    usageCount (volumes.foldl countVolume usage) key
      = usageCount usage key + volumes.countP fun v => decide (v.volume.contentType = key) := by
  induction volumes generalizing usage with
  | nil => rfl
  | cons v volumes ih =>
    rw [List.foldl_cons, ih, usageCount_countVolume usage v hk, List.countP_cons]
    simp only [decide_eq_true_eq]
    omega

/-- No volume is counted under the empty type. -/
theorem usageCount_empty (volumes : List CatalogVolume) {usage : Table ContentUsage.key} (h : usageCount usage "" = 0) :
    usageCount (volumes.foldl countVolume usage) "" = 0 := by
  induction volumes generalizing usage with
  | nil => exact h
  | cons v volumes ih =>
    have hstep : usageCount (countVolume usage v) "" = 0 := by
      simp only [countVolume]
      split
      · exact h
      · rename_i hne
        simpa [usageCount, Table.get_put, hne] using h
    rw [List.foldl_cons]
    exact ih hstep

/-- The volumes of the page, as the view lists them. -/
def pageVolumes (health : Nat → StorageBackendProfile → MountHealth) (scope : PublicationScope) (c : Catalog)
    (definition : Option ClusterStorage) (node : String) : List CatalogVolume :=
  (definition.map fun d => storageVolumes (storageView health scope c d node)).getD []

section update

variable {env : ContentEnv} {scope : PublicationScope} {c : Catalog} {req : ContentRequest}

theorem mem_apiStorageVolumes {health : Nat → StorageBackendProfile → MountHealth} {definition : Option ClusterStorage}
    {node : String} {v : CatalogVolume} :
    v ∈ (apiStorageVolumes health scope c definition node).1 ↔ v ∈ pageVolumes health scope c definition node := by
  cases definition with
  | none => rfl
  | some d => exact List.mem_insertionSort _

theorem blockers_empty_iff {health : Nat → StorageBackendProfile → MountHealth} {definition : Option ClusterStorage}
    {node : String} {removed : List String} :
    apiContentBlockers (apiContentUsage health scope c definition node) removed = [] ↔
      ∀ t ∈ removed, t ≠ "" → ∀ v ∈ pageVolumes health scope c definition node, v.volume.contentType ≠ t := by
  simp only [apiContentBlockers, List.map_eq_nil_iff, List.filter_eq_nil_iff, decide_eq_true_eq, not_lt,
    Nat.le_zero]
  refine forall₂_congr fun t _ => ?_
  by_cases ht : t = ""
  · subst ht
    simp only [ne_eq, not_true_eq_false, false_implies, iff_true]
    exact usageCount_empty _ rfl
  · have hzero : usageCount (.empty : Table ContentUsage.key) t = 0 := rfl
    simp only [apiContentUsage, usageCount_foldl _ _ ht, hzero, Nat.zero_add, List.countP_eq_zero, decide_eq_true_eq,
      mem_apiStorageVolumes, ne_eq, ht, not_false_eq_true, forall_const]

theorem ne_of_mem_requestedContent {t : String} (h : t ∈ requestedContent c req) : t ≠ "" := by
  simp only [requestedContent, orderedStorageContent, List.mem_append, List.mem_filter, mem_sortedSet,
    Bool.and_eq_true, bne_iff_ne] at h
  rcases h with ⟨hknown, -⟩ | ⟨-, ⟨hne, -⟩, -⟩
  · intro he
    subst he
    revert hknown
    decide
  · exact hne

/-- A request that asks for something is put to Proxmox as it is. -/
theorem setStorageContent_requested (h : requestedContent c req ≠ []) :
    setStorageContent true (requestedContent c req) = .ok (requestedContent c req).eraseDups := by
  have hfilter : (requestedContent c req).filter (· != "") = requestedContent c req := by
    rw [List.filter_eq_self]
    intro t ht
    simpa using ne_of_mem_requestedContent ht
  have hne : (requestedContent c req).eraseDups ≠ [] := by
    obtain ⟨t, ht⟩ := List.exists_mem_of_ne_nil _ h
    exact List.ne_nil_of_mem (List.mem_eraseDups.mpr ht)
  simp [setStorageContent, hfilter, hne]

theorem mem_sendContent {requested content : List String} (h : setStorageContent true requested = .ok content)
    (clients : List (Except String Unit)) (err : String) {l : List String} :
    l ∈ (sendContent true requested clients err).1 ↔ clients ≠ [] ∧ l = content := by
  induction clients generalizing err with
  | nil => simp [sendContent]
  | cons client rest ih =>
    simp only [sendContent, h]
    cases client with
    | ok _ => simp
    | error e =>
      simp only [List.mem_cons, ih, ne_eq, reduceCtorEq, not_false_eq_true, true_and]
      exact ⟨fun h => h.elim id (·.2), .inl⟩

theorem resolveDatastoreScope_definition {storage node node' : String} {definition : Option ClusterStorage} {moved : Bool}
    (h : resolveDatastoreScope scope c storage node = .ok (definition, node', moved)) :
    definition = pageDefinition c storage := by
  simp only [resolveDatastoreScope] at h
  split at h
  · rename_i hd
    cases h
    exact hd.symm
  rename_i d hd
  split at h
  · cases h
    exact hd.symm
  split at h
  · split at h
    · cases h
      exact hd.symm
    · cases h
  · split at h
    · cases h
      exact hd.symm
    · cases h

variable (env scope c req)

/-- The request reaches Proxmox: writes are allowed, the cluster is managed and
has a client, the page is there, some type is asked for, and of the types taken
from the catalog's list none is that of a volume on the page. -/
def RequestPasses (node : String) : Prop :=
  c.retired = false ∧ env.writeEnabled = true ∧ env.clients ≠ [] ∧ requestedContent c req ≠ [] ∧
    (∃ moved, resolveDatastoreScope scope c req.storage req.node = .ok (pageDefinition c req.storage, node, moved)) ∧
    ∀ t ∈ removedContent c req, t ≠ "" →
      ∀ v ∈ pageVolumes env.health scope c (pageDefinition c req.storage) node, v.volume.contentType ≠ t

variable {env scope c req}

theorem mem_updateApiStorageContent {l : List String} : l ∈ (updateApiStorageContent env scope c req).1 ↔
    (∃ node, RequestPasses env scope c req node) ∧ l = (requestedContent c req).eraseDups := by
  simp only [updateApiStorageContent, RequestPasses]
  cases hret : c.retired with
  | true => simp
  | false =>
    simp only [Bool.false_eq_true, if_false, true_and]
    cases hres : resolveDatastoreScope scope c req.storage req.node with
    | error reason => simp
    | ok page =>
      obtain ⟨definition, node, moved⟩ := page
      obtain rfl := resolveDatastoreScope_definition hres
      cases hw : env.writeEnabled with
      | false => simp
      | true =>
        by_cases hreq : requestedContent c req = []
        · simp [hreq]
        have hfree := @blockers_empty_iff scope c env.health (pageDefinition c req.storage) node (removedContent c req)
        by_cases hblock : apiContentBlockers
            (apiContentUsage env.health scope c (pageDefinition c req.storage) node) (removedContent c req) = []
        · have hpass := hfree.mp hblock
          simp only [Bool.not_true, Bool.false_eq_true, if_false, List.isEmpty_iff, hreq, hblock, List.isEmpty_nil,
            mem_sendContent (setStorageContent_requested hreq)]
          constructor
          · rintro ⟨hclients, rfl⟩
            exact ⟨⟨node, trivial, hclients, hreq, ⟨moved, rfl⟩, hpass⟩, rfl⟩
          · rintro ⟨⟨_, -, hclients, -⟩, rfl⟩
            exact ⟨hclients, rfl⟩
        · have hstop := mt hfree.mpr hblock
          simp [hreq, hblock, hstop]

/-! ## A type in use -/

/-- The enabled types a content list leaves out. -/
def droppedTypes (enabled content : List String) : List String :=
  enabled.filter fun t => t != "" && !content.contains t

/-- Every scope of the storage, an active node or the shared one, is listed to
the end by the current metadata. -/
def CoveredEverywhere (c : Catalog) (d : ClusterStorage) : Prop :=
  ∀ s ∈ requestedScopes d "", coverageIsCurrent (catalogState c) (d.coverages.get s) = true

variable (env scope c req)

/-- Whatever list is sent, a type that is enabled in Proxmox and not on it is
known to be unused: the storage is covered everywhere, and no volume published
there has the type. -/
def DropsOnlyUnused (enabled : List String) : Prop :=
  ∀ l ∈ (updateApiStorageContent env scope c req).1, ∀ t ∈ droppedTypes enabled l,
    ∃ d, pageDefinition c req.storage = some d ∧ CoveredEverywhere c d ∧
      ∀ v ∈ storageVolumes (storageView env.health scope c d ""), v.volume.contentType ≠ t

variable {env scope c req}

/-- **A content type in use is never disabled** by a request that passes, exactly
when for every type it drops the catalog has the storage, the storage is covered
everywhere, and each volume of the type published on any node is one that the
check counts: listed by the page's view, and of a type on the catalog's list. -/
theorem dropsOnlyUnused_iff (enabled : List String) : DropsOnlyUnused env scope c req enabled ↔
    ∀ node, RequestPasses env scope c req node → ∀ t ∈ droppedTypes enabled (requestedContent c req),
      ∃ d, pageDefinition c req.storage = some d ∧ CoveredEverywhere c d ∧
        ∀ v ∈ storageVolumes (storageView env.health scope c d ""), v.volume.contentType = t →
          v ∈ storageVolumes (storageView env.health scope c d node) ∧ t ∈ d.content := by
  have hdropped : droppedTypes enabled (requestedContent c req).eraseDups
      = droppedTypes enabled (requestedContent c req) := by
    simp only [droppedTypes]
    refine List.filter_congr fun t _ => ?_
    simp
  constructor
  · intro h node hpass t ht
    have hsent := mem_updateApiStorageContent.mpr ⟨⟨node, hpass⟩, rfl⟩
    obtain ⟨d, hd, hcov, hunused⟩ := h _ hsent t (hdropped ▸ ht)
    exact ⟨d, hd, hcov, fun v hv hvt => absurd hvt (hunused v hv)⟩
  · intro h l hl t ht
    obtain ⟨⟨node, hpass⟩, rfl⟩ := mem_updateApiStorageContent.mp hl
    rw [hdropped] at ht
    obtain ⟨d, hd, hcov, hcounted⟩ := h node hpass t ht
    refine ⟨d, hd, hcov, fun v hv hvt => ?_⟩
    obtain ⟨hpage, hlisted⟩ := hcounted v hv hvt
    obtain ⟨-, -, -, -, -, hfree⟩ := hpass
    simp only [droppedTypes, List.mem_filter, Bool.and_eq_true, bne_iff_ne] at ht
    -- The type is on the catalog's list and not asked for, so its volumes on the page would have blocked.
    have hremoved : t ∈ removedContent c req := by
      simp only [removedContent, apiLiveContentValues, hd, Option.map_some, Option.getD_some, List.mem_filter]
      exact ⟨hlisted, ht.2.2⟩
    refine hfree t hremoved ht.2.1 v ?_ hvt
    rw [hd]
    exact hpage

end update

/-- A directory on two nodes, each listed completely; a guest's disk on the second. -/
def twoNodeStorage : ClusterStorage where
  storageId := "local"
  storageType := "dir"
  content := ["images", "iso"]
  shared := false
  nodes := []
  disabled := false
  config := []
  present := true
  observedMetadataGeneration := 0
  nodeStates := ⟨[⟨"pve1", true, true, true, false, 0⟩, ⟨"pve2", true, true, true, false, 0⟩], by decide⟩
  coverages := ⟨["pve1", "pve2"].map fun n => { node := some n, scope := .node, volumeGeneration := some 1,
                                                basedOnMetadataGeneration := some 0, complete := true }, by decide⟩
  observations := ⟨[⟨"pve2", { volid := "local:100/vm-100-disk-0.qcow2", content := "images" }, 1, 0⟩], by decide⟩
  mountBindings := .empty

def twoNodeCatalog : Catalog where
  state := some { metadataGeneration := some 0, metadataComplete := true }
  storages := ⟨[twoNodeStorage], by decide⟩
  nextGeneration := 2

/-- Asked from the first node's page to keep the other type only, the update
disables the type of the disk on the second. -/
theorem other_node_type_disabled : ¬ ∀ (env : ContentEnv) (scope : PublicationScope) (c : Catalog) (req : ContentRequest)
    (enabled : List String), DropsOnlyUnused env scope c req enabled := by
  intro h
  obtain ⟨d, hd, -, hunused⟩ := h ⟨true, [.ok ()], fun _ _ => ⟨false, false, ""⟩⟩ ⟨0, 0, [], []⟩ twoNodeCatalog
    ⟨"local", "pve1", ["iso"]⟩ ["images", "iso"] ["iso"] (by decide +kernel) "images" (by decide +kernel)
  cases hd
  have hdisk : (storageVolumes (storageView (fun _ _ => ⟨false, false, ""⟩) ⟨0, 0, [], []⟩ twoNodeCatalog twoNodeStorage
      "")).any (fun v => v.volume.contentType == "images") = true := by decide +kernel
  obtain ⟨v, hv, hvt⟩ := List.any_eq_true.mp hdisk
  exact hunused v hv (beq_iff_eq.mp hvt)

end PveHelper.Storage
