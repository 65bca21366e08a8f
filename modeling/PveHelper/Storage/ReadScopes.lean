/-
The scopes of a definition that a volume pass reads, and what the passes leave of the
coverage of each. A complete view asks no other scope. A volume pass that read a
definition has published or withdrawn every one of its scopes; a row that neither
happened to is the one from before, and a metadata pass leaves a row complete only on
a definition that is what it was.
-/
import PveHelper.Storage.Currency

namespace PveHelper.Storage

open Lib Guests

/-! ## The scopes a pass reads and the scopes a view asks -/

/-- A volume pass reads the definition. -/
def Semantics.Listed (sem : Semantics) : Prop :=
  sem.present = true ∧ sem.disabled = false ∧ (backendProfile sem.storageType).contentListMode = .pveApi

/-- The scopes it then reads. -/
def Semantics.scopes (sem : Semantics) : List (Option String) :=
  if sem.shared then [none] else sem.candidates.map some

theorem scopes_shared {d : ClusterStorage} (h : d.shared = true) : d.semantics.scopes = [none] := if_pos h

theorem scopes_local {d : ClusterStorage} (h : d.shared = false) :
    d.semantics.scopes = (candidateNodes d).map some := by
  rw [candidateNodes_eq]
  exact if_neg (by simp [ClusterStorage.semantics, h])

/-- A definition Proxmox no longer has is on no node. -/
def NodesPresent (d : ClusterStorage) : Prop := d.present = false → ∀ s ∈ d.nodeStates.rows, s.present = false

theorem mem_activeNodes {d : ClusterStorage} {s : NodeState} :
    s ∈ activeNodes d ↔ s ∈ d.nodeStates.rows ∧ s.present = true ∧ s.active = true ∧ s.enabled = true := by
  simp only [activeNodes, observedNodes, sortedByNode, List.mem_filter, List.mem_insertionSort, Bool.and_eq_true]
  tauto

theorem mem_candidates {d : ClusterStorage} {s : NodeState} (h : s ∈ activeNodes d) : s.node ∈ candidateNodes d := by
  simp only [candidateNodes, sortedByNode, List.mem_map, List.mem_filter, List.mem_insertionSort, Bool.and_eq_true]
  obtain ⟨hs, hp, ha, he⟩ := mem_activeNodes.mp h
  exact ⟨s, ⟨hs, ⟨hp, ha⟩, he⟩, rfl⟩

/-- A view that can be listed asks only scopes that a volume pass reads. -/
theorem requestedScopes_read {st : CatalogState} {d : ClusterStorage} {node : String} (hp : NodesPresent d)
    (h : listReason st d node = "") :
    d.semantics.Listed ∧ ∀ s ∈ requestedScopes d node, s ∈ d.semantics.scopes := by
  obtain ⟨-, hdis, hnode, hact, -⟩ := listReason_checks h
  have hpres : d.present = true := by
    obtain ⟨s, hs⟩ := List.exists_mem_of_ne_nil _ hact
    obtain ⟨hrow, hsp, -⟩ := mem_activeNodes.mp hs
    by_contra hn
    rw [hp (by simpa using hn) s hrow] at hsp
    cases hsp
  refine ⟨⟨hpres, hdis, (listReason_empty h).1⟩, ?_⟩
  intro s hs
  simp only [requestedScopes] at hs
  split at hs
  · rename_i hsh
    rwa [scopes_shared hsh]
  rename_i hsh
  rw [scopes_local (by simpa using hsh)]
  split at hs
  · rename_i hn
    obtain ⟨x, hx, hxn, ha, he⟩ := hnode hn
    have hactive : x ∈ activeNodes d := by simp [activeNodes, hx, ha, he]
    rw [List.mem_singleton] at hs
    rw [hs, ← hxn]
    exact List.mem_map_of_mem (mem_candidates hactive)
  · obtain ⟨x, hx, rfl⟩ := List.mem_map.mp hs
    exact List.mem_map_of_mem (mem_candidates hx)

/-! ## What a volume pass leaves behind -/

/-- The failure is recorded on the scope. -/
def Failure.Marks (f : Failure) (storageId : String) (node : Option String) : Prop :=
  f.storageId = storageId ∧ f.node = node ∧ ¬ (f.scope = .node ∧ f.node = none)

/-- A pass that read the definition has an answer or a failure for each of its scopes. -/
def Touches (successes : List Success) (failures : List Failure) (d : ClusterStorage) : Prop :=
  ∀ s ∈ d.semantics.scopes, (∃ x ∈ successes, x.storageId = d.storageId ∧ x.node = s) ∨
    ∃ f ∈ failures, f.Marks d.storageId s

section reads

variable {contentOf : ContentReads} {d : ClusterStorage} {successes : List Success} {failures : List Failure}

theorem readShared_touches (hsh : d.shared = true)
    (h : readShared contentOf d (candidateNodes d) = some (successes, failures)) : Touches successes failures d := by
  intro s hs
  rw [scopes_shared hsh, List.mem_singleton] at hs
  subst hs
  simp only [readShared] at h
  split at h
  · cases h
    exact .inr ⟨_, List.mem_singleton.mpr rfl, rfl, rfl, by simp⟩
  split at h
  · cases h
  split at h
  · cases h
    exact .inr ⟨_, List.mem_singleton.mpr rfl, rfl, rfl, by simp⟩
  · cases h
    exact .inl ⟨_, List.mem_singleton.mpr rfl, rfl, rfl⟩

theorem readDefinition_touches (hmode : (backendProfile d.storageType).contentListMode = .pveApi)
    (h : readDefinition contentOf d = some (successes, failures)) : Touches successes failures d := by
  simp only [readDefinition, hmode, ne_eq, not_true_eq_false, if_false] at h
  split at h
  · rename_i hcand
    cases h
    intro s hs
    cases hsh : d.shared with
    | true =>
      rw [scopes_shared hsh, List.mem_singleton] at hs
      exact .inr ⟨_, List.mem_singleton.mpr rfl, rfl, hs.symm, by simp⟩
    | false =>
      rw [scopes_local hsh, List.isEmpty_iff.mp hcand] at hs
      cases hs
  split at h
  · rename_i hsh
    exact readShared_touches hsh h
  · rename_i hsh
    cases h
    intro s hs
    rw [scopes_local (by simpa using hsh)] at hs
    obtain ⟨n, hn, rfl⟩ := List.mem_map.mp hs
    cases hread : readNode contentOf d n with
    | ok rows =>
      refine .inl ⟨⟨d.storageId, some n, [(n, rows)]⟩, ?_, rfl, rfl⟩
      exact List.mem_flatMap.mpr ⟨_, List.mem_map_of_mem hn, by simp [readLocal, hread]⟩
    | error e =>
      refine .inr ⟨⟨d.storageId, .node, some n, "node_inventory_unavailable", publicError e⟩, ?_, rfl, rfl, by simp⟩
      exact List.mem_flatMap.mpr ⟨_, List.mem_map_of_mem hn, by simp [readLocal, hread]⟩

theorem Touches.mono {successes' : List Success} {failures' : List Failure} (h : Touches successes failures d)
    (hs : ∀ x ∈ successes, x ∈ successes') (hf : ∀ f ∈ failures, f ∈ failures') : Touches successes' failures' d := by
  intro s hmem
  rcases h s hmem with ⟨x, hx, hkey⟩ | ⟨f, hfm, hmark⟩
  · exact .inl ⟨x, hs x hx, hkey⟩
  · exact .inr ⟨f, hf f hfm, hmark⟩

theorem readDefinitions_touches {ds : List ClusterStorage} (hd : d ∈ ds)
    (hmode : (backendProfile d.storageType).contentListMode = .pveApi)
    (h : readDefinitions contentOf ds = some (successes, failures)) : Touches successes failures d := by
  induction ds generalizing successes failures with
  | nil => cases hd
  | cons x ds ih =>
    simp only [readDefinitions, Option.bind_eq_bind, Option.bind_eq_some_iff, Option.pure_def, Option.some.injEq,
      Prod.mk.injEq] at h
    obtain ⟨⟨s₁, f₁⟩, h₁, ⟨s₂, f₂⟩, h₂, rfl, rfl⟩ := h
    rcases List.mem_cons.mp hd with rfl | hd
    · exact (readDefinition_touches hmode h₁).mono (fun _ => List.mem_append_left _) fun _ => List.mem_append_left _
    · exact (ih hd h₂).mono (fun _ => List.mem_append_right _) fun _ => List.mem_append_right _

end reads

/-- The scope has a complete coverage row. -/
def CompleteAt (storages : Table ClusterStorage.storageId) (storageId : String) (node : Option String) : Prop :=
  ∃ d cov, storages.get storageId = some d ∧ d.coverages.get node = some cov ∧ cov.complete = true

section publish

variable {storages : Table ClusterStorage.storageId} {id : String} {s : Option String}

theorem Success.publish_completeAt {g m : Gen} {x : Success} (hx : ¬ (x.storageId = id ∧ x.node = s))
    (h : CompleteAt (storages.alter x.storageId (x.publish g m) (x.publish_storageId g m)) id s) :
    CompleteAt storages id s := by
  obtain ⟨d, cov, hd, hcov, hcomp⟩ := h
  rw [Table.get_alter] at hd
  split at hd
  · rename_i hid
    obtain ⟨d₀, hd₀, rfl⟩ := Option.map_eq_some_iff.mp hd
    have hne : s ≠ x.node := fun he => hx ⟨hid.symm, he.symm⟩
    simp only [Success.publish, Table.get_put, if_neg hne] at hcov
    exact ⟨d₀, cov, hd₀, hcov, hcomp⟩
  · exact ⟨d, cov, hd, hcov, hcomp⟩

/-- A scope the pass did not read has the row it had. -/
theorem publishSuccesses_completeAt {g m : Gen} {successes : List Success}
    (hno : ∀ x ∈ successes, ¬ (x.storageId = id ∧ x.node = s))
    (h : CompleteAt (publishSuccesses g m successes storages) id s) : CompleteAt storages id s := by
  induction successes generalizing storages with
  | nil => exact h
  | cons x successes ih =>
    exact Success.publish_completeAt (hno x (List.mem_cons_self ..))
      (ih (fun y hy => hno y (List.mem_cons_of_mem _ hy)) h)

theorem Failure.record_completeAt {f : Failure}
    (h : CompleteAt (storages.alter f.storageId f.record f.record_storageId) id s) :
    ¬ f.Marks id s ∧ CompleteAt storages id s := by
  obtain ⟨d, cov, hd, hcov, hcomp⟩ := h
  rw [Table.get_alter] at hd
  split at hd
  · rename_i hid
    obtain ⟨d₀, hd₀, rfl⟩ := Option.map_eq_some_iff.mp hd
    simp only [Failure.record] at hcov
    split at hcov
    · rename_i hnowhere
      exact ⟨fun hm => hm.2.2 hnowhere, d₀, cov, hd₀, hcov, hcomp⟩
    · rw [Table.get_put] at hcov
      split at hcov
      · cases hcov
        cases hcomp
      · rename_i hne
        exact ⟨fun hm => hne hm.2.1.symm, d₀, cov, hd₀, hcov, hcomp⟩
  · rename_i hid
    exact ⟨fun hm => hid hm.1.symm, d, cov, hd, hcov, hcomp⟩

/-- A scope that is complete after the failures were recorded has none. -/
theorem recordFailures_completeAt {failures : List Failure} (h : CompleteAt (recordFailures failures storages) id s) :
    (∀ f ∈ failures, ¬ f.Marks id s) ∧ CompleteAt storages id s := by
  induction failures generalizing storages with
  | nil => exact ⟨nofun, h⟩
  | cons f failures ih =>
    obtain ⟨hrest, hf⟩ := ih h
    obtain ⟨hmark, hold⟩ := Failure.record_completeAt hf
    refine ⟨fun x hx => ?_, hold⟩
    rcases List.mem_cons.mp hx with rfl | hx
    · exact hmark
    · exact hrest x hx

end publish

/-- What is complete after a pass was published: a scope without a failure, that
the pass read or that was complete before. -/
theorem publishVolumes_completeAt {p : VolumePass} {c : Catalog} (hacc : p.accepted c = true) {id : String}
    {s : Option String} (h : CompleteAt (publishVolumes p c).storages id s) :
    (∀ f ∈ p.failures, ¬ f.Marks id s) ∧
      ((∃ x ∈ p.successes, x.storageId = id ∧ x.node = s) ∨ CompleteAt c.storages id s) := by
  simp only [publishVolumes, hacc, Bool.not_true, Bool.false_eq_true, if_false] at h
  obtain ⟨hfail, hpub⟩ := recordFailures_completeAt h
  refine ⟨hfail, ?_⟩
  by_cases hread : ∃ x ∈ p.successes, x.storageId = id ∧ x.node = s
  · exact .inl hread
  · refine .inr (publishSuccesses_completeAt ?_ hpub)
    intro x hx hkey
    exact hread ⟨x, hx, hkey⟩

theorem publishVolumes_semantics {p : VolumePass} {c : Catalog} {id : String} {d : ClusterStorage}
    (h : (publishVolumes p c).storages.get id = some d) :
    ∃ d₀, c.storages.get id = some d₀ ∧ d.semantics = d₀.semantics ∧ d.unmanaged = d₀.unmanaged := by
  have hface : ((publishVolumes p c).storages.get id).map ClusterStorage.face
      = (c.storages.get id).map ClusterStorage.face := by
    simp only [publishVolumes]
    split
    · rfl
    · exact (recordFailures_face id p.failures _).trans (publishSuccesses_face id p.successes c.storages)
  rw [h, Option.map_some] at hface
  obtain ⟨d₀, hd₀, he⟩ := Option.map_eq_some_iff.mp hface.symm
  simp only [ClusterStorage.face, Prod.mk.injEq] at he
  exact ⟨d₀, hd₀, he.2.symm, he.1.symm⟩

/-! ## What a metadata pass leaves behind -/

section metadata

variable {scope : PublicationScope} {reads : MetadataReads} {c : Catalog}

/-- What is complete after a metadata pass was complete before it, for a
definition with the same semantics. -/
theorem publishMetadata_completeAt (hr : c.retired = false)
    (h : c.storages.All fun d => d.unmanaged = false ∧ Named d) {id : String} {s : Option String} {d : ClusterStorage}
    (hd : (publishMetadata scope reads c).storages.get id = some d)
    (hcomp : CompleteAt (publishMetadata scope reads c).storages id s) :
    ∃ d₀, c.storages.get id = some d₀ ∧ d.semantics = d₀.semantics ∧ CompleteAt c.storages id s := by
  obtain ⟨d', cov', hd', hcov', hcomp'⟩ := hcomp
  obtain rfl := Option.some.inj (hd.symm.trans hd')
  obtain ⟨d₀, cov, hd₀, hcov, hcomp₀, -, -, -, hsem⟩ := publishMetadata_complete hr h hd hcov' hcomp'
  exact ⟨d₀, hd₀, hsem, d₀, cov, hd₀, hcov, hcomp₀⟩

/-- Every definition the pass lists is written present. -/
theorem write_present {g : Gen} {id : String} (rows : List StorageRow) {t : Table ClusterStorage.storageId}
    (h : (∃ row ∈ rows, row.storage = id) ∨ ∀ d, t.get id = some d → d.present = true) :
    ∀ d, (rows.foldl (reads.write scope g) t).get id = some d → d.present = true := by
  induction rows generalizing t with
  | nil => simpa using h
  | cons row rows ih =>
    refine ih ?_
    by_cases hid : row.storage = id
    · right
      intro d hd
      rw [MetadataReads.write, Table.get_put] at hd
      rw [if_pos hid.symm] at hd
      cases hd
      rfl
    · rcases h with ⟨row', hrow', hid'⟩ | h
      · rcases List.mem_cons.mp hrow' with rfl | hrow'
        · exact absurd hid' hid
        · exact .inl ⟨row', hrow', hid'⟩
      · right
        intro d hd
        rw [MetadataReads.write, Table.get_put] at hd
        rw [if_neg (Ne.symm hid)] at hd
        exact h d hd

/-- A definition the pass did not list is on no node afterwards. -/
theorem publishMetadata_nodesPresent (h : c.storages.All fun d => d.unmanaged = false ∧ Named d) :
    (publishMetadata scope reads c).storages.All NodesPresent := by
  intro id d' hd'
  obtain ⟨d, hd, hm, -, -, rfl⟩ := publishMetadata_written h hd'
  simp only [ClusterStorage.rebase, hm, Bool.false_eq_true, if_false, NodesPresent]
  simp only [writeDefinitions, Table.get_modify, Option.map_eq_some_iff] at hd
  obtain ⟨x, hx, rfl⟩ := hd
  have hid := ClusterStorage.storageId_of_get hx
  simp only [MetadataReads.sweep] at hm ⊢
  split at hm
  · rename_i hu
    rw [hu] at hm
    cases hm
  rename_i hu
  rw [if_neg hu]
  intro hpres n hn
  simp only [Table.modify, List.mem_map] at hn
  obtain ⟨n, -, rfl⟩ := hn
  have hunlisted : ∀ row ∈ reads.listed, row.storage ≠ x.storageId := by
    intro row hrow he
    have hpx := write_present reads.listed (.inl ⟨row, hrow, he.trans hid⟩) x hx
    simp only [hpx, Bool.true_and, List.any_eq_false, beq_iff_eq] at hpres
    exact hpres row hrow he
  have hnot : (reads.listed.any fun row => row.storage == x.storageId && (reads.permitted scope row).contains n.node)
      = false := by
    rw [List.any_eq_false]
    intro row hrow
    simp [hunlisted row hrow]
  simp only [MetadataReads.sweepNode, hnot, Bool.false_eq_true, if_false]

end metadata

/-! ## Every step of a pass -/

theorem nodesPresent_congr {d d' : ClusterStorage} (h : d'.semantics = d.semantics) (hd : NodesPresent d) :
    NodesPresent d' := by
  intro hp n hn
  have hpd : d.present = false := (congrArg Semantics.present h).symm.trans hp
  have hstates : d'.semantics.nodeStates = d.semantics.nodeStates := congrArg Semantics.nodeStates h
  have hmem : (n.node, n.present, n.active, n.enabled) ∈ d'.semantics.nodeStates := by
    simp only [ClusterStorage.semantics, sortedByNode]
    exact List.mem_map_of_mem (f := fun s : NodeState => (s.node, s.present, s.active, s.enabled))
      ((List.mem_insertionSort _).mpr hn)
  rw [hstates] at hmem
  simp only [ClusterStorage.semantics, sortedByNode, List.mem_map, List.mem_insertionSort, Prod.mk.injEq] at hmem
  obtain ⟨m, hm, -, hpres, -⟩ := hmem
  rw [← hpres]
  exact hd hpd m hm

/-- The catalog is managed and each of its node states named, as in every state the passes reach. -/
theorem RefreshInv.written {w : RefreshState} (hi : RefreshInv w) :
    w.catalog.storages.All fun d => d.unmanaged = false ∧ Named d :=
  fun k d hd => ⟨(hi.definitions k d hd).managed, (hi.definitions k d hd).named⟩

theorem withdrawCoverage_get {c : Catalog} {code reason id : String} {d : ClusterStorage}
    (h : (withdrawCoverage code reason c).storages.get id = some d) :
    ∃ d₀, c.storages.get id = some d₀ ∧ d.semantics = d₀.semantics := by
  simp only [withdrawCoverage, Table.get_modify, Option.map_eq_some_iff] at h
  obtain ⟨d₀, hd₀, rfl⟩ := h
  refine ⟨d₀, hd₀, ?_⟩
  split <;> rfl

theorem withdrawCoverage_incomplete {c : Catalog} {code reason id : String} {s : Option String}
    (hm : c.storages.All fun d => d.unmanaged = false ∧ Named d) :
    ¬ CompleteAt (withdrawCoverage code reason c).storages id s := by
  intro h
  obtain ⟨d, cov, hd, hcov, hcomp⟩ := h
  simp only [withdrawCoverage, Table.get_modify, Option.map_eq_some_iff] at hd
  obtain ⟨d₀, hd₀, rfl⟩ := hd
  simp only [(hm id d₀ hd₀).1, Bool.false_eq_true, if_false, Table.get_modify, Option.map_eq_some_iff] at hcov
  obtain ⟨cov₀, -, rfl⟩ := hcov
  cases hcomp

/-- The reads of a volume pass end by withdrawing all coverage, or leave the
definitions alone and have answers or failures for each definition listed. -/
theorem readVolumes_cases (clients : Except ReadError Unit) (contentOf : ContentReads) (c : Catalog) :
    ((readVolumes clients contentOf c).2 = none ∧
      ∃ code reason, (readVolumes clients contentOf c).1 = withdrawCoverage code reason c) ∨
    ∃ p, (readVolumes clients contentOf c).2 = some p ∧ (readVolumes clients contentOf c).1.storages = c.storages ∧
      readDefinitions contentOf (listedDefinitions c) = some (p.successes, p.failures) := by
  simp only [readVolumes]
  split
  · split
    · exact .inl ⟨rfl, _, _, rfl⟩
    · split
      · exact .inl ⟨rfl, _, _, rfl⟩
      · rename_i hread
        exact .inr ⟨_, rfl, rfl, hread⟩
  · exact .inl ⟨rfl, _, _, rfl⟩

theorem refreshStep_nodesPresent {w w' : RefreshState} {l : RefreshStep} (hi : RefreshInv w)
    (hp : w.catalog.storages.All NodesPresent) (h : refreshStep w l = some w') :
    w'.catalog.storages.All NodesPresent := by
  cases l with
  | metadata scope answer =>
    simp only [refreshStep, refreshStorageMetadata, Option.some.injEq] at h
    subst h
    cases acceptedReads scope answer with
    | none => exact hp
    | some reads => exact publishMetadata_nodesPresent hi.written
  | readVolumes clients contentOf =>
    simp only [refreshStep] at h
    split at h
    · cases h
    cases h
    rcases readVolumes_cases clients contentOf w.catalog with ⟨-, code, reason, hc⟩ | ⟨p, -, hc, -⟩
    · intro id d hd
      simp only [hc] at hd
      obtain ⟨d₀, hd₀, hsem⟩ := withdrawCoverage_get hd
      exact nodesPresent_congr hsem (hp id d₀ hd₀)
    · simp only [hc]
      exact hp
  | publishVolumes =>
    obtain ⟨p, -, rfl⟩ := Option.map_eq_some_iff.mp h
    intro id d hd
    obtain ⟨d₀, hd₀, hsem, -⟩ := publishVolumes_semantics hd
    exact nodesPresent_congr hsem (hp id d₀ hd₀)
  | abandonVolumes =>
    obtain ⟨p, -, rfl⟩ := Option.map_eq_some_iff.mp h
    exact hp

end PveHelper.Storage
