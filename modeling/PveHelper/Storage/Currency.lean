/-
A coverage row that says complete tells the truth: its scope's observations
carry its generation and are what the nodes answered to the pass that last
published the scope, and the definition's semantics are still those the pass
was read against. A metadata pass keeps a row complete only across unchanged
semantics, and a volume pass writes only under the metadata generation it was
read against.
-/
import PveHelper.Storage.Coverage

namespace PveHelper.Storage

open Lib Guests

/-! ## The metadata pass -/

/-- The definition has the coverage and the observations it had in the table, or none yet. -/
def Carries (storages : Table ClusterStorage.storageId) (d : ClusterStorage) : Prop :=
  (∃ d₀, storages.get d.storageId = some d₀ ∧ d.coverages = d₀.coverages ∧ d.observations = d₀.observations ∧
    d.unmanaged = d₀.unmanaged) ∨ (d.coverages = .empty ∧ d.unmanaged = false)

section metadata

variable {scope : PublicationScope} {reads : MetadataReads} {c : Catalog}

theorem mem_permitted {row : StorageRow} {n : String} (h : n ∈ reads.permitted scope row) : n ≠ "" := by
  have hobs : n ∈ reads.observedNames scope := by
    rw [MetadataReads.permitted, mem_sortedSet] at h
    split at h
    · exact h
    · exact (List.mem_filter.mp h).1
  simp only [MetadataReads.observedNames, MetadataReads.observed, List.mem_map, List.mem_filter] at hobs
  obtain ⟨r, ⟨-, hr⟩, rfl⟩ := hobs
  simp only [Bool.and_eq_true, bne_iff_ne] at hr
  exact hr.1

theorem write_carries {g : Gen} {t : Table ClusterStorage.storageId} (row : StorageRow)
    (h : t.All fun d => Carries c.storages d ∧ Named d) :
    (reads.write scope g t row).All fun d => Carries c.storages d ∧ Named d := by
  refine h.put ⟨?_, ?_⟩
  · cases hd : t.get row.storage with
    | none => exact .inr ⟨rfl, rfl⟩
    | some d =>
      have hc := (h row.storage d hd).1
      rw [Carries, ClusterStorage.storageId_of_get hd] at hc
      exact hc
  · refine Table.All.foldl ?_ fun t n hn ht => ht.put (mem_permitted hn)
    cases hd : t.get row.storage with
    | none => exact fun k s hs => by cases hs
    | some d => exact (h row.storage d hd).2

theorem sweep_carries {d : ClusterStorage} (h : Carries c.storages d ∧ Named d) :
    Carries c.storages (reads.sweep scope d) ∧ Named (reads.sweep scope d) := by
  simp only [MetadataReads.sweep]
  split
  · exact h
  · refine ⟨h.1, Table.all_modify (reads.sweepNode_node scope d.storageId) ?_⟩
    intro k s hs
    exact fun hs' => h.2 k s hs ((reads.sweepNode_node scope d.storageId s).symm.trans hs')

/-- Writing what a metadata pass saw leaves coverage and observations alone. -/
theorem writeDefinitions_carries (scope : PublicationScope) (reads : MetadataReads) (h : c.storages.All Named) :
    (writeDefinitions scope reads c).storages.All fun d => Carries c.storages d ∧ Named d := by
  have h₀ : c.storages.All fun d => Carries c.storages d ∧ Named d := by
    intro k d hd
    refine ⟨.inl ⟨d, ?_, rfl, rfl, rfl⟩, h k d hd⟩
    rw [ClusterStorage.storageId_of_get hd]
    exact hd
  have hw : (reads.listed.foldl (reads.write scope c.nextGeneration) c.storages).All fun d =>
      Carries c.storages d ∧ Named d := h₀.foldl fun _ row _ ht => write_carries row ht
  exact Table.all_modify (reads.sweep_storageId scope) fun k d hd => sweep_carries (hw k d hd)

/-- A row is complete after a metadata pass only across unchanged semantics. -/
theorem Coverage.rebase_complete {unchanged : Bool} {g : Gen} {cov : Coverage}
    (h : (cov.rebase unchanged g).complete = true) : unchanged = true ∧ cov.complete = true ∧
      (cov.rebase unchanged g).scope = cov.scope ∧
      (cov.rebase unchanged g).volumeGeneration = cov.volumeGeneration := by
  cases unchanged with
  | false => simp [rebase] at h
  | true =>
    simp only [rebase, Bool.true_and, Bool.not_true, Bool.false_eq_true, if_false] at h ⊢
    split at h
    · rename_i hc
      rw [if_pos hc]
      exact ⟨trivial, h, rfl, rfl⟩
    · rename_i hc
      rw [if_neg hc]
      exact ⟨trivial, h, rfl, rfl⟩

/-- Where a definition after a metadata pass comes from: one the pass wrote, managed and named. -/
theorem publishMetadata_written (h : c.storages.All fun d => d.unmanaged = false ∧ Named d) {id : String}
    {d' : ClusterStorage} (hd' : (publishMetadata scope reads c).storages.get id = some d') :
    ∃ d, (writeDefinitions scope reads c).storages.get id = some d ∧ d.unmanaged = false ∧ Named d ∧
      Carries c.storages d ∧ d' = d.rebase
        (fun id => decide (metadataSemantics c id = metadataSemantics (writeDefinitions scope reads c) id)) c.nextGeneration := by
  simp only [publishMetadata, Table.get_modify, Option.map_eq_some_iff] at hd'
  obtain ⟨d, hd, rfl⟩ := hd'
  obtain ⟨hcar, hnamed⟩ := writeDefinitions_carries scope reads (fun k d hd => (h k d hd).2) id d hd
  refine ⟨d, hd, ?_, hnamed, hcar, rfl⟩
  rcases hcar with ⟨d₀, hd₀, -, -, hu⟩ | ⟨-, hu⟩
  · exact hu.trans (h _ d₀ hd₀).1
  · exact hu

/-- A row that is complete after a metadata pass was complete before it, on a
definition with the same semantics and the same observations. -/
theorem publishMetadata_complete (hr : c.retired = false) (h : c.storages.All fun d => d.unmanaged = false ∧ Named d)
    {id : String} {d' : ClusterStorage} (hd' : (publishMetadata scope reads c).storages.get id = some d')
    {node : Option String} {cov' : Coverage} (hcov' : d'.coverages.get node = some cov') (hcomp : cov'.complete = true) :
    ∃ d₀ cov, c.storages.get id = some d₀ ∧ d₀.coverages.get node = some cov ∧ cov.complete = true ∧
      cov'.scope = cov.scope ∧ cov'.volumeGeneration = cov.volumeGeneration ∧ d'.observations = d₀.observations ∧
      d'.semantics = d₀.semantics := by
  obtain ⟨d, hd, hm, -, hcar, rfl⟩ := publishMetadata_written h hd'
  have hid := ClusterStorage.storageId_of_get hd
  simp only [ClusterStorage.rebase, hm, Bool.false_eq_true, if_false, Table.get_modify, Option.map_eq_some_iff] at hcov'
  obtain ⟨cov, hcov, rfl⟩ := hcov'
  obtain ⟨hun, hcomp₀, hscope, hgen⟩ := Coverage.rebase_complete hcomp
  rcases hcar with ⟨d₀, hd₀, hcovs, hobs, -⟩ | ⟨hnone, -⟩
  · rw [hcovs] at hcov
    have hsame := of_decide_eq_true hun
    rw [metadataSemantics_of_get hr hd₀ (h _ d₀ hd₀).1, hid,
      metadataSemantics_of_get (c := writeDefinitions scope reads c) hr hd hm, Option.some.injEq] at hsame
    rw [hid] at hd₀
    refine ⟨d₀, cov, hd₀, hcov, hcomp₀, hscope, hgen, ?_, ?_⟩
    · simp only [ClusterStorage.rebase, hm, Bool.false_eq_true, if_false]
      exact hobs
    · simp only [ClusterStorage.rebase, hm, Bool.false_eq_true, if_false]
      exact hsame.symm
  · rw [hnone] at hcov
    cases hcov

theorem publishMetadata_right {pubs : List Publication} {snaps : List (Gen × (String → Option Semantics))}
    (hr : c.retired = false) (h : c.storages.All (DefinitionRight pubs snaps))
    (hearly : ∀ p ∈ pubs, p.metadataGeneration < c.nextGeneration) (f : String → Option Semantics) :
    (publishMetadata scope reads c).storages.All (DefinitionRight pubs ((c.nextGeneration, f) :: snaps)) := by
  have hmn : c.storages.All fun d => d.unmanaged = false ∧ Named d := fun k d hd => ⟨(h k d hd).managed, (h k d hd).named⟩
  intro id d' hd'
  obtain ⟨d, -, hm, hnamed, -, he⟩ := publishMetadata_written hmn hd'
  simp only [ClusterStorage.rebase, hm, Bool.false_eq_true, if_false] at he
  refine ⟨by rw [he], by rw [he]; exact hnamed, ?_⟩
  intro node cov' hget hcomp
  obtain ⟨d₀, cov, hd₀, hcov, hcomp₀, hscope, hgen, hobs, hsem⟩ := publishMetadata_complete hr hmn hd' hget hcomp
  have hid : d'.storageId = d₀.storageId :=
    (ClusterStorage.storageId_of_get hd').trans (ClusterStorage.storageId_of_get hd₀).symm
  refine ((h _ d₀ hd₀).covered node cov hcov hcomp₀).transfer
    ((Coverage.node_of_get hget).trans (Coverage.node_of_get hcov).symm) hscope hgen
    (fun volid => by rw [hobs]) (by rw [hid]) hsem fun p hp => ?_
  rw [semanticsAt_cons (hearly p hp), hid]

end metadata

/-! ## Every step -/

/-- What holds after every step of the passes. -/
structure RefreshInv (w : RefreshState) : Prop where
  managed : w.catalog.retired = false
  definitions : w.catalog.storages.All (DefinitionRight w.published w.snapshots)
  snapshot : ∀ g, (catalogState w.catalog).metadataGeneration = some g →
    ∀ id, semanticsAt w.snapshots g id = metadataSemantics w.catalog id
  fresh : ∀ g, (catalogState w.catalog).metadataGeneration = some g → g < w.catalog.nextGeneration
  earlier : ∀ p ∈ w.published, p.metadataGeneration < w.catalog.nextGeneration
  pass : ∀ p, w.pass = some p → p.Ok w.snapshots w.catalog.nextGeneration

theorem emptyCatalog_inv {w : RefreshState} (h : EmptyCatalog w) : RefreshInv w := by
  subst h
  exact ⟨rfl, nofun, nofun, nofun, nofun, nofun⟩

section steps

variable {w : RefreshState} (hi : RefreshInv w)

include hi

/-- A catalog that differs in what the readers of coverage decide by only. -/
theorem RefreshInv.with_catalog {c : Catalog} (pass : Option VolumePass) (hret : c.retired = w.catalog.retired)
    (hgen : (catalogState c).metadataGeneration = (catalogState w.catalog).metadataGeneration)
    (hnext : c.nextGeneration = w.catalog.nextGeneration)
    (hface : ∀ id, (c.storages.get id).map ClusterStorage.face = (w.catalog.storages.get id).map ClusterStorage.face)
    (hdef : c.storages.All (DefinitionRight w.published w.snapshots))
    (hpass : ∀ p, pass = some p → p.Ok w.snapshots w.catalog.nextGeneration) :
    RefreshInv { w with catalog := c, pass := pass } := by
  refine ⟨hret.trans hi.managed, hdef, fun g hg id => ?_, fun g hg => ?_, fun p hp => ?_, by rw [hnext]; exact hpass⟩
  · rw [hgen] at hg
    exact (hi.snapshot g hg id).trans (metadataSemantics_congr hret (hface id)).symm
  · rw [hgen] at hg
    rw [hnext]
    exact hi.fresh g hg
  · rw [hnext]
    exact hi.earlier p hp

theorem RefreshInv.metadata (scope : PublicationScope) (answer : Except ReadError MetadataReads) {w' : RefreshState}
    (h : refreshStep w (.metadata scope answer) = some w') : RefreshInv w' := by
  simp only [refreshStep, refreshStorageMetadata, Option.some.injEq] at h
  cases ha : acceptedReads scope answer with
  | none =>
    simp only [ha, Option.isSome_none, Bool.false_eq_true, if_false] at h
    subst h
    exact hi.with_catalog w.pass rfl rfl rfl (fun _ => rfl) hi.definitions hi.pass
  | some reads =>
    simp only [ha, Option.isSome_some, if_true] at h
    subst h
    refine ⟨hi.managed, publishMetadata_right hi.managed hi.definitions hi.earlier _, fun g hg id => ?_,
      fun g hg => ?_, fun p hp => Nat.lt_succ_of_lt (hi.earlier p hp), fun p hp => ?_⟩
    · cases hg
      simp [semanticsAt]
    · cases hg
      exact Nat.lt_succ_self _
    · obtain ⟨hlt, hok⟩ := hi.pass p hp
      refine ⟨Nat.lt_succ_of_lt hlt, fun s hs => ⟨(hok s hs).1, ?_⟩⟩
      simp only [Success.Spoken, semanticsAt_cons hlt]
      exact (hok s hs).2

theorem RefreshInv.withdraw (errorCode errorReason : String) :
    RefreshInv { w with catalog := withdrawCoverage errorCode errorReason w.catalog, pass := none } := by
  refine hi.with_catalog none rfl rfl rfl (fun id => ?_) (fun k d' hd' => ?_) nofun
  · simp only [withdrawCoverage, Table.get_modify, Option.map_map]
    congr 1
    funext d
    simp only [Function.comp_apply]
    split <;> rfl
  · simp only [withdrawCoverage, Table.get_modify, Option.map_eq_some_iff] at hd'
    obtain ⟨d, hd, rfl⟩ := hd'
    have hr := hi.definitions k d hd
    simp only [hr.managed, Bool.false_eq_true, if_false]
    refine ⟨rfl, hr.named, ?_⟩
    intro node cov hget hcomp
    simp only [Table.get_modify, Option.map_eq_some_iff] at hget
    obtain ⟨cov, -, rfl⟩ := hget
    cases hcomp

theorem RefreshInv.readVolumes (clients : Except ReadError Unit) (contentOf : ContentReads) {w' : RefreshState}
    (h : refreshStep w (.readVolumes clients contentOf) = some w') : RefreshInv w' := by
  simp only [refreshStep] at h
  split at h
  · cases h
  simp only [Option.some.injEq] at h
  subst h
  simp only [Storage.readVolumes]
  split
  · rename_i generation _ hgen
    split
    · exact hi.withdraw _ _
    · split
      · exact hi.withdraw _ _
      · rename_i successes failures hread
        refine hi.with_catalog _ rfl rfl rfl (fun _ => rfl) hi.definitions ?_
        intro p hp
        cases hp
        have hlisted : ∀ d ∈ listedDefinitions w.catalog, w.catalog.storages.get d.storageId = some d := by
          intro d hd
          simp only [listedDefinitions, List.mem_insertionSort, List.mem_filter] at hd
          exact Table.get_of_mem hd.1
        refine ⟨hi.fresh generation hgen, ?_⟩
        intro s hs
        obtain ⟨d, hd, hok, hid, hnames⟩ := readDefinitions_ok
          (fun d hd => (hi.definitions _ d (hlisted d hd)).named) hread s hs
        refine ⟨hok, fun hn => ⟨d.semantics, ?_, (hnames hn).trans (candidateNodes_eq d)⟩⟩
        rw [hi.snapshot generation hgen, hid]
        exact metadataSemantics_of_get hi.managed (hlisted d hd) (hi.definitions _ d (hlisted d hd)).managed
  · exact hi.withdraw _ _

theorem RefreshInv.publishVolumes {w' : RefreshState} (h : refreshStep w .publishVolumes = some w') :
    RefreshInv w' := by
  simp only [refreshStep, Option.map_eq_some_iff] at h
  obtain ⟨p, hp, rfl⟩ := h
  cases hacc : p.accepted w.catalog with
  | false =>
    simp only [Storage.publishVolumes, hacc, Bool.not_false, if_true, Bool.false_eq_true, if_false]
    exact hi.with_catalog none rfl rfl rfl (fun _ => rfl) hi.definitions nofun
  | true =>
    simp only [Storage.publishVolumes, hacc, Bool.not_true, Bool.false_eq_true, if_false, if_true]
    simp only [VolumePass.accepted, Bool.and_eq_true, decide_eq_true_eq] at hacc
    have hface := fun id => (recordFailures_face id p.failures _).trans
      (publishSuccesses_face (g := w.catalog.nextGeneration) (m := p.metadataGeneration) id p.successes w.catalog.storages)
    refine ⟨hi.managed, recordFailures_right (publishSuccesses_right (hi.pass p hp).2 fun k d hd => ?_),
      fun g hg id => ?_, fun g hg => Nat.lt_succ_of_lt (hi.fresh g hg), fun q hq => ?_, nofun⟩
    · have hr := hi.definitions k d hd
      have hid := ClusterStorage.storageId_of_get hd
      refine ⟨hr, ?_⟩
      rw [hi.snapshot _ hacc.1, hid]
      exact metadataSemantics_of_get hi.managed hd hr.managed
    · rw [hi.snapshot g hg id, eq_comm]
      exact metadataSemantics_congr (c := w.catalog) (by rfl) (hface id)
    · rw [List.mem_append, List.mem_reverse, List.mem_map] at hq
      rcases hq with ⟨s, -, rfl⟩ | hq
      · exact Nat.lt_succ_of_lt (hi.fresh _ hacc.1)
      · exact Nat.lt_succ_of_lt (hi.earlier q hq)

theorem RefreshInv.step {l : RefreshStep} {w' : RefreshState} (h : refreshStep w l = some w') : RefreshInv w' := by
  cases l with
  | metadata scope answer => exact hi.metadata scope answer h
  | readVolumes clients contentOf => exact hi.readVolumes clients contentOf h
  | publishVolumes => exact hi.publishVolumes h
  | abandonVolumes =>
    simp only [refreshStep, Option.map_eq_some_iff] at h
    obtain ⟨p, -, rfl⟩ := h
    exact hi.with_catalog none rfl rfl rfl (fun _ => rfl) hi.definitions nofun

end steps

/-! ## What a reader sees -/

theorem failedReason_ne (st : CatalogState) (requested : List (Option Coverage)) : failedReason st requested ≠ "" := by
  simp only [failedReason]
  split
  · split
    · assumption
    · split <;> decide
  · split <;> decide

/-- What `list_reason` has checked where it gives none. -/
theorem listReason_checks {st : CatalogState} {d : ClusterStorage} {node : String} (h : listReason st d node = "") :
    (backendProfile d.storageType).known = true ∧ d.disabled = false ∧
      (node ≠ "" → ∃ s ∈ observedNodes d, s.node = node ∧ s.active = true ∧ s.enabled = true) ∧ activeNodes d ≠ [] ∧
      requestedCoverages d node ≠ [] ∧ ∀ cov ∈ requestedCoverages d node, coverageIsCurrent st cov = true := by
  simp only [listReason] at h
  split at h
  · simp at h
  rename_i hknown
  split at h
  · exact absurd h (by decide)
  rename_i hdisabled
  split at h
  · exact absurd h (by decide)
  rename_i hnode
  split at h
  · exact absurd h (by decide)
  rename_i hactive
  split at h
  · exact absurd h (failedReason_ne st _)
  rename_i hcur
  simp only [Bool.or_eq_true, not_or, decide_eq_true_eq, ne_eq, Decidable.not_not, List.isEmpty_iff,
    List.length_filter_eq_length_iff] at hcur
  refine ⟨by simpa using hknown, by simpa using hdisabled, fun hn => ?_, by simpa using hactive, hcur.1, hcur.2⟩
  simp only [hn, ne_eq, not_false_eq_true, decide_true, Bool.true_and, Bool.not_eq_true', Bool.not_eq_false,
    List.any_eq_true, Bool.and_eq_true, beq_iff_eq, and_assoc] at hnode
  exact hnode

theorem listReason_empty {st : CatalogState} {d : ClusterStorage} {node : String} (h : listReason st d node = "") :
    (backendProfile d.storageType).contentListMode = .pveApi ∧ requestedScopes d node ≠ [] ∧
      ∀ s ∈ requestedScopes d node, coverageIsCurrent st (d.coverages.get s) = true := by
  obtain ⟨hknown, -, -, -, hne, hcur⟩ := listReason_checks h
  refine ⟨(backendProfile_known _).mp hknown, fun hnil => hne ?_, fun s hs => hcur _ (List.mem_map_of_mem hs)⟩
  rw [requestedCoverages, hnil, List.map_nil]

theorem mem_storageVolumes {view : StorageView} {v : CatalogVolume} : v ∈ storageVolumes view ↔
    ∃ o ∈ view.definition.observations.rows, (∃ s ∈ view.volumeScopes, s.admits o = true) ∧
      (view.definition.shared = true → o.node = sharedObservationNode) ∧ v = ⟨o.node, o.volume⟩ := by
  simp only [storageVolumes]
  split
  · rename_i he
    simp only [List.isEmpty_iff] at he
    simp [he]
  · simp only [List.mem_map, List.mem_filter, List.mem_insertionSort, List.any_eq_true, Bool.or_eq_true,
      Bool.not_eq_true', decide_eq_true_eq, ← Bool.not_eq_true, ← imp_iff_not_or, and_assoc]
    exact exists_congr fun o => and_congr_right fun _ => and_congr_right fun _ => and_congr_right fun _ => eq_comm

/-- The volume scope of a right coverage row admits the rows of its scope, and
of a node's scope no other. -/
theorem CoverageRight.volumeScope {published : List Publication}
    {snapshots : List (Gen × (String → Option Semantics))} {d : ClusterStorage} {cov : Coverage}
    (h : CoverageRight published snapshots d cov)
    (hmode : (backendProfile d.storageType).contentListMode = .pveApi) :
    ∃ s, Storage.volumeScope (backendProfile d.storageType) (some cov) = some s ∧
      (∀ o ∈ d.observations.rows, o.node = observationNode cov.node → s.admits o = true) ∧
      (∀ o, s.admits o = true → cov.node ≠ none → o.node = observationNode cov.node) := by
  obtain ⟨g, hg, hrows⟩ := h.generation
  obtain ⟨hscope, hne⟩ := h.scope
  have hgen : ∀ o ∈ d.observations.rows, o.node = observationNode cov.node → o.observedVolumeGeneration = g := by
    intro o ho hn
    have hget := Table.get_of_mem ho
    rw [Observation.key, hn] at hget
    exact hrows _ o hget
  cases hnode : cov.node with
  | none =>
    refine ⟨⟨"", g⟩, by simp [Storage.volumeScope, hmode, hg, hscope, hnode, scopeOf], fun o ho hn => ?_,
      fun o ho hne => absurd rfl hne⟩
    rw [← hnode] at hn
    simp [VolumeScope.admits, hgen o ho hn]
  | some n =>
    have hn' : n ≠ "" := fun he => hne (by rw [hnode, he])
    refine ⟨⟨n, g⟩, by simp [Storage.volumeScope, hmode, hg, hscope, hnode, scopeOf], ?_, ?_⟩
    · intro o ho hn
      rw [← hnode] at hn
      simp [VolumeScope.admits, hgen o ho hn, hn, hnode, observationNode]
    · intro o ho _
      simp only [VolumeScope.admits, hn', decide_false, Bool.false_or, Bool.and_eq_true, decide_eq_true_eq] at ho
      exact ho.2

theorem requestedScopes_shared {d : ClusterStorage} {node : String} (h : d.shared = true) :
    requestedScopes d node = [none] := by simp [requestedScopes, h]

theorem requestedScopes_local {d : ClusterStorage} {node : String} (h : d.shared = false) {s : Option String}
    (hs : s ∈ requestedScopes d node) : s ≠ none := by
  simp only [requestedScopes, h, Bool.false_eq_true, if_false] at hs
  split at hs
  · rw [List.mem_singleton] at hs
    simp [hs]
  · obtain ⟨x, -, rfl⟩ := List.mem_map.mp hs
    simp

/-- A complete view rests on a right coverage row for every scope it asks. -/
theorem RefreshInv.requested {w : RefreshState} (hi : RefreshInv w) {d : ClusterStorage}
    (hd : d ∈ w.catalog.storages.rows) {node : String} (h : listReason (catalogState w.catalog) d node = "")
    {s : Option String} (hs : s ∈ requestedScopes d node) : ∃ cov, d.coverages.get s = some cov ∧ cov.node = s ∧
      CoverageRight w.published w.snapshots d cov := by
  have hdr := hi.definitions _ d (Table.get_of_mem hd)
  have hcur := (listReason_empty h).2.2 s hs
  cases hcs : d.coverages.get s with
  | none => simp [hcs, coverageIsCurrent] at hcur
  | some cov =>
    simp only [hcs, coverageIsCurrent, Bool.and_eq_true] at hcur
    exact ⟨cov, rfl, Coverage.node_of_get hcs, hdr.covered s cov hcs hcur.1.1.1⟩

section view

variable {published : List Publication} {snapshots : List (Gen × (String → Option Semantics))}
  {health : Nat → StorageBackendProfile → MountHealth} {scope : PublicationScope} {c : Catalog} {d : ClusterStorage}
  {node : String} (hmode : (backendProfile d.storageType).contentListMode = .pveApi)

include hmode

/-- Every volume a view lists belongs to a scope it asks. -/
theorem storageVolumes_scope (hcov : ∀ s ∈ requestedScopes d node, ∃ cov, d.coverages.get s = some cov ∧
      cov.node = s ∧ CoverageRight published snapshots d cov) {v : CatalogVolume}
    (hv : v ∈ storageVolumes (storageView health scope c d node)) :
    ∃ s ∈ requestedScopes d node, v.node = observationNode s := by
  obtain ⟨o, -, ⟨x, hx, hadm⟩, hsh, rfl⟩ := mem_storageVolumes.mp hv
  cases hshared : d.shared with
  | true => exact ⟨none, by simp [requestedScopes_shared hshared], hsh hshared⟩
  | false =>
    simp only [storageView, requestedCoverages, List.mem_filterMap, List.mem_map, exists_exists_and_eq_and] at hx
    obtain ⟨s, hs, hxs⟩ := hx
    obtain ⟨cov, hcs, hnode, hr⟩ := hcov s hs
    obtain ⟨x', hx', -, hnode'⟩ := hr.volumeScope hmode
    rw [hcs, hx', Option.some.injEq] at hxs
    subst hxs
    refine ⟨s, hs, ?_⟩
    have hscope := hnode' o hadm (hnode ▸ requestedScopes_local hshared hs)
    rwa [hnode] at hscope

/-- The volumes a view lists under a scope are those observed there. -/
theorem storageVolumes_observed {cov : Coverage} (hcs : d.coverages.get cov.node = some cov)
    (hr : CoverageRight published snapshots d cov) (hs : cov.node ∈ requestedScopes d node) (volid : String) :
    (∃ v ∈ storageVolumes (storageView health scope c d node),
      v.node = observationNode cov.node ∧ v.volume.volid = volid)
      ↔ Observed d.observations cov.node volid := by
  obtain ⟨x, hx, hadm, -⟩ := hr.volumeScope hmode
  rw [Observed]
  constructor
  · intro h
    obtain ⟨v, hv, hvn, hvv⟩ := h
    obtain ⟨o, ho, -, -, rfl⟩ := mem_storageVolumes.mp hv
    have hgo := Table.get_of_mem ho
    rw [Observation.key] at hgo
    rw [← hvn, ← hvv]
    exact Option.isSome_of_eq_some hgo
  · intro ho
    obtain ⟨o, ho⟩ := Option.isSome_iff_exists.mp ho
    have hkey := Table.key_of_get ho
    have hn : o.node = observationNode cov.node := congrArg Prod.fst hkey
    have hx' : x ∈ (storageView health scope c d node).volumeScopes := by
      simp only [storageView, requestedCoverages, List.mem_filterMap, List.mem_map, exists_exists_and_eq_and]
      exact ⟨cov.node, hs, by rw [hcs, hx]⟩
    -- A shared storage is asked as one scope, and keeps its rows under the shared name.
    have hshared : d.shared = true → o.node = sharedObservationNode := by
      intro hsh
      rw [requestedScopes_shared hsh, List.mem_singleton] at hs
      rw [hn, hs]
      rfl
    have hv := mem_storageVolumes.mpr
      ⟨o, Table.mem_of_get ho, ⟨x, hx', hadm o (Table.mem_of_get ho) hn⟩, hshared, rfl⟩
    exact ⟨⟨o.node, o.volume⟩, hv, hn, congrArg Prod.snd hkey⟩

end view

/-- **Coverage currency.** In every state the refresh passes reach: when a view
is complete, its volumes are, scope by scope, those the scope's nodes listed to
the pass that last published the scope; every observation of the scope carries
the coverage row's generation; and the definition's semantics are those of the
metadata generation that pass was read against. -/
theorem storage_coverage_current {w : RefreshState} (hw : Reachable refreshStep EmptyCatalog w) {d : ClusterStorage}
    (hd : d ∈ w.catalog.storages.rows) (health : Nat → StorageBackendProfile → MountHealth) (scope : PublicationScope)
    (node : String) (hc : (storageView health scope w.catalog d node).coverageComplete = true) :
    (∀ v ∈ storageVolumes (storageView health scope w.catalog d node), ∃ s ∈ requestedScopes d node,
      v.node = observationNode s) ∧
    ∀ s ∈ requestedScopes d node, ∃ cov p, d.coverages.get s = some cov ∧
      lastPublication w.published d.storageId s = some p ∧ p.answers ≠ [] ∧ p.answers.map (·.1) = scopeNodes d s ∧
      (∀ a ∈ p.answers, ∀ volid, (∃ v ∈ storageVolumes (storageView health scope w.catalog d node),
        v.node = observationNode s ∧ v.volume.volid = volid) ↔ Answered a.2 volid) ∧
      (∀ o ∈ d.observations.rows, o.node = observationNode s →
        some o.observedVolumeGeneration = cov.volumeGeneration) ∧
      semanticsAt w.snapshots p.metadataGeneration d.storageId = metadataSemantics w.catalog d.storageId := by
  have hi : RefreshInv w := hw.inv (fun _ => emptyCatalog_inv) fun hi hs => hi.step hs
  have hget := Table.get_of_mem hd
  have hreason : listReason (catalogState w.catalog) d node = "" := by simpa [storageView] using hc
  have hmode := (listReason_empty hreason).1
  have hcov := fun s hs => hi.requested (s := s) hd hreason hs
  refine ⟨fun v hv => storageVolumes_scope hmode hcov hv, ?_⟩
  intro s hs
  obtain ⟨cov, hcs, rfl, hr⟩ := hcov s hs
  obtain ⟨g, hg, hrows⟩ := hr.generation
  obtain ⟨p, hp, hne, hnodes, hans, hsem⟩ := hr.current
  refine ⟨cov, p, hcs, hp, hne, hnodes, fun a ha volid => ?_, fun o ho hn => ?_, ?_⟩
  · rw [← hans a ha volid]
    exact storageVolumes_observed hmode hcs hr hs volid
  · have hgo := Table.get_of_mem ho
    rw [Observation.key, hn] at hgo
    rw [hg, hrows _ o hgo]
  · rw [hsem, metadataSemantics_of_get hi.managed hget (hi.definitions _ d hget).managed]

/-- Two nodes that mount one shared export. -/
def nasReads : MetadataReads where
  definitions := [{ storage := "nas", type := "nfs", content := ["images"], shared := true, nodes := [],
                    disable := false, raw := [("storage", .str "nas"), ("type", .str "nfs")] }]
  nodes := [⟨"pve1", "online"⟩, ⟨"pve2", "online"⟩]
  storageOf _ := .ok [⟨"nas", true, true⟩]

/-- Enrollment that filters nothing. -/
def openScope : PublicationScope := ⟨0, 0, [], []⟩

def nasContent : ContentReads :=
  fun _ _ => .ok [{ volid := "nas:100/vm-100-disk-0.qcow2", vmid := some 100, content := "images" }]

def nasStart : RefreshState := { catalog := { state := none, storages := .empty, nextGeneration := 0 } }

/-- A full refresh, and a metadata pass after it. -/
def nasRun : List RefreshStep :=
  [.metadata openScope (.ok nasReads), .readVolumes (.ok ()) nasContent, .publishVolumes,
    .metadata openScope (.ok nasReads)]

def nasRefreshed : RefreshState := (run refreshStep nasStart nasRun).getD nasStart

def nas : ClusterStorage := (nasRefreshed.catalog.storages.get "nas").getD (.new "nas" 0)

/-- The export's coverage survives the second metadata pass. -/
theorem nas_coverage_current :
    (storageView (fun _ _ => ⟨true, true, ""⟩) openScope nasRefreshed.catalog nas "").coverageComplete = true ∧
    ∃ p, lastPublication nasRefreshed.published nas.storageId none = some p ∧ p.answers.map (·.1) = ["pve1", "pve2"] ∧
      semanticsAt nasRefreshed.snapshots p.metadataGeneration nas.storageId
        = metadataSemantics nasRefreshed.catalog nas.storageId := by
  have hreach : Reachable refreshStep EmptyCatalog nasRefreshed := ⟨nasStart, nasRun, rfl, rfl⟩
  have hmem : nas ∈ nasRefreshed.catalog.storages.rows := Table.mem_of_get (k := "nas") rfl
  have hc : (storageView (fun _ _ => ⟨true, true, ""⟩) openScope nasRefreshed.catalog nas "").coverageComplete = true :=
    rfl
  obtain ⟨-, hscopes⟩ := storage_coverage_current hreach hmem (fun _ _ => ⟨true, true, ""⟩) openScope "" hc
  obtain ⟨cov, p, -, hp, -, hnodes, -, -, hsem⟩ := hscopes none (List.mem_singleton.mpr rfl)
  exact ⟨hc, p, hp, hnodes, hsem⟩

end PveHelper.Storage
