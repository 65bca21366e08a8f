/-
What a complete coverage row stands for, and that publishing a volume pass
gives it that: the scope's observations carry the row's generation and are what
the nodes answered. Nothing is said of rows that are not complete.
-/
import PveHelper.Storage.Refresh

namespace PveHelper.Storage

open Lib Guests

/-! ## Scopes -/

theorem ClusterStorage.storageId_of_get {t : Table ClusterStorage.storageId} {id : String} {d : ClusterStorage}
    (h : t.get id = some d) : d.storageId = id :=
  Table.key_of_get h

theorem Coverage.node_of_get {t : Table Coverage.node} {node : Option String} {cov : Coverage}
    (h : t.get node = some cov) : cov.node = node :=
  Table.key_of_get h

/-- A node listed the volume. -/
def Answered (rows : List Volume) (volid : String) : Prop := ∃ v ∈ rows, v.volid = volid

/-- The scope has an observation of the volume. -/
def Observed (observations : Table Observation.key) (node : Option String) (volid : String) : Prop :=
  (observations.get (observationNode node, volid)).isSome = true

/-- The nodes that answer for a scope. -/
def scopeNodes (d : ClusterStorage) : Option String → List String
  | none => candidateNodes d
  | some node => [node]

/-- `_candidate_nodes`, by the semantics alone. -/
def Semantics.candidates (sem : Semantics) : List String :=
  (sem.nodeStates.filter fun s => s.2.1 && s.2.2.1 && s.2.2.2).map (·.1)

theorem candidateNodes_eq (d : ClusterStorage) : candidateNodes d = d.semantics.candidates := by
  simp [candidateNodes, Semantics.candidates, ClusterStorage.semantics, List.filter_map, Function.comp_def]

theorem scopeNodes_congr {d d' : ClusterStorage} (h : d'.semantics = d.semantics) (node : Option String) :
    scopeNodes d' node = scopeNodes d node := by
  cases node with
  | none => simp only [scopeNodes, candidateNodes_eq, h]
  | some n => rfl

/-- What a complete coverage row stands for. -/
structure CoverageRight (published : List Publication) (snapshots : List (Gen × (String → Option Semantics)))
    (d : ClusterStorage) (cov : Coverage) : Prop where
  scope : cov.scope = scopeOf cov.node ∧ cov.node ≠ some ""
  generation : ∃ g, cov.volumeGeneration = some g ∧ ∀ volid o,
    d.observations.get (observationNode cov.node, volid) = some o → o.observedVolumeGeneration = g
  current : ∃ p, lastPublication published d.storageId cov.node = some p ∧ p.answers ≠ [] ∧
    p.answers.map (·.1) = scopeNodes d cov.node ∧
    (∀ a ∈ p.answers, ∀ volid, Observed d.observations cov.node volid ↔ Answered a.2 volid) ∧
    semanticsAt snapshots p.metadataGeneration d.storageId = some d.semantics

/-- Every node state names a node. -/
def Named (d : ClusterStorage) : Prop := d.nodeStates.All fun s => s.node ≠ ""

/-- A managed definition whose complete coverage rows are right. -/
structure DefinitionRight (published : List Publication) (snapshots : List (Gen × (String → Option Semantics)))
    (d : ClusterStorage) : Prop where
  managed : d.unmanaged = false
  named : Named d
  covered : d.coverages.All fun cov => cov.complete = true → CoverageRight published snapshots d cov

/-- What a pass read of one scope. -/
structure Success.Ok (s : Success) : Prop where
  node : s.node ≠ some ""
  answered : s.answers ≠ []
  named : ∀ n, s.node = some n → ∃ rows, s.answers = [(n, rows)]
  agree : ∀ a ∈ s.answers, ∀ b ∈ s.answers, ∀ volid, Answered a.2 volid ↔ Answered b.2 volid

/-- A shared scope was answered by the candidates of the metadata it was read against. -/
def Success.Spoken (snapshots : List (Gen × (String → Option Semantics))) (generation : Gen) (s : Success) : Prop :=
  s.node = none → ∃ sem, semanticsAt snapshots generation s.storageId = some sem ∧
    s.answers.map (·.1) = sem.candidates

def VolumePass.Ok (snapshots : List (Gen × (String → Option Semantics))) (next : Gen) (p : VolumePass) : Prop :=
  p.metadataGeneration < next ∧ ∀ s ∈ p.successes, s.Ok ∧ s.Spoken snapshots p.metadataGeneration

/-! ## What a volume pass reads -/

theorem mem_candidateNodes {d : ClusterStorage} (hd : Named d) {n : String} (h : n ∈ candidateNodes d) :
    n ≠ "" := by
  simp only [candidateNodes, sortedByNode, List.mem_map, List.mem_filter, List.mem_insertionSort] at h
  obtain ⟨s, ⟨hs, -⟩, rfl⟩ := h
  exact hd s.node s (Table.get_of_mem hs)

theorem answered_iff_signature {rows : List Volume} {volid : String} :
    Answered rows volid ↔ ∃ g ∈ sortedSignatures rows, g.volid = volid := by
  simp only [Answered, sortedSignatures, List.mem_insertionSort, List.mem_map, exists_exists_and_eq_and]
  rfl

/-- One signature means one set of volumes. -/
theorem agree_of_signatures {answers : List (String × List Volume)}
    (h : (answers.map fun a => sortedSignatures a.2).dedup.length = 1) :
    ∀ a ∈ answers, ∀ b ∈ answers, ∀ volid, Answered a.2 volid ↔ Answered b.2 volid := by
  obtain ⟨g, hg⟩ := List.length_eq_one_iff.mp h
  have hall : ∀ a ∈ answers, sortedSignatures a.2 = g := by
    intro a ha
    have hm : sortedSignatures a.2 ∈ (answers.map fun a => sortedSignatures a.2).dedup :=
      List.mem_dedup.mpr (List.mem_map_of_mem ha)
    rw [hg] at hm
    exact List.mem_singleton.mp hm
  intro a ha b hb volid
  rw [answered_iff_signature, answered_iff_signature, hall a ha, hall b hb]

theorem readNodes_names {contentOf : ContentReads} {d : ClusterStorage} {ns : List String}
    {answers : List (String × List Volume)} (h : readNodes contentOf d ns = some answers) :
    answers.map (·.1) = ns := by
  induction ns generalizing answers with
  | nil =>
    simp only [readNodes, Option.some.injEq] at h
    rw [← h]
    rfl
  | cons n ns ih =>
    simp only [readNodes] at h
    split at h
    · cases h
    · simp only [Option.map_eq_some_iff] at h
      obtain ⟨rest, hrest, rfl⟩ := h
      simp [ih hrest]

/-- What reading one definition yields: scopes of its own, a shared one answered
by its candidates. -/
def Success.ReadOf (s : Success) (d : ClusterStorage) : Prop :=
  s.Ok ∧ s.storageId = d.storageId ∧ (s.node = none → s.answers.map (·.1) = candidateNodes d)

theorem readShared_ok {contentOf : ContentReads} {d : ClusterStorage} {successes : List Success}
    {failures : List Failure} (hc : candidateNodes d ≠ [])
    (h : readShared contentOf d (candidateNodes d) = some (successes, failures)) : ∀ s ∈ successes, s.ReadOf d := by
  simp only [readShared] at h
  split at h
  · cases h
    simp
  rename_i answers hread
  split at h
  · cases h
  split at h
  · cases h
    simp
  rename_i hone
  cases h
  simp only [List.mem_singleton, forall_eq]
  have hnames := readNodes_names hread
  have hanswered : answers ≠ [] := by
    intro hnil
    rw [hnil] at hnames
    exact hc hnames.symm
  exact ⟨⟨by simp, hanswered, by simp, agree_of_signatures (by simpa using hone)⟩, rfl, fun _ => hnames⟩

theorem readLocal_ok {contentOf : ContentReads} {d : ClusterStorage} {node : String} (hn : node ≠ "") :
    ∀ s ∈ (readLocal contentOf d node).1, s.ReadOf d := by
  intro s hs
  simp only [readLocal] at hs
  split at hs
  · rename_i rows _
    simp only [List.mem_singleton] at hs
    subst hs
    refine ⟨⟨by simpa using hn, by simp, fun n h => ⟨rows, by cases h; rfl⟩, by simp⟩, rfl, fun h => by cases h⟩
  · cases hs

theorem readDefinition_ok {contentOf : ContentReads} {d : ClusterStorage} (hd : Named d)
    {successes : List Success} {failures : List Failure}
    (h : readDefinition contentOf d = some (successes, failures)) : ∀ s ∈ successes, s.ReadOf d := by
  simp only [readDefinition] at h
  split at h
  · cases h
    simp
  split at h
  · cases h
    simp
  rename_i hcand
  split at h
  · exact readShared_ok (by simpa using hcand) h
  · cases h
    intro s hs
    simp only [List.mem_flatMap, List.mem_map] at hs
    obtain ⟨r, ⟨n, hn, rfl⟩, hs⟩ := hs
    exact readLocal_ok (mem_candidateNodes hd hn) s hs

theorem readDefinitions_ok {contentOf : ContentReads} {ds : List ClusterStorage} (hds : ∀ d ∈ ds, Named d)
    {successes : List Success} {failures : List Failure}
    (h : readDefinitions contentOf ds = some (successes, failures)) : ∀ s ∈ successes, ∃ d ∈ ds, s.ReadOf d := by
  induction ds generalizing successes failures with
  | nil =>
    simp only [readDefinitions, Option.some.injEq, Prod.mk.injEq] at h
    simp [← h.1]
  | cons d ds ih =>
    simp only [readDefinitions, Option.bind_eq_bind, Option.bind_eq_some_iff, Option.pure_def, Option.some.injEq,
      Prod.mk.injEq] at h
    obtain ⟨⟨s₁, f₁⟩, h₁, ⟨s₂, f₂⟩, h₂, rfl, -⟩ := h
    intro s hs
    rcases List.mem_append.mp hs with hs | hs
    · exact ⟨d, List.mem_cons_self .., readDefinition_ok (hds d (List.mem_cons_self ..)) h₁ s hs⟩
    · obtain ⟨x, hx, hok⟩ := ih (fun x hx => hds x (List.mem_cons_of_mem _ hx)) h₂ s hs
      exact ⟨x, List.mem_cons_of_mem _ hx, hok⟩

/-! ## What the diff stores -/

section diff

variable {s : Success} (ok : s.Ok)

include ok

theorem Success.Ok.desired_node {p : String × Volume} (h : p ∈ s.desired) : p.1 = observationNode s.node := by
  simp only [Success.desired] at h
  split at h
  · rename_i hn
    obtain ⟨v, -, rfl⟩ := List.mem_map.mp h
    rw [hn]
    rfl
  · rename_i n hn
    obtain ⟨rows, hr⟩ := ok.named n hn
    simp only [hr, List.flatMap_singleton, List.mem_map] at h
    obtain ⟨v, -, rfl⟩ := h
    rw [hn]
    rfl

/-- The volumes to store are those every node of the scope listed. -/
theorem Success.Ok.desired_volid {a : String × List Volume} (ha : a ∈ s.answers) (volid : String) :
    (∃ p ∈ s.desired, p.2.volid = volid) ↔ Answered a.2 volid := by
  simp only [Success.desired]
  split
  · obtain ⟨b, rest, hb⟩ := List.exists_cons_of_ne_nil ok.answered
    rw [ok.agree a ha b (by rw [hb]; exact List.mem_cons_self ..) volid]
    simp [hb, Answered]
  · rename_i n hn
    obtain ⟨rows, hr⟩ := ok.named n hn
    rw [hr, List.mem_singleton] at ha
    simp [hr, ha, Answered]

/-- A row of the scope is kept only where some volume has its key. -/
theorem Success.Ok.find_desired {k : String × String} (hk : k.1 = observationNode s.node) :
    (s.desired.reverse.find? fun p => decide ((p.1, p.2.volid) = k)).isSome = true ↔
      ∃ p ∈ s.desired, p.2.volid = k.2 := by
  simp only [List.find?_isSome, List.mem_reverse, decide_eq_true_eq]
  constructor
  · intro h
    obtain ⟨p, hp, rfl⟩ := h
    exact ⟨p, hp, rfl⟩
  · intro hx
    obtain ⟨p, hp, hv⟩ := hx
    exact ⟨p, hp, Prod.ext ((ok.desired_node hp).trans hk.symm) hv⟩

/-- The other scopes' rows stay. -/
theorem applyVolumeDiff_other (observations : Table Observation.key) (g m : Gen) (pub : Option Gen)
    {k : String × String} (hk : k.1 ≠ observationNode s.node) :
    (applyVolumeDiff observations s.node s.desired g m pub).1.get k = observations.get k := by
  have hnone : s.desired.reverse.find? (fun p => decide ((p.1, p.2.volid) = k)) = none := by
    rw [List.find?_eq_none]
    intro p hp
    simp only [decide_eq_true_eq]
    rintro rfl
    exact hk (ok.desired_node (List.mem_reverse.mp hp))
  simp only [applyVolumeDiff]
  split
  · rw [Table.get_modify]
    cases ho : observations.get k with
    | none => rfl
    | some o =>
      have hok := Table.key_of_get ho
      simp [Observation.drift, hok, hnone]
  · rw [Table.get_foldl_put (f := fun p : String × Volume => (⟨p.1, p.2, g, m⟩ : Observation))]
    have : (fun p : String × Volume => decide (Observation.key ⟨p.1, p.2, g, m⟩ = k))
        = fun p => decide ((p.1, p.2.volid) = k) := rfl
    rw [this, hnone, Option.map_none, Option.none_or, Table.get_keep]
    cases ho : observations.get k with
    | none => rfl
    | some o =>
      have hok := Table.key_of_get ho
      have hne : o.node ≠ observationNode s.node := fun he => hk (by rw [← hok]; exact he)
      simp [hne]

/-- The scope has a row for each volume to store, and no other. -/
theorem applyVolumeDiff_observed (observations : Table Observation.key) (g m : Gen) (pub : Option Gen)
    (volid : String) : Observed (applyVolumeDiff observations s.node s.desired g m pub).1 s.node volid ↔
      ∃ p ∈ s.desired, p.2.volid = volid := by
  simp only [Observed, applyVolumeDiff]
  split
  · rename_i h
    simp only [membershipChanged, Bool.and_eq_true, Bool.not_eq_true', Bool.or_eq_false_iff, List.any_eq_false] at h
    obtain ⟨⟨hkept, hadded⟩, -⟩ := h
    rw [Table.get_modify, Option.isSome_map]
    constructor
    · intro ho
      obtain ⟨o, ho⟩ := Option.isSome_iff_exists.mp ho
      have hkey := Table.key_of_get ho
      have hnode : o.node = observationNode s.node := congrArg Prod.fst hkey
      have hkeep := hkept o (Table.mem_of_get ho)
      simp only [hnode, hkey, decide_true, decide_eq_true_eq, true_and] at hkeep
      by_contra hno
      exact hkeep fun p hp hpk => hno ⟨p, hp, congrArg Prod.snd hpk⟩
    · intro hx
      obtain ⟨p, hp, rfl⟩ := hx
      have := hadded p hp
      rw [ok.desired_node hp] at this
      simpa [Option.isSome_iff_ne_none] using this
  · rw [Table.get_foldl_put (f := fun p : String × Volume => (⟨p.1, p.2, g, m⟩ : Observation)), Option.isSome_or,
      Option.isSome_map, Bool.or_eq_true]
    change (s.desired.reverse.find? fun p => decide ((p.1, p.2.volid) = _)).isSome = true ∨ _ ↔ _
    rw [ok.find_desired rfl]
    refine or_iff_left_of_imp ?_
    intro hkept
    obtain ⟨o, ho⟩ := Option.isSome_iff_exists.mp hkept
    rw [Table.get_keep, Option.filter_eq_some_iff] at ho
    have hkey := Table.key_of_get ho.1
    have hnode : o.node = observationNode s.node := congrArg Prod.fst hkey
    simp only [hnode, hkey, ne_eq, not_true_eq_false, decide_false, Bool.false_or, List.any_eq_true,
      decide_eq_true_eq] at ho
    obtain ⟨p, hp, hpk⟩ := ho.2
    exact ⟨p, hp, congrArg Prod.snd hpk⟩

/-- A new generation is stamped on every row of the scope. -/
theorem applyVolumeDiff_changed {observations : Table Observation.key} {g m : Gen} {pub : Option Gen}
    (h : (applyVolumeDiff observations s.node s.desired g m pub).2 = true) {volid : String} {o : Observation}
    (ho : (applyVolumeDiff observations s.node s.desired g m pub).1.get (observationNode s.node, volid) = some o) :
    o.observedVolumeGeneration = g := by
  have hobs := (applyVolumeDiff_observed ok observations g m pub volid).mp (by rw [Observed, ho]; rfl)
  rw [← ok.find_desired (k := (observationNode s.node, volid)) rfl] at hobs
  obtain ⟨p, hp⟩ := Option.isSome_iff_exists.mp hobs
  simp only [applyVolumeDiff] at h ho
  split at h
  · cases h
  rename_i hch
  rw [if_neg hch] at ho
  rw [Table.get_foldl_put (f := fun p : String × Volume => (⟨p.1, p.2, g, m⟩ : Observation))] at ho
  change ((s.desired.reverse.find? fun p => decide ((p.1, p.2.volid) = _)).map _).or _ = _ at ho
  rw [hp] at ho
  cases ho
  rfl

end diff

/-- Without a new generation there was a published one, and every row keeps its own. -/
theorem applyVolumeDiff_unchanged {observations : Table Observation.key} {node : Option String}
    {desired : List (String × Volume)} {g m : Gen} {pub : Option Gen}
    (h : (applyVolumeDiff observations node desired g m pub).2 = false) :
    pub.isSome = true ∧ ∀ k o, (applyVolumeDiff observations node desired g m pub).1.get k = some o →
      ∃ o', observations.get k = some o' ∧ o.observedVolumeGeneration = o'.observedVolumeGeneration := by
  simp only [applyVolumeDiff] at h ⊢
  split at h
  · rename_i hc
    rw [if_pos hc]
    simp only [Bool.and_eq_true] at hc
    refine ⟨hc.2, ?_⟩
    intro k o ho
    simp only [Table.get_modify, Option.map_eq_some_iff] at ho
    obtain ⟨o', ho', rfl⟩ := ho
    refine ⟨o', ho', ?_⟩
    simp only [Observation.drift]
    split <;> rfl
  · cases h

/-! ## Publishing a volume pass -/

section right

variable {pubs pubs' : List Publication} {snaps snaps' : List (Gen × (String → Option Semantics))}
  {d d' : ClusterStorage} {cov cov' : Coverage}

/-- A right row stays right while nothing it speaks of changes. -/
theorem CoverageRight.transfer (h : CoverageRight pubs snaps d cov) (hnode : cov'.node = cov.node)
    (hscope : cov'.scope = cov.scope) (hgen : cov'.volumeGeneration = cov.volumeGeneration)
    (hobs : ∀ volid, d'.observations.get (observationNode cov.node, volid)
      = d.observations.get (observationNode cov.node, volid))
    (hlast : lastPublication pubs' d'.storageId cov.node = lastPublication pubs d.storageId cov.node)
    (hsem : d'.semantics = d.semantics)
    (hsnap : ∀ p ∈ pubs, semanticsAt snaps' p.metadataGeneration d'.storageId
      = semanticsAt snaps p.metadataGeneration d.storageId) :
    CoverageRight pubs' snaps' d' cov' := by
  obtain ⟨g, hg, hrows⟩ := h.generation
  obtain ⟨p, hp, hne, hnodes, hans, hs⟩ := h.current
  refine ⟨?_, ⟨g, hgen.trans hg, fun volid o ho => ?_⟩, p, ?_, hne, ?_, fun a ha volid => ?_, ?_⟩
  · rw [hscope, hnode]
    exact h.scope
  · rw [hnode, hobs] at ho
    exact hrows volid o ho
  · rw [hnode, hlast, hp]
  · rw [hnode, scopeNodes_congr hsem, hnodes]
  · rw [hnode, Observed, hobs]
    exact hans a ha volid
  · rw [hsnap p (List.mem_of_find?_eq_some hp), hs, hsem]

theorem lastPublication_cons (p : Publication) (id : String) (node : Option String) :
    lastPublication (p :: pubs) id node
      = if p.storageId = id ∧ p.node = node then some p else lastPublication pubs id node := by
  simp only [lastPublication, List.find?_cons]
  by_cases h : p.storageId = id ∧ p.node = node
  · simp [h]
  · rw [if_neg h]
    have : (decide (p.storageId = id) && decide (p.node = node)) = false := by
      simpa [-not_and, not_and] using h
    rw [this]

/-- The row a success leaves behind is right. -/
theorem Success.Ok.published_right {s : Success} (ok : s.Ok) (h : DefinitionRight pubs snaps d)
    (hid : d.storageId = s.storageId) {g m : Gen} (hspoken : s.Spoken snaps m)
    (hsem : semanticsAt snaps m d.storageId = some d.semantics)
    (hget : (s.publish g m d).coverages.get s.node = some cov) :
    CoverageRight (s.publication m :: pubs) snaps (s.publish g m d) cov := by
  simp only [Success.publish, Table.get_put, if_true, Option.some.injEq] at hget
  subst hget
  refine ⟨⟨rfl, ok.node⟩, ?_, s.publication m, ?_, ok.answered, ?_, fun a ha volid => ?_, hsem⟩
  · cases hch : (applyVolumeDiff d.observations s.node s.desired g m
        (if ((d.coverages.get s.node).getD { node := s.node, scope := scopeOf s.node }).complete then
          ((d.coverages.get s.node).getD { node := s.node, scope := scopeOf s.node }).volumeGeneration else none)).2 with
    | true => exact ⟨g, by rw [if_pos rfl], fun volid o ho => applyVolumeDiff_changed ok hch ho⟩
    | false =>
      -- The published generation stands: it was that of a complete row.
      obtain ⟨hpub, hrows⟩ := applyVolumeDiff_unchanged hch
      cases hc : d.coverages.get s.node with
      | none => simp [hc] at hpub
      | some old =>
        simp only [hc, Option.getD_some] at hpub ⊢
        cases hcomp : old.complete with
        | false => simp [hcomp] at hpub
        | true =>
          obtain ⟨g₀, hg₀, hold⟩ := (h.covered s.node old hc hcomp).generation
          rw [Coverage.node_of_get hc] at hold
          refine ⟨g₀, by simp [hg₀], ?_⟩
          intro volid o ho
          obtain ⟨o', ho', he⟩ := hrows _ o ho
          exact he.trans (hold volid o' ho')
  · rw [lastPublication_cons]
    exact if_pos ⟨hid.symm, rfl⟩
  · cases hn : s.node with
    | none =>
      obtain ⟨sem, hsem', hnames⟩ := hspoken hn
      rw [← hid, hsem, Option.some.injEq] at hsem'
      exact hnames.trans (by rw [← hsem', scopeNodes, candidateNodes_eq]; rfl)
    | some n =>
      obtain ⟨rows, hr⟩ := ok.named n hn
      simp [Success.publication, scopeNodes, hr]
  · exact (applyVolumeDiff_observed ok _ _ _ _ volid).trans (ok.desired_volid ha volid)

theorem Success.Ok.publish_right {s : Success} (ok : s.Ok) (h : DefinitionRight pubs snaps d)
    (hid : d.storageId = s.storageId) {g m : Gen} (hspoken : s.Spoken snaps m)
    (hsem : semanticsAt snaps m d.storageId = some d.semantics) :
    DefinitionRight (s.publication m :: pubs) snaps (s.publish g m d) := by
  refine ⟨h.managed, h.named, ?_⟩
  intro k cov hget hcomp
  have hk := Table.key_of_get hget
  by_cases he : k = s.node
  · rw [he] at hget
    exact ok.published_right h hid hspoken hsem hget
  · have hold : d.coverages.get k = some cov := by
      simpa only [Success.publish, Table.get_put, if_neg he] using hget
    have hr := h.covered k cov hold hcomp
    refine hr.transfer rfl rfl rfl (fun volid => ?_) ?_ rfl fun _ _ => rfl
    · refine applyVolumeDiff_other ok _ _ _ _ fun hn => he ?_
      exact hk.symm.trans (observationNode_inj hr.scope.2 ok.node hn)
    · rw [lastPublication_cons]
      exact if_neg fun hn => he (hk.symm.trans hn.2.symm)

/-- Another definition's publication changes nothing here. -/
theorem DefinitionRight.other (h : DefinitionRight pubs snaps d) {p : Publication} (hid : d.storageId ≠ p.storageId) :
    DefinitionRight (p :: pubs) snaps d := by
  refine ⟨h.managed, h.named, ?_⟩
  intro k cov hget hcomp
  refine (h.covered k cov hget hcomp).transfer rfl rfl rfl (fun _ => rfl) ?_ rfl fun _ _ => rfl
  rw [lastPublication_cons]
  exact if_neg fun hn => hid hn.1.symm

theorem publishSuccesses_right {g m : Gen} {successes : List Success} {storages : Table ClusterStorage.storageId}
    (ok : ∀ s ∈ successes, s.Ok ∧ s.Spoken snaps m)
    (h : storages.All fun d => DefinitionRight pubs snaps d ∧ semanticsAt snaps m d.storageId = some d.semantics) :
    (publishSuccesses g m successes storages).All
      (DefinitionRight ((successes.map (·.publication m)).reverse ++ pubs) snaps) := by
  induction successes generalizing pubs storages with
  | nil => exact fun k d hd => (h k d hd).1
  | cons s successes ih =>
    have hs := ok s (List.mem_cons_self ..)
    have hstep : (storages.alter s.storageId (s.publish g m) (s.publish_storageId g m)).All fun d =>
        DefinitionRight (s.publication m :: pubs) snaps d ∧ semanticsAt snaps m d.storageId = some d.semantics :=
      h.alter (fun d hid hd => ⟨hs.1.publish_right hd.1 hid hs.2 hd.2, hd.2⟩) fun d hid hd => ⟨hd.1.other hid, hd.2⟩
    rw [List.map_cons, List.reverse_cons, List.append_assoc]
    exact ih (fun s' hs' => ok s' (List.mem_cons_of_mem _ hs')) hstep

theorem Failure.record_right (f : Failure) (h : DefinitionRight pubs snaps d) :
    DefinitionRight pubs snaps (f.record d) := by
  simp only [Failure.record]
  split
  · exact h
  refine ⟨h.managed, h.named, ?_⟩
  intro k cov hget hcomp
  rw [Table.get_put] at hget
  split at hget
  · cases hget
    cases hcomp
  · exact (h.covered k cov hget hcomp).transfer rfl rfl rfl (fun _ => rfl) rfl rfl fun _ _ => rfl

theorem recordFailures_right {failures : List Failure} {storages : Table ClusterStorage.storageId}
    (h : storages.All (DefinitionRight pubs snaps)) :
    (recordFailures failures storages).All (DefinitionRight pubs snaps) :=
  h.foldl fun _ f _ ht => ht.alter (fun _ _ hd => f.record_right hd) fun _ _ hd => hd

end right

/-! ## What the volume pass leaves alone -/

/-- What `_metadata_semantics` reads of a definition. -/
def ClusterStorage.face (d : ClusterStorage) : Bool × Semantics := (d.unmanaged, d.semantics)

theorem metadataSemantics_congr {c c' : Catalog} (hr : c'.retired = c.retired) {id : String}
    (h : (c'.storages.get id).map ClusterStorage.face = (c.storages.get id).map ClusterStorage.face) :
    metadataSemantics c' id = metadataSemantics c id := by
  have hface : ∀ x : Catalog, metadataSemantics x id = if x.retired then none else
      (((x.storages.get id).map ClusterStorage.face).filter fun f => !f.1).map (·.2) := by
    intro x
    simp only [metadataSemantics]
    cases x.storages.get id with
    | none => rfl
    | some d => cases hd : d.unmanaged <;> simp [ClusterStorage.face, hd, Option.filter]
  rw [hface, hface, hr, h]

theorem face_alter {t : Table ClusterStorage.storageId} {id : String} {f : ClusterStorage → ClusterStorage} {hf}
    (hface : ∀ d, (f d).face = d.face) (k : String) :
    ((t.alter id f hf).get k).map ClusterStorage.face = (t.get k).map ClusterStorage.face := by
  rw [Table.get_alter]
  split
  · rw [Option.map_map]
    congr 1
    exact funext hface
  · rfl

theorem publishSuccesses_face {g m : Gen} (k : String) (successes : List Success)
    (storages : Table ClusterStorage.storageId) :
    ((publishSuccesses g m successes storages).get k).map ClusterStorage.face
      = (storages.get k).map ClusterStorage.face := by
  induction successes generalizing storages with
  | nil => rfl
  | cons s successes ih => exact (ih _).trans (face_alter (f := s.publish g m) (fun _ => rfl) k)

theorem recordFailures_face (k : String) (failures : List Failure) (storages : Table ClusterStorage.storageId) :
    ((recordFailures failures storages).get k).map ClusterStorage.face
      = (storages.get k).map ClusterStorage.face := by
  induction failures generalizing storages with
  | nil => rfl
  | cons f failures ih =>
    refine (ih _).trans (face_alter (f := f.record) ?_ k)
    intro d
    simp only [Failure.record]
    split <;> rfl

theorem metadataSemantics_of_get {c : Catalog} {d : ClusterStorage} {id : String} (hr : c.retired = false)
    (hd : c.storages.get id = some d) (hm : d.unmanaged = false) : metadataSemantics c id = some d.semantics := by
  simp [metadataSemantics, hr, hd, hm, Option.filter]

theorem semanticsAt_cons {snaps : List (Gen × (String → Option Semantics))} {g g' : Gen}
    {f : String → Option Semantics} (h : g < g') (id : String) :
    semanticsAt ((g', f) :: snaps) g id = semanticsAt snaps g id := by
  have hne : ¬ g' = g := fun he => Nat.lt_irrefl g (he ▸ h)
  simp [semanticsAt, hne]

end PveHelper.Storage
