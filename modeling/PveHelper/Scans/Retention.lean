/-
Retention beside running scans, after `prune_scan_history` of
`core/services/scan_retention.py`. A prune asks which completed scan backs each
mount, one query a mount, and then deletes every other file row, also those of
a scan that has written its rows and not yet its status. A storage's newest
result stays whole as long as the two keep apart: from a prune's question for a
storage to its file deletion no other scan, not yet ended, has rows there.
-/
import Mathlib.Data.Prod.Lex
import Mathlib.Data.List.MinMax
import PveHelper.Scans.Lifecycle

namespace PveHelper.Scans

open Lib Guests

/-! ## The newest result -/

/-- A missing time comes before every other. -/
def timeRank : Option Time → Nat ×ₗ Time
  | none => toLex (0, 0)
  | some t => toLex (1, t)

theorem timeRank_inj {a b : Option Time} : timeRank a = timeRank b ↔ a = b := by
  cases a <;> cases b <;> simp [timeRank]

theorem laterTime_iff {a b : Option Time} : laterTime a b = true ↔ timeRank b < timeRank a := by
  cases a <;> cases b <;> simp [laterTime, timeRank, Prod.Lex.toLex_lt_toLex]

/-- The columns `_latest_storage_result_scan` orders by, and the key. -/
def ScanRun.rank (r : ScanRun) : (Nat ×ₗ Time) ×ₗ (Nat ×ₗ Time) ×ₗ Time ×ₗ Natᵒᵈ :=
  toLex (timeRank r.filesystemScanAt, toLex (timeRank r.finishedAt, toLex (r.createdAt, OrderDual.toDual r.pk)))

theorem ScanRun.newer_iff {a b : ScanRun} : a.newer b = true ↔ b.rank < a.rank := by
  unfold ScanRun.newer ScanRun.rank
  simp only [Prod.Lex.toLex_lt_toLex, timeRank_inj, OrderDual.toDual_lt_toDual]
  by_cases hf : a.filesystemScanAt = b.filesystemScanAt
  · by_cases hd : a.finishedAt = b.finishedAt
    · by_cases hc : a.createdAt = b.createdAt
      · simp [hf, hd, hc]
      · simp [hf, hd, hc, Ne.symm hc]
    · simp [hf, hd, Ne.symm hd, laterTime_iff]
  · simp [hf, Ne.symm hf, laterTime_iff]

theorem ScanRun.pk_of_rank {a b : ScanRun} (h : a.rank = b.rank) : a.pk = b.pk := by
  simp only [ScanRun.rank, EmbeddingLike.apply_eq_iff_eq, Prod.mk.injEq] at h
  exact h.2.2.2

theorem ScanRun.finishedAt_of_rank {a b : ScanRun} (h : a.rank = b.rank) : a.finishedAt = b.finishedAt := by
  simp only [ScanRun.rank, EmbeddingLike.apply_eq_iff_eq, Prod.mk.injEq, timeRank_inj] at h
  exact h.2.1

/-- The completed scan of the storage that outranks every other. -/
structure Newest (scans : Table ScanRun.pk) (storage : Nat) (r : ScanRun) : Prop where
  stored : scans.get r.pk = some r
  backs : r.backs storage = true
  newest : ∀ k r', scans.get k = some r' → r'.backs storage = true → r'.pk = r.pk ∨ r'.rank < r.rank

theorem Newest.unique {scans : Table ScanRun.pk} {storage : Nat} {r r' : ScanRun} (h : Newest scans storage r)
    (h' : Newest scans storage r') : r = r' := by
  rcases h.newest r'.pk r' h'.stored h'.backs with hpk | hlt
  · have hstored := h'.stored
    rw [hpk, h.stored] at hstored
    exact Option.some.inj hstored
  · rcases h'.newest r.pk r h.stored h.backs with hpk | hlt'
    · have hstored := h.stored
      rw [hpk, h'.stored] at hstored
      exact (Option.some.inj hstored).symm
    · exact absurd hlt' (lt_asymm hlt)

theorem latestStorageResultScan_some {scans : Table ScanRun.pk} {storage : Nat} {r : ScanRun} :
    latestStorageResultScan scans storage = some r → Newest scans storage r := by
  intro h
  have hall := List.find?_some h
  obtain ⟨hmem, hb⟩ := List.mem_filter.mp (List.mem_of_find?_eq_some h)
  refine ⟨Table.get_of_mem hmem, hb, ?_⟩
  intro k r' hr' hb'
  have hin : r' ∈ scans.rows.filter (·.backs storage) := List.mem_filter.mpr ⟨Table.mem_of_get hr', hb'⟩
  simpa [ScanRun.newer_iff] using List.all_eq_true.mp hall r' hin

/-- A storage that some completed scan backs has a newest one. -/
theorem exists_newest {scans : Table ScanRun.pk} {storage k : Nat} {r : ScanRun} (hr : scans.get k = some r)
    (hb : r.backs storage = true) : ∃ m, Newest scans storage m := by
  have hin : r ∈ scans.rows.filter (·.backs storage) := List.mem_filter.mpr ⟨Table.mem_of_get hr, hb⟩
  cases hm : (scans.rows.filter (·.backs storage)).argmax ScanRun.rank with
  | none =>
    rw [List.argmax_eq_none.mp hm] at hin
    cases hin
  | some m =>
    obtain ⟨hmem, hbm⟩ := List.mem_filter.mp (List.argmax_mem hm)
    refine ⟨m, Table.get_of_mem hmem, hbm, ?_⟩
    intro k' r' hr' hb'
    have hin' : r' ∈ scans.rows.filter (·.backs storage) := List.mem_filter.mpr ⟨Table.mem_of_get hr', hb'⟩
    rcases lt_or_eq_of_le (List.le_of_mem_argmax hin' hm) with hlt | heq
    · exact .inr hlt
    · exact .inl (ScanRun.pk_of_rank heq)

theorem latestStorageResultScan_iff {scans : Table ScanRun.pk} {storage : Nat} {r : ScanRun} :
    latestStorageResultScan scans storage = some r ↔ Newest scans storage r := by
  refine ⟨latestStorageResultScan_some, fun h => ?_⟩
  cases hl : latestStorageResultScan scans storage with
  | some m => rw [(latestStorageResultScan_some hl).unique h]
  | none =>
    have hnone := List.find?_eq_none.mp hl r (List.mem_filter.mpr ⟨Table.mem_of_get h.stored, h.backs⟩)
    refine absurd (List.all_eq_true.mpr fun r' hr' => ?_) hnone
    obtain ⟨hmem, hb⟩ := List.mem_filter.mp hr'
    simpa [ScanRun.newer_iff] using h.newest r'.pk r' (Table.get_of_mem hmem) hb

/-! ## Rows still needed -/

/-- The row's scan has not ended, or backs the row's storage. -/
def ScanSys.Needed (s : ScanSys) (f : FileRow) : Prop :=
  (∃ st ∈ statusOf s.scans f.scan, st.ended = false) ∨
    ∃ r ∈ latestStorageResultScan s.scans f.storage, r.pk = f.scan

/-! ## Prunes under way -/

/-- When the prune began. -/
def Phase.begun : Phase → Option Time
  | .selecting now _ _ => some now
  | .selected now _ _ => some now
  | .pruned now _ => some now
  | _ => none

/-- The storages the prune has still to ask for. -/
def Phase.todo : Phase → List Nat
  | .selecting _ todo _ => todo
  | _ => []

/-- The file rows are still to be deleted. -/
def Phase.deleting : Phase → Bool
  | .selecting .. => true
  | .selected .. => true
  | _ => false

/-- The pairs the file deletion will keep, as far as they are known. -/
def Phase.pairs : Phase → List (Nat × Nat)
  | .selecting _ _ pairs => pairs
  | .selected _ pairs _ => pairs
  | _ => []

/-- The scans the scan deletion will keep, as far as they are known. -/
def Phase.kept : Phase → List Nat
  | .selecting _ _ pairs => pairs.map (·.1)
  | .selected _ _ kept => kept
  | .pruned _ kept => kept
  | _ => []

/-- The prune knows what to keep of the storage and has not deleted the rest. -/
def Phase.asked (p : Phase) (storage : Nat) : Bool := p.deleting && !p.todo.contains storage

/-- No prune asks for a storage for which a scan that has not ended has rows; no
scan creates rows for a storage between a prune's question for it and its file
deletion; a scan is completed once, and not a week before a prune under way. -/
def PrunesApart (s : ScanSys) : ScanAct → ScanSys → Prop
  | .selectStorage w, _ => ∀ x ∈ s.workers.get w, ∀ storage ∈ x.phase.todo.head?, ∀ f ∈ s.files, f.storage = storage →
      ∀ st ∈ statusOf s.scans f.scan, st.ended = true
  | .write _ rows, _ => ∀ x ∈ s.workers.rows, ∀ row ∈ rows, x.phase.asked row.1 = false
  | .complete w _ finishedAt, _ => (s.workerScan w).bind (statusOf s.scans) ≠ some .completed ∧
      ∀ x ∈ s.workers.rows, ∀ now ∈ x.phase.begun, retentionCutoff now ≤ finishedAt
  | _, _ => True

instance (s s' : ScanSys) : (a : ScanAct) → Decidable (PrunesApart s a s')
  | .selectStorage .. | .write .. => inferInstanceAs (Decidable (∀ _ ∈ _, _))
  | .complete .. => inferInstanceAs (Decidable (_ ∧ _))
  | .enqueue .. | .noteTask .. | .deliver .. | .start .. | .progress .. | .fail .. | .prune .. | .selectInventory ..
  | .deleteFiles .. | .deleteScans .. | .finish .. | .reapRunning .. | .reapQueued .. | .reapSave .. => isTrue trivial

/-- Statuses are saved in turn, and prunes and writes keep apart. -/
def InTurn (s : ScanSys) (a : ScanAct) (s' : ScanSys) : Prop := SavesInTurn s a s' ∧ PrunesApart s a s'

instance (s s' : ScanSys) (a : ScanAct) : Decidable (InTurn s a s') := inferInstanceAs (Decidable (_ ∧ _))

/-- A prune at this point will delete nothing that is needed: of the storages it
has asked for it keeps every needed row's pair, and their newest result, unless
that is too young to expire. -/
structure Safe (s : ScanSys) (p : Phase) : Prop where
  needed : ∀ f ∈ s.created, s.Needed f → p.asked f.storage = true → (f.scan, f.storage) ∈ p.pairs
  newest : ∀ now ∈ p.begun, ∀ storage ∈ s.mounts, storage ∉ p.todo → ∀ r, Newest s.scans storage r →
    r.pk ∈ p.kept ∨ ∃ t ∈ r.finishedAt, retentionCutoff now ≤ t

theorem Phase.asked_iff {p : Phase} {storage : Nat} : p.asked storage = true ↔ p.deleting = true ∧ storage ∉ p.todo := by
  simp [Phase.asked]

theorem safe_of_not_begun {s : ScanSys} {p : Phase} (h : p.begun = none) : Safe s p := by
  refine ⟨?_, ?_⟩
  · intro f _ _ hasked
    cases p <;> cases h <;> cases hasked
  · intro now hnow
    rw [h] at hnow
    cases hnow

/-- A newest result, kept or too young, does not expire. -/
theorem Safe.not_expired {s : ScanSys} {now : Time} {kept : List Nat} (h : Safe s (.pruned now kept)) {storage : Nat}
    (hmount : storage ∈ s.mounts) {r : ScanRun} (hr : Newest s.scans storage r) :
    r.expired kept (retentionCutoff now) = false := by
  unfold ScanRun.expired
  rcases h.newest now rfl storage hmount List.not_mem_nil r hr with hkept | ⟨t, ht, hle⟩
  · have hkept : r.pk ∈ kept := hkept
    simp [hkept]
  · rw [Option.mem_def.mp ht]
    simp [Int.not_lt.mpr hle]

/-- A completed scan's row after a step: as it was, in all that ranks it. -/
structure SameResult (r r' : ScanRun) : Prop where
  rank : r'.rank = r.rank
  status : r'.status = r.status
  target : r'.target = r.target

theorem SameResult.refl (r : ScanRun) : SameResult r r := ⟨rfl, rfl, rfl⟩

theorem ScanRun.completed_of_backs {r : ScanRun} {storage : Nat} (h : r.backs storage = true) : r.status = .completed := by
  unfold ScanRun.backs at h
  simp only [Bool.and_eq_true, decide_eq_true_eq] at h
  exact h.1

theorem SameResult.backs {r r' : ScanRun} (h : SameResult r r') (storage : Nat) : r'.backs storage = r.backs storage := by
  unfold ScanRun.backs
  rw [h.status, h.target]

/-- A save on a scan that has not completed leaves the completed ones alone. -/
theorem get_alter_completed {scans : Table ScanRun.pk} {pk k : Nat} {f : ScanRun → ScanRun}
    {hf : ∀ r, (f r).pk = r.pk} {r : ScanRun} (hr : scans.get k = some r) (hc : r.status = .completed)
    (hopen : statusOf scans pk ≠ some .completed) : (scans.alter pk f hf).get k = some r := by
  rw [Table.get_alter, if_neg, hr]
  intro hk
  subst hk
  refine hopen ?_
  rw [statusOf, hr, Option.map_some, hc]

/-- A completed scan stays as it is until a prune's scan deletion drops its row. -/
theorem completed_stays {s s' : ScanSys} {a : ScanAct} (hcount : CountedScans s) (h : scanAct s a = some s')
    (ht : InTurn s a s') {k : Nat} {r : ScanRun} (hr : s.scans.get k = some r) (hc : r.status = .completed) :
    (∃ r', s'.scans.get k = some r' ∧ SameResult r r') ∨ s'.scans.get k = none ∧
      ∃ w x now kept, s.workers.get w = some x ∧ x.phase = .pruned now kept ∧
        r.expired kept (retentionCutoff now) = true := by
  obtain ⟨hsave, hapart⟩ := ht
  have hsame : ∀ (pk : Nat) (f : ScanRun → ScanRun) (hf : ∀ r, (f r).pk = r.pk),
      statusOf s.scans pk ≠ some .completed → ∃ r', (s.scans.alter pk f hf).get k = some r' ∧ SameResult r r' :=
    fun pk f hf hopen => ⟨r, get_alter_completed hr hc hopen, .refl r⟩
  cases scanAct_effect h with
  | kept | delivered | wrote | pruning | asked | selected | filesDeleted | finished | reaping =>
    exact .inl ⟨r, hr, .refl r⟩
  | enqueued =>
    have hk : k ≠ s.nextPk := Nat.ne_of_lt (hcount k r.status (by rw [statusOf, hr, Option.map_some]))
    refine .inl ⟨r, ?_, .refl r⟩
    rw [Table.get_put, if_neg hk, hr]
  | @noted pk taskId =>
    rw [ScanSys.saveScan, Table.get_alter, hr]
    by_cases hk : k = pk
    · exact .inl ⟨_, if_pos hk, rfl, rfl, rfl⟩
    · exact .inl ⟨_, if_neg hk, .refl r⟩
  | @started _ x now hw =>
    simp only [SavesInTurn, ScanSys.workerScan, hw, Option.map_some, Option.bind_some] at hsave
    exact .inl (hsame x.scan (startedRun now) (fun _ => rfl) hsave.1)
  | @completed _ x filesystemAt finishedAt hw =>
    simp only [PrunesApart, ScanSys.workerScan, hw, Option.map_some, Option.bind_some] at hapart
    exact .inl (hsame x.scan (completedRun filesystemAt finishedAt) (fun _ => rfl) hapart.1)
  | @failed _ x now hw =>
    simp only [SavesInTurn, ScanSys.workerScan, hw, Option.map_some, Option.bind_some] at hsave
    exact .inl (hsame x.scan (failedRun now) (fun _ => rfl) hsave)
  | @reaped _ _ pk _ now hx hf =>
    simp only [SavesInTurn, ScanSys.reaperScan, hx, hf, Option.bind_some, List.head?_cons] at hsave
    exact .inl (hsame pk (failedRun now) (fun _ => rfl) hsave)
  | @scansDeleted w x now kept hw hp =>
    by_cases hexp : r.expired kept (retentionCutoff now) = true
    · refine .inr ⟨?_, w, x, now, kept, hw, hp, hexp⟩
      rw [Table.get_keep, hr]
      simp [hexp]
    · refine .inl ⟨r, ?_, .refl r⟩
      rw [Table.get_keep, hr]
      simp [hexp]

/-! ## Newest results stay whole -/

/-- Every file row that the scan backing a storage created for it is stored. -/
def WholeResults (s : ScanSys) : Prop :=
  ∀ storage r, latestStorageResultScan s.scans storage = some r →
    ∀ f ∈ s.created, f.scan = r.pk → f.storage = storage → f ∈ s.files

/-- Every row that is still needed is stored, and no prune under way will take one. -/
structure KeepsNeeded (s : ScanSys) : Prop where
  counted : CountedScans s
  created : ∀ f ∈ s.created, f.scan < s.nextPk ∧ f.storage ∈ s.mounts
  needed : ∀ f ∈ s.created, s.Needed f → f ∈ s.files
  prunes : s.workers.All fun x => Safe s x.phase

theorem KeepsNeeded.whole {s : ScanSys} (h : KeepsNeeded s) : WholeResults s := by
  intro storage r hr f hf hscan hstorage
  refine h.needed f hf (.inr ⟨r, ?_, hscan.symm⟩)
  rw [hstorage]
  exact hr

section Step

variable {s s' : ScanSys} {a : ScanAct}

/-- A scan that backs a storage, and was completed before the step, backed it then. -/
theorem newest_before (hi : KeepsNeeded s) (h : scanAct s a = some s') (ht : InTurn s a s') {storage : Nat}
    (hmount : storage ∈ s.mounts) {r r' : ScanRun} (hr' : Newest s'.scans storage r')
    (hr : s.scans.get r'.pk = some r) (hc : r.status = .completed) :
    Newest s.scans storage r ∧ SameResult r r' := by
  have hpk : r.pk = r'.pk := Table.key_of_get hr
  have hsame : SameResult r r' := by
    rcases completed_stays hi.counted h ht hr hc with ⟨r₁, hr₁, hs⟩ | ⟨hgone, -⟩
    · rw [hr'.stored] at hr₁
      exact Option.some.inj hr₁ ▸ hs
    · rw [hr'.stored] at hgone
      cases hgone
  have hb : r.backs storage = true := (hsame.backs storage).symm.trans hr'.backs
  -- The newest one before the step outlives it, so it is this one.
  obtain ⟨m, hm⟩ := exists_newest hr hb
  have hmr : m.pk = r.pk := by
    rcases completed_stays hi.counted h ht hm.stored (ScanRun.completed_of_backs hm.backs) with
      ⟨m', hm', hsm⟩ | ⟨-, w, x, now, kept, hw, hp, hexp⟩
    · have hmpk : m'.pk = m.pk := Table.key_of_get hm'
      rcases hr'.newest m.pk m' hm' ((hsm.backs storage).trans hm.backs) with heq | hlt
      · exact hmpk.symm.trans (heq.trans hpk.symm)
      · rcases hm.newest r'.pk r hr hb with heq | hlt'
        · exact heq.symm
        · rw [hsm.rank, hsame.rank] at hlt
          exact absurd hlt' (lt_asymm hlt)
    · have hsafe : Safe s (.pruned now kept) := hp ▸ hi.prunes w x hw
      rw [hsafe.not_expired hmount hm] at hexp
      cases hexp
  have hstored := hm.stored
  rw [hmr, hpk, hr] at hstored
  exact ⟨Option.some.inj hstored ▸ hm, hsame⟩

/-- A row needed after a step was needed before it. -/
theorem needed_before (hi : KeepsNeeded s) (h : scanAct s a = some s') (ht : InTurn s a s') {f : FileRow}
    (hf : f ∈ s.created) (hn : s'.Needed f) : s.Needed f := by
  obtain ⟨hold, hmount⟩ := hi.created f hf
  have hsaves := savesInTurn_iff.mp ht.1
  -- A scan not yet ended was not ended before, and a completed one was completed or not ended.
  have hback : ∀ st, statusOf s'.scans f.scan = some st →
      statusOf s.scans f.scan = some st ∨ ∃ u ∈ statusOf s.scans f.scan, u.ended = false := by
    intro st hst
    obtain hsame | ⟨hw, u, hu⟩ | ⟨hnew, -⟩ := scanAct_status h hst
    · exact .inl hsame
    · by_cases hend : u.ended = true
      · rw [hsaves f.scan st u hw hu hend]
        exact .inl hu
      · exact .inr ⟨u, hu, by simpa using hend⟩
    · exact absurd hnew (Nat.ne_of_lt hold)
  rcases hn with ⟨st, hst, hopen⟩ | ⟨r', hr', hpk⟩
  · rcases hback st hst with hsame | hwas
    · exact .inl ⟨st, hsame, hopen⟩
    · exact .inl hwas
  · have hnewest := latestStorageResultScan_iff.mp hr'
    have hc' : statusOf s'.scans f.scan = some .completed := by
      rw [statusOf, ← hpk, hnewest.stored, Option.map_some, ScanRun.completed_of_backs hnewest.backs]
    rcases hback _ hc' with hsame | hwas
    · obtain ⟨r, hr, hc⟩ := Option.map_eq_some_iff.mp hsame
      have hrpk : r.pk = f.scan := Table.key_of_get hr
      rw [← hpk] at hr
      exact .inr ⟨r, latestStorageResultScan_iff.mpr (newest_before hi h ht hmount hnewest hr hc).1, hrpk⟩
    · exact .inl hwas

/-- A stored row that stays needed stays stored. -/
theorem needed_stays (hi : KeepsNeeded s) (h : scanAct s a = some s') {f : FileRow} (hc : f ∈ s.created)
    (hn : s.Needed f) (hn' : s'.Needed f) : f ∈ s'.files := by
  have hf : f ∈ s.files := hi.needed f hc hn
  cases scanAct_effect h with
  | kept | enqueued | noted | delivered | started | completed | failed | pruning | asked | selected | finished
    | reaping | reaped => exact hf
  | wrote => exact List.mem_append_left _ hf
  | @filesDeleted w x now pairs kept hw hp =>
    have hsafe : Safe s (.selected now pairs kept) := hp ▸ hi.prunes w x hw
    exact List.mem_filter.mpr ⟨hf, List.contains_iff_mem.mpr (hsafe.needed f hc hn rfl)⟩
  | @scansDeleted _ _ now kept =>
    refine List.mem_filter.mpr ⟨hf, ?_⟩
    -- The scan of a needed row is stored, so it has not expired.
    obtain ⟨r, hr⟩ : ∃ r, (s.scans.keep fun r => !r.expired kept (retentionCutoff now)).get f.scan = some r := by
      rcases hn' with ⟨st, hst, -⟩ | ⟨r, hr, hpk⟩
      · obtain ⟨r, hr, -⟩ := Option.map_eq_some_iff.mp hst
        exact ⟨r, hr⟩
      · exact ⟨r, hpk ▸ (latestStorageResultScan_iff.mp hr).stored⟩
    rw [Table.get_keep, Option.filter_eq_some_iff] at hr
    rw [hr.1]
    simpa using hr.2

theorem scanAct_mounts (h : scanAct s a = some s') : s'.mounts = s.mounts := by
  cases scanAct_effect h <;> rfl

/-- A file row is created by a scan that is stored, on an enabled mount that no
prune has asked for, and stored itself. -/
theorem scanAct_created (hcount : CountedScans s) (h : scanAct s a = some s') (ht : InTurn s a s') {f : FileRow}
    (hf : f ∈ s'.created) :
    f ∈ s.created ∨ f ∈ s'.files ∧ f.scan < s.nextPk ∧ f.storage ∈ s.mounts ∧
      ∀ x ∈ s.workers.rows, x.phase.asked f.storage = false := by
  cases scanAct_effect h with
  | kept | enqueued | noted | delivered | started | completed | failed | pruning | asked | selected | filesDeleted
    | scansDeleted | finished | reaping | reaped => exact .inl hf
  | wrote hw hp hr hfiles =>
    rcases List.mem_append.mp hf with hold | hnew
    · exact .inl hold
    · obtain ⟨hrow, hscan, hmount, -⟩ := hfiles f hnew
      obtain ⟨r, hr⟩ := Option.isSome_iff_exists.mp hr
      refine .inr ⟨List.mem_append_right _ hnew, ?_, hmount, fun x hx => ht.2 x hx _ hrow⟩
      rw [hscan]
      exact hcount _ r.status (by rw [statusOf, hr, Option.map_some])

/-- A scan that a step completes is too young for every prune under way. -/
theorem completed_young (h : scanAct s a = some s') (ht : InTurn s a s') {r' : ScanRun}
    (hr' : s'.scans.get r'.pk = some r') (hc' : r'.status = .completed)
    (hc : statusOf s.scans r'.pk ≠ some .completed) {x : ScanWorker} (hx : x ∈ s.workers.rows) {now : Time}
    (hnow : x.phase.begun = some now) : ∃ t ∈ r'.finishedAt, retentionCutoff now ≤ t := by
  have hst : statusOf s'.scans r'.pk = some .completed := by rw [statusOf, hr', Option.map_some, hc']
  obtain hsame | ⟨hw, -⟩ | ⟨-, hq, -⟩ := scanAct_status h hst
  · exact absurd hsame hc
  · obtain ⟨w, filesystemAt, finishedAt, rfl, hscans⟩ := scanAct_completes h hw
    rw [hscans, Table.get_alter, if_pos rfl] at hr'
    obtain ⟨r, -, hrun⟩ := Option.map_eq_some_iff.mp hr'
    exact ⟨finishedAt, by rw [← hrun]; rfl, ht.2.2 x hx now hnow⟩
  · cases hq

/-- A step leaves every prune under way safe. -/
theorem Safe.step (hi : KeepsNeeded s) (h : scanAct s a = some s') (ht : InTurn s a s') {k : Nat} {x : ScanWorker}
    (hx : s.workers.get k = some x) : Safe s' x.phase := by
  have hsafe : Safe s x.phase := hi.prunes k x hx
  have hmem : x ∈ s.workers.rows := Table.mem_of_get hx
  refine ⟨?_, ?_⟩
  · intro f hf hn hasked
    rcases scanAct_created hi.counted h ht hf with hold | ⟨-, -, -, hfree⟩
    · exact hsafe.needed f hold (needed_before hi h ht hold hn) hasked
    · rw [hfree x hmem] at hasked
      cases hasked
  · intro now hnow storage hmount htodo r' hr'
    rw [scanAct_mounts h] at hmount
    have hc' := ScanRun.completed_of_backs hr'.backs
    by_cases hc : statusOf s.scans r'.pk = some .completed
    · obtain ⟨r, hr, hst⟩ := Option.map_eq_some_iff.mp hc
      obtain ⟨hnewest, hsame⟩ := newest_before hi h ht hmount hr' hr hst
      rw [← Table.key_of_get hr, ScanRun.finishedAt_of_rank hsame.rank]
      exact hsafe.newest now hnow storage hmount htodo r hnewest
    · exact .inr (completed_young h ht hr'.stored hc' hc hmem hnow)

/-- What a prune asked last is all it needs to know of that storage. -/
theorem Safe.ask (hi : KeepsNeeded s) {now : Time} {storage : Nat} {todo : List Nat} {pairs : List (Nat × Nat)}
    (h : Safe s (.selecting now (storage :: todo) pairs))
    (hended : ∀ f ∈ s.files, f.storage = storage → ∀ st ∈ statusOf s.scans f.scan, st.ended = true) :
    Safe s (.selecting now todo (pairs ++ currentPair s.scans storage)) := by
  have hpair : ∀ r, Newest s.scans storage r → (r.pk, storage) ∈ currentPair s.scans storage := by
    intro r hr
    simp [currentPair, latestStorageResultScan_iff.mpr hr]
  refine ⟨?_, ?_⟩
  · intro f hf hn hasked
    have htodo : f.storage ∉ todo := (Phase.asked_iff.mp hasked).2
    by_cases hst : f.storage = storage
    · refine List.mem_append_right _ ?_
      rcases hn with ⟨st, hstat, hopen⟩ | ⟨r, hr, hpk⟩
      · rw [hended f (hi.needed f hf (.inl ⟨st, hstat, hopen⟩)) hst st hstat] at hopen
        cases hopen
      · rw [hst] at hr
        rw [← hpk, hst]
        exact hpair r (latestStorageResultScan_iff.mp hr)
    · refine List.mem_append_left _ (h.needed f hf hn (Phase.asked_iff.mpr ⟨rfl, ?_⟩))
      simpa [Phase.todo, hst] using htodo
  · intro now' hnow storage' hmount htodo r hr
    rw [Phase.kept, List.map_append]
    by_cases hst : storage' = storage
    · subst hst
      exact .inl (List.mem_append_right _ (List.mem_map.mpr ⟨_, hpair r hr, rfl⟩))
    · have htodo' : storage' ∉ storage :: todo := by simpa [Phase.todo, hst] using htodo
      exact (h.newest now' hnow storage' hmount htodo' r hr).imp_left (List.mem_append_left _)

/-- A prune that has asked for every storage keeps what it knows. -/
theorem Safe.select {now : Time} {pairs : List (Nat × Nat)} (h : Safe s (.selecting now [] pairs)) (scans : List Nat) :
    Safe s (.selected now pairs (pairs.map (·.1) ++ scans)) := by
  refine ⟨h.needed, ?_⟩
  intro now' hnow storage hmount htodo r hr
  exact (h.newest now' hnow storage hmount htodo r hr).imp_left (List.mem_append_left _)

theorem scanAct_safe (hi : KeepsNeeded s) (h : scanAct s a = some s') (ht : InTurn s a s') :
    s'.workers.All fun x => Safe s' x.phase := by
  have hold : s.workers.All fun x => Safe s' x.phase := fun k x hx => Safe.step hi h ht hx
  cases scanAct_effect h with
  | kept | enqueued | noted | reaping | reaped => exact hold
  | failed | finished => exact hold.keep _
  | delivered | started | wrote | completed | scansDeleted => exact hold.put (safe_of_not_begun rfl)
  | @pruning w x now hw hp =>
    refine hold.put ⟨?_, ?_⟩
    · intro f hf hn hasked
      exact absurd (hi.created f hf).2 (Phase.asked_iff.mp hasked).2
    · intro now' hnow storage hmount htodo
      exact absurd hmount htodo
  | @asked w x now storage todo pairs hw hp =>
    have hsafe : Safe s (.selecting now (storage :: todo) pairs) := hp ▸ hi.prunes w x hw
    have hnow : Safe s (.selecting now todo (pairs ++ currentPair s.scans storage)) :=
      hsafe.ask hi (ht.2 x hw storage (by rw [hp]; rfl))
    exact hold.put ⟨hnow.needed, hnow.newest⟩
  | @selected w x now pairs scans hw hp =>
    have hsafe : Safe s (.selecting now [] pairs) := hp ▸ hi.prunes w x hw
    have hnow := hsafe.select scans
    exact hold.put ⟨hnow.needed, hnow.newest⟩
  | @filesDeleted w x now pairs kept hw hp =>
    have hsafe : Safe s (.selected now pairs kept) := hp ▸ hi.prunes w x hw
    refine hold.put ⟨?_, hsafe.newest⟩
    intro f hf hn hasked
    cases hasked

theorem scanAct_keepsNeeded (hi : KeepsNeeded s) (h : scanAct s a = some s') (ht : InTurn s a s') : KeepsNeeded s' := by
  have hnext := scanAct_nextPk h
  refine ⟨scanAct_counted hi.counted h, ?_, ?_, scanAct_safe hi h ht⟩
  · intro f hf
    rw [scanAct_mounts h]
    rcases scanAct_created hi.counted h ht hf with hold | ⟨-, hscan, hmount, -⟩
    · obtain ⟨hscan, hmount⟩ := hi.created f hold
      exact ⟨Nat.lt_of_lt_of_le hscan hnext, hmount⟩
    · exact ⟨Nat.lt_of_lt_of_le hscan hnext, hmount⟩
  · intro f hf hn
    rcases scanAct_created hi.counted h ht hf with hold | ⟨hstored, -⟩
    · exact needed_stays hi h hold (needed_before hi h ht hold hn) hn
    · exact hstored

end Step

theorem Idle.keepsNeeded {s : ScanSys} (h : Idle s) : KeepsNeeded s := by
  have hnone : ∀ f, f ∉ s.created := fun f hf => by rw [h.created] at hf; cases hf
  refine ⟨h.counted, fun f hf => absurd hf (hnone f), fun f hf => absurd hf (hnone f), ?_⟩
  intro k x hx
  have hmem := Table.mem_of_get hx
  rw [h.workers] at hmem
  cases hmem

/-- **In a run whose saves come in turn and whose prunes and writes keep apart,
the newest result of every storage is whole in every state.** -/
theorem newest_results_whole {s₀ : ScanSys} (h₀ : Idle s₀) {ls : List ScanAct} (ha : Along scanAct InTurn s₀ ls) :
    Always scanAct WholeResults s₀ ls := by
  intro ls₁ ls₂ s' he hr
  exact (Along.always scanAct_keepsNeeded h₀.keepsNeeded ha ls₁ ls₂ s' he hr).whole

/-- Two scans of one mount, more than a week apart; the second's prune drops the first and what it found. -/
def scanAfterScan : List ScanAct :=
  [.enqueue none 100, .deliver 1 0, .start 1 110, .write 1 [(7, "template/iso/a.iso")], .complete 1 120 121,
    .prune 1 122, .selectStorage 1, .selectInventory 1 [], .deleteFiles 1, .deleteScans 1, .finish 1,
    .enqueue (some 7) 700000, .deliver 2 1, .start 2 700010, .write 2 [(7, "template/iso/a.iso")],
    .complete 2 700020 700021, .prune 2 700022, .selectStorage 2, .selectInventory 2 [], .deleteFiles 2,
    .deleteScans 2, .finish 2]

theorem scan_after_scan_whole : Always scanAct WholeResults (idle [7]) scanAfterScan :=
  newest_results_whole (idle_idle [7]) (by decide +kernel)

/-- Scans of two mounts overlap: the first prunes when the second has written its rows and not yet its status. -/
def overlappingScans : List ScanAct :=
  [.enqueue (some 7) 100, .enqueue (some 8) 101, .deliver 1 0, .start 1 110, .deliver 2 1, .start 2 111,
    .write 1 [(7, "template/iso/a.iso")], .write 2 [(8, "template/iso/b.iso")], .complete 1 120 121,
    .prune 1 122, .selectStorage 1, .selectStorage 1, .selectInventory 1 [], .deleteFiles 1, .complete 2 130 131]

/-- The second scan completes with its rows gone. -/
theorem overlapping_prune_empties_result : ¬ ∀ s₀ ls, Idle s₀ → Always scanAct WholeResults s₀ ls := by
  intro h
  have := h (idle [7, 8]) overlappingScans (idle_idle _) overlappingScans [] _ (by simp) rfl 8 _ rfl
    ⟨1, 8, "template/iso/b.iso"⟩ (by decide +kernel) rfl rfl
  revert this
  decide +kernel

end PveHelper.Scans
