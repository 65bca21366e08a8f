/-
Which scan backs a storage when nothing runs at the same time: completed scans,
directory refreshes through a storage's current result and prunes, one after
another, after the end of `_run_scan`, `refresh_storage_directory` and
`prune_scan_history`. The scan that completed last of those that cover a storage
is kept beside the rows, and so are the file rows that pruning took. A refresh
stamps its scan as just walked, for all the storages the scan covers.
-/
import PveHelper.Lib.Posix
import PveHelper.Scans.Retention

namespace PveHelper.Scans

open Lib Guests

/-- The scans and their file rows between two operations. -/
structure BackSys where
  scans : Table ScanRun.pk
  files : List FileRow
  /-- The file rows that prunes have deleted. -/
  pruned : List FileRow
  /-- Every scan completed so far with its target, the last first. -/
  history : List (Nat × Option Nat)
  nextPk : Nat
  clock : Time
  /-- The enabled mounts, by id. -/
  mounts : List Nat

inductive BackAct
  /-- A scan of all storages, or of its target, from its creation to its completion. -/
  | scan (target : Option Nat) (createdAt filesystemAt finishedAt : Time) (rows : List (Nat × String))
  /-- `refresh_storage_directory` with the storage's current result scan. -/
  | refresh (storage : Nat) (directory : String) (paths : List String) (now : Time)
  /-- `prune_scan_history`; `inventory` are the scans that back a cluster's inventory. -/
  | prune (inventory : List Nat) (now : Time)

/-- The row of a scan that has completed. -/
def completedScan (pk : Nat) (target : Option Nat) (createdAt filesystemAt finishedAt : Time) : ScanRun :=
  completedRun filesystemAt finishedAt { pk := pk, createdAt := createdAt, target := target }

/-- The save at the end of a refresh. -/
def refreshedRun (now : Time) (r : ScanRun) : ScanRun := { r with filesystemScanAt := some now }

theorem refreshedRun_pk (now : Time) (r : ScanRun) : (refreshedRun now r).pk = r.pk := rfl

/-- `_current_file_inventory_pairs`. -/
def currentFileInventoryPairs (scans : Table ScanRun.pk) (mounts : List Nat) : List (Nat × Nat) :=
  mounts.flatMap (currentPair scans)

/-- The file row stays in a prune: its pair is current, and its scan is not dropped. -/
def BackSys.keepsFile (s : BackSys) (kept : List Nat) (now : Time) (f : FileRow) : Bool :=
  (currentFileInventoryPairs s.scans s.mounts).contains (f.scan, f.storage) &&
    !(s.scans.get f.scan).any (·.expired kept (retentionCutoff now))

/-- One operation, from beginning to end. Each clock reading that is stored comes after
those stored before. -/
def backStep (s : BackSys) : BackAct → Option BackSys
  | .scan target createdAt filesystemAt finishedAt rows =>
    let files := rows.map fun r => (⟨s.nextPk, r.1, r.2⟩ : FileRow)
    if s.clock < filesystemAt ∧ createdAt ≤ filesystemAt ∧ filesystemAt ≤ finishedAt ∧
        (∀ f ∈ files, f.storage ∈ s.mounts ∧ (target = none ∨ target = some f.storage)) then
      some { s with
        scans := s.scans.put (completedScan s.nextPk target createdAt filesystemAt finishedAt)
        files := s.files ++ files
        history := (s.nextPk, target) :: s.history
        nextPk := s.nextPk + 1
        clock := finishedAt }
    else none
  | .refresh storage directory paths now => (latestStorageResultScan s.scans storage).bind fun r =>
    if s.clock < now ∧ ∀ p ∈ paths, Posix.directChild directory p = true then
      some { s with
        scans := s.scans.alter r.pk (refreshedRun now) (refreshedRun_pk now)
        files := (s.files.filter fun f =>
            !(f.scan == r.pk && f.storage == storage && Posix.directChild directory f.path)) ++
          paths.map fun p => ⟨r.pk, storage, p⟩
        clock := now }
    else none
  | .prune inventory now =>
    let kept := (currentFileInventoryPairs s.scans s.mounts).map (·.1) ++ inventory
    some { s with
      scans := s.scans.keep fun r => !r.expired kept (retentionCutoff now)
      files := s.files.filter (s.keepsFile kept now)
      pruned := s.pruned ++ s.files.filter fun f => !s.keepsFile kept now f }

/-- The scan completed last of those that covered the storage. -/
def BackSys.lastCovering (s : BackSys) (storage : Nat) : Option Nat :=
  (s.history.find? fun h => decide (h.2 = none) || decide (h.2 = some storage)).map (·.1)

/-- Every enabled storage that a scan has covered is backed by the last that did, and
pruning has left that scan's rows for it alone. -/
def BackSys.Backed (s : BackSys) : Prop :=
  ∀ storage ∈ s.mounts, ∀ pk ∈ s.lastCovering storage,
    (latestStorageResultScan s.scans storage).map (·.pk) = some pk ∧ ∀ f ∈ s.pruned, f.scan = pk → f.storage ≠ storage

/-- A refresh through a scan of all storages comes while that scan backs them all. -/
def BacksAlone (s : BackSys) : BackAct → BackSys → Prop
  | .refresh storage _ _ _, _ => ∀ r ∈ latestStorageResultScan s.scans storage, r.target = none →
      ∀ m ∈ s.mounts, (latestStorageResultScan s.scans m).map (·.pk) = some r.pk
  | _, _ => True

instance (s s' : BackSys) : (a : BackAct) → Decidable (BacksAlone s a s')
  | .refresh .. => inferInstanceAs (Decidable (∀ _ ∈ _, _))
  | .scan .. | .prune .. => isTrue trivial

/-- Nothing scanned yet. -/
structure Unscanned (s : BackSys) : Prop where
  scans : s.scans.rows = []
  files : s.files = []
  pruned : s.pruned = []
  history : s.history = []

/-! ## What always holds -/

/-- Every stored scan is completed, stands in the history and was walked by now; every
file row is of a scan that exists or existed. -/
structure BackSys.Sound (s : BackSys) : Prop where
  completed : ∀ k r, s.scans.get k = some r → r.status = .completed
  walked : ∀ k r, s.scans.get k = some r → ∃ t, r.filesystemScanAt = some t ∧ t ≤ s.clock
  known : ∀ k r, s.scans.get k = some r → (r.pk, r.target) ∈ s.history
  history : ∀ h ∈ s.history, h.1 < s.nextPk
  files : ∀ f ∈ s.files, f.scan < s.nextPk
  pruned : ∀ f ∈ s.pruned, f.scan < s.nextPk

theorem BackSys.Sound.fresh {s : BackSys} (hs : s.Sound) {k : Nat} {r : ScanRun} (hr : s.scans.get k = some r) :
    k < s.nextPk :=
  Table.key_of_get hr ▸ hs.history _ (hs.known k r hr)

theorem Unscanned.sound {s : BackSys} (h : Unscanned s) : s.Sound := by
  have hnone : ∀ k, s.scans.get k = none := fun k => Table.get_eq_none.mpr (by simp [h.scans])
  constructor <;> simp [hnone, h.files, h.pruned, h.history]

theorem Unscanned.backed {s : BackSys} (h : Unscanned s) : s.Backed := by
  intro storage _ pk hpk
  simp [BackSys.lastCovering, h.history] at hpk

section
variable {s s' : BackSys}

theorem sound_scan (hs : s.Sound) {target : Option Nat} {createdAt filesystemAt finishedAt : Time} {rows : List (Nat × String)}
    (h : backStep s (.scan target createdAt filesystemAt finishedAt rows) = some s') : s'.Sound := by
  obtain ⟨⟨hclock, -, hfinished, -⟩, h⟩ := Option.ite_none_right_eq_some.mp h
  cases h
  have hold : ∀ k r, (s.scans.put (completedScan s.nextPk target createdAt filesystemAt finishedAt)).get k = some r →
      r = completedScan s.nextPk target createdAt filesystemAt finishedAt ∨ s.scans.get k = some r := by
    intro k r hr
    rw [Table.get_put] at hr
    split at hr
    · exact .inl (Option.some.inj hr).symm
    · exact .inr hr
  refine ⟨?_, ?_, ?_, ?_, ?_, ?_⟩
  · intro k r hr
    rcases hold k r hr with rfl | hr
    · rfl
    · exact hs.completed k r hr
  · intro k r hr
    rcases hold k r hr with rfl | hr
    · exact ⟨filesystemAt, rfl, hfinished⟩
    · obtain ⟨t, ht, hle⟩ := hs.walked k r hr
      exact ⟨t, ht, (hle.trans hclock.le).trans hfinished⟩
  · intro k r hr
    rcases hold k r hr with rfl | hr
    · exact List.mem_cons_self ..
    · exact List.mem_cons_of_mem _ (hs.known k r hr)
  · intro x hx
    rcases List.mem_cons.mp hx with rfl | hx
    · exact Nat.lt_succ_self _
    · exact Nat.lt_succ_of_lt (hs.history x hx)
  · intro f hf
    rcases List.mem_append.mp hf with hf | hf
    · exact Nat.lt_succ_of_lt (hs.files f hf)
    · obtain ⟨row, -, rfl⟩ := List.mem_map.mp hf
      exact Nat.lt_succ_self _
  · exact fun f hf => Nat.lt_succ_of_lt (hs.pruned f hf)

theorem sound_refresh (hs : s.Sound) {storage : Nat} {directory : String} {paths : List String} {now : Time}
    (h : backStep s (.refresh storage directory paths now) = some s') : s'.Sound := by
  obtain ⟨r, hr, h⟩ := Option.bind_eq_some_iff.mp h
  obtain ⟨⟨hclock, -⟩, h⟩ := Option.ite_none_right_eq_some.mp h
  cases h
  have hstored := (latestStorageResultScan_iff.mp hr).stored
  have hold : ∀ k x, (s.scans.alter r.pk (refreshedRun now) (refreshedRun_pk now)).get k = some x →
      x = refreshedRun now r ∨ s.scans.get k = some x := by
    intro k x hx
    rw [Table.get_alter] at hx
    split at hx
    · rename_i hk
      rw [hk, hstored] at hx
      exact .inl (Option.some.inj hx).symm
    · exact .inr hx
  refine ⟨?_, ?_, ?_, hs.history, ?_, hs.pruned⟩
  · intro k x hx
    rcases hold k x hx with rfl | hx
    · exact hs.completed _ r hstored
    · exact hs.completed k x hx
  · intro k x hx
    rcases hold k x hx with rfl | hx
    · exact ⟨now, rfl, le_refl now⟩
    · obtain ⟨t, ht, hle⟩ := hs.walked k x hx
      exact ⟨t, ht, hle.trans hclock.le⟩
  · intro k x hx
    rcases hold k x hx with rfl | hx
    · exact hs.known _ r hstored
    · exact hs.known k x hx
  · intro f hf
    rcases List.mem_append.mp hf with hf | hf
    · exact hs.files f (List.mem_filter.mp hf).1
    · obtain ⟨p, -, rfl⟩ := List.mem_map.mp hf
      exact hs.history _ (hs.known _ r hstored)

theorem sound_prune (hs : s.Sound) {inventory : List Nat} {now : Time}
    (h : backStep s (.prune inventory now) = some s') : s'.Sound := by
  cases h
  have hold : ∀ (p : ScanRun → Bool) k r, (s.scans.keep p).get k = some r → s.scans.get k = some r := by
    intro p k r hr
    rw [Table.get_keep, Option.filter_eq_some_iff] at hr
    exact hr.1
  refine ⟨fun k r hr => hs.completed k r (hold _ k r hr), fun k r hr => hs.walked k r (hold _ k r hr),
    fun k r hr => hs.known k r (hold _ k r hr), hs.history, fun f hf => hs.files f (List.mem_filter.mp hf).1, ?_⟩
  intro f hf
  rcases List.mem_append.mp hf with hf | hf
  · exact hs.pruned f hf
  · exact hs.files f (List.mem_filter.mp hf).1

theorem backStep_sound {a : BackAct} (hs : s.Sound) (h : backStep s a = some s') : s'.Sound := by
  cases a with
  | scan => exact sound_scan hs h
  | refresh => exact sound_refresh hs h
  | prune => exact sound_prune hs h

end

/-! ## What an operation leaves newest -/

theorem ScanRun.backs_iff {r : ScanRun} {storage : Nat} :
    r.backs storage = true ↔ r.status = .completed ∧ (r.target = some storage ∨ r.target = none) := by
  simp [ScanRun.backs]

section
variable {scans scans' : Table ScanRun.pk} {storage : Nat}

/-- A scan of the storage walked after all others is its newest. -/
theorem newest_of_walked_last {r : ScanRun} (now : Time) (hr : scans.get r.pk = some r) (hb : r.backs storage = true)
    (hnow : r.filesystemScanAt = some now)
    (hold : ∀ k r', scans.get k = some r' → r'.pk ≠ r.pk → ∃ t, r'.filesystemScanAt = some t ∧ t < now) :
    Newest scans storage r := by
  refine ⟨hr, hb, fun k r' hr' _ => ?_⟩
  by_cases hpk : r'.pk = r.pk
  · exact .inl hpk
  · obtain ⟨t, ht, hlt⟩ := hold k r' hr' hpk
    refine .inr (Prod.Lex.toLex_lt_toLex.mpr (.inl ?_))
    rw [ht, hnow, timeRank, timeRank, Prod.Lex.toLex_lt_toLex]
    exact .inr ⟨rfl, hlt⟩

/-- What backs a storage is decided by the scans that can. -/
theorem latestStorageResultScan_congr
    (h : ∀ k r, r.backs storage = true → (scans'.get k = some r ↔ scans.get k = some r)) :
    latestStorageResultScan scans' storage = latestStorageResultScan scans storage := by
  have hnewest : ∀ r, Newest scans' storage r ↔ Newest scans storage r := by
    intro r
    constructor
    · exact fun hn => ⟨(h _ r hn.backs).mp hn.stored, hn.backs,
        fun k r' hr' hb => hn.newest k r' ((h k r' hb).mpr hr') hb⟩
    · exact fun hn => ⟨(h _ r hn.backs).mpr hn.stored, hn.backs,
        fun k r' hr' hb => hn.newest k r' ((h k r' hb).mp hr') hb⟩
  refine Option.ext fun r => ?_
  rw [latestStorageResultScan_iff, latestStorageResultScan_iff, hnewest]

theorem newest_keep {p : ScanRun → Bool} {r : ScanRun} (hn : Newest scans storage r) (hp : p r = true) :
    Newest (scans.keep p) storage r := by
  have hold : ∀ k r', (scans.keep p).get k = some r' → scans.get k = some r' := by
    intro k r' hr'
    rw [Table.get_keep, Option.filter_eq_some_iff] at hr'
    exact hr'.1
  refine ⟨?_, hn.backs, fun k r' hr' hb => hn.newest k r' (hold k r' hr') hb⟩
  rw [Table.get_keep, Option.filter_eq_some_iff]
  exact ⟨hn.stored, hp⟩

end

section
variable {s s' : BackSys}

theorem lastCovering_cons {s : BackSys} {storage : Nat} {h : Nat × Option Nat} {hs : List (Nat × Option Nat)}
    (hhist : s.history = h :: hs) :
    s.lastCovering storage = if h.2 = none ∨ h.2 = some storage then some h.1
      else (hs.find? fun h => decide (h.2 = none) || decide (h.2 = some storage)).map (·.1) := by
  unfold BackSys.lastCovering
  rw [hhist, List.find?_cons]
  by_cases hc : h.2 = none ∨ h.2 = some storage
  · rw [if_pos hc, show (decide (h.2 = none) || decide (h.2 = some storage)) = true by simpa using hc]
    rfl
  · rw [if_neg hc, show (decide (h.2 = none) || decide (h.2 = some storage)) = false by simpa using hc]

/-- A completed scan takes over the storages it covers and leaves the others alone. -/
theorem backed_scan (hs : s.Sound) (hb : s.Backed) {target : Option Nat} {createdAt filesystemAt finishedAt : Time}
    {rows : List (Nat × String)} (h : backStep s (.scan target createdAt filesystemAt finishedAt rows) = some s') :
    s'.Backed := by
  obtain ⟨⟨hclock, -, -, -⟩, h⟩ := Option.ite_none_right_eq_some.mp h
  cases h
  intro storage hm pk hpk
  rw [lastCovering_cons rfl] at hpk
  by_cases hc : target = none ∨ target = some storage
  · rw [if_pos hc] at hpk
    cases hpk
    refine ⟨?_, fun f hf hscan => absurd (hs.pruned f hf) (by rw [hscan]; exact lt_irrefl _)⟩
    have hnewest : Newest (s.scans.put (completedScan s.nextPk target createdAt filesystemAt finishedAt)) storage
        (completedScan s.nextPk target createdAt filesystemAt finishedAt) := by
      refine newest_of_walked_last filesystemAt ?_ ?_ rfl ?_
      · rw [Table.get_put, if_pos rfl]
      · exact ScanRun.backs_iff.mpr ⟨rfl, hc.symm⟩
      · intro k r' hr' hne
        rw [Table.get_put] at hr'
        split at hr'
        · cases hr'
          exact absurd rfl hne
        · obtain ⟨t, ht, hle⟩ := hs.walked k r' hr'
          exact ⟨t, ht, lt_of_le_of_lt hle hclock⟩
    rw [latestStorageResultScan_iff.mpr hnewest]
    rfl
  · rw [if_neg hc] at hpk
    have hsame : latestStorageResultScan (s.scans.put (completedScan s.nextPk target createdAt filesystemAt finishedAt)) storage =
        latestStorageResultScan s.scans storage := by
      refine latestStorageResultScan_congr fun k r hback => ?_
      rw [Table.get_put]
      split
      · rename_i hk
        constructor
        · intro hr
          cases hr
          exact absurd (ScanRun.backs_iff.mp hback).2.symm hc
        · intro hr
          exact absurd (hs.fresh hr) (by rw [hk]; exact lt_irrefl _)
      · rfl
    rw [hsame]
    exact hb storage hm pk hpk

/-- A refresh makes its scan the newest of every storage the scan covers. -/
theorem latest_after_refresh (hs : s.Sound) {storage : Nat} {directory : String} {paths : List String} {now : Time}
    {r : ScanRun} (hr : latestStorageResultScan s.scans storage = some r)
    (h : backStep s (.refresh storage directory paths now) = some s') (m : Nat) :
    latestStorageResultScan s'.scans m =
      if r.backs m = true then some (refreshedRun now r) else latestStorageResultScan s.scans m := by
  obtain ⟨x, hx, h⟩ := Option.bind_eq_some_iff.mp h
  obtain ⟨⟨hclock, -⟩, h⟩ := Option.ite_none_right_eq_some.mp h
  cases h
  rw [hr] at hx
  cases hx
  have hstored := (latestStorageResultScan_iff.mp hr).stored
  split
  · rename_i hback
    refine latestStorageResultScan_iff.mpr (newest_of_walked_last now ?_ hback rfl ?_)
    · rw [refreshedRun_pk, Table.get_alter_self, hstored]
      rfl
    · intro k r' hr' hne
      rw [Table.get_alter] at hr'
      split at hr'
      · rename_i hk
        rw [hk, hstored] at hr'
        cases hr'
        exact absurd rfl hne
      · obtain ⟨t, ht, hle⟩ := hs.walked k r' hr'
        exact ⟨t, ht, lt_of_le_of_lt hle hclock⟩
  · rename_i hback
    refine latestStorageResultScan_congr fun k x hx => ?_
    rw [Table.get_alter]
    split
    · rename_i hk
      rw [hk, hstored]
      constructor
      · intro hx'
        cases hx'
        exact absurd hx hback
      · intro hx'
        cases hx'
        exact absurd hx hback
    · rfl

/-- A storage that a stored scan covers has a last scan that did. -/
theorem lastCovering_isSome (hs : s.Sound) {k m : Nat} {r : ScanRun} (hr : s.scans.get k = some r)
    (hback : r.backs m = true) : ∃ pk, s.lastCovering m = some pk := by
  have hsome : (s.history.find? fun h => decide (h.2 = none) || decide (h.2 = some m)).isSome = true := by
    rw [List.find?_isSome]
    refine ⟨_, hs.known k r hr, ?_⟩
    simpa using (ScanRun.backs_iff.mp hback).2.symm
  obtain ⟨x, hx⟩ := Option.isSome_iff_exists.mp hsome
  exact ⟨x.1, by rw [BackSys.lastCovering, hx]; rfl⟩

/-- A refresh keeps every storage backed by its last scan exactly when its own scan, if it
covers all storages, backs them all. -/
theorem backed_refresh_iff (hs : s.Sound) (hb : s.Backed) {storage : Nat} {directory : String} {paths : List String}
    {now : Time} (h : backStep s (.refresh storage directory paths now) = some s') :
    s'.Backed ↔ BacksAlone s (.refresh storage directory paths now) s' := by
  obtain ⟨r, hr, -⟩ := Option.bind_eq_some_iff.mp h
  have hlatest := latest_after_refresh hs hr h
  have hnewest := latestStorageResultScan_iff.mp hr
  have hsame : s'.mounts = s.mounts ∧ s'.pruned = s.pruned ∧ s'.history = s.history := by
    obtain ⟨_, -, h⟩ := Option.bind_eq_some_iff.mp h
    obtain ⟨-, h⟩ := Option.ite_none_right_eq_some.mp h
    cases h
    exact ⟨rfl, rfl, rfl⟩
  have hcovering : ∀ m, s'.lastCovering m = s.lastCovering m := fun m => by rw [BackSys.lastCovering, hsame.2.2]; rfl
  constructor
  · intro hb' x hx htarget m hm
    rw [Option.mem_def, hr] at hx
    cases hx
    have hback : r.backs m = true := ScanRun.backs_iff.mpr ⟨(ScanRun.backs_iff.mp hnewest.backs).1, .inr htarget⟩
    obtain ⟨pk, hpk⟩ := lastCovering_isSome hs hnewest.stored hback
    have hnow := (hb' m (hsame.1 ▸ hm) pk (by rw [hcovering]; exact hpk)).1
    rw [hlatest, if_pos hback] at hnow
    rw [(hb m hm pk hpk).1, ← hnow]
    rfl
  · intro halone m hm pk hpk
    rw [hsame.1] at hm
    rw [hcovering] at hpk
    obtain ⟨hbefore, hpruned⟩ := hb m hm pk hpk
    refine ⟨?_, hsame.2.1 ▸ hpruned⟩
    rw [hlatest]
    split
    · rename_i hback
      -- A scan of one storage is the newest of that one already.
      have hbacked : (latestStorageResultScan s.scans m).map (·.pk) = some r.pk := by
        cases htarget : r.target with
        | none => exact halone r hr htarget m hm
        | some t =>
          have htarget' : ∀ n, r.backs n = true → n = t := by
            intro n hn
            have := (ScanRun.backs_iff.mp hn).2
            rw [htarget] at this
            simpa [eq_comm] using this
          rw [htarget' m hback, ← htarget' storage hnewest.backs, hr]
          rfl
      rw [hbefore] at hbacked
      rw [hbacked]
      rfl
    · exact hbefore

/-- A prune leaves alone what backs a storage, and its rows. -/
theorem backed_prune (hb : s.Backed) {inventory : List Nat} {now : Time}
    (h : backStep s (.prune inventory now) = some s') : s'.Backed := by
  cases h
  intro storage hm pk hpk
  obtain ⟨hlatest, hpruned⟩ := hb storage hm pk hpk
  obtain ⟨r, hr, rfl⟩ := Option.map_eq_some_iff.mp hlatest
  have hnewest := latestStorageResultScan_iff.mp hr
  have hpair : (r.pk, storage) ∈ currentFileInventoryPairs s.scans s.mounts :=
    List.mem_flatMap.mpr ⟨storage, hm, by simp [currentPair, hr]⟩
  have hkept : r.expired ((currentFileInventoryPairs s.scans s.mounts).map (·.1) ++ inventory) (retentionCutoff now) = false := by
    have hmem : r.pk ∈ (currentFileInventoryPairs s.scans s.mounts).map (·.1) ++ inventory :=
      List.mem_append_left _ (List.mem_map_of_mem hpair)
    simp only [ScanRun.expired, List.contains_eq_mem, hmem, decide_true, Bool.not_true, Bool.and_false]
  refine ⟨?_, ?_⟩
  · rw [latestStorageResultScan_iff.mpr (newest_keep hnewest (by rw [hkept]; rfl))]
    rfl
  · intro f hf hscan hstorage
    rcases List.mem_append.mp hf with hf | hf
    · exact hpruned f hf hscan hstorage
    · have hdropped := (List.mem_filter.mp hf).2
      simp [BackSys.keepsFile, hscan, hstorage, hpair, hnewest.stored, hkept] at hdropped

theorem backStep_backed_iff {a : BackAct} (hs : s.Sound) (hb : s.Backed) (h : backStep s a = some s') :
    s'.Backed ↔ BacksAlone s a s' := by
  cases a with
  | scan => exact iff_of_true (backed_scan hs hb h) trivial
  | refresh => exact backed_refresh_iff hs hb h
  | prune => exact iff_of_true (backed_prune hb h) trivial

end

/-! ## Whole runs -/

/-- **When the last scan stays the one that counts.** From an unscanned system, every
enabled storage is throughout backed by the last scan that covered it, with its rows
unpruned, exactly when each refresh through a scan of all storages comes while that scan
backs them all. -/
theorem backed_always_iff {s : BackSys} (h₀ : Unscanned s) {as : List BackAct} :
    Always backStep BackSys.Backed s as ↔ Along backStep BacksAlone s as :=
  always_iff_along backStep_sound backStep_backed_iff h₀.sound h₀.backed

/-- Two enabled mounts. -/
def twoMounts : BackSys where
  scans := .empty
  files := []
  pruned := []
  history := []
  nextPk := 1
  clock := 0
  mounts := [7, 8]

theorem twoMounts_unscanned : Unscanned twoMounts := ⟨rfl, rfl, rfl, rfl⟩

/-- A full scan, a refresh through it, a scan of the second storage alone and a prune. -/
theorem backed_through_refresh :
    Always backStep BackSys.Backed twoMounts
      [.scan none 1 2 3 [(7, "a"), (8, "b")], .refresh 7 "" ["a", "c"] 4, .scan (some 8) 5 6 7 [(8, "b")], .prune [1] 8,
        .refresh 8 "" ["d"] 9] :=
  (backed_always_iff twoMounts_unscanned).mpr (by decide)

/-- Refreshing a directory of the first storage through the full scan makes that scan the
second's result again, and the next prune deletes what the second's own later scan found. -/
theorem refresh_displaces_newer_result :
    ¬ ∀ s, Unscanned s → ∀ as, Always backStep BackSys.Backed s as := by
  intro h
  let as : List BackAct := [.scan none 1 2 3 [(7, "a"), (8, "b")], .scan (some 8) 4 5 6 [(8, "b"), (8, "c")], .prune [] 7,
    .refresh 7 "" ["a"] 8, .prune [] 9]
  have hbacked := h twoMounts twoMounts_unscanned as as [] ((run backStep twoMounts as).get (by decide)) (by simp) (by simp)
  exact (hbacked 8 (by decide) 2 (by decide)).2 ⟨2, 8, "c"⟩ (by decide) rfl rfl

end PveHelper.Scans
