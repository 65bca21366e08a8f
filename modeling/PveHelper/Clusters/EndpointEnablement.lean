/-
Switching a cluster's endpoints on and off, after `set_endpoint_enabled` of
`cluster_onboarding`, with any number of its transactions in flight at READ
COMMITTED. The row is fetched by `select_for_update().select_related("cluster")`:
the foreign key is not nullable and the query has no `of`, so the statement locks
the row of the cluster beside the endpoint's own, and it is the cluster's row that
keeps two checks of one cluster apart.
-/
import PveHelper.Lib.Table
import PveHelper.Lib.Trans

namespace PveHelper.Clusters

open Lib

structure ProxmoxEndpoint where
  pk : Nat
  cluster : Nat
  enabled : Bool
  deriving DecidableEq

inductive RowLock
  | endpoint (pk : Nat)
  | cluster (pk : Nat)
  deriving DecidableEq

/-- Which of the selected rows `select_for_update` locks. -/
inductive LockScope
  /-- No `of`: every row the query selects, those of `select_related` included. -/
  | selected
  /-- `of=("self",)`: the rows of the query's own model. -/
  | self
  deriving DecidableEq

/-- The rows locked for an endpoint, in the order the statement takes them. -/
def LockScope.rows : LockScope → ProxmoxEndpoint → List RowLock
  | .selected, e => [.endpoint e.pk, .cluster e.cluster]
  | .self, e => [.endpoint e.pk]

/-- Where a transaction stands. -/
inductive TxPhase
  /-- The select waits for these locks; it has those before them. -/
  | locking (rest : List RowLock)
  | selected (locked : ProxmoxEndpoint) (clusterEnabled : Bool)
  | checked (locked : ProxmoxEndpoint)
  /-- The write, if there is one, is not yet committed. -/
  | saved (write : Option Bool)

structure EndpointTx where
  id : Nat
  pk : Nat
  enabled : Bool
  phase : TxPhase

/-- The committed rows, who holds which row, and the transactions in flight. -/
structure EndpointDb where
  clusterEnabled : Nat → Bool
  endpoints : Table ProxmoxEndpoint.pk
  holder : RowLock → Option Nat := fun _ => none
  txs : Table EndpointTx.id := .empty

namespace EndpointDb

/-- The guard of `set_endpoint_enabled`; its query sees the rows committed by then. -/
def requireOther (db : EndpointDb) (locked : ProxmoxEndpoint) (clusterEnabled enabled : Bool) : Except String Unit :=
  if !enabled && locked.enabled && clusterEnabled then
    if db.endpoints.rows.any fun o => decide (o.cluster = locked.cluster) && o.enabled && decide (o.pk ≠ locked.pk) then
      .ok ()
    else .error "An enabled cluster must retain at least one enabled endpoint. Disable the cluster first."
  else .ok ()

def withTx (db : EndpointDb) (tx : EndpointTx) (phase : TxPhase) : EndpointDb :=
  { db with txs := db.txs.put { tx with phase } }

/-- The transaction ends, and with it its locks. -/
def release (db : EndpointDb) (t : Nat) : EndpointDb :=
  { db with
    holder := fun r => if db.holder r = some t then none else db.holder r
    txs := db.txs.keep fun tx => decide (tx.id ≠ t) }

/-- `save(update_fields=["enabled", ..])`, committed. -/
def write (db : EndpointDb) (pk : Nat) : Option Bool → EndpointDb
  | none => db
  | some enabled => { db with endpoints := db.endpoints.alter pk ({ · with enabled }) fun _ => rfl }

def HasEnabled (db : EndpointDb) (c : Nat) : Prop := ∃ e ∈ db.endpoints.rows, e.cluster = c ∧ e.enabled = true

end EndpointDb

inductive EndpointLabel
  | start (t pk : Nat) (enabled : Bool)
  | lock (t : Nat)
  | select (t : Nat)
  | check (t : Nat)
  | save (t : Nat)
  | commit (t : Nat)
  /-- The transaction is rolled back at any point: a lost connection, a timeout, a deadlock. -/
  | abort (t : Nat)

/-- One statement, or one lock of a statement, of one of the transactions. -/
def endpointStep (scope : LockScope) (db : EndpointDb) : EndpointLabel → Option EndpointDb
  | .start t pk enabled =>
    match db.txs.get t, db.endpoints.get pk with
    | none, some e => some { db with txs := db.txs.put ⟨t, pk, enabled, .locking (scope.rows e)⟩ }
    | _, _ => none
  | .lock t =>
    match db.txs.get t with
    | some tx => match tx.phase with
      | .locking (r :: rest) =>
        if db.holder r = none then
          some { db.withTx tx (.locking rest) with holder := Function.update db.holder r (some t) }
        else none
      | _ => none
    | none => none
  | .select t =>
    match db.txs.get t with
    | some tx => match tx.phase, db.endpoints.get tx.pk with
      | .locking [], some e => some (db.withTx tx (.selected e (db.clusterEnabled e.cluster)))
      | _, _ => none
    | none => none
  | .check t =>
    match db.txs.get t with
    | some tx => match tx.phase with
      | .selected locked clusterEnabled =>
        match db.requireOther locked clusterEnabled tx.enabled with
        | .ok _ => some (db.withTx tx (.checked locked))
        | .error _ => some (db.release t)
      | _ => none
    | none => none
  | .save t =>
    match db.txs.get t with
    | some tx => match tx.phase with
      | .checked locked => some (db.withTx tx (.saved (if locked.enabled ≠ tx.enabled then some tx.enabled else none)))
      | _ => none
    | none => none
  | .commit t =>
    match db.txs.get t with
    | some tx => match tx.phase with
      | .saved w => some ((db.write tx.pk w).release t)
      | _ => none
    | none => none
  | .abort t => if (db.txs.get t).isSome then some (db.release t) else none

/-- What a step does, with the guards it passed. -/
inductive EndpointMove (scope : LockScope) (db : EndpointDb) : EndpointDb → Prop
  | start (t pk : Nat) (enabled : Bool) (e : ProxmoxEndpoint) : db.txs.get t = none → db.endpoints.get pk = some e →
      EndpointMove scope db { db with txs := db.txs.put ⟨t, pk, enabled, .locking (scope.rows e)⟩ }
  | lock (t : Nat) (tx : EndpointTx) (r : RowLock) (rest : List RowLock) : db.txs.get t = some tx →
      tx.phase = .locking (r :: rest) → db.holder r = none →
      EndpointMove scope db { db.withTx tx (.locking rest) with holder := Function.update db.holder r (some t) }
  | select (t : Nat) (tx : EndpointTx) (e : ProxmoxEndpoint) : db.txs.get t = some tx → tx.phase = .locking [] →
      db.endpoints.get tx.pk = some e → EndpointMove scope db (db.withTx tx (.selected e (db.clusterEnabled e.cluster)))
  | check (t : Nat) (tx : EndpointTx) (locked : ProxmoxEndpoint) (clusterEnabled : Bool) : db.txs.get t = some tx →
      tx.phase = .selected locked clusterEnabled → db.requireOther locked clusterEnabled tx.enabled = .ok () →
      EndpointMove scope db (db.withTx tx (.checked locked))
  | save (t : Nat) (tx : EndpointTx) (locked : ProxmoxEndpoint) : db.txs.get t = some tx → tx.phase = .checked locked →
      EndpointMove scope db (db.withTx tx (.saved (if locked.enabled ≠ tx.enabled then some tx.enabled else none)))
  | commit (t : Nat) (tx : EndpointTx) (w : Option Bool) : db.txs.get t = some tx → tx.phase = .saved w →
      EndpointMove scope db ((db.write tx.pk w).release t)
  | rollback (t : Nat) : EndpointMove scope db (db.release t)

theorem endpointStep_move {scope : LockScope} {db db' : EndpointDb} {l : EndpointLabel}
    (h : endpointStep scope db l = some db') : EndpointMove scope db db' := by
  cases l with
  | start t pk enabled =>
    simp only [endpointStep] at h
    split at h
    · rename_i e hfresh hget
      cases h
      exact .start t pk enabled e hfresh hget
    · cases h
  | lock t =>
    simp only [endpointStep] at h
    split at h <;> try cases h
    rename_i tx hget
    split at h <;> try cases h
    rename_i r rest hphase
    split at h <;> cases h
    exact .lock t tx r rest hget hphase ‹_›
  | select t =>
    simp only [endpointStep] at h
    split at h <;> try cases h
    rename_i tx hget
    split at h <;> cases h
    exact .select t tx _ hget ‹_› ‹_›
  | check t =>
    simp only [endpointStep] at h
    split at h <;> try cases h
    rename_i tx hget
    split at h <;> try cases h
    rename_i locked clusterEnabled hphase
    split at h <;> cases h
    · exact .check t tx locked clusterEnabled hget hphase ‹_›
    · exact .rollback t
  | save t =>
    simp only [endpointStep] at h
    split at h <;> try cases h
    rename_i tx hget
    split at h <;> cases h
    exact .save t tx _ hget ‹_›
  | commit t =>
    simp only [endpointStep] at h
    split at h <;> try cases h
    rename_i tx hget
    split at h <;> cases h
    exact .commit t tx _ hget ‹_›
  | abort t =>
    simp only [endpointStep] at h
    split at h <;> cases h
    exact .rollback t

/-! ## What a transaction relies on -/

/-- Some other endpoint of the cluster is enabled, where switching this one off needs it. -/
def Spared (db : EndpointDb) (e : ProxmoxEndpoint) (enabled : Bool) : Prop :=
  enabled = false → e.enabled = true → db.clusterEnabled e.cluster = true →
    ∃ k o, db.endpoints.get k = some o ∧ o.cluster = e.cluster ∧ o.pk ≠ e.pk ∧ o.enabled = true

/-- The transaction has every lock of its select. -/
def Holds (db : EndpointDb) (t : Nat) (e : ProxmoxEndpoint) : Prop :=
  ∀ r ∈ LockScope.selected.rows e, db.holder r = some t

/-- What the transaction read still stands. -/
def TxPhase.Stands (db : EndpointDb) (t : Nat) (enabled : Bool) (e : ProxmoxEndpoint) : TxPhase → Prop
  | .locking rest => ∃ done, LockScope.selected.rows e = done ++ rest ∧ ∀ r ∈ done, db.holder r = some t
  | .selected locked clusterEnabled => Holds db t e ∧ locked = e ∧ clusterEnabled = db.clusterEnabled e.cluster
  | .checked locked => Holds db t e ∧ locked = e ∧ Spared db e enabled
  | .saved w => Holds db t e ∧ (w = some false → e.enabled = true ∧ Spared db e false)

def EndpointTx.Stands (db : EndpointDb) (tx : EndpointTx) : Prop :=
  ∃ e, db.endpoints.get tx.pk = some e ∧ tx.phase.Stands db tx.id tx.enabled e

theorem requireOther_ok {db : EndpointDb} {e : ProxmoxEndpoint} {enabled : Bool} {u : Unit}
    (h : db.requireOther e (db.clusterEnabled e.cluster) enabled = .ok u) : Spared db e enabled := by
  intro hoff hon hcluster
  simp only [EndpointDb.requireOther, hoff, hon, hcluster, Bool.not_false, Bool.and_self, if_true] at h
  split at h
  · rename_i hany
    obtain ⟨k, o, hget, ho⟩ := Table.any_rows.mp hany
    simp only [Bool.and_eq_true, decide_eq_true_eq] at ho
    exact ⟨k, o, hget, ho.1.1, ho.2, ho.1.2⟩
  · cases h

section
variable {db db' : EndpointDb} {t : Nat} {e e' : ProxmoxEndpoint} {tx : EndpointTx}

theorem Holds.cluster (h : Holds db t e) : db.holder (.cluster e.cluster) = some t :=
  h _ (by simp [LockScope.rows])

/-- A change that leaves the transaction's locks alone, and the rows of a cluster it has locked. -/
structure Undisturbed (db db' : EndpointDb) (t : Nat) : Prop where
  clusters : db'.clusterEnabled = db.clusterEnabled
  locks : ∀ r, db.holder r = some t → db'.holder r = some t
  endpoints : ∀ k e, db.endpoints.get k = some e → ∃ e', db'.endpoints.get k = some e' ∧ e'.pk = e.pk ∧
    e'.cluster = e.cluster ∧ (db.holder (.cluster e.cluster) = some t → e' = e)

theorem Undisturbed.of_same (hclusters : db'.clusterEnabled = db.clusterEnabled) (hends : db'.endpoints = db.endpoints)
    (hlocks : ∀ r, db.holder r = some t → db'.holder r = some t) : Undisturbed db db' t := by
  refine ⟨hclusters, hlocks, fun k e he => ⟨e, ?_, rfl, rfl, fun _ => rfl⟩⟩
  rw [hends]
  exact he

theorem Holds.undisturbed (h : Holds db t e) (hu : Undisturbed db db' t) : Holds db' t e :=
  fun r hr => hu.locks r (h r hr)

theorem Spared.undisturbed {enabled : Bool} (h : Spared db e enabled) (hh : Holds db t e) (hu : Undisturbed db db' t) :
    Spared db' e enabled := by
  intro hoff hon hcluster
  rw [hu.clusters] at hcluster
  obtain ⟨k, o, hget, hoc, hne, hoe⟩ := h hoff hon hcluster
  obtain ⟨o', hget', -, -, hsame⟩ := hu.endpoints k o hget
  have ho : o' = o := hsame (hoc ▸ hh.cluster)
  exact ⟨k, o', hget', by rw [ho]; exact ⟨hoc, hne, hoe⟩⟩

theorem EndpointTx.Stands.undisturbed (h : tx.Stands db) (hu : Undisturbed db db' tx.id) : tx.Stands db' := by
  obtain ⟨e, hget, hphase⟩ := h
  obtain ⟨e', hget', hpk, hcluster, hsame⟩ := hu.endpoints tx.pk e hget
  have heq : Holds db tx.id e → e' = e := fun hh => hsame hh.cluster
  refine ⟨e', hget', ?_⟩
  cases hp : tx.phase with
  | locking rest =>
    rw [hp] at hphase
    obtain ⟨done, hrows, hdone⟩ := hphase
    refine ⟨done, ?_, fun r hr => hu.locks r (hdone r hr)⟩
    simpa [LockScope.rows, hpk, hcluster] using hrows
  | selected locked clusterEnabled =>
    rw [hp] at hphase
    obtain ⟨hh, hlocked, hce⟩ := hphase
    rw [heq hh]
    exact ⟨hh.undisturbed hu, hlocked, by rw [hu.clusters]; exact hce⟩
  | checked locked =>
    rw [hp] at hphase
    obtain ⟨hh, hlocked, hspared⟩ := hphase
    rw [heq hh]
    exact ⟨hh.undisturbed hu, hlocked, hspared.undisturbed hh hu⟩
  | saved w =>
    rw [hp] at hphase
    obtain ⟨hh, hw⟩ := hphase
    rw [heq hh]
    exact ⟨hh.undisturbed hu, fun hoff => ⟨(hw hoff).1, (hw hoff).2.undisturbed hh hu⟩⟩

end

/-! ## Steps -/

/-- What every transaction in flight read still stands. -/
def AllStand (db : EndpointDb) : Prop := ∀ t tx, db.txs.get t = some tx → tx.Stands db

section
variable {db db' : EndpointDb} {t : Nat} {tx : EndpointTx}

/-- One transaction moves on; the others are not disturbed. -/
theorem AllStand.advance (h : AllStand db) (hget : db.txs.get t = some tx) {phase : TxPhase}
    (htxs : db'.txs = db.txs.put { tx with phase }) (hown : EndpointTx.Stands db' { tx with phase })
    (hu : ∀ t', t' ≠ t → Undisturbed db db' t') : AllStand db' := by
  intro t' tx' hget'
  rw [htxs, Table.get_put] at hget'
  split at hget'
  · cases hget'
    exact hown
  · rename_i hne
    have hid : tx.id = t := Table.key_of_get hget
    have hid' : tx'.id = t' := Table.key_of_get hget'
    have hne' : tx'.id ≠ t := by
      rw [hid', ← hid]
      exact hne
    exact (h t' tx' hget').undisturbed (hu tx'.id hne')

/-- A transaction ends; the others are not disturbed. -/
theorem AllStand.close (h : AllStand db) (htxs : db'.txs = db.txs.keep fun tx => decide (tx.id ≠ t))
    (hu : ∀ t', t' ≠ t → Undisturbed db db' t') : AllStand db' := by
  intro t' tx' hget'
  rw [htxs, Table.get_keep, Option.filter_eq_some_iff] at hget'
  obtain ⟨hget', hne⟩ := hget'
  exact (h t' tx' hget').undisturbed (hu tx'.id (by simpa using hne))

theorem undisturbed_release {t' : Nat} (hne : t' ≠ t) : Undisturbed db (db.release t) t' := by
  refine .of_same rfl rfl fun r hr => ?_
  simp [EndpointDb.release, hr, hne]

theorem AllStand.release (h : AllStand db) (t : Nat) : AllStand (db.release t) :=
  h.close rfl fun _ hne => undisturbed_release hne

/-- A commit changes one row, of a cluster no other transaction has locked. -/
theorem undisturbed_commit {e : ProxmoxEndpoint} (hget : db.endpoints.get tx.pk = some e) (hh : Holds db t e)
    (w : Option Bool) {t' : Nat} (hne : t' ≠ t) : Undisturbed db ((db.write tx.pk w).release t) t' := by
  cases w with
  | none => exact undisturbed_release hne
  | some enabled =>
    refine ⟨rfl, (undisturbed_release hne).locks, fun k o ho => ?_⟩
    have hafter : ((db.write tx.pk (some enabled)).release t).endpoints.get k =
        if k = tx.pk then some { o with enabled } else some o := by
      simp only [EndpointDb.release, EndpointDb.write, Table.get_alter, ho, Option.map_some]
    rw [hafter]
    by_cases hk : k = tx.pk
    · rw [if_pos hk]
      refine ⟨_, rfl, rfl, rfl, fun hlocked => ?_⟩
      rw [hk, hget] at ho
      cases ho
      rw [hh.cluster] at hlocked
      exact absurd (Option.some.inj hlocked).symm hne
    · rw [if_neg hk]
      exact ⟨o, rfl, rfl, rfl, fun _ => rfl⟩

theorem undisturbed_withTx (phase : TxPhase) (t' : Nat) : Undisturbed db (db.withTx tx phase) t' :=
  .of_same rfl rfl fun _ hr => hr

theorem allStand_step {l : EndpointLabel} (h : AllStand db) (hstep : endpointStep .selected db l = some db') :
    AllStand db' := by
  cases endpointStep_move hstep with
  | start t pk enabled e hfresh hget =>
    intro t' tx' hget'
    rw [Table.get_put] at hget'
    split at hget'
    · cases hget'
      exact ⟨e, hget, [], rfl, by simp⟩
    · exact (h t' tx' hget').undisturbed (.of_same rfl rfl fun _ hr => hr)
  | lock t tx r rest hget hphase hfree =>
    have hid : tx.id = t := Table.key_of_get hget
    have hother : ∀ r' t', db.holder r' = some t' → Function.update db.holder r (some t) r' = some t' := by
      intro r' t' hr'
      have hne : r' ≠ r := by
        rintro rfl
        rw [hfree] at hr'
        cases hr'
      rwa [Function.update_of_ne hne]
    refine h.advance hget rfl ?_ fun t' _ => .of_same rfl rfl fun r' => hother r' t'
    obtain ⟨e, he, hstands⟩ := h t tx hget
    rw [hphase] at hstands
    obtain ⟨done, hrows, hdone⟩ := hstands
    refine ⟨e, he, done ++ [r], by simpa using hrows, fun r' hr' => ?_⟩
    rcases List.mem_append.mp hr' with hr' | hr'
    · exact hother r' tx.id (hdone r' hr')
    · cases List.mem_singleton.mp hr'
      simp [hid]
  | select t tx e hget hphase he =>
    refine h.advance hget rfl ?_ fun t' _ => undisturbed_withTx _ t'
    obtain ⟨e', he', hstands⟩ := h t tx hget
    rw [he] at he'
    cases he'
    rw [hphase] at hstands
    obtain ⟨done, hrows, hdone⟩ := hstands
    rw [List.append_nil] at hrows
    exact ⟨e, he, fun r hr => hdone r (hrows ▸ hr), rfl, rfl⟩
  | check t tx locked clusterEnabled hget hphase hok =>
    refine h.advance hget rfl ?_ fun t' _ => undisturbed_withTx _ t'
    obtain ⟨e, he, hstands⟩ := h t tx hget
    rw [hphase] at hstands
    obtain ⟨hh, rfl, rfl⟩ := hstands
    exact ⟨locked, he, hh, rfl, requireOther_ok hok⟩
  | save t tx locked hget hphase =>
    refine h.advance hget rfl ?_ fun t' _ => undisturbed_withTx _ t'
    obtain ⟨e, he, hstands⟩ := h t tx hget
    rw [hphase] at hstands
    obtain ⟨hh, rfl, hspared⟩ := hstands
    refine ⟨locked, he, hh, fun hoff => ?_⟩
    by_cases hdiff : locked.enabled ≠ tx.enabled
    · rw [if_pos hdiff] at hoff
      rw [Option.some.inj hoff] at hdiff hspared
      exact ⟨by simpa using hdiff, hspared⟩
    · rw [if_neg hdiff] at hoff
      cases hoff
  | commit t tx w hget hphase =>
    obtain ⟨e, he, hstands⟩ := h t tx hget
    rw [hphase] at hstands
    have hid : tx.id = t := Table.key_of_get hget
    refine h.close ?_ fun t' hne => undisturbed_commit he (hid ▸ hstands.1) w hne
    cases w <;> rfl
  | rollback t => exact h.release t

theorem hasEnabled_iff {c : Nat} :
    db.HasEnabled c ↔ ∃ k e, db.endpoints.get k = some e ∧ e.cluster = c ∧ e.enabled = true := by
  constructor
  · rintro ⟨e, hmem, he⟩
    exact ⟨e.pk, e, Table.get_of_mem hmem, he⟩
  · rintro ⟨k, e, hget, he⟩
    exact ⟨e, Table.mem_of_get hget, he⟩

/-- The committed write leaves an endpoint enabled: its own, or the one that spared it. -/
theorem hasEnabled_write {c : Nat} {e : ProxmoxEndpoint} {w : Option Bool} (hc : db.clusterEnabled c = true)
    (hhas : db.HasEnabled c) (hget : db.endpoints.get tx.pk = some e)
    (hw : w = some false → e.enabled = true ∧ Spared db e false) : (db.write tx.pk w).HasEnabled c := by
  cases w with
  | none => exact hhas
  | some enabled =>
    have hafter : ∀ k o, db.endpoints.get k = some o → (db.write tx.pk (some enabled)).endpoints.get k =
        if k = tx.pk then some { o with enabled } else some o := by
      intro k o ho
      simp only [EndpointDb.write, Table.get_alter, ho, Option.map_some]
    rw [hasEnabled_iff] at hhas ⊢
    obtain ⟨k, o, ho, hoc, hoe⟩ := hhas
    by_cases hk : k = tx.pk
    · cases enabled with
      | true => exact ⟨k, { o with enabled := true }, by rw [hafter k o ho, if_pos hk], hoc, rfl⟩
      | false =>
        -- the only witness is switched off, so the check found another
        rw [hk, hget] at ho
        cases ho
        obtain ⟨k', o', ho', hoc', hne, hoe'⟩ := (hw rfl).2 rfl hoe (by rw [hoc]; exact hc)
        have hk' : k' ≠ tx.pk := by
          rw [← Table.key_of_get ho', ← Table.key_of_get hget]
          exact hne
        exact ⟨k', o', by rw [hafter k' o' ho', if_neg hk'], hoc'.trans hoc, hoe'⟩
    · exact ⟨k, o, by rw [hafter k o ho, if_neg hk], hoc, hoe⟩

theorem hasEnabled_step {l : EndpointLabel} {c : Nat} (h : AllStand db) (hc : db.clusterEnabled c = true)
    (hhas : db.HasEnabled c) (hstep : endpointStep .selected db l = some db') :
    db'.clusterEnabled c = true ∧ db'.HasEnabled c := by
  cases endpointStep_move hstep with
  | commit t tx w hget hphase =>
    obtain ⟨e, he, hstands⟩ := h t tx hget
    rw [hphase] at hstands
    refine ⟨?_, hasEnabled_write hc hhas he hstands.2⟩
    cases w <;> exact hc
  | start => exact ⟨hc, hhas⟩
  | lock => exact ⟨hc, hhas⟩
  | select => exact ⟨hc, hhas⟩
  | check => exact ⟨hc, hhas⟩
  | save => exact ⟨hc, hhas⟩
  | rollback => exact ⟨hc, hhas⟩

end

/-- Every transaction locks the cluster's row beside its own, so an enabled cluster that has an enabled
endpoint has one in every committed state, whatever the order of the transactions' statements. -/
theorem cluster_keeps_endpoint {db : EndpointDb} {c : Nat} (hidle : db.txs = .empty) (hc : db.clusterEnabled c = true)
    (hhas : db.HasEnabled c) (ls : List EndpointLabel) : Always (endpointStep .selected) (·.HasEnabled c) db ls := by
  intro ls₁ ls₂ db' _ hrun
  have hstart : AllStand db := by
    intro t tx hget
    rw [hidle] at hget
    cases hget
  have hall : AllStand db' ∧ db'.clusterEnabled c = true ∧ db'.HasEnabled c := by
    refine run_inv (I := fun db => AllStand db ∧ db.clusterEnabled c = true ∧ db.HasEnabled c) ?_ ⟨hstart, hc, hhas⟩ hrun
    rintro s l s' ⟨hs, hcs, hhs⟩ hstep
    exact ⟨allStand_step hs hstep, hasEnabled_step hs hcs hhs hstep⟩
  exact hall.2.2

/-- An enabled cluster with two enabled endpoints. -/
def twoEndpoints : EndpointDb where
  clusterEnabled := fun _ => true
  endpoints := ⟨[⟨1, 7, true⟩, ⟨2, 7, true⟩], by decide⟩

/-- Two requests, each to switch one of the endpoints off, statement by statement. -/
def crossedRequests : List EndpointLabel :=
  [.start 0 1 false, .start 1 2 false, .lock 0, .lock 1, .select 0, .select 1, .check 0, .check 1, .save 0, .save 1,
    .commit 0, .commit 1]

theorem cluster_keeps_endpoint_crossed :
    Always (endpointStep .selected) (·.HasEnabled 7) twoEndpoints crossedRequests :=
  cluster_keeps_endpoint rfl rfl ⟨⟨1, 7, true⟩, by decide, rfl, rfl⟩ _

/-- With the endpoints' own rows locked alone, both checks would see the other endpoint enabled, and the
cluster would lose both. The statement locks the cluster's row too. -/
theorem own_rows_do_not_suffice :
    ¬ Always (endpointStep .self) (·.HasEnabled 7) twoEndpoints crossedRequests ∧
      ∀ e, LockScope.selected.rows e ≠ LockScope.self.rows e := by
  refine ⟨fun h => ?_, fun e he => by cases he⟩
  have hlost : (run (endpointStep .self) twoEndpoints crossedRequests).map (·.endpoints.rows.map (·.enabled)) =
      some [false, false] := by decide
  obtain ⟨db, hrun, hrows⟩ := Option.map_eq_some_iff.mp hlost
  obtain ⟨e, hmem, -, henabled⟩ := h crossedRequests [] db (List.append_nil _).symm hrun
  have hoff := List.mem_map_of_mem (f := (·.enabled)) hmem
  rw [hrows, henabled] at hoff
  simp at hoff

end PveHelper.Clusters
