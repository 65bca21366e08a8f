/-
Writers of a cluster's guest projection and of its console sessions beside its
retirement, after `_refresh_cluster_guest_inventory` of `core/tasks.py`,
`reconcile_live_guest_inventory`, `store_guest_lineage` and
`create_guest_console_session`. Each asks once whether the cluster may be
acquired, then talks to the provider, and then writes in a transaction of its
own that takes no lifecycle lock and does not look at the cluster's row again.
-/
import PveHelper.Clusters.Consoles
import PveHelper.Guests.ScanReconcile

namespace PveHelper.Clusters

open Lib Scheduling Guests

/-! ## The parties -/

/-- Where a refresh of the cluster's guests stands. -/
inductive RefreshPhase
  /-- The cluster could be acquired; the provider is being read. -/
  | acquired
  | answered (inventory : LiveInventory)
  /-- The projection is written; the lineage is left. -/
  | reconciled

structure Refresher where
  id : Nat
  phase : RefreshPhase

/-- The proxy a provider opened, with the endpoint it was asked through. -/
structure ConsoleProxy where
  endpoint : String
  port : String
  ticket : String
  password : String

/-- Where the creation of a console session stands. -/
inductive OpenPhase
  | acquired
  | proxied (proxy : ConsoleProxy)

structure Opener where
  id : Nat
  targetType : ObjectType
  targetVmid : Nat
  targetNode : String
  phase : OpenPhase

/-- One cluster with what refers to it, and the work under way on it. -/
structure WriterSys where
  cluster : GuestCluster
  enabled : Bool
  retiredAt : Option Guests.Time
  ingestionQuarantined : Bool
  transitionPending : Bool
  consoles : Table ConsoleSession.pk
  nextConsole : Nat
  refreshers : Table Refresher.id
  openers : Table Opener.id

/-- `_require_acquirable`, and the reads of `enabled`. -/
def WriterSys.acquirable (s : WriterSys) : Bool :=
  s.retiredAt.isNone && s.enabled && !s.ingestionQuarantined && !s.transitionPending

inductive WriterAct
  | startRefresh (refresher : Nat)
  | answer (refresher : Nat) (inventory : LiveInventory)
  | reconcile (refresher : Nat)
  | storeLineage (refresher : Nat)
  /-- A refresh or an opening ends early: a refusal, a failed read, an unusable ticket. -/
  | giveUpRefresh (refresher : Nat)
  | startOpen (opener : Nat) (targetType : ObjectType) (targetVmid : Nat) (targetNode : String)
  | proxy (opener : Nat) (proxy : ConsoleProxy)
  | createSession (opener : Nat) (expiresAt : Guests.Time)
  | giveUpOpen (opener : Nat)
  | disable
  | retire (mode : RetirementMode) (retiredAt : Guests.Time)

/-- `retire_cluster_guest_inventory`. -/
def retireClusterGuestInventory (c : GuestCluster) : GuestCluster := { c with guests := .empty, inventoryState := none }

/-- `store_guest_lineage`: the state row, made where there is none. -/
def storeGuestLineage (c : GuestCluster) : GuestCluster := { c with inventoryState := some (c.inventoryState.getD {}) }

/-- `ConsoleSession.objects.create` in `create_guest_console_session`. -/
def createdSession (s : WriterSys) (o : Opener) (p : ConsoleProxy) (expiresAt : Guests.Time) : ConsoleSession where
  pk := s.nextConsole
  cluster := some s.cluster.pk
  targetType := o.targetType
  targetVmid := o.targetVmid
  targetNode := o.targetNode
  expiresAt := expiresAt
  proxmoxEndpoint := p.endpoint
  proxmoxPort := p.port
  proxmoxTicket := p.ticket
  proxmoxPassword := p.password

/-- One read, one provider answer or one transaction of one party. -/
def writerStep (s : WriterSys) : WriterAct → Option WriterSys
  | .startRefresh id =>
    if s.acquirable && (s.refreshers.get id).isNone then some { s with refreshers := s.refreshers.put ⟨id, .acquired⟩ }
    else none
  | .answer id inventory => (s.refreshers.get id).bind fun r => match r.phase with
    | .acquired => some { s with refreshers := s.refreshers.put ⟨id, .answered inventory⟩ }
    | _ => none
  | .reconcile id => (s.refreshers.get id).bind fun r => match r.phase with
    | .answered inventory => some { s with
        cluster := reconcileLive s.cluster inventory
        refreshers := s.refreshers.put ⟨id, .reconciled⟩ }
    | _ => none
  | .storeLineage id => (s.refreshers.get id).bind fun r => match r.phase with
    | .reconciled => some { s with
        cluster := storeGuestLineage s.cluster
        refreshers := s.refreshers.keep fun r => decide (r.id ≠ id) }
    | _ => none
  | .giveUpRefresh id => some { s with refreshers := s.refreshers.keep fun r => decide (r.id ≠ id) }
  | .startOpen id targetType targetVmid targetNode =>
    if s.acquirable && (s.openers.get id).isNone then
      some { s with openers := s.openers.put ⟨id, targetType, targetVmid, targetNode, .acquired⟩ }
    else none
  | .proxy id proxy => (s.openers.get id).bind fun o => match o.phase with
    | .acquired => some { s with openers := s.openers.put { o with phase := .proxied proxy } }
    | _ => none
  -- An answer without a port or a ticket is refused.
  | .createSession id expiresAt => (s.openers.get id).bind fun o => match o.phase with
    | .proxied proxy =>
      if proxy.port != "" && proxy.ticket != "" then some { s with
        consoles := s.consoles.put (createdSession s o proxy expiresAt)
        nextConsole := s.nextConsole + 1
        openers := s.openers.keep fun o => decide (o.id ≠ id) }
      else none
    | _ => none
  | .giveUpOpen id => some { s with openers := s.openers.keep fun o => decide (o.id ≠ id) }
  | .disable => some { s with enabled := false }
  -- A verified retirement wants the cluster disabled before it.
  | .retire mode retiredAt =>
    if s.retiredAt.isNone && (decide (mode = .forced) || !s.enabled) then
      (finalizeConsoles s.consoles s.cluster.pk mode retiredAt).map fun consoles => { s with
        cluster := retireClusterGuestInventory s.cluster
        consoles := consoles
        enabled := false
        retiredAt := some retiredAt }
    else none

/-! ## What should be gone -/

/-- No guest row, no state row, and no session with a ticket, a password or an endpoint. -/
structure WriterSys.Clean (s : WriterSys) : Prop where
  guests : s.cluster.guests.rows = []
  state : s.cluster.inventoryState = none
  consoles : ∀ c ∈ s.consoles.rows, c.cluster = some s.cluster.pk → c.sensitive = false

/-- No refresh and no opening is under way. -/
def WriterSys.Finished (s : WriterSys) : Prop := s.refreshers.rows = [] ∧ s.openers.rows = []

/-- A retired cluster is clean. -/
def WriterSys.RetiredClean (s : WriterSys) : Prop := s.retiredAt.isSome = true → s.Clean

/-- The step writes rows that retirement deletes or blanks. -/
def WriterAct.writes : WriterAct → Bool
  | .reconcile _ | .storeLineage _ | .createSession .. => true
  | _ => false

/-- A write comes before the retirement. -/
def BeforeRetirement (s : WriterSys) (a : WriterAct) (_ : WriterSys) : Prop := (a.writes && s.retiredAt.isSome) = false

instance (s : WriterSys) (a : WriterAct) (s' : WriterSys) : Decidable (BeforeRetirement s a s') :=
  inferInstanceAs (Decidable (_ = _))

/-! ## What a step does -/

/-- The ways one step changes what retirement cleans. -/
inductive WriterEffect (s : WriterSys) (a : WriterAct) (s' : WriterSys) : Prop
  | quiet (hw : a.writes = false) (hcluster : s'.cluster = s.cluster) (hconsoles : s'.consoles = s.consoles)
      (hretired : s'.retiredAt = s.retiredAt)
  | wrote (hw : a.writes = true) (hretired : s'.retiredAt = s.retiredAt) (hdirty : ¬ s'.Clean)
  | retired (hw : a.writes = false) (hretired : s.retiredAt = none) (hclean : s'.Clean)

/-- A reconcile always leaves a state row. -/
theorem reconcileLive_state (c : GuestCluster) (inventory : LiveInventory) :
    (reconcileLive c inventory).inventoryState ≠ none := by
  simp [reconcileLive, updateState]

theorem createdSession_dirty {s : WriterSys} {o : Opener} {p : ConsoleProxy} {expiresAt : Guests.Time} (h : p.ticket ≠ "") :
    (createdSession s o p expiresAt).sensitive = true := by
  simp [createdSession, ConsoleSession.sensitive, h]

theorem writerStep_effect {s s' : WriterSys} {a : WriterAct} (h : writerStep s a = some s') : WriterEffect s a s' := by
  cases a with
  | startRefresh id =>
    obtain ⟨-, h⟩ := Option.ite_none_right_eq_some.mp h
    cases h
    exact .quiet rfl rfl rfl rfl
  | answer id inventory =>
    obtain ⟨r, -, h⟩ := Option.bind_eq_some_iff.mp h
    split at h <;> cases h
    exact .quiet rfl rfl rfl rfl
  | reconcile id =>
    obtain ⟨r, -, h⟩ := Option.bind_eq_some_iff.mp h
    split at h <;> cases h
    exact .wrote rfl rfl fun hclean => reconcileLive_state _ _ hclean.state
  | storeLineage id =>
    obtain ⟨r, -, h⟩ := Option.bind_eq_some_iff.mp h
    split at h <;> cases h
    refine .wrote rfl rfl fun hclean => ?_
    cases hclean.state
  | startOpen id targetType targetVmid targetNode =>
    obtain ⟨-, h⟩ := Option.ite_none_right_eq_some.mp h
    cases h
    exact .quiet rfl rfl rfl rfl
  | proxy id proxy =>
    obtain ⟨o, -, h⟩ := Option.bind_eq_some_iff.mp h
    split at h <;> cases h
    exact .quiet rfl rfl rfl rfl
  | createSession id expiresAt =>
    obtain ⟨o, -, h⟩ := Option.bind_eq_some_iff.mp h
    split at h
    · rename_i proxy hphase
      obtain ⟨husable, h⟩ := Option.ite_none_right_eq_some.mp h
      cases h
      simp only [Bool.and_eq_true, bne_iff_ne] at husable
      have hrow : createdSession s o proxy expiresAt ∈ (s.consoles.put (createdSession s o proxy expiresAt)).rows :=
        Table.mem_of_get (by rw [Table.get_put, if_pos rfl])
      refine .wrote rfl rfl fun hclean => ?_
      have hsafe := hclean.consoles _ hrow rfl
      rw [createdSession_dirty husable.2] at hsafe
      cases hsafe
    · cases h
  | giveUpRefresh id | giveUpOpen id | disable =>
    cases h
    exact .quiet rfl rfl rfl rfl
  | retire mode retiredAt =>
    obtain ⟨hguard, h⟩ := Option.ite_none_right_eq_some.mp h
    obtain ⟨consoles, hconsoles, rfl⟩ := Option.map_eq_some_iff.mp h
    simp only [Bool.and_eq_true, Option.isNone_iff_eq_none] at hguard
    refine .retired rfl hguard.1 ⟨rfl, rfl, fun c hc hof => ?_⟩
    exact (finalizeConsoles_closed hconsoles (Table.get_of_mem hc) hof).2

/-- A step keeps a retired cluster clean exactly when it does not write after the retirement. -/
theorem writerStep_clean_iff {s s' : WriterSys} {a : WriterAct} (hi : s.RetiredClean) (h : writerStep s a = some s') :
    s'.RetiredClean ↔ BeforeRetirement s a s' := by
  unfold BeforeRetirement
  cases writerStep_effect h with
  | quiet hw hcluster hconsoles hretired =>
    refine iff_of_true (fun hr => ?_) (by rw [hw]; rfl)
    obtain ⟨hguests, hstate, hsafe⟩ := hi (hretired ▸ hr)
    exact ⟨hcluster ▸ hguests, hcluster ▸ hstate, by rw [hcluster, hconsoles]; exact hsafe⟩
  | wrote hw hretired hdirty =>
    rw [hw, Bool.true_and, WriterSys.RetiredClean, hretired]
    cases s.retiredAt with
    | none => exact iff_of_true (fun hr => by cases hr) rfl
    | some t => exact iff_of_false (fun hclean => hdirty (hclean rfl)) (fun hr => by cases hr)
  | retired hw hretired hclean => exact iff_of_true (fun _ => hclean) (by rw [hw]; rfl)

/-- What was written after a retirement stays. -/
theorem writerStep_dirty {s s' : WriterSys} {a : WriterAct} (hi : ¬ s.RetiredClean) (h : writerStep s a = some s') :
    ¬ s'.RetiredClean := by
  have hretired : s.retiredAt.isSome = true ∧ ¬ s.Clean := by simpa [WriterSys.RetiredClean] using hi
  cases writerStep_effect h with
  | quiet hw hcluster hconsoles hsame =>
    intro hclean
    obtain ⟨hguests, hstate, hsafe⟩ := hclean (hsame ▸ hretired.1)
    rw [hcluster, hconsoles] at hsafe
    exact hretired.2 ⟨hcluster ▸ hguests, hcluster ▸ hstate, hsafe⟩
  | wrote hw hsame hdirty => exact fun hclean => hdirty (hclean (hsame ▸ hretired.1))
  | retired hw hnone hclean =>
    rw [hnone] at hretired
    cases hretired.1

/-! ## Whole runs -/

/-- **What stays of a retired cluster.** At the end of every interleaving in which the
cluster is retired, nothing of it is left exactly when no reconcile, lineage or console
session was written after the retirement. -/
theorem retired_clean_iff {s s' : WriterSys} {as : List WriterAct} (h₀ : s.retiredAt = none)
    (hrun : run writerStep s as = some s') (hretired : s'.retiredAt.isSome = true) :
    s'.Clean ↔ Along writerStep BeforeRetirement s as := by
  have hend : s'.Clean ↔ s'.RetiredClean := ⟨fun h _ => h, fun h => h hretired⟩
  have hstart : s.RetiredClean := fun hr => by
    rw [h₀] at hr
    cases hr
  rw [hend, final_iff_always writerStep_dirty hrun]
  exact always_iff_along (J := fun _ => True) (fun _ _ => trivial) (fun _ => writerStep_clean_iff) trivial hstart

/-- An enabled cluster with its guests, and nothing under way. -/
def labSys : WriterSys where
  cluster := twoNodeCluster
  enabled := true
  retiredAt := none
  ingestionQuarantined := false
  transitionPending := false
  consoles := .empty
  nextConsole := 1
  refreshers := .empty
  openers := .empty

/-- A complete answer with one guest. -/
def labInventory : LiveInventory where
  guests := [⟨.vm, 100, "pve1", "running", false, ""⟩]
  complete := true
  attemptedEndpoints := ["pve1"]
  successfulEndpoints := ["pve1"]
  observedAt := 50

/-- A refresh and a console opened and written, and then the retirement. -/
def writtenBefore : List WriterAct :=
  [.startRefresh 1, .startOpen 2 .vm 100 "pve1", .answer 1 labInventory, .proxy 2 ⟨"https://pve1:8006", "5900", "PVEVNC:1", "x"⟩,
    .reconcile 1, .createSession 2 60, .storeLineage 1, .disable, .retire .verified 70]

theorem written_before_clean : ∃ s', run writerStep labSys writtenBefore = some s' ∧ s'.Clean := by
  obtain ⟨s', hs'⟩ : ∃ s', run writerStep labSys writtenBefore = some s' := Option.isSome_iff_exists.mp (by decide +kernel)
  have hretired : (run writerStep labSys writtenBefore).all (·.retiredAt.isSome) = true := by decide +kernel
  rw [hs'] at hretired
  exact ⟨s', hs', (retired_clean_iff rfl hs' hretired).mpr (by decide +kernel)⟩

/-- The provider has answered when the cluster is retired, and the answer is still
reconciled: the retired cluster has a state row again. -/
theorem retired_cluster_reconciled :
    ¬ ∀ (s s' : WriterSys) (as : List WriterAct), s.retiredAt = none → run writerStep s as = some s' →
      s'.retiredAt.isSome = true → s'.Finished → s'.Clean := by
  intro h
  let as : List WriterAct := [.startRefresh 1, .answer 1 labInventory, .retire .forced 60, .reconcile 1, .storeLineage 1]
  let s' := (run writerStep labSys as).get (by decide +kernel)
  have hclean := h labSys s' as rfl (by simp [s']) (by decide +kernel) ⟨by decide +kernel, by decide +kernel⟩
  have hstate : s'.cluster.inventoryState.isSome = true := by decide +kernel
  rw [hclean.state] at hstate
  cases hstate

end PveHelper.Clusters
