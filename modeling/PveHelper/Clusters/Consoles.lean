/-
Console sessions as retirement finds them, after
`finalize_cluster_retirement_consoles` of `core/services/console_sessions.py`: the
sessions that have not started are closed, those in use only by a forced
retirement, and no session of the cluster keeps a provider secret.
-/
import PveHelper.Scheduling.Rows
import PveHelper.Guests.Inventory

namespace PveHelper.Clusters

open Lib Scheduling

/-- `ConsoleSession.Status`, with any other text the column may hold. -/
inductive ConsoleStatus
  | pending | connecting | connected | closed | failed | expired
  | other (text : String)
deriving DecidableEq

/-- `_RETIREMENT_ACTIVE_STATUSES`. -/
def ConsoleStatus.active : ConsoleStatus → Bool
  | .connecting | .connected => true
  | _ => false

/-- `_RETIREMENT_TERMINAL_STATUSES`. -/
def ConsoleStatus.terminal : ConsoleStatus → Bool
  | .closed | .failed | .expired => true
  | _ => false

structure ConsoleSession where
  pk : Nat
  cluster : Option Nat
  targetType : Guests.ObjectType
  targetVmid : Nat
  targetNode : String
  expiresAt : Time
  closedAt : Option Time := none
  status : ConsoleStatus := .pending
  proxmoxEndpoint : String := ""
  proxmoxPort : String := ""
  proxmoxTicket : String := ""
  proxmoxPassword : String := ""
  closeReason : String := ""
deriving DecidableEq

/-- The session holds a ticket, a password or an endpoint. -/
def ConsoleSession.sensitive (s : ConsoleSession) : Bool :=
  s.proxmoxTicket != "" || s.proxmoxPassword != "" || s.proxmoxEndpoint != ""

def ConsoleSession.sanitized (s : ConsoleSession) : ConsoleSession :=
  { s with proxmoxTicket := "", proxmoxPassword := "", proxmoxEndpoint := "" }

/-- Closed by a retirement, with its code. -/
def ConsoleSession.closedBy (code : String) (retiredAt : Time) (s : ConsoleSession) : ConsoleSession :=
  { s.sanitized with status := .closed, closedAt := some retiredAt, closeReason := code }

theorem ConsoleSession.sanitized_pk (s : ConsoleSession) : s.sanitized.pk = s.pk := rfl

theorem ConsoleSession.closedBy_pk (code : String) (retiredAt : Time) (s : ConsoleSession) :
    (s.closedBy code retiredAt).pk = s.pk := rfl

/-- `cluster_id=cluster.pk`. -/
def ConsoleSession.of (cluster : Nat) (s : ConsoleSession) : Bool := s.cluster == some cluster

/-- `ConsoleRetirementPreflight.gate_clear`. -/
def consoleGateClear (sessions : Table ConsoleSession.pk) (cluster : Nat) (mode : RetirementMode) : Bool :=
  let rows := sessions.rows.filter fun s => s.of cluster && !s.status.terminal
  let pending := (rows.filter fun s => s.status == .pending).length
  let active := (rows.filter fun s => s.status.active).length
  decide (rows.length - pending - active = 0) && (decide (mode = .forced) || decide (active = 0))

/-- `finalize_cluster_retirement_consoles`; nothing when the gate is not clear. -/
def finalizeConsoles (sessions : Table ConsoleSession.pk) (cluster : Nat) (mode : RetirementMode) (retiredAt : Time) :
    Option (Table ConsoleSession.pk) :=
  if !consoleGateClear sessions cluster mode then none
  else
    let pendingClosed := sessions.updateWhere (fun s => s.of cluster && s.status == .pending)
      (·.closedBy codeRetiredBeforeStart retiredAt) (ConsoleSession.closedBy_pk _ _)
    let activeClosed := match mode with
      | .verified => pendingClosed
      | .forced => pendingClosed.updateWhere (fun s => s.of cluster && s.status.active)
          (·.closedBy codeForceRetiredUnresolvable retiredAt) (ConsoleSession.closedBy_pk _ _)
    some (activeClosed.updateWhere (fun s => s.of cluster && s.sensitive) (·.sanitized) ConsoleSession.sanitized_pk)

/-- What a retirement of its cluster makes of a session. -/
def ConsoleSession.retired (mode : RetirementMode) (retiredAt : Time) (s : ConsoleSession) : ConsoleSession :=
  match s.status, mode with
  | .pending, _ => s.closedBy codeRetiredBeforeStart retiredAt
  | .connecting, .forced | .connected, .forced => s.closedBy codeForceRetiredUnresolvable retiredAt
  | _, _ => s.sanitized

section
variable {sessions sessions' : Table ConsoleSession.pk} {cluster : Nat} {mode : RetirementMode} {retiredAt : Time}

theorem ConsoleSession.retired_sensitive (s : ConsoleSession) : (s.retired mode retiredAt).sensitive = false := by
  unfold ConsoleSession.retired
  cases s.status <;> cases mode <;> rfl

theorem ConsoleSession.retired_cluster (s : ConsoleSession) : (s.retired mode retiredAt).cluster = s.cluster := by
  unfold ConsoleSession.retired
  split <;> rfl

theorem ConsoleSession.sanitized_of_not_sensitive {s : ConsoleSession} (h : s.sensitive = false) : s.sanitized = s := by
  cases s
  simp only [ConsoleSession.sensitive, Bool.or_eq_false_iff, bne_eq_false_iff_eq] at h
  obtain ⟨⟨rfl, rfl⟩, rfl⟩ := h
  rfl

/-- The last of the three updates is felt by every session of the cluster. -/
theorem ConsoleSession.sanitize_eq (s : ConsoleSession) :
    (if s.of cluster && s.sensitive then s.sanitized else s) = if s.of cluster then s.sanitized else s := by
  cases s.of cluster with
  | false => rfl
  | true =>
    cases hs : s.sensitive with
    | true => rfl
    | false => exact (ConsoleSession.sanitized_of_not_sensitive hs).symm

/-- Every session of the cluster is retired, and no other is touched. -/
theorem finalizeConsoles_get (h : finalizeConsoles sessions cluster mode retiredAt = some sessions') (pk : Nat) :
    sessions'.get pk = (sessions.get pk).map fun s => if s.of cluster then s.retired mode retiredAt else s := by
  obtain ⟨-, h⟩ := Option.ite_none_left_eq_some.mp h
  cases h
  rw [Table.get_updateWhere]
  simp only [ConsoleSession.sanitize_eq]
  have hmap : ∀ {f g : ConsoleSession → ConsoleSession}, (∀ s, f s = g s) → (sessions.get pk).map f = (sessions.get pk).map g :=
    fun hfg => congrArg (fun f => (sessions.get pk).map f) (funext hfg)
  cases mode with
  | verified =>
    rw [Table.get_updateWhere, Option.map_map]
    refine hmap fun s => ?_
    by_cases hof : s.cluster = some cluster
    · cases hst : s.status <;> simp [ConsoleSession.of, ConsoleSession.retired, ConsoleSession.closedBy,
        ConsoleSession.sanitized, hof, hst]
    · simp [ConsoleSession.of, hof]
  | forced =>
    rw [Table.get_updateWhere, Table.get_updateWhere, Option.map_map, Option.map_map]
    refine hmap fun s => ?_
    by_cases hof : s.cluster = some cluster
    · cases hst : s.status <;> simp [ConsoleSession.of, ConsoleSession.retired, ConsoleSession.closedBy,
        ConsoleSession.sanitized, ConsoleStatus.active, hof, hst]
    · simp [ConsoleSession.of, hof]

/-- A clear gate finds every open session of the cluster pending, or in use and the
retirement forced. -/
theorem consoleGateClear_open (h : consoleGateClear sessions cluster mode = true) {s : ConsoleSession} (hs : s ∈ sessions.rows)
    (hof : s.cluster = some cluster) (hopen : s.status.terminal = false) :
    s.status = .pending ∨ (s.status.active = true ∧ mode = .forced) := by
  unfold consoleGateClear at h
  simp only [Bool.and_eq_true, Bool.or_eq_true, decide_eq_true_eq] at h
  obtain ⟨hknown, hactive⟩ := h
  have hrow : s ∈ sessions.rows.filter fun s => s.of cluster && !s.status.terminal :=
    List.mem_filter.mpr ⟨hs, by simp [ConsoleSession.of, hof, hopen]⟩
  have hdisjoint : ∀ s : ConsoleSession, (s.status == .pending) = true → s.status.active = false := by
    intro s hs
    rw [eq_of_beq hs]
    rfl
  rcases all_of_counted hdisjoint hknown s hrow with hp | ha
  · exact .inl (eq_of_beq hp)
  · refine .inr ⟨ha, hactive.resolve_right fun hcount => ?_⟩
    have hnone := none_of_counted hcount hrow
    rw [ha] at hnone
    cases hnone

/-- Retirement leaves every session of the cluster closed, and without a secret. -/
theorem finalizeConsoles_closed (h : finalizeConsoles sessions cluster mode retiredAt = some sessions') {pk : Nat}
    {s : ConsoleSession} (hs : sessions'.get pk = some s) (hof : s.cluster = some cluster) :
    s.status.terminal = true ∧ s.sensitive = false := by
  rw [finalizeConsoles_get h, Option.map_eq_some_iff] at hs
  obtain ⟨s₀, hs₀, hs⟩ := hs
  have hgate : consoleGateClear sessions cluster mode = true := by
    obtain ⟨hgate, -⟩ := Option.ite_none_left_eq_some.mp h
    simpa using hgate
  by_cases hof₀ : s₀.of cluster = true
  · rw [if_pos hof₀] at hs
    subst hs
    refine ⟨?_, ConsoleSession.retired_sensitive s₀⟩
    cases hopen : s₀.status.terminal with
    | true => cases hst : s₀.status <;> simp_all [ConsoleSession.retired, ConsoleStatus.terminal, ConsoleSession.sanitized]
    | false =>
      rcases consoleGateClear_open hgate (Table.mem_of_get hs₀) (eq_of_beq hof₀) hopen with hst | ⟨hact, hmode⟩
      · simp [ConsoleSession.retired, hst, ConsoleSession.closedBy, ConsoleStatus.terminal]
      · cases hst : s₀.status <;>
          simp_all [ConsoleSession.retired, ConsoleStatus.active, ConsoleStatus.terminal, ConsoleSession.closedBy]
  · rw [if_neg hof₀] at hs
    subst hs
    exact absurd (beq_iff_eq.mpr hof) hof₀

end

end PveHelper.Clusters
