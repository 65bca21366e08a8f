/-
Whether a node's runtime is what its status says, through every interleaving of
membership refreshes, single refreshes and sweeps. Beside the rows stands the list
of all attempts on a node: a visit that was not refused is one, whether it
published, failed, or raised and was rolled back.
-/
import PveHelper.Nodes.Runtime
import Mathlib.Algebra.Group.Int.Defs

namespace PveHelper.Nodes

open Lib PveHelper.Topology

/-! ## The system -/

structure RuntimeAttempt where
  nodeName : String
  /-- The membership generation it was made under. -/
  generation : Nat
  /-- The node was then present. -/
  present : Bool
  answers : List (String × Answer Json)
  published : Option NormalizedNodeRuntime

structure RuntimeSys where
  cluster : RuntimeCluster
  /-- All attempts, the latest first. -/
  attempts : List RuntimeAttempt

def RuntimeSys.latest (s : RuntimeSys) (name : String) : Option RuntimeAttempt :=
  s.attempts.find? fun a => a.nodeName == name

/-- How often runtime was published for the node. -/
def RuntimeSys.publications (s : RuntimeSys) (name : String) : Nat :=
  (s.attempts.filter fun a => a.nodeName == name && a.published.isSome).length

/-- The attempt that a visit is. -/
def attemptOf (s : RuntimeCluster) (name : String) (answers : List (String × Answer Json)) (visit : Except String NodeVisit) :
    Option RuntimeAttempt :=
  let attempt published : RuntimeAttempt :=
    ⟨name, s.scope.row.membershipGeneration, (s.scope.nodes.get name).any (·.present), answers, published⟩
  match visit with
  | .ok (.refused _ _) => none
  | .ok (.read runtime) => some (attempt (some runtime))
  | _ => some (attempt none)

def runtimeVisit (s : RuntimeSys) (now : Time) (name : String) (answers : List (String × Answer Json))
    (h : SweepEndpointHealth) : RuntimeSys × SweepEndpointHealth × Bool :=
  let attempts := (attemptOf s.cluster name answers (visitNode s.cluster name answers h).1).toList ++ s.attempts
  match refreshOneNode s.cluster name answers h now with
  | (.ok (cluster, _), h) => (⟨cluster, attempts⟩, h, true)
  | (.error _, h) => ({ s with attempts := attempts }, h, false)

/-- `refresh_cluster_node_runtime`, by its transactions. -/
def runtimeSweep : SweepSpec RuntimeSys String Bool Time (List (String × Answer Json)) SweepEndpointHealth where
  fresh := {}
  start s hasEndpoint _ := (s, (sweepTargets s.cluster.scope hasEndpoint).toOption)
  visit := runtimeVisit
  finish s now := { s with cluster := (markDepartedNodes s.cluster now).1 }

def runtimeOther (s : RuntimeSys) (a : MembershipAction) : Option RuntimeSys :=
  some { s with cluster := { s.cluster with scope := scopeStep s.cluster.scope a } }

abbrev RuntimeState := Swept RuntimeSys String Time SweepEndpointHealth
abbrev RuntimeLabel := SweepLabel MembershipAction String Bool Time (List (String × Answer Json))

def runtimeStep : RuntimeState → RuntimeLabel → Option RuntimeState := runtimeSweep.step runtimeOther

/-- A cluster of which nothing was read yet. -/
structure NothingRead (s : RuntimeSys) : Prop where
  state : s.cluster.scope.state = none
  membership : s.cluster.scope.coverage = none
  nodes : s.cluster.scope.nodes = .empty
  runtime : s.cluster.runtime = fun _ => {}
  coverage : s.cluster.coverage = .empty
  attempts : s.attempts = []

/-! ## What a visit finds -/

/-- Reading this status body raises, at a number too large for a float, or saving what is read does. -/
def statusRaises (payload : Json) : Bool :=
  match normalizeNodeStatus payload with
  | .ok runtime => !runtime.storable
  | .error (.invalid _) => false
  | .error .overflow => true

/-- The answers hold no number too large for a float, and no text that the database refuses. -/
def Convertible (answers : List (String × Answer Json)) : Prop :=
  ∀ e payload, (e, Except.ok payload) ∈ answers → statusRaises payload = false

/-- What a visit finds tells of the rows and the answers. -/
inductive VisitSpec (s : RuntimeCluster) (name : String) (answers : List (String × Answer Json)) :
    Except String NodeVisit → Prop
  | refused {code : String} {basedOn : Option Nat} : VisitSpec s name answers (.ok (.refused code basedOn))
  | absent : VisitSpec s name answers (.ok .absent)
  | offline : VisitSpec s name answers (.ok .offline)
  | failed {code : String} (hcode : code ∈ readErrorCodes) : VisitSpec s name answers (.ok (.failed code))
  | read {row : ClusterNodeState} {e : String} {payload : Json} {runtime : NormalizedNodeRuntime}
      (hrow : s.scope.nodes.get name = some row) (hpresent : row.present = true) (hanswer : (e, .ok payload) ∈ answers)
      (hruntime : normalizeNodeStatus payload = .ok runtime) : VisitSpec s name answers (.ok (.read runtime))
  | raised {e : String} {payload : Json} {text : String} (hanswer : (e, .ok payload) ∈ answers)
      (hraises : statusRaises payload = true) : VisitSpec s name answers (.error text)

/-- The three ends of a status read. -/
theorem readNodeStatus_cases (answers : List (String × Answer Json)) (h : SweepEndpointHealth) :
    (∃ code ∈ readErrorCodes, (readNodeStatus answers h).1 = .ok (.error code)) ∨
    (∃ e payload, (e, Except.ok payload) ∈ answers ∧
      ((∃ runtime, normalizeNodeStatus payload = .ok runtime ∧ (readNodeStatus answers h).1 = .ok (.ok runtime)) ∨
        (normalizeNodeStatus payload = .error .overflow ∧ ∃ text, (readNodeStatus answers h).1 = .error text))) := by
  have hcases := readUsable_cases answers h
  unfold readNodeStatus
  generalize readUsable answers h = read at hcases
  obtain ⟨read, h'⟩ := read
  rcases hcases with ⟨e, payload, hmem, rfl⟩ | ⟨code, hcode, rfl⟩
  · simp only
    cases hn : normalizeNodeStatus payload with
    | ok runtime => exact .inr ⟨e, payload, hmem, .inl ⟨runtime, hn, rfl⟩⟩
    | error error =>
      cases error with
      | invalid text => exact .inl ⟨_, by decide, rfl⟩
      | overflow => exact .inr ⟨e, payload, hmem, .inr ⟨hn, _, rfl⟩⟩
  · exact .inl ⟨code, hcode, rfl⟩

theorem visitNode_spec (s : RuntimeCluster) (name : String) (answers : List (String × Answer Json))
    (h : SweepEndpointHealth) : VisitSpec s name answers (visitNode s name answers h).1 := by
  unfold visitNode
  cases clusterGate s.scope (!answers.isEmpty) with
  | error refusal => exact .refused
  | ok membershipComplete =>
    simp only
    split
    · exact .refused
    cases hrow : s.scope.nodes.get name with
    | none => exact .refused
    | some row =>
      simp only
      split
      · exact .absent
      rename_i hpresent
      split
      · exact .offline
      have hpresent : row.present = true := by simpa using hpresent
      have hcases := readNodeStatus_cases answers h
      generalize readNodeStatus answers h = read at hcases
      obtain ⟨read, h'⟩ := read
      rcases hcases with ⟨code, hcode, rfl⟩ | ⟨e, payload, hmem, ⟨runtime, hn, rfl⟩ | ⟨hn, text, rfl⟩⟩
      · exact .failed hcode
      · dsimp only [savedRuntime]
        split
        · exact .read hrow hpresent hmem hn
        · next hrefused =>
          have hraises : statusRaises payload = true := by
            rw [statusRaises, hn]
            simpa using hrefused
          exact .raised hmem hraises
      · exact .raised hmem (by rw [statusRaises, hn])

/-! ## One node's rows -/

/-- What the rows and the attempts say of one node. -/
structure NodeFacts where
  coverage : Option NodeCoverage
  runtime : NodeRuntime
  latest : Option RuntimeAttempt
  publications : Nat

def RuntimeSys.facts (s : RuntimeSys) (name : String) : NodeFacts :=
  ⟨s.cluster.coverage.get name, s.cluster.runtime name, s.latest name, s.publications name⟩

/-- The attempt read the columns from an endpoint, under the generation and with the
node present. -/
structure Publishes (a : RuntimeAttempt) (generation : Nat) (columns : RuntimeColumns) : Prop where
  present : a.present = true
  generation : a.generation = generation
  normalised : ∃ e payload runtime, (e, Except.ok payload) ∈ a.answers ∧ normalizeNodeStatus payload = .ok runtime ∧
    a.published = some runtime ∧ columns = runtime.columns

structure NodeInv (f : NodeFacts) : Prop where
  counted : f.runtime.generation = f.publications
  complete : ∀ c, f.coverage = some c → c.complete = true →
    c.generation = f.runtime.generation ∧ ∃ a, f.latest = some a ∧ Publishes a c.basedOnGeneration f.runtime.columns
  handled : ∀ c, f.coverage = some c → c.handled = true → f.runtime.columns = {}

def RuntimeInv (s : RuntimeSys) : Prop := ∀ name, NodeInv (s.facts name)

/-- The state with one node's rows written and an attempt on it noted. -/
def RuntimeSys.write (s : RuntimeSys) (name : String) (c : NodeCoverage) (r : NodeRuntime) (attempt : Option RuntimeAttempt) :
    RuntimeSys where
  cluster := { s.cluster with
    runtime := Function.update s.cluster.runtime name r
    coverage := s.cluster.coverage.put c }
  attempts := attempt.toList ++ s.attempts

theorem facts_write_self (s : RuntimeSys) {name : String} {c : NodeCoverage} (hc : c.nodeName = name) (r : NodeRuntime)
    {attempt : Option RuntimeAttempt} (ha : ∀ a, attempt = some a → a.nodeName = name) :
    (s.write name c r attempt).facts name = ⟨some c, r, attempt.or (s.latest name),
      s.publications name + if attempt.any (·.published.isSome) then 1 else 0⟩ := by
  cases attempt with
  | none => simp [RuntimeSys.facts, RuntimeSys.write, RuntimeSys.latest, RuntimeSys.publications, Table.get_put, hc]
  | some a =>
    have hname : a.nodeName = name := ha a rfl
    cases hp : a.published <;>
      simp [RuntimeSys.facts, RuntimeSys.write, RuntimeSys.latest, RuntimeSys.publications, Table.get_put, hc, hname, hp]

theorem facts_write_of_ne (s : RuntimeSys) {name k : String} (hk : k ≠ name) {c : NodeCoverage} (hc : c.nodeName = name)
    (r : NodeRuntime) {attempt : Option RuntimeAttempt} (ha : ∀ a, attempt = some a → a.nodeName = name) :
    (s.write name c r attempt).facts k = s.facts k := by
  cases attempt with
  | none => simp [RuntimeSys.facts, RuntimeSys.write, RuntimeSys.latest, RuntimeSys.publications, Table.get_put, hc, hk]
  | some a =>
    have hname : (a.nodeName == k) = false := by
      rw [ha a rfl]
      simpa using hk.symm
    simp [RuntimeSys.facts, RuntimeSys.write, RuntimeSys.latest, RuntimeSys.publications, Table.get_put, hc, hk, hname]

/-- A write of one node's rows is judged by that node. -/
theorem RuntimeInv.write {s : RuntimeSys} (hinv : RuntimeInv s) {name : String} {c : NodeCoverage} (hc : c.nodeName = name)
    {r : NodeRuntime} {attempt : Option RuntimeAttempt} (ha : ∀ a, attempt = some a → a.nodeName = name)
    (hnode : NodeInv ⟨some c, r, attempt.or (s.latest name),
      s.publications name + if attempt.any (·.published.isSome) then 1 else 0⟩) : RuntimeInv (s.write name c r attempt) := by
  intro k
  by_cases hk : k = name
  · subst hk
    rw [facts_write_self s hc r ha]
    exact hnode
  · rw [facts_write_of_ne s hk hc r ha]
    exact hinv k

/-- An incomplete row is right when, if it says that the node is gone, the columns are blank. -/
theorem RuntimeInv.record {s : RuntimeSys} (hinv : RuntimeInv s) {name : String} {now : Time} {code : String} {basedOn : Nat}
    {r : NodeRuntime} {attempt : Option RuntimeAttempt} (ha : ∀ a, attempt = some a → a.nodeName = name ∧ a.published = none)
    (hgeneration : r.generation = (s.cluster.runtime name).generation)
    (hblank : code = errorNodeAbsent → r.columns = {}) :
    RuntimeInv ⟨{ s.cluster with
      runtime := Function.update s.cluster.runtime name r
      coverage := recordAttempt s.cluster.coverage name now code basedOn }, attempt.toList ++ s.attempts⟩ := by
  have hname : ((coverageFor s.cluster.coverage name basedOn).attempted now code basedOn).nodeName = name :=
    coverageFor_nodeName ..
  refine RuntimeInv.write hinv hname (fun a h => (ha a h).1) ?_
  have hnone : attempt.any (·.published.isSome) = false := by
    cases attempt with
    | none => rfl
    | some a => simp [(ha a rfl).2]
  refine ⟨?_, fun c hc hcomplete => ?_, fun c hc hhandled => ?_⟩
  · rw [hnone]
    exact hgeneration.trans (hinv name).counted
  · cases hc
    cases hcomplete
  · cases hc
    simp only [NodeCoverage.handled, Bool.and_eq_true, beq_iff_eq] at hhandled
    exact hblank hhandled.1

/-- A failed attempt that leaves the node's row alone. -/
theorem RuntimeInv.note {s : RuntimeSys} (hinv : RuntimeInv s) {name : String} {now : Time} {code : String} {basedOn : Nat}
    {a : RuntimeAttempt} (hname : a.nodeName = name) (hnone : a.published = none) (hcode : code ≠ errorNodeAbsent) :
    RuntimeInv ⟨{ s.cluster with coverage := recordAttempt s.cluster.coverage name now code basedOn }, a :: s.attempts⟩ := by
  have hattempt : ∀ a', some a = some a' → a'.nodeName = name ∧ a'.published = none := by
    intro a' h
    cases h
    exact ⟨hname, hnone⟩
  have hrecord : RuntimeInv ⟨⟨s.cluster.scope, Function.update s.cluster.runtime name (s.cluster.runtime name),
      recordAttempt s.cluster.coverage name now code basedOn⟩, a :: s.attempts⟩ :=
    hinv.record hattempt rfl fun h => absurd h hcode
  rw [Function.update_eq_self] at hrecord
  exact hrecord

/-- A publication. -/
theorem RuntimeInv.publish {s : RuntimeSys} (hinv : RuntimeInv s) {name : String} {basedOn : Nat} {a : RuntimeAttempt}
    {runtime : NormalizedNodeRuntime} (hname : a.nodeName = name) (hpublishes : Publishes a basedOn runtime.columns)
    (now : Time) :
    RuntimeInv ⟨{ s.cluster with
      runtime := Function.update s.cluster.runtime name ⟨(s.cluster.runtime name).generation + 1, runtime.columns⟩
      coverage := recordPublication s.cluster.coverage name now ((s.cluster.runtime name).generation + 1) basedOn },
      a :: s.attempts⟩ := by
  have hrow : ((coverageFor s.cluster.coverage name basedOn).published now
      ((s.cluster.runtime name).generation + 1) basedOn).nodeName = name := coverageFor_nodeName ..
  have hsome : (some a).any (·.published.isSome) = true := by
    obtain ⟨-, -, published, -, -, hpublished, -⟩ := hpublishes.normalised
    simp [hpublished]
  have hattempt : ∀ a', some a = some a' → a'.nodeName = name := by
    intro a' h
    cases h
    exact hname
  refine RuntimeInv.write hinv hrow hattempt ⟨?_, fun c hc _ => ?_, fun c hc hhandled => ?_⟩
  · rw [if_pos hsome]
    exact congrArg (· + 1) (hinv name).counted
  · cases hc
    exact ⟨rfl, a, rfl, hpublishes⟩
  · cases hc
    simp [NodeCoverage.handled, NodeCoverage.published] at hhandled

/-- A visit whose answers can be converted keeps the rows right. -/
theorem runtimeVisit_inv {s : RuntimeSys} (hinv : RuntimeInv s) {answers : List (String × Answer Json)}
    (hanswers : Convertible answers) (now : Time) (name : String) (h : SweepEndpointHealth) :
    RuntimeInv (runtimeVisit s now name answers h).1 := by
  have hspec := visitNode_spec s.cluster name answers h
  unfold runtimeVisit refreshOneNode
  generalize visitNode s.cluster name answers h = visit at hspec
  obtain ⟨visit, h'⟩ := visit
  let attempt published : RuntimeAttempt :=
    ⟨name, s.cluster.scope.row.membershipGeneration, (s.cluster.scope.nodes.get name).any (·.present), answers, published⟩
  cases hspec with
  | refused => exact hinv
  | absent =>
    show RuntimeInv ⟨(writeVisit s.cluster name now .absent).1, attempt none :: s.attempts⟩
    have hattempt : ∀ a, some (attempt none) = some a → a.nodeName = name ∧ a.published = none := by
      intro a h
      cases h
      exact ⟨rfl, rfl⟩
    exact RuntimeInv.record hinv hattempt rfl fun _ => rfl
  | offline =>
    show RuntimeInv ⟨(writeVisit s.cluster name now .offline).1, attempt none :: s.attempts⟩
    have hcode : errorNodeOffline ≠ errorNodeAbsent := by decide
    exact RuntimeInv.note hinv rfl rfl hcode
  | failed hcode =>
    rename_i code
    show RuntimeInv ⟨(writeVisit s.cluster name now (.failed code)).1, attempt none :: s.attempts⟩
    refine RuntimeInv.note hinv rfl rfl fun heq => ?_
    rw [heq] at hcode
    revert hcode
    decide
  | read hrow hpresent hanswer hruntime =>
    rename_i row e payload runtime
    show RuntimeInv ⟨(writeVisit s.cluster name now (.read runtime)).1, attempt (some runtime) :: s.attempts⟩
    have hpublishes : Publishes (attempt (some runtime)) s.cluster.scope.row.membershipGeneration runtime.columns :=
      ⟨by simp [attempt, hrow, hpresent], rfl, e, payload, runtime, hanswer, hruntime, rfl, rfl⟩
    exact RuntimeInv.publish hinv rfl hpublishes now
  | raised hanswer hraises =>
    rw [hanswers _ _ hanswer] at hraises
    cases hraises

/-! ## The departure pass -/

/-- The pass marks the rows it goes over, and no other. -/
theorem markDeparted_fold (now : Time) (rows : List ClusterNodeState) (s : RuntimeCluster) (k : String) :
    (rows.foldl (markDeparted now) s).scope = s.scope ∧
    (k ∈ rows.map (·.nodeName) → ((rows.foldl (markDeparted now) s).runtime k).columns = {} ∧
      ∃ c, (rows.foldl (markDeparted now) s).coverage.get k = some c ∧ c.handled = true ∧
        c.basedOnGeneration = s.scope.row.membershipGeneration) ∧
    (k ∉ rows.map (·.nodeName) → (rows.foldl (markDeparted now) s).runtime k = s.runtime k ∧
      (rows.foldl (markDeparted now) s).coverage.get k = s.coverage.get k) := by
  induction rows generalizing s with
  | nil => exact ⟨rfl, fun h => absurd h List.not_mem_nil, fun _ => ⟨rfl, rfl⟩⟩
  | cons row rows ih =>
    obtain ⟨hscope, hin, hout⟩ := ih (markDeparted now s row)
    rw [List.foldl_cons, List.map_cons]
    refine ⟨hscope, fun h => ?_, fun h => ?_⟩
    · by_cases hk : k ∈ rows.map (·.nodeName)
      · exact hin hk
      · obtain ⟨hruntime, hcoverage⟩ := hout hk
        have heq : k = row.nodeName := (List.mem_cons.mp h).resolve_right hk
        rw [hruntime, hcoverage, heq]
        simp only [markDeparted, Function.update_self, get_recordAttempt, if_true]
        exact ⟨rfl, _, rfl, rfl, rfl⟩
    · obtain ⟨hne, hk⟩ := not_or.mp (List.mem_cons.not.mp h)
      obtain ⟨hruntime, hcoverage⟩ := hout hk
      rw [hruntime, hcoverage, markDeparted, get_recordAttempt, if_neg hne]
      exact ⟨Function.update_of_ne hne .., rfl⟩

theorem mem_departedRows {s : RuntimeCluster} {k : String} : k ∈ (departedRows s).map (·.nodeName) ↔
    ∃ row, s.scope.nodes.get k = some row ∧ row.present = false ∧ (s.coverage.get k).any (·.handled) = false := by
  simp only [departedRows, List.mem_map, List.mem_insertionSort, List.mem_filter, Bool.and_eq_true, Bool.not_eq_true']
  constructor
  · intro h
    obtain ⟨row, ⟨hrow, hpresent, hhandled⟩, rfl⟩ := h
    exact ⟨row, Table.get_of_mem hrow, hpresent, hhandled⟩
  · intro h
    obtain ⟨row, hrow, hpresent, hhandled⟩ := h
    have hname : row.nodeName = k := Table.key_of_get hrow
    exact ⟨row, ⟨Table.mem_of_get hrow, hpresent, by rw [hname]; exact hhandled⟩, hname⟩

/-- What the pass leaves of an absent node: marked under the current generation if it
was not marked before, else as it was. -/
theorem markDepartedNodes_absent {s : RuntimeCluster} (hnot : departureRefused s.scope = false) (now : Time) {k : String}
    {row : ClusterNodeState} (hrow : s.scope.nodes.get k = some row) (habsent : row.present = false) :
    (∃ c, s.coverage.get k = some c ∧ c.handled = true ∧ (markDepartedNodes s now).1.coverage.get k = some c ∧
      (markDepartedNodes s now).1.runtime k = s.runtime k) ∨
    ((s.coverage.get k).any (·.handled) = false ∧ ((markDepartedNodes s now).1.runtime k).columns = {} ∧
      ∃ c, (markDepartedNodes s now).1.coverage.get k = some c ∧ c.handled = true ∧
        c.basedOnGeneration = s.scope.row.membershipGeneration) := by
  obtain ⟨-, hin, hout⟩ := markDeparted_fold now (departedRows s) s k
  rw [markDepartedNodes, if_neg (by simp [hnot])]
  by_cases hk : k ∈ (departedRows s).map (·.nodeName)
  · obtain ⟨-, -, -, hhandled⟩ := mem_departedRows.mp hk
    exact .inr ⟨hhandled, hin hk⟩
  · obtain ⟨hruntime, hcoverage⟩ := hout hk
    have hhandled : (s.coverage.get k).any (·.handled) = true := by
      by_contra hnone
      exact hk (mem_departedRows.mpr ⟨row, hrow, habsent, by simpa using hnone⟩)
    cases hc : s.coverage.get k with
    | none => simp [hc] at hhandled
    | some c => exact .inl ⟨c, rfl, by simpa [hc] using hhandled, hcoverage.trans hc, hruntime⟩

theorem markDepartedNodes_scope (s : RuntimeCluster) (now : Time) : (markDepartedNodes s now).1.scope = s.scope := by
  unfold markDepartedNodes
  split
  · rfl
  · exact (markDeparted_fold now (departedRows s) s "").1

theorem markDeparted_foldl_inv {s : RuntimeSys} (hinv : RuntimeInv s) (now : Time) (rows : List ClusterNodeState) :
    RuntimeInv { s with cluster := rows.foldl (markDeparted now) s.cluster } := by
  refine List.foldlRecOn rows (markDeparted now) (motive := fun cluster => RuntimeInv { s with cluster := cluster }) hinv ?_
  intro cluster hcluster row _
  have hnone : ∀ a, (none : Option RuntimeAttempt) = some a → a.nodeName = row.nodeName ∧ a.published = none := by
    intro a h
    cases h
  exact hcluster.record hnone rfl fun _ => rfl

theorem markDepartedNodes_inv {s : RuntimeSys} (hinv : RuntimeInv s) (now : Time) :
    RuntimeInv { s with cluster := (markDepartedNodes s.cluster now).1 } := by
  unfold markDepartedNodes
  split
  · exact hinv
  · exact markDeparted_foldl_inv hinv now _

/-- After the pass no absent node shows runtime. -/
theorem markDepartedNodes_blank {s : RuntimeSys} (hinv : RuntimeInv s) (hnot : departureRefused s.cluster.scope = false)
    (now : Time) {k : String} {row : ClusterNodeState}
    (hrow : (markDepartedNodes s.cluster now).1.scope.nodes.get k = some row) (habsent : row.present = false) :
    ((markDepartedNodes s.cluster now).1.runtime k).columns = {} := by
  rw [markDepartedNodes_scope] at hrow
  rcases markDepartedNodes_absent hnot now hrow habsent with ⟨c, hc, hhandled, -, hruntime⟩ | ⟨-, hblank, -⟩
  · rw [hruntime]
    exact (hinv k).handled c hc hhandled
  · exact hblank

/-! ## What is read -/

theorem status_current {s : RuntimeCluster} {name : String} {now maxAge : Time}
    (h : s.status name now maxAge = some .current) : ∃ c, s.coverage.get name = some c ∧ c.complete = true ∧
      c.basedOnGeneration = s.scope.row.membershipGeneration := by
  simp only [RuntimeCluster.status, Option.map_eq_some_iff] at h
  obtain ⟨row, -, h⟩ := h
  unfold runtimeStatus at h
  cases hc : s.coverage.get name with
  | none => simp [hc] at h
  | some c =>
    simp only [hc] at h
    repeat' split at h
    all_goals first | (cases h; done) | skip
    rename_i hcurrent
    simp only [Bool.and_eq_true, beq_iff_eq, publishedGeneration] at hcurrent
    obtain ⟨⟨⟨⟨-, hcomplete⟩, -⟩, hbound⟩, -⟩ := hcurrent.1
    split at hbound
    · exact ⟨c, rfl, hcomplete, Option.some.inj hbound⟩
    · cases hbound

/-- An absent node is read as departed when its coverage says so under the published generation. -/
theorem runtimeStatus_departed_iff {row : ClusterNodeState} (habsent : row.present = false) (g : Nat) (c : NodeCoverage)
    (generation : Option Nat) (now maxAge : Time) : runtimeStatus row g (some c) generation now maxAge = .departed ↔
      c.handled = true ∧ some c.basedOnGeneration = generation ∧ some row.membershipGeneration = generation := by
  have hshape : runtimeStatus row g (some c) generation now maxAge = .departed ↔
      (c.handled && (some c.basedOnGeneration == generation) && (some row.membershipGeneration == generation)) = true := by
    simp only [runtimeStatus, habsent, Bool.not_false, Bool.and_true, Bool.and_false, Bool.false_and, NodeCoverage.handled]
    cases c.errorCode == errorNodeAbsent && !c.complete && some c.basedOnGeneration == generation &&
      some row.membershipGeneration == generation with
    | true => simp
    | false =>
      simp only [Bool.false_eq_true, if_false, iff_false]
      split <;> decide
  rw [hshape]
  simp only [Bool.and_eq_true, beq_iff_eq, and_assoc]

/-! ## Runs -/

abbrev RuntimeMove : RuntimeLabel → RuntimeSys → RuntimeSys → Prop := SweepSpec.Move runtimeSweep runtimeOther

theorem runtimeMove_inv {l : RuntimeLabel} {s s' : RuntimeSys} (h : RuntimeMove l s s') (hl : l.Answered Convertible)
    (hinv : RuntimeInv s) : RuntimeInv s' := by
  cases h with
  | other h =>
    cases h
    exact hinv
  | visit _ now name health ha => exact runtimeVisit_inv hinv (ha hl) now name health
  | start => exact hinv
  | finish i _ now => exact markDepartedNodes_inv hinv now

/-- Attempts are not forgotten. -/
theorem runtimeMove_attempts {l : RuntimeLabel} {s s' : RuntimeSys} (h : RuntimeMove l s s') :
    ∃ new, s'.attempts = new ++ s.attempts := by
  cases h with
  | other h =>
    cases h
    exact ⟨[], rfl⟩
  | visit _ now name health ha =>
    rename_i answers
    refine ⟨(attemptOf s.cluster name answers (visitNode s.cluster name answers health).1).toList, ?_⟩
    simp only [runtimeSweep, runtimeVisit]
    split <;> rfl
  | start => exact ⟨[], rfl⟩
  | finish => exact ⟨[], rfl⟩

/-- What a status says of the rows. -/
structure CurrentIsCurrent (s : RuntimeSys) : Prop where
  /-- A current node shows what the latest attempt on it read, under the generation there
  still is. -/
  current : ∀ name now maxAge, s.cluster.status name now maxAge = some .current →
    ∃ a, s.latest name = some a ∧ Publishes a s.cluster.scope.row.membershipGeneration (s.cluster.runtime name).columns
  aligned : ∀ name c, s.cluster.coverage.get name = some c → c.complete = true →
    c.generation = (s.cluster.runtime name).generation
  counted : ∀ name, (s.cluster.runtime name).generation = s.publications name

/-- What a step keeps. -/
structure RuntimeKept (l : RuntimeLabel) (s s' : RuntimeSys) : Prop where
  monotone : ∀ name, (s.cluster.runtime name).generation ≤ (s'.cluster.runtime name).generation
  /-- The end of a sweep that is not refused leaves absent nodes blank. -/
  blank : ∀ i, l = .finish i → departureRefused s.cluster.scope = false → ∀ name row,
    s'.cluster.scope.nodes.get name = some row → row.present = false → (s'.cluster.runtime name).columns = {}

theorem RuntimeInv.current {s : RuntimeSys} (h : RuntimeInv s) : CurrentIsCurrent s where
  current := by
    intro name now maxAge hstatus
    obtain ⟨c, hc, hcomplete, hbound⟩ := status_current hstatus
    obtain ⟨-, a, ha, hpublishes⟩ := (h name).complete c hc hcomplete
    have hpublishes : Publishes a c.basedOnGeneration (s.cluster.runtime name).columns := hpublishes
    rw [hbound] at hpublishes
    exact ⟨a, ha, hpublishes⟩
  aligned := fun name c hc hcomplete => ((h name).complete c hc hcomplete).1
  counted := fun name => (h name).counted

theorem runtimeMove_kept {l : RuntimeLabel} {s s' : RuntimeSys} (h : RuntimeMove l s s') (hl : l.Answered Convertible)
    (hinv : RuntimeInv s) : RuntimeKept l s s' where
  monotone := by
    intro name
    have hbefore : (s.cluster.runtime name).generation = s.publications name := (hinv name).counted
    have hafter : (s'.cluster.runtime name).generation = s'.publications name := (runtimeMove_inv h hl hinv name).counted
    obtain ⟨new, hnew⟩ := runtimeMove_attempts h
    rw [hbefore, hafter, RuntimeSys.publications, RuntimeSys.publications, hnew, List.filter_append, List.length_append]
    omega
  blank := by
    intro i hfinish hnot name row hrow habsent
    subst hfinish
    cases h with
    | visit _ now name health ha => exact (ha (P := fun _ => False) trivial).elim
    | finish _ _ now => exact markDepartedNodes_blank hinv hnot now hrow habsent

theorem NothingRead.inv {s : RuntimeSys} (h : NothingRead s) : RuntimeInv s := by
  intro name
  have hfacts : s.facts name = ⟨none, {}, none, 0⟩ := by
    rw [RuntimeSys.facts, RuntimeSys.latest, RuntimeSys.publications, h.runtime, h.coverage, h.attempts]
    rfl
  rw [hfacts]
  refine ⟨rfl, fun c hc => ?_, fun c hc => ?_⟩
  · cases hc
  · cases hc

/-- **Current runtime is current**, through every interleaving of membership refreshes,
single refreshes and sweeps in which no status body holds a number too large for a
float or a text that the database refuses. -/
theorem currentRuntime_current {s₀ : RuntimeState} (h₀ : NothingRead s₀.state) {ls : List RuntimeLabel}
    (hls : ∀ l ∈ ls, l.Answered Convertible) :
    Always runtimeStep (fun s => CurrentIsCurrent s.state) s₀ ls ∧
      Along runtimeStep (fun s l s' => RuntimeKept l s.state s'.state) s₀ ls := by
  have hlabels : Along runtimeStep (fun _ l _ => l.Answered Convertible) s₀ ls :=
    along_of_forall fun ls₁ l ls₂ _ _ he _ _ => hls l (by rw [he]; simp)
  have hinv : Always runtimeStep (fun s => RuntimeInv s.state) s₀ ls :=
    hlabels.always (fun hi hs hl => runtimeMove_inv (SweepSpec.step_move hs) hl hi) h₀.inv
  refine ⟨fun ls₁ ls₂ s he hr => (hinv ls₁ ls₂ s he hr).current, along_of_forall ?_⟩
  intro ls₁ l ls₂ s s' he hr hs
  exact runtimeMove_kept (SweepSpec.step_move hs) (hls l (by rw [he]; simp)) (hinv ls₁ (l :: ls₂) s he hr)

/-- A cluster just added. -/
def addedRuntime : RuntimeState := ⟨⟨⟨addedCluster.scope, fun _ => {}, .empty⟩, []⟩, []⟩

/-- A `nodes/<node>/status` body. -/
def statusBody (cpu : Int) : Json :=
  .obj [("cpuinfo", .obj [("model", .str "EPYC")]), ("memory", .obj [("total", .int 8), ("used", .int 3)]),
    ("rootfs", .obj [("total", .int 9), ("used", .int 2)]), ("loadavg", .arr [.str "0.1", .str "0.2", .str "0.3"]),
    ("cpu", .int cpu), ("uptime", .int 60), ("pveversion", .str "8.4")]

theorem addedRuntime_nothingRead : NothingRead addedRuntime.state := ⟨rfl, rfl, rfl, rfl, rfl, rfl⟩

/-- A membership refresh and a refresh of the node it found. -/
def readOnce : List RuntimeLabel :=
  [.other (.refresh [("a", .body standaloneStatus)] 1), .single 10 "pve1" [("a", .ok (statusBody 0))]]

theorem readOnce_convertible : ∀ l ∈ readOnce, l.Answered Convertible := by
  intro l hl
  simp only [readOnce, List.mem_cons, List.not_mem_nil, or_false] at hl
  rcases hl with rfl | rfl
  · trivial
  · intro e payload hmem
    simp only [List.mem_singleton, Prod.mk.injEq, Except.ok.injEq] at hmem
    rw [hmem.2]
    decide +kernel

theorem currentRuntime_current_read : ∃ s, run runtimeStep addedRuntime readOnce = some s ∧
    s.state.cluster.status "pve1" 30 60 = some .current ∧ CurrentIsCurrent s.state :=
  ⟨_, rfl, by decide +kernel,
    (currentRuntime_current addedRuntime_nothingRead readOnce_convertible).1 readOnce [] _ (List.append_nil _).symm rfl⟩

/-- The status stays current after an attempt that raised. -/
theorem overflow_leaves_current : ∃ s,
    run runtimeStep addedRuntime (readOnce ++ [.single 20 "pve1" [("a", .ok (statusBody (10 ^ 400)))]]) = some s ∧
      s.state.cluster.status "pve1" 30 60 = some .current ∧ ¬ CurrentIsCurrent s.state := by
  obtain ⟨s, hs⟩ : ∃ s, run runtimeStep addedRuntime
      (readOnce ++ [.single 20 "pve1" [("a", .ok (statusBody (10 ^ 400)))]]) = some s := ⟨_, rfl⟩
  have hread : (run runtimeStep addedRuntime (readOnce ++ [.single 20 "pve1" [("a", .ok (statusBody (10 ^ 400)))]])).all
      (fun s => decide (s.state.cluster.status "pve1" 30 60 = some .current) &&
        (s.state.latest "pve1").all (·.published.isNone)) = true := by decide +kernel
  rw [hs, Option.all_some, Bool.and_eq_true, decide_eq_true_eq] at hread
  refine ⟨s, hs, hread.1, fun h => ?_⟩
  obtain ⟨a, ha, hpublishes⟩ := h.current "pve1" 30 60 hread.1
  obtain ⟨-, -, runtime, -, -, hpublished, -⟩ := hpublishes.normalised
  have hnone := hread.2
  rw [ha, Option.all_some, hpublished] at hnone
  cases hnone

/-! ## Departed nodes -/

/-- Every node row is of the published generation. -/
structure RowsStamped (s : Scope) : Prop where
  row : RowOk s.row
  stamped : ∀ k row, s.nodes.get k = some row →
    row.membershipGeneration = s.row.membershipGeneration ∧ 0 < s.row.membershipGeneration

theorem scopeStep_stamped {s : Scope} (h : RowsStamped s) (a : MembershipAction) : RowsStamped (scopeStep s a) := by
  cases a with
  | flags => exact ⟨h.row, h.stamped⟩
  | refresh endpoints now =>
    obtain ⟨s', result, hok, hrow, heffect⟩ := refreshClusterMembership_effect h.row endpoints now
    simp only [scopeStep, hok]
    unfold RefreshEffect at heffect
    split at heffect
    · rw [heffect.2]
      exact h
    split at heffect
    · obtain ⟨-, hattempt⟩ := heffect
      refine ⟨hrow, fun k row hget => ?_⟩
      rw [hattempt.nodes] at hget
      rw [Scope.row, hattempt.state]
      exact h.stamped k row hget
    · obtain ⟨-, hwhole⟩ := heffect
      refine ⟨hrow, fun k row hget => ⟨hwhole.stamped k row hget, ?_⟩⟩
      rw [hwhole.next]
      exact Nat.succ_pos _

theorem runtimeMove_stamped {l : RuntimeLabel} {s s' : RuntimeSys} (h : RuntimeMove l s s')
    (hstamped : RowsStamped s.cluster.scope) : RowsStamped s'.cluster.scope := by
  cases h with
  | other h =>
    cases h
    exact scopeStep_stamped hstamped _
  | visit _ now name health ha =>
    rename_i answers
    have hscope : (runtimeVisit s now name answers health).1.cluster.scope = s.cluster.scope := by
      simp only [runtimeVisit, refreshOneNode]
      generalize visitNode s.cluster name answers health = visit
      obtain ⟨visit, health'⟩ := visit
      cases visit with
      | error raised => rfl
      | ok visit => cases visit <;> rfl
    show RowsStamped (runtimeVisit s now name answers health).1.cluster.scope
    rw [hscope]
    exact hstamped
  | start => exact hstamped
  | finish i _ now =>
    show RowsStamped (markDepartedNodes s.cluster now).1.scope
    rw [markDepartedNodes_scope]
    exact hstamped

theorem NothingRead.stamped {s : RuntimeSys} (h : NothingRead s) : RowsStamped s.cluster.scope where
  row := by
    rw [Scope.row, h.state]
    exact rowOk_default
  stamped := by
    intro k row hget
    rw [h.nodes] at hget
    cases hget

/-- What is on record of each absent node's departure is bound to the current generation. -/
def DeparturesCurrent (s : RuntimeCluster) : Prop :=
  ∀ name row c, s.scope.nodes.get name = some row → row.present = false → s.coverage.get name = some c →
    c.handled = true → c.basedOnGeneration = s.scope.row.membershipGeneration

/-- Every absent node is read as departed. -/
def AbsentAreDeparted (s : RuntimeCluster) : Prop :=
  ∀ name row now maxAge, s.scope.nodes.get name = some row → row.present = false →
    s.status name now maxAge = some .departed

theorem status_departed_iff {s : RuntimeCluster} (hstamped : RowsStamped s.scope) {name : String} {row : ClusterNodeState}
    {c : NodeCoverage} (hrow : s.scope.nodes.get name = some row) (habsent : row.present = false)
    (hc : s.coverage.get name = some c) (hhandled : c.handled = true) (now maxAge : Time) :
    s.status name now maxAge = some .departed ↔ c.basedOnGeneration = s.scope.row.membershipGeneration := by
  obtain ⟨hstamp, hpos⟩ := hstamped.stamped name row hrow
  rw [RuntimeCluster.status, hrow, hc, Option.map_some, Option.some.injEq, runtimeStatus_departed_iff habsent,
    publishedGeneration, if_pos hpos, hstamp]
  simp [hhandled]

/-- **A departed node stays departed** past the end of a sweep exactly when no departure is
on record under an older generation: the pass skips a node whose departure is on record,
whatever generation the record is bound to. -/
theorem departed_iff_departuresCurrent {s₀ s s' : RuntimeState} (h₀ : NothingRead s₀.state) {ls : List RuntimeLabel}
    (hr : run runtimeStep s₀ ls = some s) {i : Nat} (hs : runtimeStep s (.finish i) = some s')
    (hnot : departureRefused s.state.cluster.scope = false) :
    AbsentAreDeparted s'.state.cluster ↔ DeparturesCurrent s.state.cluster := by
  have hstamped : RowsStamped s.state.cluster.scope :=
    run_inv (I := fun s : RuntimeState => RowsStamped s.state.cluster.scope)
      (fun hi hst => runtimeMove_stamped (SweepSpec.step_move hst) hi) h₀.stamped hr
  obtain ⟨now, hfinish⟩ := SweepSpec.step_finish hs
  have hcluster : s'.state.cluster = (markDepartedNodes s.state.cluster now).1 := by
    rw [hfinish]
    rfl
  have hscope : s'.state.cluster.scope = s.state.cluster.scope := by rw [hcluster, markDepartedNodes_scope]
  have hstamped' : RowsStamped s'.state.cluster.scope := by rw [hscope]; exact hstamped
  constructor
  · intro h name row c hrow habsent hc hhandled
    rcases markDepartedNodes_absent hnot now hrow habsent with ⟨c', hc', -, hkept, -⟩ | ⟨hnone, -⟩
    · rw [hc] at hc'
      cases hc'
      have hrow' : s'.state.cluster.scope.nodes.get name = some row := by rw [hscope]; exact hrow
      rw [← hcluster] at hkept
      rw [← hscope]
      exact (status_departed_iff hstamped' hrow' habsent hkept hhandled 0 0).mp (h name row 0 0 hrow' habsent)
    · rw [hc, Option.any_some, hhandled] at hnone
      cases hnone
  · intro h name row t maxAge hrow habsent
    have hrow₀ : s.state.cluster.scope.nodes.get name = some row := by rw [← hscope]; exact hrow
    rcases markDepartedNodes_absent hnot now hrow₀ habsent with ⟨c, hc, hhandled, hkept, -⟩ | ⟨-, -, c, hmarked, hhandled, hbound⟩
    · rw [← hcluster] at hkept
      refine (status_departed_iff hstamped' hrow habsent hkept hhandled t maxAge).mpr ?_
      rw [hscope]
      exact h name row c hrow₀ habsent hc hhandled
    · rw [← hcluster] at hmarked
      refine (status_departed_iff hstamped' hrow habsent hmarked hhandled t maxAge).mpr ?_
      rw [hscope]
      exact hbound

/-- The `cluster/status` body of a cluster whose nodes are down, asked of `pve1`. -/
def downStatus (names : List String) : Json :=
  .arr (.obj [("type", .str "cluster"), ("nodes", .int names.length), ("quorate", .int 1)] :: names.map fun name =>
    .obj [("type", .str "node"), ("name", .str name), ("nodeid", .int 1), ("online", .int 0),
      ("local", .int (if name = "pve1" then 1 else 0))])

/-- A sweep of `pve1` alone, up to its end. -/
def sweepPve1 (now : Time) : List RuntimeLabel := [.start true now, .next 0 [("a", .error .invalidResponse)]]

/-- `pve2` is seen, and leaves. -/
def pve2Leaves : List RuntimeLabel :=
  [.other (.refresh [("a", .body (downStatus ["pve1", "pve2"]))] 1),
    .other (.refresh [("a", .body (downStatus ["pve1"]))] 2)] ++ sweepPve1 3

theorem departed_pve2 : ∃ s s', run runtimeStep addedRuntime pve2Leaves = some s ∧
    runtimeStep s (.finish 0) = some s' ∧ AbsentAreDeparted s'.state.cluster := by
  obtain ⟨s, hs⟩ : ∃ s, run runtimeStep addedRuntime pve2Leaves = some s :=
    Option.isSome_iff_exists.mp (by decide +kernel)
  have hrun : (run runtimeStep addedRuntime pve2Leaves).all (fun s => (runtimeStep s (.finish 0)).isSome &&
      !departureRefused s.state.cluster.scope && s.state.cluster.coverage.rows.all (!·.handled)) = true := by decide +kernel
  rw [hs, Option.all_some, Bool.and_eq_true, Bool.and_eq_true, Bool.not_eq_true', List.all_eq_true] at hrun
  obtain ⟨⟨hfinish, hnot⟩, hnone⟩ := hrun
  obtain ⟨s', hs'⟩ := Option.isSome_iff_exists.mp hfinish
  refine ⟨s, s', hs, hs', (departed_iff_departuresCurrent addedRuntime_nothingRead hs hs' hnot).mpr ?_⟩
  intro name row c _ _ hc hhandled
  have hc' := hnone c (Table.mem_of_get hc)
  rw [hhandled] at hc'
  cases hc'

/-- `pve2` left, and the members were published once more since its departure went on record. -/
def pve2LeftBefore : List RuntimeLabel :=
  pve2Leaves ++ [.finish 0, .other (.refresh [("a", .body (downStatus ["pve1"]))] 4)] ++ sweepPve1 5

theorem departed_reads_stale : ∃ s s' row, run runtimeStep addedRuntime pve2LeftBefore = some s ∧
    runtimeStep s (.finish 0) = some s' ∧ departureRefused s.state.cluster.scope = false ∧
      s'.state.cluster.scope.nodes.get "pve2" = some row ∧ row.present = false ∧
        s'.state.cluster.status "pve2" 6 60 = some .stale := by
  refine ⟨_, _, _, rfl, rfl, by decide +kernel, rfl, by decide +kernel, by decide +kernel⟩

end PveHelper.Nodes
