/-
Whether the bridges a node offers are those its provider named, through every
interleaving of membership refreshes, enrollment changes, single refreshes and
sweeps; and whether a refused sweep leaves any node's interfaces complete. Beside
the rows stands the list of all attempts on a node with what they read, whether it was
published or the write of it raised and was rolled back.
-/
import PveHelper.Nodes.Networks

namespace PveHelper.Nodes

open Lib PveHelper.Topology
open Guests (PublicationScope sortedSet sortedSet_eq_iff)

/-! ## The system -/

structure NetworkAttempt where
  nodeName : String
  answers : List (String × NetworkAnswer)
  /-- The plain and the `any_bridge` listing that it read. -/
  listings : Option (List Json × List Json)

structure NetworkSys where
  cluster : NetworkCluster
  /-- All attempts, the latest first. -/
  attempts : List NetworkAttempt

def NetworkSys.latest (s : NetworkSys) (name : String) : Option NetworkAttempt :=
  s.attempts.find? fun a => a.nodeName == name

/-- The attempt that a visit is, unless it is refused. -/
def networkAttemptOf (name : String) (answers : List (String × NetworkAnswer)) : NetworkVisit → Option NetworkAttempt
  | .refused _ | .notAMember => none
  | .unread _ | .failed _ => some ⟨name, answers, none⟩
  | .read plain bridges => some ⟨name, answers, some (plain, bridges)⟩

section
variable (repr : Json → String)

def networkVisit (s : NetworkSys) (now : Time) (name : String) (answers : List (String × NetworkAnswer))
    (h : SweepEndpointHealth) : NetworkSys × SweepEndpointHealth × Bool :=
  let attempts := (networkAttemptOf name answers (visitNetwork s.cluster name answers h).1).toList ++ s.attempts
  match refreshOneNodeNetwork repr s.cluster name answers h now with
  | (.ok (cluster, _), h) => (⟨cluster, attempts⟩, h, true)
  | (.error _, h) => ({ s with attempts := attempts }, h, false)

/-- `refresh_cluster_node_networks`, by its transactions. -/
def networkSweep : SweepSpec NetworkSys String Bool Time (List (String × NetworkAnswer)) SweepEndpointHealth where
  fresh := {}
  start s hasEndpoint now :=
    ({ s with cluster := (openNetworkSweep s.cluster hasEndpoint now).1 }, (openNetworkSweep s.cluster hasEndpoint now).2)
  visit := networkVisit repr
  finish s now := { s with cluster := (retractDepartedNodes s.cluster now).1 }

inductive NetworkOther
  | membership (a : MembershipAction)
  | enroll (enrollment : PublicationScope)

def networkOther (s : NetworkSys) : NetworkOther → Option NetworkSys
  | .membership a => some { s with cluster := { s.cluster with scope := scopeStep s.cluster.scope a } }
  | .enroll enrollment => some { s with cluster := { s.cluster with enrollment := enrollment } }

abbrev NetworkState := Swept NetworkSys String Time SweepEndpointHealth
abbrev NetworkLabel := SweepLabel NetworkOther String Bool Time (List (String × NetworkAnswer))

def networkStep : NetworkState → NetworkLabel → Option NetworkState := (networkSweep repr).step networkOther

end

/-! ## The two listings -/

/-- No two listings of an endpoint compose to a text that the database refuses. -/
def Storable (repr : Json → String) (answers : List (String × NetworkAnswer)) : Prop :=
  ∀ e answer plain bridges, (e, answer) ∈ answers → answer.plain = .ok (.arr plain) →
    answer.anyBridge = .ok (.arr bridges) → (compose repr plain bridges).rows.all (·.storable) = true

/-- The attempt read the two listings, from one endpoint. -/
structure NetworkAttempt.Read (a : NetworkAttempt) (plain bridges : List Json) : Prop where
  listings : a.listings = some (plain, bridges)
  endpoint : ∃ e answer, (e, answer) ∈ a.answers ∧ answer.plain = .ok (.arr plain) ∧ answer.anyBridge = .ok (.arr bridges)

theorem both_ok {a : NetworkAnswer} {plain bridges : Json} (h : a.both = .ok (plain, bridges)) :
    a.plain = .ok plain ∧ a.anyBridge = .ok bridges := by
  obtain ⟨p, b⟩ := a
  cases p with
  | error => cases h
  | ok p =>
    cases b with
    | error => cases h
    | ok b =>
      cases h
      exact ⟨rfl, rfl⟩

theorem readInterfaces_ok {answers : List (String × NetworkAnswer)} {h : SweepEndpointHealth} {plain bridges : List Json}
    (hread : (readInterfaces answers h).1 = .ok (plain, bridges)) :
    ∃ e answer, (e, answer) ∈ answers ∧ answer.plain = .ok (.arr plain) ∧ answer.anyBridge = .ok (.arr bridges) := by
  have hcases := readUsable_cases (answers.map fun e => (e.1, e.2.both)) h
  unfold readInterfaces at hread
  generalize readUsable (answers.map fun e => (e.1, e.2.both)) h = read at hcases hread
  obtain ⟨read, h'⟩ := read
  rcases hcases with ⟨e, listings, hmem, rfl⟩ | ⟨code, -, rfl⟩
  · obtain ⟨⟨e', answer⟩, hanswer, heq⟩ := List.mem_map.mp hmem
    obtain ⟨-, hboth⟩ := Prod.mk.inj heq
    simp only at hread
    split at hread
    · cases hread
      obtain ⟨hplain, hbridges⟩ := both_ok hboth
      exact ⟨e', answer, hanswer, hplain, hbridges⟩
    · cases hread
  · cases hread

theorem visitNetwork_read {s : NetworkCluster} {name : String} {answers : List (String × NetworkAnswer)}
    {h : SweepEndpointHealth} {plain bridges : List Json} (hread : (visitNetwork s name answers h).1 = .read plain bridges) :
    ∃ e answer, (e, answer) ∈ answers ∧ answer.plain = .ok (.arr plain) ∧ answer.anyBridge = .ok (.arr bridges) := by
  unfold visitNetwork at hread
  repeat' split at hread
  all_goals first | (cases hread; done) | skip
  rename_i heq
  cases hread
  exact readInterfaces_ok (by rw [heq])

section
variable (repr : Json → String)

/-- A row of the `any_bridge` listing makes its interface attachable, and changes no other's standing. -/
theorem composeBridge_attachable (t : Composed) (row : Json) (i : String) :
    (∃ v, (composeBridge repr t row).get i = some v ∧ v.attachable = true) ↔
      (∃ v, t.get i = some v ∧ v.attachable = true) ∨ (i = rowKey repr row ∧ i ≠ "") := by
  have hskip : rowKey repr row = "" → ((∃ v, t.get i = some v ∧ v.attachable = true) ↔
      (∃ v, t.get i = some v ∧ v.attachable = true) ∨ (i = rowKey repr row ∧ i ≠ "")) := by
    intro hname
    rw [hname]
    exact ⟨.inl, fun h => h.elim id fun hi => absurd hi.1 hi.2⟩
  cases row with
  | obj fields =>
    simp only [composeBridge]
    split
    · rename_i hname
      exact hskip hname
    · rename_i hname
      have hentry : ((t.get (rowKey repr (.obj fields))).getD { iface := rowKey repr (.obj fields) }).iface =
          rowKey repr (.obj fields) := by
        cases hget : t.get (rowKey repr (.obj fields)) with
        | none => rfl
        | some v => exact Table.key_of_get hget
      generalize (t.get (rowKey repr (.obj fields))).getD { iface := rowKey repr (.obj fields) } = entry at hentry
      have hkey : (bridgeValues repr entry fields).iface = rowKey repr (.obj fields) := hentry
      rw [Table.get_put, hkey]
      by_cases hi : i = rowKey repr (.obj fields)
      · rw [if_pos hi]
        exact iff_of_true ⟨_, rfl, rfl⟩ (.inr ⟨hi, fun h => hname (hi.symm.trans h)⟩)
      · rw [if_neg hi]
        exact ⟨.inl, fun h => h.elim id fun h => absurd h.1 hi⟩
  | null | bool | int | float | str | arr => exact hskip rfl

theorem composeBridges_attachable (bridges : List Json) (t : Composed) (i : String) :
    (∃ v, (bridges.foldl (composeBridge repr) t).get i = some v ∧ v.attachable = true) ↔
      (∃ v, t.get i = some v ∧ v.attachable = true) ∨ (i ∈ bridges.map (rowKey repr) ∧ i ≠ "") := by
  induction bridges generalizing t with
  | nil => simp
  | cons row bridges ih =>
    rw [List.foldl_cons, ih, composeBridge_attachable, List.map_cons, List.mem_cons, or_assoc, or_and_right]

theorem composePlain_unattachable (plain : List Json) :
    Table.All (fun v => v.attachable = false) (plain.foldl (composePlain repr) .empty) := by
  have hempty : Table.All (fun v : InterfaceValues => v.attachable = false) (.empty : Composed) := by
    intro k v h
    cases h
  refine hempty.foldl fun t row _ ht => ?_
  cases row with
  | obj fields =>
    simp only [composePlain]
    split
    · exact ht
    · exact ht.put rfl
  | null | bool | int | float | str | arr => exact ht

/-- Attachable is what the `any_bridge` listing names. -/
theorem compose_attachable (plain bridges : List Json) (i : String) :
    (∃ v, (compose repr plain bridges).get i = some v ∧ v.attachable = true) ↔
      i ∈ (bridges.map (rowKey repr)).filter (· ≠ "") := by
  rw [compose, composeBridges_attachable, List.mem_filter, decide_eq_true_eq]
  refine ⟨fun h => h.resolve_left ?_, .inr⟩
  intro hplain
  obtain ⟨v, hget, hattachable⟩ := hplain
  have hnot : v.attachable = false := composePlain_unattachable repr plain i v hget
  rw [hattachable] at hnot
  cases hnot

end

/-! ## Writes of one node's rows -/

/-- A publication leaves the node the composed rows, and every other node its own. -/
theorem get_publishInterfaces (t : Interfaces) (composed : Composed) (name : String) (generation enrollment : Nat)
    (now : Time) (k i : String) :
    (publishInterfaces t composed name generation enrollment now).get (k, i) =
      if k = name then (composed.get i).map (·.row name generation enrollment now) else t.get (k, i) := by
  have hsorted : ∀ v, v ∈ (composed.rows.insertionSort fun a b => ¬ b.iface < a.iface).reverse ↔ v ∈ composed.rows := by
    intro v
    rw [List.mem_reverse, List.mem_insertionSort]
  have hnodup : ((composed.rows.insertionSort fun a b => ¬ b.iface < a.iface).reverse.map InterfaceValues.iface).Nodup := by
    rw [List.map_reverse, List.nodup_reverse]
    exact ((List.perm_insertionSort _ composed.rows).map _).nodup_iff.mpr composed.unique
  rw [publishInterfaces, Table.get_keep, Table.get_foldl_put (InterfaceValues.row name generation enrollment now)]
  generalize (composed.rows.insertionSort fun a b => ¬ b.iface < a.iface).reverse = sorted at hsorted hnodup
  -- the rows that are kept are those of other nodes and the composed ones
  have hother : ∀ r, t.get (k, i) = some r → r.nodeName = k ∧ r.iface = i := by
    intro r h
    have hkey : r.key = (k, i) := Table.key_of_get h
    exact Prod.mk.inj hkey
  by_cases hk : k = name
  · subst hk
    rw [if_pos rfl]
    cases hget : composed.get i with
    | some v =>
      have hv : v.iface = i := Table.key_of_get hget
      have hfind : (sorted.find? fun v => decide ((v.row k generation enrollment now).key = (k, i))) = some v := by
        have hpred : (fun v : InterfaceValues => decide ((v.row k generation enrollment now).key = (k, i))) =
            fun w => decide (w.iface = v.iface) := by
          funext w
          simp [ClusterNodeInterface.key, InterfaceValues.row, hv]
        rw [hpred]
        exact Table.find?_key_of_mem hnodup ((hsorted v).mpr (Table.mem_of_get hget))
      rw [hfind, Option.map_some, Option.some_or, Option.filter_some_pos]
      simp [InterfaceValues.row, hv, hget]
    | none =>
      have hfind : (sorted.find? fun v => decide ((v.row k generation enrollment now).key = (k, i))) = none := by
        rw [List.find?_eq_none]
        intro v hv heq
        have hiface : v.iface = i := congrArg Prod.snd (of_decide_eq_true heq)
        exact Table.get_eq_none.mp hget v ((hsorted v).mp hv) hiface
      rw [hfind, Option.map_none, Option.none_or]
      cases hrow : t.get (k, i) with
      | none => rfl
      | some r =>
        obtain ⟨hnode, hiface⟩ := hother r hrow
        simp [hnode, hiface, hget]
  · rw [if_neg hk]
    have hfind : (sorted.find? fun v => decide ((v.row name generation enrollment now).key = (k, i))) = none := by
      rw [List.find?_eq_none]
      intro v _ heq
      have hname : name = k := congrArg Prod.fst (of_decide_eq_true heq)
      exact hk hname.symm
    rw [hfind, Option.map_none, Option.none_or]
    cases hrow : t.get (k, i) with
    | none => rfl
    | some r =>
      obtain ⟨hnode, -⟩ := hother r hrow
      simp [hnode, hk]

theorem get_markUnreachable_of_ne (t : Interfaces) {name k : String} (hk : k ≠ name) (i : String) :
    (markUnreachable t name).get (k, i) = t.get (k, i) := by
  rw [markUnreachable, Table.get_updateWhere]
  cases h : t.get (k, i) with
  | none => rfl
  | some r =>
    have hname : r.nodeName = k := congrArg Prod.fst (Table.key_of_get h)
    simp [hname, hk]

theorem get_demoteCoverage_of_ne (t : Coverages) {name k : String} (hk : k ≠ name) (refusal : String) (now : Time) :
    (demoteCoverage t name refusal now).get k = t.get k := by
  unfold demoteCoverage
  cases h : t.get name with
  | none => rfl
  | some c =>
    have hname : c.nodeName = name := Table.key_of_get h
    simp only
    split
    · rfl
    · rw [Table.get_put, if_neg]
      exact fun heq => hk (heq.trans hname)

/-- A demoted node is not complete. -/
theorem demoteCoverage_incomplete (t : Coverages) (name refusal : String) (now : Time) {c : NodeCoverage}
    (hc : (demoteCoverage t name refusal now).get name = some c) : c.complete = false := by
  unfold demoteCoverage at hc
  cases h : t.get name with
  | none =>
    rw [h] at hc
    simp [h] at hc
  | some c₀ =>
    have hname : c₀.nodeName = name := Table.key_of_get h
    simp only [h] at hc
    split at hc
    · rename_i hdemoted
      rw [h] at hc
      cases hc
      simp only [Bool.and_eq_true, Bool.not_eq_true'] at hdemoted
      exact hdemoted.1
    · rw [Table.get_put, if_pos hname.symm] at hc
      cases hc
      rfl

/-! ## One node's rows -/

/-- What the rows and the attempts say of one node. -/
structure NetworkFacts where
  coverage : Option NodeCoverage
  latest : Option NetworkAttempt
  rows : String → Option ClusterNodeInterface

def NetworkSys.facts (s : NetworkSys) (name : String) : NetworkFacts :=
  ⟨s.cluster.coverage.get name, s.latest name, fun i => s.cluster.interfaces.get (name, i)⟩

/-- The node's rows are the composition of the two listings the latest attempt read. -/
structure Composes (repr : Json → String) (name : String) (f : NetworkFacts) (generation : Nat) : Prop where
  published : 0 < generation
  rows : ∃ a plain bridges enrollment now, f.latest = some a ∧ a.Read plain bridges ∧
    ∀ i, f.rows i = ((compose repr plain bridges).get i).map (·.row name generation enrollment now)

/-- A complete node is published as its latest attempt read it. -/
def NetworkInv (repr : Json → String) (s : NetworkSys) : Prop :=
  ∀ name c, (s.facts name).coverage = some c → c.complete = true → Composes repr name (s.facts name) c.generation

section
variable {repr : Json → String} {s s' : NetworkSys}

/-- What is the same as before, or not complete, needs no more. -/
theorem NetworkInv.of_facts (hinv : NetworkInv repr s)
    (h : ∀ k, s'.facts k = s.facts k ∨ ∀ c, (s'.facts k).coverage = some c → c.complete = false) : NetworkInv repr s' := by
  intro k c hc hcomplete
  rcases h k with heq | hincomplete
  · rw [heq] at hc ⊢
    exact hinv k c hc hcomplete
  · rw [hincomplete c hc] at hcomplete
    cases hcomplete

/-- The attempt, if any, is on the node. -/
def OnNode (name : String) (attempt : Option NetworkAttempt) : Prop := ∀ a, attempt = some a → a.nodeName = name

theorem latest_append_of_ne {attempt : Option NetworkAttempt} {name k : String} (ha : OnNode name attempt) (hk : k ≠ name)
    (cluster : NetworkCluster) :
    (NetworkSys.mk cluster (attempt.toList ++ s.attempts)).latest k = s.latest k := by
  cases attempt with
  | none => rfl
  | some a =>
    have hname : (a.nodeName == k) = false := by
      rw [ha a rfl]
      simpa using hk.symm
    simp [NetworkSys.latest, hname]

/-- A write that leaves the node incomplete and touches no other. -/
theorem NetworkInv.incomplete (hinv : NetworkInv repr s) {name : String} {attempt : Option NetworkAttempt}
    (ha : OnNode name attempt) {cluster : NetworkCluster}
    (hcoverage : ∀ k, k ≠ name → cluster.coverage.get k = s.cluster.coverage.get k)
    (hrows : ∀ k, k ≠ name → ∀ i, cluster.interfaces.get (k, i) = s.cluster.interfaces.get (k, i))
    (hself : ∀ c, cluster.coverage.get name = some c → c.complete = false) :
    NetworkInv repr ⟨cluster, attempt.toList ++ s.attempts⟩ := by
  refine hinv.of_facts fun k => ?_
  by_cases hk : k = name
  · exact .inr (hk ▸ hself)
  · refine .inl ?_
    rw [NetworkSys.facts, NetworkSys.facts, hcoverage k hk, latest_append_of_ne ha hk]
    congr 1
    funext i
    exact hrows k hk i

theorem NetworkInv.demote (hinv : NetworkInv repr s) (name refusal : String) (now : Time) :
    NetworkInv repr { s with
      cluster := { s.cluster with coverage := demoteCoverage s.cluster.coverage name refusal now } } := by
  have hnone : OnNode name none := fun a h => by cases h
  refine hinv.incomplete hnone (fun k hk => get_demoteCoverage_of_ne _ hk refusal now) (fun _ _ _ => rfl) fun c hc => ?_
  exact demoteCoverage_incomplete _ name refusal now hc

theorem NetworkInv.demoteUnlessRetired (hinv : NetworkInv repr s) (name refusal : String) (now : Time) :
    NetworkInv repr { s with
      cluster := { s.cluster with coverage := Nodes.demoteUnlessRetired s.cluster.coverage name refusal now } } := by
  unfold Nodes.demoteUnlessRetired
  split
  · exact hinv
  · exact hinv.demote name refusal now

/-- An attempt that fails, with or without the node's rows turning unknown. -/
theorem NetworkInv.record (hinv : NetworkInv repr s) {name : String} {attempt : Option NetworkAttempt}
    (ha : OnNode name attempt) {interfaces : Interfaces}
    (hrows : ∀ k, k ≠ name → ∀ i, interfaces.get (k, i) = s.cluster.interfaces.get (k, i)) (now : Time) (code : String)
    (basedOn : Nat) :
    NetworkInv repr ⟨{ s.cluster with
      interfaces := interfaces
      coverage := recordAttempt s.cluster.coverage name now code basedOn }, attempt.toList ++ s.attempts⟩ := by
  refine hinv.incomplete ha (fun k hk => ?_) hrows fun c hc => ?_
  · rw [get_recordAttempt, if_neg hk]
  · rw [get_recordAttempt, if_pos rfl] at hc
    cases hc
    rfl

/-- A publication. -/
theorem NetworkInv.publish (hinv : NetworkInv repr s) {name : String} {a : NetworkAttempt} {plain bridges : List Json}
    (hname : a.nodeName = name) (hread : a.Read plain bridges) (now : Time) (held enrollment basedOn : Nat) :
    NetworkInv repr ⟨{ s.cluster with
      interfaces := publishInterfaces s.cluster.interfaces (compose repr plain bridges) name (held + 1) enrollment now
      coverage := recordPublication s.cluster.coverage name now (held + 1) basedOn }, a :: s.attempts⟩ := by
  have hrow : ((coverageFor s.cluster.coverage name basedOn).published now (held + 1) basedOn).nodeName = name :=
    coverageFor_nodeName ..
  have ha : OnNode name (some a) := fun a' h => Option.some.inj h ▸ hname
  intro k c hc hcomplete
  by_cases hk : k = name
  · subst hk
    simp only [NetworkSys.facts, recordPublication, Table.get_put, hrow, if_true] at hc
    cases hc
    refine ⟨Nat.succ_pos held, a, plain, bridges, enrollment, now, ?_, hread, fun i => ?_⟩
    · simp [NetworkSys.facts, NetworkSys.latest, hname]
    · simp only [NetworkSys.facts, get_publishInterfaces, if_true]
      rfl
  · have hfacts : (NetworkSys.mk { s.cluster with
        interfaces := publishInterfaces s.cluster.interfaces (compose repr plain bridges) name (held + 1) enrollment now
        coverage := recordPublication s.cluster.coverage name now (held + 1) basedOn } (a :: s.attempts)).facts k =
          s.facts k := by
      have hlatest := latest_append_of_ne (s := s) ha hk s.cluster
      simp only [NetworkSys.facts, recordPublication, Table.get_put, hrow, get_publishInterfaces, if_neg hk]
      exact congrArg (NetworkFacts.mk _ · _) hlatest
    rw [hfacts] at hc ⊢
    exact hinv k c hc hcomplete

/-! ## Steps -/

/-- A visit whose listings can be saved keeps the rows right. -/
theorem networkVisit_inv (hinv : NetworkInv repr s) (now : Time) (name : String) {answers : List (String × NetworkAnswer)}
    (hanswers : Storable repr answers) (h : SweepEndpointHealth) :
    NetworkInv repr (networkVisit repr s now name answers h).1 := by
  have hread : ∀ plain bridges, (visitNetwork s.cluster name answers h).1 = .read plain bridges →
      NetworkAttempt.Read ⟨name, answers, some (plain, bridges)⟩ plain bridges :=
    fun plain bridges hvisit => ⟨rfl, visitNetwork_read hvisit⟩
  unfold networkVisit refreshOneNodeNetwork
  generalize visitNetwork s.cluster name answers h = visit at hread
  obtain ⟨visit, h'⟩ := visit
  have hnode : ∀ listings, OnNode name (some ⟨name, answers, listings⟩) := fun _ a ha => by cases ha; rfl
  cases visit with
  | refused code => exact hinv.demoteUnlessRetired name code now
  | notAMember => exact hinv
  | unread code =>
    exact hinv.record (hnode none) (fun k hk i => get_markUnreachable_of_ne s.cluster.interfaces hk i) now code _
  | failed code => exact hinv.record (hnode none) (fun _ _ _ => rfl) now code _
  | read plain bridges =>
    have hlistings := hread plain bridges rfl
    obtain ⟨e, answer, hanswer, hplain, hbridges⟩ := hlistings.endpoint
    dsimp only [writeNetwork]
    rw [if_pos (hanswers e answer plain bridges hanswer hplain hbridges)]
    exact hinv.publish rfl hlistings now _ _ _

theorem demoteAll_inv (hinv : NetworkInv repr s) (refusal : String) (now : Time) (names : List String) :
    NetworkInv repr { s with cluster := { s.cluster with
      coverage := names.foldl (fun t name => demoteUnlessRetired t name refusal now) s.cluster.coverage } } :=
  List.foldlRecOn names _
    (motive := fun t => NetworkInv repr { s with cluster := { s.cluster with coverage := t } }) hinv
    fun _ ht name _ => ht.demoteUnlessRetired name refusal now

theorem openNetworkSweep_inv (hinv : NetworkInv repr s) (hasEndpoint : Bool) (now : Time) :
    NetworkInv repr { s with cluster := (openNetworkSweep s.cluster hasEndpoint now).1 } := by
  unfold openNetworkSweep
  split
  · exact hinv
  · exact demoteAll_inv hinv _ now _

theorem retractDeparted_foldl_inv (hinv : NetworkInv repr s) (now : Time) (names : List String) :
    NetworkInv repr { s with cluster := names.foldl (retractDeparted now) s.cluster } := by
  refine List.foldlRecOn names (retractDeparted now)
    (motive := fun cluster => NetworkInv repr { s with cluster := cluster }) hinv ?_
  intro cluster hcluster name _
  have hnone : OnNode name none := fun a h => by cases h
  exact hcluster.record hnone (fun k hk i => get_markUnreachable_of_ne cluster.interfaces hk i) now errorNodeAbsent _

theorem retractDepartedNodes_inv (hinv : NetworkInv repr s) (now : Time) :
    NetworkInv repr { s with cluster := (retractDepartedNodes s.cluster now).1 } := by
  unfold retractDepartedNodes
  split
  · exact hinv
  · exact retractDeparted_foldl_inv hinv now _

theorem networkMove_inv {l : NetworkLabel} (h : SweepSpec.Move (networkSweep repr) networkOther l s s')
    (hl : l.Answered (Storable repr)) (hinv : NetworkInv repr s) : NetworkInv repr s' := by
  cases h with
  | other h =>
    rename_i x
    cases x with
    | membership a =>
      cases h
      exact hinv
    | enroll enrollment =>
      cases h
      exact hinv
  | visit _ now name health ha => exact networkVisit_inv hinv now name (ha hl) health
  | start _ hasEndpoint now => exact openNetworkSweep_inv hinv hasEndpoint now
  | finish i _ now => exact retractDepartedNodes_inv hinv now

end

/-! ## What is read -/

theorem network_current {s : NetworkCluster} {name : String} (h : (s.network name).status = .current) :
    ∃ c, s.coverage.get name = some c ∧ c.complete = true ∧ (s.network name).interfaces =
      (s.interfaces.rows.filter fun r => r.nodeName == name).map fun r =>
        ⟨r, c.generation != 0 && r.observedGeneration == c.generation⟩ := by
  unfold NetworkCluster.network nodeNetworkRead at h ⊢
  cases hpublished : s.enrollment.publishes name with
  | false => simp [hpublished] at h
  | true =>
    simp only [hpublished, Bool.not_true, Bool.false_eq_true, if_false] at h ⊢
    cases hc : s.coverage.get name with
    | none => simp [hc] at h
    | some c =>
      cases hcomplete : c.complete with
      | false => simp [hc, hcomplete] at h
      | true => exact ⟨c, rfl, hcomplete, rfl⟩

/-- The interfaces of one node have names of their own. -/
theorem ifaces_nodup (t : Interfaces) (name : String) (p : ClusterNodeInterface → Bool) :
    (((t.rows.filter fun r => r.nodeName == name).filter p).map (·.iface)).Nodup := by
  have hkeys : (((t.rows.filter fun r => r.nodeName == name).filter p).map ClusterNodeInterface.key).Nodup :=
    t.unique.sublist ((List.filter_sublist.trans List.filter_sublist).map _)
  refine List.Nodup.map_on (fun x hx y hy heq => ?_) (List.Nodup.of_map _ hkeys)
  have hnode : ∀ z ∈ (t.rows.filter fun r => r.nodeName == name).filter p, z.nodeName = name := by
    intro z hz
    simpa using (List.mem_filter.mp (List.mem_filter.mp hz).1).2
  have hkey : x.key = y.key := by
    rw [ClusterNodeInterface.key, ClusterNodeInterface.key, hnode x hx, hnode y hy, heq]
  exact List.inj_on_of_nodup_map hkeys hx hy hkey

/-- The bridges of a node whose rows are composed of two listings. -/
theorem attachableBridges_of_composed {repr : Json → String} {s : NetworkCluster} {name : String} {c : NodeCoverage}
    {plain bridges : List Json} {enrollment : Nat} {now : Time} (hstatus : (s.network name).status = .current)
    (hinterfaces : (s.network name).interfaces = (s.interfaces.rows.filter fun r => r.nodeName == name).map fun r =>
      ⟨r, c.generation != 0 && r.observedGeneration == c.generation⟩) (hpublished : 0 < c.generation)
    (hrows : ∀ i, s.interfaces.get (name, i) =
      ((compose repr plain bridges).get i).map (·.row name c.generation enrollment now)) :
    (s.network name).attachableBridges = sortedSet ((bridges.map (rowKey repr)).filter (· ≠ "")) := by
  let offered : ClusterNodeInterface → Bool := fun r =>
    r.attachable && r.present && !r.unreachable && (c.generation != 0 && r.observedGeneration == c.generation)
  let names := ((s.interfaces.rows.filter fun r => r.nodeName == name).filter offered).map (·.iface)
  have hsorted : (s.network name).attachableBridges = names.insertionSort fun a b => ¬ b < a := by
    rw [NodeNetworkRead.attachableBridges, if_neg (by simp [hstatus]), hinterfaces, List.filter_map, List.map_map]
    rfl
  have hdedup : names.dedup = names := (ifaces_nodup s.interfaces name offered).dedup
  have hset : (names.insertionSort fun a b => ¬ b < a) = sortedSet names := by rw [sortedSet, hdedup]
  rw [hsorted, hset, sortedSet_eq_iff]
  intro i
  rw [← compose_attachable repr plain bridges i]
  have hoffered : ∀ v, offered (InterfaceValues.row name c.generation enrollment now v) = v.attachable := by
    intro v
    simp [offered, InterfaceValues.row, Nat.pos_iff_ne_zero.mp hpublished]
  constructor
  · intro hi
    obtain ⟨r, hr, rfl⟩ := List.mem_map.mp hi
    obtain ⟨hr, hoffer⟩ := List.mem_filter.mp hr
    obtain ⟨hr, hname⟩ := List.mem_filter.mp hr
    have hget : s.interfaces.get (name, r.iface) = some r := by
      have hkey := Table.get_of_mem hr
      rwa [ClusterNodeInterface.key, beq_iff_eq.mp hname] at hkey
    rw [hrows, Option.map_eq_some_iff] at hget
    obtain ⟨v, hv, hrow⟩ := hget
    exact ⟨v, hv, by rw [← hoffered v, hrow, hoffer]⟩
  · intro h
    obtain ⟨v, hv, hattachable⟩ := h
    have hget := hrows i
    rw [hv, Option.map_some] at hget
    have hi : v.iface = i := Table.key_of_get hv
    refine List.mem_map.mpr ⟨v.row name c.generation enrollment now, List.mem_filter.mpr ⟨?_, ?_⟩, hi⟩
    · exact List.mem_filter.mpr ⟨Table.mem_of_get hget, beq_self_eq_true name⟩
    · rw [hoffered, hattachable]

/-- **Attachable bridges are the provider's answer.** Through every interleaving of
membership refreshes, enrollment changes, single refreshes and sweeps in which no listing
holds a text that the database refuses, the bridges of a node that is current are the names in the `any_bridge` listing of the latest attempt on
it, and its rows compose that listing with the plain one of the same endpoint; a node
that is not current offers none. -/
theorem attachableBridges_exact (repr : Json → String) {s₀ s : NetworkState} (h₀ : s₀.state.cluster.coverage = .empty)
    {ls : List NetworkLabel} (hls : ∀ l ∈ ls, l.Answered (Storable repr))
    (hr : run (networkStep repr) s₀ ls = some s) (name : String) :
    ((s.state.cluster.network name).status = .current → ∃ a plain bridges, s.state.latest name = some a ∧
      a.Read plain bridges ∧
      (∀ i, (s.state.cluster.interfaces.get (name, i)).map (·.toInterfaceValues) = (compose repr plain bridges).get i) ∧
      (s.state.cluster.network name).attachableBridges = sortedSet ((bridges.map (rowKey repr)).filter (· ≠ ""))) ∧
    ((s.state.cluster.network name).status ≠ .current → (s.state.cluster.network name).attachableBridges = []) := by
  refine ⟨fun hstatus => ?_, fun hstatus => by rw [NodeNetworkRead.attachableBridges, if_pos hstatus]⟩
  have hinit : NetworkInv repr s₀.state := by
    intro k c hc
    rw [NetworkSys.facts, h₀] at hc
    cases hc
  have hlabels : Along (networkStep repr) (fun _ l _ => l.Answered (Storable repr)) s₀ ls :=
    along_of_forall fun ls₁ l ls₂ _ _ he _ _ => hls l (by rw [he]; simp)
  have hinv : NetworkInv repr s.state :=
    run_inv_along (I := fun s : NetworkState => NetworkInv repr s.state)
      (fun hi hst hl => networkMove_inv (SweepSpec.step_move hst) hl hi) hinit hlabels hr
  obtain ⟨c, hc, hcomplete, hinterfaces⟩ := network_current hstatus
  obtain ⟨hpublished, a, plain, bridges, enrollment, now, hlatest, hread, hrows⟩ := hinv name c hc hcomplete
  have hrows : ∀ i, s.state.cluster.interfaces.get (name, i) =
      ((compose repr plain bridges).get i).map (·.row name c.generation enrollment now) := hrows
  refine ⟨a, plain, bridges, hlatest, hread, fun i => ?_, ?_⟩
  · rw [hrows, Option.map_map]
    exact Option.map_id'
  · exact attachableBridges_of_composed hstatus hinterfaces hpublished hrows

/-- A cluster just added, whose enrollment does not filter. -/
def addedNetwork : NetworkState := ⟨⟨⟨addedCluster.scope, ⟨0, 0, [], []⟩, .empty, .empty⟩, []⟩, []⟩

/-- A listing of interfaces by name. -/
def listing (names : List String) : Answer Json := .ok (.arr (names.map fun name => .obj [("iface", .str name)]))

/-- One node found and read. -/
def networkReadOnce : List NetworkLabel :=
  [.other (.membership (.refresh [("a", .body standaloneStatus)] 1)),
    .single 2 "pve1" [("a", ⟨listing ["eno1", "vmbr0"], listing ["vmbr1", "vmbr0", "", "vmbr1"]⟩)]]

theorem networkReadOnce_storable : ∀ l ∈ networkReadOnce, l.Answered (Storable Json.dumps) := by
  intro l hl
  simp only [networkReadOnce, List.mem_cons, List.not_mem_nil, or_false] at hl
  rcases hl with rfl | rfl
  · trivial
  · intro e answer plain bridges hmem hplain hbridges
    obtain ⟨-, rfl⟩ := Prod.mk.inj (List.mem_singleton.mp hmem)
    obtain rfl := Json.arr.inj (Except.ok.inj hplain)
    obtain rfl := Json.arr.inj (Except.ok.inj hbridges)
    decide +kernel

theorem attachableBridges_read : ∃ s a plain bridges, run (networkStep Json.dumps) addedNetwork networkReadOnce = some s ∧
    (s.state.cluster.network "pve1").attachableBridges = ["vmbr0", "vmbr1"] ∧ s.state.latest "pve1" = some a ∧
      a.Read plain bridges := by
  obtain ⟨s, hs⟩ : ∃ s, run (networkStep Json.dumps) addedNetwork networkReadOnce = some s :=
    Option.isSome_iff_exists.mp (by decide +kernel)
  have hread : (run (networkStep Json.dumps) addedNetwork networkReadOnce).all (fun s =>
      decide ((s.state.cluster.network "pve1").status = .current) &&
        decide ((s.state.cluster.network "pve1").attachableBridges = ["vmbr0", "vmbr1"])) = true := by decide +kernel
  rw [hs, Option.all_some, Bool.and_eq_true, decide_eq_true_eq, decide_eq_true_eq] at hread
  obtain ⟨a, plain, bridges, hlatest, ha, -, -⟩ := (attachableBridges_exact Json.dumps rfl networkReadOnce_storable hs "pve1").1 hread.1
  exact ⟨s, a, plain, bridges, hs, hread.2, hlatest, ha⟩

/-- A second read, in which the comment on the one bridge there is now holds a NUL. -/
def unsavedAnswer : NetworkAnswer :=
  ⟨listing ["eno1", "vmbr9"], .ok (.arr [.obj [("iface", .str "vmbr9"), ("comments", .str "a\x00")]])⟩

/-- The bridges of the first read stay attachable after an attempt that raised. -/
theorem refusedText_leaves_bridges : ∃ s a plain bridges,
    run (networkStep Json.dumps) addedNetwork (networkReadOnce ++ [.single 3 "pve1" [("a", unsavedAnswer)]]) = some s ∧
      (s.state.cluster.network "pve1").status = .current ∧ s.state.latest "pve1" = some a ∧ a.Read plain bridges ∧
        (s.state.cluster.network "pve1").attachableBridges ≠
          sortedSet ((bridges.map (rowKey Json.dumps)).filter (· ≠ "")) := by
  refine ⟨_, _, _, _, rfl, by decide +kernel, rfl, ⟨rfl, "a", unsavedAnswer, List.mem_singleton.mpr rfl, rfl, rfl⟩, ?_⟩
  decide +kernel

/-! ## Refused sweeps -/

/-- The named nodes are incomplete, and the others as they were. -/
def Demoted (names : List String) (t t' : Coverages) : Prop :=
  ∀ k, (k ∈ names → ∀ c, t'.get k = some c → c.complete = false) ∧ (k ∉ names → t'.get k = t.get k)

theorem Demoted.cons {names : List String} {t t' : Coverages} (name refusal : String) (now : Time)
    (h : Demoted names (demoteCoverage t name refusal now) t') : Demoted (name :: names) t t' := by
  intro k
  obtain ⟨hin, hout⟩ := h k
  refine ⟨fun hk c hc => ?_, fun hk => ?_⟩
  · by_cases hk' : k ∈ names
    · exact hin hk' c hc
    · have hname : k = name := (List.mem_cons.mp hk).resolve_right hk'
      subst hname
      rw [hout hk'] at hc
      exact demoteCoverage_incomplete t k refusal now hc
  · obtain ⟨hne, hk'⟩ := not_or.mp (List.mem_cons.not.mp hk)
    rw [hout hk', get_demoteCoverage_of_ne t hne]

theorem demoteAll_demoted {refusal : String} (hrefusal : refusal ≠ "acquisition_retired") (now : Time) (names : List String)
    (t : Coverages) : Demoted names t (names.foldl (fun t name => demoteUnlessRetired t name refusal now) t) := by
  induction names generalizing t with
  | nil => exact fun k => ⟨fun h => absurd h List.not_mem_nil, fun _ => rfl⟩
  | cons name names ih =>
    refine Demoted.cons name refusal now ?_
    rw [List.foldl_cons, demoteUnlessRetired, if_neg hrefusal]
    exact ih _

/-- Only a retired cluster is refused as retired. -/
theorem clusterGate_refusal {s : Scope} (hretired : s.retired = false) {hasEndpoint : Bool} {refusal : String}
    (h : clusterGate s hasEndpoint = .error refusal) : refusal ≠ "acquisition_retired" := by
  unfold clusterGate acquisitionRefusal at h
  cases henabled : s.enabled with
  | false =>
    simp only [hretired, henabled, Bool.false_eq_true, if_false, Bool.not_false, if_true] at h
    cases h
    decide
  | true =>
    cases hquarantined : s.ingestionQuarantined with
    | true =>
      simp only [hretired, henabled, hquarantined, Bool.false_eq_true, if_false, Bool.not_true, if_true] at h
      cases h
      decide
    | false =>
      simp only [hretired, henabled, hquarantined, Bool.false_eq_true, if_false, Bool.not_true] at h
      repeat' split at h
      all_goals first | (cases h; done) | (cases h; decide)

/-- Under a pending transition every visit is refused, and demotes. -/
theorem networkVisit_pending (repr : Json → String) {s : NetworkSys} (hretired : s.cluster.scope.retired = false)
    (hpending : s.cluster.scope.row.transitionPending = true) (now : Time) (name : String)
    (answers : List (String × NetworkAnswer)) (h : SweepEndpointHealth) :
    ∃ refusal, networkVisit repr s now name answers h = ({ s with
      cluster := { s.cluster with coverage := demoteCoverage s.cluster.coverage name refusal now } }, h, true) := by
  have hvisit : ∃ refusal, refusal ≠ "acquisition_retired" ∧ visitNetwork s.cluster name answers h = (.refused refusal, h) := by
    unfold visitNetwork
    cases hgate : clusterGate s.cluster.scope (!answers.isEmpty) with
    | error refusal => exact ⟨refusal, clusterGate_refusal hretired hgate, rfl⟩
    | ok membershipComplete =>
      simp only [hpending, if_true]
      exact ⟨errorTransitionPending, by decide, rfl⟩
  obtain ⟨refusal, hrefusal, hvisit⟩ := hvisit
  refine ⟨refusal, ?_⟩
  simp only [networkVisit, refreshOneNodeNetwork, hvisit, writeNetwork, demoteUnlessRetired, if_neg hrefusal]
  rfl

theorem visitAll_pending (repr : Json → String) {s : NetworkSys} (hretired : s.cluster.scope.retired = false)
    (hpending : s.cluster.scope.row.transitionPending = true) (now : Time)
    (answers : String → List (String × NetworkAnswer)) (h : SweepEndpointHealth) (names : List String) :
    ∃ s', (networkSweep repr).visitAll now answers s h names = some s' ∧ s'.cluster.scope = s.cluster.scope ∧
      Demoted names s.cluster.coverage s'.cluster.coverage := by
  induction names generalizing s with
  | nil => exact ⟨s, rfl, rfl, fun k => ⟨fun h => absurd h List.not_mem_nil, fun _ => rfl⟩⟩
  | cons name names ih =>
    obtain ⟨refusal, hvisit⟩ := networkVisit_pending repr hretired hpending now name (answers name) h
    have hvisit : (networkSweep repr).visit s now name (answers name) h = _ := hvisit
    obtain ⟨s', hall, hscope, hdemoted⟩ := ih (s := { s with
      cluster := { s.cluster with coverage := demoteCoverage s.cluster.coverage name refusal now } }) hretired hpending
    refine ⟨s', ?_, hscope, hdemoted.cons name refusal now⟩
    rw [SweepSpec.visitAll, hvisit]
    exact hall

theorem mem_presentNames {s : Scope} {k : String} :
    k ∈ presentNames s ↔ ∃ row, s.nodes.get k = some row ∧ row.present = true := by
  simp only [presentNames, List.mem_insertionSort, List.mem_map, List.mem_filter]
  constructor
  · intro h
    obtain ⟨row, ⟨hrow, hpresent⟩, rfl⟩ := h
    exact ⟨row, Table.get_of_mem hrow, hpresent⟩
  · intro h
    obtain ⟨row, hrow, hpresent⟩ := h
    exact ⟨row, ⟨Table.mem_of_get hrow, hpresent⟩, Table.key_of_get hrow⟩

/-- A sweep that is refused, or meets the pending transition at each node, demotes the
members. -/
theorem refusedSweep_demoted (repr : Json → String) {s : NetworkSys} (hretired : s.cluster.scope.retired = false)
    {hasEndpoint : Bool} (hrefused : (∃ refusal, clusterGate s.cluster.scope hasEndpoint = .error refusal) ∨
      s.cluster.scope.row.transitionPending = true) (now : Time) (answers : String → List (String × NetworkAnswer)) :
    ∃ s', (networkSweep repr).alone s hasEndpoint now answers = some s' ∧
      Demoted (presentNames s.cluster.scope) s.cluster.coverage s'.cluster.coverage := by
  cases hgate : clusterGate s.cluster.scope hasEndpoint with
  | error refusal =>
    have hopen : openNetworkSweep s.cluster hasEndpoint now = ({ s.cluster with
        coverage := (presentNames s.cluster.scope).foldl (fun t name => demoteUnlessRetired t name refusal now)
          s.cluster.coverage }, none) := by rw [openNetworkSweep, hgate]
    refine ⟨{ s with cluster := (openNetworkSweep s.cluster hasEndpoint now).1 }, ?_, ?_⟩
    · simp only [SweepSpec.alone, networkSweep, hopen]
    · rw [hopen]
      exact demoteAll_demoted (clusterGate_refusal hretired hgate) now _ _
  | ok membershipComplete =>
    have hpending : s.cluster.scope.row.transitionPending = true := by
      rcases hrefused with ⟨refusal, h⟩ | h
      · rw [hgate] at h
        cases h
      · exact h
    obtain ⟨s', hall, hscope, hdemoted⟩ :=
      visitAll_pending repr hretired hpending now answers {} (presentNames s.cluster.scope)
    have hfinish : (retractDepartedNodes s'.cluster now).1 = s'.cluster := by
      rw [retractDepartedNodes, if_pos]
      rw [departureRefused, hscope, hpending, Bool.or_true]
    have hopen : openNetworkSweep s.cluster hasEndpoint now = (s.cluster, some (presentNames s.cluster.scope)) := by
      rw [openNetworkSweep, hgate]
    have hstart : (networkSweep repr).start s hasEndpoint now = (s, some (presentNames s.cluster.scope)) := by
      simp only [networkSweep, hopen]
    refine ⟨s', ?_, hdemoted⟩
    have hend : (networkSweep repr).finish s' now = s' := by
      simp only [networkSweep, hfinish]
    rw [SweepSpec.alone, hstart]
    simp only
    rw [show (networkSweep repr).fresh = {} from rfl, hall, Option.map_some, hend]

/-- **A refused sweep demotes exactly the members.** No coverage row is complete after a
refresh of all nodes that is refused, or that runs under a pending transition, exactly
when every complete row was one of a node that is still a member. -/
theorem refusedSweep_demotes_iff (repr : Json → String) {s : NetworkSys} (hretired : s.cluster.scope.retired = false)
    {hasEndpoint : Bool} (hrefused : (∃ refusal, clusterGate s.cluster.scope hasEndpoint = .error refusal) ∨
      s.cluster.scope.row.transitionPending = true) (now : Time) (answers : String → List (String × NetworkAnswer)) :
    ∃ s', (networkSweep repr).alone s hasEndpoint now answers = some s' ∧
      ((∀ name c, s'.cluster.coverage.get name = some c → c.complete = false) ↔
        ∀ name c, s.cluster.coverage.get name = some c → c.complete = true →
          ∃ row, s.cluster.scope.nodes.get name = some row ∧ row.present = true) := by
  obtain ⟨s', halone, hdemoted⟩ := refusedSweep_demoted repr hretired hrefused now answers
  refine ⟨s', halone, fun h name c hc hcomplete => ?_, fun h name c hc => ?_⟩
  · rw [← mem_presentNames]
    by_contra hout
    have hkept : s'.cluster.coverage.get name = some c := ((hdemoted name).2 hout).trans hc
    rw [h name c hkept] at hcomplete
    cases hcomplete
  · by_cases hin : name ∈ presentNames s.cluster.scope
    · exact (hdemoted name).1 hin c hc
    · rw [(hdemoted name).2 hin] at hc
      cases hcomplete : c.complete with
      | false => rfl
      | true => exact absurd (mem_presentNames.mpr (h name c hc hcomplete)) hin

/-- The `cluster/status` body of a cluster whose nodes are up, asked of `pve1`. -/
def upStatus (names : List String) : Json :=
  .arr (.obj [("type", .str "cluster"), ("nodes", .int names.length), ("quorate", .int 1)] :: names.map fun name =>
    .obj [("type", .str "node"), ("name", .str name), ("nodeid", .int 1), ("online", .int 1),
      ("local", .int (if name = "pve1" then 1 else 0))])

/-- `pve2` is read, and the connection is then disabled. -/
def disabledAfterRead : List NetworkLabel :=
  [.other (.membership (.refresh [("a", .body (upStatus ["pve1", "pve2"]))] 1)),
    .single 2 "pve2" [("a", ⟨listing ["vmbr0"], listing ["vmbr0"]⟩)], .other (.membership (.flags false false false))]

theorem refusedSweep_demotes_read : ∃ s s', run (networkStep Json.dumps) addedNetwork disabledAfterRead = some s ∧
    (networkSweep Json.dumps).alone s.state true 3 (fun _ => []) = some s' ∧
      ∀ name c, s'.cluster.coverage.get name = some c → c.complete = false := by
  obtain ⟨s, hs⟩ : ∃ s, run (networkStep Json.dumps) addedNetwork disabledAfterRead = some s :=
    Option.isSome_iff_exists.mp (by decide +kernel)
  have hstate : (run (networkStep Json.dumps) addedNetwork disabledAfterRead).all (fun s =>
      decide (s.state.cluster.scope.retired = false) && (clusterGate s.state.cluster.scope true).toOption.isNone &&
        s.state.cluster.coverage.rows.all fun c =>
          (s.state.cluster.scope.nodes.get c.nodeName).any (·.present)) = true := by decide +kernel
  rw [hs, Option.all_some, Bool.and_eq_true, Bool.and_eq_true, decide_eq_true_eq, List.all_eq_true] at hstate
  obtain ⟨⟨hretired, hgate⟩, hpresent⟩ := hstate
  have hrefused : ∃ refusal, clusterGate s.state.cluster.scope true = .error refusal := by
    cases hgate' : clusterGate s.state.cluster.scope true with
    | error refusal => exact ⟨refusal, rfl⟩
    | ok complete => simp [hgate', Except.toOption] at hgate
  obtain ⟨s', halone, hiff⟩ := refusedSweep_demotes_iff Json.dumps hretired (.inl hrefused) 3 fun _ => []
  refine ⟨s, s', hs, halone, hiff.mpr fun name c hc _ => ?_⟩
  have hrow := hpresent c (Table.mem_of_get hc)
  have hname : c.nodeName = name := Table.key_of_get hc
  rw [hname] at hrow
  cases hget : s.state.cluster.scope.nodes.get name with
  | none => simp [hget] at hrow
  | some row => exact ⟨row, rfl, by simpa [hget] using hrow⟩

/-- `pve2` is read and leaves; the connection is then disabled. -/
def disabledAfterDeparture : List NetworkLabel :=
  [.other (.membership (.refresh [("a", .body (upStatus ["pve1", "pve2"]))] 1)),
    .single 2 "pve2" [("a", ⟨listing ["vmbr0"], listing ["vmbr0"]⟩)],
    .other (.membership (.refresh [("a", .body (upStatus ["pve1"]))] 3)), .other (.membership (.flags false false false))]

/-- Its interfaces stay complete, and its bridge attachable. -/
theorem departed_stays_complete : ∃ s s' c, run (networkStep Json.dumps) addedNetwork disabledAfterDeparture = some s ∧
    s.state.cluster.scope.retired = false ∧ clusterGate s.state.cluster.scope true = .error "acquisition_disabled" ∧
      (networkSweep Json.dumps).alone s.state true 4 (fun _ => []) = some s' ∧
        s'.cluster.coverage.get "pve2" = some c ∧ c.complete = true ∧
          (s'.cluster.network "pve2").attachableBridges = ["vmbr0"] := by
  refine ⟨_, _, _, rfl, by decide +kernel, by decide +kernel, rfl, rfl, by decide +kernel, by decide +kernel⟩

end PveHelper.Nodes
