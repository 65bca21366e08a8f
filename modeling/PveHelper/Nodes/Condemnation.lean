/-
Which endpoints a sweep condemns, and on what evidence. A rejected credential
and a request that was never sent prove that an endpoint is of no use; a failure
that may be the node's own is ambiguous, counts only the second time in a row,
and is meant never to end the sweep. `record_ambiguous` is told how many
endpoints were usable when the reading of the node began, so several endpoints
that fail for one node can condemn each other, the last one included.
-/
import PveHelper.Nodes.Networks

namespace PveHelper.Nodes

open Lib PveHelper.Topology

/-- The failure is the endpoint's for certain: its credential is rejected, or it was not reached. -/
def NodeReadError.proven : NodeReadError → Bool
  | .invalidResponse => false
  | .transport _ requestSent => !requestSent
  | .api statusCode causeStatus => unauthorizedStatus statusCode || unauthorizedStatus causeStatus

/-- The request may have been delivered, so the failure may be the node's. -/
def NodeReadError.ambiguous : NodeReadError → Bool
  | .transport _ requestSent => requestSent
  | _ => false

/-- One endpoint condemned: by which failure, and what the sweep knew just before. -/
structure Condemnation where
  endpoint : String
  error : NodeReadError
  before : SweepEndpointHealth

section
variable {β : Type}

/-- How the endpoint's answer fails, if it does. -/
def failureOf (answers : String → Answer β) (name : String) : Option NodeReadError :=
  match answers name with
  | .error e => some e
  | .ok _ => none

/-- The condemnations of `askUsable`, in order. -/
def condemnations (usableCount : Nat) : List (String × Answer β) → SweepEndpointHealth → List Condemnation
  | [], _ => []
  | (_, .ok _) :: _, _ => []
  | (name, .error e) :: rest, h =>
    let h' := h.afterFailure name usableCount e
    (if h'.isCondemned name && !h.isCondemned name then [⟨name, e, h⟩] else []) ++ condemnations usableCount rest h'

/-- The condemnations of `readUsable`. -/
def readCondemnations (endpoints : List (String × Answer β)) (h : SweepEndpointHealth) : List Condemnation :=
  let usable := endpoints.filter fun e => !h.isCondemned e.1
  condemnations usable.length usable h

end

/-- The reading of one node in a sweep, with what each endpoint answers. -/
inductive SweepRead
  | status (answers : String → Answer Json)
  | interfaces (answers : String → NetworkAnswer)

def SweepRead.failure : SweepRead → String → Option NodeReadError
  | .status answers => failureOf answers
  | .interfaces answers => failureOf fun n => (answers n).both

section
variable (names : List String)

/-- What the sweep knows of its endpoints after the node. -/
def SweepRead.health (r : SweepRead) (h : SweepEndpointHealth) : SweepEndpointHealth :=
  match r with
  | .status answers => (readNodeStatus (names.map fun n => (n, answers n)) h).2
  | .interfaces answers => (readInterfaces (names.map fun n => (n, answers n)) h).2

def SweepRead.condemned (r : SweepRead) (h : SweepEndpointHealth) : List Condemnation :=
  match r with
  | .status answers => readCondemnations (names.map fun n => (n, answers n)) h
  | .interfaces answers => readCondemnations (names.map fun n => (n, (answers n).both)) h

/-- One `SweepEndpointHealth` over the nodes of a sweep. -/
def sweepHealth (reads : List SweepRead) (h : SweepEndpointHealth) : SweepEndpointHealth :=
  reads.foldl (fun h r => r.health names h) h

def sweepCondemnations : List SweepRead → SweepEndpointHealth → List Condemnation
  | [], _ => []
  | r :: reads, h => r.condemned names h ++ sweepCondemnations reads (r.health names h)

/-- Ambiguity condemns an endpoint only while another of the sweep is not condemned. -/
def Condemnation.Spares (c : Condemnation) : Prop :=
  c.error.ambiguous = true → ∃ other ∈ names, other ≠ c.endpoint ∧ c.before.isCondemned other = false

/-- Ambiguity does not end the sweep. -/
structure AmbiguityContinues (reads : List SweepRead) : Prop where
  spares : ∀ c ∈ sweepCondemnations names reads {}, c.Spares names
  proven : names ≠ [] → (∀ n ∈ names, (sweepHealth names reads {}).isCondemned n = true) →
    ∃ c, (sweepCondemnations names reads {}).getLast? = some c ∧ c.error.proven = true

end

/-! ## One failure -/

/-- The failure condemns its endpoint. -/
def SweepEndpointHealth.condemns (h : SweepEndpointHealth) (usableCount : Nat) (name : String) (e : NodeReadError) : Bool :=
  e.proven || (e.ambiguous && decide (1 ≤ h.ambiguous name) && decide (1 < usableCount))

section
variable {h : SweepEndpointHealth} {name : String} {usableCount : Nat} {e : NodeReadError}

theorem isCondemned_condemn (n : String) : (h.condemn name).isCondemned n = (n == name || h.isCondemned n) := by
  rw [SweepEndpointHealth.condemn, SweepEndpointHealth.isCondemned, List.contains_cons]
  rfl

theorem isCondemned_afterFailure (n : String) :
    (h.afterFailure name usableCount e).isCondemned n = (h.isCondemned n || (n == name && h.condemns usableCount name e)) := by
  cases e with
  | invalidResponse => simp [SweepEndpointHealth.afterFailure, SweepEndpointHealth.condemns, NodeReadError.proven,
      NodeReadError.ambiguous]
  | transport timeout requestSent =>
    cases requestSent with
    | false =>
      simp [SweepEndpointHealth.afterFailure, SweepEndpointHealth.condemns, NodeReadError.proven, isCondemned_condemn,
        Bool.or_comm]
    | true =>
      simp only [SweepEndpointHealth.afterFailure, SweepEndpointHealth.recordAmbiguous, SweepEndpointHealth.condemns,
        NodeReadError.proven, NodeReadError.ambiguous, if_true, Bool.not_true, Bool.false_or, Bool.true_and]
      have hstreak : decide (2 ≤ h.ambiguous name + 1) = decide (1 ≤ h.ambiguous name) := by
        simp only [decide_eq_decide]
        omega
      rw [hstreak]
      by_cases hc : (decide (1 ≤ h.ambiguous name) && decide (1 < usableCount)) = true
      · rw [if_pos hc, hc, isCondemned_condemn, Bool.and_true, Bool.or_comm]
        rfl
      · rw [if_neg hc, Bool.eq_false_of_not_eq_true hc, Bool.and_false, Bool.or_false]
        rfl
  | api statusCode causeStatus =>
    simp only [SweepEndpointHealth.afterFailure, SweepEndpointHealth.condemns, nodeErrorCode, NodeReadError.proven,
      NodeReadError.ambiguous]
    by_cases hu : (unauthorizedStatus statusCode || unauthorizedStatus causeStatus) = true
    · simp [hu, isCondemned_condemn, Bool.or_comm]
    · simp [hu]

/-- A failure adds to the streak of its own endpoint only. -/
theorem ambiguous_afterFailure {n : String} (hn : n ≠ name) :
    (h.afterFailure name usableCount e).ambiguous n = h.ambiguous n := by
  cases e with
  | invalidResponse => rfl
  | transport timeout requestSent =>
    cases requestSent with
    | false => rfl
    | true =>
      simp only [SweepEndpointHealth.afterFailure, SweepEndpointHealth.recordAmbiguous, if_true]
      split <;> simp [SweepEndpointHealth.condemn, hn]
  | api statusCode causeStatus =>
    simp only [SweepEndpointHealth.afterFailure]
    split <;> rfl

end

/-! ## One node -/

/-- The usable endpoints all fail for the node, each condemned, the last one by its second ambiguous
failure in a row. -/
structure EndsOnAmbiguity (h : SweepEndpointHealth) (failure : String → Option NodeReadError) (usableCount : Nat)
    (usable front : List String) (last : String) : Prop where
  split : usable = front ++ [last]
  several : 1 < usableCount
  front_condemned : ∀ n ∈ front, ∃ e, failure n = some e ∧ h.condemns usableCount n e = true
  last_ambiguous : ∃ e, failure last = some e ∧ e.ambiguous = true ∧ 1 ≤ h.ambiguous last

section
variable {β : Type} {names : List String} {answers : String → Answer β} {usableCount : Nat}

theorem NodeReadError.proven_of_ambiguous {e : NodeReadError} (h : e.ambiguous = true) : e.proven = false := by
  cases e with
  | invalidResponse => rfl
  | transport timeout requestSent => simpa [NodeReadError.proven, NodeReadError.ambiguous] using h
  | api statusCode causeStatus => cases h

theorem condemns_of_ambiguous {h : SweepEndpointHealth} {name : String} {e : NodeReadError} (he : e.ambiguous = true) :
    h.condemns usableCount name e = true ↔ 1 ≤ h.ambiguous name ∧ 1 < usableCount := by
  simp [SweepEndpointHealth.condemns, he, NodeReadError.proven_of_ambiguous he]

theorem not_spares {c : Condemnation} :
    ¬ c.Spares names ↔ c.error.ambiguous = true ∧ ∀ n ∈ names, n ≠ c.endpoint → c.before.isCondemned n = true := by
  simp only [Condemnation.Spares, Classical.not_imp, not_exists, not_and, Bool.not_eq_false]

/-- Before the last endpoint, one more was condemned and the rest follow. -/
theorem endsOnAmbiguity_cons {h : SweepEndpointHealth} {failure : String → Option NodeReadError} {name next : String}
    {rest : List String} :
    (∃ front last, EndsOnAmbiguity h failure usableCount (name :: next :: rest) front last) ↔
      (∃ e, failure name = some e ∧ h.condemns usableCount name e = true) ∧
        ∃ front last, EndsOnAmbiguity h failure usableCount (next :: rest) front last := by
  constructor
  · rintro ⟨front, last, hends⟩
    cases front with
    | nil => cases hends.split
    | cons n front =>
      obtain ⟨rfl, hsplit⟩ := List.cons.inj hends.split
      refine ⟨hends.front_condemned name (List.mem_cons_self ..), front, last, hsplit, hends.several, fun n hn => ?_,
        hends.last_ambiguous⟩
      exact hends.front_condemned n (List.mem_cons_of_mem _ hn)
  · rintro ⟨hname, front, last, hends⟩
    refine ⟨name :: front, last, by rw [hends.split]; rfl, hends.several, fun n hn => ?_, hends.last_ambiguous⟩
    rcases List.mem_cons.mp hn with rfl | hn
    · exact hname
    · exact hends.front_condemned n hn

theorem endsOnAmbiguity_singleton {h : SweepEndpointHealth} {failure : String → Option NodeReadError} {name : String} :
    (∃ front last, EndsOnAmbiguity h failure usableCount [name] front last) ↔
      1 < usableCount ∧ ∃ e, failure name = some e ∧ e.ambiguous = true ∧ 1 ≤ h.ambiguous name := by
  constructor
  · rintro ⟨front, last, hends⟩
    obtain ⟨rfl, hlast⟩ := List.append_eq_singleton_iff.mp hends.split.symm |>.resolve_right (by simp)
    cases hlast
    exact ⟨hends.several, hends.last_ambiguous⟩
  · rintro ⟨hk, hlast⟩
    exact ⟨[], name, rfl, hk, by simp, hlast⟩

/-- Only the streaks of the endpoints to be asked matter. -/
theorem EndsOnAmbiguity.congr {h h' : SweepEndpointHealth} {failure : String → Option NodeReadError}
    {usable front : List String} {last : String} (hsame : ∀ n ∈ usable, h'.ambiguous n = h.ambiguous n)
    (hends : EndsOnAmbiguity h failure usableCount usable front last) :
    EndsOnAmbiguity h' failure usableCount usable front last := by
  refine ⟨hends.split, hends.several, fun n hn => ?_, ?_⟩
  · obtain ⟨e, he, hc⟩ := hends.front_condemned n hn
    have hmem : n ∈ usable := hends.split ▸ List.mem_append_left _ hn
    refine ⟨e, he, ?_⟩
    rwa [SweepEndpointHealth.condemns, hsame n hmem]
  · have hmem : last ∈ usable := hends.split ▸ List.mem_append_right _ (List.mem_singleton.mpr rfl)
    rw [hsame last hmem]
    exact hends.last_ambiguous

/-- Of the endpoints still to be asked, one is condemned against the rule exactly when all the
others of the sweep are condemned already and these all follow, the last one by ambiguity. -/
theorem condemnations_spare_iff {usable : List String} (hnodup : usable.Nodup) (hsub : ∀ n ∈ usable, n ∈ names)
    {h : SweepEndpointHealth} (hfree : ∀ n ∈ usable, h.isCondemned n = false) :
    (∃ c ∈ condemnations usableCount (usable.map fun n => (n, answers n)) h, ¬ c.Spares names) ↔
      (∀ n ∈ names, n ∉ usable → h.isCondemned n = true) ∧
        ∃ front last, EndsOnAmbiguity h (failureOf answers) usableCount usable front last := by
  induction usable generalizing h with
  | nil =>
    refine iff_of_false (by simp [condemnations]) ?_
    rintro ⟨-, front, last, hends⟩
    simpa using hends.split
  | cons name rest ih =>
    obtain ⟨hname, hnodup⟩ := List.nodup_cons.mp hnodup
    have hfreeName : h.isCondemned name = false := hfree name (List.mem_cons_self ..)
    cases ha : answers name with
    | ok b =>
      -- the node is answered: nothing more is asked, and this endpoint did not fail
      refine iff_of_false (by simp [condemnations, ha]) ?_
      rintro ⟨-, hends⟩
      cases rest with
      | nil =>
        obtain ⟨-, e, he, -⟩ := endsOnAmbiguity_singleton.mp hends
        simp [failureOf, ha] at he
      | cons next rest =>
        obtain ⟨⟨e, he, -⟩, -⟩ := endsOnAmbiguity_cons.mp hends
        simp [failureOf, ha] at he
    | error e =>
      have hfail : failureOf answers name = some e := by simp [failureOf, ha]
      have hown : (h.afterFailure name usableCount e).isCondemned name = h.condemns usableCount name e := by
        simp [isCondemned_afterFailure, hfreeName]
      cases rest with
      | nil =>
        rw [endsOnAmbiguity_singleton]
        simp only [List.map_cons, List.map_nil, condemnations, ha, hown, hfreeName, Bool.not_false, Bool.and_true,
          List.append_nil, hfail, Option.some.injEq, exists_eq_left', List.mem_singleton]
        constructor
        · rintro ⟨c, hc, hbad⟩
          split at hc
          · rename_i hcond
            cases List.mem_singleton.mp hc
            obtain ⟨hamb, hothers⟩ := not_spares.mp hbad
            obtain ⟨hstreak, hk⟩ := (condemns_of_ambiguous hamb).mp hcond
            exact ⟨hothers, hk, hamb, hstreak⟩
          · cases hc
        · rintro ⟨hothers, hk, hamb, hstreak⟩
          refine ⟨⟨name, e, h⟩, ?_, not_spares.mpr ⟨hamb, hothers⟩⟩
          rw [if_pos ((condemns_of_ambiguous hamb).mpr ⟨hstreak, hk⟩)]
          exact List.mem_singleton.mpr rfl
      | cons next rest =>
        -- the next endpoint is not condemned, so this one may be
        have hne : next ≠ name := fun he => hname (he ▸ List.mem_cons_self ..)
        have hspares : ∀ c : Condemnation, c.endpoint = name → c.before = h → c.Spares names := by
          rintro c rfl rfl _
          exact ⟨next, hsub next (by simp), hne, hfree next (by simp)⟩
        have hother : ∀ n ∈ next :: rest, n ≠ name := fun n hn he => hname (he ▸ hn)
        have hrest := ih hnodup (fun n hn => hsub n (List.mem_cons_of_mem _ hn))
          (h := h.afterFailure name usableCount e) (fun n hn => by
            simp [isCondemned_afterFailure, hfree n (List.mem_cons_of_mem _ hn), hother n hn])
        rw [endsOnAmbiguity_cons]
        constructor
        · rintro ⟨c, hc, hbad⟩
          rw [List.map_cons, ha, condemnations] at hc
          rcases List.mem_append.mp hc with hc | hc
          · split at hc
            · cases List.mem_singleton.mp hc
              exact absurd (hspares _ rfl rfl) hbad
            · cases hc
          · obtain ⟨hcondemned, front, last, hends⟩ := hrest.mp ⟨c, hc, hbad⟩
            have hcond := hcondemned name (hsub name (List.mem_cons_self ..)) hname
            rw [hown] at hcond
            refine ⟨fun n hn hout => ?_, ⟨e, hfail, hcond⟩, front, last, hends.congr fun n hn => ?_⟩
            · have hafter := hcondemned n hn fun hin => hout (List.mem_cons_of_mem _ hin)
              have hnn : n ≠ name := fun he => hout (he ▸ List.mem_cons_self ..)
              simpa [isCondemned_afterFailure, hnn] using hafter
            · exact (ambiguous_afterFailure (hother n hn)).symm
        · rintro ⟨hcondemned, ⟨e', he', hcond⟩, front, last, hends⟩
          rw [hfail] at he'
          cases he'
          have hafter : ∀ n ∈ names, n ∉ next :: rest → (h.afterFailure name usableCount e).isCondemned n = true := by
            intro n hn hout
            by_cases hnn : n = name
            · rw [hnn, hown]
              exact hcond
            · simp [isCondemned_afterFailure, hcondemned n hn (by simp [hnn, List.mem_cons.not.mp hout])]
          obtain ⟨c, hc, hbad⟩ := hrest.mpr ⟨hafter, front, last,
            hends.congr fun n hn => ambiguous_afterFailure (hother n hn)⟩
          refine ⟨c, ?_, hbad⟩
          rw [List.map_cons, ha, condemnations]
          exact List.mem_append_right _ hc

end

section
variable {names : List String}

/-- The endpoints `_read_node_status` and `_read_interfaces` ask. -/
def usableEndpoints (names : List String) (h : SweepEndpointHealth) : List String :=
  names.filter fun n => !h.isCondemned n

/-- Several endpoints are usable, and the node condemns them all, the last one by ambiguity. -/
def SweepRead.ExhaustsOnAmbiguity (names : List String) (r : SweepRead) (h : SweepEndpointHealth) : Prop :=
  ∃ front last, EndsOnAmbiguity h r.failure (usableEndpoints names h).length (usableEndpoints names h) front last

/-- Both readers are `readUsable` at answers of their own. -/
theorem SweepRead.eq_readUsable (names : List String) (r : SweepRead) (h : SweepEndpointHealth) : ∃ (β : Type) (answers : String → Answer β),
    r.failure = failureOf answers ∧ r.health names h = (readUsable (names.map fun n => (n, answers n)) h).2 ∧
      r.condemned names h = readCondemnations (names.map fun n => (n, answers n)) h := by
  cases r with
  | status answers =>
    refine ⟨Json, answers, rfl, ?_, rfl⟩
    simp only [SweepRead.health, readNodeStatus]
    cases readUsable (names.map fun n => (n, answers n)) h with
    | mk result h' =>
      cases result with
      | error code => rfl
      | ok listing =>
        simp only
        split <;> rfl
  | interfaces answers =>
    refine ⟨Json × Json, fun n => (answers n).both, rfl, ?_, rfl⟩
    simp only [SweepRead.health, readInterfaces, List.map_map, Function.comp_def]
    cases readUsable (names.map fun n => (n, (answers n).both)) h with
    | mk result h' =>
      cases result with
      | error code => rfl
      | ok listings =>
        simp only
        split <;> rfl

theorem filter_usable {β : Type} (answers : String → Answer β) (h : SweepEndpointHealth) :
    ((names.map fun n => (n, answers n)).filter fun e => !h.isCondemned e.1) =
      (usableEndpoints names h).map fun n => (n, answers n) := by
  rw [List.filter_map]
  rfl

theorem SweepRead.condemned_spare_iff (hnodup : names.Nodup) (r : SweepRead) (h : SweepEndpointHealth) :
    (∃ c ∈ r.condemned names h, ¬ c.Spares names) ↔ r.ExhaustsOnAmbiguity names h := by
  obtain ⟨β, answers, hfailure, -, hcondemned⟩ := r.eq_readUsable names h
  rw [hcondemned, readCondemnations, filter_usable, List.length_map, SweepRead.ExhaustsOnAmbiguity, hfailure]
  have hsub : ∀ n ∈ usableEndpoints names h, n ∈ names := fun n hn => (List.mem_filter.mp hn).1
  have hfree : ∀ n ∈ usableEndpoints names h, h.isCondemned n = false := by
    intro n hn
    simpa using (List.mem_filter.mp hn).2
  refine (condemnations_spare_iff (hnodup.filter _) hsub hfree).trans (and_iff_right fun n hn hout => ?_)
  by_contra hnot
  exact hout (List.mem_filter.mpr ⟨hn, by simpa using hnot⟩)

end

/-! ## Every condemnation is accounted for -/

/-- The condemnations lead from one set of condemned endpoints to another, each for a reason. -/
def Accounts (condemned : String → Bool) : List Condemnation → (String → Bool) → Prop
  | [], final => final = condemned
  | c :: rest, final => c.before.isCondemned = condemned ∧ (c.error.proven || c.error.ambiguous) = true ∧
      Accounts (fun n => condemned n || n == c.endpoint) rest final

theorem Accounts.append {cs cs' : List Condemnation} {start middle final : String → Bool} (h : Accounts start cs middle)
    (h' : Accounts middle cs' final) : Accounts start (cs ++ cs') final := by
  induction cs generalizing start with
  | nil =>
    cases h
    exact h'
  | cons c rest ih => exact ⟨h.1, h.2.1, ih h.2.2⟩

/-- What the last condemnation adds completes the set. -/
theorem Accounts.getLast {cs : List Condemnation} {start final : String → Bool} (h : Accounts start cs final) :
    (cs = [] ∧ final = start) ∨ ∃ c, cs.getLast? = some c ∧ (c.error.proven || c.error.ambiguous) = true ∧
      ∀ n, final n = (c.before.isCondemned n || n == c.endpoint) := by
  induction cs generalizing start with
  | nil => exact .inl ⟨rfl, h⟩
  | cons c rest ih =>
    obtain ⟨hbefore, hreason, hrest⟩ := h
    refine .inr ?_
    rcases ih hrest with ⟨rfl, rfl⟩ | ⟨last, hlast, hlastReason, hfinal⟩
    · exact ⟨c, rfl, hreason, fun n => by rw [hbefore]⟩
    · refine ⟨last, ?_, hlastReason, hfinal⟩
      rw [List.getLast?_cons, hlast]
      rfl

theorem reason_of_condemns {h : SweepEndpointHealth} {usableCount : Nat} {name : String} {e : NodeReadError}
    (hc : h.condemns usableCount name e = true) : (e.proven || e.ambiguous) = true := by
  rw [SweepEndpointHealth.condemns] at hc
  simp only [Bool.or_eq_true, Bool.and_eq_true] at hc ⊢
  exact hc.imp id fun hamb => hamb.1.1

theorem accounts_askUsable {β : Type} {usableCount : Nat} {lastCode : String} (endpoints : List (String × Answer β))
    (h : SweepEndpointHealth) :
    Accounts h.isCondemned (condemnations usableCount endpoints h)
      (askUsable usableCount endpoints h lastCode).2.isCondemned := by
  induction endpoints generalizing h lastCode with
  | nil => rfl
  | cons endpoint rest ih =>
    obtain ⟨name, answer⟩ := endpoint
    cases answer with
    | ok b => rfl
    | error e =>
      simp only [condemnations, askUsable]
      refine Accounts.append ?_ (ih _)
      split
      · rename_i hnew
        simp only [isCondemned_afterFailure, Bool.and_eq_true, Bool.not_eq_true'] at hnew
        have hcond : h.condemns usableCount name e = true := by simpa [hnew.2] using hnew.1
        refine ⟨rfl, reason_of_condemns hcond, ?_⟩
        funext n
        simp [isCondemned_afterFailure, hcond]
      · rename_i hold
        funext n
        rw [isCondemned_afterFailure]
        by_cases hn : n = name
        · subst hn
          simp only [isCondemned_afterFailure, beq_self_eq_true, Bool.true_and, Bool.and_eq_true, Bool.or_eq_true,
            Bool.not_eq_true', not_and, Bool.not_eq_false] at hold ⊢
          cases hh : h.isCondemned n <;> simp_all
        · simp [hn]

theorem SweepRead.accounts (names : List String) (r : SweepRead) (h : SweepEndpointHealth) :
    Accounts h.isCondemned (r.condemned names h) (r.health names h).isCondemned := by
  obtain ⟨β, answers, -, hhealth, hcondemned⟩ := r.eq_readUsable names h
  rw [hhealth, hcondemned, readCondemnations, readUsable]
  split
  · rename_i hempty
    rw [List.isEmpty_iff.mp hempty]
    rfl
  · exact accounts_askUsable _ h

theorem sweep_accounts (names : List String) (reads : List SweepRead) (h : SweepEndpointHealth) :
    Accounts h.isCondemned (sweepCondemnations names reads h) (sweepHealth names reads h).isCondemned := by
  induction reads generalizing h with
  | nil => rfl
  | cons r reads ih => exact (r.accounts names h).append (ih (r.health names h))

/-! ## The sweep -/

section
variable {names : List String}

theorem mem_sweepCondemnations {c : Condemnation} {reads : List SweepRead} {h : SweepEndpointHealth} :
    c ∈ sweepCondemnations names reads h ↔
      ∃ rs₁ r rs₂, reads = rs₁ ++ r :: rs₂ ∧ c ∈ r.condemned names (sweepHealth names rs₁ h) := by
  induction reads generalizing h with
  | nil => simp [sweepCondemnations]
  | cons r reads ih =>
    rw [sweepCondemnations, List.mem_append, ih]
    constructor
    · rintro (hc | ⟨rs₁, r', rs₂, rfl, hc⟩)
      · exact ⟨[], r, reads, rfl, hc⟩
      · exact ⟨r :: rs₁, r', rs₂, rfl, hc⟩
    · rintro ⟨rs₁, r', rs₂, hsplit, hc⟩
      cases rs₁ with
      | nil =>
        cases hsplit
        exact .inl hc
      | cons r₁ rs₁ =>
        cases hsplit
        exact .inr ⟨rs₁, r', rs₂, rfl, hc⟩

/-- Where ambiguity always spares an endpoint, a sweep that condemns them all ends on proof. -/
theorem proven_of_spares {reads : List SweepRead} (hspares : ∀ c ∈ sweepCondemnations names reads {}, c.Spares names)
    (hnames : names ≠ []) (hall : ∀ n ∈ names, (sweepHealth names reads {}).isCondemned n = true) :
    ∃ c, (sweepCondemnations names reads {}).getLast? = some c ∧ c.error.proven = true := by
  rcases (sweep_accounts names reads {}).getLast with ⟨-, hnone⟩ | ⟨c, hlast, hreason, hfinal⟩
  · obtain ⟨n, hn⟩ := List.exists_mem_of_ne_nil names hnames
    have hcond := hall n hn
    rw [hnone] at hcond
    cases hcond
  · refine ⟨c, hlast, ?_⟩
    by_contra hnot
    have hamb : c.error.ambiguous = true := by simpa [Bool.eq_false_of_not_eq_true hnot] using hreason
    obtain ⟨other, hother, hne, hfree⟩ := hspares c (List.mem_of_getLast? hlast) hamb
    have hcond := hall other hother
    rw [hfinal, hfree] at hcond
    exact hne (by simpa using hcond)

/-- Ambiguity never ends a sweep exactly when no node of it is read with several usable endpoints that
all fail for it, each with proof or for the second time in a row, the last one ambiguously. -/
theorem ambiguityContinues_iff (hnodup : names.Nodup) (reads : List SweepRead) :
    AmbiguityContinues names reads ↔ ∀ rs₁ r rs₂, reads = rs₁ ++ r :: rs₂ →
      ¬ r.ExhaustsOnAmbiguity names (sweepHealth names rs₁ {}) := by
  constructor
  · rintro hcontinues rs₁ r rs₂ hsplit hends
    obtain ⟨c, hc, hbad⟩ := (r.condemned_spare_iff hnodup _).mpr hends
    exact hbad (hcontinues.spares c (mem_sweepCondemnations.mpr ⟨rs₁, r, rs₂, hsplit, hc⟩))
  · intro hreads
    have hspares : ∀ c ∈ sweepCondemnations names reads {}, c.Spares names := by
      intro c hc
      obtain ⟨rs₁, r, rs₂, hsplit, hc⟩ := mem_sweepCondemnations.mp hc
      by_contra hbad
      exact hreads rs₁ r rs₂ hsplit ((r.condemned_spare_iff hnodup _).mp ⟨c, hc, hbad⟩)
    exact ⟨hspares, proven_of_spares hspares⟩

end

/-- A node that answers nobody. -/
def hungNode : SweepRead := .status fun _ => .error (.transport true true)

/-- The first node that hangs condemns nobody. -/
theorem one_hung_node_continues : AmbiguityContinues ["pve1", "pve2"] [hungNode] := by
  refine (ambiguityContinues_iff (by decide) _).mpr ?_
  rintro rs₁ r rs₂ hsplit ⟨front, last, hends⟩
  cases rs₁ with
  | nil =>
    obtain ⟨e, -, -, hstreak⟩ := hends.last_ambiguous
    cases hstreak
  | cons r₁ rs₁ => simp at hsplit

/-- Two endpoints, and two nodes that time out for both: the second node condemns both. -/
theorem two_hung_nodes_end_the_sweep : ¬ AmbiguityContinues ["pve1", "pve2"] [hungNode, hungNode] := by
  intro hcontinues
  obtain ⟨c, hlast, hproven⟩ := hcontinues.proven (by decide) (by decide)
  have hlast' : (sweepCondemnations ["pve1", "pve2"] [hungNode, hungNode] {}).getLast?.map (·.error.proven) = some false := by
    decide
  rw [hlast] at hlast'
  simp [hproven] at hlast'

end PveHelper.Nodes
