/-
Sweeps. A sweep lists names in a first transaction, visits them one transaction
each, and ends with a closing transaction; what it learns on the way (`H`) it
carries from visit to visit. Any number of sweeps, single visits and other
transactions interleave. What every transaction keeps, every interleaving keeps
(`SweepSpec.step_move` with `run_inv`).
-/
import PveHelper.Lib.Trans

namespace Lib

/-- The transactions of a kind of sweep: `O` is what the first one finds outside the
state, `C` stays the same through a sweep, `A` is what a visit is answered. -/
structure SweepSpec (S N O C A H : Type) where
  fresh : H
  /-- The names to visit, or none when the sweep is refused. -/
  start : S → O → C → S × Option (List N)
  /-- One name's transaction; false when it raises, which ends the sweep. -/
  visit : S → C → N → A → H → S × H × Bool
  finish : S → C → S

/-- A sweep on its way. -/
structure Flight (N C H : Type) where
  targets : List N
  context : C
  learned : H

structure Swept (S N C H : Type) where
  state : S
  flights : List (Flight N C H)

inductive SweepLabel (X N O C A : Type)
  | other (x : X)
  | single (c : C) (name : N) (a : A)
  | start (o : O) (c : C)
  | next (flight : Nat) (a : A)
  | finish (flight : Nat)

/-- The answer of the step, if it visits, meets `P`. -/
def SweepLabel.Answered {X N O C A : Type} (P : A → Prop) : SweepLabel X N O C A → Prop
  | single _ _ a | next _ a => P a
  | _ => True

namespace SweepSpec

variable {X S N O C A H : Type} (w : SweepSpec S N O C A H) (other : S → X → Option S)

def step (s : Swept S N C H) : SweepLabel X N O C A → Option (Swept S N C H)
  | .other x => (other s.state x).map fun t => { s with state := t }
  | .single c name a => some { s with state := (w.visit s.state c name a w.fresh).1 }
  | .start o c =>
    match w.start s.state o c with
    | (t, none) => some { s with state := t }
    | (t, some names) => some ⟨t, s.flights ++ [⟨names, c, w.fresh⟩]⟩
  | .next i a =>
    match s.flights[i]? with
    | some ⟨name :: rest, c, h⟩ =>
      match w.visit s.state c name a h with
      | (t, h', true) => some ⟨t, s.flights.set i ⟨rest, c, h'⟩⟩
      | (t, _, false) => some ⟨t, s.flights.eraseIdx i⟩
    | _ => none
  | .finish i =>
    match s.flights[i]? with
    | some ⟨[], c, _⟩ => some ⟨w.finish s.state c, s.flights.eraseIdx i⟩
    | _ => none

/-- What a step does to the state. -/
inductive Move : SweepLabel X N O C A → S → S → Prop
  | other {x : X} {s s' : S} (h : other s x = some s') : Move (.other x) s s'
  | visit {l : SweepLabel X N O C A} {a : A} (s : S) (c : C) (name : N) (h : H)
      (ha : ∀ {P : A → Prop}, l.Answered P → P a) : Move l s (w.visit s c name a h).1
  | start (s : S) (o : O) (c : C) : Move (.start o c) s (w.start s o c).1
  | finish (i : Nat) (s : S) (c : C) : Move (.finish i) s (w.finish s c)

variable {w other}

theorem step_finish {s s' : Swept S N C H} {i : Nat} (h : w.step other s (.finish i) = some s') :
    ∃ c, s'.state = w.finish s.state c := by
  simp only [step] at h
  split at h
  · cases h
    exact ⟨_, rfl⟩
  · cases h

theorem step_move {s s' : Swept S N C H} {l : SweepLabel X N O C A} (h : w.step other s l = some s') :
    Move w other l s.state s'.state := by
  cases l with
  | other x =>
    simp only [step, Option.map_eq_some_iff] at h
    obtain ⟨t, ht, rfl⟩ := h
    exact .other ht
  | single c name a =>
    cases h
    exact .visit s.state c name w.fresh fun ha => ha
  | start o c =>
    have hstate : s'.state = (w.start s.state o c).1 := by
      simp only [step] at h
      split at h
      all_goals
        rename_i heq
        cases h
        rw [heq]
    rw [hstate]
    exact .start s.state o c
  | next i a =>
    simp only [step] at h
    split at h
    · rename_i name rest c learned hflight
      have hstate : s'.state = (w.visit s.state c name a learned).1 := by
        split at h
        all_goals
          rename_i heq
          cases h
          rw [heq]
      rw [hstate]
      exact .visit s.state c name learned fun ha => ha
    · cases h
  | finish i =>
    obtain ⟨c, hstate⟩ := step_finish h
    rw [hstate]
    exact .finish i s.state c

/-! ## One sweep alone -/

variable (w)

/-- The visits of a sweep; none when one raises. -/
def visitAll (c : C) (answers : N → A) : S → H → List N → Option S
  | s, _, [] => some s
  | s, h, name :: rest =>
    match w.visit s c name (answers name) h with
    | (s', h', true) => visitAll c answers s' h' rest
    | (_, _, false) => none

/-- A sweep with nothing between its transactions; none when a visit raises. -/
def alone (s : S) (o : O) (c : C) (answers : N → A) : Option S :=
  match w.start s o c with
  | (s', none) => some s'
  | (s', some names) => (w.visitAll c answers s' w.fresh names).map (w.finish · c)

end SweepSpec

end Lib
