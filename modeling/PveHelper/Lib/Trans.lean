/-
Transition systems given by a guarded step function: `step s l` is the state
after the step `l` when `l` is enabled in `s`. A run is a list of steps. An
invariant is proved once per step (`run_inv`); where a property needs every
step of the run to meet a condition, the condition travels with the run
(`Along`, `run_inv_along`), and a condition that a step meets exactly when it
keeps the property transfers to whole runs (`always_iff_along`).
-/
import Mathlib.Logic.Basic

namespace Lib

variable {S L : Type} (step : S → L → Option S)

/-- The state after the steps, when all are enabled on the way. -/
def run : S → List L → Option S
  | s, [] => some s
  | s, l :: ls => (step s l).bind fun s' => run s' ls

/-- Every step taken by the run from `s` relates its two states by `P`. -/
def Along (P : S → L → S → Prop) : S → List L → Prop
  | _, [] => True
  | s, l :: ls => ∀ s', step s l = some s' → P s l s' ∧ Along P s' ls

/-- The property holds in every state the run goes through, its first included. -/
def Always (I : S → Prop) (s : S) (ls : List L) : Prop :=
  ∀ ls₁ ls₂ s', ls = ls₁ ++ ls₂ → run step s ls₁ = some s' → I s'

/-- The states some run reaches from one that `init` admits. -/
def Reachable (init : S → Prop) (s : S) : Prop := ∃ s₀ ls, init s₀ ∧ run step s₀ ls = some s

variable {step}

@[simp] theorem run_nil {s : S} : run step s [] = some s := rfl

theorem run_cons {s s'' : S} {l : L} {ls : List L} :
    run step s (l :: ls) = some s'' ↔ ∃ s', step s l = some s' ∧ run step s' ls = some s'' := by
  simp [run, Option.bind_eq_some_iff]

/-- A run goes through the state between its parts. -/
theorem run_append {s s' : S} {ls₁ ls₂ : List L} (h : run step s (ls₁ ++ ls₂) = some s') :
    ∃ t, run step s ls₁ = some t ∧ run step t ls₂ = some s' := by
  induction ls₁ generalizing s with
  | nil => exact ⟨s, rfl, h⟩
  | cons l ls₁ ih =>
    obtain ⟨s₁, h₁, h₂⟩ := run_cons.mp h
    obtain ⟨t, ht, h₂⟩ := ih h₂
    exact ⟨t, run_cons.mpr ⟨s₁, h₁, ht⟩, h₂⟩

/-- A run goes on from where another ended. -/
theorem run_trans {s t s' : S} {ls₁ ls₂ : List L} (h₁ : run step s ls₁ = some t) (h₂ : run step t ls₂ = some s') :
    run step s (ls₁ ++ ls₂) = some s' := by
  induction ls₁ generalizing s with
  | nil =>
    cases h₁
    exact h₂
  | cons l ls₁ ih =>
    obtain ⟨s₁, hs₁, h₁⟩ := run_cons.mp h₁
    exact run_cons.mpr ⟨s₁, hs₁, ih h₁⟩

/-- What every step preserves, a run preserves. -/
theorem run_inv {I : S → Prop} (hstep : ∀ {s l s'}, I s → step s l = some s' → I s') {ls : List L} {s s' : S}
    (hs : I s) (h : run step s ls = some s') : I s' := by
  induction ls generalizing s with
  | nil =>
    simp only [run_nil, Option.some.injEq] at h
    exact h ▸ hs
  | cons l ls ih =>
    obtain ⟨s₁, h₁, h₂⟩ := run_cons.mp h
    exact ih (hstep hs h₁) h₂

/-- What every step meeting `P` preserves, a run meeting `P` throughout preserves. -/
theorem run_inv_along {I : S → Prop} {P : S → L → S → Prop}
    (hstep : ∀ {s l s'}, I s → step s l = some s' → P s l s' → I s') {ls : List L} {s s' : S} (hs : I s)
    (ha : Along step P s ls) (h : run step s ls = some s') : I s' := by
  induction ls generalizing s with
  | nil =>
    simp only [run_nil, Option.some.injEq] at h
    exact h ▸ hs
  | cons l ls ih =>
    obtain ⟨s₁, h₁, h₂⟩ := run_cons.mp h
    obtain ⟨hp, ha'⟩ := ha s₁ h₁
    exact ih (hstep hs h₁ hp) ha' h₂

/-- An invariant holds in every reachable state. -/
theorem Reachable.inv {init I : S → Prop} (hinit : ∀ s, init s → I s)
    (hstep : ∀ {s l s'}, I s → step s l = some s' → I s') {s : S} (h : Reachable step init s) : I s := by
  obtain ⟨s₀, ls, h₀, hr⟩ := h
  exact run_inv hstep (hinit s₀ h₀) hr

/-- A condition met throughout is met from any state on the way. -/
theorem Along.after {P : S → L → S → Prop} {ls₁ ls₂ : List L} {s s₁ : S} (ha : Along step P s (ls₁ ++ ls₂))
    (h : run step s ls₁ = some s₁) : Along step P s₁ ls₂ := by
  induction ls₁ generalizing s with
  | nil =>
    simp only [run_nil, Option.some.injEq] at h
    exact h ▸ ha
  | cons l ls₁ ih =>
    obtain ⟨s', h₁, h₂⟩ := run_cons.mp h
    exact ih (ha s' h₁).2 h₂

theorem Along.take {P : S → L → S → Prop} {ls₁ ls₂ : List L} {s : S} (ha : Along step P s (ls₁ ++ ls₂)) :
    Along step P s ls₁ := by
  induction ls₁ generalizing s with
  | nil => trivial
  | cons l ls₁ ih =>
    intro s' hs'
    obtain ⟨hp, ha'⟩ := ha s' hs'
    exact ⟨hp, ih ha'⟩

/-- What every step meeting `P` preserves holds throughout a run meeting `P`. -/
theorem Along.always {I : S → Prop} {P : S → L → S → Prop}
    (hstep : ∀ {s l s'}, I s → step s l = some s' → P s l s' → I s') {ls : List L} {s : S} (hs : I s)
    (ha : Along step P s ls) : Always step I s ls := by
  intro ls₁ ls₂ s' he hr
  refine run_inv_along hstep hs ?_ hr
  exact Along.take (he ▸ ha)

/-- A condition each step of a run meets is met throughout. -/
theorem along_of_forall {P : S → L → S → Prop} {ls : List L} {s : S}
    (h : ∀ ls₁ l ls₂ s₁ s₂, ls = ls₁ ++ l :: ls₂ → run step s ls₁ = some s₁ → step s₁ l = some s₂ → P s₁ l s₂) :
    Along step P s ls := by
  induction ls generalizing s with
  | nil => trivial
  | cons l ls ih =>
    intro s' hs'
    refine ⟨h [] l ls s s' rfl rfl hs', ih ?_⟩
    intro ls₁ l' ls₂ s₁ s₂ he hr hst
    exact h (l :: ls₁) l' ls₂ s₁ s₂ (by rw [he]; rfl) (run_cons.mpr ⟨s', hs', hr⟩) hst

instance Along.decidable {P : S → L → S → Prop} [∀ s l s', Decidable (P s l s')] :
    ∀ (s : S) (ls : List L), Decidable (Along step P s ls)
  | _, [] => isTrue trivial
  | s, l :: ls =>
    match h : step s l with
    | none => isTrue fun s' hs' => by rw [h] at hs'; cases hs'
    | some s' =>
      have := Along.decidable (P := P) s' ls
      decidable_of_iff (P s l s' ∧ Along step P s' ls) (by simp [Along, h])

/-- Over a run of steps that all meet `Q`, two conditions that agree wherever the
invariant holds are met throughout by the same runs. -/
theorem along_congr_of {J : S → Prop} {P P' : S → L → S → Prop} {Q : L → Prop}
    (hinv : ∀ {s l s'}, Q l → J s → step s l = some s' → J s')
    (hiff : ∀ {s l s'}, Q l → J s → step s l = some s' → (P s l s' ↔ P' s l s')) {ls : List L} {s : S}
    (hq : ∀ l ∈ ls, Q l) (hj : J s) : Along step P s ls ↔ Along step P' s ls := by
  induction ls generalizing s with
  | nil => exact Iff.rfl
  | cons l ls ih =>
    have hl : Q l := hq l (List.mem_cons_self ..)
    have hls : ∀ l ∈ ls, Q l := fun l h => hq l (List.mem_cons_of_mem _ h)
    refine forall_congr' fun s' => forall_congr' fun hs' => ?_
    exact and_congr (hiff hl hj hs') (ih hls (hinv hl hj hs'))

/-- Over a run of steps that all meet `Q`, a property is kept throughout exactly
when each step meets the condition that decides whether a step keeps it. -/
theorem always_iff_along_of {I J : S → Prop} {P : S → L → S → Prop} {Q : L → Prop}
    (hinv : ∀ {s l s'}, Q l → J s → step s l = some s' → J s')
    (hstep : ∀ {s l s'}, Q l → J s → I s → step s l = some s' → (I s' ↔ P s l s')) {ls : List L} {s : S}
    (hq : ∀ l ∈ ls, Q l) (hj : J s) (hi : I s) : Always step I s ls ↔ Along step P s ls := by
  induction ls generalizing s with
  | nil =>
    refine ⟨fun _ => trivial, fun _ ls₁ ls₂ s' he hr => ?_⟩
    obtain ⟨rfl, -⟩ := List.nil_eq_append_iff.mp he
    simp only [run_nil, Option.some.injEq] at hr
    exact hr ▸ hi
  | cons l ls ih =>
    have hl : Q l := hq l (List.mem_cons_self ..)
    have hls : ∀ l ∈ ls, Q l := fun l h => hq l (List.mem_cons_of_mem _ h)
    constructor
    · intro h s' hs'
      have hi' : I s' := h [l] ls s' rfl (run_cons.mpr ⟨s', hs', rfl⟩)
      refine ⟨(hstep hl hj hi hs').mp hi', (ih hls (hinv hl hj hs') hi').mp ?_⟩
      intro ls₁ ls₂ s'' he hr
      exact h (l :: ls₁) ls₂ s'' (by rw [he]; rfl) (run_cons.mpr ⟨s', hs', hr⟩)
    · intro h ls₁ ls₂ s'' he hr
      cases ls₁ with
      | nil =>
        simp only [run_nil, Option.some.injEq] at hr
        exact hr ▸ hi
      | cons l₁ ls₁ =>
        simp only [List.cons_append, List.cons.injEq] at he
        obtain ⟨rfl, he⟩ := he
        obtain ⟨s', hs', hr⟩ := run_cons.mp hr
        obtain ⟨hp, ha⟩ := h s' hs'
        have hi' : I s' := (hstep hl hj hi hs').mpr hp
        exact (ih hls (hinv hl hj hs') hi').mpr ha ls₁ ls₂ s'' he hr

theorem always_iff_along {I J : S → Prop} {P : S → L → S → Prop}
    (hinv : ∀ {s l s'}, J s → step s l = some s' → J s')
    (hstep : ∀ {s l s'}, J s → I s → step s l = some s' → (I s' ↔ P s l s')) {ls : List L} {s : S}
    (hj : J s) (hi : I s) : Always step I s ls ↔ Along step P s ls :=
  always_iff_along_of (Q := fun _ => True) (fun _ => hinv) (fun _ => hstep) (fun _ _ => trivial) hj hi

/-- Where what a step breaks stays broken, the end of a run tells about all of it. -/
theorem final_iff_always {I : S → Prop} (hstep : ∀ {s l s'}, ¬ I s → step s l = some s' → ¬ I s') {ls : List L} {s s' : S}
    (h : run step s ls = some s') : I s' ↔ Always step I s ls := by
  constructor
  · intro hend ls₁ ls₂ s₁ he hr
    rw [he] at h
    obtain ⟨t, ht, h⟩ := run_append h
    rw [hr] at ht
    cases ht
    exact Classical.byContradiction fun hbroken => run_inv (I := fun s => ¬ I s) hstep hbroken h hend
  · exact fun halways => halways ls [] s' (List.append_nil ls).symm h

/-! ## Values that stay -/

variable (step) in
/-- What a state of the run shows closed under a key, every later state of it
shows the same, if it shows the key at all. -/
def Absorbing {K V : Type} (view : S → K → Option V) (closed : V → Prop) (s : S) (ls : List L) : Prop :=
  ∀ ls₁ ls₂ ls₃ s₁ s₂, ls = ls₁ ++ ls₂ ++ ls₃ → run step s ls₁ = some s₁ → run step s₁ ls₂ = some s₂ →
    ∀ k v v', view s₁ k = some v → closed v → view s₂ k = some v' → v' = v

/-- Closed values stay throughout a run exactly when each step meets the
condition that decides whether a step keeps them; a key once shown is `spent`,
so that no step shows it anew. The invariant need only survive the steps that
meet the condition: up to the first that does not, they all do. -/
theorem absorbing_iff_along_inv {K V : Type} {view : S → K → Option V} {closed : V → Prop} {J : S → Prop}
    {P : S → L → S → Prop} (spent : K → S → Prop)
    (hinv : ∀ {s l s'}, J s → step s l = some s' → P s l s' → J s')
    (hshown : ∀ {s k v}, J s → view s k = some v → spent k s)
    (hspent : ∀ {s l s' k}, J s → spent k s → step s l = some s' → spent k s')
    (hkeep : ∀ {s l s' k v v'}, J s → step s l = some s' → P s l s' → spent k s →
      (∀ w, view s k = some w → w = v) → closed v → view s' k = some v' → v' = v)
    (hneed : ∀ {s l s'}, J s → step s l = some s' →
      (∀ k v v', view s k = some v → closed v → view s' k = some v' → v' = v) → P s l s')
    {ls : List L} {s : S} (hj : J s) : Absorbing step view closed s ls ↔ Along step P s ls := by
  constructor
  · intro h
    induction ls generalizing s with
    | nil => trivial
    | cons l ls ih =>
      intro s' hs'
      have hp : P s l s' := hneed hj hs' (h [] [l] ls s s' rfl rfl (run_cons.mpr ⟨s', hs', rfl⟩))
      refine ⟨hp, ih (hinv hj hs' hp) ?_⟩
      intro ls₁ ls₂ ls₃ s₁ s₂ he hr₁ hr₂
      exact h (l :: ls₁) ls₂ ls₃ s₁ s₂ (by rw [he]; rfl) (run_cons.mpr ⟨s', hs', hr₁⟩) hr₂
  · intro h ls₁ ls₂ ls₃ s₁ s₂ he hr₁ hr₂ k v v' hv hc hv'
    have htake : Along step P s (ls₁ ++ ls₂) := (he ▸ h).take
    have hj₁ : J s₁ := run_inv_along hinv hj htake.take hr₁
    have hfix := run_inv_along (I := fun t => J t ∧ spent k t ∧ ∀ w, view t k = some w → w = v) (P := P)
      (fun hi hst hp => ⟨hinv hi.1 hst hp, hspent hi.1 hi.2.1 hst, fun w hw => hkeep hi.1 hst hp hi.2.1 hi.2.2 hc hw⟩)
      ⟨hj₁, hshown hj₁ hv, fun w hw => Option.some.inj (hw.symm.trans hv)⟩ (htake.after hr₁) hr₂
    exact hfix.2.2 v' hv'

theorem absorbing_iff_along {K V : Type} {view : S → K → Option V} {closed : V → Prop} {J : S → Prop}
    {P : S → L → S → Prop} (spent : K → S → Prop)
    (hinv : ∀ {s l s'}, J s → step s l = some s' → J s')
    (hshown : ∀ {s k v}, J s → view s k = some v → spent k s)
    (hspent : ∀ {s l s' k}, spent k s → step s l = some s' → spent k s')
    (hkeep : ∀ {s l s' k v v'}, step s l = some s' → P s l s' → spent k s → (∀ w, view s k = some w → w = v) →
      closed v → view s' k = some v' → v' = v)
    (hneed : ∀ {s l s'}, step s l = some s' →
      (∀ k v v', view s k = some v → closed v → view s' k = some v' → v' = v) → P s l s')
    {ls : List L} {s : S} (hj : J s) : Absorbing step view closed s ls ↔ Along step P s ls :=
  absorbing_iff_along_inv spent (fun hi hst _ => hinv hi hst) hshown (fun _ => hspent) (fun _ => hkeep)
    (fun _ => hneed) hj

end Lib
