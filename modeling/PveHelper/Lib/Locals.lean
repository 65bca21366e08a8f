/-
Local variables of a part of a program. What a `try` block has assigned is read where what it
raised is caught: the variables are a part of the state while the block runs, and the handler
gets them.
-/
import PveHelper.Lib.Triple

namespace Lib

variable {ε σ τ α β : Type}

/-- A part that leaves the variables as they are. -/
def beside (m : EStateM ε σ α) : EStateM ε (σ × τ) α := fun s =>
  match m s.1 with
  | .ok a s' => .ok a (s', s.2)
  | .error e s' => .error e (s', s.2)

/-- The variables are assigned. -/
def assign (f : τ → τ) : EStateM ε (σ × τ) Unit := fun s => .ok () (s.1, f s.2)

/-- A block with variables of its own, and what is done with them where it raises. -/
def withLocals (v : τ) (m : EStateM ε (σ × τ) α) (handler : ε → τ → EStateM ε σ α) : EStateM ε σ α := fun s =>
  match m (s, v) with
  | .ok a s' => .ok a s'.1
  | .error e s' => handler e s'.2 s'.1

namespace Triple

variable {P : σ × τ → Prop} {Q : α → σ × τ → Prop} {E : ε → σ × τ → Prop}

/-- The variables are as they were. -/
theorem beside {m : EStateM ε σ α}
    (hm : ∀ v, Triple (fun s => P (s, v)) m (fun a s => Q a (s, v)) fun e s => E e (s, v)) :
    Triple P (Lib.beside m) Q E where
  ok s a s' hs h := by
    unfold Lib.beside at h
    cases hrun : m s.1 with
    | ok b s₁ =>
      rw [hrun] at h
      cases h
      exact (hm s.2).ok s.1 a s₁ hs hrun
    | error e s₁ =>
      rw [hrun] at h
      cases h
  error s e s' hs h := by
    unfold Lib.beside at h
    cases hrun : m s.1 with
    | ok b s₁ =>
      rw [hrun] at h
      cases h
    | error e' s₁ =>
      rw [hrun] at h
      cases h
      exact (hm s.2).error s.1 e s₁ hs hrun

/-- The variables are these, before and after. -/
theorem beside_at {w : τ} {m : EStateM ε σ α} {P : σ → Prop} {Q : α → σ → Prop}
    (hm : Triple P m Q fun e s => E e (s, w)) :
    Triple (fun s => s.2 = w ∧ P s.1) (Lib.beside m) (fun a s => s.2 = w ∧ Q a s.1) E := by
  refine beside fun v => ⟨fun s a s' hs h => ?_, fun s e s' hs h => ?_⟩
  · exact ⟨hs.1, hm.ok s a s' hs.2 h⟩
  · have hv : v = w := hs.1
    exact hv ▸ hm.error s e s' hs.2 h

theorem assign {f : τ → τ} {Q : Unit → σ × τ → Prop} (h : ∀ s v, P (s, v) → Q () (s, f v)) :
    Triple P (Lib.assign f : EStateM ε (σ × τ) Unit) Q E where
  ok s u s' hs hok := by
    cases hok
    exact h s.1 s.2 hs
  error s e s' _ herror := by cases herror

/-- What is raised is handled with the variables as they are then. -/
theorem withLocals {v : τ} {m : EStateM ε (σ × τ) α} {handler : ε → τ → EStateM ε σ α} {P : σ → Prop}
    {Q : α → σ → Prop} {E : ε → σ → Prop} {F : ε → σ × τ → Prop}
    (hm : Triple (fun s => P s.1 ∧ s.2 = v) m (fun a s => Q a s.1) F)
    (hhandler : ∀ e w, Triple (fun s => F e (s, w)) (handler e w) Q E) : Triple P (Lib.withLocals v m handler) Q E where
  ok s a s' hs h := by
    unfold Lib.withLocals at h
    cases hrun : m (s, v) with
    | ok b s₁ =>
      rw [hrun] at h
      cases h
      exact hm.ok (s, v) a s₁ ⟨hs, rfl⟩ hrun
    | error e s₁ =>
      rw [hrun] at h
      exact (hhandler e s₁.2).ok s₁.1 a s' (hm.error (s, v) e s₁ ⟨hs, rfl⟩ hrun) h
  error s e s' hs h := by
    unfold Lib.withLocals at h
    cases hrun : m (s, v) with
    | ok b s₁ =>
      rw [hrun] at h
      cases h
    | error e' s₁ =>
      rw [hrun] at h
      exact (hhandler e' s₁.2).error s₁.1 e s' (hm.error (s, v) e' s₁ ⟨hs, rfl⟩ hrun) h

end Triple

theorem Raises.beside {K : ε → Prop} {m : EStateM ε σ α} (hm : Raises K m) :
    Raises K (Lib.beside m : EStateM ε (σ × τ) α) := by
  intro s e s' h
  unfold Lib.beside at h
  cases hrun : m s.1 with
  | ok b s₁ =>
    rw [hrun] at h
    cases h
  | error e' s₁ =>
    rw [hrun] at h
    cases h
    exact hm s.1 e s₁ hrun

end Lib
