/-
Computations over a store that may raise (`EStateM`). A raise keeps what was
written before it; `atomic` undoes that, as a database transaction does. A
computation is built of reads (`query`) and writes (`change`), and one that
answers is taken apart step by step (`bind_ok`, `query_bind_ok`,
`change_bind_ok`).
-/
import Mathlib.Init

namespace Lib

variable {ε σ α β : Type}

/-- A transaction around a computation: what was written before a raise is undone. -/
def atomic (m : EStateM ε σ α) : EStateM ε σ α := fun s =>
  match m s with
  | .ok a s' => .ok a s'
  | .error e _ => .error e s

/-- A read of the store that may raise. -/
def query (f : σ → Except ε α) : EStateM ε σ α := fun s =>
  match f s with
  | .ok a => .ok a s
  | .error e => .error e s

/-- A write to the store that may raise. -/
def change (f : σ → Except ε σ) : EStateM ε σ Unit := fun s =>
  match f s with
  | .ok s' => .ok () s'
  | .error e => .error e s

/-- Raise unless the condition holds. -/
def ensure (p : Bool) (e : ε) : Except ε Unit := if p then .ok () else .error e

/-- The value of a lookup, or a raise where it finds none. -/
def orRaise (o : Option α) (e : ε) : Except ε α :=
  match o with
  | some a => .ok a
  | none => .error e

theorem orRaise_ok {o : Option α} {e : ε} {a : α} : orRaise o e = .ok a ↔ o = some a := by
  cases o <;> simp [orRaise]

theorem ensure_ok {p : Bool} {e : ε} {u : Unit} : ensure p e = .ok u ↔ p = true := by
  cases p <;> simp [ensure]

/-- A transaction that raises leaves the store as it was. -/
theorem atomic_error {m : EStateM ε σ α} {s s' : σ} {e : ε} (h : atomic m s = .error e s') : s' = s := by
  unfold atomic at h
  split at h <;> cases h
  rfl

theorem atomic_ok {m : EStateM ε σ α} {s s' : σ} {a : α} : atomic m s = .ok a s' ↔ m s = .ok a s' := by
  unfold atomic
  split <;> simp_all

theorem bind_ok {m : EStateM ε σ α} {f : α → EStateM ε σ β} {s s'' : σ} {b : β} :
    (m >>= f) s = .ok b s'' ↔ ∃ a s', m s = .ok a s' ∧ f a s' = .ok b s'' := by
  show EStateM.bind m f s = _ ↔ _
  unfold EStateM.bind
  cases m s with
  | ok a s' => exact ⟨fun h => ⟨a, s', rfl, h⟩, by rintro ⟨_, _, ⟨⟩, h⟩; exact h⟩
  | error e s' => simp

theorem except_bind_ok {x : Except ε α} {f : α → Except ε β} {b : β} :
    (x >>= f) = .ok b ↔ ∃ a, x = .ok a ∧ f a = .ok b := by
  cases x with
  | error e => simp [bind, Except.bind]
  | ok a => simp [bind, Except.bind]

theorem query_bind_ok {f : σ → Except ε α} {g : α → EStateM ε σ β} {s s' : σ} {b : β} :
    (query f >>= g) s = .ok b s' ↔ ∃ a, f s = .ok a ∧ g a s = .ok b s' := by
  rw [bind_ok]
  unfold query
  cases f s with
  | error e => simp
  | ok a => exact ⟨by rintro ⟨_, _, ⟨⟩, h⟩; exact ⟨a, rfl, h⟩, by rintro ⟨_, ⟨⟩, h⟩; exact ⟨a, s, rfl, h⟩⟩

theorem query_bind_error {f : σ → Except ε α} {g : α → EStateM ε σ β} {s s' : σ} {e : ε} :
    (query f >>= g) s = .error e s' ↔ (f s = .error e ∧ s' = s) ∨ ∃ a, f s = .ok a ∧ g a s = .error e s' := by
  show EStateM.bind (query f) g s = .error e s' ↔ _
  unfold EStateM.bind query
  cases f s with
  | error e' => simp [eq_comm]
  | ok a => simp

theorem change_ok {f : σ → Except ε σ} {s s' : σ} {u : Unit} : change f s = .ok u s' ↔ f s = .ok s' := by
  unfold change
  split <;> simp_all

theorem change_bind_ok {f : σ → Except ε σ} {g : Unit → EStateM ε σ β} {s s'' : σ} {b : β} :
    (change f >>= g) s = .ok b s'' ↔ ∃ s', f s = .ok s' ∧ g () s' = .ok b s'' := by
  rw [bind_ok]
  simp only [change_ok]
  exact ⟨by rintro ⟨_, s', h⟩; exact ⟨s', h⟩, by rintro ⟨s', h⟩; exact ⟨(), s', h⟩⟩

/-! ## Computations that answer -/

/-- The computation does not raise at the store. -/
def Answers (m : EStateM ε σ α) (s : σ) : Prop := ∃ a s', m s = .ok a s'

theorem atomic_answers {m : EStateM ε σ α} {s : σ} (h : Answers m s) : Answers (atomic m) s := by
  obtain ⟨a, s', h⟩ := h
  exact ⟨a, s', atomic_ok.mpr h⟩

theorem bind_answers {m : EStateM ε σ α} {f : α → EStateM ε σ β} {s s' : σ} {a : α} (hm : m s = .ok a s')
    (h : Answers (f a) s') : Answers (m >>= f) s := by
  obtain ⟨b, s'', h⟩ := h
  exact ⟨b, s'', bind_ok.mpr ⟨a, s', hm, h⟩⟩

theorem query_bind_answers {f : σ → Except ε α} {g : α → EStateM ε σ β} {s : σ} {a : α} (hf : f s = .ok a)
    (h : Answers (g a) s) : Answers (query f >>= g) s := by
  obtain ⟨b, s', h⟩ := h
  exact ⟨b, s', query_bind_ok.mpr ⟨a, hf, h⟩⟩

theorem change_bind_answers {f : σ → Except ε σ} {g : Unit → EStateM ε σ β} {s s' : σ} (hf : f s = .ok s')
    (h : Answers (g ()) s') : Answers (change f >>= g) s := by
  obtain ⟨b, s'', h⟩ := h
  exact ⟨b, s'', change_bind_ok.mpr ⟨s', hf, h⟩⟩

end Lib
