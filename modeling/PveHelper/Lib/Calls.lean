/-
Programs that change a tree of files by one call after another, any of which may
fail. A kernel says which calls fail beside those that the tree itself refuses, and
in which order a directory is listed. A program is a computation over the tree that
may raise; what a raise leaves is what the calls before it did. What any run of a
program keeps is put together from what its calls keep (`Maintains`).
-/
import Mathlib.Data.List.Sort
import Mathlib.Data.String.Basic
import PveHelper.Lib.Atomic
import PveHelper.Lib.DiskMoves

namespace Lib

/-! ## Raising and catching -/

section
variable {ε ε' σ α β : Type}

/-- The state a computation leaves, however it ends. -/
def final (m : EStateM ε σ α) (s : σ) : σ :=
  match m s with
  | .ok _ s' => s'
  | .error _ s' => s'

/-- `raise`. -/
def raise (e : ε) : EStateM ε σ α := fun s => .error e s

/-- What a computation raises, raised as something else. -/
def raisingAs (f : ε → ε') (m : EStateM ε σ α) : EStateM ε' σ α := fun s =>
  match m s with
  | .ok a s' => .ok a s'
  | .error e s' => .error (f e) s'

/-- `try`/`except`: a handler for some of what is raised. -/
def except (m : EStateM ε σ α) (handler : ε → Option (EStateM ε σ α)) : EStateM ε σ α := fun s =>
  match m s with
  | .ok a s' => .ok a s'
  | .error e s' => match handler e with
    | some h => h s'
    | none => .error e s'

/-- `try`/`finally`: what is done at the end, whose raise stands for the one before it. -/
def ensuring (m : EStateM ε σ α) (cleanup : EStateM ε σ Unit) : EStateM ε σ α := fun s =>
  match m s with
  | .ok a s' => match cleanup s' with
    | .ok _ s'' => .ok a s''
    | .error e s'' => .error e s''
  | .error e s' => match cleanup s' with
    | .ok _ s'' => .error e s''
    | .error e' s'' => .error e' s''

/-- `except BaseException`, with something done before the raise goes on. -/
def reraising (m : EStateM ε σ α) (cleanup : EStateM ε σ Unit) : EStateM ε σ α :=
  except m fun e => some do
    cleanup
    raise e

/-- What a computation raises, taken as an answer. -/
def attempt (m : EStateM ε σ α) : EStateM ε σ (Except ε α) := fun s =>
  match m s with
  | .ok a s' => .ok (.ok a) s'
  | .error e s' => .ok (.error e) s'

/-- A check that raises. -/
def unlessRaise (p : Bool) (e : ε) : EStateM ε σ Unit := if p then pure () else raise e

theorem bind_error {m : EStateM ε σ α} {f : α → EStateM ε σ β} {s s'' : σ} {e : ε} :
    (m >>= f) s = .error e s'' ↔ m s = .error e s'' ∨ ∃ a s', m s = .ok a s' ∧ f a s' = .error e s'' := by
  show EStateM.bind m f s = _ ↔ _
  unfold EStateM.bind
  cases m s with
  | ok a s' =>
    constructor
    · exact fun h => .inr ⟨a, s', rfl, h⟩
    · rintro (⟨⟨⟩⟩ | ⟨_, _, ⟨⟩, h⟩)
      exact h
  | error e' s' => simp

theorem bind_of_ok {m : EStateM ε σ α} {f : α → EStateM ε σ β} {s s' : σ} {a : α} (h : m s = .ok a s') :
    (m >>= f) s = f a s' := by
  show EStateM.bind m f s = _
  unfold EStateM.bind
  rw [h]

theorem final_bind_of_ok {m : EStateM ε σ α} {f : α → EStateM ε σ β} {s s' : σ} {a : α} (h : m s = .ok a s') :
    final (m >>= f) s = final (f a) s' := by
  unfold final
  rw [bind_of_ok h]

theorem raisingAs_ok {f : ε → ε'} {m : EStateM ε σ α} {s s' : σ} {a : α} :
    raisingAs f m s = .ok a s' ↔ m s = .ok a s' := by
  unfold raisingAs
  cases m s <;> simp

theorem raisingAs_error {f : ε → ε'} {m : EStateM ε σ α} {s s' : σ} {e : ε'} :
    raisingAs f m s = .error e s' ↔ ∃ e', m s = .error e' s' ∧ f e' = e := by
  unfold raisingAs
  cases m s <;> simp [and_comm]

theorem final_raisingAs (f : ε → ε') (m : EStateM ε σ α) (s : σ) : final (raisingAs f m) s = final m s := by
  unfold final raisingAs
  cases m s <;> rfl

section
variable {m m' : EStateM ε σ α} {handler : ε → Option (EStateM ε σ α)} {s s' s'' : σ} {a : α} {e : ε}

theorem except_of_ok (h : m s = .ok a s') : except m handler s = .ok a s' := by rw [except, h]

theorem except_of_caught (h : m s = .error e s') (hh : handler e = some m') : except m handler s = m' s' := by
  simp only [except, h, hh]

theorem except_of_uncaught (h : m s = .error e s') (hh : handler e = none) : except m handler s = .error e s' := by
  simp only [except, h, hh]

theorem except_ok : except m handler s = .ok a s'' ↔
    m s = .ok a s'' ∨ ∃ e s' m', m s = .error e s' ∧ handler e = some m' ∧ m' s' = .ok a s'' := by
  cases h : m s with
  | ok b s' => simp [except_of_ok h]
  | error e s' =>
    cases hh : handler e with
    | none => simp [except_of_uncaught h hh, hh]
    | some m' => simp [except_of_caught h hh, hh]

theorem except_error {e' : ε} : except m handler s = .error e' s'' ↔
    (m s = .error e' s'' ∧ handler e' = none) ∨
    ∃ e s' m', m s = .error e s' ∧ handler e = some m' ∧ m' s' = .error e' s'' := by
  cases h : m s with
  | ok b s' => simp [except_of_ok h]
  | error e s' =>
    cases hh : handler e with
    | none =>
      rw [except_of_uncaught h hh]
      constructor
      · rintro ⟨⟩
        exact .inl ⟨rfl, hh⟩
      · rintro (⟨⟨⟩, -⟩ | ⟨_, _, _, ⟨⟩, hm, -⟩)
        · rfl
        · rw [hh] at hm
          cases hm
    | some m' =>
      rw [except_of_caught h hh]
      constructor
      · exact fun h' => .inr ⟨e, s', m', rfl, hh, h'⟩
      · rintro (⟨⟨⟩, hnone⟩ | ⟨_, _, _, ⟨⟩, hm, h'⟩)
        · rw [hh] at hnone
          cases hnone
        · rw [hh] at hm
          cases hm
          exact h'

end

theorem final_ensuring (m : EStateM ε σ α) (cleanup : EStateM ε σ Unit) (s : σ) :
    final (ensuring m cleanup) s = final cleanup (final m s) := by
  unfold final ensuring
  cases m s with
  | ok a s' =>
    dsimp only
    cases cleanup s' <;> rfl
  | error e s' =>
    dsimp only
    cases cleanup s' <;> rfl

section
variable {m : EStateM ε σ α} {cleanup : EStateM ε σ Unit} {s s' s'' : σ} {a : α} {e : ε}

theorem ensuring_of_ok (h : m s = .ok a s') (hcleanup : cleanup s' = .ok () s'') : ensuring m cleanup s = .ok a s'' := by
  simp only [ensuring, h, hcleanup]

theorem ensuring_ok : ensuring m cleanup s = .ok a s'' ↔ ∃ s', m s = .ok a s' ∧ cleanup s' = .ok () s'' := by
  unfold ensuring
  cases m s with
  | ok b s' =>
    dsimp only
    cases hcleanup : cleanup s' <;> simp [hcleanup, and_comm]
  | error e s' =>
    dsimp only
    cases cleanup s' <;> simp

theorem ensuring_error : ensuring m cleanup s = .error e s'' ↔
    (∃ a s', m s = .ok a s' ∧ cleanup s' = .error e s'') ∨ (∃ s', m s = .error e s' ∧ cleanup s' = .ok () s'') ∨
      ∃ e' s', m s = .error e' s' ∧ cleanup s' = .error e s'' := by
  unfold ensuring
  cases m s with
  | ok b s' =>
    dsimp only
    cases hcleanup : cleanup s' <;> simp [hcleanup]
  | error e s' =>
    dsimp only
    cases hcleanup : cleanup s' <;> simp [hcleanup, and_comm]

theorem reraising_ok : reraising m cleanup s = .ok a s' ↔ m s = .ok a s' := by
  unfold reraising
  rw [except_ok]
  constructor
  · rintro (h | ⟨e, s₁, m', -, ⟨⟩, h⟩)
    · exact h
    · obtain ⟨u, s₂, -, hraise⟩ := bind_ok.mp h
      cases hraise
  · exact .inl

/-- What raised is raised on, unless the cleanup raises. -/
theorem reraising_error : reraising m cleanup s = .error e s'' ↔
    ∃ e' s', m s = .error e' s' ∧ (cleanup s' = .error e s'' ∨ e' = e ∧ cleanup s' = .ok () s'') := by
  unfold reraising
  rw [except_error]
  constructor
  · rintro (⟨-, ⟨⟩⟩ | ⟨e', s', m', h, ⟨⟩, hrest⟩)
    rcases bind_error.mp hrest with hcleanup | ⟨u, s₂, hcleanup, hraise⟩
    · exact ⟨e', s', h, .inl hcleanup⟩
    · cases hraise
      exact ⟨e, s', h, .inr ⟨rfl, hcleanup⟩⟩
  · rintro ⟨e', s', h, hcleanup | ⟨rfl, hcleanup⟩⟩
    · exact .inr ⟨e', s', _, h, rfl, bind_error.mpr (.inl hcleanup)⟩
    · exact .inr ⟨e', s', _, h, rfl, bind_error.mpr (.inr ⟨(), s'', hcleanup, rfl⟩)⟩

end

theorem attempt_of_ok {m : EStateM ε σ α} {s s' : σ} {a : α} (h : m s = .ok a s') : attempt m s = .ok (.ok a) s' := by
  rw [attempt, h]

theorem attempt_of_error {m : EStateM ε σ α} {s s' : σ} {e : ε} (h : m s = .error e s') :
    attempt m s = .ok (.error e) s' := by
  rw [attempt, h]

theorem unlessRaise_ok {p : Bool} {e : ε} {s s' : σ} {u : Unit} : unlessRaise p e s = .ok u s' ↔ p = true ∧ s' = s := by
  cases p
  · simp [unlessRaise, raise]
  · simp [unlessRaise, pure, EStateM.pure, eq_comm]

theorem unlessRaise_bind_ok {p : Bool} {e : ε} {m : EStateM ε σ α} {s s' : σ} {a : α} :
    (unlessRaise p e >>= fun _ => m) s = .ok a s' ↔ p = true ∧ m s = .ok a s' := by
  rw [bind_ok]
  constructor
  · rintro ⟨u, s₁, hp, h⟩
    obtain ⟨hp', rfl⟩ := unlessRaise_ok.mp hp
    exact ⟨hp', h⟩
  · rintro ⟨hp, h⟩
    exact ⟨(), s, unlessRaise_ok.mpr ⟨hp, rfl⟩, h⟩

theorem pure_ok {a b : α} {s s' : σ} : (pure a : EStateM ε σ α) s = .ok b s' ↔ b = a ∧ s' = s := by
  show EStateM.Result.ok a s = .ok b s' ↔ _
  simp [eq_comm]

theorem raise_ok {e : ε} {b : α} {s s' : σ} : ¬ (raise e : EStateM ε σ α) s = .ok b s' := by
  rintro ⟨⟩

/-! ## What a run returns -/

/-- What the computation returns, if it returns, meets `P`. -/
def Returns (P : α → Prop) (m : EStateM ε σ α) : Prop := ∀ s a s', m s = .ok a s' → P a

theorem Returns.pure {P : α → Prop} {a : α} (h : P a) : Returns P (Pure.pure a : EStateM ε σ α) := by
  rintro s b s' ⟨⟩
  exact h

theorem Returns.bind {P : α → Prop} {Q : β → Prop} {m : EStateM ε σ α} {f : α → EStateM ε σ β} (hm : Returns P m)
    (hf : ∀ a, P a → Returns Q (f a)) : Returns Q (m >>= f) := by
  intro s b s'' h
  obtain ⟨a, s', ha, hb⟩ := bind_ok.mp h
  exact hf a (hm s a s' ha) s' b s'' hb

theorem Returns.reraising {P : α → Prop} {m : EStateM ε σ α} {cleanup : EStateM ε σ Unit} (hm : Returns P m) :
    Returns P (Lib.reraising m cleanup) := fun s a s' h => hm s a s' (reraising_ok.mp h)

/-- What a program returns after a call that may return anything. -/
theorem Returns.after {Q : β → Prop} {m : EStateM ε σ α} {f : α → EStateM ε σ β} (hf : ∀ a, Returns Q (f a)) :
    Returns Q (m >>= f) :=
  Returns.bind (P := fun _ => True) (fun _ _ _ _ => trivial) fun a _ => hf a

/-! ## What every run keeps -/

/-- However the computation ends, its last state stands in the relation to its first. -/
def Maintains (R : σ → σ → Prop) (m : EStateM ε σ α) : Prop := ∀ s, R s (final m s)

variable {R : σ → σ → Prop}

theorem Maintains.pure [Std.Refl R] (a : α) : Maintains R (Pure.pure a : EStateM ε σ α) := fun s => Std.Refl.refl s

theorem Maintains.raise [Std.Refl R] (e : ε) : Maintains R (Lib.raise e : EStateM ε σ α) := fun s => Std.Refl.refl s

/-- One after the other, the second for the answers that the first can give. -/
theorem Maintains.bind_of_ok [IsTrans σ R] {m : EStateM ε σ α} {f : α → EStateM ε σ β} (hm : Maintains R m)
    (hf : ∀ s a s', m s = .ok a s' → Maintains R (f a)) : Maintains R (m >>= f) := by
  intro s
  have hfirst := hm s
  cases h : m s with
  | ok a s' =>
    rw [final_bind_of_ok h]
    have hs : final m s = s' := by rw [final, h]
    exact IsTrans.trans _ _ _ (hs ▸ hfirst) (hf s a s' h s')
  | error e s' =>
    have hs : final m s = s' := by rw [final, h]
    have hall : (m >>= f) s = .error e s' := bind_error.mpr (.inl h)
    rw [final, hall]
    exact hs ▸ hfirst

theorem Maintains.bind [IsTrans σ R] {m : EStateM ε σ α} {f : α → EStateM ε σ β} (hm : Maintains R m)
    (hf : ∀ a, Maintains R (f a)) : Maintains R (m >>= f) :=
  hm.bind_of_ok fun _ a _ _ => hf a

theorem Maintains.raisingAs {f : ε → ε'} {m : EStateM ε σ α} (hm : Maintains R m) : Maintains R (Lib.raisingAs f m) := by
  intro s
  rw [final_raisingAs]
  exact hm s

theorem Maintains.except [IsTrans σ R] {m : EStateM ε σ α} {handler : ε → Option (EStateM ε σ α)} (hm : Maintains R m)
    (hh : ∀ e h, handler e = some h → Maintains R h) : Maintains R (Lib.except m handler) := by
  intro s
  have hfirst := hm s
  cases h : m s with
  | ok a s' =>
    rw [final, h] at hfirst
    rw [final, except_of_ok h]
    exact hfirst
  | error e s' =>
    rw [final, h] at hfirst
    cases hhandler : handler e with
    | none =>
      rw [final, except_of_uncaught h hhandler]
      exact hfirst
    | some m' =>
      rw [final, except_of_caught h hhandler]
      exact IsTrans.trans _ _ _ hfirst (hh e m' hhandler s')

theorem Maintains.ensuring [IsTrans σ R] {m : EStateM ε σ α} {cleanup : EStateM ε σ Unit} (hm : Maintains R m)
    (hcleanup : Maintains R cleanup) : Maintains R (Lib.ensuring m cleanup) := by
  intro s
  rw [final_ensuring]
  exact IsTrans.trans _ _ _ (hm s) (hcleanup _)

theorem Maintains.reraising [Std.Refl R] [IsTrans σ R] {m : EStateM ε σ α} {cleanup : EStateM ε σ Unit} (hm : Maintains R m)
    (hcleanup : Maintains R cleanup) : Maintains R (Lib.reraising m cleanup) := by
  refine Maintains.except hm fun e m' hm' => ?_
  cases hm'
  exact Maintains.bind hcleanup fun _ => Maintains.raise e

theorem Maintains.attempt {m : EStateM ε σ α} (hm : Maintains R m) : Maintains R (Lib.attempt m) := by
  intro s
  have hfirst := hm s
  unfold final Lib.attempt at *
  cases h : m s with
  | ok a s' => simpa only [h] using hfirst
  | error e s' => simpa only [h] using hfirst

theorem Maintains.unlessRaise [Std.Refl R] (p : Bool) (e : ε) : Maintains R (Lib.unlessRaise p e : EStateM ε σ Unit) := by
  cases p
  · exact Maintains.raise e
  · exact Maintains.pure ()

theorem Maintains.mapM {ι : Type} [Std.Refl R] [IsTrans σ R] {f : ι → EStateM ε σ α} (hf : ∀ x, Maintains R (f x)) (xs : List ι) :
    Maintains R (xs.mapM f) := by
  induction xs with
  | nil =>
    rw [List.mapM_nil]
    exact Maintains.pure []
  | cons x xs ih =>
    rw [List.mapM_cons]
    exact Maintains.bind (hf x) fun _ => Maintains.bind ih fun _ => Maintains.pure _

theorem Maintains.mono {R' : σ → σ → Prop} {m : EStateM ε σ α} (hm : Maintains R m) (h : ∀ {s s'}, R s s' → R' s s') :
    Maintains R' m := fun s => h (hm s)

theorem Maintains.of_ok {m : EStateM ε σ α} (hm : Maintains R m) {s s' : σ} {a : α} (h : m s = .ok a s') : R s s' := by
  have hs := hm s
  rwa [final, h] at hs

theorem Maintains.of_error {m : EStateM ε σ α} (hm : Maintains R m) {s s' : σ} {e : ε} (h : m s = .error e s') : R s s' := by
  have hs := hm s
  rwa [final, h] at hs

end

/-! ## Calls -/

inductive CallKind
  | openRoot | openDirectory | openFile | stat | list | mkdir | create | write | renameNoReplace | rename | unlink | rmdir
  | setOwner | close
deriving DecidableEq, Repr

/-- A call, and the path it is about. -/
structure Call where
  kind : CallKind
  path : Path

/-- What decides the calls beside the tree: the failures, by the number of the call, and
the order of a listing. A close says nothing of the tree, and may fail with any error. -/
structure Kernel where
  fault : Nat → Call → Option Errno
  external : ∀ i c e, fault i c = some e → c.kind ≠ .close → e.external = true
  order : Nat → Finset String → List String
  mem_order : ∀ i names n, n ∈ order i names ↔ n ∈ names
  nodup_order : ∀ i names, (order i names).Nodup

/-- The names of a directory in their order. -/
def byName (names : Finset String) : List String :=
  Quot.liftOn names.val (List.insertionSort (· ≤ ·)) fun l m h =>
    ((List.perm_insertionSort _ l).trans (h.trans (List.perm_insertionSort _ m).symm)).eq_of_pairwise'
      (List.pairwise_insertionSort _ l) (List.pairwise_insertionSort _ m)

theorem byName_val (names : Finset String) : (byName names : Multiset String) = names.val := by
  unfold byName
  induction names.val using Quot.inductionOn with
  | h l => exact Quot.sound (List.perm_insertionSort _ l)

/-- The kernel with these failures, which lists a directory by name. -/
def Kernel.failing (fault : Nat → Call → Option Errno)
    (external : ∀ i c e, fault i c = some e → c.kind ≠ .close → e.external = true) : Kernel where
  fault := fault
  external := external
  order _ names := byName names
  mem_order _ names n := by rw [← Multiset.mem_coe, byName_val, Finset.mem_val]
  nodup_order _ names := by
    rw [← Multiset.coe_nodup, byName_val]
    exact names.nodup

/-- The kernel that fails only where the tree refuses. -/
def Kernel.sound : Kernel := .failing (fun _ _ => none) (by simp)

/-- The tree, and the number of calls made. -/
structure Machine (α : Type) where
  disk : Disk α
  calls : Nat

/-- A program: what it raises and what it answers. -/
abbrev Program (α ε β : Type) := EStateM ε (Machine α) β

namespace Kernel

variable {α β : Type} (k : Kernel)

/-- A call that only looks. -/
def ask (c : Call) (f : Disk α → Except Errno β) : Program α Errno β := fun s =>
  let s' : Machine α := ⟨s.disk, s.calls + 1⟩
  match k.fault s.calls c with
  | some e => .error e s'
  | none => match f s.disk with
    | .ok b => .ok b s'
    | .error e => .error e s'

/-- A call that changes the tree. -/
def act (c : Call) (f : Disk α → Except Errno (Disk α)) : Program α Errno Unit := fun s =>
  match k.fault s.calls c with
  | some e => .error e ⟨s.disk, s.calls + 1⟩
  | none => match f s.disk with
    | .ok d => .ok () ⟨d, s.calls + 1⟩
    | .error e => .error e ⟨s.disk, s.calls + 1⟩

/-- `os.listdir` of an open directory. -/
def list (p : Path) : Program α Errno (List String) := fun s =>
  k.ask ⟨.list, p⟩ (fun d => if d.isDirectory p then .ok (k.order s.calls (d.children p)) else .error .noent) s

/-- No call of these kinds fails but where the tree refuses it. -/
def Accepts (kinds : List CallKind) : Prop := ∀ i c, c.kind ∈ kinds → k.fault i c = none

theorem sound_accepts (kinds : List CallKind) : Kernel.sound.Accepts kinds := fun _ _ _ => rfl

variable {k} {c : Call} {s s' : Machine α} {b : β}

theorem ask_ok {f : Disk α → Except Errno β} (h : k.ask c f s = .ok b s') :
    f s.disk = .ok b ∧ s'.disk = s.disk := by
  unfold ask at h
  dsimp only at h
  split at h
  · cases h
  split at h
  · rename_i hf
    cases h
    exact ⟨hf, rfl⟩
  · cases h

theorem ask_error {f : Disk α → Except Errno β} {e : Errno} (h : k.ask c f s = .error e s') :
    (k.fault s.calls c = some e ∨ f s.disk = .error e) ∧ s'.disk = s.disk := by
  unfold ask at h
  dsimp only at h
  split at h
  · rename_i hfault
    cases h
    exact ⟨.inl hfault, rfl⟩
  split at h
  · cases h
  · rename_i hf
    cases h
    exact ⟨.inr hf, rfl⟩

theorem ask_calls {f : Disk α → Except Errno β} (h : k.ask c f s = .ok b s') : s'.calls = s.calls + 1 := by
  unfold ask at h
  dsimp only at h
  split at h
  · cases h
  split at h
  · cases h
    rfl
  · cases h

theorem act_ok {f : Disk α → Except Errno (Disk α)} {u : Unit} (h : k.act c f s = .ok u s') :
    f s.disk = .ok s'.disk := by
  unfold act at h
  split at h
  · cases h
  split at h
  · rename_i hf
    cases h
    exact hf
  · cases h

theorem act_error {f : Disk α → Except Errno (Disk α)} {e : Errno} (h : k.act c f s = .error e s') :
    (k.fault s.calls c = some e ∨ f s.disk = .error e) ∧ s'.disk = s.disk := by
  unfold act at h
  split at h
  · rename_i hfault
    cases h
    exact ⟨.inl hfault, rfl⟩
  split at h
  · cases h
  · rename_i hf
    cases h
    exact ⟨.inr hf, rfl⟩

theorem act_calls {f : Disk α → Except Errno (Disk α)} {u : Unit} (h : k.act c f s = .ok u s') :
    s'.calls = s.calls + 1 := by
  unfold act at h
  split at h
  · cases h
  split at h
  · cases h
    rfl
  · cases h

theorem ask_of_fault {f : Disk α → Except Errno β} {e : Errno} (h : k.fault s.calls c = some e) :
    k.ask c f s = .error e ⟨s.disk, s.calls + 1⟩ := by
  simp only [ask, h]

theorem ask_of_ok {f : Disk α → Except Errno β} (h : k.fault s.calls c = none) (hf : f s.disk = .ok b) :
    k.ask c f s = .ok b ⟨s.disk, s.calls + 1⟩ := by
  simp only [ask, h, hf]

theorem ask_of_refused {f : Disk α → Except Errno β} {e : Errno} (h : k.fault s.calls c = none) (hf : f s.disk = .error e) :
    k.ask c f s = .error e ⟨s.disk, s.calls + 1⟩ := by
  simp only [ask, h, hf]

theorem act_of_fault {f : Disk α → Except Errno (Disk α)} {e : Errno} (h : k.fault s.calls c = some e) :
    k.act c f s = .error e ⟨s.disk, s.calls + 1⟩ := by
  simp only [act, h]

theorem act_of_ok {f : Disk α → Except Errno (Disk α)} {d : Disk α} (h : k.fault s.calls c = none) (hf : f s.disk = .ok d) :
    k.act c f s = .ok () ⟨d, s.calls + 1⟩ := by
  simp only [act, h, hf]

/-- Where nothing but the tree decides, the call does what the tree says. -/
theorem ask_of_accepts {f : Disk α → Except Errno β} {kinds : List CallKind} (hk : k.Accepts kinds) (hc : c.kind ∈ kinds)
    (hf : f s.disk = .ok b) : k.ask c f s = .ok b ⟨s.disk, s.calls + 1⟩ := by
  exact ask_of_ok (hk s.calls c hc) hf

theorem act_of_accepts {f : Disk α → Except Errno (Disk α)} {d : Disk α} {kinds : List CallKind} (hk : k.Accepts kinds)
    (hc : c.kind ∈ kinds) (hf : f s.disk = .ok d) : k.act c f s = .ok () ⟨d, s.calls + 1⟩ := by
  exact act_of_ok (hk s.calls c hc) hf

end Kernel

/-! ## The calls a program makes -/

/-- None of these calls fails, the first of them having this number. -/
def Kernel.Lets (k : Kernel) : Nat → List Call → Prop
  | _, [] => True
  | i, c :: cs => k.fault i c = none ∧ Lets k (i + 1) cs

theorem Kernel.lets_append {k : Kernel} {i : Nat} {cs cs' : List Call} :
    k.Lets i (cs ++ cs') ↔ k.Lets i cs ∧ k.Lets (i + cs.length) cs' := by
  induction cs generalizing i with
  | nil => simp [Lets]
  | cons c cs ih =>
    rw [List.cons_append, Lets, Lets, ih, List.length_cons, and_assoc]
    have hnumber : i + 1 + cs.length = i + (cs.length + 1) := by omega
    rw [hnumber]

theorem Kernel.Accepts.lets {k : Kernel} {kinds : List CallKind} (hk : k.Accepts kinds) {cs : List Call}
    (hcs : ∀ c ∈ cs, c.kind ∈ kinds) (i : Nat) : k.Lets i cs := by
  induction cs generalizing i with
  | nil => trivial
  | cons c cs ih =>
    exact ⟨hk i c (hcs c List.mem_cons_self), ih (fun c' hc' => hcs c' (List.mem_cons_of_mem _ hc')) (i + 1)⟩

/-- From here the program makes these calls. Where none of them fails it ends with this
answer and this tree, and otherwise it raises. -/
structure Performs {α ε β : Type} (k : Kernel) (m : Program α ε β) (s : Machine α) (calls : List Call) (b : β)
    (d : Disk α) : Prop where
  ok : k.Lets s.calls calls → m s = .ok b ⟨d, s.calls + calls.length⟩
  raised : ¬ k.Lets s.calls calls → ∃ e s', m s = .error e s'

namespace Performs

variable {α ε ε' β γ : Type} {k : Kernel} {m : Program α ε β} {s : Machine α} {cs cs' : List Call} {b : β} {d d' : Disk α}

theorem pure (b : β) (s : Machine α) : Performs k (Pure.pure b : Program α ε β) s [] b s.disk where
  ok _ := rfl
  raised h := absurd trivial h

theorem bind {f : β → Program α ε γ} {c : γ} (hm : Performs k m s cs b d)
    (hf : Performs k (f b) ⟨d, s.calls + cs.length⟩ cs' c d') : Performs k (m >>= f) s (cs ++ cs') c d' where
  ok h := by
    obtain ⟨hfirst, hrest⟩ := Kernel.lets_append.mp h
    rw [bind_of_ok (hm.ok hfirst), hf.ok hrest, List.length_append, Nat.add_assoc]
  raised h := by
    by_cases hfirst : k.Lets s.calls cs
    · obtain ⟨e, s', he⟩ := hf.raised fun hrest => h (Kernel.lets_append.mpr ⟨hfirst, hrest⟩)
      exact ⟨e, s', bind_error.mpr (.inr ⟨b, _, hm.ok hfirst, he⟩)⟩
    · obtain ⟨e, s', he⟩ := hm.raised hfirst
      exact ⟨e, s', bind_error.mpr (.inl he)⟩

/-- A first part that makes no call. -/
theorem bind_still {f : β → Program α ε γ} {c : γ} (hm : Performs k m s [] b d)
    (hf : Performs k (f b) ⟨d, s.calls⟩ cs c d') : Performs k (m >>= f) s cs c d' :=
  hm.bind hf

theorem raisingAs {f : ε → ε'} (hm : Performs k m s cs b d) : Performs k (Lib.raisingAs f m) s cs b d where
  ok h := raisingAs_ok.mpr (hm.ok h)
  raised h := by
    obtain ⟨e, s', he⟩ := hm.raised h
    exact ⟨f e, s', raisingAs_error.mpr ⟨e, he, rfl⟩⟩

theorem ask {c : Call} {f : Disk α → Except Errno β} (hf : f s.disk = .ok b) : Performs k (k.ask c f) s [c] b s.disk where
  ok h := Kernel.ask_of_ok h.1 hf
  raised h := by
    cases hfault : k.fault s.calls c with
    | none => exact absurd ⟨hfault, trivial⟩ h
    | some e => exact ⟨e, _, Kernel.ask_of_fault hfault⟩

theorem act {c : Call} {f : Disk α → Except Errno (Disk α)} (hf : f s.disk = .ok d) :
    Performs k (k.act c f) s [c] () d where
  ok h := Kernel.act_of_ok h.1 hf
  raised h := by
    cases hfault : k.fault s.calls c with
    | none => exact absurd ⟨hfault, trivial⟩ h
    | some e => exact ⟨e, _, Kernel.act_of_fault hfault⟩

/-- What is done at the end makes its calls after the others. -/
theorem ensuring {cleanup : Program α ε Unit} (hm : Performs k m s cs b d)
    (hcleanup : Performs k cleanup ⟨d, s.calls + cs.length⟩ cs' () d') : Performs k (Lib.ensuring m cleanup) s (cs ++ cs') b d' where
  ok h := by
    obtain ⟨hfirst, hrest⟩ := Kernel.lets_append.mp h
    rw [ensuring_of_ok (hm.ok hfirst) (hcleanup.ok hrest), List.length_append, Nat.add_assoc]
  raised h := by
    by_cases hfirst : k.Lets s.calls cs
    · obtain ⟨e, s', he⟩ := hcleanup.raised fun hrest => h (Kernel.lets_append.mpr ⟨hfirst, hrest⟩)
      exact ⟨e, s', ensuring_error.mpr (.inl ⟨b, _, hm.ok hfirst, he⟩)⟩
    · obtain ⟨e, s₁, he⟩ := hm.raised hfirst
      cases hlast : cleanup s₁ with
      | ok u s₂ => exact ⟨e, s₂, ensuring_error.mpr (.inr (.inl ⟨s₁, he, hlast⟩))⟩
      | error e' s₂ => exact ⟨e', s₂, ensuring_error.mpr (.inr (.inr ⟨e, s₁, he, hlast⟩))⟩

theorem reraising {cleanup : Program α ε Unit} (hm : Performs k m s cs b d) : Performs k (Lib.reraising m cleanup) s cs b d where
  ok h := reraising_ok.mpr (hm.ok h)
  raised h := by
    obtain ⟨e, s₁, he⟩ := hm.raised h
    cases hlast : cleanup s₁ with
    | ok u s₂ => exact ⟨e, s₂, reraising_error.mpr ⟨e, s₁, he, .inr ⟨rfl, hlast⟩⟩⟩
    | error e' s₂ => exact ⟨e', s₂, reraising_error.mpr ⟨e, s₁, he, .inl hlast⟩⟩

theorem list {p : Path} (hp : s.disk.isDirectory p = true) :
    Performs k (k.list p) s [⟨.list, p⟩] (k.order s.calls (s.disk.children p)) s.disk := by
  have hask := Performs.ask (k := k) (c := ⟨.list, p⟩) (s := s) (b := k.order s.calls (s.disk.children p))
    (f := fun d => if d.isDirectory p then .ok (k.order s.calls (d.children p)) else .error .noent) (if_pos hp)
  exact ⟨hask.ok, hask.raised⟩

end Performs

/-- The calls for one name after another, each beginning where the last ended. -/
def callsInTurn (calls : Nat → String → List Call) : Nat → List String → List Call
  | _, [] => []
  | i, n :: ns => calls i n ++ callsInTurn calls (i + (calls i n).length) ns

/-- A loop makes the calls of its steps in turn. -/
theorem Performs.forM {α ε : Type} {k : Kernel} {f : String → Program α ε Unit} {calls : Nat → String → List Call}
    {after : Disk α → String → Disk α} {inv : Disk α → List String → Prop}
    (hstep : ∀ n ns d i, inv d (n :: ns) → Performs k (f n) ⟨d, i⟩ (calls i n) () (after d n) ∧ inv (after d n) ns)
    {ns : List String} {d : Disk α} {i : Nat} (h : inv d ns) :
    Performs k (ns.forM f) ⟨d, i⟩ (callsInTurn calls i ns) () (ns.foldl after d) := by
  induction ns generalizing d i with
  | nil => exact Performs.pure () ⟨d, i⟩
  | cons n ns ih =>
    obtain ⟨hfirst, hrest⟩ := hstep n ns d i h
    exact hfirst.bind (ih hrest)

/-- The tree is as it was. -/
def SameDisk {α : Type} (s s' : Machine α) : Prop := s'.disk = s.disk

instance {α : Type} : Std.Refl (SameDisk (α := α)) := ⟨fun _ => rfl⟩

instance {α : Type} : IsTrans (Machine α) SameDisk := ⟨fun _ _ _ h h' => h'.trans h⟩

/-- Everything that was there is there as it was. -/
def Grown {α : Type} (s s' : Machine α) : Prop := s.disk.Grows s'.disk

instance {α : Type} : Std.Refl (Grown (α := α)) := ⟨fun s => Disk.Grows.refl s.disk⟩

instance {α : Type} : IsTrans (Machine α) Grown := ⟨fun _ _ _ h h' => h.trans h'⟩

theorem SameDisk.grown {α : Type} {s s' : Machine α} (h : SameDisk s s') : Grown s s' := by
  rw [Grown, show s'.disk = s.disk from h]
  exact Disk.Grows.refl _

theorem Kernel.ask_sameDisk {α β : Type} (k : Kernel) (c : Call) (f : Disk α → Except Errno β) :
    Maintains SameDisk (k.ask c f) := by
  intro s
  unfold final
  cases h : k.ask c f s with
  | ok b s' => exact (Kernel.ask_ok h).2
  | error e s' => exact (Kernel.ask_error h).2

theorem Kernel.list_sameDisk {α : Type} (k : Kernel) (p : Path) : Maintains SameDisk (k.list (α := α) p) :=
  fun s => k.ask_sameDisk ⟨.list, p⟩ _ s

end Lib
