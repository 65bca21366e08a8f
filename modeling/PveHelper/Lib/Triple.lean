/-
Pre- and postconditions of computations over a store that may raise. From a state that
meets the precondition, what the computation answers meets one postcondition and what
it raises meets another. There is one rule for each way a program is built: `bind`,
`except`, `ensuring`, `raisingAs` and the calls of a kernel.
-/
import PveHelper.Lib.Calls

namespace Lib

section
variable {ε ε' σ α β : Type}

/-- What a computation raises is one of these. -/
def Raises (K : ε → Prop) (m : EStateM ε σ α) : Prop := ∀ s e s', m s = .error e s' → K e

namespace Raises

variable {K : ε → Prop} {m : EStateM ε σ α}

theorem pure {a : α} : Raises K (Pure.pure a : EStateM ε σ α) := fun s e s' h => by cases h

theorem raise {e : ε} (h : K e) : Raises K (Lib.raise e : EStateM ε σ α) := fun s e' s' he => by
  cases he
  exact h

theorem bind {f : α → EStateM ε σ β} (hm : Raises K m) (hf : ∀ a, Raises K (f a)) : Raises K (m >>= f) := by
  intro s e s' h
  rcases bind_error.mp h with he | ⟨a, s₁, -, he⟩
  · exact hm s e s' he
  · exact hf a s₁ e s' he

theorem after {f : α → EStateM ε σ β} {V : α → Prop} (hm : Raises K m) (hret : Returns V m)
    (hf : ∀ a, V a → Raises K (f a)) : Raises K (m >>= f) := by
  intro s e s' h
  rcases bind_error.mp h with he | ⟨a, s₁, ha, he⟩
  · exact hm s e s' he
  · exact hf a (hret s a s₁ ha) s₁ e s' he

/-- What no handler takes is raised as it is. -/
theorem except {handler : ε → Option (EStateM ε σ α)} (hcaught : ∀ e h, handler e = some h → Raises K h)
    (huncaught : ∀ s e s', m s = .error e s' → handler e = none → K e) : Raises K (Lib.except m handler) := by
  intro s e' s' h
  rcases except_error.mp h with ⟨he, hh⟩ | ⟨e, s₁, h', -, hh, he'⟩
  · exact huncaught s e' s' he hh
  · exact hcaught e h' hh s₁ e' s' he'

theorem ensuring {cleanup : EStateM ε σ Unit} (hm : Raises K m) (hcleanup : Raises K cleanup) :
    Raises K (Lib.ensuring m cleanup) := by
  intro s e s' h
  rcases ensuring_error.mp h with ⟨a, s₁, -, hlast⟩ | ⟨s₁, hfirst, -⟩ | ⟨e', s₁, -, hlast⟩
  · exact hcleanup s₁ e s' hlast
  · exact hm s e s₁ hfirst
  · exact hcleanup s₁ e s' hlast

theorem reraising {cleanup : EStateM ε σ Unit} (hm : Raises K m) (hcleanup : Raises K cleanup) :
    Raises K (Lib.reraising m cleanup) := by
  intro s e s' h
  obtain ⟨e', s₁, hfirst, hlast | ⟨rfl, -⟩⟩ := reraising_error.mp h
  · exact hcleanup s₁ e s' hlast
  · exact hm s e' s₁ hfirst

theorem raisingAs {f : ε → ε'} {K : ε' → Prop} (h : ∀ e, K (f e)) : Raises K (Lib.raisingAs f m) := by
  intro s e' s' he
  obtain ⟨e, -, rfl⟩ := raisingAs_error.mp he
  exact h e

theorem unlessRaise {p : Bool} {e : ε} (h : K e) : Raises K (Lib.unlessRaise p e : EStateM ε σ Unit) := by
  cases p
  · exact raise h
  · exact pure

end Raises

/-- From a state in `P` the computation answers into `Q` or raises into `E`. -/
structure Triple (P : σ → Prop) (m : EStateM ε σ α) (Q : α → σ → Prop) (E : ε → σ → Prop) : Prop where
  ok : ∀ s a s', P s → m s = .ok a s' → Q a s'
  error : ∀ s e s', P s → m s = .error e s' → E e s'

namespace Triple

variable {P P' : σ → Prop} {m : EStateM ε σ α} {Q Q' M : α → σ → Prop} {E E' F : ε → σ → Prop}

theorem pure {a : α} (h : ∀ s, P s → Q a s) : Triple P (Pure.pure a : EStateM ε σ α) Q E where
  ok s b s' hs hm := by
    cases hm
    exact h s hs
  error s e s' _ hm := by cases hm

theorem raise {e : ε} (h : ∀ s, P s → E e s) : Triple P (Lib.raise e : EStateM ε σ α) Q E where
  ok s b s' _ hm := by cases hm
  error s e' s' hs hm := by
    cases hm
    exact h s hs

theorem weaken (hm : Triple P' m Q' E') (hP : ∀ s, P s → P' s) (hQ : ∀ a s, Q' a s → Q a s)
    (hE : ∀ e s, E' e s → E e s) : Triple P m Q E where
  ok s a s' hs h := hQ a s' (hm.ok s a s' (hP s hs) h)
  error s e s' hs h := hE e s' (hm.error s e s' (hP s hs) h)

theorem bind {f : α → EStateM ε σ β} {R : β → σ → Prop} (hm : Triple P m Q E) (hf : ∀ a, Triple (Q a) (f a) R E) :
    Triple P (m >>= f) R E where
  ok s b s'' hs h := by
    obtain ⟨a, s', ha, hb⟩ := bind_ok.mp h
    exact (hf a).ok s' b s'' (hm.ok s a s' hs ha) hb
  error s e s'' hs h := by
    rcases bind_error.mp h with he | ⟨a, s', ha, he⟩
    · exact hm.error s e s'' hs he
    · exact (hf a).error s' e s'' (hm.ok s a s' hs ha) he

theorem raises (hm : Triple P m Q E') (hE : ∀ e s, E' e s → E e s) : Triple P m Q E :=
  hm.weaken (fun _ h => h) (fun _ _ h => h) hE

theorem of_pure {p : Prop} (h : p → Triple P m Q E) : Triple (fun s => p ∧ P s) m Q E where
  ok s a s' hs hm := (h hs.1).ok s a s' hs.2 hm
  error s e s' hs hm := (h hs.1).error s e s' hs.2 hm

/-- A handler takes up where the raise left. -/
theorem except {handler : ε → Option (EStateM ε σ α)} (hm : Triple P m Q F)
    (hcaught : ∀ e h, handler e = some h → Triple (F e) h Q E)
    (huncaught : ∀ e s, handler e = none → F e s → E e s) : Triple P (Lib.except m handler) Q E where
  ok s a s'' hs h := by
    rcases except_ok.mp h with ha | ⟨e, s', h', he, hh, ha⟩
    · exact hm.ok s a s'' hs ha
    · exact (hcaught e h' hh).ok s' a s'' (hm.error s e s' hs he) ha
  error s e' s'' hs h := by
    rcases except_error.mp h with ⟨he, hh⟩ | ⟨e, s', h', he, hh, he'⟩
    · exact huncaught e' s'' hh (hm.error s e' s'' hs he)
    · exact (hcaught e h' hh).error s' e' s'' (hm.error s e s' hs he) he'

/-- What is done at the end is done after an answer and after a raise. -/
theorem ensuring {cleanup : EStateM ε σ Unit} (hm : Triple P m M F)
    (hok : ∀ a, Triple (M a) cleanup (fun _ => Q a) E) (herror : ∀ e, Triple (F e) cleanup (fun _ => E e) E) :
    Triple P (Lib.ensuring m cleanup) Q E where
  ok s a s'' hs h := by
    obtain ⟨s', hfirst, hlast⟩ := ensuring_ok.mp h
    exact (hok a).ok s' () s'' (hm.ok s a s' hs hfirst) hlast
  error s e s'' hs h := by
    rcases ensuring_error.mp h with ⟨a, s', hfirst, hlast⟩ | ⟨s', hfirst, hlast⟩ | ⟨e', s', hfirst, hlast⟩
    · exact (hok a).error s' e s'' (hm.ok s a s' hs hfirst) hlast
    · exact (herror e).ok s' () s'' (hm.error s e s' hs hfirst) hlast
    · exact (herror e').error s' e s'' (hm.error s e' s' hs hfirst) hlast

theorem reraising {cleanup : EStateM ε σ Unit} (hm : Triple P m Q F) (hcleanup : ∀ e, Triple (F e) cleanup (fun _ => E e) E) :
    Triple P (Lib.reraising m cleanup) Q E := by
  refine Triple.except hm (fun e m' hm' => ?_) fun e s hnone => by cases hnone
  cases hm'
  exact (hcleanup e).bind fun _ => Triple.raise fun s hs => hs

theorem raisingAs {f : ε → ε'} {G : ε' → σ → Prop} (hm : Triple P m Q fun e => G (f e)) :
    Triple P (Lib.raisingAs f m) Q G where
  ok s a s' hs h := hm.ok s a s' hs (raisingAs_ok.mp h)
  error s e' s' hs h := by
    obtain ⟨e, he, rfl⟩ := raisingAs_error.mp h
    exact hm.error s e s' hs he

theorem unlessRaise {p : Bool} {e : ε} {R : Unit → σ → Prop} (hok : ∀ s, P s → p = true → R () s)
    (herror : ∀ s, P s → E e s) :
    Triple P (Lib.unlessRaise p e) R E := by
  cases p
  · exact raise herror
  · exact pure fun s hs => hok s hs rfl

/-- What every run of a part leads to, the part leads to. -/
theorem of_maintains {R : σ → σ → Prop} (hm : Maintains R m) (h : ∀ s s', P s → R s s' → P' s') :
    Triple P m (fun _ => P') fun _ => P' where
  ok s _ s' hs hok := h s s' hs (hm.of_ok hok)
  error s _ s' hs herror := h s s' hs (hm.of_error herror)

theorem returning {V : α → Prop} (hm : Triple P m Q E) (hret : Returns V m) :
    Triple P m (fun a s => V a ∧ Q a s) E where
  ok s a s' hs hok := ⟨hret s a s' hok, hm.ok s a s' hs hok⟩
  error := hm.error

theorem andRaises {K : ε → Prop} (hm : Triple P m Q E) (hraises : Raises K m) : Triple P m Q fun e s => K e ∧
    E e s where
  ok := hm.ok
  error s e s' hs herror := ⟨hraises s e s' herror, hm.error s e s' hs herror⟩

/-- A part that is right from each single state. -/
theorem of_each (h : ∀ s₀, P s₀ → Triple (· = s₀) m Q E) : Triple P m Q E where
  ok s a s' hs hok := (h s hs).ok s a s' rfl hok
  error s e s' hs herror := (h s hs).error s e s' rfl herror

end Triple

end

/-! ## Calls -/

section
variable {α β : Type} {k : Kernel} {c : Call} {P : Machine α → Prop}

theorem Kernel.ask_triple {f : Disk α → Except Errno β} {Q : β → Machine α → Prop} {E : Errno → Machine α → Prop}
    (hok : ∀ s b i, P s → f s.disk = .ok b → Q b ⟨s.disk, i⟩) (herror : ∀ s e i, P s → E e ⟨s.disk, i⟩) :
    Triple P (k.ask c f) Q E where
  ok s b s' hs h := by
    obtain ⟨hf, hsame⟩ := Kernel.ask_ok h
    have hq := hok s b s'.calls hs hf
    rwa [← hsame] at hq
  error s e s' hs h := by
    have he := herror s e s'.calls hs
    rwa [← (Kernel.ask_error h).2] at he

/-- A look that only the tree can refuse. -/
theorem Kernel.ask_accepted {kinds : List CallKind} (hk : k.Accepts kinds) (hc : c.kind ∈ kinds)
    {f : Disk α → Except Errno β} {Q : β → Machine α → Prop} {E : Errno → Machine α → Prop}
    (hok : ∀ s b i, P s → f s.disk = .ok b → Q b ⟨s.disk, i⟩)
    (herror : ∀ s e i, P s → f s.disk = .error e → E e ⟨s.disk, i⟩) : Triple P (k.ask c f) Q E where
  ok := (Kernel.ask_triple (E := fun _ _ => True) hok fun _ _ _ _ => trivial).ok
  error s e s' hs h := by
    cases hf : f s.disk with
    | ok b =>
      rw [Kernel.ask_of_ok (hk _ c hc) hf] at h
      cases h
    | error e' =>
      rw [Kernel.ask_of_refused (hk _ c hc) hf] at h
      cases h
      exact herror s e _ hs hf

theorem Kernel.act_triple {f : Disk α → Except Errno (Disk α)} {Q : Unit → Machine α → Prop}
    {E : Errno → Machine α → Prop}
    (hok : ∀ s d i, P s → f s.disk = .ok d → Q () ⟨d, i⟩) (herror : ∀ s e i, P s → E e ⟨s.disk, i⟩) :
    Triple P (k.act c f) Q E where
  ok s _ s' hs h := hok s s'.disk s'.calls hs (Kernel.act_ok h)
  error s e s' hs h := by
    have he := herror s e s'.calls hs
    rwa [← (Kernel.act_error h).2] at he

/-- A change that only the tree can refuse. -/
theorem Kernel.act_accepted {kinds : List CallKind} (hk : k.Accepts kinds) (hc : c.kind ∈ kinds)
    {f : Disk α → Except Errno (Disk α)} {Q : Unit → Machine α → Prop} {E : Errno → Machine α → Prop}
    (hok : ∀ s d i, P s → f s.disk = .ok d → Q () ⟨d, i⟩)
    (herror : ∀ s e i, P s → f s.disk = .error e → E e ⟨s.disk, i⟩) : Triple P (k.act c f) Q E where
  ok := (Kernel.act_triple (E := fun _ _ => True) hok fun _ _ _ _ => trivial).ok
  error s e s' hs h := by
    have hfault := hk s.calls c hc
    cases hf : f s.disk with
    | ok d =>
      rw [Kernel.act_of_ok hfault hf] at h
      cases h
    | error e' =>
      simp only [Kernel.act, hfault, hf] at h
      cases h
      exact herror s e _ hs hf

end

end Lib
