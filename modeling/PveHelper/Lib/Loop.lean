/-
A loop whose body may raise and that nothing guards: it ends at the first item
whose turn raises, with the turns before it done. What it serves is decided by
where the raising items stand: every item that should be served is, exactly when
none of them comes after one that raises.
-/
import Mathlib.Data.List.Nodup

namespace Lib

variable {α β ε : Type} (f : α → Except ε β)

/-- The turns the loop completes, each with its result, and what ends it early. -/
def untilRaise : List α → List (α × β) × Option ε
  | [] => ([], none)
  | x :: xs =>
    match f x with
    | .error e => ([], some e)
    | .ok b => ((x, b) :: (untilRaise xs).1, (untilRaise xs).2)

variable {f}

theorem untilRaise_error {x : α} {xs : List α} {e : ε} (h : f x = .error e) : untilRaise f (x :: xs) = ([], some e) := by
  simp [untilRaise, h]

theorem untilRaise_ok {x : α} {xs : List α} {b : β} (h : f x = .ok b) :
    untilRaise f (x :: xs) = ((x, b) :: (untilRaise f xs).1, (untilRaise f xs).2) := by
  simp [untilRaise, h]

/-- The loop comes to its end exactly when no turn raises. -/
theorem untilRaise_ends_iff {xs : List α} : (untilRaise f xs).2 = none ↔ ∀ x ∈ xs, (f x).isOk = true := by
  induction xs with
  | nil => simp [untilRaise]
  | cons x xs ih =>
    cases h : f x with
    | error e => simp [untilRaise_error h, h, Except.isOk, Except.toBool]
    | ok b => simp [untilRaise_ok h, h, ih, Except.isOk, Except.toBool]

/-- A loop that comes to its end has done every turn. -/
theorem untilRaise_all {xs : List α} (h : ∀ x ∈ xs, (f x).isOk = true) : (untilRaise f xs).1.map Prod.fst = xs := by
  induction xs with
  | nil => rfl
  | cons x xs ih =>
    cases hx : f x with
    | error e => simpa [hx, Except.isOk, Except.toBool] using h x (List.mem_cons_self ..)
    | ok b => simp [untilRaise_ok hx, ih fun y hy => h y (List.mem_cons_of_mem _ hy)]

/-- Every wanted item is served exactly when none of them stands after an item whose
turn raises. -/
theorem untilRaise_serves_iff {p : α → Prop} (hp : ∀ x, p x → (f x).isOk = true) {xs : List α} (hn : xs.Nodup) :
    (∀ x ∈ xs, p x → x ∈ (untilRaise f xs).1.map Prod.fst) ↔
      xs.Pairwise fun x y => p y → (f x).isOk = true := by
  induction xs with
  | nil => simp
  | cons x xs ih =>
    obtain ⟨hx, hn⟩ := List.nodup_cons.mp hn
    rw [List.pairwise_cons]
    cases hfx : f x with
    | error e =>
      have hraises : ¬ (Except.error e : Except ε β).isOk = true := by simp [Except.isOk, Except.toBool]
      simp only [untilRaise_error hfx, List.map_nil, List.not_mem_nil]
      constructor
      · intro h
        have hnone : ∀ y ∈ xs, ¬ p y := fun y hy hwant => h y (List.mem_cons_of_mem _ hy) hwant
        refine ⟨fun y hy hwant => absurd hwant (hnone y hy), ?_⟩
        exact List.pairwise_of_forall_mem_list fun _ _ y hy hwant => absurd hwant (hnone y hy)
      · intro h y hy hwant
        rcases List.mem_cons.mp hy with rfl | hy
        · have hok := hp y hwant
          rw [hfx] at hok
          exact hraises hok
        · exact hraises (h.1 y hy hwant)
    | ok b =>
      have hok : (Except.ok b : Except ε β).isOk = true := rfl
      simp only [untilRaise_ok hfx, List.map_cons, hok, imp_true_iff, true_and]
      rw [← ih hn]
      constructor
      · intro h y hy hwant
        rcases List.mem_cons.mp (h y (List.mem_cons_of_mem _ hy) hwant) with rfl | hmem
        · exact absurd hy hx
        · exact hmem
      · intro h y hy hwant
        rcases List.mem_cons.mp hy with rfl | hy
        · exact List.mem_cons_self ..
        · exact List.mem_cons_of_mem _ (h y hy hwant)

/-- A fold that may stop is, where it does not, the fold of its values. -/
theorem foldlM_eq_foldl {σ : Type} {f : σ → α → Option σ} {g : σ → α → σ} (hf : ∀ s x s', f s x = some s' → s' = g s x)
    {xs : List α} {s s' : σ} (h : xs.foldlM f s = some s') : s' = xs.foldl g s := by
  induction xs generalizing s with
  | nil => exact (Option.some.inj h).symm
  | cons x xs ih =>
    rw [List.foldlM_cons] at h
    obtain ⟨t, ht, h⟩ := Option.bind_eq_some_iff.mp h
    rw [List.foldl_cons, ← hf s x t ht]
    exact ih h

/-- The first item of each key that has not been seen. -/
def firstsBy {κ : Type} [DecidableEq κ] (key : α → κ) : List κ → List α → List α
  | _, [] => []
  | seen, x :: xs => if key x ∈ seen then firstsBy key seen xs else x :: firstsBy key (key x :: seen) xs

theorem mem_firstsBy {κ : Type} [DecidableEq κ] {key : α → κ} {xs : List α} {seen : List κ} {x : α} :
    x ∈ firstsBy key seen xs ↔ key x ∉ seen ∧ xs.find? (fun y => key y = key x) = some x := by
  induction xs generalizing seen with
  | nil => simp [firstsBy]
  | cons a xs ih =>
    unfold firstsBy
    by_cases hkey : key a = key x
    · rw [List.find?_cons_of_pos (by simpa using hkey), Option.some.injEq]
      by_cases hseen : key a ∈ seen
      · rw [if_pos hseen, ih]
        exact ⟨fun h => absurd (hkey ▸ hseen) h.1, fun h => absurd (hkey ▸ hseen) h.1⟩
      · rw [if_neg hseen, List.mem_cons, ih]
        constructor
        · rintro (rfl | ⟨hout, -⟩)
          · exact ⟨hseen, rfl⟩
          · exact absurd (hkey ▸ List.mem_cons_self) hout
        · exact fun h => .inl h.2.symm
    · rw [List.find?_cons_of_neg (by simpa using hkey)]
      by_cases hseen : key a ∈ seen
      · rw [if_pos hseen, ih]
      · have hne : x ≠ a := fun he => hkey (he ▸ rfl)
        rw [if_neg hseen, List.mem_cons, or_iff_right hne, ih, List.mem_cons, not_or, and_assoc]
        exact ⟨fun h => h.2, fun h => ⟨fun he => hkey he.symm, h⟩⟩

/-- Every key that is there and has not been seen is the key of a first item. -/
theorem exists_firstsBy {κ : Type} [DecidableEq κ] {key : α → κ} {xs : List α} {seen : List κ} {x : α} (hx : x ∈ xs)
    (hout : key x ∉ seen) : ∃ y ∈ firstsBy key seen xs, key y = key x := by
  cases hfind : xs.find? (fun y => key y = key x) with
  | none => exact absurd (List.find?_eq_none.mp hfind x hx) (by simp)
  | some y =>
    have hkey : key y = key x := by simpa using List.find?_some hfind
    refine ⟨y, mem_firstsBy.mpr ⟨hkey ▸ hout, ?_⟩, hkey⟩
    rw [hkey, hfind]

/-- Along a list in strict order, "each before each later one" is "each below each greater one". -/
theorem pairwise_iff_of_strict {lt R : α → α → Prop} (hlt : ∀ x y, lt x y → ¬ lt y x) {xs : List α} (hs : xs.Pairwise lt) :
    xs.Pairwise R ↔ ∀ x ∈ xs, ∀ y ∈ xs, lt x y → R x y := by
  constructor
  · intro h
    induction xs with
    | nil => simp
    | cons a xs ih =>
      obtain ⟨ha, hs⟩ := List.pairwise_cons.mp hs
      obtain ⟨hR, h⟩ := List.pairwise_cons.mp h
      intro x hx y hy hxy
      rcases List.mem_cons.mp hx with rfl | hx' <;> rcases List.mem_cons.mp hy with rfl | hy'
      · exact absurd hxy (hlt _ _ hxy)
      · exact hR y hy'
      · exact absurd hxy (hlt _ _ (ha x hx'))
      · exact ih hs h x hx' y hy' hxy
  · exact fun h => hs.imp_of_mem fun hx hy hxy => h _ hx _ hy hxy

end Lib
