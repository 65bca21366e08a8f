/-
Tables: rows with a unique key, as a relational database keeps them under a
unique constraint. A table carries its uniqueness, so a lookup by key
determines the row, and every operation below is described by what a lookup
sees afterwards (`get_put`, `get_modify`, `get_keep`, `get_alter`). Proofs
about a table's user need these equations and `mem_iff_get` only, never the
list underneath.
-/
import Mathlib.Data.List.Nodup
import Mathlib.Data.List.Lookmap

namespace Lib

/-- Rows no two of which share a key. -/
structure Table {α κ : Type} (key : α → κ) where
  rows : List α
  unique : (rows.map key).Nodup

namespace Table

variable {α κ : Type} {key : α → κ}

/-- The table with no row. -/
def empty : Table key := ⟨[], by simp⟩

/-- Every row rewritten, keys kept. -/
def modify (t : Table key) (f : α → α) (hf : ∀ r, key (f r) = key r) : Table key where
  rows := t.rows.map f
  unique := by
    have : key ∘ f = key := funext hf
    rw [List.map_map, this]
    exact t.unique

/-- The rows a condition keeps (`exclude(..).delete()`). -/
def keep (t : Table key) (p : α → Bool) : Table key where
  rows := t.rows.filter p
  unique := t.unique.sublist (List.filter_sublist.map key)

theorem mem_keep {t : Table key} {p : α → Bool} {r : α} : r ∈ (t.keep p).rows ↔ r ∈ t.rows ∧ p r = true := by
  simp [keep]

variable [DecidableEq κ]

/-- The row stored under a key. -/
def get (t : Table key) (k : κ) : Option α := t.rows.find? fun r => decide (key r = k)

@[simp] theorem get_empty (k : κ) : (empty : Table key).get k = none := rfl

theorem key_of_get {t : Table key} {k : κ} {r : α} (h : t.get k = some r) : key r = k := by
  simpa using List.find?_some h

theorem mem_of_get {t : Table key} {k : κ} {r : α} (h : t.get k = some r) : r ∈ t.rows :=
  List.mem_of_find?_eq_some h

theorem find?_key_of_mem {rows : List α} {r : α} (hn : (rows.map key).Nodup) (h : r ∈ rows) :
    rows.find? (fun x => decide (key x = key r)) = some r := by
  induction rows with
  | nil => cases h
  | cons x rows ih =>
    simp only [List.map_cons, List.nodup_cons, List.mem_map, not_exists, not_and] at hn
    rcases List.mem_cons.mp h with rfl | h
    · simp
    · have hne : ¬ key x = key r := fun he => hn.1 r h he.symm
      simp only [List.find?_cons, hne, decide_false]
      exact ih hn.2 h

/-- A row is in the table exactly when its key finds it. -/
theorem mem_iff_get {t : Table key} {r : α} : r ∈ t.rows ↔ t.get (key r) = some r :=
  ⟨find?_key_of_mem t.unique, mem_of_get⟩

theorem get_of_mem {t : Table key} {r : α} (h : r ∈ t.rows) : t.get (key r) = some r :=
  mem_iff_get.mp h

theorem eq_of_mem_of_key {t : Table key} {r x : α} (hr : r ∈ t.rows) (hx : x ∈ t.rows)
    (h : key r = key x) : r = x := by
  have h₁ := get_of_mem hr
  rw [h, get_of_mem hx] at h₁
  exact (Option.some.inj h₁).symm

theorem get_eq_none {t : Table key} {k : κ} : t.get k = none ↔ ∀ r ∈ t.rows, key r ≠ k := by
  simp [get]

/-! ## Rewriting rows in place -/

@[simp] theorem get_modify (t : Table key) (f : α → α) (hf) (k : κ) :
    (t.modify f hf).get k = (t.get k).map f := by
  have hcomp : (fun r => decide (key r = k)) ∘ f = fun r => decide (key r = k) := by
    funext r; simp [hf r]
  simp only [get, modify, List.find?_map, hcomp]

/-- The rows a condition selects, rewritten (`filter(..).update(..)`). -/
def updateWhere (t : Table key) (p : α → Bool) (f : α → α) (hf : ∀ r, key (f r) = key r) : Table key :=
  t.modify (fun r => if p r then f r else r) fun r => by split <;> simp [hf]

@[simp] theorem get_updateWhere (t : Table key) (p : α → Bool) (f : α → α) (hf) (k : κ) :
    (t.updateWhere p f hf).get k = (t.get k).map fun r => if p r then f r else r := by
  simp [updateWhere]

/-- The row under one key, rewritten; a missing row stays missing
(`filter(pk=k).update(..)`). -/
def alter (t : Table key) (k : κ) (f : α → α) (hf : ∀ r, key (f r) = key r) : Table key :=
  t.updateWhere (fun r => decide (key r = k)) f hf

theorem get_alter (t : Table key) (k : κ) (f : α → α) (hf) (k' : κ) :
    (t.alter k f hf).get k' = if k' = k then (t.get k').map f else t.get k' := by
  simp only [alter, get_updateWhere]
  cases h : t.get k' with
  | none => simp
  | some r =>
    have hk := key_of_get h
    by_cases he : k' = k <;> simp [hk, he]

@[simp] theorem get_alter_self (t : Table key) (k : κ) (f : α → α) (hf) :
    (t.alter k f hf).get k = (t.get k).map f := by
  simp [get_alter]

/-! ## Removing and storing rows -/

@[simp] theorem get_keep (t : Table key) (p : α → Bool) (k : κ) :
    (t.keep p).get k = (t.get k).filter p := by
  cases h : t.get k with
  | none =>
    rw [get_eq_none] at h
    simp only [Option.filter_none]
    rw [get_eq_none]
    intro r hr
    exact h r (mem_keep.mp hr).1
  | some r =>
    have hk := key_of_get h
    by_cases hp : p r = true
    · have := get_of_mem (mem_keep.mpr ⟨mem_of_get h, hp⟩)
      rw [hk] at this
      rw [this, Option.filter_some_pos hp]
    · rw [Option.filter_some_neg (by simpa using hp), get_eq_none]
      intro x hx hxk
      obtain ⟨hx, hpx⟩ := mem_keep.mp hx
      rw [eq_of_mem_of_key hx (mem_of_get h) (hxk.trans hk.symm)] at hpx
      exact hp hpx

/-- The row stored under its own key, in place of the one there if any. -/
def put (t : Table key) (r : α) : Table key where
  rows := if t.rows.any fun x => decide (key x = key r) then
      t.rows.map fun x => if key x = key r then r else x
    else t.rows ++ [r]
  unique := by
    split
    · have : key ∘ (fun x => if key x = key r then r else x) = key := by
        funext x
        by_cases h : key x = key r <;> simp [h]
      rw [List.map_map, this]
      exact t.unique
    · rename_i h
      simp only [List.any_eq_true, decide_eq_true_eq, not_exists, not_and] at h
      rw [List.map_append, List.nodup_append]
      refine ⟨t.unique, by simp, ?_⟩
      intro a ha b hb
      simp only [List.map_cons, List.map_nil, List.mem_singleton] at hb
      simp only [List.mem_map] at ha
      obtain ⟨x, hx, rfl⟩ := ha
      rw [hb]
      exact h x hx

theorem get_put (t : Table key) (r : α) (k : κ) :
    (t.put r).get k = if k = key r then some r else t.get k := by
  simp only [get, put]
  split
  · rename_i h
    simp only [List.any_eq_true, decide_eq_true_eq] at h
    have hcomp : (fun x => decide (key x = k)) ∘ (fun x => if key x = key r then r else x)
        = fun x => decide (key x = k) := by
      funext x
      by_cases hx : key x = key r <;> simp [hx]
    rw [List.find?_map, hcomp]
    by_cases hk : k = key r
    · obtain ⟨x, hx, hxr⟩ := h
      subst hk
      have := find?_key_of_mem t.unique hx
      rw [hxr] at this
      simp [this, hxr]
    · rw [if_neg hk]
      cases hf : t.rows.find? fun x => decide (key x = k) with
      | none => rfl
      | some x =>
        have hxk : key x = k := by simpa using List.find?_some hf
        have hne : ¬ key x = key r := fun he => hk (hxk.symm.trans he)
        simp [hne]
  · rename_i h
    simp only [List.any_eq_true, decide_eq_true_eq, not_exists, not_and] at h
    rw [List.find?_append]
    by_cases hk : k = key r
    · have hn : t.rows.find? (fun x => decide (key x = k)) = none := by
        rw [List.find?_eq_none]
        intro x hx
        simpa [hk] using h x hx
      subst hk
      simp [hn]
    · have hne : ¬ key r = k := fun he => hk he.symm
      simp [hk, hne]

/-- A loop of writes: the last row with the key wins. -/
theorem get_foldl_put {β : Type} (f : β → α) (k : κ) (os : List β) (t : Table key) :
    (os.foldl (fun t o => t.put (f o)) t).get k
      = ((os.reverse.find? fun o => decide (key (f o) = k)).map f).or (t.get k) := by
  induction os generalizing t with
  | nil => simp
  | cons o os ih =>
    rw [List.foldl_cons, ih, List.reverse_cons, List.find?_append, get_put]
    cases os.reverse.find? fun o => decide (key (f o) = k) with
    | some x => simp
    | none => by_cases hk : k = key (f o) <;> simp [hk, eq_comm]

/-- The dictionary that these rows make, a later one standing for an earlier one of its key. -/
def ofRows (rows : List α) : Table key := rows.foldl put empty

theorem get_ofRows (rows : List α) (k : κ) : (ofRows rows : Table key).get k = rows.reverse.find? fun r => decide (key r = k) := by
  have h := @get_foldl_put _ _ key _ _ id k rows empty
  simpa [ofRows] using h

theorem mem_of_get_ofRows {rows : List α} {k : κ} {r : α} (h : (ofRows rows : Table key).get k = some r) : r ∈ rows := by
  rw [get_ofRows] at h
  exact List.mem_reverse.mp (List.mem_of_find?_eq_some h)

theorem mem_rows_ofRows {rows : List α} {r : α} (h : r ∈ (ofRows rows : Table key).rows) : r ∈ rows :=
  mem_of_get_ofRows (get_of_mem h)

/-- The rows of a table in any order make the table again. -/
theorem get_ofRows_perm {t : Table key} {rows : List α} (h : rows.Perm t.rows) (k : κ) :
    (ofRows rows : Table key).get k = t.get k := by
  have hnodup : (rows.reverse.map key).Nodup := by
    refine (List.Perm.nodup_iff ?_).mpr t.unique
    exact ((List.reverse_perm rows).trans h).map key
  rw [get_ofRows]
  cases hget : t.get k with
  | none =>
    refine List.find?_eq_none.mpr fun r hr => ?_
    have hmem : r ∈ t.rows := h.mem_iff.mp (List.mem_reverse.mp hr)
    simpa using get_eq_none.mp hget r hmem
  | some r =>
    have hmem : r ∈ rows.reverse := List.mem_reverse.mpr (h.mem_iff.mpr (mem_of_get hget))
    rw [← key_of_get hget]
    exact find?_key_of_mem hnodup hmem

/-! ## Questions over all rows -/

theorem any_rows {t : Table key} {p : α → Bool} :
    t.rows.any p = true ↔ ∃ k r, t.get k = some r ∧ p r = true := by
  simp only [List.any_eq_true]
  constructor
  · intro h
    obtain ⟨r, hr, hp⟩ := h
    exact ⟨key r, r, get_of_mem hr, hp⟩
  · intro hx
    obtain ⟨k, r, hk, hp⟩ := hx
    exact ⟨r, mem_of_get hk, hp⟩

/-! ## What holds of every row -/

/-- Every row of the table satisfies `P`. -/
def All (P : α → Prop) (t : Table key) : Prop := ∀ k r, t.get k = some r → P r

theorem All.put {P : α → Prop} {t : Table key} (h : t.All P) {r : α} (hr : P r) : (t.put r).All P := by
  intro k x hx
  rw [get_put] at hx
  split at hx
  · exact Option.some.inj hx ▸ hr
  · exact h k x hx

theorem All.keep {P : α → Prop} {t : Table key} (h : t.All P) (p : α → Bool) : (t.keep p).All P := by
  intro k x hx
  rw [get_keep, Option.filter_eq_some_iff] at hx
  exact h k x hx.1

theorem all_modify {P : α → Prop} {t : Table key} {f : α → α} (hf) (h : t.All fun r => P (f r)) :
    (t.modify f hf).All P := by
  intro k x hx
  rw [get_modify, Option.map_eq_some_iff] at hx
  obtain ⟨r, hr, rfl⟩ := hx
  exact h k r hr

theorem All.updateWhere {P Q : α → Prop} {t : Table key} {p : α → Bool} {f : α → α} (h : t.All P) (hf)
    (hp : ∀ r, p r = true → P r → Q (f r)) (hn : ∀ r, p r = false → P r → Q r) : (t.updateWhere p f hf).All Q := by
  intro k x hx
  rw [get_updateWhere, Option.map_eq_some_iff] at hx
  obtain ⟨r, hr, rfl⟩ := hx
  by_cases hpr : p r = true
  · rw [if_pos hpr]
    exact hp r hpr (h k r hr)
  · rw [if_neg hpr]
    exact hn r (by simpa using hpr) (h k r hr)

theorem All.alter {P Q : α → Prop} {t : Table key} {k : κ} {f : α → α} {hf} (h : t.All P)
    (hk : ∀ r, key r = k → P r → Q (f r)) (hne : ∀ r, key r ≠ k → P r → Q r) : (t.alter k f hf).All Q :=
  h.updateWhere hf (fun r hr => hk r (of_decide_eq_true hr)) fun r hr => hne r (of_decide_eq_false hr)

/-- What each write keeps, a loop of writes keeps. -/
theorem All.foldl {β : Type} {P : α → Prop} {f : Table key → β → Table key} {os : List β} {t : Table key}
    (h : t.All P) (hf : ∀ t o, o ∈ os → t.All P → (f t o).All P) : (os.foldl f t).All P := by
  induction os generalizing t with
  | nil => exact h
  | cons o os ih =>
    have hfirst : (f t o).All P := hf t o (List.mem_cons_self ..) h
    have hrest : ∀ t o', o' ∈ os → t.All P → (f t o').All P := fun t o' ho => hf t o' (List.mem_cons_of_mem _ ho)
    exact ih hfirst hrest

end Table

/-! ## What a reader of some rows sees -/

namespace Table

variable {α κ : Type} {key : α → κ} [DecidableEq κ]

/-- Deleting rows is not seen by who reads none of them. -/
theorem filter_get_keep {t : Table key} {p q : α → Bool} (h : ∀ r, q r = true → p r = true) (k : κ) :
    ((t.keep p).get k).filter q = (t.get k).filter q := by
  rw [get_keep, Option.filter_filter]
  congr 1
  funext r
  cases hq : q r with
  | false => simp
  | true => simp [h r hq]

/-- Rewriting rows is not seen by who reads them neither before nor after. -/
theorem filter_get_updateWhere {t : Table key} {p q : α → Bool} {f : α → α} (hf)
    (h : ∀ k r, t.get k = some r → p r = true → q r = false ∧ q (f r) = false) (k : κ) :
    ((t.updateWhere p f hf).get k).filter q = (t.get k).filter q := by
  rw [get_updateWhere]
  cases hr : t.get k with
  | none => rfl
  | some r =>
    by_cases hp : p r = true
    · obtain ⟨hbefore, hafter⟩ := h k r hr hp
      simp [hp, Option.filter, hbefore, hafter]
    · simp [hp]

end Table

/-! ## Keys from a sequence -/

/-- A table whose keys a sequence hands out: a key once given is not given again. -/
structure Serial {α : Type} (key : α → Nat) where
  table : Table key
  next : Nat
  below : ∀ {k r}, table.get k = some r → k < next

namespace Serial

variable {α : Type} {key : α → Nat}

/-- The table with no row, its sequence at one. -/
def empty : Serial key := ⟨.empty, 1, fun h => by cases h⟩

/-- A new row under the next key. -/
def insert (t : Serial key) (row : Nat → α) (hrow : ∀ k, key (row k) = k) : Serial key where
  table := t.table.put (row t.next)
  next := t.next + 1
  below := by
    intro k r h
    rw [Table.get_put, hrow] at h
    split at h
    · omega
    · exact Nat.lt_succ_of_lt (t.below h)

/-- The rows a condition selects, rewritten. -/
def updateWhere (t : Serial key) (p : α → Bool) (f : α → α) (hf : ∀ r, key (f r) = key r) : Serial key where
  table := t.table.updateWhere p f hf
  next := t.next
  below := by
    intro k r h
    rw [Table.get_updateWhere, Option.map_eq_some_iff] at h
    obtain ⟨r₀, h₀, -⟩ := h
    exact t.below h₀

/-- The rows a condition keeps. -/
def keep (t : Serial key) (p : α → Bool) : Serial key where
  table := t.table.keep p
  next := t.next
  below := by
    intro k r h
    rw [Table.get_keep, Option.filter_eq_some_iff] at h
    exact t.below h.1

/-- The row under one key, rewritten. -/
def alter (t : Serial key) (k : Nat) (f : α → α) (hf : ∀ r, key (f r) = key r) : Serial key :=
  t.updateWhere (fun r => decide (key r = k)) f hf

theorem get_alter (t : Serial key) (k : Nat) (f : α → α) (hf) (k' : Nat) :
    (t.alter k f hf).table.get k' = if k' = k then (t.table.get k').map f else t.table.get k' :=
  Table.get_alter t.table k f hf k'

theorem get_updateWhere (t : Serial key) (p : α → Bool) (f : α → α) (hf) (k : Nat) :
    (t.updateWhere p f hf).table.get k = (t.table.get k).map fun r => if p r then f r else r :=
  Table.get_updateWhere t.table p f hf k

theorem get_keep (t : Serial key) (p : α → Bool) (k : Nat) : (t.keep p).table.get k = (t.table.get k).filter p :=
  Table.get_keep t.table p k

theorem get_next (t : Serial key) : t.table.get t.next = none := by
  cases h : t.table.get t.next with
  | none => rfl
  | some r => exact absurd (t.below h) (Nat.lt_irrefl _)

theorem get_insert (t : Serial key) (row : Nat → α) (hrow) (k : Nat) :
    (t.insert row hrow).table.get k = if k = t.next then some (row t.next) else t.table.get k := by
  simp only [insert, Table.get_put, hrow]

/-- A new row stands beside the ones that were there. -/
theorem mem_insert {t : Serial key} {row : Nat → α} {hrow} {r : α} :
    r ∈ (t.insert row hrow).table.rows ↔ r ∈ t.table.rows ∨ r = row t.next := by
  rw [Table.mem_iff_get, get_insert]
  constructor
  · intro h
    split at h
    · exact .inr (Option.some.inj h).symm
    · exact .inl (Table.mem_of_get h)
  · rintro (hr | rfl)
    · have hget := Table.get_of_mem hr
      have hne : key r ≠ t.next := fun he => by
        rw [he, get_next] at hget
        cases hget
      rw [if_neg hne, hget]
    · rw [hrow, if_pos rfl]

/-- The next key taken without a row. -/
def reserve (t : Serial key) : Serial key where
  table := t.table
  next := t.next + 1
  below h := Nat.lt_succ_of_lt (t.below h)

/-- A row under a key of its own, one that was taken before. -/
def place (t : Serial key) (row : α) : Serial key where
  table := t.table.put row
  next := max t.next (key row + 1)
  below := by
    intro k r h
    rw [Table.get_put] at h
    split at h
    · rename_i hk
      rw [hk]
      exact Nat.lt_of_lt_of_le (Nat.lt_succ_self _) (Nat.le_max_right ..)
    · exact Nat.lt_of_lt_of_le (t.below h) (Nat.le_max_left ..)

theorem get_place (t : Serial key) (row : α) (k : Nat) :
    (t.place row).table.get k = if k = key row then some row else t.table.get k := Table.get_put ..

section
variable {rows : List α}

theorem le_next_foldl_place (t : Serial key) : t.next ≤ (rows.foldl place t).next := by
  induction rows generalizing t with
  | nil => exact Nat.le_refl _
  | cons row rows ih => exact Nat.le_trans (Nat.le_max_left ..) (ih (t.place row))

theorem get_foldl_place_of_not_mem {t : Serial key} {k : Nat} (h : k ∉ rows.map key) :
    (rows.foldl place t).table.get k = t.table.get k := by
  induction rows generalizing t with
  | nil => rfl
  | cons row rows ih =>
    rw [List.map_cons, List.mem_cons, not_or] at h
    rw [List.foldl_cons, ih h.2, get_place, if_neg h.1]

/-- A row is one that was placed, or was there. -/
theorem get_foldl_place_cases {t : Serial key} {k : Nat} {r : α} (h : (rows.foldl place t).table.get k = some r) :
    (r ∈ rows ∧ key r = k) ∨ t.table.get k = some r := by
  induction rows generalizing t with
  | nil => exact .inr h
  | cons row rows ih =>
    rcases ih h with ⟨hr, hk⟩ | hget
    · exact .inl ⟨List.mem_cons_of_mem _ hr, hk⟩
    · rw [get_place] at hget
      split at hget
      · rename_i hk
        obtain rfl := Option.some.inj hget
        exact .inl ⟨List.mem_cons_self, hk.symm⟩
      · exact .inr hget

theorem get_foldl_place_of_mem {t : Serial key} (hn : (rows.map key).Nodup) {r : α} (hr : r ∈ rows) :
    (rows.foldl place t).table.get (key r) = some r := by
  induction rows generalizing t with
  | nil => cases hr
  | cons row rows ih =>
    obtain ⟨hrow, hn⟩ := List.nodup_cons.mp hn
    rw [List.foldl_cons]
    rcases List.mem_cons.mp hr with rfl | hr
    · rw [get_foldl_place_of_not_mem hrow, get_place, if_pos rfl]
    · exact ih hn hr

end

end Serial

/-- Keys stay distinct over lists laid end to end, where each list keeps a key of its own. -/
theorem nodup_map_flatMap {α β γ κ : Type} {l : List α} {f : α → List β} {g : β → γ} (k : α → κ) (p : γ → κ)
    (hk : (l.map k).Nodup) (hf : ∀ a ∈ l, ((f a).map g).Nodup) (hp : ∀ a ∈ l, ∀ b ∈ f a, p (g b) = k a) :
    ((l.flatMap f).map g).Nodup := by
  rw [List.map_flatMap, List.nodup_flatMap]
  refine ⟨hf, (List.pairwise_map.mp hk).imp_of_mem fun {a b} ha hb hne => ?_⟩
  intro x hx hy
  obtain ⟨y, hy', rfl⟩ := List.mem_map.mp hx
  obtain ⟨z, hz, he⟩ := List.mem_map.mp hy
  refine hne ?_
  rw [← hp a ha y hy', ← hp b hb z hz, he]

/-- Keys stay apart where an entry is replaced by one with its key. -/
theorem mem_set_of_nodup_map {α κ : Type} {key : α → κ} {l : List α} {i : Nat} {a b x : α} (hn : (l.map key).Nodup)
    (ha : l[i]? = some a) (hx : x ∈ l.set i b) : x = b ∨ x ∈ l ∧ key x ≠ key a := by
  obtain ⟨j, hj⟩ := List.mem_iff_getElem?.mp hx
  rw [List.getElem?_set] at hj
  by_cases hij : i = j
  · simp only [hij, if_true] at hj
    split at hj
    · exact .inl (Option.some.inj hj).symm
    · cases hj
  · rw [if_neg hij] at hj
    refine .inr ⟨List.mem_iff_getElem?.mpr ⟨j, hj⟩, fun hkey => hij ?_⟩
    have hi : i < (l.map key).length := by simpa using (List.getElem?_eq_some_iff.mp ha).1
    have hsame : (l.map key)[i]? = (l.map key)[j]? := by
      rw [List.getElem?_map, List.getElem?_map, ha, hj, Option.map_some, Option.map_some, hkey]
    exact (List.getElem?_inj hi hn).mp hsame

theorem map_set_of_key {α κ : Type} {key : α → κ} {l : List α} {i : Nat} {a b : α} (ha : l[i]? = some a)
    (hk : key b = key a) : (l.set i b).map key = l.map key := by
  rw [List.map_set, hk]
  apply List.ext_getElem?
  intro j
  rw [List.getElem?_set]
  split
  · rename_i h
    subst h
    obtain ⟨hi, -⟩ := List.getElem?_eq_some_iff.mp ha
    rw [List.getElem?_map, ha]
    simp [hi]
  · rfl

/-- Where none of a kind is counted, no row is of it. -/
theorem none_of_counted {α : Type} {p : α → Bool} {l : List α} (h : (l.filter p).length = 0) {x : α} (hx : x ∈ l) :
    p x = false := by
  have hnone := List.filter_eq_nil_iff.mp (List.length_eq_zero_iff.mp h) x hx
  simpa using hnone

/-- Rows of one of two kinds and of neither make up all. -/
theorem length_split {α : Type} {p q : α → Bool} (hpq : ∀ x, p x = true → q x = false) (l : List α) :
    (l.filter p).length + (l.filter q).length + (l.filter fun x => !p x && !q x).length = l.length := by
  induction l with
  | nil => rfl
  | cons x l ih =>
    cases hp : p x with
    | true =>
      have hq := hpq x hp
      simp [hp, hq]
      omega
    | false => cases hq : q x <;> simp [hp, hq] <;> omega

/-- Where the rows of two kinds, counted, leave none over, every row is of one of them. -/
theorem all_of_counted {α : Type} {p q : α → Bool} (hpq : ∀ x, p x = true → q x = false) {l : List α}
    (h : l.length - (l.filter p).length - (l.filter q).length = 0) : ∀ x ∈ l, p x = true ∨ q x = true := by
  have hsplit := length_split hpq l
  have hnone : (l.filter fun x => !p x && !q x) = [] := List.length_eq_zero_iff.mp (by omega)
  intro x hx
  have hkind := List.filter_eq_nil_iff.mp hnone x hx
  cases hp : p x <;> cases hq : q x <;> simp_all

end Lib
