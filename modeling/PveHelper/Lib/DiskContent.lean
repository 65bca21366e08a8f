/-
That nothing is lost of what the files of a tree hold. A change of the tree carries its
contents when each file that was there has a place of its own in the new tree that holds
what it held. Growing carries them, so does a move to a free name, with all that lies
below what is moved, and one change carries them after another.
-/
import PveHelper.Lib.Calls

namespace Lib

variable {α : Type}

namespace Disk

variable {d d' d'' : Disk α} {p q s t : Path} {n : String} {x y : α}

/-- Every file of the one tree has a place in the other, no two of them the same, that
holds what it held. -/
structure Carries (place : Path → Path) (d d' : Disk α) : Prop where
  apart : ∀ {p q : Path} {x y : α}, d.node p = some (.file x) → d.node q = some (.file y) → place p = place q → p = q
  content : ∀ {p : Path} {x : α}, d.node p = some (.file x) → d'.node (place p) = some (.file x)

/-- No content is lost. -/
def NothingLost (d d' : Disk α) : Prop := ∃ place, Carries place d d'

theorem NothingLost.refl (d : Disk α) : d.NothingLost d := ⟨id, fun _ _ h => h, id⟩

theorem NothingLost.trans (h : d.NothingLost d') (h' : d'.NothingLost d'') : d.NothingLost d'' := by
  obtain ⟨place, hplace⟩ := h
  obtain ⟨place', hplace'⟩ := h'
  refine ⟨place' ∘ place, fun hp hq heq => ?_, fun hp => hplace'.content (hplace.content hp)⟩
  exact hplace.apart hp hq (hplace'.apart (hplace.content hp) (hplace.content hq) heq)

theorem Grows.nothingLost (h : d.Grows d') : d.NothingLost d' :=
  ⟨id, fun _ _ heq => heq, fun hp => by rw [id, h _ (by rw [hp]; rfl), hp]⟩

/-- Where each file of a tree is after a move. -/
def movedTo (s t q : Path) : Path := if s <+: q then t ++ q.drop s.length else q

theorem movedTo_below (r : Path) : movedTo s t (s ++ r) = t ++ r := by
  rw [movedTo, if_pos (List.prefix_append s r), List.drop_left]

theorem movedTo_other (h : ¬ s <+: q) : movedTo s t q = q := if_neg h

theorem renameNoReplace_carries (h : d.renameNoReplace s p n = .ok d') : Carries (movedTo s (p ++ [n])) d d' := by
  obtain ⟨hfree, hm, rfl⟩ := renameNoReplace_ok h
  have hout : ∀ {r : Path} {x : α}, d.node (p ++ [n] ++ r) ≠ some (.file x) := by
    intro r x hx
    rw [node_below_free hfree] at hx
    cases hx
  constructor
  · intro q q' x y hq hq' heq
    by_cases hs : s <+: q
    · obtain ⟨r, rfl⟩ := hs
      rw [movedTo_below] at heq
      by_cases hs' : s <+: q'
      · obtain ⟨r', rfl⟩ := hs'
        rw [movedTo_below, List.append_cancel_left_eq] at heq
        rw [heq]
      · rw [movedTo_other hs'] at heq
        rw [← heq] at hq'
        exact absurd hq' hout
    · rw [movedTo_other hs] at heq
      by_cases hs' : s <+: q'
      · obtain ⟨r', rfl⟩ := hs'
        rw [movedTo_below] at heq
        rw [heq] at hq
        exact absurd hq hout
      · rwa [movedTo_other hs'] at heq
  · intro q x hq
    by_cases hs : s <+: q
    · obtain ⟨r, rfl⟩ := hs
      rw [movedTo_below, node_move_target, hq]
    · rw [movedTo_other hs, node_move_other hfree (by rw [hq]; rfl) hs, hq]

/-- A file that is at a free path in the new tree, while every other entry is as it was. -/
theorem NothingLost.of_delivered (hs : d.node s = some (.file x)) (hfree : d.node t = none)
    (hothers : ∀ q, q ≠ s → (d.node q).isSome = true → d'.node q = d.node q) (ht : d'.node t = some (.file x)) :
    d.NothingLost d' := by
  have hout : ∀ {q : Path} {y : α}, d.node q = some (.file y) → t ≠ q := by
    rintro q y hq rfl
    rw [hfree] at hq
    cases hq
  refine ⟨fun q => if q = s then t else q, fun {q q' y y'} hq hq' heq => ?_, fun {q y} hq => ?_⟩
  · split at heq
    · split at heq
      · rw [‹q = s›, ‹q' = s›]
      · exact absurd heq (hout hq')
    · split at heq
      · exact absurd heq.symm (hout hq)
      · exact heq
  · split
    · rename_i heq
      rw [heq, hs] at hq
      rw [ht, hq]
    · rename_i hne
      rw [hothers q hne (by rw [hq]; rfl), hq]

end Disk

/-- Nothing is lost of what the tree of a machine held. -/
def NothingLost (s s' : Machine α) : Prop := s.disk.NothingLost s'.disk

instance : Std.Refl (NothingLost (α := α)) := ⟨fun s => Disk.NothingLost.refl s.disk⟩

instance : IsTrans (Machine α) NothingLost := ⟨fun _ _ _ h h' => h.trans h'⟩

theorem Grown.nothingLost {s s' : Machine α} (h : Grown s s') : NothingLost s s' := Disk.Grows.nothingLost h

theorem SameDisk.nothingLost {s s' : Machine α} (h : SameDisk s s') : NothingLost s s' := h.grown.nothingLost

end Lib
