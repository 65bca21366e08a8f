/-
What operations on a tree keep of it. A tree grows when everything that was there is
there as it was; a move to a free name keeps everything that is not part of what is
moved, and is undone by the move back. A plain rename onto a leaf that was just added
is the rename that replaces nothing.
-/
import PveHelper.Lib.Disk

namespace Lib

variable {α : Type}

namespace Disk

variable {d d' d'' : Disk α} {p q s t : Path} {n m : String} {x y : Node α}

/-! ## What is kept -/

/-- Everything that was there is there as it was. -/
def Grows (d d' : Disk α) : Prop := ∀ q, (d.node q).isSome = true → d'.node q = d.node q

/-- The same but for directories on the way to a path, which may be new. -/
def GrowsTo (t : Path) (d d' : Disk α) : Prop :=
  ∀ q, d'.node q = d.node q ∨ d.node q = none ∧ d'.node q = some .directory ∧ q <+: t

theorem Grows.refl (d : Disk α) : d.Grows d := fun _ _ => rfl

theorem Grows.trans (h : d.Grows d') (h' : d'.Grows d'') : d.Grows d'' := by
  intro q hq
  have hsame := h q hq
  rw [h' q (hsame ▸ hq), hsame]

theorem GrowsTo.refl (t : Path) (d : Disk α) : d.GrowsTo t d := fun _ => .inl rfl

theorem GrowsTo.trans (h : GrowsTo t d d') (h' : GrowsTo t d' d'') : GrowsTo t d d'' := by
  intro q
  rcases h q with hsame | ⟨hnone, hdir, hpre⟩
  · rw [← hsame]
    exact h' q
  · rcases h' q with hsame' | ⟨hnone', -, -⟩
    · exact .inr ⟨hnone, hsame'.trans hdir, hpre⟩
    · rw [hdir] at hnone'
      cases hnone'

theorem GrowsTo.grows (h : GrowsTo t d d') : d.Grows d' := by
  intro q hq
  rcases h q with hsame | ⟨hnone, -, -⟩
  · exact hsame
  · rw [hnone] at hq
    cases hq

/-- A way on which there are nothing but directories. -/
def Way (d : Disk α) (p : Path) (q : Path) : Prop :=
  ∀ r, r <+: q → d.node (p ++ r) = none ∨ d.node (p ++ r) = some .directory

theorem GrowsTo.way (h : GrowsTo t d d') (hway : d.Way p q) : d'.Way p q := by
  intro r hr
  rcases h (p ++ r) with hsame | ⟨-, hdir, -⟩
  · rw [hsame]
    exact hway r hr
  · exact .inr hdir

/-- In a directory, a free name can be given. -/
theorem add_of_free (hroom : d.isDirectory p = true) (hname : FileName n) (hfree : d.node (p ++ [n]) = none) :
    ∃ d', d.add p n x = .ok d' := by
  cases h : d.add p n x with
  | ok d' => exact ⟨d', rfl⟩
  | error e =>
    have htaken := (add_error hroom hname h).2
    rw [hfree] at htaken
    cases htaken

theorem add_growsTo (h : d.add p n .directory = .ok d') (ht : p ++ [n] <+: t) : GrowsTo t d d' := by
  obtain ⟨hfree, -, -, hnode⟩ := add_ok.mp h
  intro q
  by_cases hq : q = p ++ [n]
  · exact .inr ⟨hq ▸ hfree, by rw [hnode, if_pos hq], hq ▸ ht⟩
  · exact .inl (by rw [hnode, if_neg hq])

theorem add_grows (h : d.add p n x = .ok d') : d.Grows d' := by
  obtain ⟨hfree, -, -, hnode⟩ := add_ok.mp h
  intro q hq
  rw [hnode, if_neg]
  rintro rfl
  rw [hfree] at hq
  cases hq

/-! ## A leaf added and taken away -/

/-- A new leaf holds nothing. -/
theorem children_add (h : d.add p n x = .ok d') : d'.children (p ++ [n]) = ∅ := by
  obtain ⟨hfree, -, -, hnode⟩ := add_ok.mp h
  rw [children_eq_empty]
  intro m
  rw [hnode, if_neg (by simp)]
  exact children_eq_empty.mp (children_of_not_directory (by rw [hfree]; simp)) m

/-- What was added and taken away again leaves the tree as it was. -/
theorem erase_add (h : d.add p n x = .ok d') (hleaf : d'.children (p ++ [n]) = ∅) : d'.erase p n hleaf = d := by
  obtain ⟨hfree, -, -, hnode⟩ := add_ok.mp h
  rw [erase_ok]
  intro q
  rw [hnode]
  by_cases hq : q = p ++ [n]
  · rw [if_pos hq, hq, hfree]
  · rw [if_neg hq, if_neg hq]

theorem rmdir_add (h : d.add p n .directory = .ok d') : d'.rmdir p n = .ok d := by
  obtain ⟨hfree, -, -, hnode⟩ := add_ok.mp h
  refine rmdir_ok.mpr ⟨by rw [hnode, if_pos rfl], children_add h, ?_⟩
  exact erase_ok.mp (erase_add h (children_add h))

theorem unlink_add (hx : x.isDirectory = false) (h : d.add p n x = .ok d') : d'.unlink p n = .ok d := by
  obtain ⟨hfree, -, -, hnode⟩ := add_ok.mp h
  refine unlink_ok.mpr ⟨⟨x, by rw [hnode, if_pos rfl], hx⟩, ?_⟩
  exact erase_ok.mp (erase_add h (children_add h))

/-- A move onto a leaf that was just added there is the move to the free name. -/
theorem relocate_add (h : d.add p n y = .ok d') (hne : s ≠ p ++ [n]) : d'.relocate s p n = d.relocate s p n := by
  have hleaf := children_add h
  obtain ⟨hfree, hroom, hname, hnode⟩ := add_ok.mp h
  have hother : ∀ {q}, q ≠ p ++ [n] → d'.node q = d.node q := fun hq => by rw [hnode, if_neg hq]
  have hmovable : d'.Movable s p n ↔ d.Movable s p n := by
    have hdir : d'.isDirectory p = true := by
      rw [isDirectory_iff, hother (by simp), ← isDirectory_iff]
      exact hroom
    constructor
    · intro hm
      exact ⟨hother hne ▸ hm.source, hroom, hname, children_of_not_directory (by rw [hfree]; simp), hm.apart⟩
    · intro hm
      exact ⟨(hother hne).symm ▸ hm.source, hdir, hname, hleaf, hm.apart⟩
  unfold relocate
  by_cases hm : d.Movable s p n
  · rw [dif_pos hm, dif_pos (hmovable.mpr hm), Except.ok.injEq]
    ext q
    rw [node_move, node_move, origin]
    split
    · -- no entry of the moved tree is the leaf
      rw [Option.bind_some, Option.bind_some, hother]
      intro hq
      exact hm.apart (hq ▸ List.prefix_append _ _)
    split
    · rfl
    · rename_i ht _
      rw [Option.bind_some, Option.bind_some, hother fun hq => ht (hq ▸ List.prefix_rfl)]
  · rw [dif_neg hm, dif_neg fun hm' => hm (hmovable.mp hm')]

/-- The plain rename onto a leaf of the source's kind is the rename that replaces nothing. -/
theorem rename_add (h : d.add p n y = .ok d') (hs : d.node s = some x) (hkind : x.isDirectory = y.isDirectory) :
    d'.rename s p n = d.renameNoReplace s p n := by
  obtain ⟨hfree, -, -, hnode⟩ := add_ok.mp h
  have hne : s ≠ p ++ [n] := by
    rintro rfl
    rw [hfree] at hs
    cases hs
  have habove : ¬ p ++ [n] <+: s := by
    intro hpre
    have hdir := node_prefix (d := d) (by rw [hs]; rfl) hpre hne.symm
    rw [hfree] at hdir
    cases hdir
  unfold rename renameNoReplace
  rw [hnode s, if_neg hne, hs, hfree]
  dsimp only
  rw [if_neg hne, if_neg habove, hnode (p ++ [n]), if_pos rfl, relocate_add h hne]
  by_cases hinside : s <+: p ++ [n]
  · simp [hinside]
  · simp [hinside, hkind, children_add h]

/-! ## Moving to a free name -/

/-- Below a free path there is nothing. -/
theorem node_below_free (h : d.node p = none) : d.node (p ++ q) = none := by
  by_cases hq : q = []
  · rw [hq, List.append_nil, h]
  · exact node_below_childless (children_of_not_directory (by rw [h]; simp)) hq

/-- A move to a free name touches nothing that is not part of what is moved. -/
theorem node_move_other {h : d.Movable s p n} (hfree : d.node (p ++ [n]) = none) (hq : (d.node q).isSome = true)
    (hs : ¬ s <+: q) : (d.move s p n h).node q = d.node q := by
  rw [node_move, origin, if_neg, if_neg hs, Option.bind_some]
  intro hpre
  obtain ⟨r, rfl⟩ := hpre
  rw [node_below_free hfree] at hq
  cases hq

/-- A rename that replaces nothing, after the tree has grown. -/
theorem Grows.renameNoReplace_other (hgrows : d.Grows d') (h : d'.renameNoReplace s p n = .ok d'')
    (hq : (d.node q).isSome = true) (hs : ¬ s <+: q) : d''.node q = d.node q := by
  obtain ⟨hfree, hm, rfl⟩ := renameNoReplace_ok h
  have hsame := hgrows q hq
  rw [node_move_other hfree (hsame ▸ hq) hs, hsame]

/-- What is moved to a free name is found there. -/
theorem node_move_target {h : d.Movable s p n} : (d.move s p n h).node (p ++ [n] ++ q) = d.node (s ++ q) := by
  rw [node_move, origin, if_pos (List.prefix_append _ _), Option.bind_some, List.drop_left]

/-- A free name is not above what is moved. -/
theorem Movable.target_not_above (h : d.Movable s p n) (hfree : d.node (p ++ [n]) = none) : ¬ p ++ [n] <+: s := by
  intro hpre
  obtain ⟨r, rfl⟩ := hpre
  have hsource := h.source
  rw [node_below_free hfree] at hsource
  cases hsource

/-- Nothing of what is moved is left behind. -/
theorem node_move_source {h : d.Movable s p n} (hfree : d.node (p ++ [n]) = none) :
    (d.move s p n h).node (s ++ q) = none := by
  rw [node_move, origin, if_neg, if_pos (List.prefix_append _ _), Option.bind_none]
  intro hpre
  rcases List.prefix_or_prefix_of_prefix hpre (List.prefix_append s q) with h' | h'
  · exact h.target_not_above hfree h'
  · exact h.apart h'

variable {sp : Path} {sn : String}

theorem Movable.back (h : d.Movable (sp ++ [sn]) p n) (hfree : d.node (p ++ [n]) = none) :
    (d.move (sp ++ [sn]) p n h).Movable (p ++ [n]) sp sn := by
  have hparent : d.node sp = some .directory := d.holder sp sn h.source
  constructor
  · have htarget := node_move_target (q := []) (h := h)
    rw [List.append_nil, List.append_nil] at htarget
    rw [htarget]
    exact h.source
  · rw [isDirectory_iff, node_move_other hfree (by rw [hparent]; rfl), hparent]
    intro hpre
    have := hpre.length_le
    simp only [List.length_append, List.length_singleton] at this
    omega
  · exact d.names sp sn h.source
  · rw [children_eq_empty]
    exact fun m => node_move_source hfree
  · exact h.target_not_above hfree

/-- To a free name in a directory, what is not above it can be moved. -/
theorem renameNoReplace_of_free (hs : (d.node s).isSome = true) (hroom : d.isDirectory p = true) (hname : FileName n)
    (hfree : d.node (p ++ [n]) = none) (hapart : ¬ s <+: p ++ [n]) : ∃ d', d.renameNoReplace s p n = .ok d' := by
  have hm : d.Movable s p n :=
    ⟨hs, hroom, hname, children_of_not_directory (by rw [hfree]; simp), hapart⟩
  obtain ⟨x, hx⟩ := Option.isSome_iff_exists.mp hs
  refine ⟨d.move s p n hm, ?_⟩
  rw [renameNoReplace, hx]
  dsimp only
  rw [hfree, if_neg (by simp), if_neg hapart]
  exact relocate_ok.mpr ⟨hm, rfl⟩

/-- A move to a free name is undone by the move back. -/
theorem renameNoReplace_back (h : d.renameNoReplace (sp ++ [sn]) p n = .ok d') :
    d'.renameNoReplace (p ++ [n]) sp sn = .ok d := by
  obtain ⟨hfree, hm, rfl⟩ := renameNoReplace_ok h
  have hback := hm.back hfree
  obtain ⟨x, hx⟩ := Option.isSome_iff_exists.mp hback.source
  have hfreed := node_move_source (h := hm) (q := []) hfree
  rw [List.append_nil] at hfreed
  rw [renameNoReplace, hx]
  dsimp only
  rw [hfreed, if_neg (by simp), if_neg hback.apart, relocate_ok.mpr ⟨hback, rfl⟩, Except.ok.injEq]
  ext q
  rw [node_move, origin]
  by_cases hs : sp ++ [sn] <+: q
  · obtain ⟨r, rfl⟩ := hs
    rw [if_pos (List.prefix_append _ _), Option.bind_some, List.drop_left, node_move_target]
  rw [if_neg hs]
  by_cases ht : p ++ [n] <+: q
  · obtain ⟨r, rfl⟩ := ht
    rw [if_pos (List.prefix_append _ _), Option.bind_none, node_below_free hfree]
  · rw [if_neg ht, Option.bind_some, node_move, origin, if_neg ht, if_neg hs, Option.bind_some]

end Disk

end Lib
