/-
Time zones. Instants and wall-clock times are counted in microseconds; a zone is the
offset it begins with and its transitions, each with the offset after it. A wall-clock
time that is shown twice is read at its first showing, and one that is skipped with the
offset before it was: fold 0 of `datetime`.
-/
import Mathlib.Algebra.Order.Group.Int
import Mathlib.Data.Int.LeastGreatest
import Mathlib.Order.Bounds.Basic

namespace Lib

structure TimeZone where
  offset : Int
  /-- The instants of the transitions, and the offsets that they bring. -/
  transitions : List (Int × Int)
  ascending : transitions.Pairwise fun i j => i.1 < j.1

namespace TimeZone

/-- The offset at an instant. -/
def offsetAt : Int → List (Int × Int) → Int → Int
  | offset, [], _ => offset
  | offset, (i, next) :: rest, t => if t < i then offset else offsetAt next rest t

/-- The offset of a wall-clock time at fold 0: the one before the first transition past
which it is not shown again. -/
def offsetOf : Int → List (Int × Int) → Int → Int
  | offset, [], _ => offset
  | offset, (i, next) :: rest, w => if w < i + max offset next then offset else offsetOf next rest w

/-- The wall-clock time that the zone shows. -/
def clock (z : TimeZone) (t : Int) : Int := t + offsetAt z.offset z.transitions t

/-- The instant that a wall-clock time stands for. -/
def instant (z : TimeZone) (w : Int) : Int := w - offsetOf z.offset z.transitions w

theorem offsetAt_before {offset t : Int} {transitions : List (Int × Int)} (h : ∀ i ∈ transitions, t < i.1) :
    offsetAt offset transitions t = offset := by
  cases transitions with
  | nil => rfl
  | cons i rest => exact if_pos (h i List.mem_cons_self)

/-- By the instant that a wall-clock time stands for, the clock has come to it. -/
theorem clock_reaches (z : TimeZone) (w : Int) : ∃ t ≤ z.instant w, w ≤ z.clock t := by
  obtain ⟨offset, transitions, ascending⟩ := z
  unfold instant clock
  induction transitions generalizing offset with
  | nil => exact ⟨w - offset, le_refl _, by simp [offsetAt]⟩
  | cons head rest ih =>
    obtain ⟨i, next⟩ := head
    obtain ⟨hlater, hrest⟩ := List.pairwise_cons.mp ascending
    dsimp only [offsetAt, offsetOf] at ih ⊢
    split
    · by_cases hshown : w - offset < i
      · refine ⟨w - offset, le_refl _, ?_⟩
        rw [if_pos hshown]
        omega
      · -- the transition skips the time
        refine ⟨i, by omega, ?_⟩
        rw [if_neg (lt_irrefl i), offsetAt_before hlater]
        omega
    · obtain ⟨t, ht, hreached⟩ := ih next hrest
      refine ⟨t, ht, ?_⟩
      have hafter : ¬ t < i := by
        intro hbefore
        rw [offsetAt_before fun j hj => hbefore.trans (hlater j hj)] at hreached
        omega
      rw [if_neg hafter]
      exact hreached

/-- The zone without transitions, at the offset of instants. -/
def utc : TimeZone := ⟨0, [], .nil⟩

theorem clock_utc (t : Int) : utc.clock t = t := by simp [clock, utc, offsetAt]

theorem instant_utc (w : Int) : utc.instant w = w := by simp [instant, utc, offsetOf]

/-! ## Wall-clock times one after another -/

section
variable (z : TimeZone) (times : Set Int)

/-- At this instant the clock has this one of the times before it next. -/
def ComesNext (t w : Int) : Prop := IsLeast {w | w ∈ times ∧ z.clock t < w} w

/-- Once the clock has come to one of the times, it is not set back before it. -/
def NeverSetBack : Prop := ∀ s t, s ≤ t → ∀ w ∈ times, w ≤ z.clock s → w ≤ z.clock t

/-- Times that come next stand for instants in their order. -/
def InOrder : Prop := ∀ s t w v, z.ComesNext times s w → z.ComesNext times t v → w < v → z.instant w ≤ z.instant v

/-- The time that comes next stands for a later instant, and for no earlier one as time goes by. -/
def Forward : Prop := ∀ s t w v, s ≤ t → z.ComesNext times s w → z.ComesNext times t v →
  s < z.instant w ∧ z.instant w ≤ z.instant v

variable {z times}

theorem exists_comesNext {t w : Int} (hw : w ∈ times) (h : z.clock t < w) : ∃ v ≤ w, z.ComesNext times t v := by
  obtain ⟨v, ⟨hv, hafter⟩, hleast⟩ := Int.exists_least_of_bdd (P := fun v => v ∈ times ∧ z.clock t < v)
    ⟨z.clock t, fun v hv => hv.2.le⟩ ⟨w, hw, h⟩
  exact ⟨v, hleast w ⟨hw, h⟩, ⟨hv, hafter⟩, fun v' hv' => hleast v' hv'⟩

theorem NeverSetBack.later (h : z.NeverSetBack times) {t w : Int} (hw : z.ComesNext times t w) : t < z.instant w := by
  by_contra hpast
  obtain ⟨s, hs, hreached⟩ := z.clock_reaches w
  have hshown : w ≤ z.clock t := h s t (hs.trans (not_lt.mp hpast)) w hw.1.1 hreached
  exact absurd hw.1.2 (not_lt.mpr hshown)

theorem NeverSetBack.forward_iff (h : z.NeverSetBack times) : z.Forward times ↔ z.InOrder times := by
  constructor
  · intro hforward s t w v hw hv hlt
    rcases le_or_gt s t with hst | hts
    · exact (hforward s t w v hst hw hv).2
    · -- the clock has come to the first time at the earlier instant
      have hreached : w ≤ z.clock t := by
        by_contra hahead
        exact absurd (hv.2 ⟨hw.1.1, not_le.mp hahead⟩) (not_le.mpr hlt)
      exact absurd hw.1.2 (not_lt.mpr (h t s hts.le w hw.1.1 hreached))
  · intro horder s t w v hst hw hv
    refine ⟨h.later hw, ?_⟩
    rcases lt_trichotomy w v with hlt | rfl | hgt
    · exact horder s t w v hw hv hlt
    · exact le_refl _
    · have hreached : v ≤ z.clock s := by
        by_contra hahead
        exact absurd (hw.2 ⟨hv.1.1, not_le.mp hahead⟩) (not_le.mpr hgt)
      exact absurd hv.1.2 (not_lt.mpr (h s t hst v hv.1.1 hreached))

/-- Where the times keep their order, a clock that is set back before one of them, while
there is another to come, breaks the order of what comes next. -/
theorem Forward.not_set_back (h : z.Forward times)
    (horder : ∀ w ∈ times, ∀ v ∈ times, w < v → z.instant w < z.instant v) {s t u w : Int} (hst : s ≤ t)
    (hu : z.ComesNext times s u) (hw : w ∈ times) (hreached : w ≤ z.clock s) : w ≤ z.clock t := by
  by_contra hback
  obtain ⟨v, hvw, hv⟩ := exists_comesNext hw (not_le.mp hback)
  have hvu : v < u := (hvw.trans hreached).trans_lt hu.1.2
  exact absurd (h s t u v hst hu hv).2 (not_le.mpr (horder v hv.1.1 u hu.1.1 hvu))

end

end TimeZone

end Lib
