/-
A loop over a stack: the top is taken off, and what it leads to is pushed in its
place. Where following what leads where cannot go on forever the loop ends, by
the order in which one element gives way to finitely many smaller ones, and it
visits exactly what the stack it started from leads to.
-/
import Mathlib.Logic.Hydra
import Mathlib.Logic.Relation
import Mathlib.Tactic.Abel

namespace Lib

variable {α : Type} {next : α → List α}

theorem cutExpand_next (a : α) (stack : List α) :
    Relation.CutExpand (fun b a => b ∈ next a) (↑(next a ++ stack) : Multiset α) ↑(a :: stack) := by
  refine ⟨↑(next a), a, fun b hb => Multiset.mem_coe.mp hb, ?_⟩
  simp only [← Multiset.coe_add, ← Multiset.cons_coe, ← Multiset.singleton_add]
  abel

/-- The elements in the order the loop takes them. -/
def worklist (wf : WellFounded fun b a => b ∈ next a) (stack : List α) : List α :=
  match stack with
  | [] => []
  | a :: stack => a :: worklist wf (next a ++ stack)
termination_by wf.cutExpand.wrap (stack : Multiset α)
decreasing_by exact cutExpand_next a stack

variable {wf : WellFounded fun b a => b ∈ next a}

/-- What the loop visits: everything that the stack leads to. -/
theorem mem_worklist {stack : List α} {b : α} :
    b ∈ worklist wf stack ↔ ∃ a ∈ stack, Relation.ReflTransGen (fun x y => y ∈ next x) a b := by
  fun_induction worklist wf stack with
  | case1 => simp
  | case2 a stack ih =>
    rw [List.mem_cons, ih]
    constructor
    · intro h
      rcases h with rfl | ⟨c, hc, hreach⟩
      · exact ⟨b, List.mem_cons_self .., .refl⟩
      · rcases List.mem_append.mp hc with hnext | hstack
        · exact ⟨a, List.mem_cons_self .., .head hnext hreach⟩
        · exact ⟨c, List.mem_cons_of_mem _ hstack, hreach⟩
    · intro h
      obtain ⟨c, hc, hreach⟩ := h
      rcases List.mem_cons.mp hc with rfl | hstack
      · rcases hreach.cases_head with rfl | ⟨d, hd, hreach⟩
        · exact .inl rfl
        · exact .inr ⟨d, List.mem_append_left _ hd, hreach⟩
      · exact .inr ⟨c, List.mem_append_right _ hstack, hreach⟩

end Lib
