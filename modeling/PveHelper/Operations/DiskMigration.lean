/-
The migration of a guest's disks (`migrate_guest_disks_task`): one move after another, each
with its own task, up to the first that fails or the cancellation. What the event says was
moved is what was seen to be moved.
-/
import PveHelper.Operations.RestoreTask

namespace PveHelper.Operations

open Lib

/-! ## The task -/

section
variable (r : MigrationOperation)

variable (p : Provider)

def StepEnd.failure : StepEnd → Option PublicFailure
  | .failed failure => some failure
  | _ => none

end

/-! ## What has been moved -/

section
variable {r : MigrationOperation} {p : Provider}

/-- A request that ends otherwise than done is made at most once and does not succeed. -/
theorem Runs.stopped {s : Submission} {t t' : Conversation} {e : StepEnd} (h : Runs s t e t') (he : e ≠ .done) :
    Operations.succeeded t' = Operations.succeeded t ∧ Operations.submissions t' <+: Operations.submissions t ++ [s] := by
  cases h with
  | cancelled =>
    rw [succeeded_append, submissions_append]
    exact ⟨List.append_nil _, (List.append_nil _).symm ▸ List.prefix_append _ _⟩
  | refused h =>
    simp only [List.append_assoc, succeeded_append, submissions_append]
    exact ⟨List.append_nil _, List.prefix_rfl⟩
  | @lost answer d result f h hr =>
    have hwaited : Operations.succeeded [.waited s result] = [] := by
      cases result with
      | error e => rfl
      | ok result =>
        have hfails : result.success = false := by simpa [Interaction.failed] using hr
        simp [Operations.succeeded, hfails]
    simp only [List.append_assoc, succeeded_append, submissions_append, hwaited]
    exact ⟨List.append_nil _, List.prefix_rfl⟩
  | done h hr => exact (he rfl).elim

end

/-! ## A provider that does what it is asked -/

end PveHelper.Operations
