/-
The risk of a guest's directory, `_directory_action_risk` of
`core/services/file_actions.py`. Its running-guest check reads the VMID with
`extract_vmid_from_image_path`, which is made for a disk file: it answers only
below `images/<vmid>/`. The guest's directory itself and the whole tree of
containers have no VMID for it, so there nothing stands between a running guest
and the trash.
-/
import PveHelper.Files.Gate

namespace PveHelper.Files

open Lib Guests Storage

section
variable (inst : Installation) (e : FileEntry)

/-- The entry is at or below the directory of a guest, under either tree. -/
def InGuestDirectory (tree vmid : String) (below : List String) : Prop :=
  Text.posixParts e.path = tree :: vmid :: below ∧ (tree = "images" ∨ tree = "private")

/-- A guest of a bound cluster, on the binding's node when it has one, has that VMID. -/
def OwnsDirectory (vmid : String) (g : CurrentGuest) : Prop :=
  ∃ x ∈ entryBindings inst e, g ∈ x.guests ∧ Text.toInt vmid = some (g.vmid : Int)

/-- A confirmed running guest that owns the directory blocks the action. -/
def DirectoryProtected (vmid : String) : Prop :=
  (∃ g, Confirmed e g ∧ OwnsDirectory inst e vmid g) → (directoryActionRisk inst e true).blocked = true

end

variable {inst : Installation} {e : FileEntry} {tree vmid : String} {below : List String}

/-- The VMID is read from a file of the images tree only. -/
theorem extractVmid_inGuestDirectory (h : InGuestDirectory e tree vmid below) :
    extractVmidFromImagePath e.path = if tree = "images" ∧ below ≠ [] then Text.toInt vmid else none := by
  obtain ⟨hparts, rfl | rfl⟩ := h
  · cases below with
    | nil => simp [extractVmidFromImagePath, hparts]
    | cons n below => simp [extractVmidFromImagePath, hparts]
  · simp [extractVmidFromImagePath, hparts]

/-- What is left of the risk is its running-guest check. -/
theorem directoryActionRisk_blocked (h : InGuestDirectory e tree vmid below) :
    (directoryActionRisk inst e true).blocked = true ↔
      ∃ o ∈ running (vmidObjects inst e), o.unconfirmed (unverifiedConsumers e) = false := by
  obtain ⟨hparts, htree⟩ := h
  have hguest : ((tree :: vmid :: below).take 1 == ["images"] || (tree :: vmid :: below).take 1 == ["private"]) = true := by
    rcases htree with rfl | rfl <;> simp
  simp only [directoryActionRisk, hparts]
  rw [if_pos hguest, if_neg (by simp)]
  generalize hcheck : runningCheck true (vmidObjects inst e) _ _ _ = check
  cases check with
  | some risk => simpa using runningCheck_blocked hcheck
  | none => simp [runningCheck_eq_none.mp hcheck]

theorem vmidObjects_owner (h : InGuestDirectory e tree vmid below) :
    (∃ g, Confirmed e g ∧ HasImageVmidHere inst e g) ↔
      (tree = "images" ∧ below ≠ []) ∧ ∃ g, Confirmed e g ∧ OwnsDirectory inst e vmid g := by
  simp only [HasImageVmidHere, extractVmid_inGuestDirectory h, OwnsDirectory]
  by_cases hfile : tree = "images" ∧ below ≠ []
  · simp [hfile]
  · simp [hfile]

/-- A running guest's directory is protected below `images/<vmid>/`, and elsewhere
only from guests that do not run. -/
theorem directoryProtected_iff (h : InGuestDirectory e tree vmid below) :
    DirectoryProtected inst e vmid ↔
      (tree = "images" ∧ below ≠ []) ∨ ¬ ∃ g, Confirmed e g ∧ OwnsDirectory inst e vmid g := by
  have hblocked : (directoryActionRisk inst e true).blocked = true ↔
      (tree = "images" ∧ below ≠ []) ∧ ∃ g, Confirmed e g ∧ OwnsDirectory inst e vmid g := by
    rw [directoryActionRisk_blocked h, ← vmidObjects_owner h]
    simp only [unconfirmed_eq_false, Confirmed, and_assoc]
    exact mem_running_vmid inst e (· ∉ unverifiedConsumers e)
  rw [DirectoryProtected, hblocked]
  constructor
  · intro himp
    by_cases hex : ∃ g, Confirmed e g ∧ OwnsDirectory inst e vmid g
    · exact .inl (himp hex).1
    · exact .inr hex
  · rintro (hfile | hno) hex
    · exact ⟨hfile, hex⟩
    · exact absurd hex hno

/-- The directory of VM 100. -/
def ownerDirectory : FileEntry where
  storage := nasMount
  path := "images/100"
  derivedVolid := ""
  contentCategory := "vm_image_directory"
  entryType := .directory
  classification := .infrastructure
  storageGateStatus := []

/-- Below it VM 100 is asked about. -/
theorem nested_directory_protected :
    DirectoryProtected (nasInstallation ⟨[owner], by decide⟩) { ownerDirectory with path := "images/100/old" } "100" := by
  refine (@directoryProtected_iff _ _ "images" _ ["old"] ⟨by decide, .inl rfl⟩).mpr (.inl ⟨rfl, by decide⟩)

/-- VM 100 runs, and its directory may be moved to the trash. -/
theorem running_guest_directory_unprotected : ¬ ∀ (inst : Installation) (e : FileEntry) (tree vmid : String)
    (below : List String), InGuestDirectory e tree vmid below → DirectoryProtected inst e vmid := by
  intro h
  have hblocked := h (nasInstallation ⟨[owner], by decide⟩) ownerDirectory "images" "100" [] ⟨by decide, .inl rfl⟩
    ⟨owner, ⟨rfl, by decide⟩, _, List.mem_singleton.mpr rfl, List.mem_singleton.mpr rfl, by decide⟩
  revert hblocked
  decide

end PveHelper.Files
