/-
An OVF package is made a guest (`import_ovf_package_as_vm` of
`core/services/vm_register.py`). Files that the provider cannot read where they are get
linked below `import/` first; the block that removes the links at its end begins after
the client for the import is there.
-/
import PveHelper.Lib.Fields
import PveHelper.Registration.DiskImport

namespace PveHelper.Registration

open Lib Operations

/-! ## Packages -/

structure OvfDisk where
  href : String

/-- `OvfPackage`, as far as its import reads it. -/
structure OvfPackage where
  storageId : String
  sourcePath : String
  kind : String
  disks : List OvfDisk

/-- How `parse_ovf_package` ends; an `OvfImportError` with its public message. -/
inductive ParseEnd
  | package (p : OvfPackage)
  | refused (message : String)
  | raised (e : ImportRaised)

/-- `package_disk_volids`. -/
def packageDiskVolids (p : OvfPackage) : List String :=
  let root := Text.posixParts p.sourcePath
  let base := if p.kind = "ova" then root else root.dropLast
  p.disks.map fun disk => p.storageId ++ ":" ++ Files.posixText base ++ "/" ++ disk.href

/-! ## Staging -/

/-- What the calls of `_stage_ovf_package_sources` answer: `storage_mount_root`, the token,
and for each file by its number the opening, the link, and the closing. -/
structure OvfCalls where
  mountRoot : Except ImportRaised String
  token : String
  opening : Nat → Option FsFailure
  linking : Nat → LinkEnd
  closing : Nat → Option FsFailure

/-- `confined_relative_path(directory, href)`. -/
def besideDescriptor (directory : List String) (href : String) : Except Files.Raised (List String) :=
  let parts := if Text.startsWith href "/" then Text.posixParts href else directory ++ Text.posixParts href
  Files.normalizedRelativePath (if Text.startsWith href "/" then href else Files.posixText parts)

section
variable (calls : OvfCalls)

/-- `hardlink_open_file_noreplace`. -/
def linkOpened (target : String) : LinkEnd → Job Unit
  | .linked => record (.linked target)
  | .unclosed => do
    record (.linked target)
    raise .os
  | .taken => raise .confined
  | .failed failure => raise failure.raised

/-- One file is opened, linked and closed. -/
def linkSource (index : Nat) (target : String) : Job Unit := do
  call (calls.opening index)
  ensuring (linkOpened target (calls.linking index)) (call (calls.closing index))

/-- `_remove_staged_files`. -/
def removeStagedFiles (paths : List String) : Job Unit := do
  let _ ← liftImport calls.mountRoot
  paths.forM fun path => record (.removalAsked path)

def diskTarget (index : Nat) (parts : List String) : String :=
  let suffix := Text.lower (Posix.suffix (Files.posixText parts))
  "import/pve-helper-" ++ calls.token ++ "-" ++ toString index ++ (if suffix = "" then ".vmdk" else suffix)

/-- One turn of the loop over the disks: the staged path. -/
def stageDisk (directory : List String) (index : Nat) (disk : OvfDisk) : Job String :=
  match besideDescriptor directory disk.href with
  | .error _ => raise .confined
  | .ok parts => do
    except (linkSource calls index (diskTarget calls index parts)) fun
      | .confined => some (raise (.register ("OVF disk " ++ disk.href ++ " is not available beside the descriptor.")))
      | _ => none
    pure (diskTarget calls index parts)

/-- The loop over the disks up to its first raise: the staged paths, and what is raised. -/
def stageDisks (directory : List String) : Nat → List OvfDisk → Job (List String × Option ImportRaised)
  | _, [] => pure ([], none)
  | index, disk :: disks => do
    match ← attempt (stageDisk calls directory index disk) with
    | .error e => pure ([], some e)
    | .ok target => do
      let (targets, raised) ← stageDisks directory (index + 1) disks
      pure (target :: targets, raised)

def archiveTarget : String := "import/pve-helper-" ++ calls.token ++ ".ova"

/-- The block of `_stage_ovf_package_sources`: the staged paths, and what is raised. -/
def stagePackage (p : OvfPackage) : Job (List String × Option ImportRaised) :=
  match Files.normalizedRelativePath p.sourcePath with
  | .error _ => pure ([], some .confined)
  | .ok parts =>
    if p.kind = "ova" then do
      match ← attempt (linkSource calls 0 (archiveTarget calls)) with
      | .error e => pure ([], some e)
      | .ok _ => pure ([archiveTarget calls], none)
    else stageDisks calls parts.dropLast 0 p.disks

/-- The volumes of staged files. -/
def stagedVolids (storageId : String) (p : OvfPackage) (staged : List String) : List String :=
  if p.kind = "ova" then
    p.disks.map fun disk => storageId ++ ":import/" ++ Posix.name (archiveTarget calls) ++ "/" ++ disk.href
  else staged.map fun path => storageId ++ ":" ++ path

/-- `_stage_ovf_package_sources`: the volumes, and the staged paths. -/
def stageOvfPackageSources (storageId : String) (p : OvfPackage) : Job (List String × List String) :=
  if Text.startsWith p.sourcePath "import/" then pure (packageDiskVolids p, [])
  else do
    let _ ← liftImport calls.mountRoot
    let (staged, raised) ← stagePackage calls p
    match raised with
    | none => pure (stagedVolids calls storageId p staged, staged)
    | some (.register message) => do
      removeStagedFiles calls staged
      raise (.register message)
    | some .confined | some .os => do
      removeStagedFiles calls staged
      raise (.register "Could not stage the OVA/OVF package on the source storage.")
    | some e => raise e

end

/-! ## The import -/

/-- How `wait_for_task` ends. -/
inductive TaskEnd
  | raised (e : ImportRaised)
  | ended (status exitstatus : String)

/-- How the provider answers: the create request, the config write of each further disk, the
start request, and the tasks of these in their order. -/
structure OvfAnswers where
  create : HttpOutcome
  attach : Nat → HttpOutcome
  start : HttpOutcome
  task : Nat → TaskEnd

/-- `_wait_for_upid`. -/
def waitForUpid (answers : OvfAnswers) (index : Nat) : Json → Job (Option String)
  | .str upid =>
    if !Text.startsWith upid "UPID:" then pure none
    else match answers.task index with
      | .raised e => raise e
      | .ended status exitstatus =>
        if status = "stopped" && exitstatus = "OK" then pure none
        else pure (some (if exitstatus != "" then exitstatus else if status != "" then status else "unknown error"))
  | _ => pure none

/-- `if isinstance(upid, str): upids.append(upid)`. -/
def appendUpid (upids : List String) : Json → List String
  | .str upid => upids ++ [upid]
  | _ => upids

/-- The import's outcome: the tasks, and the error if there is one. -/
abbrev OvfOutcome := List String × Option String

section
variable (trustMode : String) (answers : OvfAnswers) (node : String) (params : Params)
  (progress : String → Nat → Nat → Option ImportRaised)

/-- A request and the wait for its task, and what comes after; a `ProxmoxAPIError` ends the import
with the tasks that there are. -/
def importStep (upids : List String) (index : Nat) (request : Job Json) (failed : String)
    (next : List String → Job OvfOutcome) : Job OvfOutcome := do
  match ← attempt request with
  | .error (.provider _) => pure (upids, some "The OVF import request failed.")
  | .error e => raise e
  | .ok upid =>
    let upids := appendUpid upids upid
    match ← attempt (waitForUpid answers index upid) with
    | .error (.provider _) => pure (upids, some "The OVF import request failed.")
    | .error e => raise e
    | .ok (some error) => pure (upids, some (failed ++ error))
    | .ok none => next upids

def reportProgress (stage : String) (index total : Nat) : Job Unit :=
  match progress stage index total with
  | none => pure ()
  | some e => raise e

/-- `params["vmid"]` in the path of the guest. -/
def guestPath (vmid : Json) (rest : String) : String := guestsPath node ++ "/" ++ vmid.shown ++ "/" ++ rest

/-- The loop over the further disks, each with its key and its volume. -/
def attachDisks (total : Nat) (done : List String → Job OvfOutcome) :
    Nat → List (String × String) → List String → Job OvfOutcome
  | _, [], upids => done upids
  | index, (key, volid) :: disks, upids => do
    reportProgress progress ("import disk " ++ toString (index + 1) ++ " of " ++ toString total) (index + 1) total
    let vmid ← liftImport (required params "vmid")
    let disk ← liftImport (importFrom params volid)
    importStep answers upids index (send trustMode "PUT" (guestPath node vmid "config") [(key, disk)] (answers.attach index))
      ("Disk " ++ toString (index + 1) ++ " import failed: ") (attachDisks total done (index + 1) disks)

def startGuest (total : Nat) (upids : List String) : Job OvfOutcome :=
  if (paramOr params "start" .null).truthy then do
    reportProgress progress "start imported VM" total total
    let vmid ← liftImport (required params "vmid")
    importStep answers upids total (send trustMode "POST" (guestPath node vmid "status/start") [] answers.start)
      "VM imported but could not start: " fun upids => pure (upids, none)
  else pure (upids, none)

/-- The body of the create request. -/
def bootBody (key volid : String) : Except ImportRaised (List (String × Json)) := do
  let body ← baseBody params
  let disk ← importFrom params volid
  pure (Json.setField (Json.setField body key disk) "boot" (.str ("order=" ++ key)))

/-- The block between the client and the removal of the staged files. -/
def importDisks : List (String × String) → Job OvfOutcome
  | [] => pure ([], none)
  | (key, volid) :: disks => do
    let body ← liftImport (bootBody params key volid)
    reportProgress progress "create and import boot disk" 1 (disks.length + 1)
    importStep answers [] 0 (send trustMode "POST" (guestsPath node) body answers.create) "Boot-disk import failed: "
      (attachDisks trustMode answers node params progress (disks.length + 1)
        (startGuest trustMode answers node params progress (disks.length + 1)) 1 disks)

end

/-- `str(params.get("disk_bus") or "sata")`. -/
def diskBus (params : Params) : String :=
  let bus := paramOr params "disk_bus" .null
  if bus.truthy then bus.shown else "sata"

def diskKeys (params : Params) (p : OvfPackage) : Except ImportRaised (List String) :=
  (List.range p.disks.length).mapM (diskKey (diskBus params))

section
variable (trustMode : String) (cluster : PassCluster) (answers : OvfAnswers) (node : String) (params : Params)
  (progress : String → Nat → Nat → Option ImportRaised) (calls : OvfCalls) (storageId : String)

/-- What follows the staging. -/
def importStaged (keys volids staged : List String) : Job OvfOutcome := do
  let _ ← liftImport (importClient cluster)
  let params := if diskBus params = "scsi" then setDefault params "scsihw" (.str "virtio-scsi-single") else params
  ensuring (importDisks trustMode answers node params progress (keys.zip volids)) (removeStagedFiles calls staged)

/-- `import_ovf_package_as_vm`. -/
def importOvfPackageAsVm (parsed : ParseEnd) : Job OvfOutcome :=
  match parsed with
  | .refused message => pure ([], some message)
  | .raised e => raise e
  | .package p =>
    if p.disks.isEmpty then pure ([], some "OVF package does not contain an importable disk.")
    else match diskKeys params p with
      | .error (.register message) => pure ([], some message)
      | .error e => raise e
      | .ok keys => do
        match ← attempt (stageOvfPackageSources calls storageId p) with
        | .error (.register message) => pure ([], some message)
        | .error e => raise e
        | .ok (volids, staged) => importStaged trustMode cluster answers node params progress calls keys volids staged

end

/-! ## How a file is staged -/

/-- A file is linked and closed; or linked, with a raise before its name is kept; or not linked. -/
inductive SourceEnd
  | staged | leaked | refused
deriving DecidableEq

/-- The end of the file of this number. -/
def sourceEnd (calls : OvfCalls) (index : Nat) : SourceEnd :=
  match calls.opening index, calls.linking index, calls.closing index with
  | none, .linked, none => .staged
  | none, .linked, some _ => .leaked
  | none, .unclosed, _ => .leaked
  | _, _, _ => .refused

def diskEnds (calls : OvfCalls) (directory : List String) : Nat → List OvfDisk → List SourceEnd
  | _, [] => []
  | index, disk :: disks =>
    (match besideDescriptor directory disk.href with
      | .error _ => .refused
      | .ok _ => sourceEnd calls index) :: diskEnds calls directory (index + 1) disks

/-- The ends of the files that a package outside `import/` is staged by. -/
def sourceEnds (calls : OvfCalls) (p : OvfPackage) : List SourceEnd :=
  match Files.normalizedRelativePath p.sourcePath with
  | .error _ => [.refused]
  | .ok parts => if p.kind = "ova" then [sourceEnd calls 0] else diskEnds calls parts.dropLast 0 p.disks

/-- What staging raises before it is caught. -/
def ImportRaised.inStaging : ImportRaised → Prop
  | .register _ | .confined | .os => True
  | _ => False

theorem FsFailure.raised_inStaging (failure : FsFailure) : failure.raised.inStaging := by
  cases failure <;> trivial

/-- Every file that was linked has been asked to be removed, and nothing else has. -/
def CleanedUp (log : List Effect) : Prop := ∀ path, .removalAsked path ∈ log ↔ .linked path ∈ log

section
variable {calls : OvfCalls} {index : Nat} {target : String} {log : List Effect}

theorem linkSource_staged (h : sourceEnd calls index = .staged) :
    linkSource calls index target log = .ok () (log ++ [.linked target]) := by
  unfold sourceEnd at h
  split at h
  · next hopening hlinking hclosing =>
    unfold linkSource
    rw [hopening, hlinking, hclosing]
    rfl
  all_goals cases h

theorem linkSource_leaked (h : sourceEnd calls index = .leaked) :
    ∃ e, linkSource calls index target log = .error e (log ++ [.linked target]) ∧ e.inStaging := by
  unfold sourceEnd at h
  split at h
  · cases h
  · next failure hopening hlinking hclosing =>
    refine ⟨failure.raised, ?_, failure.raised_inStaging⟩
    unfold linkSource
    rw [hopening, hlinking, hclosing]
    rfl
  · next hopening hlinking =>
    unfold linkSource
    rw [hopening, hlinking]
    cases calls.closing index with
    | none => exact ⟨.os, rfl, trivial⟩
    | some failure => exact ⟨failure.raised, rfl, failure.raised_inStaging⟩
  · cases h

theorem linkSource_refused (h : sourceEnd calls index = .refused) :
    ∃ e, linkSource calls index target log = .error e log ∧ e.inStaging := by
  unfold linkSource
  cases hopening : calls.opening index with
  | some failure => exact ⟨failure.raised, rfl, failure.raised_inStaging⟩
  | none =>
    -- a link that is not made raises at the link or, after it, at the closing
    have hends : ∀ link : LinkEnd, (∀ l, ∃ e, linkOpened target link l = .error e l ∧ e.inStaging) →
        ∃ e, ensuring (linkOpened target link) (call (calls.closing index)) log = .error e log ∧ e.inStaging := by
      intro link hlink
      obtain ⟨e, he, hkind⟩ := hlink log
      unfold ensuring
      rw [he]
      cases calls.closing index with
      | none => exact ⟨e, rfl, hkind⟩
      | some failure => exact ⟨failure.raised, rfl, failure.raised_inStaging⟩
    cases hlinking : calls.linking index with
    | linked =>
      unfold sourceEnd at h
      rw [hopening, hlinking] at h
      cases hclosing : calls.closing index <;> rw [hclosing] at h <;> cases h
    | unclosed =>
      unfold sourceEnd at h
      rw [hopening, hlinking] at h
      cases h
    | taken => exact hends .taken fun l => ⟨.confined, rfl, trivial⟩
    | failed failure => exact hends (.failed failure) fun l => ⟨failure.raised, rfl, failure.raised_inStaging⟩

/-! ## Names below `import/` -/

theorem lowered_suffix_dot {s : String} (h : Text.lower (Posix.suffix s) ≠ "") :
    ∃ rest, (Text.lower (Posix.suffix s)).toList = '.' :: rest := by
  unfold Posix.suffix at h ⊢
  split
  · next hspan =>
    rw [hspan] at h
    exact absurd rfl h
  · next after before hspan =>
    split
    · exact ⟨_, by rw [Text.lower, String.toList_ofList, String.toList_ofList, List.map_cons]; rfl⟩
    · next hany =>
      rw [hspan] at h
      simp only [hany] at h
      exact absurd rfl h

/-- The number of a staged file can be read off its path. -/
theorem diskTarget_inj {i j : Nat} {parts parts' : List String}
    (h : diskTarget calls i parts = diskTarget calls j parts') : i = j := by
  -- after the number comes a dot
  have hdot : ∀ n parts, ∃ rest, (diskTarget calls n parts).toList =
      ("import/pve-helper-" ++ calls.token ++ "-").toList ++ ((toString n).toList ++ '.' :: rest) := by
    intro n parts
    unfold diskTarget
    dsimp only
    split
    · exact ⟨"vmdk".toList, by rw [String.toList_append, String.toList_append, List.append_assoc]; rfl⟩
    · next hne =>
      obtain ⟨rest, hrest⟩ := lowered_suffix_dot hne
      exact ⟨rest, by rw [String.toList_append, String.toList_append, List.append_assoc, hrest]⟩
  obtain ⟨rest, hrest⟩ := hdot i parts
  obtain ⟨rest', hrest'⟩ := hdot j parts'
  rw [h, hrest'] at hrest
  exact (Text.toString_append_inj (by decide) (List.append_cancel_left hrest)).symm

/-! ## The record of staging -/

/-- What is staged of some files with these ends: the paths of those that are, the path of
one that was linked only, and what is raised. -/
structure Stages (ends : List SourceEnd) (targets leak : List String) (raised : Option ImportRaised) : Prop where
  apart : ∀ path ∈ leak, path ∉ targets
  leaks : leak ≠ [] ↔ ends.find? (· ≠ .staged) = some .leaked
  raises : raised = none ↔ ∀ e ∈ ends, e = .staged
  kind : ∀ e, raised = some e → e.inStaging
  count : raised = none → targets.length = ends.length

theorem Stages.one_refused (e : ImportRaised) (h : e.inStaging) (ends : List SourceEnd) :
    Stages (.refused :: ends) [] [] (some e) where
  apart := by simp
  leaks := by simp
  raises := by simp
  kind := by
    rintro e' ⟨⟩
    exact h
  count := by simp

theorem Stages.one_leaked (e : ImportRaised) (h : e.inStaging) (ends : List SourceEnd) (target : String) :
    Stages (.leaked :: ends) [] [target] (some e) where
  apart := by simp
  leaks := by simp
  raises := by simp
  kind := by
    rintro e' ⟨⟩
    exact h
  count := by simp

theorem Stages.cons {ends : List SourceEnd} {targets leak : List String} {raised : Option ImportRaised} {target : String}
    (h : Stages ends targets leak raised) (hnew : target ∉ leak) : Stages (.staged :: ends) (target :: targets) leak raised where
  apart path hpath hmem := by
    rcases List.mem_cons.mp hmem with rfl | hmem
    · exact hnew hpath
    · exact h.apart path hpath hmem
  leaks := by simpa using h.leaks
  raises := by simpa using h.raises
  kind := h.kind
  count hraised := by simpa using h.count hraised

/-- Where nothing is raised no link is lost. -/
theorem Stages.whole {ends : List SourceEnd} {targets leak : List String} (h : Stages ends targets leak none)
    (hends : ends ≠ []) : leak = [] ∧ targets ≠ [] := by
  constructor
  · by_contra hne
    have hmem := List.mem_of_find?_eq_some (h.leaks.mp hne)
    cases h.raises.mp rfl _ hmem
  · intro hnil
    have hcount := h.count rfl
    rw [hnil, List.length_nil] at hcount
    exact hends (List.length_eq_zero_iff.mp hcount.symm)

theorem stageDisk_of_raised {directory : List String} {disk : OvfDisk} {index : Nat} {parts : List String}
    {log log' : List Effect} (hparts : besideDescriptor directory disk.href = .ok parts)
    (h : ∃ e, linkSource calls index (diskTarget calls index parts) log = .error e log' ∧ e.inStaging) :
    ∃ e, stageDisk calls directory index disk log = .error e log' ∧ e.inStaging := by
  obtain ⟨e, he, hkind⟩ := h
  rw [stageDisk, hparts]
  by_cases hconfined : e = .confined
  · subst hconfined
    exact ⟨_, bind_error.mpr (.inl (except_of_caught he rfl)), trivial⟩
  · refine ⟨e, bind_error.mpr (.inl (except_of_uncaught he ?_)), hkind⟩
    cases e with
    | confined => exact absurd rfl hconfined
    | _ => rfl

/-- The record when some files with these ends have been staged, as the loop over them leaves it. -/
theorem stageDisks_stages (calls : OvfCalls) (directory : List String) (index : Nat) (disks : List OvfDisk)
    (log : List Effect) :
    ∃ targets leak raised, stageDisks calls directory index disks log =
        .ok (targets, raised) (log ++ (targets ++ leak).map .linked) ∧
      Stages (diskEnds calls directory index disks) targets leak raised ∧
      ∀ path ∈ targets ++ leak, ∃ n parts, index ≤ n ∧ path = diskTarget calls n parts := by
  induction disks generalizing index log with
  | nil =>
    refine ⟨[], [], none, ?_, ⟨by simp, by simp [diskEnds], by simp [diskEnds], by simp, by simp [diskEnds]⟩, by simp⟩
    rw [stageDisks, List.append_nil, List.map_nil, List.append_nil]
    rfl
  | cons disk disks ih =>
    -- what the turn for this disk raises is the end of the loop
    have hends : ∀ e leak, stageDisk calls directory index disk log = .error e (log ++ leak.map .linked) →
        stageDisks calls directory index (disk :: disks) log =
          .ok ([], some e) (log ++ (([] : List String) ++ leak).map .linked) := by
      intro e leak he
      rw [stageDisks, bind_of_ok (attempt_of_error he)]
      rfl
    unfold diskEnds
    cases hparts : besideDescriptor directory disk.href with
    | error e =>
      refine ⟨[], [], some .confined, hends .confined [] ?_, Stages.one_refused .confined trivial _, by simp⟩
      rw [stageDisk, hparts, List.map_nil, List.append_nil]
      rfl
    | ok parts =>
      dsimp only
      cases hend : sourceEnd calls index with
      | refused =>
        obtain ⟨e, he, hkind⟩ := stageDisk_of_raised hparts (linkSource_refused hend)
        refine ⟨[], [], some e, hends e [] ?_, Stages.one_refused e hkind _, by simp⟩
        rw [he, List.map_nil, List.append_nil]
      | leaked =>
        obtain ⟨e, he, hkind⟩ := stageDisk_of_raised hparts (linkSource_leaked hend)
        refine ⟨[], [diskTarget calls index parts], some e, hends e [_] he, Stages.one_leaked e hkind _ _, ?_⟩
        simpa using ⟨index, le_refl index, parts, rfl⟩
      | staged =>
        obtain ⟨targets, leak, raised, hrun, hstages, hnames⟩ := ih (index + 1) (log ++ [.linked (diskTarget calls index parts)])
        have hfirst : stageDisk calls directory index disk log =
            .ok (diskTarget calls index parts) (log ++ [.linked (diskTarget calls index parts)]) := by
          rw [stageDisk, hparts]
          exact bind_ok.mpr ⟨(), _, except_of_ok (linkSource_staged hend), rfl⟩
        refine ⟨diskTarget calls index parts :: targets, leak, raised, ?_, hstages.cons ?_, ?_⟩
        · rw [stageDisks, bind_of_ok (attempt_of_ok hfirst)]
          dsimp only
          rw [bind_of_ok hrun, List.append_assoc]
          rfl
        · intro hmem
          obtain ⟨n, parts', hn, hpath⟩ := hnames _ (List.mem_append_right _ hmem)
          have := diskTarget_inj hpath
          omega
        · intro path hpath
          rcases List.mem_cons.mp hpath with rfl | hpath
          · exact ⟨index, parts, le_refl index, rfl⟩
          · obtain ⟨n, parts', hn, hpath⟩ := hnames path hpath
            exact ⟨n, parts', by omega, hpath⟩

theorem sourceEnds_ne_nil {p : OvfPackage} (hdisks : p.disks ≠ []) : sourceEnds calls p ≠ [] := by
  unfold sourceEnds
  split
  · simp
  · split
    · simp
    · obtain ⟨disk, disks, hcons⟩ := List.exists_cons_of_ne_nil hdisks
      rw [hcons, diskEnds]
      simp

theorem stagePackage_stages (calls : OvfCalls) (p : OvfPackage) (log : List Effect) :
    ∃ targets leak raised, stagePackage calls p log = .ok (targets, raised) (log ++ (targets ++ leak).map .linked) ∧
      Stages (sourceEnds calls p) targets leak raised := by
  unfold stagePackage sourceEnds
  cases hparts : Files.normalizedRelativePath p.sourcePath with
  | error e =>
    refine ⟨[], [], some .confined, ?_, Stages.one_refused .confined trivial _⟩
    rw [List.append_nil, List.map_nil, List.append_nil]
    rfl
  | ok parts =>
    dsimp only
    by_cases hova : p.kind = "ova"
    · rw [if_pos hova, if_pos hova]
      cases hend : sourceEnd calls 0 with
      | staged =>
        refine ⟨[archiveTarget calls], [], none, ?_, ⟨by simp, by simp, by simp, by simp, by simp⟩⟩
        rw [bind_of_ok (attempt_of_ok (linkSource_staged hend))]
        rfl
      | leaked =>
        obtain ⟨e, he, hkind⟩ := @linkSource_leaked _ _ (archiveTarget calls) log hend
        refine ⟨[], [archiveTarget calls], some e, ?_, Stages.one_leaked e hkind _ _⟩
        rw [bind_of_ok (attempt_of_error he)]
        rfl
      | refused =>
        obtain ⟨e, he, hkind⟩ := @linkSource_refused _ _ (archiveTarget calls) log hend
        refine ⟨[], [], some e, ?_, Stages.one_refused e hkind _⟩
        rw [bind_of_ok (attempt_of_error he), List.append_nil, List.map_nil, List.append_nil]
        rfl
    · rw [if_neg hova, if_neg hova]
      obtain ⟨targets, leak, raised, hrun, hstages, -⟩ := stageDisks_stages calls parts.dropLast 0 p.disks log
      exact ⟨targets, leak, raised, hrun, hstages⟩

theorem forM_record (paths : List String) (log : List Effect) :
    (paths.forM fun path => record (.removalAsked path)) log = .ok () (log ++ paths.map .removalAsked) := by
  induction paths generalizing log with
  | nil =>
    rw [List.map_nil, List.append_nil]
    rfl
  | cons path paths ih =>
    refine bind_ok.mpr ⟨(), log ++ [.removalAsked path], rfl, ?_⟩
    rw [ih, List.append_assoc]
    rfl

theorem removeStagedFiles_run {root : String} (hroot : calls.mountRoot = .ok root) (paths : List String) (log : List Effect) :
    removeStagedFiles calls paths log = .ok () (log ++ paths.map .removalAsked) := by
  unfold removeStagedFiles
  rw [hroot, bind_of_ok (show liftImport (.ok root) log = .ok root log from rfl), forM_record]

theorem removeStagedFiles_nothing (calls : OvfCalls) (log : List Effect) : final (removeStagedFiles calls []) log = log := by
  unfold removeStagedFiles
  cases calls.mountRoot <;> rfl

/-- A package outside `import/` on a storage that is mounted: it is staged, or what was staged
has been asked to be removed. -/
theorem stageOvfPackageSources_run {root storageId : String} {p : OvfPackage}
    (hplace : Text.startsWith p.sourcePath "import/" = false) (hroot : calls.mountRoot = .ok root) (log : List Effect) :
    ∃ targets leak raised, Stages (sourceEnds calls p) targets leak raised ∧
      ((raised = none ∧ stageOvfPackageSources calls storageId p log =
          .ok (stagedVolids calls storageId p targets, targets) (log ++ (targets ++ leak).map .linked)) ∨
        ∃ message, raised ≠ none ∧ stageOvfPackageSources calls storageId p log =
          .error (.register message) (log ++ (targets ++ leak).map .linked ++ targets.map .removalAsked)) := by
  obtain ⟨targets, leak, raised, hrun, hstages⟩ := stagePackage_stages calls p log
  refine ⟨targets, leak, raised, hstages, ?_⟩
  unfold stageOvfPackageSources
  rw [if_neg (by simp [hplace]), hroot, bind_of_ok (show liftImport (.ok root) log = .ok root log from rfl), bind_of_ok hrun]
  cases raised with
  | none => exact .inl ⟨rfl, rfl⟩
  | some e =>
    refine .inr ?_
    have hkind := hstages.kind e rfl
    dsimp only
    cases e with
    | register message =>
      refine ⟨message, by simp, ?_⟩
      dsimp only
      rw [bind_of_ok (removeStagedFiles_run hroot targets _)]
      rfl
    | confined =>
      refine ⟨"Could not stage the OVA/OVF package on the source storage.", by simp, ?_⟩
      dsimp only
      rw [bind_of_ok (removeStagedFiles_run hroot targets _)]
      rfl
    | os =>
      refine ⟨"Could not stage the OVA/OVF package on the source storage.", by simp, ?_⟩
      dsimp only
      rw [bind_of_ok (removeStagedFiles_run hroot targets _)]
      rfl
    | _ => exact hkind.elim

end

/-! ## The import asks for no removal -/

def Effect.isRequest (e : Effect) : Prop := ∃ method path body o, e = .requested method path body o

theorem send_records (trustMode method path : String) (body : List (String × Json)) (o : HttpOutcome) :
    Maintains (Records Effect.isRequest) (send trustMode method path body o) := by
  refine Maintains.bind (record_records ⟨_, _, _, _, rfl⟩) fun _ => ?_
  cases request trustMode path o with
  | ok data => exact Maintains.pure data
  | error e => exact Maintains.raise _

section
variable {trustMode : String} {answers : OvfAnswers} {node : String} {params : Params}
  {progress : String → Nat → Nat → Option ImportRaised}

theorem waitForUpid_still {R : List Effect → List Effect → Prop} [Std.Refl R] (index : Nat) (upid : Json) :
    Maintains R (waitForUpid answers index upid) := by
  unfold waitForUpid
  split
  · split
    · exact Maintains.pure _
    · split
      · exact Maintains.raise _
      · split
        · exact Maintains.pure _
        · exact Maintains.pure _
  · exact Maintains.pure _

theorem importStep_records {upids : List String} {index : Nat} {request : Job Json} {failed : String}
    {next : List String → Job OvfOutcome} (hrequest : Maintains (Records Effect.isRequest) request)
    (hnext : ∀ upids, Maintains (Records Effect.isRequest) (next upids)) :
    Maintains (Records Effect.isRequest) (importStep answers upids index request failed next) := by
  refine Maintains.bind hrequest.attempt fun answer => ?_
  split
  · exact Maintains.pure _
  · exact Maintains.raise _
  · refine Maintains.bind (waitForUpid_still _ _).attempt fun ended => ?_
    split
    · exact Maintains.pure _
    · exact Maintains.raise _
    · exact Maintains.pure _
    · exact hnext _

theorem reportProgress_still {R : List Effect → List Effect → Prop} [Std.Refl R] (stage : String) (index total : Nat) :
    Maintains R (reportProgress progress stage index total) := by
  unfold reportProgress
  split
  · exact Maintains.pure _
  · exact Maintains.raise _

theorem attachDisks_records {total : Nat} {done : List String → Job OvfOutcome}
    (hdone : ∀ upids, Maintains (Records Effect.isRequest) (done upids)) (index : Nat) (disks : List (String × String))
    (upids : List String) :
    Maintains (Records Effect.isRequest) (attachDisks trustMode answers node params progress total done index disks upids) := by
  induction disks generalizing index upids with
  | nil => exact hdone upids
  | cons disk disks ih =>
    refine Maintains.bind (reportProgress_still _ _ _) fun _ => Maintains.bind (liftImport_maintains _) fun _ =>
      Maintains.bind (liftImport_maintains _) fun _ => ?_
    exact importStep_records (send_records _ _ _ _ _) fun upids => ih (index + 1) upids

theorem startGuest_records (total : Nat) (upids : List String) :
    Maintains (Records Effect.isRequest) (startGuest trustMode answers node params progress total upids) := by
  unfold startGuest
  split
  · refine Maintains.bind (reportProgress_still _ _ _) fun _ => Maintains.bind (liftImport_maintains _) fun _ => ?_
    exact importStep_records (send_records _ _ _ _ _) fun _ => Maintains.pure _
  · exact Maintains.pure _

theorem importDisks_records (disks : List (String × String)) :
    Maintains (Records Effect.isRequest) (importDisks trustMode answers node params progress disks) := by
  cases disks with
  | nil => exact Maintains.pure _
  | cons disk disks =>
    refine Maintains.bind (liftImport_maintains _) fun _ => Maintains.bind (reportProgress_still _ _ _) fun _ => ?_
    exact importStep_records (send_records _ _ _ _ _) fun upids => attachDisks_records (startGuest_records _) _ _ _

theorem cleanedUp_iff {linked asked : List String} {new : List Effect} (hnew : ∀ e ∈ new, e.isRequest) :
    CleanedUp (linked.map .linked ++ new ++ asked.map .removalAsked) ↔ ∀ path, path ∈ asked ↔ path ∈ linked := by
  have hasked : ∀ path, .removalAsked path ∈ linked.map Effect.linked ++ new ++ asked.map .removalAsked ↔ path ∈ asked := by
    intro path
    have hout : Effect.removalAsked path ∉ new := by
      intro hmem
      obtain ⟨_, _, _, _, he⟩ := hnew _ hmem
      cases he
    simp [hout]
  have hlinked : ∀ path, .linked path ∈ linked.map Effect.linked ++ new ++ asked.map .removalAsked ↔ path ∈ linked := by
    intro path
    have hout : Effect.linked path ∉ new := by
      intro hmem
      obtain ⟨_, _, _, _, he⟩ := hnew _ hmem
      cases he
    simp [hout]
  unfold CleanedUp
  exact forall_congr' fun path => by rw [hasked, hlinked]

variable {cluster : PassCluster} {calls : OvfCalls} {keys volids staged : List String}

theorem importStaged_refused {e : ImportRaised} (hclient : importClient cluster = .error e) (log : List Effect) :
    final (importStaged trustMode cluster answers node params progress calls keys volids staged) log = log := by
  unfold importStaged
  rw [hclient]
  rfl

theorem importStaged_log {endpoint : PassEndpoint} (hclient : importClient cluster = .ok endpoint) (log : List Effect) :
    ∃ new, (∀ e ∈ new, e.isRequest) ∧
      final (importStaged trustMode cluster answers node params progress calls keys volids staged) log =
        final (removeStagedFiles calls staged) (log ++ new) := by
  obtain ⟨new, hnew, hrequests⟩ := @importDisks_records trustMode answers node
    (if diskBus params = "scsi" then setDefault params "scsihw" (.str "virtio-scsi-single") else params) progress
    (keys.zip volids) log
  refine ⟨new, hrequests, ?_⟩
  unfold importStaged
  rw [hclient, final_bind_of_ok (show liftImport (.ok endpoint) log = .ok endpoint log from rfl)]
  dsimp only
  rw [final_ensuring, hnew]

/-- The end of an import whose files are where the provider reads them. -/
theorem importStaged_nothing (log : List Effect) : Records Effect.isRequest log
    (final (importStaged trustMode cluster answers node params progress calls keys volids []) log) := by
  cases hclient : importClient cluster with
  | error e =>
    rw [importStaged_refused hclient]
    exact Std.Refl.refl log
  | ok endpoint =>
    obtain ⟨new, hnew, hfinal⟩ := @importStaged_log trustMode answers node params progress _ calls keys volids [] _ hclient log
    rw [hfinal, removeStagedFiles_nothing]
    exact ⟨new, rfl, hnew⟩

theorem cleanedUp_of_requests {log : List Effect} (h : Records Effect.isRequest [] log) : CleanedUp log := by
  obtain ⟨new, rfl, hnew⟩ := h
  have hclean := (@cleanedUp_iff [] [] _ hnew).mpr (by simp)
  simpa using hclean

end

section
variable (trustMode : String) (cluster : PassCluster) (answers : OvfAnswers) (node : String) (params : Params)
  (progress : String → Nat → Nat → Option ImportRaised) (calls : OvfCalls) (storageId : String) (parsed : ParseEnd)

/-- What the import does with a package that it gets as far as staging. -/
theorem importOvfPackageAsVm_package {p : OvfPackage} {keys : List String} (hparsed : parsed = .package p)
    (hdisks : p.disks ≠ []) (hkeys : diskKeys params p = .ok keys) :
    importOvfPackageAsVm trustMode cluster answers node params progress calls storageId parsed = (do
      match ← attempt (stageOvfPackageSources calls storageId p) with
      | .error (.register message) => pure ([], some message)
      | .error e => raise e
      | .ok (volids, staged) => importStaged trustMode cluster answers node params progress calls keys volids staged) := by
  unfold importOvfPackageAsVm
  rw [hparsed]
  dsimp only
  rw [if_neg (by simpa using hdisks), hkeys]

section
variable {p : OvfPackage} {keys : List String} (hparsed : parsed = .package p) (hdisks : p.disks ≠ [])
  (hkeys : diskKeys params p = .ok keys)
include hparsed hdisks hkeys

/-- Where all files are staged the client decides. -/
theorem cleanedUp_of_staged {root : String} {volids targets : List String} (hroot : calls.mountRoot = .ok root)
    (htargets : targets ≠ []) (hstage : stageOvfPackageSources calls storageId p [] = .ok (volids, targets) (targets.map .linked)) :
    CleanedUp (final (importOvfPackageAsVm trustMode cluster answers node params progress calls storageId parsed) []) ↔
      ∃ endpoint, importClient cluster = .ok endpoint := by
  rw [importOvfPackageAsVm_package trustMode cluster answers node params progress calls storageId parsed hparsed hdisks hkeys,
    final_bind_of_ok (attempt_of_ok hstage)]
  dsimp only
  cases hclient : importClient cluster with
  | error e =>
    rw [importStaged_refused hclient]
    have hclean := @cleanedUp_iff targets [] [] (by simp)
    rw [List.append_nil, List.map_nil, List.append_nil] at hclean
    rw [hclean]
    obtain ⟨target, htarget⟩ := List.exists_mem_of_ne_nil targets htargets
    constructor
    · intro hall
      exact absurd ((hall target).mpr htarget) (by simp)
    · rintro ⟨endpoint, hendpoint⟩
      cases hendpoint
  | ok endpoint =>
    obtain ⟨new, hnew, hfinal⟩ := @importStaged_log trustMode answers node params progress _ calls keys volids targets _
      hclient (targets.map .linked)
    rw [hfinal, final, removeStagedFiles_run hroot]
    dsimp only
    rw [cleanedUp_iff hnew]
    exact ⟨fun _ => ⟨endpoint, rfl⟩, fun _ path => Iff.rfl⟩

/-- Where one is not, those before it have been asked to be removed. -/
theorem cleanedUp_of_unstaged {targets leak : List String} {message : String} (hapart : ∀ path ∈ leak, path ∉ targets)
    (hstage : stageOvfPackageSources calls storageId p [] =
      .error (.register message) ((targets ++ leak).map .linked ++ targets.map .removalAsked)) :
    CleanedUp (final (importOvfPackageAsVm trustMode cluster answers node params progress calls storageId parsed) []) ↔
      leak = [] := by
  rw [importOvfPackageAsVm_package trustMode cluster answers node params progress calls storageId parsed hparsed hdisks hkeys,
    final_bind_of_ok (attempt_of_error hstage)]
  have hclean := @cleanedUp_iff (targets ++ leak) targets [] (by simp)
  rw [List.append_nil] at hclean
  show CleanedUp ((targets ++ leak).map .linked ++ targets.map .removalAsked) ↔ _
  rw [hclean]
  constructor
  · intro hall
    refine List.eq_nil_iff_forall_not_mem.mpr fun path hpath => ?_
    exact hapart path hpath ((hall path).mpr (List.mem_append_right _ hpath))
  · rintro rfl path
    rw [List.append_nil]

end

/-- An import that does not come to staging links nothing. -/
theorem importOvfPackageAsVm_unstaged
    (h : ∀ p keys root, parsed = .package p → p.disks ≠ [] → diskKeys params p = .ok keys →
      Text.startsWith p.sourcePath "import/" = false → calls.mountRoot ≠ .ok root) :
    Records Effect.isRequest []
      (final (importOvfPackageAsVm trustMode cluster answers node params progress calls storageId parsed) []) := by
  cases hparsed : parsed with
  | refused message => exact Std.Refl.refl []
  | raised e => exact Std.Refl.refl []
  | package p =>
    by_cases hdisks : p.disks = []
    · unfold importOvfPackageAsVm
      dsimp only
      rw [if_pos (by simpa using hdisks)]
      exact Std.Refl.refl []
    cases hkeys : diskKeys params p with
    | error e =>
      unfold importOvfPackageAsVm
      dsimp only
      rw [if_neg (by simpa using hdisks), hkeys]
      cases e <;> exact Std.Refl.refl []
    | ok keys =>
      rw [importOvfPackageAsVm_package trustMode cluster answers node params progress calls storageId _ rfl hdisks hkeys]
      by_cases hplace : Text.startsWith p.sourcePath "import/" = true
      · have hstage : stageOvfPackageSources calls storageId p [] = .ok (packageDiskVolids p, []) [] := by
          rw [stageOvfPackageSources, if_pos hplace]
          rfl
        rw [final_bind_of_ok (attempt_of_ok hstage)]
        exact importStaged_nothing []
      · cases hroot : calls.mountRoot with
        | ok root => exact absurd hroot (h p keys root hparsed hdisks hkeys (Bool.eq_false_iff.mpr hplace))
        | error e =>
          have hstage : stageOvfPackageSources calls storageId p [] = .error e [] := by
            rw [stageOvfPackageSources, if_neg hplace, hroot]
            rfl
          rw [final_bind_of_ok (attempt_of_error hstage)]
          cases e <;> exact Std.Refl.refl []

/-- What was staged has been asked to be removed exactly where no file is linked without its
name being kept, and where a client is there once all are. -/
theorem importOvfPackageAsVm_cleansUp :
    CleanedUp (final (importOvfPackageAsVm trustMode cluster answers node params progress calls storageId parsed) []) ↔
      ∀ p keys root, parsed = .package p → p.disks ≠ [] → diskKeys params p = .ok keys →
        Text.startsWith p.sourcePath "import/" = false → calls.mountRoot = .ok root →
        (sourceEnds calls p).find? (· ≠ .staged) ≠ some .leaked ∧
        ((∀ e ∈ sourceEnds calls p, e = .staged) → ∃ endpoint, importClient cluster = .ok endpoint) := by
  by_cases hreach : ∃ p keys root, parsed = .package p ∧ p.disks ≠ [] ∧ diskKeys params p = .ok keys ∧
      Text.startsWith p.sourcePath "import/" = false ∧ calls.mountRoot = .ok root
  · obtain ⟨p, keys, root, hparsed, hdisks, hkeys, hplace, hroot⟩ := hreach
    have hone : CleanedUp
        (final (importOvfPackageAsVm trustMode cluster answers node params progress calls storageId parsed) []) ↔
        (sourceEnds calls p).find? (· ≠ .staged) ≠ some .leaked ∧
        ((∀ e ∈ sourceEnds calls p, e = .staged) → ∃ endpoint, importClient cluster = .ok endpoint) := by
      obtain ⟨targets, leak, raised, hstages, hrun⟩ := @stageOvfPackageSources_run _ _ storageId _ hplace hroot []
      rw [List.nil_append] at hrun
      rcases hrun with ⟨rfl, hstage⟩ | ⟨message, hraised, hstage⟩
      · have hall := hstages.raises.mp rfl
        have hfind : (sourceEnds calls p).find? (· ≠ .staged) = none :=
          List.find?_eq_none.mpr fun e he => by simpa using hall e he
        obtain ⟨hleak, htargets⟩ := hstages.whole (sourceEnds_ne_nil hdisks)
        rw [hleak, List.append_nil] at hstage
        rw [cleanedUp_of_staged trustMode cluster answers node params progress calls storageId parsed hparsed hdisks hkeys
          hroot htargets hstage, hfind]
        exact ⟨fun hclient => ⟨by simp, fun _ => hclient⟩, fun h => h.2 hall⟩
      · have hunstaged : ¬ ∀ e ∈ sourceEnds calls p, e = .staged := fun hall => hraised (hstages.raises.mpr hall)
        rw [cleanedUp_of_unstaged trustMode cluster answers node params progress calls storageId parsed hparsed hdisks hkeys
          hstages.apart hstage, ← not_iff_not, ← ne_eq, hstages.leaks]
        simp [hunstaged]
    rw [hone]
    refine ⟨fun h p' keys' root' hparsed' _ _ _ _ => ?_, fun h => h p keys root hparsed hdisks hkeys hplace hroot⟩
    obtain rfl := ParseEnd.package.inj (hparsed.symm.trans hparsed')
    exact h
  · refine ⟨fun _ p keys root hparsed hdisks hkeys hplace hroot =>
      absurd ⟨p, keys, root, hparsed, hdisks, hkeys, hplace, hroot⟩ hreach, fun _ => ?_⟩
    refine cleanedUp_of_requests (importOvfPackageAsVm_unstaged trustMode cluster answers node params progress calls storageId
      parsed fun p keys root hparsed hdisks hkeys hplace hroot => ?_)
    exact hreach ⟨p, keys, root, hparsed, hdisks, hkeys, hplace, hroot⟩

end

/-! ## A cluster that is gone by then -/

def oneDisk : OvfPackage := ⟨"nas", "web/web.ovf", "ovf", [⟨"web.vmdk"⟩]⟩

def everyCallAnswers : OvfCalls := ⟨.ok "/storages/nas", "0badc0de", fun _ => none, fun _ => .linked, fun _ => none⟩

def noEndpoint : PassCluster := { key := "default", endpoints := [] }

def notAsked : OvfAnswers := ⟨.status 500 "", fun _ => .status 500 "", .status 500 "", fun _ => .ended "" ""⟩

theorem goneCluster_keeps_links : ¬ CleanedUp (final (importOvfPackageAsVm "public" noEndpoint notAsked "pve1" importParams
    (fun _ _ _ => none) everyCallAnswers "nas" (.package oneDisk)) []) := by
  have hends : sourceEnds everyCallAnswers oneDisk = [.staged] := by decide
  obtain ⟨targets, leak, raised, hstages, hrun⟩ := @stageOvfPackageSources_run everyCallAnswers _ "nas" oneDisk (by decide) rfl []
  have hnone : raised = none := hstages.raises.mpr (by simp [hends])
  subst hnone
  obtain ⟨hleak, htargets⟩ := hstages.whole (by simp [hends])
  rcases hrun with ⟨-, hstage⟩ | ⟨message, hraised, -⟩
  · rw [hleak, List.append_nil, List.nil_append] at hstage
    rw [cleanedUp_of_staged "public" noEndpoint notAsked "pve1" importParams _ everyCallAnswers "nas" _ rfl (by decide)
      (show diskKeys importParams oneDisk = .ok ["sata0"] from rfl) rfl htargets hstage]
    rintro ⟨endpoint, hendpoint⟩
    cases hendpoint
  · exact (hraised rfl).elim

end PveHelper.Registration
