/-
An image of the file browser is made a guest (`import_disk_as_vm` of
`core/services/vm_register.py`): it is linked below `images/` so that the provider can
read it, a guest is created from it, and the link is removed at the end, whatever the
end is. It may be one where the provider is still reading.
-/
import PveHelper.Files.Content
import PveHelper.Files.PathText
import PveHelper.Registration.Requests

namespace PveHelper.Registration

open Lib Operations

/-! ## Staging -/

/-- How `hardlink_open_file_to_new_directory` ends. -/
inductive LinkEnd
  | linked
  /-- It is linked, and a directory that was open for it fails to close. -/
  | unclosed
  /-- `ConfinedPathExistsError`. -/
  | taken
  | failed (failure : FsFailure)

/-- What the calls of `_stage_source` answer: `storage_mount_root`, the opening of the image,
the format that `qemu-img` finds, the staging ids in their order, each with how the link
under it ends, and the closing of the image. -/
structure StageCalls where
  mountRoot : Except ImportRaised String
  opening : Option FsFailure
  format : Option String
  attempts : List (Nat × LinkEnd)
  closing : Option FsFailure

def imageFormats : List String := ["qcow2", "raw", "vmdk"]

/-- `_detect_image_format`; none where `qemu-img` fails or answers no JSON. -/
def detectImageFormat : Option String → Except ImportRaised String
  | none => .error (.register "Could not detect the image format.")
  | some format =>
    if imageFormats.contains format then .ok format
    else .error (.register ("Unsupported image format: " ++ (if format = "" then "unknown" else format)))

/-- The extension of the staged name. -/
def stageExtension (calls : StageCalls) (safeSource : String) : Except ImportRaised String :=
  let ext := Text.lower (Text.lstripChar '.' (Posix.suffix safeSource))
  if imageFormats.contains ext then .ok ext else detectImageFormat calls.format

def stagedName (tmpid : Nat) (ext : String) : String := "vm-" ++ toString tmpid ++ "-disk-0." ++ ext

/-- The loop over the staging ids. -/
def allocateStage (ext : String) : List (Nat × LinkEnd) → Job Nat
  | [] => raise (.register "Could not allocate a staging id.")
  | (tmpid, .linked) :: _ => do
    record (.linked ("images/" ++ toString tmpid ++ "/" ++ stagedName tmpid ext))
    pure tmpid
  | (tmpid, .unclosed) :: _ => do
    record (.linked ("images/" ++ toString tmpid ++ "/" ++ stagedName tmpid ext))
    raise .os
  | (_, .taken) :: rest => allocateStage ext rest
  | (_, .failed failure) :: _ => raise failure.raised

/-- The block of `_stage_source`: the id and the extension of the staged name. -/
def stageOpened (calls : StageCalls) (relativePath : String) : Job (Nat × String) :=
  match Files.normalizedRelativePath relativePath with
  | .error _ => raise .confined
  | .ok parts => do
    let _ ← liftImport calls.mountRoot
    call calls.opening
    ensuring (do
      let ext ← liftImport (stageExtension calls (Files.posixText parts))
      let tmpid ← allocateStage ext (calls.attempts.take 10)
      pure (tmpid, ext)) (call calls.closing)

/-- `_stage_source`: the volume and the staging directory. -/
def stageSource (calls : StageCalls) (storageId relativePath : String) : Job (String × String) := do
  let (tmpid, ext) ← raisingRegister "Could not securely stage the source image." (stageOpened calls relativePath)
  pure (storageId ++ ":" ++ toString tmpid ++ "/" ++ stagedName tmpid ext, "images/" ++ toString tmpid)

/-- `_remove_stage`, whose removal may fail unseen. -/
def removeStage (calls : StageCalls) (stagingDir : String) : Job Unit := do
  let _ ← liftImport calls.mountRoot
  record (.removalAsked stagingDir)

/-! ## The guest -/

/-- The body of `_create_vm_importing`. -/
def createBody (params : Params) (importVolid : String) : Except ImportRaised (List (String × Json)) := do
  let bus ← busKey (paramOr params "disk_bus" (.str "sata"))
  let params := if isText (paramOr params "disk_bus" .null) "scsi"
    then setDefault params "scsihw" (.str "virtio-scsi-single") else params
  let body ← baseBody params
  let disk ← importFrom params importVolid
  let body := Json.setField (Json.setField body bus disk) "boot" (.str ("order=" ++ bus))
  pure (if (paramOr params "start" .null).truthy then Json.setField body "start" (.int 1) else body)

/-- `f"nodes/{quote(node, safe='')}/tasks/{quote(upid, safe='')}/status"`. -/
def taskPath (node upid : String) : String := "nodes/" ++ Percent.quote node ++ "/tasks/" ++ Percent.quote upid ++ "/status"

def saysStopped (fields : List (String × Json)) : Bool := isText (paramOr fields "status" .null) "stopped"

/-- `_poll_task`, with the answers that come before its deadline. -/
def pollTask (trustMode node : String) (upid : Json) : List HttpOutcome → Job String
  | [] => pure "timeout"
  | o :: polls =>
    match upid with
    | .str u => match request trustMode (taskPath node u) o with
      | .error e => raise (.provider e)
      | .ok (.obj fields) =>
        if saysStopped fields then do
          record (.stopped u)
          pure (paramOr fields "exitstatus" .null).text
        else pollTask trustMode node upid polls
      | .ok _ => raise .attribute
    | _ => raise .type

/-- How the provider answers: the create request, and the polls until their deadline. -/
structure ImportAnswers where
  create : HttpOutcome
  polls : List HttpOutcome

section
variable (trustMode : String) (cluster : PassCluster) (answers : ImportAnswers) (node : String) (params : Params)

/-- `client.post`, and the answer where the provider gives one. -/
def postCreate (body : List (String × Json)) : Job (Option Json) :=
  except (do pure (some (← send trustMode "POST" (guestsPath node) body answers.create))) fun
    | .provider _ => some (pure none)
    | _ => none

/-- `_create_vm_importing`: the task, and the error if there is one. -/
def createVmImporting (importVolid : String) : Job (Json × Option String) := do
  let _ ← liftImport (importClient cluster)
  let body ← liftImport (createBody params importVolid)
  match ← postCreate trustMode answers node body with
  | none => pure (.str "", some "Creating the VM from the volume failed.")
  | some upid => do
    let exitStatus ← pollTask trustMode node upid answers.polls
    pure (upid, if exitStatus = "OK" || exitStatus = "" then none else some ("Import failed: " ++ exitStatus))

/-- `import_disk_as_vm`. -/
def importDiskAsVm (calls : StageCalls) (storageId sourcePath : String) : Job (Json × Option String) := do
  let (stagingVolid, stagingDir) ← stageSource calls storageId sourcePath
  ensuring (createVmImporting trustMode cluster answers node params stagingVolid) (removeStage calls stagingDir)

end

/-! ## When the link may go -/

/-- The provider has the request, or may have it. `refusals` says whether a request that it
answers with an error status counts. -/
def taken (refusals : Bool) : HttpOutcome → Bool
  | .response _ => true
  | .status _ _ => refusals
  | .failed _ _ left => left

def Effect.submits (refusals : Bool) : Effect → Bool
  | .requested _ _ _ o => taken refusals o
  | _ => false

/-- A link is removed only where no request was submitted, or its task was seen stopped. -/
def SourceOutlives (refusals : Bool) (log : List Effect) : Prop :=
  ∀ before dir after, log = before ++ .removalAsked dir :: after →
    (∀ e ∈ before, e.submits refusals = false) ∨ ∃ upid, .stopped upid ∈ before

/-- Before the deadline the task is seen to stop, with no poll before that which fails or is
answered by something else than a status. -/
def SeenStopped (trustMode node upid : String) (polls : List HttpOutcome) : Prop :=
  ∃ before o after fields, polls = before ++ o :: after ∧ request trustMode (taskPath node upid) o = .ok (.obj fields) ∧
    saysStopped fields = true ∧
    ∀ o' ∈ before, ∃ fields', request trustMode (taskPath node upid) o' = .ok (.obj fields') ∧ saysStopped fields' = false

section
variable {trustMode node upid : String} {o : HttpOutcome} {polls : List HttpOutcome} {fields : List (String × Json)}
  {log : List Effect}

theorem seenStopped_nil : ¬ SeenStopped trustMode node upid [] := by
  rintro ⟨before, o, after, fields, hpolls, -⟩
  simp at hpolls

theorem seenStopped_of_stopped (hanswer : request trustMode (taskPath node upid) o = .ok (.obj fields))
    (hstopped : saysStopped fields = true) : SeenStopped trustMode node upid (o :: polls) :=
  ⟨[], o, polls, fields, rfl, hanswer, hstopped, by simp⟩

theorem seenStopped_of_running (hanswer : request trustMode (taskPath node upid) o = .ok (.obj fields))
    (hrunning : saysStopped fields = false) :
    SeenStopped trustMode node upid (o :: polls) ↔ SeenStopped trustMode node upid polls := by
  constructor
  · rintro ⟨before, o', after, fields', hpolls, hanswer', hstopped, hbefore⟩
    cases before with
    | nil =>
      obtain ⟨rfl, rfl⟩ := List.cons.inj hpolls
      rw [hanswer] at hanswer'
      cases hanswer'
      rw [hrunning] at hstopped
      cases hstopped
    | cons b before =>
      obtain ⟨rfl, rfl⟩ := List.cons.inj hpolls
      exact ⟨before, o', after, fields', rfl, hanswer', hstopped, fun o'' ho'' => hbefore o'' (List.mem_cons_of_mem _ ho'')⟩
  · rintro ⟨before, o', after, fields', rfl, hanswer', hstopped, hbefore⟩
    refine ⟨o :: before, o', after, fields', rfl, hanswer', hstopped, fun o'' ho'' => ?_⟩
    rcases List.mem_cons.mp ho'' with rfl | ho''
    · exact ⟨fields, hanswer, hrunning⟩
    · exact hbefore o'' ho''

/-- A poll that raises is the last one. -/
theorem not_seenStopped_of_raised (h : ∀ fields, request trustMode (taskPath node upid) o ≠ .ok (.obj fields)) :
    ¬ SeenStopped trustMode node upid (o :: polls) := by
  rintro ⟨before, o', after, fields, hpolls, hanswer, -, hbefore⟩
  cases before with
  | nil =>
    obtain ⟨rfl, rfl⟩ := List.cons.inj hpolls
    exact h fields hanswer
  | cons b before =>
    obtain ⟨rfl, rfl⟩ := List.cons.inj hpolls
    obtain ⟨fields', hanswer', -⟩ := hbefore o List.mem_cons_self
    exact h fields' hanswer'

/-- The polls record the task's end where they see it, and nothing else. -/
theorem pollTask_log (h : ¬ SeenStopped trustMode node upid polls) :
    final (pollTask trustMode node (.str upid) polls) log = log := by
  induction polls with
  | nil => rfl
  | cons o polls ih =>
    unfold pollTask
    dsimp only
    cases hanswer : request trustMode (taskPath node upid) o with
    | error e => rfl
    | ok status =>
      cases status with
      | obj fields =>
        dsimp only
        by_cases hstopped : saysStopped fields = true
        · exact absurd (seenStopped_of_stopped hanswer hstopped) h
        · rw [if_neg hstopped]
          exact ih (mt (seenStopped_of_running hanswer (Bool.eq_false_iff.mpr hstopped)).mpr h)
      | _ => rfl

theorem pollTask_log_stopped (h : SeenStopped trustMode node upid polls) :
    final (pollTask trustMode node (.str upid) polls) log = log ++ [.stopped upid] := by
  induction polls with
  | nil => exact absurd h seenStopped_nil
  | cons o polls ih =>
    have hobj : ∃ fields, request trustMode (taskPath node upid) o = .ok (.obj fields) := by
      by_contra hnone
      exact not_seenStopped_of_raised (fun fields hf => hnone ⟨fields, hf⟩) h
    obtain ⟨fields, hanswer⟩ := hobj
    unfold pollTask
    dsimp only
    rw [hanswer]
    dsimp only
    by_cases hstopped : saysStopped fields = true
    · rw [if_pos hstopped]
      rfl
    · rw [if_neg hstopped]
      exact ih ((seenStopped_of_running hanswer (Bool.eq_false_iff.mpr hstopped)).mp h)

theorem pollTask_log_other {u : Json} (h : ∀ upid, u ≠ .str upid) : final (pollTask trustMode node u polls) log = log := by
  cases polls with
  | nil => rfl
  | cons o polls =>
    unfold pollTask
    cases u with
    | str upid => exact absurd rfl (h upid)
    | _ => rfl

end

section
variable {trustMode node : String} {cluster : PassCluster} {answers : ImportAnswers} {params : Params} {volid : String}
  {log : List Effect} {refusals : Bool}

/-- Whether there is a body does not depend on the volume. -/
theorem createBody_ok {body : List (String × Json)} (volid' : String) (h : createBody params volid = .ok body) :
    ∃ body', createBody params volid' = .ok body' := by
  obtain ⟨bus, hbus, h₁⟩ := except_bind_ok.mp h
  obtain ⟨base, hbase, h₂⟩ := except_bind_ok.mp h₁
  obtain ⟨disk, hdisk, h₃⟩ := except_bind_ok.mp h₂
  obtain ⟨storage, hstorage, -⟩ := except_bind_ok.mp hdisk
  exact ⟨_, except_bind_ok.mpr ⟨bus, hbus, except_bind_ok.mpr ⟨base, hbase,
    except_bind_ok.mpr ⟨_, except_bind_ok.mpr ⟨storage, hstorage, rfl⟩, rfl⟩⟩⟩⟩

/-- Before its request nothing is recorded. -/
theorem createVmImporting_log_unsent
    (h : (∃ e, importClient cluster = .error e) ∨ ∃ e, createBody params volid = .error e) :
    final (createVmImporting trustMode cluster answers node params volid) log = log := by
  unfold createVmImporting
  cases hclient : importClient cluster with
  | error e => rfl
  | ok endpoint =>
    have hfirst : liftImport (importClient cluster) log = .ok endpoint log := by rw [hclient]; rfl
    rw [← hclient, final_bind_of_ok hfirst]
    obtain ⟨e, he⟩ := h.resolve_left (by rintro ⟨e, he⟩; rw [hclient] at he; cases he)
    rw [he]
    rfl

/-- After it the record has the request, and the end of the task where that is seen. -/
theorem createVmImporting_log (trustMode node : String) (answers : ImportAnswers) (log : List Effect) {endpoint : PassEndpoint}
    {body : List (String × Json)} (hclient : importClient cluster = .ok endpoint)
    (hbody : createBody params volid = .ok body) :
    ∃ new, final (createVmImporting trustMode cluster answers node params volid) log =
        log ++ .requested "POST" (guestsPath node) body answers.create :: new ∧
      (∀ e ∈ new, ∃ upid, e = .stopped upid) ∧
      (new ≠ [] ↔ ∃ upid, request trustMode (guestsPath node) answers.create = .ok (.str upid) ∧
        SeenStopped trustMode node upid answers.polls) := by
  have hfirst : liftImport (importClient cluster) log = .ok endpoint log := by rw [hclient]; rfl
  have hsecond : liftImport (createBody params volid) log = .ok body log := by rw [hbody]; rfl
  unfold createVmImporting
  rw [final_bind_of_ok hfirst, final_bind_of_ok hsecond]
  cases hrequest : request trustMode (guestsPath node) answers.create with
  | error e =>
    have hpost : postCreate trustMode answers node body log =
        .ok none (log ++ [.requested "POST" (guestsPath node) body answers.create]) := by
      have hraise : (do pure (some (← send trustMode "POST" (guestsPath node) body answers.create)) : Job (Option Json)) log =
          .error (.provider e) (log ++ [.requested "POST" (guestsPath node) body answers.create]) := by
        refine bind_error.mpr (.inl (bind_error.mpr (.inr ⟨(), _, rfl, ?_⟩)))
        rw [hrequest]
        rfl
      unfold postCreate
      rw [except_of_caught hraise rfl]
      rfl
    rw [final_bind_of_ok hpost]
    exact ⟨[], rfl, by simp, by simp⟩
  | ok upid =>
    have hpost : postCreate trustMode answers node body log =
        .ok (some upid) (log ++ [.requested "POST" (guestsPath node) body answers.create]) := by
      refine except_of_ok (bind_ok.mpr ⟨upid, _, bind_ok.mpr ⟨(), _, rfl, ?_⟩, rfl⟩)
      rw [hrequest]
      rfl
    rw [final_bind_of_ok hpost]
    dsimp only
    have hfinal : ∀ (m : Job String) (f : String → Option String) (l : List Effect),
        final (m >>= fun status => pure (upid, f status)) l = final m l := by
      intro m f l
      show final (EStateM.bind m _) l = _
      unfold final EStateM.bind
      cases m l <;> rfl
    rw [hfinal]
    by_cases hseen : ∃ u, upid = .str u ∧ SeenStopped trustMode node u answers.polls
    · obtain ⟨u, rfl, hstops⟩ := hseen
      refine ⟨[.stopped u], ?_, by simp, ?_⟩
      · rw [pollTask_log_stopped hstops, List.append_assoc]
        rfl
      · exact ⟨fun _ => ⟨u, rfl, hstops⟩, fun _ => by simp⟩
    · refine ⟨[], ?_, by simp, ?_⟩
      · by_cases htext : ∃ u, upid = .str u
        · obtain ⟨u, rfl⟩ := htext
          exact pollTask_log fun hstops => hseen ⟨u, rfl, hstops⟩
        · exact pollTask_log_other fun u hu => htext ⟨u, hu⟩
      · refine ⟨fun h => absurd rfl h, ?_⟩
        rintro ⟨u, hu, hstops⟩
        exact absurd ⟨u, Except.ok.inj hu, hstops⟩ hseen

/-- Of one removal at the end of the record. -/
theorem sourceOutlives_of_last {dir : String} (h : ∀ e ∈ log, ∀ d, e ≠ .removalAsked d) :
    SourceOutlives refusals (log ++ [.removalAsked dir]) ↔
      (∀ e ∈ log, e.submits refusals = false) ∨ ∃ upid, .stopped upid ∈ log := by
  constructor
  · exact fun houtlives => houtlives log dir [] rfl
  · intro hlog before d after hsplit
    have hbefore : before = log := by
      rcases List.eq_nil_or_concat after with rfl | ⟨rest, last, rfl⟩
      · exact (List.append_inj' hsplit rfl).1.symm
      · rw [List.concat_eq_append, ← List.cons_append, ← List.append_assoc] at hsplit
        obtain ⟨rfl, -⟩ := List.append_inj' hsplit rfl
        exact absurd rfl (h (.removalAsked d) (by simp) d)
    rw [hbefore]
    exact hlog

end

def Effect.isLink (e : Effect) : Prop := ∃ path, e = .linked path

theorem allocateStage_links (ext : String) (attempts : List (Nat × LinkEnd)) :
    Maintains (Records Effect.isLink) (allocateStage ext attempts) := by
  induction attempts with
  | nil => exact Maintains.raise _
  | cons attempt rest ih =>
    obtain ⟨tmpid, linkEnd⟩ := attempt
    cases linkEnd with
    | linked => exact Maintains.bind (record_records ⟨_, rfl⟩) fun _ => Maintains.pure _
    | unclosed => exact Maintains.bind (record_records ⟨_, rfl⟩) fun _ => Maintains.raise _
    | taken => exact ih
    | failed failure => exact Maintains.raise _

/-- Staging records links only. -/
theorem stageSource_links (calls : StageCalls) (storageId relativePath : String) :
    Maintains (Records Effect.isLink) (stageSource calls storageId relativePath) := by
  refine Maintains.bind (raisingRegister_maintains ?_) fun _ => Maintains.pure _
  unfold stageOpened
  cases Files.normalizedRelativePath relativePath with
  | error e => exact Maintains.raise _
  | ok parts =>
    refine Maintains.bind (liftImport_maintains _) fun _ => Maintains.bind (call_maintains _) fun _ => ?_
    refine Maintains.ensuring ?_ (call_maintains _)
    exact Maintains.bind (liftImport_maintains _) fun _ => Maintains.bind (allocateStage_links _ _) fun _ => Maintains.pure _

section
variable {trustMode node : String} {cluster : PassCluster} {answers : ImportAnswers} {params : Params} {calls : StageCalls}
  {storageId sourcePath dir volid : String} {log : List Effect} {refusals : Bool}

/-- The mount that a source was staged on has a root to remove the stage beneath. -/
theorem stageSource_root {staged : String × String} (h : stageSource calls storageId sourcePath [] = .ok staged log) :
    ∃ root, calls.mountRoot = .ok root := by
  obtain ⟨named, log₁, hopened, -⟩ := bind_ok.mp h
  rcases except_ok.mp hopened with hok | ⟨e, s, m, -, hm, hrun⟩
  · unfold stageOpened at hok
    cases hparts : Files.normalizedRelativePath sourcePath with
    | error e =>
      rw [hparts] at hok
      cases hok
    | ok parts =>
      rw [hparts] at hok
      obtain ⟨root, log₂, hroot, -⟩ := bind_ok.mp hok
      cases hmount : calls.mountRoot with
      | ok root => exact ⟨root, rfl⟩
      | error e =>
        rw [hmount] at hroot
        cases hroot
  · cases e with
    | confined =>
      cases hm
      cases hrun
    | os =>
      cases hm
      cases hrun
    | _ => cases hm

/-- Staging where every call is answered. -/
theorem stageSource_first {calls : StageCalls} {storageId relativePath root ext : String} {parts : List String} {tmpid : Nat}
    {rest : List (Nat × LinkEnd)} (hparts : Files.normalizedRelativePath relativePath = .ok parts)
    (hroot : calls.mountRoot = .ok root) (hopening : calls.opening = none)
    (hext : stageExtension calls (Files.posixText parts) = .ok ext) (hattempts : calls.attempts = (tmpid, .linked) :: rest)
    (hclosing : calls.closing = none) :
    stageSource calls storageId relativePath [] =
      .ok (storageId ++ ":" ++ toString tmpid ++ "/" ++ stagedName tmpid ext, "images/" ++ toString tmpid)
        [.linked ("images/" ++ toString tmpid ++ "/" ++ stagedName tmpid ext)] := by
  have hopened : stageOpened calls relativePath [] =
      .ok (tmpid, ext) [.linked ("images/" ++ toString tmpid ++ "/" ++ stagedName tmpid ext)] := by
    unfold stageOpened
    rw [hparts]
    dsimp only
    rw [hroot, hopening, hext, hattempts, hclosing]
    rfl
  exact bind_ok.mpr ⟨_, _, except_of_ok hopened, rfl⟩

/-- The record of an import whose source is staged: the one of staging, the one of the
request, and the removal. -/
theorem importDiskAsVm_staged (h : stageSource calls storageId sourcePath [] = .ok (volid, dir) log) :
    final (importDiskAsVm trustMode cluster answers node params calls storageId sourcePath) [] =
      final (createVmImporting trustMode cluster answers node params volid) log ++ [.removalAsked dir] := by
  obtain ⟨root, hroot⟩ := stageSource_root h
  have hremove : ∀ l, final (removeStage calls dir) l = l ++ [.removalAsked dir] := by
    intro l
    unfold removeStage
    rw [hroot]
    rfl
  unfold importDiskAsVm
  rw [final_bind_of_ok h, final_ensuring, hremove]

/-- The link outlives what reads it exactly where none is made, where no request is sent or
it is not taken, and where the task is seen to stop. -/
theorem importDiskAsVm_outlives (refusals : Bool) (trustMode : String) (cluster : PassCluster) (answers : ImportAnswers)
    (node : String) (params : Params) (calls : StageCalls) (storageId sourcePath : String) :
    SourceOutlives refusals
        (final (importDiskAsVm trustMode cluster answers node params calls storageId sourcePath) []) ↔
      (∀ staged log, stageSource calls storageId sourcePath [] ≠ .ok staged log) ∨
      (∀ endpoint, importClient cluster ≠ .ok endpoint) ∨ (∀ body, createBody params "" ≠ .ok body) ∨
      taken refusals answers.create = false ∨
      ∃ upid, request trustMode (guestsPath node) answers.create = .ok (.str upid) ∧
        SeenStopped trustMode node upid answers.polls := by
  obtain ⟨links, hlog, hlinks⟩ := stageSource_links calls storageId sourcePath []
  cases hstage : stageSource calls storageId sourcePath [] with
  | error e log =>
    refine ⟨fun _ => .inl (by simp), fun _ before dir after hsplit => ?_⟩
    have hall : importDiskAsVm trustMode cluster answers node params calls storageId sourcePath [] = .error e log :=
      bind_error.mpr (.inl hstage)
    rw [final, hstage] at hlog
    rw [final, hall] at hsplit
    dsimp only at hlog hsplit
    rw [hlog, List.nil_append] at hsplit
    obtain ⟨path, hpath⟩ := hlinks (.removalAsked dir) (by rw [hsplit]; simp)
    cases hpath
  | ok staged log =>
    obtain ⟨volid, dir⟩ := staged
    rw [final, hstage] at hlog
    dsimp only at hlog
    rw [List.nil_append] at hlog
    subst hlog
    rw [importDiskAsVm_staged hstage]
    have hquiet : ∀ e ∈ log, e.submits refusals = false ∧ ∀ d, e ≠ .removalAsked d := by
      intro e he
      obtain ⟨path, rfl⟩ := hlinks e he
      exact ⟨rfl, by simp⟩
    by_cases hsent : (∃ endpoint, importClient cluster = .ok endpoint) ∧ ∃ body, createBody params "" = .ok body
    · obtain ⟨⟨endpoint, hclient⟩, body₀, hbody₀⟩ := hsent
      obtain ⟨body, hbody⟩ := createBody_ok volid hbody₀
      obtain ⟨new, hnew, hstops, hseen⟩ := createVmImporting_log trustMode node answers log hclient hbody
      have hrecord : ∀ e ∈ log ++ .requested "POST" (guestsPath node) body answers.create :: new,
          e ∈ log ∨ e = .requested "POST" (guestsPath node) body answers.create ∨ ∃ upid, e = .stopped upid ∧ e ∈ new := by
        intro e he
        rcases List.mem_append.mp he with he | he
        · exact .inl he
        · rcases List.mem_cons.mp he with rfl | he
          · exact .inr (.inl rfl)
          · obtain ⟨upid, rfl⟩ := hstops e he
            exact .inr (.inr ⟨upid, rfl, he⟩)
      have hsubmits : (∀ e ∈ log ++ .requested "POST" (guestsPath node) body answers.create :: new, e.submits refusals = false) ↔
          taken refusals answers.create = false := by
        refine ⟨fun hall => hall (.requested "POST" (guestsPath node) body answers.create) (by simp), fun hrefused e he => ?_⟩
        rcases hrecord e he with he | rfl | ⟨upid, rfl, -⟩
        · exact (hquiet e he).1
        · exact hrefused
        · rfl
      have hstopped : (∃ upid, .stopped upid ∈ log ++ .requested "POST" (guestsPath node) body answers.create :: new) ↔
          new ≠ [] := by
        constructor
        · rintro ⟨upid, hupid⟩
          rcases hrecord _ hupid with he | he | ⟨-, -, he⟩
          · obtain ⟨path, hpath⟩ := hlinks _ he
            cases hpath
          · cases he
          · exact List.ne_nil_of_mem he
        · intro hne
          obtain ⟨e, rest, rfl⟩ := List.exists_cons_of_ne_nil hne
          obtain ⟨upid, rfl⟩ := hstops e List.mem_cons_self
          exact ⟨upid, by simp⟩
      rw [hnew, sourceOutlives_of_last, hsubmits, hstopped, hseen]
      · simp [hclient, hbody₀]
      · intro e he d
        rcases hrecord e he with he | rfl | ⟨upid, rfl, -⟩
        · exact (hquiet e he).2 d
        · simp
        · simp
    · have hunsent : (∃ e, importClient cluster = .error e) ∨ ∃ e, createBody params volid = .error e := by
        cases hclient : importClient cluster with
        | error e => exact .inl ⟨e, rfl⟩
        | ok endpoint =>
          cases hbody : createBody params volid with
          | error e => exact .inr ⟨e, rfl⟩
          | ok body => exact absurd ⟨⟨endpoint, hclient⟩, createBody_ok "" hbody⟩ hsent
      rw [createVmImporting_log_unsent hunsent, sourceOutlives_of_last fun e he => (hquiet e he).2]
      refine ⟨fun _ => ?_, fun _ => .inl fun e he => (hquiet e he).1⟩
      by_cases hclient : ∃ endpoint, importClient cluster = .ok endpoint
      · exact .inr (.inr (.inl fun body hbody => hsent ⟨hclient, body, hbody⟩))
      · exact .inr (.inl fun endpoint h => hclient ⟨endpoint, h⟩)

end

/-! ## A task that outlasts its polls -/

def oneNode : PassCluster := { key := "default", endpoints := [⟨"pve1", "https://pve1:8006", true, "ok", .guests []⟩] }

def importParams : Params := [("vmid", .int 120), ("name", .str "web"), ("target_storage", .str "local-lvm")]

def stageAnswers : StageCalls := ⟨.ok "/storages/nas", none, none, [(90000, .linked)], none⟩

/-- The task is running when the deadline comes. -/
def slowTask : ImportAnswers :=
  ⟨.response (some (.obj [("data", .str "UPID:pve1:0001")])),
    [.response (some (.obj [("data", .obj [("status", .str "running")])]))]⟩

theorem importParams_body (volid : String) : ∃ body, createBody importParams volid = .ok body := by
  refine ⟨_, except_bind_ok.mpr ⟨"sata0", by rfl, except_bind_ok.mpr ⟨_, except_bind_ok.mpr ⟨.int 120, by rfl,
    except_bind_ok.mpr ⟨.str "web", by rfl, except_bind_ok.mpr ⟨[], by rfl, rfl⟩⟩⟩, except_bind_ok.mpr ⟨_,
    except_bind_ok.mpr ⟨.str "local-lvm", by rfl, rfl⟩, rfl⟩⟩⟩⟩

theorem slowTask_loses_source : ¬ SourceOutlives false
    (final (importDiskAsVm "public" oneNode slowTask "pve1" importParams stageAnswers "nas" "web.qcow2") []) := by
  have hparts : Files.normalizedRelativePath "web.qcow2" = .ok ["web.qcow2"] := by decide
  have hext : stageExtension stageAnswers (Files.posixText ["web.qcow2"]) = .ok "qcow2" := by rfl
  have hstage : stageSource stageAnswers "nas" "web.qcow2" [] = _ := stageSource_first hparts rfl rfl hext rfl rfl
  obtain ⟨body, hbody⟩ := importParams_body ("nas" ++ ":" ++ toString 90000 ++ "/" ++ stagedName 90000 "qcow2")
  obtain ⟨endpoint, hclient⟩ : ∃ endpoint, importClient oneNode = .ok endpoint := ⟨_, rfl⟩
  obtain ⟨new, hnew, hstops, hseen⟩ := createVmImporting_log "public" "pve1" slowTask
    [.linked ("images/" ++ toString 90000 ++ "/" ++ stagedName 90000 "qcow2")] hclient hbody
  have hnone : new = [] := by
    by_contra hsome
    obtain ⟨upid, -, hstopped⟩ := hseen.mp hsome
    have hrunning : request "public" (taskPath "pve1" upid) (.response (some (.obj [("data", .obj [("status", .str "running")])]))) =
        .ok (.obj [("status", .str "running")]) := rfl
    exact seenStopped_nil ((seenStopped_of_running hrunning rfl).mp hstopped)
  subst hnone
  rw [importDiskAsVm_staged hstage, hnew, sourceOutlives_of_last (by simp)]
  rintro (hunsent | ⟨upid, hupid⟩)
  · have htaken := hunsent (.requested "POST" (guestsPath "pve1") body slowTask.create) (by simp)
    cases htaken
  · simp at hupid

end PveHelper.Registration
