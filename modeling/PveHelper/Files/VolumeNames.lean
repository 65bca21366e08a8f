/-
The volume a path stands for, as three places name it: `derive_volid` keeps the
guest's directory and the file's name, while the fresh preflight of
`_require_file_not_blocked` and `MountedVolumeClassifier.classify` keep all that
comes after `images/`. On a disk that lies directly in its guest's directory the
three agree; below that they are about different volumes.
-/
import PveHelper.Lib.Fields
import PveHelper.Files.Classifier
import PveHelper.Files.Gate

namespace PveHelper.Files

open Lib

/-- The part of a volume id after the colon, as `_referenced_objects` takes it. -/
def afterColon (volid : String) : Option String := (Text.partition ':' volid).2

/-- The volume that was derived, and the one that the preflight and the catalog are
asked about, have the same part after the colon. -/
def SameVolumeAsked (storageId : String) (e : FileEntry) : Prop :=
  ∀ d, deriveVolid storageId e.path = some d →
    afterColon d.volid = afterColon (storageId ++ ":" ++ e.relative) ∧
    afterColon d.volid = afterColon (storageId ++ ":" ++ mountedSuffix e.path)

/-! ## The part after the colon -/

/-- A text with a colon, cut at the first. -/
theorem exists_first_colon (s : List Char) : ∃ before after, s ++ [':'] = before ++ ':' :: after ∧ ':' ∉ before := by
  induction s with
  | nil => exact ⟨[], [], rfl, List.not_mem_nil⟩
  | cons c cs ih =>
    by_cases hc : c = ':'
    · subst hc
      exact ⟨[], cs ++ [':'], rfl, List.not_mem_nil⟩
    · obtain ⟨before, after, heq, hnot⟩ := ih
      refine ⟨c :: before, after, by rw [List.cons_append, heq, List.cons_append], ?_⟩
      simp only [List.mem_cons, not_or]
      exact ⟨fun h => hc h.symm, hnot⟩

theorem afterColon_eq_iff (storageId a b : String) :
    afterColon (storageId ++ ":" ++ a) = afterColon (storageId ++ ":" ++ b) ↔ a = b := by
  obtain ⟨before, after, heq, hnot⟩ := exists_first_colon storageId.toList
  have hcut : ∀ t : String, afterColon (storageId ++ ":" ++ t) = some (String.ofList (after ++ t.toList)) := by
    intro t
    have htext : (storageId ++ ":" ++ t).toList = (String.ofList before).toList ++ ':' :: (after ++ t.toList) := by
      rw [String.toList_append, String.toList_append, String.toList_ofList]
      rw [heq, List.append_assoc, List.cons_append, String.toList_ofList]
    rw [afterColon, Text.partition_of_first htext (by rwa [String.toList_ofList])]
  rw [hcut a, hcut b, Option.some.injEq, String.ofList_inj, List.append_cancel_left_eq, String.toList_inj]

/-! ## What the path is named after `images/` -/

section
variable {p : List String}

theorem stripped_asPosix (hp : ∀ n ∈ p, Posix.IsName n) : Text.lstripChar '/' (Posix.asPosix p) = Posix.asPosix p := by
  rw [Text.lstripChar, Posix.asPosix, String.toList_ofList]
  cases hj : Posix.joined p with
  | nil => rfl
  | cons c cs =>
    have hhead := Posix.joined_head hp
    rw [hj] at hhead
    have hc : decide (c = '/') = false := by
      by_contra h
      rw [List.takeWhile_cons_of_pos (by simpa using h)] at hhead
      cases hhead
    rw [List.dropWhile_cons_of_neg (by simpa using hc)]

theorem asPosix_images (rest : List String) (hne : rest ≠ []) :
    (Posix.asPosix ("images" :: rest)).toList = "images/".toList ++ (Posix.asPosix rest).toList := by
  obtain ⟨m, rest, rfl⟩ := List.exists_cons_of_ne_nil hne
  rw [Posix.asPosix, String.toList_ofList, Posix.joined_cons, Posix.asPosix, String.toList_ofList]
  simp

theorem mountedSuffix_images {rest : List String} (hp : ∀ n ∈ "images" :: rest, Posix.IsName n) (hne : rest ≠ []) :
    mountedSuffix (Posix.asPosix ("images" :: rest)) = Posix.asPosix rest := by
  have hleading : List.isPrefixOf? "images/".toList (Posix.asPosix ("images" :: rest)).toList
      = some (Posix.asPosix rest).toList := by
    rw [asPosix_images rest hne]
    exact List.isPrefixOf?_eq_some_iff_append_eq.mpr rfl
  rw [mountedSuffix, stripped_asPosix hp, hleading]
  exact String.ofList_toList

theorem relative_images {rest : List String} (hp : ∀ n ∈ "images" :: rest, Posix.IsName n) (hne : rest ≠ [])
    {e : FileEntry} (he : e.path = Posix.asPosix ("images" :: rest)) : e.relative = Posix.asPosix rest := by
  have hstarts : Text.startsWith (Posix.asPosix ("images" :: rest)) "images/" = true := by
    rw [Text.startsWith, List.isPrefixOf_iff_prefix, asPosix_images rest hne]
    exact List.prefix_append _ _
  have hlen : "images/".length = "images/".toList.length := rfl
  rw [FileEntry.relative, he, stripped_asPosix hp, if_pos hstarts, asPosix_images rest hne, hlen, List.drop_left]
  exact String.ofList_toList

theorem name_asPosix (hp : ∀ n ∈ p, Posix.IsName n) (hne : p ≠ []) : Posix.name (Posix.asPosix p) = p.getLast hne := by
  have hfilter : (p.filter fun part => part != "" && part != ".") = p := by
    refine List.filter_eq_self.mpr fun n hn => ?_
    simp [(hp n hn).nonempty, (hp n hn).dot]
  rw [Posix.name, Posix.split_asPosix hne fun n hn => (hp n hn).slash, hfilter, List.getLast?_eq_some_getLast hne,
    Option.getD_some]

theorem notAuthoritative_ite {c : Prop} [Decidable c] {a b : ContentCategory} (ha : catalogAuthoritative a = false)
    (hb : catalogAuthoritative b = false) : catalogAuthoritative (if c then a else b) = false := by
  by_cases hc : c
  · rwa [if_pos hc]
  · rwa [if_neg hc]

/-- A guest's disk lies at least two levels below the images directory. -/
theorem parts_of_catalogAuthoritative {path : String} (h : catalogAuthoritative (categorizeProxmoxPath path) = true) :
    ∃ vmid n rest, Text.posixParts path = "images" :: vmid :: n :: rest := by
  unfold categorizeProxmoxPath at h
  cases hparts : Text.posixParts path with
  | nil =>
    rw [hparts] at h
    cases h
  | cons first rest =>
    rw [hparts] at h
    have hrest : ∀ {s : String}, (decide (first = "images") && (rest[1]?).any fun n => Text.startsWith n s) = true →
        ∃ vmid n tail, first :: rest = "images" :: vmid :: n :: tail := by
      intro s hs
      rw [Bool.and_eq_true, decide_eq_true_eq] at hs
      obtain ⟨rfl, hs⟩ := hs
      match rest, hs with
      | vmid :: n :: tail, _ => exact ⟨vmid, n, tail, rfl⟩
    dsimp only at h
    by_contra hno
    have hnone : ∀ s : String, ¬ (decide (first = "images") && (rest[1]?).any fun n => Text.startsWith n s) = true :=
      fun s hs => hno (hrest hs)
    rw [if_neg (hnone "base-"), if_neg (hnone "vm-")] at h
    -- The other branches give no category of a guest's disk.
    refine absurd h (Bool.not_eq_true _ ▸ ?_)
    repeat' apply notAuthoritative_ite
    all_goals rfl

end

theorem deriveVolid_volid {storageId path : String} {d : DerivedVolume} (h : deriveVolid storageId path = some d) :
    catalogAuthoritative (categorizeProxmoxPath path) = true ∧
    d.volid = storageId ++ ":" ++ ((Text.posixParts path)[1]?).getD "" ++ "/" ++ Posix.name path := by
  simp only [deriveVolid] at h
  split at h
  · rename_i hcat
    cases h
    exact ⟨hcat, rfl⟩
  · cases h

theorem deriveVolid_isSome {storageId path : String} (h : catalogAuthoritative (categorizeProxmoxPath path) = true) :
    ∃ d, deriveVolid storageId path = some d := by
  exact ⟨_, if_pos h⟩

/-- Of the files a scan yields as guests' disks, those directly in their guest's
directory are asked about under one volume. -/
theorem sameVolumeAsked_iff (storageId : String) {e : FileEntry} {p : List String} (hp : ∀ n ∈ p, Posix.IsName n)
    (he : e.path = Posix.asPosix p) (hcat : catalogAuthoritative (categorizeProxmoxPath e.path) = true) :
    SameVolumeAsked storageId e ↔ p.length = 3 := by
  obtain ⟨vmid, n, rest, hparts⟩ := parts_of_catalogAuthoritative hcat
  rw [he, Posix.posixParts_asPosix hp] at hparts
  subst hparts
  have hne : vmid :: n :: rest ≠ [] := List.cons_ne_nil _ _
  obtain ⟨d, hd⟩ := @deriveVolid_isSome storageId _ hcat
  obtain ⟨-, hvolid⟩ := deriveVolid_volid hd
  rw [he, Posix.posixParts_asPosix hp, name_asPosix hp (List.cons_ne_nil _ _)] at hvolid
  -- The derived volume names the guest's directory and the file.
  have hderived : d.volid = storageId ++ ":" ++ Posix.asPosix [vmid, (n :: rest).getLast (List.cons_ne_nil n rest)] := by
    refine hvolid.trans (String.toList_injective ?_)
    simp [Posix.asPosix, Posix.joined]
  have hsame : afterColon d.volid = afterColon (storageId ++ ":" ++ Posix.asPosix (vmid :: n :: rest)) ↔ rest = [] := by
    rw [hderived, afterColon_eq_iff]
    constructor
    · intro h
      have hslash : ∀ m ∈ vmid :: n :: rest, '/' ∉ m.toList := fun m hm => (hp m (List.mem_cons_of_mem _ hm)).slash
      have hlast := List.getLast_mem (List.cons_ne_nil n rest)
      have hlist := Posix.asPosix_inj (fun m hm => hslash m ?_) hslash (List.cons_ne_nil _ _) hne h
      · simpa using congrArg List.length hlist
      · rcases List.mem_cons.mp hm with rfl | hm
        · exact List.mem_cons_self ..
        · exact List.mem_cons_of_mem _ (List.mem_singleton.mp hm ▸ hlast)
    · rintro rfl
      rfl
  unfold SameVolumeAsked
  rw [relative_images hp hne he, he, mountedSuffix_images hp hne, ← he]
  constructor
  · intro h
    rw [hsame.mp (h d hd).1]
    rfl
  · intro h d' hd'
    obtain rfl := Option.some.inj (hd.symm.trans hd')
    have hrest : rest = [] := by simpa using h
    exact ⟨hsame.mpr hrest, hsame.mpr hrest⟩

/-- The disk of VM 100 lies in its directory. -/
theorem owner_disk_asked_once : SameVolumeAsked "nas" ownerDisk := by
  refine (sameVolumeAsked_iff "nas" (p := ["images", "100", "vm-100-disk-0.qcow2"]) ?_ (by decide) (by decide)).mpr rfl
  simp only [List.mem_cons, List.not_mem_nil, or_false, forall_eq_or_imp, forall_eq]
  exact ⟨⟨by decide, by decide, by decide⟩, ⟨by decide, by decide, by decide⟩, ⟨by decide, by decide, by decide⟩⟩

/-- A file below a directory that is named like a disk. -/
def nestedDisk : FileEntry where
  storage := nasMount
  path := "images/100/vm-100-state/disk.raw"
  derivedVolid := "nas:100/disk.raw"
  contentCategory := "vm_disk"
  entryType := .file
  classification := .classificationBlocked
  storageGateStatus := []

/-- One gate asks about `100/disk.raw`, the others about `100/vm-100-state/disk.raw`. -/
theorem nested_disk_asked_apart : ¬ ∀ (storageId : String) (e : FileEntry) (p : List String),
    (∀ n ∈ p, Posix.IsName n) → e.path = Posix.asPosix p →
    catalogAuthoritative (categorizeProxmoxPath e.path) = true → SameVolumeAsked storageId e := by
  intro h
  have hcat : catalogAuthoritative (categorizeProxmoxPath nestedDisk.path) = true := by decide
  have hnames : ∀ n ∈ ["images", "100", "vm-100-state", "disk.raw"], Posix.IsName n := by
    simp only [List.mem_cons, List.not_mem_nil, or_false, forall_eq_or_imp, forall_eq]
    exact ⟨⟨by decide, by decide, by decide⟩, ⟨by decide, by decide, by decide⟩, ⟨by decide, by decide, by decide⟩,
      ⟨by decide, by decide, by decide⟩⟩
  obtain ⟨d, hd⟩ := @deriveVolid_isSome "nas" _ hcat
  have hsame := (h "nas" nestedDisk _ hnames (by decide) hcat d hd).1
  rw [(deriveVolid_volid hd).2] at hsame
  revert hsame
  decide

end PveHelper.Files
