/-
One guest of a tag operation (`_update_target`): its configuration is read through the first
endpoint of the cluster that answers, its tags are read, one is renamed or removed, and all
are written back. Every reading lowers the tags, so the others keep their order, not their
spelling; and so do the other names of the registry.
-/
import PveHelper.Operations.TagFanout
import PveHelper.Tags.RegistryEdits

namespace PveHelper.Tags

open Lib Guests
open PveHelper.Operations (FanoutTarget FanoutDetails Bucket)

/-! ## `_update_target` -/

/-- `set_guest_config(..)`. -/
structure GuestWrite where
  node : String
  objectType : String
  vmid : Nat
  updates : List (String × String)
  delete : List String
  digest : Json

/-- How the cluster answers for one guest: the clients or the error of `cluster_clients`,
each with the configuration it reads, and the error of the write if it fails. -/
structure GuestAnswers where
  clients : Except String (List (Except String Config))
  write : Option String

/-- The loop over the candidates, to the first that answers. -/
def firstConfig : List (Except String Config) → Option Config
  | [] => none
  | .ok config :: _ => some config
  | .error _ :: rest => firstConfig rest

section
variable (L : Lowering)

/-- The tags that are written: the new one for the source, or the source left out. -/
def nextTags (d : FanoutDetails) (current : List String) : List String :=
  if d.operation = "rename" then current.map fun tag => if tag = d.sourceTag then d.newTag else tag
  else current.filter (· ≠ d.sourceTag)

def tagsWrite (t : FanoutTarget) (node : String) (config : Config) (next : List String) : GuestWrite where
  node := node
  objectType := t.objectType
  vmid := t.vmid
  updates := if next.isEmpty then [] else [("tags", joinTags L next)]
  delete := if next.isEmpty then ["tags"] else []
  digest := (Json.lookup config "digest").getD .null

/-- `_update_target`: what is written, and the outcome with its message. The node is the one of
the live guest, where there is one. -/
def updateTarget (d : FanoutDetails) (t : FanoutTarget) (liveNode : Option String) (clusterKey : String) (answers : GuestAnswers) :
    Option GuestWrite × Bucket × String :=
  if t.clusterKey ≠ "" && t.clusterKey ≠ clusterKey then (none, .failed, "Target belongs to a different Proxmox cluster.")
  else match liveNode with
  | none => (none, .failed, "Guest was not found in live inventory.")
  | some node => match answers.clients with
    | .error e => (none, .failed, e)
    | .ok candidates => match firstConfig candidates with
      | none => (none, .failed, "Could not read current guest config.")
      | some config =>
        let lock := (Json.lookup config "lock").getD .null
        if lock.truthy then (none, .failed, "Guest is locked (" ++ lock.shown ++ ").")
        else
          let current := configTags L config
          if !current.contains d.sourceTag then (none, .skipped, "Already in desired state.")
          else
            let write := tagsWrite L t node config (nextTags d current)
            match answers.write with
            | some e => (some write, .failed, e)
            | none => (some write, .succeeded, "")

/-- The text of tags the guest has after the write. -/
def GuestWrite.tags (w : GuestWrite) : String := ((w.updates.find? fun u => u.1 = "tags").map (·.2)).getD ""

end

/-! ## The other tags -/

section
variable {L : Lowering} {d : FanoutDetails} {t : FanoutTarget} {live : Option String} {key : String} {answers : GuestAnswers}

/-- A write is of the tags that were read, with the source among them. -/
theorem updateTarget_written {w : GuestWrite} (h : (updateTarget L d t live key answers).1 = some w) :
    ∃ node candidates config, answers.clients = .ok candidates ∧ firstConfig candidates = some config ∧
      d.sourceTag ∈ configTags L config ∧ w = tagsWrite L t node config (nextTags d (configTags L config)) := by
  unfold updateTarget at h
  split at h
  · cases h
  · cases live with
    | none => cases h
    | some node =>
      dsimp only at h
      cases hclients : answers.clients with
      | error e =>
        rw [hclients] at h
        cases h
      | ok candidates =>
        rw [hclients] at h
        dsimp only at h
        cases hconfig : firstConfig candidates with
        | none =>
          rw [hconfig] at h
          cases h
        | some config =>
          rw [hconfig] at h
          dsimp only at h
          split at h
          · cases h
          · split at h
            · cases h
            · next hsource =>
              have hmem : d.sourceTag ∈ configTags L config := by simpa using hsource
              have hw : w = tagsWrite L t node config (nextTags d (configTags L config)) := by
                split at h
                · exact (Option.some.inj h).symm
                · exact (Option.some.inj h).symm
              exact ⟨node, candidates, config, rfl, hconfig, hmem, hw⟩

/-- The words of the text that is written are the tags, each once. -/
theorem tagWords_tagsWrite {next : List String} (hread : ∀ x ∈ next, Read L x) (node : String) (config : Config) :
    tagWords (tagsWrite L t node config next).tags = keepNew [] next := by
  unfold GuestWrite.tags tagsWrite
  dsimp only
  by_cases hempty : next.isEmpty = true
  · rw [if_pos hempty, List.isEmpty_iff.mp hempty]
    rfl
  · rw [if_neg hempty]
    show tagWords (joinTags L next) = _
    rw [joinTags_read L hread]
    exact tagWords_join fun n hn => (hread n (mem_keepNew.mp hn).1).toIsTag

/-- A choice among the tags can be made before or after each is kept once. -/
theorem filter_keepNew {p : String → Bool} {tags : List String} :
    ∀ {seen seen' : List String}, (∀ x, p x = true → (x ∈ seen ↔ x ∈ seen')) →
      (keepNew seen tags).filter p = keepNew seen' (tags.filter p) := by
  induction tags with
  | nil => exact fun _ => rfl
  | cons tag tags ih =>
    intro seen seen' hseen
    by_cases hp : p tag = true
    · have hmem := hseen tag hp
      rw [List.filter_cons_of_pos hp, keepNew, keepNew]
      by_cases hskip : tag = "" ∨ tag ∈ seen
      · have hskip' : tag = "" ∨ tag ∈ seen' := hskip.imp_right hmem.mp
        rw [if_pos (by simpa using hskip), if_pos (by simpa using hskip'), ih hseen]
      · have hskip' : ¬ (tag = "" ∨ tag ∈ seen') := fun h => hskip (h.imp_right hmem.mpr)
        rw [if_neg (by simpa using hskip), if_neg (by simpa using hskip'), List.filter_cons_of_pos hp]
        congr 1
        refine ih fun x hx => ?_
        rw [List.mem_cons, List.mem_cons, hseen x hx]
    · rw [List.filter_cons_of_neg hp, keepNew]
      split
      · exact ih hseen
      · rw [List.filter_cons_of_neg hp]
        refine ih fun x hx => ?_
        have hne : x ≠ tag := fun he => hp (he ▸ hx)
        rw [List.mem_cons, or_iff_right hne, hseen x hx]

/-- What is left of the tags when each is kept once: themselves, where each is there once. -/
theorem keepNew_read {tags : List String} (hread : ∀ x ∈ tags, Read L x) (hnodup : tags.Nodup) : keepNew [] tags = tags :=
  keepNew_of_nodup hnodup (fun x hx => (hread x hx).ne) (by simp)

/-- The new tag stands where the source stood, and the others are as they were. -/
structure Renamed (source new : String) (tags written : List String) : Prop where
  others : written.filter (· ≠ new) = tags.filter fun x => x ≠ source && x ≠ new
  present : new ∈ written
  place : new ∉ tags → written = tags.map fun x => if x = source then new else x

theorem renamed_keepNew {source new : String} {tags : List String} (hread : ∀ x ∈ tags, Read L x) (hnew : Read L new)
    (hnodup : tags.Nodup) (hsource : source ∈ tags) :
    Renamed source new tags (keepNew [] (tags.map fun x => if x = source then new else x)) where
  others := by
    rw [filter_keepNew (fun x _ => Iff.rfl), List.filter_map, Function.comp_def]
    have hfilter : (tags.filter fun x => decide ((if x = source then new else x) ≠ new)) = tags.filter fun x => x ≠ source && x ≠ new := by
      refine List.filter_congr fun x _ => ?_
      by_cases hx : x = source <;> simp [hx]
    have hmap : ((tags.filter fun x => x ≠ source && x ≠ new).map fun x => if x = source then new else x) =
        tags.filter fun x => x ≠ source && x ≠ new := by
      refine (List.map_congr_left fun x hx => ?_).trans (List.map_id _)
      have hne : x ≠ source := by simpa using (Bool.and_eq_true_iff.mp (List.mem_filter.mp hx).2).1
      exact if_neg hne
    rw [hfilter, hmap]
    exact keepNew_read (fun x hx => hread x (List.mem_filter.mp hx).1) (hnodup.filter _)
  present := mem_keepNew.mpr ⟨List.mem_map.mpr ⟨source, hsource, if_pos rfl⟩, hnew.ne, by simp⟩
  place hout := by
    refine keepNew_of_nodup ?_ ?_ (by simp)
    · refine List.Nodup.map_on (fun x hx y hy hxy => ?_) hnodup
      split at hxy
      · next hxs =>
        split at hxy
        · next hys => exact hxs.trans hys.symm
        · exact absurd (hxy ▸ hy) hout
      · split at hxy
        · exact absurd (hxy ▸ hx) hout
        · exact hxy
    · intro y hy
      obtain ⟨x, hx, rfl⟩ := List.mem_map.mp hy
      split
      · exact hnew.ne
      · exact (hread x hx).ne

theorem configTags_str {config : Config} {text : String} (h : Json.lookup config "tags" = some (.str text)) :
    configTags L config = parseTags L text := by
  unfold configTags
  rw [h]
  show parseTags L (optionText (.str text)) = _
  rw [optionText_str]

/-- The tags of a text as they are read: lowered, each once, in the order of their first words. -/
structure TagsOf (L : Lowering) (text : String) (tags : List String) : Prop where
  mem : ∀ x, x ∈ tags ↔ ∃ w ∈ tagWords text, L.lower w = x
  nodup : tags.Nodup
  order : tags.Sublist ((tagWords text).map L.lower)
  /-- The tags of the words up to any place come before all others. -/
  first : ∀ front rest, (tagWords text).map L.lower = front ++ rest → ∃ kept, kept <+: tags ∧ ∀ x, x ∈ kept ↔ x ∈ front

theorem keepNew_sublist {tags : List String} : ∀ {seen : List String}, (keepNew seen tags).Sublist tags := by
  induction tags with
  | nil => exact List.Sublist.slnil
  | cons tag tags ih =>
    intro seen
    rw [keepNew]
    split
    · exact (ih).cons _
    · exact (ih).cons_cons _

theorem keepNew_prefix {tags rest : List String} : ∀ {seen : List String}, keepNew seen tags <+: keepNew seen (tags ++ rest) := by
  induction tags with
  | nil => exact List.nil_prefix
  | cons tag tags ih =>
    intro seen
    rw [List.cons_append, keepNew, keepNew]
    split
    · exact ih
    · exact List.cons_prefix_cons.mpr ⟨rfl, ih⟩

theorem parseTags_of (text : String) : TagsOf L text (parseTags L text) where
  mem x := mem_parseTags L
  nodup := nodup_parseTags L text
  order := by
    rw [parseTags_eq]
    exact keepNew_sublist
  first front rest hwords := by
    refine ⟨keepNew [] front, ?_, fun x => ?_⟩
    · rw [parseTags_eq, hwords]
      exact keepNew_prefix
    · rw [mem_keepNew]
      refine ⟨fun h => h.1, fun hx => ⟨hx, ?_, by simp⟩⟩
      have hmem : x ∈ (tagWords text).map L.lower := hwords ▸ List.mem_append_left rest hx
      obtain ⟨w, hw, rfl⟩ := List.mem_map.mp hmem
      exact (parseTags_read L ((mem_parseTags L).mpr ⟨w, hw, rfl⟩)).ne

/-- The text that is written has the tags without the source or with the new one in its place. -/
theorem updateTarget_tags {w : GuestWrite} {candidates : List (Except String Config)} {config : Config} {text : String}
    (hclients : answers.clients = .ok candidates) (hconfig : firstConfig candidates = some config)
    (htext : Json.lookup config "tags" = some (.str text)) (hnew : d.operation = "rename" → IsTagName L d.newTag)
    (hw : (updateTarget L d t live key answers).1 = some w) :
    if d.operation = "rename" then Renamed d.sourceTag d.newTag (parseTags L text) (tagWords w.tags)
    else tagWords w.tags = (parseTags L text).filter (· ≠ d.sourceTag) := by
  obtain ⟨node, candidates', config', hclients', hconfig', hsource, rfl⟩ := updateTarget_written hw
  cases hclients.symm.trans hclients'
  cases hconfig.symm.trans hconfig'
  rw [configTags_str htext] at hsource ⊢
  have hread : ∀ x ∈ parseTags L text, Read L x := fun x hx => parseTags_read L hx
  have hnodup := nodup_parseTags L text
  unfold nextTags
  split
  · next hrename =>
    have hnew := (hnew hrename).read
    rw [tagWords_tagsWrite]
    · exact renamed_keepNew hread hnew hnodup hsource
    · intro x hx
      obtain ⟨y, hy, rfl⟩ := List.mem_map.mp hx
      split
      · exact hnew
      · exact hread y hy
  · have hrest : ∀ x ∈ (parseTags L text).filter (· ≠ d.sourceTag), Read L x := fun x hx => hread x (List.mem_filter.mp hx).1
    rw [tagWords_tagsWrite hrest, keepNew_read hrest (hnodup.filter _)]

/-! ## The other names -/

/-- A change of the registry writes back every other name, lowered. -/
theorem editRegistry_names {edit : RegistryEdit} {m : RegistryMutation} {answers : RegistryAnswers} {options : Options} {w : OptionWrite}
    (hvalid : edit.validated L = .ok m) (hread : answers.read = .ok options) (hwrite : (editRegistry L edit answers).1 = some w) :
    ∀ n, n ≠ m.tag → (n ∈ tagWords (optionText (getOption (w.apply options) "registered-tags")) ↔
      ∃ word ∈ tagWords (optionText (getOption options "registered-tags")), L.lower word = n) := by
  intro n hn
  obtain ⟨m', options', hvalid', hread', hwritten⟩ := editRegistry_written hwrite
  cases hvalid.symm.trans hvalid'
  cases hread.symm.trans hread'
  obtain ⟨names, colors, happly, rfl⟩ := registryWrite_ok hwritten
  have htouches := RegistryMutation.apply_touches (RegistryEdit.validated_valid hvalid) happly
  rw [getOption_bothWrites_names, mem_words_written (htouches.read fun n hn => parseTags_read L hn), htouches.others n hn]
  exact mem_parseTags L

/-- A change of one tag leaves the others of the guest and of the registry, lowered: the text
that `_update_target` writes has the guest's tags in their order, each once, without the source
or with the new tag in its place, and the registry is written back with every other name. -/
theorem tagEdits_frame :
    (∀ (d : FanoutDetails) (t : FanoutTarget) (live : Option String) (key : String) (answers : GuestAnswers)
      (candidates : List (Except String Config)) (config : Config) (text : String) (w : GuestWrite),
      answers.clients = .ok candidates → firstConfig candidates = some config →
      Json.lookup config "tags" = some (.str text) → (d.operation = "rename" → IsTagName L d.newTag) →
      (updateTarget L d t live key answers).1 = some w →
      ∃ tags, TagsOf L text tags ∧ d.sourceTag ∈ tags ∧
        if d.operation = "rename" then Renamed d.sourceTag d.newTag tags (tagWords w.tags)
        else tagWords w.tags = tags.filter (· ≠ d.sourceTag)) ∧
    ∀ (edit : RegistryEdit) (m : RegistryMutation) (answers : RegistryAnswers) (options : Options) (w : OptionWrite),
      edit.validated L = .ok m → answers.read = .ok options → (editRegistry L edit answers).1 = some w →
      ∀ n, n ≠ m.tag → (n ∈ tagWords (optionText (getOption (w.apply options) "registered-tags")) ↔
        ∃ word ∈ tagWords (optionText (getOption options "registered-tags")), L.lower word = n) := by
  refine ⟨?_, fun edit m answers options w hvalid hread hwrite => editRegistry_names hvalid hread hwrite⟩
  intro d t live key answers candidates config text w hclients hconfig htext hnew hw
  refine ⟨parseTags L text, parseTags_of text, ?_, updateTarget_tags hclients hconfig htext hnew hw⟩
  obtain ⟨node, candidates', config', hclients', hconfig', hsource, -⟩ := updateTarget_written hw
  cases hclients.symm.trans hclients'
  cases hconfig.symm.trans hconfig'
  rwa [configTags_str htext] at hsource

end

/-! ## A tag with a capital letter -/

/-- The tag `web` is to be removed. -/
def webRemoval : FanoutDetails :=
  { operation := "delete", clusterKey := "lab", sourceTag := "web", newTag := "", username := "ops"
    targets := [⟨"gr1:lab:vm:100@pve1", "lab", "pve1", "vm", 100, "web"⟩] }

def prodWeb : Config := [("tags", .str "Prod;web"), ("digest", .str "d")]

def webWrite : GuestWrite := ⟨"pve1", "vm", 100, [("tags", "prod")], [], .str "d"⟩

theorem webRemoval_frame :
    (∃ tags, TagsOf lowerLetters "Prod;web" tags ∧ "web" ∈ tags ∧ tagWords webWrite.tags = tags.filter (· ≠ "web")) ∧
      ∃ w : OptionWrite, ∀ n, n ≠ "db" → (n ∈ tagWords (optionText (getOption (w.apply colored) "registered-tags")) ↔
        ∃ word ∈ tagWords (optionText (getOption colored "registered-tags")), lowerLetters.lower word = n) :=
  have hremoval : ¬ webRemoval.operation = "rename" := by decide
  ⟨by
    obtain ⟨tags, htags, hsource, hwritten⟩ := (tagEdits_frame (L := lowerLetters)).1 webRemoval
      ⟨"gr1:lab:vm:100@pve1", "lab", "pve1", "vm", 100, "web"⟩ (some "pve1") "lab" ⟨.ok [.ok prodWeb], none⟩ [.ok prodWeb] prodWeb
      "Prod;web" webWrite rfl rfl rfl (fun h => absurd h hremoval) rfl
    rw [if_neg hremoval] at hwritten
    exact ⟨tags, htags, hsource, hwritten⟩,
  ⟨_, (tagEdits_frame (L := lowerLetters)).2 (.register " db " "") (.register "db" "") ⟨.ok colored, none, .ok colored⟩ colored _
    rfl rfl rfl⟩⟩

/-- The guest's other tag comes back lowered. -/
theorem prod_lowered :
    ∃ t ∈ webRemoval.targets, ∃ w, (updateTarget lowerLetters webRemoval t (some "pve1") "lab" ⟨.ok [.ok prodWeb], none⟩).1 = some w ∧
      Json.lookup prodWeb "tags" = some (.str "Prod;web") ∧ "Prod" ∈ tagWords "Prod;web" ∧ "Prod" ∉ tagWords w.tags := by
  exact ⟨_, List.mem_cons_self, webWrite, rfl, rfl, by decide, by decide⟩

end PveHelper.Tags
