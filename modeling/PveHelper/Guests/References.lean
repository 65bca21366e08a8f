/-
Whether a guest row's disk references are those of its configuration. The
column is a copy: a scan, an upsert and a targeted refresh write it together
with the configuration it was extracted from, a live reconcile and a targeted
configuration write carry the old one along. A live reconcile rewrites only
`tags` and `template`; a configuration write may attach or detach a disk, and
the copy is then stale until the next writer that extracts it again.
-/
import PveHelper.Guests.Inventory

namespace PveHelper.Guests

open Lib

/-- A row whose configuration was read whole refers to what that configuration names. -/
def References (g : CurrentGuest) : Prop :=
  g.configComplete = true → g.diskReferences = extractDiskReferences g.config

/-- Every guest row of the installation. -/
def ReferencesRight (db : GuestDb) : Prop := ∀ pk c, db.get pk = some c → c.guests.All References

/-- A scan hands over references extracted from the configurations it read. -/
def GuestStep.extracts : GuestStep → Prop
  | .scan scans => ∀ s ∈ scans, ∀ o ∈ s.2.observations, o.diskReferences = extractDiskReferences o.config
  | _ => True

/-- The fields not under these keys. -/
def Config.without (config : Config) (keys : List String) : Config := config.filter fun f => !keys.contains f.1

/-- The configuration names the same volumes when `written` takes the place of
what is under `keys`. -/
def SameVolumes (config : Config) (keys : List String) (written : Config) : Prop :=
  ∀ volid, volid ∈ visitFields config ↔ volid ∈ visitFields (config.without keys) ∨ volid ∈ visitFields written

/-- What a live reconcile rewrites of a configuration. -/
def liveKeys : ObjectType → List String
  | .vm => ["tags", "template"]
  | .ct => ["tags"]

/-- The condition on one step: where it rewrites a complete configuration
without extracting it again, the volumes stay the same. -/
def VolumesKept (db : GuestDb) : GuestStep → Prop
  | .live pk inv => ∀ c row, db.get pk = some c → ∀ g ∈ inv.guests, c.guests.get (g.objectType, g.vmid) = some row →
      row.configComplete = true → SameVolumes row.config (liveKeys g.objectType) []
  | .updateConfig pk key _ updates deleted _ => ∀ c row, db.get pk = some c → c.guests.get key = some row →
      row.configComplete = true →
      SameVolumes row.config (updates.map (·.1) ++ deleted) ((Config.update [] updates).without deleted)
  | _ => True

theorem Config.mem_without {config : Config} {keys : List String} {f : String × Json} :
    f ∈ config.without keys ↔ f ∈ config ∧ f.1 ∉ keys := by
  simp [Config.without]

theorem extractDiskReferences_eq_iff {config config' : Config} :
    extractDiskReferences config = extractDiskReferences config' ↔
      ∀ volid, volid ∈ visitFields config ↔ volid ∈ visitFields config' := sortedSet_eq_iff

theorem sameVolumes_iff {config written : Config} {keys : List String} :
    SameVolumes config keys written ↔
      extractDiskReferences config = extractDiskReferences (config.without keys ++ written) := by
  rw [extractDiskReferences_eq_iff]
  simp only [SameVolumes, mem_visitFields, List.mem_append, or_and_right, exists_or]

instance {config written : Config} {keys : List String} : Decidable (SameVolumes config keys written) :=
  decidable_of_iff _ sameVolumes_iff.symm

/-! ## A configuration write -/

theorem mem_visitFields_written {config updates : Config} {deleted : List String} {volid : String} :
    volid ∈ visitFields (deleted.foldl Config.pop (config.update updates)) ↔
      volid ∈ visitFields (config.without (updates.map (·.1) ++ deleted)) ∨
        volid ∈ visitFields ((Config.update [] updates).without deleted) := by
  simp only [mem_visitFields, Config.mem_foldl_pop, @Config.mem_update config, Config.mem_without,
    List.mem_append, not_or]
  constructor
  · intro h
    obtain ⟨f, ⟨⟨hf, hk⟩ | hf, hd⟩, hv⟩ := h
    · exact .inl ⟨f, ⟨hf, hk, hd⟩, hv⟩
    · exact .inr ⟨f, ⟨hf, hd⟩, hv⟩
  · intro h
    rcases h with ⟨f, ⟨hf, hk, hd⟩, hv⟩ | ⟨f, ⟨hf, hd⟩, hv⟩
    · exact ⟨f, ⟨.inl ⟨hf, hk⟩, hd⟩, hv⟩
    · exact ⟨f, ⟨.inr hf, hd⟩, hv⟩

/-- The write keeps the copy right exactly when it keeps the volumes. -/
theorem written_references_iff {g g' : CurrentGuest} (updates : Config) (deleted : List String) (hg : References g)
    (hcomplete : g'.configComplete = g.configComplete) (hrefs : g'.diskReferences = g.diskReferences)
    (hconfig : g'.config = deleted.foldl Config.pop (g.config.update updates)) :
    References g' ↔ (g.configComplete = true →
      SameVolumes g.config (updates.map (·.1) ++ deleted) ((Config.update [] updates).without deleted)) := by
  unfold References
  rw [hcomplete, hrefs, hconfig]
  refine forall_congr' fun hc => ?_
  rw [hg hc, extractDiskReferences_eq_iff]
  simp only [mem_visitFields_written, SameVolumes]

/-! ## A live reconcile -/

theorem visit_tags (s : String) : visit (.str s) "tags" = [] := by
  have hkey : diskConfigKey "tags" = false := by decide
  simp [visit, hkey]

theorem visit_template (s : String) : visit (.str s) "template" = [] := by
  have hkey : diskConfigKey "template" = false := by decide
  simp [visit, hkey]

/-- A row after the summaries of its guest are stored, from the row before. -/
structure LiveRow (key : GuestKey) (old : Option CurrentGuest) (row : CurrentGuest) : Prop where
  complete : row.configComplete = (old.map (·.configComplete)).getD false
  references : row.diskReferences = (old.map (·.diskReferences)).getD []
  others : ∀ f : String × Json, f.1 ∉ liveKeys key.1 → (f ∈ row.config ↔ f ∈ (old.map (·.config)).getD [])
  plain : ∀ f ∈ row.config, f.1 ∈ liveKeys key.1 → visit f.2 f.1 = []

/-- `tags` set or dropped. -/
theorem mem_tagged {config : Config} {tags : String} {f : String × Json} :
    f ∈ (if tags ≠ "" then config.set "tags" (.str tags) else config.pop "tags") ↔
      (f ∈ config ∧ f.1 ≠ "tags") ∨ (tags ≠ "" ∧ f = ("tags", .str tags)) := by
  by_cases ht : tags = "" <;> simp [ht, Config.mem_set, Config.mem_pop]

theorem LiveGuest.row_live (c : GuestCluster) (scope : PublicationScope) (now : Time) (old : Option CurrentGuest)
    (g : LiveGuest) : LiveRow (g.objectType, g.vmid) old (g.row c scope now old) := by
  refine ⟨rfl, rfl, ?_, ?_⟩
  · intro f hf
    cases ho : g.objectType with
    | ct =>
      simp only [ho, liveKeys, List.mem_singleton] at hf
      simp only [LiveGuest.row, liveConfig, ho, mem_tagged]
      simp [hf, Prod.ext_iff]
    | vm =>
      simp only [ho, liveKeys, List.mem_cons, List.not_mem_nil, or_false, not_or] at hf
      simp only [LiveGuest.row, liveConfig, ho]
      split <;> simp only [Config.mem_set, Config.mem_pop, mem_tagged] <;> simp [hf, Prod.ext_iff]
  · intro f hf hk
    cases ho : g.objectType with
    | ct =>
      simp only [ho, liveKeys, List.mem_singleton] at hk
      simp only [LiveGuest.row, liveConfig, ho, mem_tagged] at hf
      rcases hf with ⟨-, hne⟩ | ⟨-, rfl⟩
      · exact absurd hk hne
      · exact visit_tags _
    | vm =>
      simp only [ho, liveKeys, List.mem_cons, List.not_mem_nil, or_false] at hk
      simp only [LiveGuest.row, liveConfig, ho] at hf
      have htemplate : (f.1 ≠ "template" → visit f.2 f.1 = []) → visit f.2 f.1 = [] := by
        intro hother
        by_cases hft : f.1 = "template"
        · split at hf
          · rw [Config.mem_set] at hf
            rcases hf with ⟨-, hne⟩ | rfl
            · exact absurd hft hne
            · exact visit_template _
          · exact absurd hft (Config.mem_pop.mp hf).2
        · exact hother hft
      refine htemplate fun hne => ?_
      have htags : f.1 = "tags" := hk.resolve_right hne
      split at hf <;> simp only [Config.mem_set, Config.mem_pop, mem_tagged] at hf
      · rcases hf with ⟨⟨-, hne'⟩ | ⟨-, rfl⟩, -⟩ | rfl
        · exact absurd htags hne'
        · exact visit_tags _
        · exact absurd htags (by decide)
      · rcases hf with ⟨⟨-, hne'⟩ | ⟨-, rfl⟩, -⟩
        · exact absurd htags hne'
        · exact visit_tags _

theorem LiveRow.trans {key : GuestKey} {old : Option CurrentGuest} {row row' : CurrentGuest}
    (h : LiveRow key old row) (h' : LiveRow key (some row) row') : LiveRow key old row' where
  complete := h'.complete.trans h.complete
  references := h'.references.trans h.references
  others f hf := (h'.others f hf).trans (h.others f hf)
  plain := h'.plain

/-- The loop over the summaries rewrites the rows of their guests and no others. -/
theorem foldl_writeLive (c : GuestCluster) (scope : PublicationScope) (now : Time) (guests : List LiveGuest)
    (t : Table CurrentGuest.key) (key : GuestKey) :
    ((∀ g ∈ guests, (g.objectType, g.vmid) ≠ key) ∧ (guests.foldl (writeLive c scope now) t).get key = t.get key) ∨
      ((∃ g ∈ guests, (g.objectType, g.vmid) = key) ∧
        ∃ row, (guests.foldl (writeLive c scope now) t).get key = some row ∧ LiveRow key (t.get key) row) := by
  induction guests generalizing t with
  | nil => exact .inl ⟨by simp, rfl⟩
  | cons g guests ih =>
    have hrow : (g.row c scope now (t.get (g.objectType, g.vmid))).key = (g.objectType, g.vmid) := rfl
    rw [List.foldl_cons]
    by_cases hk : (g.objectType, g.vmid) = key
    · have hfirst : (writeLive c scope now t g).get key = some (g.row c scope now (t.get key)) := by
        rw [writeLive, Table.get_put, hrow, if_pos hk.symm, hk]
      have hlive : LiveRow key (t.get key) (g.row c scope now (t.get key)) :=
        hk ▸ LiveGuest.row_live c scope now (t.get (g.objectType, g.vmid)) g
      refine .inr ⟨⟨g, List.mem_cons_self .., hk⟩, ?_⟩
      rcases ih (writeLive c scope now t g) with ⟨-, hsame⟩ | ⟨-, row, hget, hr⟩
      · exact ⟨_, hsame.trans hfirst, hlive⟩
      · rw [hfirst] at hr
        exact ⟨row, hget, hlive.trans hr⟩
    · have hfirst : (writeLive c scope now t g).get key = t.get key := by
        rw [writeLive, Table.get_put, hrow, if_neg (Ne.symm hk)]
      rcases ih (writeLive c scope now t g) with ⟨hnone, hsame⟩ | ⟨⟨g', hg', hk'⟩, row, hget, hr⟩
      · refine .inl ⟨?_, hsame.trans hfirst⟩
        intro g' hg'
        rcases List.mem_cons.mp hg' with rfl | hg'
        · exact hk
        · exact hnone g' hg'
      · rw [hfirst] at hr
        exact .inr ⟨⟨g', List.mem_cons_of_mem _ hg', hk'⟩, row, hget, hr⟩

theorem LiveRow.mem_visitFields {key : GuestKey} {old : CurrentGuest} {row : CurrentGuest}
    (h : LiveRow key (some old) row) {volid : String} :
    volid ∈ visitFields row.config ↔ volid ∈ visitFields (old.config.without (liveKeys key.1)) := by
  simp only [Guests.mem_visitFields, Config.mem_without]
  constructor
  · intro hx
    obtain ⟨f, hf, hv⟩ := hx
    by_cases hk : f.1 ∈ liveKeys key.1
    · rw [h.plain f hf hk] at hv
      cases hv
    · exact ⟨f, ⟨(h.others f hk).mp hf, hk⟩, hv⟩
  · intro hx
    obtain ⟨f, ⟨hf, hk⟩, hv⟩ := hx
    exact ⟨f, (h.others f hk).mpr hf, hv⟩

/-- The live reconcile keeps the copy right exactly when the fields it rewrites
named no volume of their own. -/
theorem LiveRow.references_iff {key : GuestKey} {old row : CurrentGuest} (h : LiveRow key (some old) row)
    (hold : References old) :
    References row ↔ (old.configComplete = true → SameVolumes old.config (liveKeys key.1) []) := by
  have hcomplete : row.configComplete = old.configComplete := h.complete
  have hrefs : row.diskReferences = old.diskReferences := h.references
  unfold References
  rw [hcomplete, hrefs]
  refine forall_congr' fun hc => ?_
  rw [hold hc, extractDiskReferences_eq_iff]
  simp [h.mem_visitFields, SameVolumes, visitFields]

/-- The rows of a live reconcile's guests survive its retirement. -/
theorem reconcileLive_get (c : GuestCluster) (inv : LiveInventory) (key : GuestKey) :
    ((∀ g ∈ inv.guests, (g.objectType, g.vmid) ≠ key) ∧
      ((reconcileLive c inv).guests.get key = none ∨ (reconcileLive c inv).guests.get key = c.guests.get key)) ∨
      ((∃ g ∈ inv.guests, (g.objectType, g.vmid) = key) ∧
        ∃ row, (reconcileLive c inv).guests.get key = some row ∧ LiveRow key (c.guests.get key) row) := by
  have hkept : ∀ kept : Table CurrentGuest.key, kept = (if inv.complete then
      c.guests.keep fun g => inv.guests.any fun o => (o.objectType, o.vmid) = g.key else c.guests) →
      (kept.get key = none ∨ kept.get key = c.guests.get key) ∧
        ((∃ g ∈ inv.guests, (g.objectType, g.vmid) = key) → kept.get key = c.guests.get key) := by
    intro kept hk
    subst hk
    split
    · rw [Table.get_keep]
      cases hget : c.guests.get key with
      | none => simp
      | some row =>
        have hrow : row.key = key := Table.key_of_get hget
        by_cases hany : inv.guests.any fun o => (o.objectType, o.vmid) = row.key
        · simp [Option.filter, hany]
        · refine ⟨.inl (by simp [Option.filter, hany]), ?_⟩
          intro hx
          obtain ⟨g, hg, hgk⟩ := hx
          exact absurd (List.any_eq_true.mpr ⟨g, hg, decide_eq_true (hgk.trans hrow.symm)⟩) hany
    · exact ⟨.inr rfl, fun _ => rfl⟩
  obtain ⟨hor, hin⟩ := hkept _ rfl
  rcases foldl_writeLive c (publicationScope c c.copy) inv.observedAt inv.guests _ key with
    ⟨hnone, hsame⟩ | ⟨hex, row, hget, hrow⟩
  · exact .inl ⟨hnone, hor.imp hsame.trans hsame.trans⟩
  · rw [hin hex] at hrow
    exact .inr ⟨hex, row, hget, hrow⟩

/-! ## Every writer -/

theorem reconcileScan_references {c : GuestCluster} {s : ClusterScan} (hi : c.guests.All References)
    (hs : ∀ o ∈ s.observations, o.diskReferences = extractDiskReferences o.config) :
    (reconcileScan c s).guests.All References := by
  refine Table.All.foldl (Table.All.keep hi s.keeps) fun t o ho ht => ht.put ?_
  intro _
  exact hs o ho

theorem reconcileLive_references {c : GuestCluster} {inv : LiveInventory} (hi : c.guests.All References)
    (hv : ∀ row, ∀ g ∈ inv.guests, c.guests.get (g.objectType, g.vmid) = some row →
      row.configComplete = true → SameVolumes row.config (liveKeys g.objectType) []) :
    (reconcileLive c inv).guests.All References := by
  intro key row hrow
  rcases reconcileLive_get c inv key with
    ⟨-, hnone | hsame⟩ | ⟨⟨g, hg, rfl⟩, row', hrow', hlive⟩
  · rw [hnone] at hrow
    cases hrow
  · exact hi key row (hsame.symm.trans hrow)
  · rw [hrow'] at hrow
    cases hrow
    cases hold : c.guests.get (g.objectType, g.vmid) with
    | none =>
      rw [hold] at hlive
      intro hc
      have hfalse : row.configComplete = false := hlive.complete
      rw [hfalse] at hc
      cases hc
    | some old =>
      rw [hold] at hlive
      exact (hlive.references_iff (hi _ old hold)).mpr (hv old g hg hold)

theorem updateCurrentGuestConfig_references {c : GuestCluster} {key : GuestKey} {node : String} {updates : Config}
    {deleted : List String} {now : Time} (hi : c.guests.All References)
    (hv : ∀ row, c.guests.get key = some row → row.configComplete = true →
      SameVolumes row.config (updates.map (·.1) ++ deleted) ((Config.update [] updates).without deleted)) :
    (updateCurrentGuestConfig c key node updates deleted now).guests.All References := by
  refine Table.All.put hi ?_
  cases hold : c.guests.get key with
  | none =>
    -- A row the write creates is not complete.
    intro hc
    cases hc
  | some row =>
    refine (written_references_iff updates deleted (hi key row hold) ?_ ?_ ?_).mpr (hv row hold)
    · rfl
    · rfl
    · rfl

/-- A step that keeps the volumes of what it does not extract keeps every copy right. -/
theorem step_references {db db' : GuestDb} {l : GuestStep} (hl : l.extracts) (hi : ReferencesRight db)
    (h : guestStep db l = some db') (hv : VolumesKept db l) : ReferencesRight db' := by
  intro pk c' hc'
  rcases guestStep_at h pk with ⟨-, hnone⟩ | ⟨c, c₁, hc, hc₁, hcs⟩
  · rw [hnone] at hc'
    cases hc'
  · rw [hc₁] at hc'
    cases hc'
    have hic := hi pk c hc
    cases hcs with
    | same => exact hic
    | committed es => exact Table.all_modify (CurrentGuest.stamp_key _) hic
    | scanned hm => exact reconcileScan_references hic (hl _ hm)
    | live => exact reconcileLive_references hic fun row => hv c row hc
    | configUpdated => exact updateCurrentGuestConfig_references hic fun row => hv c row hc
    | upserted => exact Table.All.put hic fun _ => rfl
    | refreshed =>
      simp only [refreshCurrentGuestFromClient]
      split
      · exact hic
      · split
        · exact Table.All.keep hic _
        · exact hic
      · exact Table.All.put hic fun _ => rfl
    | deleted => exact Table.All.keep hic _

theorem onCluster_some {db db' : GuestDb} {pk : Nat} {f : GuestCluster → GuestCluster} {c : GuestCluster}
    (hf : ∀ c, (f c).pk = c.pk) (hc : db.get pk = some c) (h : onCluster db pk (fun c => some (f c)) = some db') :
    db'.get pk = some (f c) := by
  simp only [onCluster, hc, Option.bind_some, Option.map_some, Option.some.injEq] at h
  rw [← h, Table.get_put, if_pos ((hf c).trans (Table.key_of_get hc)).symm]

/-- A step that keeps every copy right kept the volumes of what it did not extract. -/
theorem volumesKept_of_references {db db' : GuestDb} {l : GuestStep} (hi : ReferencesRight db)
    (h : guestStep db l = some db') (hi' : ReferencesRight db') : VolumesKept db l := by
  cases l with
  | live pk inv =>
    intro c row hc g hg hrow
    have hc' : db'.get pk = some (reconcileLive c inv) := onCluster_some (f := (reconcileLive · inv)) (fun _ => rfl) hc h
    rcases reconcileLive_get c inv (g.objectType, g.vmid) with
      ⟨hout, -⟩ | ⟨-, row', hrow', hlive⟩
    · exact absurd rfl (hout g hg)
    · rw [hrow] at hlive
      exact (hlive.references_iff (hi pk c hc _ row hrow)).mp (hi' pk _ hc' _ row' hrow')
  | updateConfig pk key node updates deleted now =>
    intro c row hc hrow
    have hc' := onCluster_some (f := fun c => updateCurrentGuestConfig c key node updates deleted now)
      (fun _ => rfl) hc h
    have hkey : row.key = key := Table.key_of_get hrow
    have hrow' : (updateCurrentGuestConfig c key node updates deleted now).guests.get key = some { row with
        config := deleted.foldl Config.pop (row.config.update updates)
        node := if node = "" then row.node else node
        observedAt := now
        configObservedAt := some now } := by
      simp only [updateCurrentGuestConfig, hrow, Option.getD_some]
      rw [Table.get_put, if_pos]
      exact hkey.symm
    have hr := hi' pk _ hc' key _ hrow'
    refine (written_references_iff _ _ (hi pk c hc key row hrow) ?_ ?_ ?_).mp hr
    · rfl
    · rfl
    · rfl
  | enroll | changeMode | remove | scan | upsert | refresh | delete => trivial

/-- **Disk references track the configuration through a run exactly when no
configuration write and no live reconcile of it changes which volumes a
complete configuration names.** -/
theorem references_track_config_iff {db : GuestDb} (h₀ : ReferencesRight db) {ls : List GuestStep}
    (hls : ∀ l ∈ ls, l.extracts) :
    Always guestStep ReferencesRight db ls ↔ Along guestStep (fun db l _ => VolumesKept db l) db ls := by
  refine always_iff_along_of (J := fun _ => True) (P := fun db l _ => VolumesKept db l) (Q := GuestStep.extracts)
    (fun _ _ _ => trivial) ?_ hls trivial h₀
  intro db l db' hl _ hi h
  exact ⟨volumesKept_of_references hi h, step_references hl hi h⟩

/-- A cluster with no guest read yet. -/
def unreadCluster : GuestCluster where
  pk := 1
  key := "lab"
  enrollmentContractVersion := 1
  enrollmentGeneration := 1
  enrollments := ⟨[⟨"pve1", .managed⟩], by decide⟩
  endpoints := []
  guests := Table.empty
  inventoryState := none

def unreadDb : GuestDb := ⟨[unreadCluster], by decide⟩

theorem unreadDb_references : ReferencesRight unreadDb := by
  intro pk c hc key row hrow
  have hm := Table.mem_of_get hc
  simp only [unreadDb, List.mem_singleton] at hm
  subst hm
  cases hrow

/-- A guest is created with a disk, its memory is changed, and a live reconcile follows. -/
def resized : List GuestStep :=
  [.upsert 1 (.vm, 100) "pve1" "running" [("scsi0", .str "local:100/vm-100-disk-0.raw,size=4G")] 10,
    .updateConfig 1 (.vm, 100) "" [("memory", .str "4096")] [] 20,
    .live 1 ⟨[⟨.vm, 100, "pve1", "running", false, "web"⟩], true, ["pve1"], ["pve1"], 30⟩]

theorem resized_references_track_config : Always guestStep ReferencesRight unreadDb resized := by
  refine (references_track_config_iff unreadDb_references ?_).mpr ?_
  · intro l hl
    simp only [resized, List.mem_cons, List.not_mem_nil, or_false] at hl
    rcases hl with rfl | rfl | rfl <;> trivial
  refine fun db₁ h₁ => ⟨trivial, ?_⟩
  obtain rfl := Option.some.inj h₁
  refine fun db₂ h₂ => ⟨?_, ?_⟩
  · intro c row hc hrow _
    obtain rfl := Option.some.inj hc
    obtain rfl := Option.some.inj hrow
    decide +kernel
  obtain rfl := Option.some.inj h₂
  refine fun db₃ _ => ⟨?_, trivial⟩
  intro c row hc g hg hrow _
  obtain rfl := Option.some.inj hc
  obtain rfl := List.mem_singleton.mp hg
  obtain rfl := Option.some.inj hrow
  decide +kernel

/-- A guest is created with one disk and a second is attached. -/
def attached : List GuestStep :=
  [.upsert 1 (.vm, 100) "pve1" "running" [("scsi0", .str "local:100/vm-100-disk-0.raw")] 10,
    .updateConfig 1 (.vm, 100) "" [("scsi1", .str "local:100/vm-100-disk-1.raw")] [] 20]

/-- The attached disk is in the configuration and not in the references. -/
theorem attached_disk_unreferenced : ¬ ∀ db ls, ReferencesRight db → (∀ l ∈ ls, GuestStep.extracts l) →
    Always guestStep ReferencesRight db ls := by
  intro h
  have hl : ∀ l ∈ attached, GuestStep.extracts l := by
    intro l hl
    simp only [attached, List.mem_cons, List.not_mem_nil, or_false] at hl
    rcases hl with rfl | rfl <;> trivial
  have hrefs := h unreadDb attached unreadDb_references hl attached [] _ rfl rfl 1 _ rfl (.vm, 100) _ rfl rfl
  revert hrefs
  decide +kernel

end PveHelper.Guests
