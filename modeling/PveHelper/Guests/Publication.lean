/-
Whether the projection shows what the operator enrolled. Enrollment commits
and the two reconcilers stamp the rows they write with the current publication
scope; the three targeted writes do not. The stamps stay right through a run
as long as a targeted write finds its row and leaves it on a node of the same
standing, and a scan's copy of its cluster is current.
-/
import PveHelper.Guests.Inventory

namespace PveHelper.Guests

open Lib

/-- The node is enrolled as managed. -/
def GuestCluster.manages (c : GuestCluster) (node : String) : Bool := c.managedNodes.contains node

/-- `PublicationScope.filtering` for the cluster as stored. -/
def GuestCluster.active (c : GuestCluster) : Prop := 1 ≤ c.enrollmentContractVersion

/-- A row's two publication columns are those of the cluster's current scope. -/
structure Stamped (c : GuestCluster) (g : CurrentGuest) : Prop where
  published : g.published = c.manages g.node
  generation : g.basedOnEnrollmentGeneration = c.enrollmentGeneration

/-- Every guest row of the cluster is stamped. -/
def AllStamped (c : GuestCluster) : Prop := c.guests.All (Stamped c)

/-- A targeted write finds its row, and moves it to `node` at most within the
managed nodes or within the others. -/
def KeepsStanding (c : GuestCluster) (key : GuestKey) (node : CurrentGuest → String) : Prop :=
  ∃ g, c.guests.get key = some g ∧ c.manages (node g) = c.manages g.node

/-- The condition on one step, for the cluster stored under `pk`. -/
def StampsKept (pk : Nat) (db : GuestDb) (l : GuestStep) : Prop :=
  ∀ c, db.get pk = some c → match l with
    | .scan scans => ∀ s, (pk, s) ∈ scans → s.observations = [] ∨ s.copy = c.copy
    | .updateConfig k key node _ _ _ => k = pk → KeepsStanding c key fun g => if node = "" then g.node else node
    | .upsert k key node _ _ _ => k = pk → KeepsStanding c key fun _ => node
    | .refresh k client key node rel _ _ => k = pk → ∀ found status,
        locate client key node rel = .at found status → KeepsStanding c key fun _ => found
    | _ => True

theorem publicationScope_publishes {c : GuestCluster} (copy : ClusterCopy) (h : 1 ≤ copy.contractVersion)
    (node : String) : (publicationScope c copy).publishes node = c.manages node := by
  simp [PublicationScope.publishes, PublicationScope.filtering, publicationScope, h, GuestCluster.manages]

/-- A row written with the current scope's stamp is stamped. -/
theorem stamped_of_scope {c : GuestCluster} (ha : c.active) {g : CurrentGuest}
    (hp : g.published = (publicationScope c c.copy).publishes g.node)
    (hg : g.basedOnEnrollmentGeneration = c.enrollmentGeneration) : Stamped c g :=
  ⟨hp.trans (publicationScope_publishes c.copy ha g.node), hg⟩

/-- Guest rows stamped under the enrollment the cluster still has. -/
theorem allStamped_of (c : GuestCluster) {c' : GuestCluster} (he : c'.enrollments = c.enrollments)
    (hg : c'.enrollmentGeneration = c.enrollmentGeneration) (h : c'.guests.All (Stamped c)) : AllStamped c' := by
  intro k g hget
  have hs := h k g hget
  refine ⟨?_, hs.generation.trans hg.symm⟩
  rw [hs.published, GuestCluster.manages, GuestCluster.manages, GuestCluster.managedNodes, GuestCluster.managedNodes, he]

/-! ## The writers -/

theorem commitGeneration_stamped {c : GuestCluster} (ha : c.active) : AllStamped (commitGeneration c) := by
  intro k g hget
  simp only [commitGeneration, applyPublicationScope, Table.get_modify, Option.map_eq_some_iff] at hget
  obtain ⟨g₀, -, rfl⟩ := hget
  exact ⟨publicationScope_publishes ⟨c.enrollmentContractVersion, c.enrollmentGeneration + 1⟩ ha g₀.node, rfl⟩

theorem reconcileScan_stamped {c : GuestCluster} {s : ClusterScan} (ha : c.active) (hi : AllStamped c)
    (hs : s.observations = [] ∨ s.copy = c.copy) : AllStamped (reconcileScan c s) := by
  refine allStamped_of c rfl rfl (Table.All.foldl (Table.All.keep hi s.keeps) fun t o ho ht => ht.put ?_)
  rcases hs with hnone | hcopy
  · rw [hnone] at ho
    cases ho
  · rw [hcopy]
    exact stamped_of_scope (g := o.row (publicationScope c c.copy) s) ha rfl rfl

theorem reconcileLive_stamped {c : GuestCluster} {inv : LiveInventory} (ha : c.active) (hi : AllStamped c) :
    AllStamped (reconcileLive c inv) := by
  have hkept : Table.All (Stamped c) (if inv.complete then
      c.guests.keep fun g => inv.guests.any fun o => (o.objectType, o.vmid) = g.key else c.guests) := by
    split
    · exact Table.All.keep hi _
    · exact hi
  refine allStamped_of c rfl rfl (Table.All.foldl hkept fun t o _ ht => ht.put ?_)
  exact stamped_of_scope (g := o.row c (publicationScope c c.copy) inv.observedAt _) ha rfl rfl

/-- A targeted write keeps the stamp of the row it finds. -/
theorem targeted_stamped {c : GuestCluster} {key : GuestKey} {node : CurrentGuest → String} (hi : AllStamped c)
    (hk : KeepsStanding c key node) {g' : CurrentGuest}
    (hg : ∀ g, c.guests.get key = some g → g'.published = g.published ∧
      g'.basedOnEnrollmentGeneration = g.basedOnEnrollmentGeneration ∧ g'.node = node g) :
    (c.guests.put g').All (Stamped c) := by
  obtain ⟨g, hget, hstand⟩ := hk
  obtain ⟨hp, hgen, hn⟩ := hg g hget
  have hold := hi key g hget
  exact Table.All.put hi ⟨by rw [hp, hn, hstand]; exact hold.published, hgen.trans hold.generation⟩

theorem step_stamped {pk : Nat} {c c' : GuestCluster} {l : GuestStep} (hs : ClusterStep pk c l c')
    {db : GuestDb} (hc : db.get pk = some c) (ha : c.active) (hi : AllStamped c) (hk : StampsKept pk db l) :
    AllStamped c' := by
  have hk := hk c hc
  cases hs with
  | same => exact hi
  | committed es => exact commitGeneration_stamped ha
  | scanned hm => exact reconcileScan_stamped ha hi (hk _ hm)
  | live => exact reconcileLive_stamped ha hi
  | configUpdated =>
    refine allStamped_of c rfl rfl (targeted_stamped hi (hk rfl) ?_)
    intro g hg
    simp [hg]
  | upserted =>
    refine allStamped_of c rfl rfl (targeted_stamped hi (hk rfl) ?_)
    intro g hg
    simp [hg]
  | refreshed =>
    simp only [refreshCurrentGuestFromClient]
    split
    · exact hi
    · split
      · exact allStamped_of c rfl rfl (Table.All.keep hi _)
      · exact hi
    next found status hloc =>
    refine allStamped_of c rfl rfl (targeted_stamped hi (hk rfl found status hloc) ?_)
    intro g hg
    simp [hg]
  | deleted => exact allStamped_of c rfl rfl (Table.All.keep hi _)

theorem clusterStep_active {pk : Nat} {c c' : GuestCluster} {l : GuestStep} (hs : ClusterStep pk c l c')
    (ha : c.active) : c'.active := by
  cases hs with
  | refreshed =>
    simp only [refreshCurrentGuestFromClient]
    split
    · exact ha
    · split <;> exact ha
    · exact ha
  | same | committed | scanned | live | configUpdated | upserted | deleted => exact ha

/-- The cluster under `pk`, if it is there, is active and shows what is enrolled. -/
def PublicationRight (pk : Nat) (db : GuestDb) : Prop := ∀ c, db.get pk = some c → c.active ∧ AllStamped c

/-- **Publication follows enrollment through every run whose targeted writes
keep their row's standing and whose scans know the current enrollment.** -/
theorem publication_follows_enrollment {pk : Nat} {db : GuestDb} (h₀ : PublicationRight pk db) {ls : List GuestStep}
    (hk : Along guestStep (fun db l _ => StampsKept pk db l) db ls) : Always guestStep (PublicationRight pk) db ls := by
  rintro ls₁ ls₂ db' rfl hr
  refine run_inv_along (fun {db l db'} hi hs hl => ?_) h₀ hk.take hr
  intro c' hc'
  rcases guestStep_at hs pk with ⟨-, hnone⟩ | ⟨c, c₁, hc, hc₁, hcs⟩
  · rw [hnone] at hc'
    cases hc'
  · rw [hc₁] at hc'
    cases hc'
    obtain ⟨ha, hst⟩ := hi c hc
    exact ⟨clusterStep_active hcs ha, step_stamped hcs hc ha hst hl⟩

/-- A cluster that publishes one of its two nodes, its only guest on it. -/
def labCluster : GuestCluster where
  pk := 1
  key := "lab"
  enrollmentContractVersion := 1
  enrollmentGeneration := 1
  enrollments := ⟨[⟨"pve1", .managed⟩, ⟨"pve2", .safetyOnly⟩], by decide⟩
  endpoints := []
  guests := ⟨[{ objectType := .vm, vmid := 100, node := "pve1", observedAt := 0, basedOnEnrollmentGeneration := 1 }],
    by decide⟩
  inventoryState := none

theorem labCluster_right : PublicationRight 1 ⟨[labCluster], by decide⟩ := by
  intro c hc
  have hm := Table.mem_of_get hc
  simp only [List.mem_singleton] at hm
  subst hm
  refine ⟨Nat.le_refl 1, ?_⟩
  intro k g hg
  have hm := Table.mem_of_get hg
  simp only [labCluster, List.mem_singleton] at hm
  subst hm
  exact ⟨rfl, rfl⟩

/-- A configuration write on the published guest, then an enrollment change. -/
theorem lab_publication_follows_enrollment : Always guestStep (PublicationRight 1) ⟨[labCluster], by decide⟩
    [.updateConfig 1 (.vm, 100) "" [("memory", .int 2048)] [] 10, .changeMode 1 "pve2" .managed false] := by
  refine publication_follows_enrollment labCluster_right ?_
  refine fun s₁ _ => ⟨fun c hc _ => ?_, fun s₂ _ => ⟨fun c _ => trivial, trivial⟩⟩
  obtain rfl := Option.some.inj hc
  exact ⟨_, rfl, rfl⟩

/-- A guest created on the node kept for safety only is published, under no
generation the cluster ever had. -/
theorem upserted_guest_published :
    ¬ ∀ pk db ls, PublicationRight pk db → Always guestStep (PublicationRight pk) db ls := by
  intro h
  have hr := h 1 ⟨[labCluster], by decide⟩ [.upsert 1 (.vm, 101) "pve2" "running" [] 10] labCluster_right
    [.upsert 1 (.vm, 101) "pve2" "running" [] 10] [] _ rfl rfl
  have hs := (hr _ rfl).2 (.vm, 101) _ rfl
  have := hs.published
  cases this

end PveHelper.Guests
