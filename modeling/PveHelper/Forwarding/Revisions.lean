/-
The revision numbers of an Audit event's deliveries. `enqueue_audit_event` numbers a
delivery one above the highest that is stored for the event, and a pass deletes what was
sent more than a week ago, so the numbers go on rising exactly while the event's most
recent delivery is still there.
-/
import PveHelper.Forwarding.Outbox

namespace PveHelper.Forwarding

open Lib

/-- Of two deliveries made for one event, the later one has the higher number. -/
def RevisionsIncrease (s : Forwarder) : Prop :=
  s.created.Pairwise fun earlier later => earlier.auditEventId = later.auditEventId → earlier.sequence < later.sequence

/-- The delivery last made for an event. -/
def Forwarder.latest (s : Forwarder) (event : Nat) : Option Delivery :=
  (s.created.filter fun d => d.auditEventId == event).getLast?

/-- A save finds the event's latest delivery still stored, if there was one. -/
def LatestStored (s : Forwarder) (a : ForwarderAction) (_ : Forwarder) : Prop :=
  match a with
  | .save event _ => s.enabled = true → ∀ d, s.latest event.pk = some d → (s.deliveries.table.get d.pk).isSome = true
  | _ => True

/-! ## The highest number stored -/

theorem le_foldr_max {l : List Nat} {n : Nat} (h : n ∈ l) : n ≤ l.foldr max 0 := by
  induction l with
  | nil => cases h
  | cons m l ih =>
    rw [List.foldr_cons]
    rcases List.mem_cons.mp h with rfl | h
    · exact Nat.le_max_left ..
    · exact Nat.le_trans (ih h) (Nat.le_max_right ..)

theorem foldr_max_mem (l : List Nat) : l.foldr max 0 = 0 ∨ l.foldr max 0 ∈ l := by
  induction l with
  | nil => exact .inl rfl
  | cons m l ih =>
    rw [List.foldr_cons]
    rcases Nat.le_total m (l.foldr max 0) with hle | hle
    · rw [Nat.max_eq_right hle]
      exact ih.imp id (List.mem_cons_of_mem _)
    · rw [Nat.max_eq_left hle]
      exact .inr (List.mem_cons_self ..)

theorem le_lastSequence {deliveries : Serial Delivery.pk} {pk : Nat} {d : Delivery} (hd : deliveries.table.get pk = some d) :
    d.sequence ≤ lastSequence deliveries d.auditEventId := by
  refine le_foldr_max (List.mem_map_of_mem ?_)
  exact List.mem_filter.mpr ⟨Table.mem_of_get hd, by simp⟩

theorem lastSequence_stored (deliveries : Serial Delivery.pk) (event : Nat) : lastSequence deliveries event = 0 ∨
    ∃ pk d, deliveries.table.get pk = some d ∧ d.auditEventId = event ∧ d.sequence = lastSequence deliveries event := by
  rcases foldr_max_mem ((deliveries.table.rows.filter (·.auditEventId == event)).map (·.sequence)) with hzero | hmem
  · exact .inl hzero
  · obtain ⟨d, hd, hseq⟩ := List.mem_map.mp hmem
    obtain ⟨hd, hevent⟩ := List.mem_filter.mp hd
    exact .inr ⟨d.pk, d, Table.get_of_mem hd, eq_of_beq hevent, hseq⟩

/-! ## What is stored was made -/

/-- Every stored delivery is one that was made, with its event and number. -/
structure RevisionInv (s : Forwarder) : Prop where
  stored : ∀ pk d, s.deliveries.table.get pk = some d →
    ∃ c ∈ s.created, c.pk = pk ∧ c.auditEventId = d.auditEventId ∧ c.sequence = d.sequence
  below : ∀ c ∈ s.created, c.pk < s.deliveries.next
  distinct : (s.created.map (·.pk)).Nodup
  positive : ∀ c ∈ s.created, 0 < c.sequence

theorem RevisionInv.init : RevisionInv Forwarder.init where
  stored := by
    intro pk d h
    cases h
  below := by simp [Forwarder.init]
  distinct := List.nodup_nil
  positive := by simp [Forwarder.init]

section
variable {s s' : Forwarder}

/-- The invariant looks at no more of a row than its key, event and number. -/
theorem RevisionInv.rewritten (hinv : RevisionInv s) (hcreated : s'.created = s.created)
    (hnext : s'.deliveries.next = s.deliveries.next)
    (hrows : ∀ pk d', s'.deliveries.table.get pk = some d' → ∃ d, s.deliveries.table.get pk = some d ∧
      d'.auditEventId = d.auditEventId ∧ d'.sequence = d.sequence) : RevisionInv s' where
  stored := by
    intro pk d' hd'
    obtain ⟨d, hd, hevent, hseq⟩ := hrows pk d' hd'
    rw [hevent, hseq, hcreated]
    exact hinv.stored pk d hd
  below := by
    rw [hcreated, hnext]
    exact hinv.below
  distinct := hcreated ▸ hinv.distinct
  positive := hcreated ▸ hinv.positive

theorem RevisionInv.save (hinv : RevisionInv s) (event : AuditSnapshot) (now : Time) :
    RevisionInv { s with
      deliveries := enqueueAuditEvent s.deliveries event now
      created := s.created ++ [newDelivery s.deliveries event now s.deliveries.next] } where
  stored := by
    intro pk d hd
    simp only [enqueueAuditEvent, Serial.get_insert] at hd
    split at hd
    · rename_i hpk
      cases hd
      exact ⟨_, List.mem_append_right _ (List.mem_singleton_self _), hpk.symm, rfl, rfl⟩
    · obtain ⟨c, hc, hkey⟩ := hinv.stored pk d hd
      exact ⟨c, List.mem_append_left _ hc, hkey⟩
  below := by
    intro c hc
    rcases List.mem_append.mp hc with hc | hc
    · exact Nat.lt_succ_of_lt (hinv.below c hc)
    · rw [List.mem_singleton.mp hc]
      exact Nat.lt_succ_self _
  distinct := by
    rw [List.map_append, List.nodup_append]
    refine ⟨hinv.distinct, List.nodup_singleton _, fun a ha b hb => ?_⟩
    obtain ⟨c, hc, rfl⟩ := List.mem_map.mp ha
    rw [List.map_singleton, List.mem_singleton] at hb
    rw [hb]
    exact Nat.ne_of_lt (hinv.below c hc)
  positive := by
    intro c hc
    rcases List.mem_append.mp hc with hc | hc
    · exact hinv.positive c hc
    · rw [List.mem_singleton.mp hc]
      exact Nat.succ_pos _

theorem forwarderStep_revisions {a : ForwarderAction} (hinv : RevisionInv s) (h : forwarderStep s a = some s') :
    RevisionInv s' := by
  by_cases hsave : ∃ event now, a = .save event now
  · obtain ⟨event, now, rfl⟩ := hsave
    simp only [forwarderStep] at h
    split at h
    · cases h
      exact hinv
    · cases h
      exact hinv.save event now
  · obtain ⟨hcreated, hnext, hrows⟩ := forwarderStep_rewrites h fun event now ha => hsave ⟨event, now, ha⟩
    exact hinv.rewritten hcreated hnext hrows

/-! ## The latest delivery -/

theorem mem_of_latest {event : Nat} {d : Delivery} (h : s.latest event = some d) : d ∈ s.created ∧ d.auditEventId = event := by
  obtain ⟨hmem, hevent⟩ := List.mem_filter.mp (List.mem_of_getLast? h)
  exact ⟨hmem, eq_of_beq hevent⟩

/-- While the numbers rise, the latest delivery of an event has the highest. -/
theorem RevisionsIncrease.le_latest (hrise : RevisionsIncrease s) {event : Nat} {c d : Delivery} (h : s.latest event = some d)
    (hc : c ∈ s.created) (hevent : c.auditEventId = event) : c = d ∨ c.sequence < d.sequence := by
  obtain ⟨earlier, hsplit⟩ := List.getLast?_eq_some_iff.mp h
  have hmem : c ∈ s.created.filter fun d => d.auditEventId == event := List.mem_filter.mpr ⟨hc, by simp [hevent]⟩
  have hpairs := List.Pairwise.filter (fun d : Delivery => d.auditEventId == event) hrise
  rw [hsplit] at hmem hpairs
  rcases List.mem_append.mp hmem with hin | hlast
  · refine .inr ((List.pairwise_append.mp hpairs).2.2 c hin d (List.mem_singleton_self d) ?_)
    exact hevent.trans (mem_of_latest h).2.symm
  · exact .inl (List.mem_singleton.mp hlast)

theorem latest_of_mem {event : Nat} {c : Delivery} (hc : c ∈ s.created) (hevent : c.auditEventId = event) :
    ∃ d, s.latest event = some d := by
  have hmem : c ∈ s.created.filter fun d => d.auditEventId == event := List.mem_filter.mpr ⟨hc, by simp [hevent]⟩
  exact Option.ne_none_iff_exists'.mp fun hnone => List.ne_nil_of_mem hmem (List.getLast?_eq_none_iff.mp hnone)

/-- A stored latest delivery is the one that carries the highest number. -/
theorem latest_le_iff (hinv : RevisionInv s) (hrise : RevisionsIncrease s) {event : Nat} {d : Delivery}
    (h : s.latest event = some d) :
    d.sequence ≤ lastSequence s.deliveries event ↔ (s.deliveries.table.get d.pk).isSome = true := by
  obtain ⟨hd, hevent⟩ := mem_of_latest h
  constructor
  · intro hle
    rcases lastSequence_stored s.deliveries event with hzero | ⟨pk, r, hr, hrevent, hseq⟩
    · have hpos := hinv.positive d hd
      omega
    · obtain ⟨c, hc, hcpk, hcevent, hcseq⟩ := hinv.stored pk r hr
      rcases hrise.le_latest h hc (hcevent.trans hrevent) with rfl | hlt
      · rw [hcpk, hr]
        rfl
      · omega
  · intro hstored
    obtain ⟨r, hr⟩ := Option.isSome_iff_exists.mp hstored
    obtain ⟨c, hc, hcpk, hcevent, hcseq⟩ := hinv.stored d.pk r hr
    obtain rfl : c = d := List.inj_on_of_nodup_map hinv.distinct hc hd hcpk
    rw [hcseq, ← hevent, hcevent]
    exact le_lastSequence hr

/-- A save keeps the numbers rising exactly when the event's latest delivery is stored. -/
theorem save_increases_iff (hinv : RevisionInv s) (hrise : RevisionsIncrease s) (event : AuditSnapshot) (now : Time) :
    (s.created ++ [newDelivery s.deliveries event now s.deliveries.next]).Pairwise
        (fun earlier later => earlier.auditEventId = later.auditEventId → earlier.sequence < later.sequence) ↔
      ∀ d, s.latest event.pk = some d → (s.deliveries.table.get d.pk).isSome = true := by
  constructor
  · intro h d hd
    obtain ⟨hmem, hevent⟩ := mem_of_latest hd
    have hlt := (List.pairwise_append.mp h).2.2 d hmem _ (List.mem_singleton_self _) hevent
    exact (latest_le_iff hinv hrise hd).mp (Nat.le_of_lt_succ hlt)
  · intro h
    refine List.pairwise_append.mpr ⟨hrise, List.pairwise_singleton _ _, fun c hc b hb hevent => ?_⟩
    rw [List.mem_singleton.mp hb] at hevent ⊢
    obtain ⟨d, hd⟩ := latest_of_mem hc hevent
    have hle : d.sequence ≤ lastSequence s.deliveries event.pk := (latest_le_iff hinv hrise hd).mpr (h d hd)
    show c.sequence < lastSequence s.deliveries event.pk + 1
    rcases hrise.le_latest hd hc hevent with rfl | hlt <;> omega

/-- **The numbers of an event's deliveries rise exactly while its latest delivery is kept.**
Over every run of saves, passes and their deletions, the deliveries ever made for an event
have rising numbers if and only if each save finds the event's latest delivery still stored. -/
theorem revisionsIncrease_iff (ls : List ForwarderAction) :
    Always forwarderStep RevisionsIncrease Forwarder.init ls ↔ Along forwarderStep LatestStored Forwarder.init ls := by
  refine always_iff_along (J := RevisionInv) forwarderStep_revisions ?_ RevisionInv.init List.Pairwise.nil
  intro s a s' hinv hrise h
  by_cases hsave : ∃ event now, a = .save event now
  · obtain ⟨event, now, rfl⟩ := hsave
    simp only [forwarderStep] at h
    split at h
    · rename_i hdisabled
      cases h
      simp only [Bool.not_eq_true'] at hdisabled
      simp [LatestStored, hdisabled, hrise]
    · rename_i henabled
      cases h
      simp only [Bool.not_eq_true', Bool.not_eq_false] at henabled
      simp only [LatestStored, henabled, forall_const]
      exact save_increases_iff hinv hrise event now
  · obtain ⟨hcreated, -, -⟩ := forwarderStep_rewrites h fun event now ha => hsave ⟨event, now, ha⟩
    have hkept : RevisionsIncrease s' := by
      unfold RevisionsIncrease
      rw [hcreated]
      exact hrise
    refine ⟨fun _ => ?_, fun _ => hkept⟩
    cases a with
    | save event now => exact absurd ⟨event, now, rfl⟩ hsave
    | _ => trivial

end

/-- The event's first revision is sent at 10 and deleted eight days later; the event is saved again. -/
def savedAfterRetention : List ForwarderAction :=
  [.save (loginEvent 1) 0, .start 10, .claim 10, .delivered 10, .finish, .start 691200, .finish, .save (loginEvent 1) 691300]

theorem revision_repeats : ¬ ∀ ls, Always forwarderStep RevisionsIncrease Forwarder.init ls := by
  intro h
  have hrise := h savedAfterRetention savedAfterRetention [] _ (List.append_nil _).symm rfl
  have hlt := (List.pairwise_cons.mp hrise).1 _ (List.mem_singleton_self _) rfl
  exact absurd hlt (by decide +kernel)

end PveHelper.Forwarding
