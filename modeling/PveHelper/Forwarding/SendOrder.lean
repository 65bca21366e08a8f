/-
Whether events leave in the order of their deliveries' ids. An event that is saved inside a
transaction draws the id of its delivery there and then, and no pass sees the row until the
transaction commits; so beside the forwarder stand the deliveries drawn in transactions that
are still open. A save in a transaction of its own is one step of the forwarder.
-/
import PveHelper.Forwarding.Outbox

namespace PveHelper.Forwarding

open Lib

/-! ## Transactions that are still open -/

structure Outbox where
  forwarder : Forwarder
  /-- The deliveries drawn in open transactions, each with its transaction. -/
  drawn : List (Nat × Delivery)

def Outbox.init : Outbox := ⟨.init, []⟩

inductive OutboxAction
  | forwarder (a : ForwarderAction)
  | draw (transaction : Nat) (event : AuditSnapshot) (now : Time)
  | commit (transaction : Nat)
  | rollback (transaction : Nat)

/-- Another transaction holds the event's row. -/
def Outbox.locked (s : Outbox) (transaction : Option Nat) (event : AuditSnapshot) : Bool :=
  s.drawn.any fun d => some d.1 != transaction && d.2.auditEventId == event.pk

/-- What the transaction has drawn. -/
def Outbox.own (s : Outbox) (transaction : Nat) : List Delivery :=
  (s.drawn.filter (·.1 == transaction)).map (·.2)

/-- The row that `enqueue_audit_event` creates in an open transaction, which sees its own rows. -/
def Outbox.drawnDelivery (s : Outbox) (transaction : Nat) (event : AuditSnapshot) (now : Time) : Delivery :=
  let own := ((s.own transaction).filter (·.auditEventId == event.pk)).map (·.sequence)
  { newDelivery s.forwarder.deliveries event now s.forwarder.deliveries.next with
    sequence := own.foldr max (lastSequence s.forwarder.deliveries event.pk) + 1 }

def outboxStep (s : Outbox) : OutboxAction → Option Outbox
  | .forwarder (.save event now) =>
    if s.forwarder.enabled && s.locked none event then none
    else (forwarderStep s.forwarder (.save event now)).map fun f => { s with forwarder := f }
  | .forwarder a => (forwarderStep s.forwarder a).map fun f => { s with forwarder := f }
  | .draw transaction event now =>
    if !s.forwarder.enabled then some s
    else if s.locked (some transaction) event then none
    else some {
      forwarder := { s.forwarder with deliveries := s.forwarder.deliveries.reserve }
      drawn := s.drawn ++ [(transaction, s.drawnDelivery transaction event now)] }
  | .commit transaction => some {
      forwarder := { s.forwarder with
        deliveries := (s.own transaction).foldl Serial.place s.forwarder.deliveries
        created := s.forwarder.created ++ s.own transaction }
      drawn := s.drawn.filter (·.1 != transaction) }
  | .rollback transaction => some { s with drawn := s.drawn.filter (·.1 != transaction) }

/-! ## The order of the sent deliveries -/

/-- The deliveries reached SENT in the order of their ids, and none did while one with a
smaller id was still to be sent. -/
def InOrder (s : Forwarder) : Prop :=
  s.sent.Pairwise (· < ·) ∧
    ∀ i ∈ s.sent, ∀ pk d, s.deliveries.table.get pk = some d → d.status ≠ .sent → i < pk

/-- A pass that starts now leaves the delivery where it is: its back-off is not over, or
an earlier pass died on it less than `CLAIM_TIMEOUT` ago. -/
def Delivery.waits (now : Time) (d : Delivery) : Bool :=
  match d.status with
  | .pending => decide (now < d.nextAttemptAt)
  | .sending => !d.abandoned now
  | .sent => false

/-- What a pass that starts now leaves behind: what waits, and what is drawn and cannot be seen yet. -/
def Outbox.leftBehind (s : Outbox) (now : Time) : List Delivery :=
  s.forwarder.deliveries.table.rows.filter (·.waits now) ++ s.drawn.map (·.2)

/-- No delivery that a starting pass leaves behind has a smaller id than one it takes. -/
def StartsInTurn (s : Outbox) (a : OutboxAction) (_ : Outbox) : Prop :=
  match a with
  | .forwarder (.start now) => s.forwarder.pass = none → s.forwarder.enabled = true → ∀ d ∈ s.leftBehind now,
      ∀ id ∈ deliveryIds now (releaseAbandoned now s.forwarder.deliveries), id < d.pk
  | _ => True

instance (s : Outbox) (a : OutboxAction) (s' : Outbox) : Decidable (StartsInTurn s a s') :=
  match a with
  | .forwarder (.start now) => inferInstanceAs (Decidable (s.forwarder.pass = none → s.forwarder.enabled = true →
      ∀ d ∈ s.leftBehind now, ∀ id ∈ deliveryIds now (releaseAbandoned now s.forwarder.deliveries), id < d.pk))
  | .forwarder (.configure _) | .forwarder (.save ..) | .forwarder (.claim _) | .forwarder (.delivered _)
  | .forwarder (.failed ..) | .forwarder .finish | .forwarder .died | .draw .. | .commit _ | .rollback _ => isTrue trivial

/-- The deliveries a pass has still before it, the one it is sending first. -/
def Pass.line (p : Pass) : List Nat := p.current.toList ++ p.ids

/-- A pass goes through its deliveries by id, and all others still to be sent come after. -/
structure PassInOrder (deliveries : Serial Delivery.pk) (p : Pass) : Prop where
  sorted : p.line.Pairwise (· < ·)
  taken : ∀ id ∈ p.ids, ∃ d, deliveries.table.get id = some d ∧ d.status = .pending
  held : ∀ id, p.current = some id → ∃ d, deliveries.table.get id = some d ∧ d.status = .sending
  first : ∀ id ∈ p.line, ∀ pk d, deliveries.table.get pk = some d → d.status ≠ .sent → pk ∉ p.line → id < pk

structure OrderInv (s : Forwarder) : Prop where
  order : InOrder s
  spent : ∀ i ∈ s.sent, i < s.deliveries.next
  pass : ∀ p, s.pass = some p → PassInOrder s.deliveries p

theorem OrderInv.init : OrderInv Forwarder.init where
  order := ⟨List.Pairwise.nil, by simp [Forwarder.init]⟩
  spent := by simp [Forwarder.init]
  pass := by simp [Forwarder.init]

section
variable {s : Forwarder}

theorem PassInOrder.lt_next {deliveries : Serial Delivery.pk} {p : Pass} (h : PassInOrder deliveries p) {id : Nat}
    (hid : id ∈ p.line) : id < deliveries.next := by
  rcases List.mem_append.mp hid with hid | hid
  · obtain ⟨d, hd, -⟩ := h.held id (by simpa using hid)
    exact deliveries.below hd
  · obtain ⟨d, hd, -⟩ := h.taken id hid
    exact deliveries.below hd

/-- A new delivery comes after all others. -/
theorem OrderInv.save (hinv : OrderInv s) (event : AuditSnapshot) (now : Time) (created : List Delivery) :
    OrderInv { s with deliveries := enqueueAuditEvent s.deliveries event now, created := created } where
  order := by
    refine ⟨hinv.order.1, fun i hi pk d hd hst => ?_⟩
    simp only [enqueueAuditEvent, Serial.get_insert] at hd
    split at hd
    · rename_i hpk
      rw [hpk]
      exact hinv.spent i hi
    · exact hinv.order.2 i hi pk d hd hst
  spent := fun i hi => Nat.lt_succ_of_lt (hinv.spent i hi)
  pass := by
    intro p hp
    have h := hinv.pass p hp
    have hget : ∀ {id d}, s.deliveries.table.get id = some d →
        (enqueueAuditEvent s.deliveries event now).table.get id = some d := by
      intro id d hd
      rw [enqueueAuditEvent, Serial.get_insert, if_neg (Nat.ne_of_lt (s.deliveries.below hd))]
      exact hd
    refine ⟨h.sorted, fun id hid => ?_, fun id hid => ?_, fun id hid pk d hd hst hnot => ?_⟩
    · obtain ⟨d, hd, hst⟩ := h.taken id hid
      exact ⟨d, hget hd, hst⟩
    · obtain ⟨d, hd, hst⟩ := h.held id hid
      exact ⟨d, hget hd, hst⟩
    · simp only [enqueueAuditEvent, Serial.get_insert] at hd
      split at hd
      · rename_i hpk
        rw [hpk]
        exact h.lt_next hid
      · exact h.first id hid pk d hd hst hnot

theorem deliveryIds_sorted (now : Time) (deliveries : Serial Delivery.pk) : (deliveryIds now deliveries).Pairwise (· < ·) := by
  have hnodup : (((deliveries.table.rows.filter (·.due now)).map (·.pk)).insertionSort (· ≤ ·)).Nodup :=
    (List.perm_insertionSort _ _).nodup_iff.mpr (deliveries.table.unique.sublist (List.filter_sublist.map _))
  have hle := List.pairwise_insertionSort (· ≤ ·) ((deliveries.table.rows.filter (·.due now)).map (·.pk))
  have hlt := (hle.and hnodup).imp fun {a b} h => Nat.lt_of_le_of_ne h.1 h.2
  exact hlt.sublist (List.take_sublist _ _)

theorem mem_deliveryIds {now : Time} {deliveries : Serial Delivery.pk} {id : Nat} (h : id ∈ deliveryIds now deliveries) :
    ∃ d, deliveries.table.get id = some d ∧ d.due now = true := by
  have h := (List.take_sublist _ _).mem h
  rw [List.mem_insertionSort, List.mem_map] at h
  obtain ⟨d, hd, rfl⟩ := h
  obtain ⟨hd, hdue⟩ := List.mem_filter.mp hd
  exact ⟨d, Table.get_of_mem hd, hdue⟩

/-- A due delivery that did not fit into the batch comes after it. -/
theorem lt_of_not_mem_deliveryIds {now : Time} {deliveries : Serial Delivery.pk} {pk : Nat} {d : Delivery}
    (hd : deliveries.table.get pk = some d) (hdue : d.due now = true) (hnot : pk ∉ deliveryIds now deliveries) {id : Nat}
    (hid : id ∈ deliveryIds now deliveries) : id < pk := by
  have hsorted := List.pairwise_insertionSort (· ≤ ·) ((deliveries.table.rows.filter (·.due now)).map (·.pk))
  have hmem : pk ∈ ((deliveries.table.rows.filter (·.due now)).map (·.pk)).insertionSort (· ≤ ·) := by
    rw [List.mem_insertionSort, List.mem_map]
    exact ⟨d, List.mem_filter.mpr ⟨Table.mem_of_get hd, hdue⟩, Table.key_of_get hd⟩
  rw [← List.take_append_drop maxBatchSize (((deliveries.table.rows.filter (·.due now)).map (·.pk)).insertionSort (· ≤ ·))]
    at hmem hsorted
  have hrest := (List.mem_append.mp hmem).resolve_left hnot
  have hle : id ≤ pk := (List.pairwise_append.mp hsorted).2.2 id hid pk hrest
  exact Nat.lt_of_le_of_ne hle fun he => hnot (he ▸ hid)

/-- After the first statement of a pass a delivery is sent, due, or left waiting. -/
theorem releaseAbandoned_cases {now : Time} {deliveries : Serial Delivery.pk} {pk : Nat} {d : Delivery}
    (hd : (releaseAbandoned now deliveries).table.get pk = some d) (hst : d.status ≠ .sent) :
    ∃ d₀, deliveries.table.get pk = some d₀ ∧ d₀.status ≠ .sent ∧ (d.due now = true ∨ d = d₀ ∧ d.waits now = true) := by
  rw [releaseAbandoned_get, Option.map_eq_some_iff] at hd
  obtain ⟨d₀, hd₀, rfl⟩ := hd
  by_cases habandoned : d₀.abandoned now = true
  · rw [if_pos habandoned]
    refine ⟨d₀, hd₀, ?_, .inl (by simp [Delivery.due, Delivery.released])⟩
    simp only [Delivery.abandoned, Bool.and_eq_true, beq_iff_eq] at habandoned
    rw [habandoned.1]
    exact DeliveryStatus.noConfusion
  · rw [if_neg habandoned] at hst ⊢
    refine ⟨d₀, hd₀, hst, ?_⟩
    cases hstatus : d₀.status with
    | pending =>
      by_cases htime : d₀.nextAttemptAt ≤ now
      · exact .inl (by simp [Delivery.due, hstatus, htime])
      · exact .inr ⟨rfl, by simp [Delivery.waits, hstatus, Int.not_le.mp htime]⟩
    | sending => exact .inr ⟨rfl, by simp [Delivery.waits, hstatus, habandoned]⟩
    | sent => exact absurd hstatus hst

theorem OrderInv.start (hinv : OrderInv s) {now : Time}
    (hturn : ∀ d ∈ s.deliveries.table.rows, d.waits now = true →
      ∀ id ∈ deliveryIds now (releaseAbandoned now s.deliveries), id < d.pk) :
    OrderInv { s with
      deliveries := releaseAbandoned now s.deliveries
      pass := some { now := now, ids := deliveryIds now (releaseAbandoned now s.deliveries), current := none } } where
  order := by
    refine ⟨hinv.order.1, fun i hi pk d hd hst => ?_⟩
    obtain ⟨d₀, hd₀, hst₀, -⟩ := releaseAbandoned_cases hd hst
    exact hinv.order.2 i hi pk d₀ hd₀ hst₀
  spent := hinv.spent
  pass := by
    intro p hp
    cases hp
    refine ⟨deliveryIds_sorted now _, fun id hid => ?_, fun id hid => (by cases hid), fun id hid pk d hd hst hnot => ?_⟩
    · obtain ⟨d, hd, hdue⟩ := mem_deliveryIds hid
      simp only [Delivery.due, Bool.and_eq_true, beq_iff_eq] at hdue
      exact ⟨d, hd, hdue.1⟩
    · obtain ⟨d₀, hd₀, -, hdue | ⟨rfl, hwaits⟩⟩ := releaseAbandoned_cases hd hst
      · exact lt_of_not_mem_deliveryIds hd hdue hnot hid
      · have hlt := hturn d (Table.mem_of_get hd₀) hwaits id hid
        rwa [Table.key_of_get hd₀] at hlt

/-- A row rewritten without its being sent changes nobody's place. -/
theorem InOrder.alter {deliveries : Serial Delivery.pk} {sent : List Nat} (id : Nat) (f : Delivery → Delivery) (hf)
    (hopen : ∀ d, deliveries.table.get id = some d → d.status ≠ .sent)
    (h : ∀ i ∈ sent, ∀ pk d, deliveries.table.get pk = some d → d.status ≠ .sent → i < pk) :
    ∀ i ∈ sent, ∀ pk d, (deliveries.alter id f hf).table.get pk = some d → d.status ≠ .sent → i < pk := by
  intro i hi pk d hd hst
  rw [Serial.get_alter] at hd
  split at hd
  · rename_i hpk
    obtain ⟨d₀, hd₀, -⟩ := Option.map_eq_some_iff.mp hd
    exact h i hi pk d₀ hd₀ (hopen d₀ (hpk ▸ hd₀))
  · exact h i hi pk d hd hst

theorem OrderInv.claim (hinv : OrderInv s) {began now : Time} {id : Nat} {ids : List Nat}
    (hpass : s.pass = some ⟨began, id :: ids, none⟩) :
    OrderInv { s with
      deliveries := s.deliveries.alter id (·.claimed now) (Delivery.claimed_pk now)
      pass := some ⟨began, ids, some id⟩ } where
  order := by
    obtain ⟨d, hd, hst⟩ := (hinv.pass _ hpass).taken id (List.mem_cons_self ..)
    refine ⟨hinv.order.1, InOrder.alter id _ _ (fun d' hd' => ?_) hinv.order.2⟩
    rw [hd] at hd'
    cases hd'
    rw [hst]
    exact DeliveryStatus.noConfusion
  spent := hinv.spent
  pass := by
    intro p hp
    cases hp
    have h := hinv.pass _ hpass
    have hsorted : (id :: ids).Pairwise (· < ·) := h.sorted
    obtain ⟨d₀, hd₀, hst₀⟩ := h.taken id (List.mem_cons_self ..)
    refine ⟨hsorted, fun i hi => ?_, fun i hi => ?_, fun i hi pk d hd hst hnot => ?_⟩
    · obtain ⟨d, hd, hst⟩ := h.taken i (List.mem_cons_of_mem _ hi)
      have hne : i ≠ id := Nat.ne_of_gt (List.rel_of_pairwise_cons hsorted hi)
      exact ⟨d, by rw [Serial.get_alter, if_neg hne]; exact hd, hst⟩
    · cases hi
      exact ⟨d₀.claimed now, by rw [Serial.get_alter, if_pos rfl, hd₀]; rfl, rfl⟩
    · have hne : pk ≠ id := fun he => hnot (he ▸ List.mem_cons_self ..)
      rw [Serial.get_alter, if_neg hne] at hd
      exact h.first i hi pk d hd hst hnot

/-- The delivery being sent comes before all others still to be sent. -/
theorem OrderInv.delivered (hinv : OrderInv s) {began now : Time} {id : Nat} {ids : List Nat}
    (hpass : s.pass = some ⟨began, ids, some id⟩) :
    OrderInv { s with
      deliveries := s.deliveries.alter id (·.delivered now) (Delivery.delivered_pk now)
      pass := some ⟨began, ids, none⟩
      sent := s.sent ++ [id] } := by
  have h := hinv.pass _ hpass
  have hsorted : (id :: ids).Pairwise (· < ·) := h.sorted
  have hmem : id ∈ Pass.line ⟨began, ids, some id⟩ := List.mem_cons_self ..
  obtain ⟨d₀, hd₀, hst₀⟩ := h.held id rfl
  have hopen : d₀.status ≠ .sent := by
    rw [hst₀]
    exact DeliveryStatus.noConfusion
  have hother : ∀ {pk d}, (s.deliveries.alter id (·.delivered now) (Delivery.delivered_pk now)).table.get pk = some d →
      d.status ≠ .sent → pk ≠ id ∧ s.deliveries.table.get pk = some d := by
    intro pk d hd hst
    rw [Serial.get_alter] at hd
    split at hd
    · obtain ⟨d', -, rfl⟩ := Option.map_eq_some_iff.mp hd
      exact absurd rfl hst
    · rename_i hne
      exact ⟨hne, hd⟩
  refine ⟨⟨?_, fun i hi pk d hd hst => ?_⟩, fun i hi => ?_, fun p hp => ?_⟩
  · refine List.pairwise_append.mpr ⟨hinv.order.1, List.pairwise_singleton _ _, fun a ha b hb => ?_⟩
    rw [List.mem_singleton.mp hb]
    exact hinv.order.2 a ha id d₀ hd₀ hopen
  · obtain ⟨hne, hd⟩ := hother hd hst
    rcases List.mem_append.mp hi with hi | hi
    · exact hinv.order.2 i hi pk d hd hst
    · rw [List.mem_singleton.mp hi]
      by_cases hline : pk ∈ ids
      · exact List.rel_of_pairwise_cons hsorted hline
      · refine h.first id hmem pk d hd hst fun hin => ?_
        rcases List.mem_cons.mp hin with he | hin
        · exact hne he
        · exact hline hin
  · rcases List.mem_append.mp hi with hi | hi
    · exact hinv.spent i hi
    · rw [List.mem_singleton.mp hi]
      exact s.deliveries.below hd₀
  · cases hp
    refine ⟨hsorted.of_cons, fun i hi => ?_, fun i hi => (by cases hi), fun i hi pk d hd hst hnot => ?_⟩
    · obtain ⟨d, hd, hst⟩ := h.taken i hi
      have hne : i ≠ id := Nat.ne_of_gt (List.rel_of_pairwise_cons hsorted hi)
      exact ⟨d, by rw [Serial.get_alter, if_neg hne]; exact hd, hst⟩
    · obtain ⟨hne, hd⟩ := hother hd hst
      refine h.first i (List.mem_cons_of_mem _ hi) pk d hd hst fun hin => ?_
      rcases List.mem_cons.mp hin with he | hin
      · exact hne he
      · exact hnot hin

theorem OrderInv.failed (hinv : OrderInv s) {began now : Time} {code : String} {id : Nat} {ids : List Nat}
    (hpass : s.pass = some ⟨began, ids, some id⟩) :
    OrderInv { s with
      deliveries := s.deliveries.alter id (·.failed code now) (Delivery.failed_pk code now)
      pass := some ⟨began, [], none⟩ } where
  order := by
    obtain ⟨d, hd, hst⟩ := (hinv.pass _ hpass).held id rfl
    refine ⟨hinv.order.1, InOrder.alter id _ _ (fun d' hd' => ?_) hinv.order.2⟩
    rw [hd] at hd'
    cases hd'
    rw [hst]
    exact DeliveryStatus.noConfusion
  spent := hinv.spent
  pass := by
    intro p hp
    cases hp
    exact ⟨List.Pairwise.nil, fun i hi => absurd hi List.not_mem_nil, fun i hi => (by cases hi),
      fun i hi => absurd hi List.not_mem_nil⟩

/-- The end of a pass deletes sent deliveries only. -/
theorem OrderInv.finish (hinv : OrderInv s) (keep : Delivery → Bool) :
    OrderInv { s with deliveries := s.deliveries.keep keep, pass := none } where
  order := by
    refine ⟨hinv.order.1, fun i hi pk d hd hst => ?_⟩
    rw [Serial.get_keep, Option.filter_eq_some_iff] at hd
    exact hinv.order.2 i hi pk d hd.1 hst
  spent := hinv.spent
  pass := fun p hp => by cases hp

/-- What every step keeps, the start of a pass when it comes in turn. -/
theorem forwarderStep_order {a : ForwarderAction} {s' : Forwarder} (hinv : OrderInv s) (h : forwarderStep s a = some s')
    (hturn : ∀ now, a = .start now → s.pass = none → s.enabled = true → ∀ d ∈ s.deliveries.table.rows, d.waits now = true →
      ∀ id ∈ deliveryIds now (releaseAbandoned now s.deliveries), id < d.pk) : OrderInv s' := by
  cases a with
  | configure enabled =>
    cases h
    exact ⟨hinv.order, hinv.spent, hinv.pass⟩
  | save event now =>
    simp only [forwarderStep] at h
    split at h
    · cases h
      exact hinv
    · cases h
      exact hinv.save event now _
  | start now =>
    simp only [forwarderStep] at h
    split at h
    · cases h
    · rename_i hpass
      split at h
      · cases h
        exact hinv
      · rename_i henabled
        cases h
        exact hinv.start (hturn now rfl (Option.not_isSome_iff_eq_none.mp hpass) (by simpa using henabled))
  | claim now =>
    simp only [forwarderStep] at h
    split at h
    · rename_i began id ids hpass
      obtain ⟨d, hd, hst⟩ := (hinv.pass _ hpass).taken id (List.mem_cons_self ..)
      simp only [hd, hst, bne_self_eq_false, Bool.false_eq_true, if_false] at h
      cases h
      exact hinv.claim hpass
    · cases h
  | delivered now =>
    simp only [forwarderStep] at h
    split at h
    · rename_i began ids id hpass
      cases h
      exact hinv.delivered hpass
    · cases h
  | failed code now =>
    simp only [forwarderStep] at h
    split at h
    · rename_i began ids id hpass
      cases h
      exact hinv.failed hpass
    · cases h
  | finish =>
    simp only [forwarderStep] at h
    split at h
    · cases h
      exact hinv.finish _
    · cases h
  | died =>
    simp only [forwarderStep] at h
    split at h
    · cases h
      exact ⟨hinv.order, hinv.spent, fun p hp => by cases hp⟩
    · cases h

/-! ## What is drawn -/

/-- The deliveries sent, and those that the pass under way has before it. -/
def Forwarder.ahead (s : Forwarder) : List Nat := s.sent ++ (s.pass.map Pass.line).getD []

theorem forwarderStep_ahead {a : ForwarderAction} {s' : Forwarder} (h : forwarderStep s a = some s') {i : Nat}
    (hi : i ∈ s'.ahead) : i ∈ s.ahead ∨ ∃ now, a = .start now ∧ s.pass = none ∧ s.enabled = true ∧
      i ∈ deliveryIds now (releaseAbandoned now s.deliveries) := by
  unfold Forwarder.ahead Pass.line at hi ⊢
  cases a with
  | configure enabled =>
    cases h
    exact .inl hi
  | save event now =>
    simp only [forwarderStep] at h
    split at h <;> (cases h; exact .inl hi)
  | start now =>
    simp only [forwarderStep] at h
    split at h
    · cases h
    · rename_i hpass
      split at h
      · cases h
        exact .inl hi
      · rename_i henabled
        cases h
        have hnone := Option.not_isSome_iff_eq_none.mp hpass
        rcases List.mem_append.mp hi with hi | hi
        · exact .inl (List.mem_append_left _ hi)
        · exact .inr ⟨now, rfl, hnone, by simpa using henabled, by simpa using hi⟩
  | claim now =>
    simp only [forwarderStep] at h
    split at h
    · rename_i began id ids hpass
      split at h
      · split at h <;> (cases h; exact .inl (by simp [hpass] at hi ⊢; tauto))
      · cases h
        exact .inl (by simp [hpass] at hi ⊢; tauto)
    · cases h
  | delivered now =>
    simp only [forwarderStep] at h
    split at h
    · rename_i began ids id hpass
      cases h
      exact .inl (by simp [hpass] at hi ⊢; tauto)
    · cases h
  | failed code now =>
    simp only [forwarderStep] at h
    split at h
    · rename_i began ids id hpass
      cases h
      exact .inl (by simp [hpass] at hi ⊢; tauto)
    · cases h
  | finish =>
    simp only [forwarderStep] at h
    split at h
    · cases h
      exact .inl (by simp at hi ⊢; tauto)
    · cases h
  | died =>
    simp only [forwarderStep] at h
    split at h
    · cases h
      exact .inl (by simp at hi ⊢; tauto)
    · cases h

/-- A key that was taken and has no row keeps none. -/
theorem forwarderStep_taken {a : ForwarderAction} {s' : Forwarder} (h : forwarderStep s a = some s') {pk : Nat}
    (hpk : pk < s.deliveries.next) (hnone : s.deliveries.table.get pk = none) :
    pk < s'.deliveries.next ∧ s'.deliveries.table.get pk = none := by
  by_cases hsave : ∃ event now, a = .save event now
  · obtain ⟨event, now, rfl⟩ := hsave
    simp only [forwarderStep] at h
    split at h
    · cases h
      exact ⟨hpk, hnone⟩
    · cases h
      refine ⟨Nat.lt_succ_of_lt hpk, ?_⟩
      rw [enqueueAuditEvent, Serial.get_insert, if_neg (Nat.ne_of_lt hpk)]
      exact hnone
  · obtain ⟨-, hnext, hrows⟩ := forwarderStep_rewrites h fun event now ha => hsave ⟨event, now, ha⟩
    refine ⟨hnext ▸ hpk, ?_⟩
    by_contra hsome
    obtain ⟨d', hd'⟩ := Option.ne_none_iff_exists'.mp hsome
    obtain ⟨d, hd, -⟩ := hrows pk d' hd'
    rw [hnone] at hd
    cases hd

end

/-- What is drawn has an id of its own, with no row yet. -/
structure Drawn (s : Outbox) : Prop where
  taken : ∀ d ∈ s.drawn, d.2.pk < s.forwarder.deliveries.next ∧ s.forwarder.deliveries.table.get d.2.pk = none
  pending : ∀ d ∈ s.drawn, d.2.status = .pending
  distinct : (s.drawn.map (·.2.pk)).Nodup

/-- What is drawn comes after all that is sent or under way. -/
structure OutboxInv (s : Outbox) : Prop where
  order : OrderInv s.forwarder
  drawn : Drawn s
  behind : ∀ i ∈ s.forwarder.ahead, ∀ d ∈ s.drawn, i < d.2.pk

theorem OutboxInv.init : OutboxInv Outbox.init where
  order := .init
  drawn := ⟨by simp [Outbox.init], by simp [Outbox.init], List.nodup_nil⟩
  behind := by simp [Outbox.init]

section
variable {s s' : Outbox}

/-- A step of the forwarder. -/
theorem outboxStep_forwarder {a : ForwarderAction} (h : outboxStep s (.forwarder a) = some s') :
    forwarderStep s.forwarder a = some s'.forwarder ∧ s'.drawn = s.drawn := by
  have hmap : ∀ {o : Option Forwarder}, (o.map fun f => { s with forwarder := f }) = some s' →
      o = some s'.forwarder ∧ s'.drawn = s.drawn := by
    intro o ho
    obtain ⟨f, rfl, rfl⟩ := Option.map_eq_some_iff.mp ho
    exact ⟨rfl, rfl⟩
  cases a with
  | save event now =>
    simp only [outboxStep] at h
    split at h
    · cases h
    · exact hmap h
  | configure | start | claim | delivered | failed | finish | died => exact hmap h

theorem mem_own {transaction : Nat} {d : Delivery} : d ∈ s.own transaction ↔ (transaction, d) ∈ s.drawn := by
  unfold Outbox.own
  simp only [List.mem_map, List.mem_filter, beq_iff_eq]
  constructor
  · intro h
    obtain ⟨⟨t, d⟩, ⟨hmem, rfl⟩, rfl⟩ := h
    exact hmem
  · intro h
    exact ⟨(transaction, d), ⟨h, rfl⟩, rfl⟩

theorem Drawn.own_distinct (h : Drawn s) (transaction : Nat) : ((s.own transaction).map (·.pk)).Nodup := by
  unfold Outbox.own
  rw [List.map_map]
  exact h.distinct.sublist (List.filter_sublist.map _)

/-- Rows that have a key already keep it when others are placed. -/
theorem Drawn.get_commit (h : Drawn s) (transaction : Nat) {pk : Nat} {d : Delivery}
    (hd : s.forwarder.deliveries.table.get pk = some d) :
    ((s.own transaction).foldl Serial.place s.forwarder.deliveries).table.get pk = some d := by
  rw [Serial.get_foldl_place_of_not_mem, hd]
  intro hmem
  obtain ⟨d', hd', rfl⟩ := List.mem_map.mp hmem
  rw [(h.taken _ (mem_own.mp hd')).2] at hd
  cases hd

theorem outboxStep_drawn (hs : Drawn s) {a : OutboxAction} (h : outboxStep s a = some s') : Drawn s' := by
  cases a with
  | forwarder a =>
    obtain ⟨hstep, hdrawn⟩ := outboxStep_forwarder h
    refine ⟨fun d hd => ?_, fun d hd => ?_, ?_⟩
    · obtain ⟨hpk, hnone⟩ := hs.taken d (hdrawn ▸ hd)
      exact forwarderStep_taken hstep hpk hnone
    · exact hs.pending d (hdrawn ▸ hd)
    · rw [hdrawn]
      exact hs.distinct
  | draw transaction event now =>
    simp only [outboxStep] at h
    split at h
    · cases h
      exact hs
    · split at h
      · cases h
      · cases h
        refine ⟨fun d hd => ?_, fun d hd => ?_, ?_⟩
        · rcases List.mem_append.mp hd with hd | hd
          · exact ⟨Nat.lt_succ_of_lt (hs.taken d hd).1, (hs.taken d hd).2⟩
          · rw [List.mem_singleton.mp hd]
            exact ⟨Nat.lt_succ_self _, Serial.get_next _⟩
        · rcases List.mem_append.mp hd with hd | hd
          · exact hs.pending d hd
          · rw [List.mem_singleton.mp hd]
            rfl
        · rw [List.map_append, List.nodup_append]
          refine ⟨hs.distinct, List.nodup_singleton _, fun a ha b hb => ?_⟩
          obtain ⟨d, hd, rfl⟩ := List.mem_map.mp ha
          rw [List.map_singleton, List.mem_singleton] at hb
          rw [hb]
          exact Nat.ne_of_lt (hs.taken d hd).1
  | commit transaction =>
    cases h
    refine ⟨fun d hd => ?_, fun d hd => hs.pending d (List.mem_of_mem_filter hd), hs.distinct.sublist (List.filter_sublist.map _)⟩
    obtain ⟨hd, hother⟩ := List.mem_filter.mp hd
    obtain ⟨hpk, hnone⟩ := hs.taken d hd
    refine ⟨Nat.lt_of_lt_of_le hpk (Serial.le_next_foldl_place _), ?_⟩
    rw [Serial.get_foldl_place_of_not_mem, hnone]
    intro hmem
    obtain ⟨d', hd', hpk'⟩ := List.mem_map.mp hmem
    have hsame : (transaction, d') = d := List.inj_on_of_nodup_map hs.distinct (mem_own.mp hd') hd hpk'
    rw [← hsame] at hother
    simp at hother
  | rollback transaction =>
    cases h
    exact ⟨fun d hd => hs.taken d (List.mem_of_mem_filter hd), fun d hd => hs.pending d (List.mem_of_mem_filter hd),
      hs.distinct.sublist (List.filter_sublist.map _)⟩

/-- An id taken without a row changes nobody's place. -/
theorem OrderInv.reserve {f : Forwarder} (h : OrderInv f) : OrderInv { f with deliveries := f.deliveries.reserve } where
  order := h.order
  spent i hi := Nat.lt_succ_of_lt (h.spent i hi)
  pass p hp := ⟨(h.pass p hp).sorted, (h.pass p hp).taken, (h.pass p hp).held, (h.pass p hp).first⟩

/-- What a transaction has drawn comes after all that is sent or under way, and so it may be shown. -/
theorem OutboxInv.commit (hs : OutboxInv s) (transaction : Nat) (created : List Delivery) :
    OrderInv { s.forwarder with
      deliveries := (s.own transaction).foldl Serial.place s.forwarder.deliveries
      created := created } where
  order := by
    refine ⟨hs.order.order.1, fun i hi pk d hd hst => ?_⟩
    rcases Serial.get_foldl_place_cases hd with ⟨hmem, rfl⟩ | hd
    · exact hs.behind i (List.mem_append_left _ hi) _ (mem_own.mp hmem)
    · exact hs.order.order.2 i hi pk d hd hst
  spent i hi := Nat.lt_of_lt_of_le (hs.order.spent i hi) (Serial.le_next_foldl_place _)
  pass := by
    intro p hp
    have h := hs.order.pass p hp
    have hahead : ∀ id ∈ p.line, id ∈ s.forwarder.ahead := by
      intro id hid
      have hp : s.forwarder.pass = some p := hp
      unfold Forwarder.ahead
      rw [hp]
      exact List.mem_append_right _ hid
    refine ⟨h.sorted, fun id hid => ?_, fun id hid => ?_, fun id hid pk d hd hst hnot => ?_⟩
    · obtain ⟨d, hd, hst⟩ := h.taken id hid
      exact ⟨d, hs.drawn.get_commit transaction hd, hst⟩
    · obtain ⟨d, hd, hst⟩ := h.held id hid
      exact ⟨d, hs.drawn.get_commit transaction hd, hst⟩
    · rcases Serial.get_foldl_place_cases hd with ⟨hmem, rfl⟩ | hd
      · exact hs.behind id (hahead id hid) _ (mem_own.mp hmem)
      · exact h.first id hid pk d hd hst hnot

theorem ahead_lt_next {f : Forwarder} (h : OrderInv f) : ∀ i ∈ f.ahead, i < f.deliveries.next := by
  intro i hi
  rcases List.mem_append.mp hi with hi | hi
  · exact h.spent i hi
  · cases hpass : f.pass with
    | none => simp [hpass] at hi
    | some p => exact (h.pass p hpass).lt_next (by simpa [hpass] using hi)

/-- What every step keeps, the start of a pass when it comes in turn. -/
theorem outboxStep_order (hs : OutboxInv s) {a : OutboxAction} (h : outboxStep s a = some s') (hturn : StartsInTurn s a s') :
    OutboxInv s' := by
  have hdrawn := outboxStep_drawn hs.drawn h
  cases a with
  | forwarder a =>
    obtain ⟨hstep, hkept⟩ := outboxStep_forwarder h
    have hbehind : ∀ now, a = .start now → s.forwarder.pass = none → s.forwarder.enabled = true → ∀ d ∈ s.leftBehind now,
        ∀ id ∈ deliveryIds now (releaseAbandoned now s.forwarder.deliveries), id < d.pk := by
      rintro now rfl
      exact hturn
    refine ⟨forwarderStep_order hs.order hstep fun now ha hpass hon d hd hwaits => ?_, hdrawn, fun i hi d hd => ?_⟩
    · exact hbehind now ha hpass hon d (List.mem_append_left _ (List.mem_filter.mpr ⟨hd, hwaits⟩))
    · rw [hkept] at hd
      rcases forwarderStep_ahead hstep hi with hi | ⟨now, ha, hpass, hon, hid⟩
      · exact hs.behind i hi d hd
      · exact hbehind now ha hpass hon d.2 (List.mem_append_right _ (List.mem_map_of_mem hd)) i hid
  | draw transaction event now =>
    simp only [outboxStep] at h
    split at h
    · cases h
      exact hs
    · split at h
      · cases h
      · cases h
        refine ⟨hs.order.reserve, hdrawn, fun i hi d hd => ?_⟩
        rcases List.mem_append.mp hd with hd | hd
        · exact hs.behind i hi d hd
        · rw [List.mem_singleton.mp hd]
          exact ahead_lt_next hs.order i hi
  | commit transaction =>
    cases h
    exact ⟨hs.commit transaction _, hdrawn, fun i hi d hd => hs.behind i hi d (List.mem_of_mem_filter hd)⟩
  | rollback transaction =>
    cases h
    exact ⟨hs.order, hdrawn, fun i hi d hd => hs.behind i hi d (List.mem_of_mem_filter hd)⟩

end

/-! ## A pass that starts out of turn -/

/-- Claim and send, over and over. -/
def sendAll (now : Time) : Nat → List ForwarderAction
  | 0 => []
  | n + 1 => .claim now :: .delivered now :: sendAll now n

/-- A pass whose sends all succeed comes to each of its deliveries, and leaves the rest alone. -/
theorem sendAll_reaches (now : Time) {began : Time} {id : Nat} {ids rest : List Nat} {f : Forwarder}
    (hpass : f.pass = some ⟨began, ids ++ id :: rest, none⟩) (hnodup : (ids ++ id :: rest).Nodup)
    (htaken : ∀ i ∈ ids ++ id :: rest, ∃ d, f.deliveries.table.get i = some d ∧ d.status = .pending) :
    ∃ f', run forwarderStep f (sendAll now (ids.length + 1)) = some f' ∧ id ∈ f'.sent ∧
      ∀ pk ∉ ids ++ id :: rest, f'.deliveries.table.get pk = f.deliveries.table.get pk := by
  have hstep : ∀ {i : Nat} {line : List Nat} {f : Forwarder}, f.pass = some ⟨began, i :: line, none⟩ →
      (∃ d, f.deliveries.table.get i = some d ∧ d.status = .pending) →
      ∃ f₁ f₂, forwarderStep f (.claim now) = some f₁ ∧ forwarderStep f₁ (.delivered now) = some f₂ ∧
        f₂.pass = some ⟨began, line, none⟩ ∧ f₂.sent = f.sent ++ [i] ∧
        ∀ k, k ≠ i → f₂.deliveries.table.get k = f.deliveries.table.get k := by
    intro i line f hpass htaken
    obtain ⟨d, hd, hst⟩ := htaken
    have hclaim : forwarderStep f (.claim now) = some { f with
        deliveries := f.deliveries.alter i (·.claimed now) (Delivery.claimed_pk now)
        pass := some ⟨began, line, some i⟩ } := by
      simp only [forwarderStep, hpass, hd, hst, bne_self_eq_false, Bool.false_eq_true, if_false]
    refine ⟨_, _, hclaim, rfl, rfl, rfl, fun k hk => ?_⟩
    simp only [Serial.get_alter, if_neg hk]
  induction ids generalizing f with
  | nil =>
    obtain ⟨f₁, f₂, h₁, h₂, -, hsent, hkept⟩ := hstep hpass (htaken id (List.mem_cons_self ..))
    refine ⟨f₂, run_cons.mpr ⟨f₁, h₁, run_cons.mpr ⟨f₂, h₂, rfl⟩⟩, ?_, fun pk hpk => ?_⟩
    · rw [hsent]
      exact List.mem_append_right _ (List.mem_singleton_self id)
    · exact hkept pk fun he => hpk (he ▸ List.mem_cons_self ..)
  | cons i ids ih =>
    obtain ⟨f₁, f₂, h₁, h₂, hpass₂, -, hkept⟩ := hstep hpass (htaken i (List.mem_cons_self ..))
    obtain ⟨hi, hnodup⟩ := List.nodup_cons.mp hnodup
    obtain ⟨f', hrun, hsent, hget⟩ := ih hpass₂ hnodup fun j hj => by
      rw [hkept j fun he => hi (he ▸ hj)]
      exact htaken j (List.mem_cons_of_mem _ hj)
    refine ⟨f', run_cons.mpr ⟨f₁, h₁, run_cons.mpr ⟨f₂, h₂, hrun⟩⟩, hsent, fun pk hpk => ?_⟩
    rw [hget pk fun hin => hpk (List.mem_cons_of_mem _ hin), hkept pk fun he => hpk (he ▸ List.mem_cons_self ..)]

/-- A started pass whose sends all succeed sends any delivery it takes, and leaves those it does not take alone. -/
theorem start_sends {f : Forwarder} {now : Time} (hpass : f.pass = none) (henabled : f.enabled = true) {id : Nat}
    (hid : id ∈ deliveryIds now (releaseAbandoned now f.deliveries)) :
    ∃ n f', run forwarderStep f (.start now :: sendAll now n) = some f' ∧ id ∈ f'.sent ∧
      ∀ pk ∉ deliveryIds now (releaseAbandoned now f.deliveries),
        f'.deliveries.table.get pk = (releaseAbandoned now f.deliveries).table.get pk := by
  have hstart : forwarderStep f (.start now) = some { f with
      deliveries := releaseAbandoned now f.deliveries
      pass := some { now := now, ids := deliveryIds now (releaseAbandoned now f.deliveries), current := none } } := by
    simp only [forwarderStep, hpass, Option.isSome_none, Bool.false_eq_true, if_false, henabled, Bool.not_true]
  obtain ⟨ids, rest, hline⟩ := List.append_of_mem hid
  obtain ⟨f', hrun, hsent, hget⟩ := sendAll_reaches (f := { f with
      deliveries := releaseAbandoned now f.deliveries
      pass := some { now := now, ids := deliveryIds now (releaseAbandoned now f.deliveries), current := none } }) now
    (by rw [hline]) (hline ▸ (deliveryIds_sorted now _).imp fun {a b} h => Nat.ne_of_lt h) fun i hi => by
      obtain ⟨d, hd, hdue⟩ := mem_deliveryIds (hline ▸ hi)
      simp only [Delivery.due, Bool.and_eq_true, beq_iff_eq] at hdue
      exact ⟨d, hd, hdue.1⟩
  exact ⟨ids.length + 1, f', run_cons.mpr ⟨_, hstart, hrun⟩, hsent, fun pk hpk => hget pk (hline ▸ hpk)⟩

/-- Steps of the forwarder that save nothing can be taken whatever is drawn. -/
theorem run_forwarder {as : List ForwarderAction} (hsave : ∀ a ∈ as, ∀ event now, a ≠ .save event now) {f f' : Forwarder}
    (h : run forwarderStep f as = some f') (drawn : List (Nat × Delivery)) :
    run outboxStep ⟨f, drawn⟩ (as.map .forwarder) = some ⟨f', drawn⟩ := by
  induction as generalizing f with
  | nil =>
    cases h
    rfl
  | cons a as ih =>
    obtain ⟨f₁, h₁, h₂⟩ := run_cons.mp h
    refine run_cons.mpr ⟨⟨f₁, drawn⟩, ?_, ih (fun b hb => hsave b (List.mem_cons_of_mem _ hb)) h₂⟩
    have hstep : outboxStep ⟨f, drawn⟩ (.forwarder a) = (forwarderStep f a).map fun f => ⟨f, drawn⟩ := by
      cases a with
      | save event now => exact absurd rfl (hsave _ (List.mem_cons_self ..) event now)
      | configure | start | claim | delivered | failed | finish | died => rfl
    rw [hstep, h₁]
    rfl

theorem sendAll_saves_nothing (now : Time) (n : Nat) : ∀ a ∈ sendAll now n, ∀ event time, a ≠ .save event time := by
  induction n with
  | zero => simp [sendAll]
  | succ n ih =>
    intro a ha event time
    rcases List.mem_cons.mp ha with rfl | ha
    · exact ForwarderAction.noConfusion
    · rcases List.mem_cons.mp ha with rfl | ha
      · exact ForwarderAction.noConfusion
      · exact ih a ha event time

/-- What a pass leaves behind, it does not take. -/
theorem leftBehind_not_taken {s : Outbox} (hs : Drawn s) {now : Time} {d : Delivery} (hd : d ∈ s.leftBehind now) :
    d.pk ∉ deliveryIds now (releaseAbandoned now s.forwarder.deliveries) ∧
      ((releaseAbandoned now s.forwarder.deliveries).table.get d.pk = some d ∧ d.status ≠ .sent ∨
        ∃ transaction, (transaction, d) ∈ s.drawn) := by
  rcases List.mem_append.mp hd with hd | hd
  · obtain ⟨hrow, hwaits⟩ := List.mem_filter.mp hd
    have hget : s.forwarder.deliveries.table.get d.pk = some d := Table.get_of_mem hrow
    have hnot : ¬ d.abandoned now = true := by
      intro ha
      cases hst : d.status <;> simp_all [Delivery.waits, Delivery.abandoned]
    have hkept : (releaseAbandoned now s.forwarder.deliveries).table.get d.pk = some d := by
      rw [releaseAbandoned_get, hget, Option.map_some, if_neg hnot]
    refine ⟨fun hin => ?_, .inl ⟨hkept, fun hst => by simp [Delivery.waits, hst] at hwaits⟩⟩
    obtain ⟨d', hd', hdue⟩ := mem_deliveryIds hin
    rw [hkept] at hd'
    cases hd'
    cases hst : d.status <;> simp only [Delivery.waits, Delivery.due, hst] at hwaits hdue
    · simp only [beq_self_eq_true, Bool.true_and, decide_eq_true_eq] at hwaits hdue
      exact absurd hdue (Int.not_le.mpr hwaits)
    · cases hdue
    · cases hdue
  · obtain ⟨⟨transaction, d⟩, hmem, rfl⟩ := List.mem_map.mp hd
    refine ⟨fun hin => ?_, .inr ⟨transaction, hmem⟩⟩
    obtain ⟨d', hd', -⟩ := mem_deliveryIds hin
    rw [releaseAbandoned_get, (hs.taken _ hmem).2] at hd'
    cases hd'

/-- A pass that starts out of turn and meets no failure sends a delivery ahead of one with a smaller id,
which is to be seen once what was drawn is committed. -/
theorem outOfTurn_overtakes {s s' : Outbox} (hs : Drawn s) {now : Time}
    (hturn : ¬ StartsInTurn s (.forwarder (.start now)) s') :
    ∃ n transaction s'', run outboxStep s ((ForwarderAction.start now :: sendAll now n).map .forwarder ++ [.commit transaction]) = some s'' ∧
      ¬ InOrder s''.forwarder := by
  simp only [StartsInTurn, Classical.not_forall, Nat.not_lt] at hturn
  obtain ⟨hpass, henabled, d, hleft, id, hid, hle⟩ := hturn
  obtain ⟨hout, hstands⟩ := leftBehind_not_taken hs hleft
  obtain ⟨n, f, hrun, hsent, hget⟩ := start_sends hpass henabled hid
  have hsaves : ∀ a ∈ ForwarderAction.start now :: sendAll now n, ∀ event time, a ≠ .save event time := by
    intro a ha event time
    rcases List.mem_cons.mp ha with rfl | ha
    · exact ForwarderAction.noConfusion
    · exact sendAll_saves_nothing now n a ha event time
  have hsystem := run_forwarder hsaves hrun s.drawn
  have hdrawn : Drawn (Outbox.mk f s.drawn) := run_inv (fun hs => outboxStep_drawn hs) hs hsystem
  -- after the commit the delivery is there and not sent
  obtain ⟨transaction, hseen, hopen⟩ : ∃ transaction,
      (((Outbox.mk f s.drawn).own transaction).foldl Serial.place f.deliveries).table.get d.pk = some d ∧ d.status ≠ .sent := by
    rcases hstands with ⟨hrow, hopen⟩ | ⟨transaction, hmem⟩
    · exact ⟨0, hdrawn.get_commit 0 ((hget d.pk hout).trans hrow), hopen⟩
    · refine ⟨transaction, Serial.get_foldl_place_of_mem (hdrawn.own_distinct transaction) (mem_own.mpr hmem), ?_⟩
      rw [hdrawn.pending _ hmem]
      exact DeliveryStatus.noConfusion
  refine ⟨n, transaction, _, run_trans hsystem rfl, fun hinorder => ?_⟩
  have hlt := hinorder.2 id hsent d.pk d hseen hopen
  omega

/-- **Events leave in order where no pass starts out of turn.** In every run whose passes all
start with no delivery left behind, waiting or drawn in an open transaction, that is ahead of one
they take, the deliveries reach SENT in the order of their ids and none overtakes one still to be
sent. Less does not do: from any state reached where a pass starts otherwise, the pass whose sends
all succeed breaks the order once the open transaction commits. -/
theorem sentInOrder_of_startsInTurn (ls : List OutboxAction) {ls₀ : List OutboxAction} {s s' : Outbox}
    (hs : run outboxStep .init ls₀ = some s) (now : Time) :
    (Along outboxStep StartsInTurn .init ls → Always outboxStep (fun s => InOrder s.forwarder) .init ls) ∧
      (¬ StartsInTurn s (.forwarder (.start now)) s' → ∃ n transaction s'',
        run outboxStep s ((ForwarderAction.start now :: sendAll now n).map .forwarder ++ [.commit transaction]) = some s'' ∧
          ¬ InOrder s''.forwarder) := by
  refine ⟨fun h => ?_, outOfTurn_overtakes (run_inv (fun hs => outboxStep_drawn hs) OutboxInv.init.drawn hs)⟩
  have halways := h.always (I := OutboxInv) (fun hs h hturn => outboxStep_order hs h hturn) OutboxInv.init
  exact fun ls₁ ls₂ s' he hrun => (halways ls₁ ls₂ s' he hrun).order.order

/-- The first delivery fails at time 10 and waits until 25; the pass at 25 takes it before
the one drawn at 11 in a transaction that commits at 12. -/
def waitedOut : List OutboxAction :=
  [.forwarder (.save (loginEvent 1) 0), .forwarder (.start 10), .forwarder (.claim 10),
    .forwarder (.failed "connection_refused" 10), .forwarder .finish, .draw 7 (loginEvent 2) 11, .commit 7,
    .forwarder (.start 25), .forwarder (.claim 25), .forwarder (.delivered 25), .forwarder (.claim 26),
    .forwarder (.delivered 26), .forwarder .finish]

theorem sentInOrder_waitedOut : Always outboxStep (fun s => InOrder s.forwarder) .init waitedOut :=
  (@sentInOrder_of_startsInTurn waitedOut [] _ .init rfl 0).1 (by decide +kernel)

/-- The same with autocommit, and a pass at 20, which finds only the second delivery due. -/
def overtaken : List OutboxAction :=
  ([.save (loginEvent 1) 0, .start 10, .claim 10, .failed "connection_refused" 10, .finish, .save (loginEvent 2) 12,
    .start 20, .claim 20, .delivered 20] : List ForwarderAction).map .forwarder

theorem backOff_overtaken : ¬ ∀ ls, Always outboxStep (fun s => InOrder s.forwarder) .init ls := by
  intro h
  have horder := h overtaken overtaken [] _ (List.append_nil _).symm rfl
  have hlt := horder.2 2 (by decide +kernel) 1 _ rfl (by decide +kernel)
  exact absurd hlt (by decide)

end PveHelper.Forwarding
