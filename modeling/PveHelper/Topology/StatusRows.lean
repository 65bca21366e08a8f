/-
Which `cluster/status` bodies `normalize_cluster_status` of
`core/services/cluster_membership.py` takes, said row by row, and what it makes
of one. Neither looks at the order of the rows.
-/
import Mathlib.Data.List.Perm.Basic
import Mathlib.Data.String.Basic
import PveHelper.Lib.Atomic
import PveHelper.Topology.Membership

namespace PveHelper.Topology

open Lib

/-! ## One node row -/

def textField (row : Fields) (key : String) : String :=
  match Json.lookup row key with
  | some (.str s) => s
  | _ => ""

def intField (row : Fields) (key : String) : Int :=
  match Json.lookup row key with
  | some (.int n) => n
  | _ => 0

/-- The field is the integer 0 or the integer 1. -/
def Binary (row : Fields) (key : String) : Prop :=
  Json.lookup row key = some (.int 0) ∨ Json.lookup row key = some (.int 1)

/-- The field is there and is the integer 1. -/
def isOne (row : Fields) (key : String) : Bool := intField row key == 1

def rowName (row : Fields) : String := Text.strip (textField row "name")

/-- A row that names one node. -/
structure NodeRow (row : Fields) : Prop where
  name : ∃ s, Json.lookup row "name" = some (.str s) ∧ Text.strip s ≠ ""
  noColon : ':' ∉ (rowName row).toList
  nodeid : ∃ n : Nat, Json.lookup row "nodeid" = some (.int n)
  online : Binary row "online"
  localFlag : Json.lookup row "local" = none ∨ Binary row "local"
  ip : Json.lookup row "ip" = none ∨ ∃ s, Json.lookup row "ip" = some (.str s)

/-- The node a node row names, with its `local` flag. -/
def rowNode (row : Fields) : MembershipNodeObservation × Bool :=
  (⟨rowName row, (intField row "nodeid").toNat, isOne row "online", textField row "ip"⟩, isOne row "local")

theorem requiredStr_ok {row : Fields} {key s : String} {nonempty : Bool} :
    requiredStr row key nonempty = .ok s ↔
      ∃ t, Json.lookup row key = some (.str t) ∧ (nonempty = true → Text.strip t ≠ "") ∧
        s = if nonempty then Text.strip t else t := by
  unfold requiredStr
  cases h : Json.lookup row key with
  | none => simp
  | some value =>
    cases value with
    | str t =>
      simp only [Bool.and_eq_true, decide_eq_true_eq, Option.some.injEq, Json.str.injEq]
      by_cases hn : nonempty = true ∧ Text.strip t = ""
      · rw [if_pos hn]
        simp only [reduceCtorEq, false_iff, not_exists, not_and]
        rintro t' rfl ht
        exact absurd hn.2 (ht hn.1)
      · rw [if_neg hn, Except.ok.injEq]
        constructor
        · rintro rfl
          exact ⟨t, rfl, fun h₁ h₂ => hn ⟨h₁, h₂⟩, rfl⟩
        · rintro ⟨t', rfl, _, rfl⟩
          rfl
    | _ => simp

theorem requiredInt_ok {row : Fields} {key : String} {minimum n : Nat} :
    requiredInt row key minimum = .ok n ↔ Json.lookup row key = some (.int n) ∧ minimum ≤ n := by
  unfold requiredInt
  cases h : Json.lookup row key with
  | none => simp
  | some value =>
    cases value with
    | int k =>
      simp only [Option.some.injEq, Json.int.injEq]
      by_cases hk : k < minimum
      · rw [if_pos hk]
        simp only [reduceCtorEq, false_iff, not_and]
        omega
      · rw [if_neg hk, Except.ok.injEq]
        omega
    | _ => simp

theorem binaryInt_ok {row : Fields} {key : String} {b : Bool} :
    binaryInt row key = .ok b ↔ Binary row key ∧ b = isOne row key := by
  have hread : ∀ n : Nat, Json.lookup row key = some (.int n) → requiredInt row key 0 = .ok n := by
    intro n hn
    exact requiredInt_ok.mpr ⟨hn, by omega⟩
  unfold binaryInt Binary isOne intField
  simp only [bind, Except.bind]
  cases h : requiredInt row key 0 with
  | error e =>
    simp only [reduceCtorEq, false_iff, not_and]
    rintro (hz | ho)
    · rw [hread 0 hz] at h
      cases h
    · rw [hread 1 ho] at h
      cases h
  | ok n =>
    rw [(requiredInt_ok.mp h).1]
    simp only [Option.some.injEq, Json.int.injEq]
    rcases n with _ | _ | n
    · cases b <;> simp
    · cases b <;> simp
    · have hone : ((n + 1 + 1 : Nat) : Int) ≠ 1 := by omega
      have hzero : ((n + 1 + 1 : Nat) : Int) ≠ 0 := by omega
      simp only [hzero, hone, or_self, false_and, iff_false]
      simp

theorem optionalBinaryInt_ok {row : Fields} {key : String} {b : Bool} :
    optionalBinaryInt row key = .ok b ↔ (Json.lookup row key = none ∨ Binary row key) ∧ b = isOne row key := by
  unfold optionalBinaryInt
  cases h : Json.lookup row key with
  | none =>
    have hone : isOne row key = false := by simp [isOne, intField, h]
    cases b <;> simp [hone]
  | some value => simpa using binaryInt_ok

/-- A row is read exactly when it names one node that no earlier row named. -/
theorem readNodeRow_ok {row : Fields} {names : List String} {x : MembershipNodeObservation × Bool} :
    readNodeRow row names = .ok x ↔ NodeRow row ∧ rowName row ∉ names ∧ x = rowNode row := by
  unfold readNodeRow
  simp only [except_bind_ok]
  constructor
  · rintro ⟨name, hname, h⟩
    obtain ⟨s, hs, hblank, hstrip⟩ := requiredStr_ok.mp hname
    have hrowName : rowName row = Text.strip s := by simp [rowName, textField, hs]
    obtain rfl : name = rowName row := by rw [hstrip, hrowName, if_pos rfl]
    split at h
    · simp only [except_bind_ok, reduceCtorEq, false_and, exists_false] at h
    · rename_i hcheck
      simp only [Bool.or_eq_true, List.contains_eq_mem, decide_eq_true_eq, not_or] at hcheck
      -- the address, and the rest of the row whether or not there is one
      obtain ⟨address, haddress, nodeid, hnodeid, online, honline, isLocal, hlocal, hx⟩ :
          ∃ address, ((Json.lookup row "ip" = none ∧ address = "") ∨ Json.lookup row "ip" = some (.str address)) ∧
            ∃ nodeid, requiredInt row "nodeid" 0 = .ok nodeid ∧ ∃ online, binaryInt row "online" = .ok online ∧
            ∃ isLocal, optionalBinaryInt row "local" = .ok isLocal ∧
              (⟨rowName row, nodeid, online, address⟩, isLocal) = x := by
        split at h
        · simp only [except_bind_ok, Except.ok.injEq] at h
          obtain ⟨address, hread, h⟩ := h
          obtain ⟨t, ht, _, ht'⟩ := requiredStr_ok.mp hread
          obtain rfl : address = t := ht'
          exact ⟨address, .inr ht, h⟩
        · rename_i hip
          simp only [except_bind_ok, Except.ok.injEq] at h
          obtain ⟨address, rfl, h⟩ := h
          exact ⟨"", .inl ⟨by simpa using hip, rfl⟩, h⟩
      obtain ⟨hid, _⟩ := requiredInt_ok.mp hnodeid
      obtain ⟨hbinary, rfl⟩ := binaryInt_ok.mp honline
      obtain ⟨hflag, rfl⟩ := optionalBinaryInt_ok.mp hlocal
      refine ⟨⟨⟨s, hs, hblank rfl⟩, hcheck.1, ⟨nodeid, hid⟩, hbinary, hflag, ?_⟩, hcheck.2, ?_⟩
      · rcases haddress with ⟨hip, _⟩ | hip
        · exact .inl hip
        · exact .inr ⟨address, hip⟩
      · have htext : textField row "ip" = address := by
          rcases haddress with ⟨hip, rfl⟩ | hip
          · simp [textField, hip]
          · simp [textField, hip]
        rw [← hx, rowNode, htext, intField, hid]
        rfl
  · rintro ⟨hrow, hfresh, rfl⟩
    obtain ⟨s, hs, hblank⟩ := hrow.name
    have hname : requiredStr row "name" true = .ok (rowName row) :=
      requiredStr_ok.mpr ⟨s, hs, fun _ => hblank, by simp [rowName, textField, hs]⟩
    obtain ⟨nodeid, hid⟩ := hrow.nodeid
    have hnodeid : requiredInt row "nodeid" 0 = .ok (intField row "nodeid").toNat :=
      requiredInt_ok.mpr ⟨by simp [intField, hid], by omega⟩
    have honline := binaryInt_ok.mpr ⟨hrow.online, rfl⟩
    have hlocal := optionalBinaryInt_ok.mpr ⟨hrow.localFlag, rfl⟩
    refine ⟨rowName row, hname, ?_⟩
    rw [if_neg (by simp [hrow.noColon, hfresh])]
    rcases hrow.ip with hip | ⟨address, hip⟩
    · rw [if_neg (by simp [hip])]
      simp only [except_bind_ok, hnodeid, honline, hlocal, Except.ok.injEq, exists_eq_left']
      simp [rowNode, textField, hip]
    · have haddress : requiredStr row "ip" false = .ok address := requiredStr_ok.mpr ⟨address, hip, by simp, rfl⟩
      rw [if_pos (by simp [hip])]
      simp only [except_bind_ok, haddress, hnodeid, honline, hlocal, Except.ok.injEq, exists_eq_left']
      simp [rowNode, textField, hip]

/-- The loop reads its rows exactly when each names one node, and no two the same. -/
theorem readNodeRows_ok {rows : List Fields} {names : List String} {xs : List (MembershipNodeObservation × Bool)} :
    readNodeRows rows names = .ok xs ↔
      (∀ row ∈ rows, NodeRow row ∧ rowName row ∉ names) ∧ (rows.map rowName).Nodup ∧ xs = rows.map rowNode := by
  induction rows generalizing names xs with
  | nil => simp [readNodeRows, eq_comm]
  | cons row rows ih =>
    simp only [readNodeRows, except_bind_ok, readNodeRow_ok, ih, List.mem_cons, List.map_cons, List.nodup_cons,
      forall_eq_or_imp, List.mem_map, not_exists, not_and, not_or, Except.ok.injEq]
    constructor
    · rintro ⟨x, ⟨hrow, hfresh, rfl⟩, ys, ⟨hall, hnodup, rfl⟩, rfl⟩
      exact ⟨⟨⟨hrow, hfresh⟩, fun r hr => ⟨(hall r hr).1, (hall r hr).2.2⟩⟩, ⟨fun r hr => (hall r hr).2.1, hnodup⟩, rfl⟩
    · rintro ⟨⟨⟨hrow, hfresh⟩, hall⟩, ⟨hother, hnodup⟩, rfl⟩
      exact ⟨_, ⟨hrow, hfresh, rfl⟩, _, ⟨fun r hr => ⟨(hall r hr).1, hother r hr, (hall r hr).2⟩, hnodup, rfl⟩, rfl⟩

/-! ## The whole answer -/

def nodeRows (rows : List Fields) : List Fields := rows.filter (hasType "node")

def clusterRows (rows : List Fields) : List Fields := rows.filter (hasType "cluster")

/-- The checks after the loop. -/
def concludeStatus (clusterRows : List Fields) (read : List (MembershipNodeObservation × Bool)) :
    Except String NormalizedMembership :=
  let nodes := read.map (·.1)
  match (read.filter (·.2)).map (·.1.nodeName) with
  | [observedFrom] =>
    match clusterRows with
    | [] =>
      if nodes.length ≠ 1 then .error "A standalone response must contain exactly one node."
      else .ok ⟨sortedByName nodes, false, false, observedFrom⟩
    | clusterRow :: _ => do
      if nodes.any fun n => n.nodeid == 0 then .error "A clustered node must carry a corosync nodeid."
      let reported ← requiredInt clusterRow "nodes" 1
      if reported ≠ nodes.length then .error "Cluster node count does not match its node rows."
      let quorate ← binaryInt clusterRow "quorate"
      .ok ⟨sortedByName nodes, true, quorate, observedFrom⟩
  | _ => .error "Membership payload must identify exactly one local node."

theorem asMappings_eq_some {items : List Json} {rows : List Fields} :
    asMappings items = some rows ↔ items = rows.map .obj := by
  induction items generalizing rows with
  | nil => cases rows <;> simp [asMappings]
  | cons item items ih =>
    cases item with
    | obj fields => cases rows <;> simp [asMappings, ih, and_comm]
    | _ => cases rows <;> simp [asMappings]

theorem normalizeClusterStatus_objects {rows : List Fields} (hne : rows ≠ []) :
    normalizeClusterStatus (.arr (rows.map .obj)) =
      if (nodeRows rows).length + (clusterRows rows).length ≠ rows.length then
        .error "Membership payload contains an unknown row type."
      else if (nodeRows rows).isEmpty || 1 < (clusterRows rows).length then
        .error "Membership payload has an ambiguous cluster shape."
      else readNodeRows (nodeRows rows) [] >>= concludeStatus (clusterRows rows) := by
  obtain ⟨row, rest, rfl⟩ := List.exists_cons_of_ne_nil hne
  have hrows : asMappings (Json.obj row :: rest.map .obj) = some (row :: rest) := asMappings_eq_some.mpr rfl
  unfold normalizeClusterStatus
  simp only [List.map_cons, hrows, bind, Except.bind]
  unfold nodeRows clusterRows
  by_cases htyped : ((row :: rest).filter (hasType "node")).length +
      ((row :: rest).filter (hasType "cluster")).length ≠ (row :: rest).length
  · rw [if_pos htyped, if_pos htyped]
  · rw [if_neg htyped, if_neg htyped]
    by_cases hshape : (((row :: rest).filter (hasType "node")).isEmpty ||
        decide (1 < ((row :: rest).filter (hasType "cluster")).length)) = true
    · rw [if_pos hshape, if_pos hshape]
    · rw [if_neg hshape, if_neg hshape]
      generalize (row :: rest).filter (hasType "cluster") = clusters
      cases clusters with
      | nil => rfl
      | cons cluster others => rfl

/-- The body is a list of objects that pass the checks on the whole, then row by row. -/
theorem normalizeClusterStatus_stages {payload : Json} {n : NormalizedMembership} :
    normalizeClusterStatus payload = .ok n ↔ ∃ rows, payload = .arr (rows.map .obj) ∧
      (nodeRows rows).length + (clusterRows rows).length = rows.length ∧ nodeRows rows ≠ [] ∧
      (clusterRows rows).length ≤ 1 ∧ ∃ read, readNodeRows (nodeRows rows) [] = .ok read ∧
        concludeStatus (clusterRows rows) read = .ok n := by
  constructor
  · intro h
    have hobjects : ∃ rows, payload = .arr (rows.map .obj) ∧ rows ≠ [] := by
      unfold normalizeClusterStatus at h
      split at h
      · rename_i x xs
        cases hrows : asMappings (x :: xs) with
        | none => simp [hrows, bind, Except.bind] at h
        | some rows =>
          refine ⟨rows, by rw [asMappings_eq_some.mp hrows], ?_⟩
          rintro rfl
          simpa using asMappings_eq_some.mp hrows
      · simp [bind, Except.bind] at h
    obtain ⟨rows, rfl, hne⟩ := hobjects
    rw [normalizeClusterStatus_objects hne] at h
    split at h
    · cases h
    · rename_i htyped
      split at h
      · cases h
      · rename_i hshape
        simp only [Bool.or_eq_true, List.isEmpty_iff, decide_eq_true_eq, not_or, not_lt] at hshape
        exact ⟨rows, rfl, not_not.mp htyped, hshape.1, hshape.2, except_bind_ok.mp h⟩
  · rintro ⟨rows, rfl, htyped, hnode, hcluster, hread⟩
    have hne : rows ≠ [] := by
      rintro rfl
      exact hnode rfl
    rw [normalizeClusterStatus_objects hne, if_neg (not_not.mpr htyped), if_neg (by simp [hnode, hcluster])]
    exact except_bind_ok.mpr hread

theorem concludeStatus_ok {clusters : List Fields} {read : List (MembershipNodeObservation × Bool)}
    {n : NormalizedMembership} :
    concludeStatus clusters read = .ok n ↔ ∃ observedFrom, (read.filter (·.2)).map (·.1.nodeName) = [observedFrom] ∧
      ((clusters = [] ∧ read.length = 1 ∧ n = ⟨sortedByName (read.map (·.1)), false, false, observedFrom⟩) ∨
        ∃ cluster others, clusters = cluster :: others ∧ (∀ x ∈ read, x.1.nodeid ≠ 0) ∧
          requiredInt cluster "nodes" 1 = .ok read.length ∧ Binary cluster "quorate" ∧
          n = ⟨sortedByName (read.map (·.1)), true, isOne cluster "quorate", observedFrom⟩) := by
  unfold concludeStatus
  split
  · rename_i observedFrom hlocal
    simp only [hlocal, List.cons.injEq, and_true, exists_eq_left']
    cases clusters with
    | nil =>
      by_cases hlength : read.length = 1
      · simp [hlength, eq_comm]
      · simp [hlength]
    | cons cluster others =>
      simp only [reduceCtorEq, false_and, false_or, List.cons.injEq, List.length_map]
      by_cases hzero : ((read.map (·.1)).any fun n => n.nodeid == 0) = true
      · rw [if_pos hzero]
        simp only [bind, Except.bind, reduceCtorEq, false_iff, not_exists, not_and]
        rintro _ _ ⟨rfl, rfl⟩ hall
        simp only [List.any_map, List.any_eq_true, Function.comp_apply, beq_iff_eq] at hzero
        obtain ⟨x, hx, hid⟩ := hzero
        exact absurd hid (hall x hx)
      · rw [if_neg hzero]
        simp only [List.any_map, List.any_eq_true, Function.comp_apply, beq_iff_eq, not_exists, not_and] at hzero
        simp only [except_bind_ok]
        constructor
        · rintro ⟨reported, hreported, h⟩
          split at h
          · simp only [bind, Except.bind, reduceCtorEq] at h
          · rename_i hcount
            obtain ⟨quorate, hquorate, hn⟩ := except_bind_ok.mp h
            obtain ⟨hbinary, rfl⟩ := binaryInt_ok.mp hquorate
            rw [not_not.mp hcount] at hreported
            exact ⟨cluster, others, ⟨rfl, rfl⟩, hzero, hreported, hbinary, (Except.ok.inj hn).symm⟩
        · rintro ⟨_, _, ⟨rfl, rfl⟩, _, hreported, hbinary, rfl⟩
          refine ⟨_, hreported, ?_⟩
          rw [if_neg (by simp)]
          exact except_bind_ok.mpr ⟨_, binaryInt_ok.mpr ⟨hbinary, rfl⟩, rfl⟩
  · rename_i hnone
    simp only [reduceCtorEq, false_iff, not_exists, not_and]
    intro observedFrom hlocal
    exact absurd hlocal (hnone observedFrom)

/-- A `cluster/status` answer the parser takes, in the words of its rows. -/
structure ClusterStatus (rows : List Fields) : Prop where
  typed : ∀ row ∈ rows, hasType "node" row = true ∨ hasType "cluster" row = true
  someNode : nodeRows rows ≠ []
  oneCluster : (clusterRows rows).length ≤ 1
  nodeRow : ∀ row ∈ nodeRows rows, NodeRow row
  names : ((nodeRows rows).map rowName).Nodup
  oneLocal : ((nodeRows rows).filter (isOne · "local")).length = 1
  shape : (clusterRows rows = [] ∧ (nodeRows rows).length = 1) ∨
    ((∀ row ∈ nodeRows rows, 1 ≤ intField row "nodeid") ∧
      ∃ cluster ∈ clusterRows rows,
        Json.lookup cluster "nodes" = some (.int (nodeRows rows).length) ∧ Binary cluster "quorate")

/-- What the parser makes of it. -/
def membershipOf (rows : List Fields) : NormalizedMembership where
  nodes := sortedByName ((nodeRows rows).map fun row => (rowNode row).1)
  hasClusterRow := !(clusterRows rows).isEmpty
  quorate := (clusterRows rows).any (isOne · "quorate")
  observedFrom := (((nodeRows rows).filter (isOne · "local")).map rowName).headD ""

/-- No row is of both types. -/
theorem hasType_node_cluster {row : Fields} (hnode : hasType "node" row = true) : hasType "cluster" row = false := by
  unfold hasType at *
  split at hnode
  · rw [beq_iff_eq] at hnode
    subst hnode
    decide
  · cases hnode

theorem length_nodeRows_add (rows : List Fields) :
    (nodeRows rows).length + (clusterRows rows).length =
      (rows.filter fun row => hasType "node" row || hasType "cluster" row).length := by
  unfold nodeRows clusterRows
  induction rows with
  | nil => rfl
  | cons row rows ih =>
    simp only [List.filter_cons]
    cases hnode : hasType "node" row with
    | true =>
      rw [hasType_node_cluster hnode]
      simp only [if_true, Bool.true_or, Bool.false_eq_true, if_false, List.length_cons]
      omega
    | false =>
      cases hcluster : hasType "cluster" row with
      | true =>
        simp only [if_true, Bool.or_true, Bool.false_eq_true, if_false, List.length_cons]
        omega
      | false => simpa using ih

theorem typed_iff {rows : List Fields} :
    (nodeRows rows).length + (clusterRows rows).length = rows.length ↔
      ∀ row ∈ rows, hasType "node" row = true ∨ hasType "cluster" row = true := by
  rw [length_nodeRows_add, List.length_filter_eq_length_iff]
  simp only [Bool.or_eq_true]

theorem normalizeClusterStatus_ok {payload : Json} {n : NormalizedMembership} :
    normalizeClusterStatus payload = .ok n ↔
      ∃ rows, payload = .arr (rows.map .obj) ∧ ClusterStatus rows ∧ n = membershipOf rows := by
  rw [normalizeClusterStatus_stages]
  refine exists_congr fun rows => and_congr_right fun _ => ?_
  rw [typed_iff]
  -- what the loop read, and which of the rows it read are local
  have hlocal : (((nodeRows rows).map rowNode).filter (·.2)).map (·.1.nodeName) =
      ((nodeRows rows).filter (isOne · "local")).map rowName := by
    rw [List.filter_map, List.map_map]
    rfl
  have hmap : ((nodeRows rows).map rowNode).map (·.1) = (nodeRows rows).map fun row => (rowNode row).1 := by
    rw [List.map_map]
    rfl
  constructor
  · rintro ⟨htyped, hnode, hcluster, read, hread, hconclude⟩
    obtain ⟨hrows, hnames, rfl⟩ := readNodeRows_ok.mp hread
    obtain ⟨observedFrom, hobserved, hshape⟩ := concludeStatus_ok.mp hconclude
    rw [hlocal] at hobserved
    rw [hmap, List.length_map] at hshape
    have hone : ((nodeRows rows).filter (isOne · "local")).length = 1 := by
      simpa using congrArg List.length hobserved
    rcases hshape with ⟨hnone, hlength, rfl⟩ | ⟨cluster, others, hsome, hids, hreported, hbinary, rfl⟩
    · refine ⟨⟨htyped, hnode, hcluster, fun row hr => (hrows row hr).1, hnames, hone, .inl ⟨hnone, hlength⟩⟩, ?_⟩
      simp [membershipOf, hnone, hobserved]
    · obtain rfl : others = [] := by
        rw [hsome, List.length_cons] at hcluster
        exact List.length_eq_zero_iff.mp (by omega)
      refine ⟨⟨htyped, hnode, hcluster, fun row hr => (hrows row hr).1, hnames, hone,
        .inr ⟨?_, cluster, ?_, ?_, hbinary⟩⟩, ?_⟩
      · intro row hr
        have := hids _ (List.mem_map_of_mem hr)
        simp only [rowNode] at this
        omega
      · simp [hsome]
      · exact (requiredInt_ok.mp hreported).1
      · simp [membershipOf, hsome, hobserved]
  · rintro ⟨⟨htyped, hnode, hcluster, hrows, hnames, hone, hshape⟩, rfl⟩
    refine ⟨htyped, hnode, hcluster, _, readNodeRows_ok.mpr ⟨fun row hr => ⟨hrows row hr, by simp⟩, hnames, rfl⟩, ?_⟩
    obtain ⟨observer, hobserver⟩ := List.length_eq_one_iff.mp hone
    refine concludeStatus_ok.mpr ⟨rowName observer, by rw [hlocal, hobserver]; rfl, ?_⟩
    rw [hmap, List.length_map]
    rcases hshape with ⟨hnone, hlength⟩ | ⟨hids, cluster, hmem, hreported, hbinary⟩
    · exact .inl ⟨hnone, hlength, by simp [membershipOf, hnone, hobserver]⟩
    · have hsome : clusterRows rows = [cluster] := by
        obtain ⟨c, hc⟩ := List.length_eq_one_iff.mp (le_antisymm hcluster (List.length_pos_of_mem hmem))
        rw [hc, List.mem_singleton] at hmem
        rw [hc, hmem]
      refine .inr ⟨cluster, [], hsome, ?_, requiredInt_ok.mpr ⟨hreported, ?_⟩, hbinary, ?_⟩
      · simp only [List.mem_map, forall_exists_index, and_imp, forall_apply_eq_imp_iff₂]
        intro row hr
        have := hids row hr
        simp only [rowNode]
        omega
      · exact List.length_pos_iff.mpr hnode
      · simp [membershipOf, hsome, hobserver]

/-! ## The order of the rows -/

theorem ClusterStatus.perm {rows rows' : List Fields} (hperm : rows'.Perm rows) (h : ClusterStatus rows) :
    ClusterStatus rows' := by
  have hnodes : (nodeRows rows').Perm (nodeRows rows) := hperm.filter _
  have hclusters : (clusterRows rows').Perm (clusterRows rows) := hperm.filter _
  refine ⟨fun row hr => h.typed row (hperm.mem_iff.mp hr), ?_, ?_, fun row hr => h.nodeRow row (hnodes.mem_iff.mp hr),
    (hnodes.map rowName).nodup_iff.mpr h.names, ?_, ?_⟩
  · intro hnil
    rw [hnil] at hnodes
    exact h.someNode hnodes.nil_eq.symm
  · rw [hclusters.length_eq]
    exact h.oneCluster
  · rw [(hnodes.filter _).length_eq]
    exact h.oneLocal
  · rw [hnodes.length_eq]
    rcases h.shape with ⟨hnone, hlength⟩ | ⟨hids, cluster, hmem, hreported⟩
    · rw [hnone] at hclusters
      exact .inl ⟨hclusters.eq_nil, hlength⟩
    · exact .inr ⟨fun row hr => hids row (hnodes.mem_iff.mp hr), cluster, hclusters.mem_iff.mpr hmem, hreported⟩

/-- Sorting by name forgets the order, the names being distinct. -/
theorem sortedByName_perm {nodes nodes' : List MembershipNodeObservation} (hperm : nodes'.Perm nodes)
    (hnames : (nodes.map (·.nodeName)).Nodup) : sortedByName nodes' = sortedByName nodes := by
  let before (a b : MembershipNodeObservation) : Prop := ¬ b.nodeName < a.nodeName
  have htotal : Std.Total before := ⟨fun a b => (le_total a.nodeName b.nodeName).imp not_lt.mpr not_lt.mpr⟩
  have htrans : IsTrans MembershipNodeObservation before :=
    ⟨fun a b c hab hbc => not_lt.mpr (le_trans (not_lt.mp hab) (not_lt.mp hbc))⟩
  have hsorted : ∀ l, (sortedByName l).Pairwise before := fun l => List.pairwise_insertionSort before l
  have hmem : ∀ l (x : MembershipNodeObservation), x ∈ sortedByName l ↔ x ∈ l :=
    fun l x => (List.perm_insertionSort before l).mem_iff
  have hsame : (sortedByName nodes').Perm (sortedByName nodes) :=
    ((List.perm_insertionSort before nodes').trans hperm).trans (List.perm_insertionSort before nodes).symm
  refine hsame.eq_of_pairwise ?_ (hsorted nodes') (hsorted nodes)
  intro a b ha hb hab hba
  rw [hmem, hperm.mem_iff] at ha
  rw [hmem] at hb
  exact List.inj_on_of_nodup_map hnames ha hb (le_antisymm (not_lt.mp hab) (not_lt.mp hba))

theorem membershipOf_perm {rows rows' : List Fields} (hperm : rows'.Perm rows) (h : ClusterStatus rows) :
    membershipOf rows' = membershipOf rows := by
  have hnodes : (nodeRows rows').Perm (nodeRows rows) := hperm.filter _
  have hclusters : (clusterRows rows').Perm (clusterRows rows) := hperm.filter _
  obtain ⟨observer, hobserver⟩ := List.length_eq_one_iff.mp h.oneLocal
  have hobserver' : (nodeRows rows').filter (isOne · "local") = [observer] := by
    have := hnodes.filter (isOne · "local")
    rw [hobserver] at this
    exact this.eq_singleton
  unfold membershipOf
  have hnames : (((nodeRows rows).map fun row => (rowNode row).1).map (·.nodeName)).Nodup := by
    rw [List.map_map]
    exact h.names
  rw [sortedByName_perm (hnodes.map fun row => (rowNode row).1) hnames, hobserver, hobserver', hclusters.any_eq,
    hclusters.isEmpty_eq]

/-- The parser takes a well-formed answer and no other, and its rows in any
order; which of several faults a refusal names is the first one met. -/
theorem normalizeClusterStatus_exact (payload : Json) :
    ((∃ n, normalizeClusterStatus payload = .ok n) ↔
      ∃ rows, payload = .arr (rows.map .obj) ∧ ClusterStatus rows) ∧
    ((¬ ∃ rows, payload = .arr (rows.map .obj) ∧ ClusterStatus rows) →
      ∃ text, normalizeClusterStatus payload = .error text) ∧
    ∀ items items', payload = .arr items → items'.Perm items →
      (normalizeClusterStatus (.arr items')).toOption = (normalizeClusterStatus payload).toOption := by
  have htakes : ∀ payload, (∃ n, normalizeClusterStatus payload = .ok n) ↔
      ∃ rows, payload = .arr (rows.map .obj) ∧ ClusterStatus rows := by
    intro payload
    constructor
    · rintro ⟨n, hn⟩
      obtain ⟨rows, hrows, hstatus, _⟩ := normalizeClusterStatus_ok.mp hn
      exact ⟨rows, hrows, hstatus⟩
    · rintro ⟨rows, hrows, hstatus⟩
      exact ⟨membershipOf rows, normalizeClusterStatus_ok.mpr ⟨rows, hrows, hstatus, rfl⟩⟩
  -- what one order of the rows gives, every order gives
  have hkeeps : ∀ {items items' : List Json} {n : NormalizedMembership}, items'.Perm items →
      normalizeClusterStatus (.arr items) = .ok n → normalizeClusterStatus (.arr items') = .ok n := by
    intro items items' n hperm hn
    obtain ⟨rows, hrows, hstatus, rfl⟩ := normalizeClusterStatus_ok.mp hn
    obtain rfl : items = rows.map .obj := Json.arr.inj hrows
    have hmapped : Relation.Comp (· = List.map Json.obj ·) List.Perm items' rows := by
      rw [List.eq_map_comp_perm]
      exact hperm
    obtain ⟨rows', rfl, hrows'⟩ := hmapped
    exact normalizeClusterStatus_ok.mpr ⟨rows', rfl, hstatus.perm hrows', (membershipOf_perm hrows' hstatus).symm⟩
  refine ⟨htakes payload, fun hnot => ?_, ?_⟩
  · cases h : normalizeClusterStatus payload with
    | error text => exact ⟨text, rfl⟩
    | ok n => exact absurd ((htakes payload).mp ⟨n, h⟩) hnot
  · rintro items items' rfl hperm
    cases h : normalizeClusterStatus (.arr items) with
    | ok n => rw [hkeeps hperm h]
    | error text =>
      cases h' : normalizeClusterStatus (.arr items') with
      | error text' => rfl
      | ok n =>
        rw [hkeeps hperm.symm h'] at h
        cases h

end PveHelper.Topology
