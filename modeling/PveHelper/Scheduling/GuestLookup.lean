/-
`_find_guest` of `core/services/scheduled_actions.py`, as a scheduled run calls
it. It lists the cluster's enabled endpoints by name, takes the clients of
`cluster_clients` of `core/services/cluster_resolver.py`, which come healthy
endpoints first, and goes over the two lists in step. A client is known by the
endpoint it was built for. A refusal to build the clients ends the lookup before
it begins and is left out.
-/
import Mathlib.Data.String.Basic
import PveHelper.Guests.Inventory
import PveHelper.Lib.Json
import PveHelper.Lib.Table

namespace PveHelper.Scheduling

open Lib PveHelper.Guests

structure ProxmoxEndpoint where
  name : String
  url : String
  enabled : Bool
  lastHealthStatus : String

/-- One cluster's endpoints, whose names are unique. -/
abbrev Endpoints := Table ProxmoxEndpoint.name

/-- `_health_rank`. -/
def ProxmoxEndpoint.healthRank (e : ProxmoxEndpoint) : Nat :=
  if e.lastHealthStatus = "ok" then 0 else if e.lastHealthStatus = "" then 1 else 2

/-- A client, with the endpoint it was built for. -/
structure ProxmoxClient where
  builtFor : ProxmoxEndpoint

/-- The address it talks to. -/
def ProxmoxClient.endpoint (c : ProxmoxClient) : String := c.builtFor.url

def enabledRows (endpoints : Endpoints) : List ProxmoxEndpoint := endpoints.rows.filter (·.enabled)

/-- The endpoints as `_find_guest` lists them. -/
def endpointsByName (endpoints : Endpoints) : List ProxmoxEndpoint :=
  (enabledRows endpoints).insertionSort fun a b => a.name ≤ b.name

/-- `enabled_endpoints`. -/
def enabledEndpoints (endpoints : Endpoints) : List ProxmoxEndpoint :=
  (enabledRows endpoints).insertionSort fun a b =>
    a.healthRank < b.healthRank ∨ (a.healthRank = b.healthRank ∧ a.name ≤ b.name)

/-- `cluster_clients`. -/
def clusterClients (endpoints : Endpoints) : List ProxmoxClient := (enabledEndpoints endpoints).map .mk

/-! ## Answers -/

/-- What `GET nodes` brings. -/
inductive NodesAnswer
  /-- An error of the API, or a body that is no list. -/
  | unlisted
  /-- The `node` fields of the rows, blank where there is none. -/
  | rows (names : List String)
  /-- A row that is no mapping. -/
  | broken

/-- The answers one client gets; a call that fails, fails with its public message. -/
structure ClientAnswers where
  nodes : NodesAnswer
  guestCurrent : String → Except String (List (String × Json))
  guestConfig : String → Except String (List (String × Json))

/-- `ProxmoxClient.node_names`, none where it raises. -/
def nodeNames (fallback : String) : NodesAnswer → Option (List String)
  | .broken => none
  | .unlisted => some (if fallback = "" then [] else [fallback])
  | .rows names =>
    let named := names.filter (· != "")
    some (if !named.isEmpty then named else if fallback = "" then [] else [fallback])

/-- `published_node_names`. -/
def publishedNodeNames (scope : PublicationScope) (answers : ClientAnswers) (fallback : String) :
    Option (List String) :=
  (nodeNames fallback answers.nodes).map fun names => names.filter scope.publishes

/-! ## The lookup -/

structure GuestTarget where
  endpoint : ProxmoxEndpoint
  client : ProxmoxClient
  node : String
  current : List (String × Json)
  config : List (String × Json)

/-- One entry of `lookup_errors`. -/
structure LookupError where
  endpoint : String
  node : String
  error : String
  /-- The client that raised it, which the entry does not hold. -/
  raisedBy : ProxmoxClient

inductive LookupEnd
  | found (target : GuestTarget)
  /-- The `ScheduledActionExecutionError` that holds the errors. -/
  | notFound
  | raised

/-- The nodes of one endpoint in turn: the errors, and the target. -/
def lookupNodes (answers : ClientAnswers) (endpoint : ProxmoxEndpoint) (client : ProxmoxClient) :
    List String → List LookupError × Option GuestTarget
  | [] => ([], none)
  | node :: nodes =>
    match (do .ok (← answers.guestCurrent node, ← answers.guestConfig node)) with
    | .ok (current, config) => ([], some ⟨endpoint, client, node, current, config⟩)
    | .error text =>
      let (errors, target) := lookupNodes answers endpoint client nodes
      (⟨endpoint.name, node, text, client⟩ :: errors, target)

/-- The loop over endpoints and clients. -/
def lookupEndpoints (scope : PublicationScope) (answers : ProxmoxClient → ClientAnswers) :
    List (ProxmoxEndpoint × ProxmoxClient) → List LookupError × LookupEnd
  | [] => ([], .notFound)
  | (endpoint, client) :: rest =>
    match publishedNodeNames scope (answers client) endpoint.name with
    | none => ([], .raised)
    | some nodes =>
      match lookupNodes (answers client) endpoint client nodes with
      | (errors, some target) => (errors, .found target)
      | (errors, none) =>
        let (later, outcome) := lookupEndpoints scope answers rest
        (errors ++ later, outcome)

/-- `_find_guest` without a client factory: the errors it records, and how it ends. -/
def findGuest (scope : PublicationScope) (endpoints : Endpoints) (answers : ProxmoxClient → ClientAnswers) :
    List LookupError × LookupEnd :=
  lookupEndpoints scope answers ((endpointsByName endpoints).zip (clusterClients endpoints))

/-- The target's client talks to the address of its endpoint, and each error names the
endpoint of the client that raised it. -/
structure Attributed (lookup : List LookupError × LookupEnd) : Prop where
  target : ∀ target, lookup.2 = .found target → target.client.endpoint = target.endpoint.url
  errors : ∀ e ∈ lookup.1, e.endpoint = e.raisedBy.builtFor.name

/-! ## What goes over the lists -/

theorem lookupNodes_spec (answers : ClientAnswers) (endpoint : ProxmoxEndpoint) (client : ProxmoxClient)
    (nodes : List String) :
    (∀ e ∈ (lookupNodes answers endpoint client nodes).1, e.endpoint = endpoint.name ∧ e.raisedBy = client) ∧
      ∀ target ∈ (lookupNodes answers endpoint client nodes).2,
        target.endpoint = endpoint ∧ target.client = client := by
  induction nodes with
  | nil => simp [lookupNodes]
  | cons node nodes ih =>
    unfold lookupNodes
    split
    · simp
    · simpa using ih

/-- Errors and target are of one of the pairs gone over. -/
theorem lookupEndpoints_spec (scope : PublicationScope) (answers : ProxmoxClient → ClientAnswers)
    (pairs : List (ProxmoxEndpoint × ProxmoxClient)) :
    (∀ e ∈ (lookupEndpoints scope answers pairs).1, ∃ p ∈ pairs, e.endpoint = p.1.name ∧ e.raisedBy = p.2) ∧
      ∀ target, (lookupEndpoints scope answers pairs).2 = .found target →
        ∃ p ∈ pairs, target.endpoint = p.1 ∧ target.client = p.2 := by
  induction pairs with
  | nil => simp [lookupEndpoints]
  | cons pair rest ih =>
    obtain ⟨endpoint, client⟩ := pair
    unfold lookupEndpoints
    cases publishedNodeNames scope (answers client) endpoint.name with
    | none => simp
    | some nodes =>
      have hspec := lookupNodes_spec (answers client) endpoint client nodes
      simp only
      generalize lookupNodes (answers client) endpoint client nodes = looked at hspec
      obtain ⟨errors, found⟩ := looked
      cases found with
      | some target =>
        refine ⟨fun e he => ⟨_, List.mem_cons_self .., hspec.1 e he⟩, fun t ht => ?_⟩
        obtain rfl : target = t := LookupEnd.found.inj ht
        exact ⟨_, List.mem_cons_self .., hspec.2 target rfl⟩
      | none =>
        refine ⟨fun e he => ?_, fun t ht => ?_⟩
        · rcases List.mem_append.mp he with he | he
          · exact ⟨_, List.mem_cons_self .., hspec.1 e he⟩
          · obtain ⟨p, hp, heq⟩ := ih.1 e he
            exact ⟨p, List.mem_cons_of_mem _ hp, heq⟩
        · obtain ⟨p, hp, heq⟩ := ih.2 t ht
          exact ⟨p, List.mem_cons_of_mem _ hp, heq⟩

/-- Every client lists one node and knows no guest. -/
def lostOn (node : String) : ProxmoxClient → ClientAnswers := fun _ =>
  ⟨.rows [node], fun _ => .error "not found", fun _ => .error "not found"⟩

/-- Then each pair gives one error. -/
theorem lookupEndpoints_lostOn {scope : PublicationScope} {node : String} (hnode : node ≠ "")
    (hpublished : scope.publishes node = true) (pairs : List (ProxmoxEndpoint × ProxmoxClient)) :
    lookupEndpoints scope (lostOn node) pairs =
      (pairs.map fun p => ⟨p.1.name, node, "not found", p.2⟩, .notFound) := by
  induction pairs with
  | nil => rfl
  | cons pair rest ih =>
    obtain ⟨endpoint, client⟩ := pair
    have hnodes : publishedNodeNames scope (lostOn node client) endpoint.name = some [node] := by
      simp [publishedNodeNames, nodeNames, lostOn, hnode, hpublished]
    have hlost : lookupNodes (lostOn node client) endpoint client [node] =
        ([⟨endpoint.name, node, "not found", client⟩], none) := rfl
    simp only [lookupEndpoints, hnodes, hlost, ih, List.map_cons, List.singleton_append]

theorem nodeNames_nonblank {fallback : String} {nodes : NodesAnswer} {names : List String}
    (h : nodeNames fallback nodes = some names) : "" ∉ names := by
  have hfallback : "" ∉ (if fallback = "" then [] else [fallback]) := by
    split
    · simp
    · rename_i hne
      simpa [eq_comm] using hne
  cases nodes with
  | broken => cases h
  | unlisted =>
    cases h
    exact hfallback
  | rows listed =>
    simp only [nodeNames, Option.some.injEq] at h
    subst h
    split
    · simp
    · exact hfallback

/-- Some node is one the cluster publishes. -/
def PublishesSome (scope : PublicationScope) : Prop := ∃ node ≠ "", scope.publishes node = true

/-- A cluster that publishes no node asks about none. -/
theorem lookupEndpoints_nothing {scope : PublicationScope} (hnone : ¬ PublishesSome scope)
    (answers : ProxmoxClient → ClientAnswers) (pairs : List (ProxmoxEndpoint × ProxmoxClient)) :
    (lookupEndpoints scope answers pairs).1 = [] ∧
      ∀ target, (lookupEndpoints scope answers pairs).2 ≠ .found target := by
  induction pairs with
  | nil => simp [lookupEndpoints]
  | cons pair rest ih =>
    obtain ⟨endpoint, client⟩ := pair
    unfold lookupEndpoints
    cases hnodes : publishedNodeNames scope (answers client) endpoint.name with
    | none => simp
    | some nodes =>
      obtain rfl : nodes = [] := by
        obtain ⟨names, hnames, rfl⟩ := Option.map_eq_some_iff.mp hnodes
        rw [List.filter_eq_nil_iff]
        intro node hnode hpublished
        refine hnone ⟨node, ?_, hpublished⟩
        rintro rfl
        exact nodeNames_nonblank hnames hnode
      simpa [lookupNodes] using ih

/-! ## The two orders -/

/-- No enabled endpoint comes, by name, before one of a better health. -/
def InStep (endpoints : Endpoints) : Prop :=
  ∀ a ∈ enabledRows endpoints, ∀ b ∈ enabledRows endpoints, a.healthRank < b.healthRank → a.name < b.name

theorem endpointsByName_sorted (endpoints : Endpoints) :
    (endpointsByName endpoints).Pairwise fun a b => a.name ≤ b.name := by
  have htotal : Std.Total fun a b : ProxmoxEndpoint => a.name ≤ b.name := ⟨fun a b => le_total a.name b.name⟩
  have htrans : IsTrans ProxmoxEndpoint fun a b => a.name ≤ b.name := ⟨fun _ _ _ => le_trans⟩
  exact List.pairwise_insertionSort _ _

theorem enabledEndpoints_sorted (endpoints : Endpoints) :
    (enabledEndpoints endpoints).Pairwise fun a b =>
      a.healthRank < b.healthRank ∨ (a.healthRank = b.healthRank ∧ a.name ≤ b.name) := by
  have htotal : Std.Total fun a b : ProxmoxEndpoint =>
      a.healthRank < b.healthRank ∨ (a.healthRank = b.healthRank ∧ a.name ≤ b.name) :=
    ⟨fun a b => by
      rcases lt_trichotomy a.healthRank b.healthRank with h | h | h
      · exact .inl (.inl h)
      · exact (le_total a.name b.name).imp (fun hle => .inr ⟨h, hle⟩) fun hle => .inr ⟨h.symm, hle⟩
      · exact .inr (.inl h)⟩
  have htrans : IsTrans ProxmoxEndpoint fun a b =>
      a.healthRank < b.healthRank ∨ (a.healthRank = b.healthRank ∧ a.name ≤ b.name) :=
    ⟨fun a b c hab hbc => by
      rcases hab with hab | ⟨hab, hab'⟩
      · rcases hbc with hbc | ⟨hbc, -⟩
        · exact .inl (hab.trans hbc)
        · exact .inl (hbc ▸ hab)
      · rcases hbc with hbc | ⟨hbc, hbc'⟩
        · exact .inl (hab ▸ hbc)
        · exact .inr ⟨hab.trans hbc, hab'.trans hbc'⟩⟩
  exact List.pairwise_insertionSort _ _

theorem enabledRows_names (endpoints : Endpoints) : ((enabledRows endpoints).map (·.name)).Nodup :=
  endpoints.unique.sublist (List.filter_sublist.map _)

theorem endpointsByName_perm (endpoints : Endpoints) : (endpointsByName endpoints).Perm (enabledRows endpoints) :=
  List.perm_insertionSort ..

theorem enabledEndpoints_perm (endpoints : Endpoints) : (enabledEndpoints endpoints).Perm (enabledRows endpoints) :=
  List.perm_insertionSort ..

/-- The two lists are the same exactly when the orders are in step. -/
theorem endpoints_same_iff (endpoints : Endpoints) :
    endpointsByName endpoints = enabledEndpoints endpoints ↔ InStep endpoints := by
  constructor
  · intro hsame a ha b hb hrank
    -- the one of better health stands first in both lists
    have ha' : a ∈ enabledEndpoints endpoints := (enabledEndpoints_perm endpoints).mem_iff.mpr ha
    have hb' : b ∈ enabledEndpoints endpoints := (enabledEndpoints_perm endpoints).mem_iff.mpr hb
    have hne : a.name ≠ b.name := by
      intro heq
      rw [List.inj_on_of_nodup_map (enabledRows_names endpoints) ha hb heq] at hrank
      exact lt_irrefl _ hrank
    have hsorted : (enabledEndpoints endpoints).Pairwise fun a b => a.name ≤ b.name :=
      hsame ▸ endpointsByName_sorted endpoints
    let inOrder (a b : ProxmoxEndpoint) : Prop :=
      (a.healthRank < b.healthRank → a.name ≤ b.name) ∧ (b.healthRank < a.healthRank → b.name ≤ a.name)
    have hpairs : (enabledEndpoints endpoints).Pairwise inOrder := by
      refine ((enabledEndpoints_sorted endpoints).and hsorted).imp fun {a b} h => ⟨fun _ => h.2, fun hlt => ?_⟩
      rcases h.1 with h | ⟨h, -⟩
      · exact absurd (h.trans hlt) (lt_irrefl _)
      · exact absurd hlt h.not_gt
    have hflip : (enabledEndpoints endpoints).Pairwise (flip inOrder) := hpairs.imp fun h => ⟨h.2, h.1⟩
    have hall : ∀ a ∈ enabledEndpoints endpoints, ∀ b ∈ enabledEndpoints endpoints, inOrder a b :=
      List.Pairwise.forall_of_forall_of_flip (fun _ _ => ⟨fun _ => le_rfl, fun _ => le_rfl⟩) hpairs hflip
    exact lt_of_le_of_ne ((hall a ha' b hb').1 hrank) hne
  · intro hstep
    have hperm : (endpointsByName endpoints).Perm (enabledEndpoints endpoints) :=
      (endpointsByName_perm endpoints).trans (enabledEndpoints_perm endpoints).symm
    refine hperm.eq_of_pairwise ?_ (endpointsByName_sorted endpoints) ?_
    · intro a b ha hb hab hba
      exact List.inj_on_of_nodup_map (enabledRows_names endpoints) ((endpointsByName_perm endpoints).mem_iff.mp ha)
        ((enabledEndpoints_perm endpoints).mem_iff.mp hb) (le_antisymm hab hba)
    · refine (enabledEndpoints_sorted endpoints).imp_of_mem fun {a b} ha hb h => ?_
      rcases h with h | ⟨-, h⟩
      · exact (hstep a ((enabledEndpoints_perm endpoints).mem_iff.mp ha) b
          ((enabledEndpoints_perm endpoints).mem_iff.mp hb) h).le
      · exact h

/-- The lookup attributes every error and its target to the endpoint asked, whatever the
answers, exactly when the cluster publishes no node or its endpoints are in step. -/
theorem findGuest_attributed_iff (scope : PublicationScope) (endpoints : Endpoints) :
    (∀ answers, Attributed (findGuest scope endpoints answers)) ↔ ¬ PublishesSome scope ∨ InStep endpoints := by
  have hlength : (endpointsByName endpoints).length = (clusterClients endpoints).length := by
    rw [clusterClients, List.length_map, (endpointsByName_perm endpoints).length_eq,
      (enabledEndpoints_perm endpoints).length_eq]
  constructor
  · intro hall
    rw [or_iff_not_imp_left, not_not]
    rintro ⟨node, hnode, hpublished⟩
    have herrors := (hall (lostOn node)).errors
    rw [findGuest, lookupEndpoints_lostOn hnode hpublished] at herrors
    rw [← endpoints_same_iff]
    have hnames : ∀ p ∈ (endpointsByName endpoints).zip (clusterClients endpoints), p.1.name = p.2.builtFor.name := by
      intro p hp
      exact herrors _ (List.mem_map_of_mem hp)
    refine List.ext_getElem (by rw [hlength, clusterClients, List.length_map]) fun i hi hi' => ?_
    have hclient : i < (clusterClients endpoints).length := hlength ▸ hi
    have hname := hnames _ (List.mem_iff_getElem.mpr ⟨i, by simpa using ⟨hi, hclient⟩, rfl⟩)
    simp only [List.getElem_zip, clusterClients, List.getElem_map] at hname
    exact List.inj_on_of_nodup_map (enabledRows_names endpoints)
      ((endpointsByName_perm endpoints).mem_iff.mp (List.getElem_mem _))
      ((enabledEndpoints_perm endpoints).mem_iff.mp (List.getElem_mem _)) hname
  · rintro (hnone | hstep) answers
    · -- no node is published, so none is asked about
      obtain ⟨herrors, htarget⟩ :=
        lookupEndpoints_nothing hnone answers ((endpointsByName endpoints).zip (clusterClients endpoints))
      exact ⟨fun target ht => absurd ht (htarget target), by rw [findGuest, herrors]; simp⟩
    · have hspec := lookupEndpoints_spec scope answers ((endpointsByName endpoints).zip (clusterClients endpoints))
      have hpairs : ∀ p ∈ (endpointsByName endpoints).zip (clusterClients endpoints), p.2.builtFor = p.1 := by
        rw [(endpoints_same_iff endpoints).mpr hstep, clusterClients, List.zip, List.zipWith_map_right,
          List.zipWith_self]
        intro p hp
        obtain ⟨e, -, rfl⟩ := List.mem_map.mp hp
        rfl
      refine ⟨fun target ht => ?_, fun e he => ?_⟩
      · obtain ⟨p, hp, hendpoint, hclient⟩ := hspec.2 target ht
        rw [hendpoint, hclient, ProxmoxClient.endpoint, hpairs p hp]
      · obtain ⟨p, hp, hendpoint, hclient⟩ := hspec.1 e he
        rw [hendpoint, hclient, hpairs p hp]

/-- Two endpoints, the first by name offline. -/
def offlineFirst : Endpoints := ⟨[⟨"pve1", "https://10.0.0.1:8006", true, "error"⟩,
  ⟨"pve2", "https://10.0.0.2:8006", true, "ok"⟩], by decide⟩

/-- The guest is found through the second one, and attributed to the first. -/
theorem offline_endpoint_named : ¬ Attributed (findGuest ⟨0, 0, [], []⟩ offlineFirst fun _ =>
    ⟨.rows ["pve1"], fun _ => .ok [], fun _ => .ok []⟩) := by
  intro h
  have htarget := h.target ⟨⟨"pve1", "https://10.0.0.1:8006", true, "error"⟩,
    ⟨⟨"pve2", "https://10.0.0.2:8006", true, "ok"⟩⟩, "pve1", [], []⟩ rfl
  exact absurd htarget (by decide)

end PveHelper.Scheduling
