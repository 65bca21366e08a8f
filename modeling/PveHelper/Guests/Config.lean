/-
What a guest configuration refers to, after `core/services/classification.py`:
the values under disk keys, wherever they are nested, each read as a volume
id; a linked clone's compound id stands for its base and its overlay.
-/
import Mathlib.Data.List.Dedup
import Mathlib.Data.List.Sort
import Mathlib.Data.String.Basic
import PveHelper.Lib.Json
import PveHelper.Lib.Text

namespace PveHelper.Guests

open Lib

/-- A guest's configuration, a dictionary. -/
abbrev Config := List (String × Json)

/-- `config[key] = value`. -/
def Config.set (config : Config) (key : String) (value : Json) : Config :=
  if config.any fun f => f.1 == key then config.map fun f => if f.1 == key then (key, value) else f
  else config ++ [(key, value)]

/-- `config.pop(key, None)`. -/
def Config.pop (config : Config) (key : String) : Config := config.filter fun f => f.1 != key

/-- `config.update(updates)`. -/
def Config.update (config updates : Config) : Config := updates.foldl (fun c f => c.set f.1 f.2) config

theorem Config.mem_set {config : Config} {key : String} {value : Json} {f : String × Json} :
    f ∈ config.set key value ↔ (f ∈ config ∧ f.1 ≠ key) ∨ f = (key, value) := by
  unfold Config.set
  by_cases hk : config.any fun f => f.1 == key
  · rw [if_pos hk, List.mem_map]
    constructor
    · intro h
      obtain ⟨g, hg, rfl⟩ := h
      by_cases hgk : g.1 = key
      · exact .inr (by simp [hgk])
      · exact .inl (by simpa [hgk] using hg)
    · intro h
      rcases h with ⟨hf, hne⟩ | rfl
      · exact ⟨f, hf, by simp [hne]⟩
      · obtain ⟨g, hg, hgk⟩ := List.any_eq_true.mp hk
        exact ⟨g, hg, by simp [hgk]⟩
  · rw [if_neg hk, List.mem_append, List.mem_singleton]
    have hne : ∀ f ∈ config, f.1 ≠ key := fun f hf he => hk (List.any_eq_true.mpr ⟨f, hf, beq_iff_eq.mpr he⟩)
    constructor
    · intro h
      exact h.imp (fun hf => ⟨hf, hne f hf⟩) id
    · intro h
      exact h.imp And.left id

theorem Config.mem_pop {config : Config} {key : String} {f : String × Json} :
    f ∈ config.pop key ↔ f ∈ config ∧ f.1 ≠ key := by
  simp [Config.pop]

theorem Config.mem_foldl_pop {config : Config} {keys : List String} {f : String × Json} :
    f ∈ keys.foldl Config.pop config ↔ f ∈ config ∧ f.1 ∉ keys := by
  induction keys generalizing config with
  | nil => simp
  | cons key keys ih => rw [List.foldl_cons, ih, mem_pop, List.mem_cons, not_or, and_assoc]

/-- An update leaves the fields it does not name and writes its own, of two under one key the last. -/
theorem Config.mem_update {config updates : Config} {f : String × Json} :
    f ∈ config.update updates ↔ (f ∈ config ∧ f.1 ∉ updates.map (·.1)) ∨ f ∈ Config.update [] updates := by
  induction updates generalizing config with
  | nil => simp [Config.update]
  | cons u updates ih =>
    have hstep : ∀ c : Config, c.update (u :: updates) = (c.set u.1 u.2).update updates := fun _ => rfl
    rw [hstep, hstep, ih, @ih (Config.set [] u.1 u.2), mem_set, mem_set]
    simp only [List.map_cons, List.mem_cons, not_or, List.not_mem_nil, false_and, false_or]
    tauto

/-! ## Disk references -/

def diskKeyWords : List String :=
  ["ide", "sata", "scsi", "virtio", "efidisk", "tpmstate", "unused", "rootfs", "mp"]

/-- `DISK_CONFIG_KEYS.match`: a word of the list and digits; `$` also matches
before a final line break. -/
def diskConfigKey (key : String) : Bool :=
  diskKeyWords.any fun word =>
    match List.isPrefixOf? word.toList key.toList with
    | none => false
    | some rest => match rest.dropWhile Text.isDigit with
      | [] => true
      | ['\n'] => true
      | _ => false

/-- `parse_config_value_volid`; empty when the value names no volume. -/
def parseConfigValueVolid (value : String) : String :=
  let first := Text.strip (Text.partition ',' value).1
  if first = "" || first = "none" then ""
  else if "http://".toList.isPrefixOf first.toList || "https://".toList.isPrefixOf first.toList then ""
  else if !first.toList.contains ':' then ""
  else first

/-- The text after a prefix. -/
def afterPrefix (word : String) (cs : List Char) : Option (List Char) := List.isPrefixOf? word.toList cs

/-- Some digits, and the text after them. -/
def afterDigits (cs : List Char) : Option (List Char) :=
  match cs.span Text.isDigit with
  | ([], _) => none
  | (_, rest) => some rest

/-- `/base-<digits>-disk-<digits>.<extension>/<clone>` from here on: the text up
to the last slash's left, and the clone. -/
def baseHere (cs : List Char) : Option (List Char × List Char) := do
  let r ← afterPrefix "/base-" cs
  let r ← afterDigits r
  let r ← afterPrefix "-disk-" r
  let r ← afterDigits r
  let r ← afterPrefix "." r
  match r.span (· ≠ '/') with
  | ([], _) => none
  | (_, []) => none
  | (_, _ :: clone) =>
    -- `.+$` stops at a line break, unless it is the last character.
    let body := if clone.getLast? = some '\n' then clone.dropLast else clone
    if body.isEmpty || body.contains '\n' then none
    else some (cs.take (cs.length - clone.length - 1), body)

/-- The greedy `.*` before it: the last place where the rest matches. -/
def findBase : List Char → Option (List Char × List Char)
  | [] => none
  | c :: cs =>
    if c ≠ '\n' then
      match findBase cs with
      | some (base, clone) => some (c :: base, clone)
      | none => baseHere (c :: cs)
    else baseHere (c :: cs)

/-- `expand_linked_clone_volid`. -/
def expandLinkedCloneVolid (volid : String) : List String :=
  match Text.partition ':' volid with
  | (storage, some rest) =>
    if storage = "" then [volid]
    else match findBase rest.toList with
      | some (base, clone) => [storage ++ ":" ++ String.ofList base, storage ++ ":" ++ String.ofList clone]
      | none => [volid]
  | (_, none) => [volid]

mutual

/-- `visit` of `extract_disk_references`: what a value under a key refers to. -/
def visit : Json → String → List String
  | .obj fields, _ => visitFields fields
  | .arr xs, key => visitAll xs key
  | .str value, key =>
    if diskConfigKey key then
      let volid := parseConfigValueVolid value
      if volid = "" then [] else expandLinkedCloneVolid volid
    else []
  | _, _ => []

def visitAll : List Json → String → List String
  | [], _ => []
  | x :: xs, key => visit x key ++ visitAll xs key

def visitFields : List (String × Json) → List String
  | [] => []
  | (key, value) :: fields => visit value key ++ visitFields fields

end

/-- `sorted(set(...))` of texts. -/
def sortedSet (texts : List String) : List String := texts.dedup.insertionSort fun a b => ¬ b < a

@[simp] theorem mem_sortedSet {texts : List String} {s : String} : s ∈ sortedSet texts ↔ s ∈ texts := by
  simp [sortedSet]

/-- A sorted set is determined by its members. -/
theorem sortedSet_eq_iff {xs ys : List String} : sortedSet xs = sortedSet ys ↔ ∀ s, s ∈ xs ↔ s ∈ ys := by
  constructor
  · intro h s
    rw [← mem_sortedSet, h, mem_sortedSet]
  · intro h
    have hrel : ∀ zs : List String, sortedSet zs = zs.dedup.insertionSort (· ≤ ·) := by
      intro zs
      simp only [sortedSet, not_lt]
    have hperm : xs.dedup.Perm ys.dedup :=
      (List.perm_ext_iff_of_nodup (List.nodup_dedup xs) (List.nodup_dedup ys)).mpr (by simpa using h)
    rw [hrel, hrel]
    refine List.Perm.eq_of_pairwise' (List.pairwise_insertionSort _ _) (List.pairwise_insertionSort _ _) ?_
    exact ((List.perm_insertionSort _ _).trans hperm).trans (List.perm_insertionSort _ _).symm

theorem mem_visitFields {config : Config} {volid : String} :
    volid ∈ visitFields config ↔ ∃ f ∈ config, volid ∈ visit f.2 f.1 := by
  induction config with
  | nil => simp [visitFields]
  | cons f config ih => simp [visitFields, ih]

def extractDiskReferences (config : Config) : List String := sortedSet (visitFields config)

end PveHelper.Guests
