/-
Disks that a guest's configuration names, and the files they are. Three separate
readings have to meet on one text: `extract_disk_references` walks the configuration
and takes volume ids apart, `categorize_proxmox_path` looks at a file's path, and
`derive_volid` makes a volume id of it again. Whatever a disk key holds, wherever it
is nested, the file it stands for is not called an orphan.
-/
import PveHelper.Lib.Fields
import PveHelper.Files.Content
import PveHelper.Guests.Config

namespace PveHelper.Files

open Lib Guests

/-! ## Values in a configuration -/

/-- A text that a value holds under a key: lists pass their own key on, dictionaries name a new one. -/
inductive HoldsUnder (key value : String) : String → Json → Prop
  | here : HoldsUnder key value key (.str value)
  | inList {outer : String} {xs : List Json} {x : Json} : x ∈ xs → HoldsUnder key value outer x →
      HoldsUnder key value outer (.arr xs)
  | inObject {outer inner : String} {fields : List (String × Json)} {x : Json} : (inner, x) ∈ fields →
      HoldsUnder key value inner x → HoldsUnder key value outer (.obj fields)

theorem mem_visitAll {xs : List Json} {key volid : String} : volid ∈ visitAll xs key ↔ ∃ x ∈ xs, volid ∈ visit x key := by
  induction xs with
  | nil => simp [visitAll]
  | cons x xs ih => simp [visitAll, ih]

/-- The walk reaches every text a value holds. -/
theorem visit_of_holdsUnder {key value outer volid : String} {x : Json} (h : HoldsUnder key value outer x)
    (hv : volid ∈ visit (.str value) key) : volid ∈ visit x outer := by
  induction h with
  | here => exact hv
  | inList hmem _ ih =>
    rw [visit, mem_visitAll]
    exact ⟨_, hmem, ih⟩
  | inObject hmem _ ih =>
    rw [visit, mem_visitFields]
    exact ⟨_, hmem, ih⟩

/-- Some field of the configuration holds the text under the key. -/
def ConfigHolds (config : Config) (key value : String) : Prop := HoldsUnder key value "" (.obj config)

theorem mem_extract_of_holds {config : Config} {key value volid : String} (h : ConfigHolds config key value)
    (hkey : diskConfigKey key = true) (hvalue : parseConfigValueVolid value ≠ "")
    (hv : volid ∈ expandLinkedCloneVolid (parseConfigValueVolid value)) : volid ∈ extractDiskReferences config := by
  have hmem : volid ∈ visit (.str value) key := by
    rw [visit, if_pos hkey]
    simpa only [if_neg hvalue] using hv
  have hwalk := visit_of_holdsUnder h hmem
  rw [visit] at hwalk
  exact mem_sortedSet.mpr hwalk

/-! ## The texts of a disk -/

/-- A decimal number. -/
structure Decimal (s : String) : Prop where
  nonempty : s ≠ ""
  digits : ∀ c ∈ s.toList, Text.isDigit c = true

/-- A part of a volume id: not empty, no slash, comma or line break, no blank at its ends. -/
structure VolidPart (s : String) : Prop where
  nonempty : s ≠ ""
  slash : '/' ∉ s.toList
  comma : ',' ∉ s.toList
  lineBreak : '\n' ∉ s.toList
  head : ∀ c ∈ s.toList.head?, Text.isSpace c = false
  last : ∀ c ∈ s.toList.getLast?, Text.isSpace c = false

/-- A storage's name has no colon beside. -/
structure StoragePart (s : String) : Prop extends VolidPart s where
  colon : ':' ∉ s.toList

/-- `S:D/N`. -/
def plainVolid (storage vmid name : String) : String := Text.join ':' [storage, Text.join '/' [vmid, name]]

/-- `images/D/N`. -/
def imagePath (vmid name : String) : String := Text.join '/' ["images", vmid, name]

/-- `base-A-disk-B.EXT`. -/
def baseName (a b ext : String) : String := "base-" ++ a ++ "-disk-" ++ b ++ "." ++ ext

/-- `S:D1/base-A-disk-B.EXT/D2/N2`. -/
def compoundVolid (storage baseVmid base vmid name : String) : String :=
  Text.join ':' [storage, Text.join '/' [baseVmid, base, vmid, name]]

/-- A volume id on a storage, and a file that it stands for. -/
inductive DiskFile (storage : String) : String → String → Prop
  | plain {vmid name : String} : Decimal vmid → VolidPart name →
      DiskFile storage (plainVolid storage vmid name) (imagePath vmid name)
  | base {baseVmid a b ext vmid name : String} : Decimal baseVmid → Decimal a → Decimal b → VolidPart ext → Decimal vmid →
      VolidPart name →
      DiskFile storage (compoundVolid storage baseVmid (baseName a b ext) vmid name) (imagePath baseVmid (baseName a b ext))
  | overlay {baseVmid a b ext vmid name : String} : Decimal baseVmid → Decimal a → Decimal b → VolidPart ext →
      Decimal vmid → VolidPart name →
      DiskFile storage (compoundVolid storage baseVmid (baseName a b ext) vmid name) (imagePath vmid name)

theorem Decimal.cons {s : String} (h : Decimal s) : ∃ c cs, s.toList = c :: cs ∧ Text.isDigit c = true := by
  obtain ⟨c, cs, hs⟩ := Text.exists_cons_of_ne h.nonempty
  exact ⟨c, cs, hs, h.digits c (by simp [hs])⟩

theorem Decimal.not_mem {s : String} (h : Decimal s) {c : Char} (hc : Text.isDigit c = false) : c ∉ s.toList := by
  intro hmem
  rw [h.digits c hmem] at hc
  cases hc

/-! ## The value is read as its volume id -/

section
variable {storage rest : String} {d : Char} {cs : List Char}

theorem partition_storage (hs : StoragePart storage) :
    Text.partition ':' (Text.join ':' [storage, rest]) = (storage, some rest) := by
  rw [Text.partition_of_first (Text.toList_join_pair storage rest) hs.colon, String.ofList_toList]

theorem colon_mem : ':' ∈ (Text.join ':' [storage, rest]).toList := by
  rw [Text.toList_join_pair]
  simp

/-- A text with a colon is none without. -/
theorem volid_ne {word : String} (h : ':' ∉ word.toList) : Text.join ':' [storage, rest] ≠ word := by
  intro he
  exact h (he ▸ colon_mem)

/-- No URL begins like it: after the colon of one comes a slash. -/
theorem not_url (hs : StoragePart storage) (hrest : rest.toList = d :: cs) (hd : d ≠ '/') {url scheme : String}
    {after : List Char} (hurl : url.toList = scheme.toList ++ ':' :: '/' :: after) (hscheme : ':' ∉ scheme.toList) :
    url.toList.isPrefixOf (Text.join ':' [storage, rest]).toList = false := by
  by_contra hpre
  obtain ⟨t, ht⟩ := List.isPrefixOf_iff_prefix.mp (Bool.not_eq_false _ |>.mp hpre)
  rw [hurl, List.append_assoc, List.cons_append, List.cons_append] at ht
  have hcut := (Text.partition_of_first ht.symm hscheme).symm.trans (partition_storage hs)
  have hslash := congrArg String.toList (Option.some.inj (Prod.mk.inj hcut).2)
  rw [String.toList_ofList, hrest] at hslash
  exact hd (List.cons.inj hslash).1.symm

/-- The first field of the value is read as it is. -/
theorem parseConfigValueVolid_storage (hs : StoragePart storage) (hrest : rest.toList = d :: cs) (hd : d ≠ '/')
    (hlast : ∀ c ∈ rest.toList.getLast?, Text.isSpace c = false) {value : String}
    (hvalue : Text.strip (Text.partition ',' value).1 = Text.strip (Text.join ':' [storage, rest])) :
    parseConfigValueVolid value = Text.join ':' [storage, rest] := by
  have hstrip : Text.strip (Text.join ':' [storage, rest]) = Text.join ':' [storage, rest] := by
    refine Text.strip_of_ends (fun c hc => hs.head c ?_) fun c hc => hlast c ?_
    · obtain ⟨b, bs, hb⟩ := Text.exists_cons_of_ne hs.nonempty
      rw [Text.toList_join_pair] at hc
      simpa [hb] using hc
    · rw [Text.toList_join_pair, hrest] at hc
      rw [hrest]
      simpa using hc
  have hcolon : ':' ∈ (Text.join ':' [storage, rest]).toList := colon_mem
  have hempty : Text.join ':' [storage, rest] ≠ "" := volid_ne (by decide)
  have hnone : Text.join ':' [storage, rest] ≠ "none" := volid_ne (by decide)
  have hhttp : "http://".toList.isPrefixOf (Text.join ':' [storage, rest]).toList = false :=
    not_url hs hrest hd (show _ = "http".toList ++ ':' :: '/' :: ['/'] from rfl) (by decide)
  have hhttps : "https://".toList.isPrefixOf (Text.join ':' [storage, rest]).toList = false :=
    not_url hs hrest hd (show _ = "https".toList ++ ':' :: '/' :: ['/'] from rfl) (by decide)
  simp only [parseConfigValueVolid, hvalue, hstrip, hempty, hnone, hhttp, hhttps, List.contains_eq_mem, hcolon,
    decide_false, decide_true, Bool.or_self, Bool.false_eq_true, if_false, Bool.not_true]

end

/-! ## Taking a volume id apart -/

theorem afterPrefix_append (word : String) (r : List Char) : afterPrefix word (word.toList ++ r) = some r :=
  List.isPrefixOf?_eq_some_iff_append_eq.mpr rfl

theorem suffix_of_afterPrefix {word : String} {cs r : List Char} (h : afterPrefix word cs = some r) : r <:+ cs :=
  ⟨word.toList, List.isPrefixOf?_eq_some_iff_append_eq.mp h⟩

theorem suffix_of_afterDigits {cs r : List Char} (h : afterDigits cs = some r) : r <:+ cs := by
  rw [afterDigits, List.span_eq_takeWhile_dropWhile] at h
  split at h
  · cases h
  · rename_i digits rest hspan
    cases h
    rw [← (Prod.mk.inj hspan).2]
    exact List.dropWhile_suffix _

/-- Digits up to a character that is none. -/
theorem afterDigits_append {n : String} (hn : Decimal n) {c : Char} (hc : Text.isDigit c = false) (cs : List Char) :
    afterDigits (n.toList ++ c :: cs) = some (c :: cs) := by
  obtain ⟨d, ds, hd, -⟩ := hn.cons
  rw [afterDigits, List.span_eq_takeWhile_dropWhile, List.takeWhile_append_of_pos hn.digits,
    List.dropWhile_append_of_pos hn.digits, List.takeWhile_cons_of_neg (by simp [hc]),
    List.dropWhile_cons_of_neg (by simp [hc]), List.append_nil, hd]

/-- A base is followed by a slash. -/
theorem baseHere_of_no_slash {cs : List Char} (h : '/' ∉ cs) : baseHere ('/' :: cs) = none := by
  rw [Option.eq_none_iff_forall_not_mem]
  intro found hfound
  simp only [baseHere, Option.mem_def, Option.bind_eq_bind, Option.bind_eq_some_iff] at hfound
  obtain ⟨r₁, h₁, r₂, h₂, r₃, h₃, r₄, h₄, r₅, h₅, hmatch⟩ := hfound
  have htail : r₁ <:+ cs := by
    rcases List.suffix_cons_iff.mp (suffix_of_afterPrefix h₁) with heq | hsuf
    · rw [heq] at h₁
      have hlen := congrArg List.length (List.isPrefixOf?_eq_some_iff_append_eq.mp h₁)
      simp at hlen
      omega
    · exact hsuf
  have hsuf : r₅ <:+ cs := (suffix_of_afterPrefix h₅).trans ((suffix_of_afterDigits h₄).trans
    ((suffix_of_afterPrefix h₃).trans ((suffix_of_afterDigits h₂).trans htail)))
  have hdrop : r₅.dropWhile (· ≠ '/') = [] := Text.dropWhile_of_not_mem fun hmem => h (hsuf.subset hmem)
  rw [List.span_eq_takeWhile_dropWhile, hdrop] at hmatch
  split at hmatch <;> simp_all

/-- A base begins with a slash and a word. -/
theorem baseHere_of_word {cs : List Char} (h : ∀ r, "/base-".toList ++ r ≠ cs) : baseHere cs = none := by
  have hpre : afterPrefix "/base-" cs = none := by
    rw [Option.eq_none_iff_forall_not_mem]
    intro r hr
    exact h r (List.isPrefixOf?_eq_some_iff_append_eq.mp hr)
  rw [baseHere, hpre]
  rfl

theorem baseHere_of_ne {c : Char} (hc : c ≠ '/') (cs : List Char) : baseHere (c :: cs) = none :=
  baseHere_of_word fun _ hr => hc (List.cons.inj hr).1.symm

theorem baseHere_of_digit {c : Char} (hc : Text.isDigit c = true) (cs : List Char) :
    baseHere ('/' :: c :: cs) = none := by
  refine baseHere_of_word fun r hr => ?_
  have hb : 'b' = c := (List.cons.inj (List.cons.inj hr).2).1
  rw [← hb] at hc
  revert hc
  decide

/-- Where nothing is found, nothing is found from an earlier place without a slash either. -/
theorem findBase_append_of_none {front cs : List Char} (hfront : '/' ∉ front) (h : findBase cs = none) :
    findBase (front ++ cs) = none := by
  induction front with
  | nil => exact h
  | cons c front ih =>
    obtain ⟨hc, hfront⟩ := not_or.mp (List.mem_cons.not.mp hfront)
    have hhere := baseHere_of_ne (Ne.symm hc) (front ++ cs)
    rw [List.cons_append, findBase, ih hfront, hhere]
    simp

theorem findBase_of_no_slash {cs : List Char} (h : '/' ∉ cs) : findBase ('/' :: cs) = none := by
  have hrest : findBase cs = none := by
    have hall := findBase_append_of_none h (show findBase [] = none from rfl)
    rwa [List.append_nil] at hall
  rw [findBase, hrest, baseHere_of_no_slash h]
  simp

/-- What is found is found from every earlier place of the line. -/
theorem findBase_append_of_some {front cs base clone : List Char} (hfront : '\n' ∉ front)
    (h : findBase cs = some (base, clone)) : findBase (front ++ cs) = some (front ++ base, clone) := by
  induction front with
  | nil => exact h
  | cons c front ih =>
    obtain ⟨hc, hfront⟩ := not_or.mp (List.mem_cons.not.mp hfront)
    rw [List.cons_append, findBase, if_pos (Ne.symm hc), ih hfront]
    rfl

/-- The base of a compound id, up to the slash after it. -/
theorem baseHere_base {a b ext : String} (ha : Decimal a) (hb : Decimal b) (hext : VolidPart ext) {clone : List Char}
    (hne : clone ≠ []) (hline : '\n' ∉ clone) :
    baseHere ('/' :: (baseName a b ext).toList ++ '/' :: clone) = some ('/' :: (baseName a b ext).toList, clone) := by
  have htext : '/' :: (baseName a b ext).toList ++ '/' :: clone =
      "/base-".toList ++ (a.toList ++ '-' :: ("disk-".toList ++ (b.toList ++ '.' :: (ext.toList ++ '/' :: clone)))) := by
    simp [baseName]
  have h₃ : afterPrefix "-disk-" ('-' :: ("disk-".toList ++ (b.toList ++ '.' :: (ext.toList ++ '/' :: clone)))) =
      some (b.toList ++ '.' :: (ext.toList ++ '/' :: clone)) := afterPrefix_append "-disk-" _
  have h₅ : afterPrefix "." ('.' :: (ext.toList ++ '/' :: clone)) = some (ext.toList ++ '/' :: clone) :=
    afterPrefix_append "." _
  have hspan : (ext.toList ++ '/' :: clone).span (· ≠ '/') = (ext.toList, '/' :: clone) := Text.span_of_first hext.slash
  have hlast : clone.getLast? ≠ some '\n' := fun h => hline (List.mem_of_getLast? h)
  obtain ⟨e, es, he⟩ := Text.exists_cons_of_ne hext.nonempty
  unfold baseHere
  rw [htext, Option.bind_eq_bind, afterPrefix_append, Option.bind_some, afterDigits_append ha (by decide), Option.bind_some,
    h₃, Option.bind_some, afterDigits_append hb (by decide), Option.bind_some, h₅, Option.bind_some, hspan, he]
  simp only [hlast, if_false]
  have hbody : (clone.isEmpty || clone.contains '\n') = false := by simp [hne, hline]
  have hlen : ('/' :: (baseName a b ext).toList ++ '/' :: clone).length - clone.length - 1 =
      ('/' :: (baseName a b ext).toList).length := by
    simp
    omega
  rw [hbody, if_neg Bool.false_ne_true, ← he, ← htext, hlen, List.take_left']
  rfl

theorem slash_not_mem_baseName {a b ext : String} (ha : Decimal a) (hb : Decimal b) (hext : VolidPart ext) :
    '/' ∉ (baseName a b ext).toList := by
  have hdigit : Text.isDigit '/' = false := by decide
  simp [baseName, ha.not_mem hdigit, hb.not_mem hdigit, hext.slash]

/-- The compound is cut after its base. -/
theorem findBase_compound {baseVmid a b ext vmid name : String} (hbase : Decimal baseVmid) (ha : Decimal a) (hb : Decimal b)
    (hext : VolidPart ext) (hvmid : Decimal vmid) (hname : VolidPart name) :
    findBase (Text.join '/' [baseVmid, baseName a b ext, vmid, name]).toList =
      some ((Text.join '/' [baseVmid, baseName a b ext]).toList, (Text.join '/' [vmid, name]).toList) := by
  have hslash : '/' ∉ vmid.toList := hvmid.not_mem (by decide)
  -- nothing matches at the slash before the name, nor at the one before the clone's own number
  have hlast : findBase (vmid.toList ++ '/' :: name.toList) = none :=
    findBase_append_of_none hslash (findBase_of_no_slash hname.slash)
  have hmiddle : findBase ('/' :: (vmid.toList ++ '/' :: name.toList)) = none := by
    obtain ⟨d, ds, hd, hdigit⟩ := hvmid.cons
    rw [findBase, hlast, hd, List.cons_append, baseHere_of_digit hdigit]
    simp
  have hline : '\n' ∉ vmid.toList ++ '/' :: name.toList := by
    simp [hvmid.not_mem (show Text.isDigit '\n' = false by decide), hname.lineBreak]
  have hfound : findBase ('/' :: (baseName a b ext).toList ++ '/' :: (vmid.toList ++ '/' :: name.toList)) =
      some ('/' :: (baseName a b ext).toList, vmid.toList ++ '/' :: name.toList) := by
    have hrest := findBase_append_of_none (slash_not_mem_baseName ha hb hext) hmiddle
    have hhere := baseHere_base ha hb hext (by simp) hline
    rw [List.cons_append] at hhere ⊢
    rw [findBase, hrest, hhere]
    simp
  have hwhole := findBase_append_of_some (hbase.not_mem (show Text.isDigit '\n' = false by decide)) hfound
  rw [Text.toList_join_cons, Text.toList_join_cons, Text.toList_join_pair, Text.toList_join_pair]
  exact hwhole

theorem findBase_plain {vmid name : String} (hvmid : Decimal vmid) (hname : VolidPart name) :
    findBase (Text.join '/' [vmid, name]).toList = none := by
  rw [Text.toList_join_pair]
  exact findBase_append_of_none (hvmid.not_mem (by decide)) (findBase_of_no_slash hname.slash)

theorem storage_append {storage rest : String} : storage ++ ":" ++ rest = Text.join ':' [storage, rest] := by
  rw [← String.toList_inj, Text.toList_join_pair]
  simp

theorem expand_plain {storage vmid name : String} (hs : StoragePart storage) (hvmid : Decimal vmid) (hname : VolidPart name) :
    expandLinkedCloneVolid (plainVolid storage vmid name) = [plainVolid storage vmid name] := by
  rw [expandLinkedCloneVolid, plainVolid, partition_storage hs]
  simp only [if_neg hs.nonempty, findBase_plain hvmid hname]

theorem expand_compound {storage baseVmid a b ext vmid name : String} (hs : StoragePart storage) (hbase : Decimal baseVmid)
    (ha : Decimal a) (hb : Decimal b) (hext : VolidPart ext) (hvmid : Decimal vmid) (hname : VolidPart name) :
    expandLinkedCloneVolid (compoundVolid storage baseVmid (baseName a b ext) vmid name) =
      [plainVolid storage baseVmid (baseName a b ext), plainVolid storage vmid name] := by
  rw [expandLinkedCloneVolid, compoundVolid, partition_storage hs]
  simp only [if_neg hs.nonempty, findBase_compound hbase ha hb hext hvmid hname, String.ofList_toList, storage_append]
  rfl

/-! ## The file of a disk -/

section
variable {storage vmid name : String}

theorem split_imagePath (hvmid : Decimal vmid) (hname : '/' ∉ name.toList) :
    Text.split '/' (imagePath vmid name) = ["images", vmid, name] := by
  refine Text.split_join (by simp) ?_
  simp only [List.mem_cons, List.not_mem_nil, or_false, forall_eq_or_imp, forall_eq]
  exact ⟨by decide, hvmid.not_mem (by decide), hname⟩

theorem Decimal.is_part (h : Decimal vmid) : (vmid != "" && vmid != ".") = true := by
  have hdot : vmid ≠ "." := by
    rintro rfl
    have hdigit := h.digits '.' (by decide)
    revert hdigit
    decide
  simp [h.nonempty, hdot]

/-- The components of the path; a dot is none. -/
theorem components_imagePath (hvmid : Decimal vmid) (hname : '/' ∉ name.toList) :
    ((Text.split '/' (imagePath vmid name)).filter fun part => part != "" && part != ".") =
      "images" :: vmid :: [name].filter fun part => part != "" && part != "." := by
  have himages : ("images" != "" && "images" != ".") = true := by decide
  rw [split_imagePath hvmid hname, List.filter_cons, if_pos himages, List.filter_cons, if_pos hvmid.is_part]

theorem posixParts_imagePath (hvmid : Decimal vmid) (hname : '/' ∉ name.toList) :
    Text.posixParts (imagePath vmid name) = "images" :: vmid :: [name].filter fun part => part != "" && part != "." := by
  have hroot : (imagePath vmid name).toList.takeWhile (· = '/') = [] := by
    rw [imagePath, Text.toList_join_cons]
    rfl
  simp only [Text.posixParts, hroot, List.length_nil, if_true, List.nil_append, components_imagePath hvmid hname]

/-- The directory itself, spelled with a dot, is no disk. -/
theorem categorize_dot (hvmid : Decimal vmid) : categorizeProxmoxPath (imagePath vmid ".") ≠ .vmDisk := by
  have hslash : '/' ∉ ".".toList := by decide
  have hparts : Text.posixParts (imagePath vmid ".") = ["images", vmid] := posixParts_imagePath hvmid hslash
  have hplain : trashDirectoryNames.contains "images" = false ∧ Text.startsWith "images" ".pve-helper" = false := by decide
  simp only [categorizeProxmoxPath, hparts, hplain.1, hplain.2]
  simp

/-- A disk's file has the volume id the configuration names. -/
theorem derived_imagePath (hvmid : Decimal vmid) (hname : '/' ∉ name.toList) (hne : name ≠ "")
    (hcat : categorizeProxmoxPath (imagePath vmid name) = .vmDisk) :
    ((deriveVolid storage (imagePath vmid name)).map (·.volid)).getD "" = plainVolid storage vmid name := by
  have hdot : name ≠ "." := by
    rintro rfl
    exact categorize_dot hvmid hcat
  have hpart : ([name].filter fun part => part != "" && part != ".") = [name] := by simp [hne, hdot]
  have hlast : Posix.name (imagePath vmid name) = name := by
    rw [Posix.name, components_imagePath hvmid hname, hpart]
    rfl
  have hvolid : storage ++ ":" ++ vmid ++ "/" ++ name = plainVolid storage vmid name := by
    rw [plainVolid, ← String.toList_inj, Text.toList_join_pair, Text.toList_join_pair]
    simp
  simp [deriveVolid, hcat, posixParts_imagePath hvmid hname, hlast, hvolid]

end

/-- Only an unreferenced disk of a guest is called an orphan. -/
theorem classifyEntry_likelyOrphan {facts : ScanFacts} {path derivedVolid : String} {entryType : EntryType}
    {category : ContentCategory} (h : (classifyEntry facts path entryType category derivedVolid).classification = .likelyOrphan) :
    category = .vmDisk ∧ (derivedVolid = "" ∨ derivedVolid ∉ facts.referencedVolids) := by
  unfold classifyEntry at h
  simp only at h
  split at h
  · cases h
  · split at h
    · split at h <;> cases h
    · split at h
      · cases h
      · rename_i hunref
        split at h
        · split at h <;> cases h
        · split at h
          · split at h <;> cases h
          · split at h
            · rename_i hdisk
              refine ⟨hdisk, ?_⟩
              simp only [Bool.and_eq_true, not_and, List.contains_iff_mem, ne_eq, decide_eq_true_eq] at hunref
              by_cases hempty : derivedVolid = ""
              · exact .inl hempty
              · exact .inr (hunref hempty)
            · split at h
              · cases h
              · split at h
                · split at h <;> cases h
                · split at h <;> cases h

/-! ## A configured disk is no orphan -/

/-- A volume id after its storage: it begins with a digit and ends with a name. -/
theorem parse_of_volid {storage rest vmid name value : String} {middle front : List Char} (hs : StoragePart storage)
    (hvmid : Decimal vmid) (hname : VolidPart name) (hhead : rest.toList = vmid.toList ++ middle)
    (htail : rest.toList = front ++ '/' :: name.toList)
    (hvalue : Text.strip (Text.partition ',' value).1 = Text.strip (Text.join ':' [storage, rest])) :
    parseConfigValueVolid value = Text.join ':' [storage, rest] := by
  obtain ⟨d, ds, hd, hdigit⟩ := hvmid.cons
  have hdne : d ≠ '/' := by
    rintro rfl
    revert hdigit
    decide
  refine parseConfigValueVolid_storage hs (hhead.trans (by rw [hd]; rfl)) hdne (fun c hc => hname.last c ?_) hvalue
  obtain ⟨e, es, he⟩ := Text.exists_cons_of_ne hname.nonempty
  rw [htail] at hc
  simpa [he] using hc

theorem parse_of_compound {storage baseVmid base vmid name value : String} (hs : StoragePart storage) (hbase : Decimal baseVmid)
    (hname : VolidPart name)
    (hvalue : Text.strip (Text.partition ',' value).1 = Text.strip (compoundVolid storage baseVmid base vmid name)) :
    parseConfigValueVolid value = compoundVolid storage baseVmid base vmid name := by
  have htext : (Text.join '/' [baseVmid, base, vmid, name]).toList =
      baseVmid.toList ++ ('/' :: base.toList ++ ('/' :: vmid.toList ++ '/' :: name.toList)) := by
    rw [Text.toList_join_cons, Text.toList_join_cons, Text.toList_join_pair]
    rfl
  have htail : (Text.join '/' [baseVmid, base, vmid, name]).toList =
      baseVmid.toList ++ '/' :: base.toList ++ '/' :: vmid.toList ++ '/' :: name.toList := by
    rw [htext, List.append_assoc, List.append_assoc]
  exact parse_of_volid hs hbase hname htext htail hvalue

theorem VolidPart.baseName {a b ext : String} (ha : Decimal a) (hb : Decimal b) (hext : VolidPart ext) :
    '/' ∉ (baseName a b ext).toList ∧ Files.baseName a b ext ≠ "" := by
  refine ⟨slash_not_mem_baseName ha hb hext, fun h => ?_⟩
  have hlist := congrArg String.toList h
  simp [Files.baseName] at hlist

/-- The references of the value name the file's disk, under its own volume id. -/
theorem DiskFile.referenced {storage volid path value : String} (hs : StoragePart storage) (h : DiskFile storage volid path)
    (hvalue : Text.strip (Text.partition ',' value).1 = Text.strip volid) :
    ∃ vmid name, path = imagePath vmid name ∧ Decimal vmid ∧ '/' ∉ name.toList ∧ name ≠ "" ∧
      parseConfigValueVolid value ≠ "" ∧
      plainVolid storage vmid name ∈ expandLinkedCloneVolid (parseConfigValueVolid value) := by
  cases h with
  | @plain vmid name hvmid hname =>
    have htext : (Text.join '/' [vmid, name]).toList = vmid.toList ++ '/' :: name.toList := Text.toList_join_pair vmid name
    have hparse : parseConfigValueVolid value = plainVolid storage vmid name :=
      parse_of_volid hs hvmid hname htext htext hvalue
    refine ⟨vmid, name, rfl, hvmid, hname.slash, hname.nonempty, ?_, ?_⟩
    · rw [hparse]
      exact volid_ne (by decide)
    · rw [hparse, expand_plain hs hvmid hname]
      exact List.mem_singleton.mpr rfl
  | @base baseVmid a b ext vmid name hbase ha hb hext hvmid hname =>
    have hparse := parse_of_compound hs hbase hname hvalue
    obtain ⟨hslash, hne⟩ := VolidPart.baseName ha hb hext
    refine ⟨baseVmid, baseName a b ext, rfl, hbase, hslash, hne, ?_, ?_⟩
    · rw [hparse]
      exact volid_ne (by decide)
    · rw [hparse, expand_compound hs hbase ha hb hext hvmid hname]
      simp
  | @overlay baseVmid a b ext vmid name hbase ha hb hext hvmid hname =>
    have hparse := parse_of_compound hs hbase hname hvalue
    refine ⟨vmid, name, rfl, hvmid, hname.slash, hname.nonempty, ?_, ?_⟩
    · rw [hparse]
      exact volid_ne (by decide)
    · rw [hparse, expand_compound hs hbase ha hb hext hvmid hname]
      simp

/-- A disk that a configuration names is never called an orphan. -/
theorem configured_disk_not_orphan {config : Config} {key value storage volid path : String}
    (hheld : ConfigHolds config key value) (hkey : diskConfigKey key = true) (hs : StoragePart storage)
    (hfile : DiskFile storage volid path) (hvalue : Text.strip (Text.partition ',' value).1 = Text.strip volid)
    {facts : ScanFacts} (hrefs : ∀ v ∈ extractDiskReferences config, v ∈ facts.referencedVolids) (entryType : EntryType) :
    (classifyEntry facts path entryType (categorizeProxmoxPath path)
      (((deriveVolid storage path).map (·.volid)).getD "")).classification ≠ .likelyOrphan := by
  intro horphan
  obtain ⟨hdisk, hunref⟩ := classifyEntry_likelyOrphan horphan
  obtain ⟨vmid, name, rfl, hvmid, hslash, hne, hvolid, hmem⟩ := hfile.referenced hs hvalue
  rw [derived_imagePath hvmid hslash hne hdisk] at hunref
  have hreferenced := hrefs _ (mem_extract_of_holds hheld hkey hvolid hmem)
  rcases hunref with hempty | hnot
  · exact volid_ne (by decide) hempty
  · exact hnot hreferenced

/-- `nas:5/base-5-disk-0.raw/2/vm-2-disk-0.raw`. -/
def cloneDisk : String := compoundVolid "nas" "5" (baseName "5" "0" "raw") "2" "vm-2-disk-0.raw"

/-- A linked clone's disk, in a list under its key. -/
def cloneConfig : Config :=
  [("name", .str "web"), ("pending", .obj [("scsi0", .arr [.str (cloneDisk ++ ",size=1G")])])]

/-- The overlay of the clone, with nothing else referenced and the gate open. -/
theorem clone_overlay_not_orphan :
    (classifyEntry ⟨extractDiskReferences cloneConfig, [], true, []⟩ (imagePath "2" "vm-2-disk-0.raw") .file
      (categorizeProxmoxPath (imagePath "2" "vm-2-disk-0.raw"))
      (((deriveVolid "nas" (imagePath "2" "vm-2-disk-0.raw")).map (·.volid)).getD "")).classification ≠ .likelyOrphan := by
  have hnumber : ∀ n ∈ ["5", "0", "2"], Decimal n := by
    simp only [List.mem_cons, List.not_mem_nil, or_false, forall_eq_or_imp, forall_eq]
    exact ⟨⟨by decide, List.all_eq_true.mp (by decide)⟩, ⟨by decide, List.all_eq_true.mp (by decide)⟩,
      ⟨by decide, List.all_eq_true.mp (by decide)⟩⟩
  have hpart : ∀ s ∈ ["vm-2-disk-0.raw", "raw", "nas"], VolidPart s := by
    simp only [List.mem_cons, List.not_mem_nil, or_false, forall_eq_or_imp, forall_eq]
    refine ⟨⟨by decide, by decide, by decide, by decide, ?_, ?_⟩, ⟨by decide, by decide, by decide, by decide, ?_, ?_⟩,
      ⟨by decide, by decide, by decide, by decide, ?_, ?_⟩⟩ <;>
    · rintro c ⟨⟩
      decide
  have hfile : DiskFile "nas" cloneDisk (imagePath "2" "vm-2-disk-0.raw") :=
    .overlay (hnumber _ (by simp)) (hnumber _ (by simp)) (hnumber _ (by simp)) (hpart _ (by simp)) (hnumber _ (by simp))
      (hpart _ (by simp))
  have hheld : ConfigHolds cloneConfig "scsi0" (cloneDisk ++ ",size=1G") :=
    .inObject (List.mem_cons_of_mem _ (List.mem_cons_self ..))
      (.inObject (List.mem_cons_self ..) (.inList (List.mem_cons_self ..) .here))
  have hcomma : ',' ∉ cloneDisk.toList := by
    simp [cloneDisk, compoundVolid, Text.toList_join_cons, Text.join_singleton, baseName]
  have htext : (cloneDisk ++ ",size=1G").toList = cloneDisk.toList ++ ',' :: "size=1G".toList := by
    rw [String.toList_append]
    rfl
  have hcut : (Text.partition ',' (cloneDisk ++ ",size=1G")).1 = cloneDisk := by
    rw [Text.partition_of_first htext hcomma]
  have hkey : diskConfigKey "scsi0" = true := by decide
  have hs : StoragePart "nas" := ⟨hpart _ (by simp), by decide⟩
  refine configured_disk_not_orphan hheld hkey hs hfile (congrArg Text.strip hcut) ?_ .file
  dsimp only
  exact fun v hv => hv

end PveHelper.Files
