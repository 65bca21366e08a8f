/-
Tags as texts (`core/services/tags.py`). A list of tags is one text, read at semicolons,
commas and blanks, and every reading lowers the tags and keeps each once, so a list that
is read and joined again is the list of its lowered tags.
-/
import PveHelper.Guests.Config
import PveHelper.Lib.Fields
import PveHelper.Lib.Json

namespace PveHelper.Tags

open Lib

/-- `[;,\s]`. -/
def isTagSeparator (c : Char) : Bool := c = ';' || c = ',' || Text.isSpace c

/-- What the formats of tags read as theirs. -/
def isReserved (c : Char) : Bool := isTagSeparator c || c = ':' || c = '='

/-- `str.lower`, as far as tags rely on it: once is enough, texts of ASCII characters are
lowered letter by letter, no text vanishes, and none of the formats' characters comes out
that did not go in. -/
structure Lowering where
  lower : String → String
  lower_lower : ∀ s, lower (lower s) = lower s
  lower_ascii : ∀ s, (∀ c ∈ s.toList, c.toNat < 128) → lower s = Text.lower s
  lower_ne : ∀ s, s ≠ "" → lower s ≠ ""
  mem_of_reserved : ∀ s c, isReserved c = true → c ∈ (lower s).toList → c ∈ s.toList

/-! ## Reading and joining -/

/-- `re.split(r"[;,\s]+", value)`; the empty texts within a run fall out with the others. -/
def tagParts (value : String) : List String := (value.toList.splitOnP isTagSeparator).map String.ofList

/-- The loop of `parse_tags` over lowered texts, after these. -/
def keepNew (seen : List String) : List String → List String
  | [] => []
  | tag :: rest => if tag = "" || seen.contains tag then keepNew seen rest else tag :: keepNew (tag :: seen) rest

section
variable (L : Lowering)

def parseParts (parts : List String) : List String := keepNew [] (parts.map fun raw => L.lower (Text.strip raw))

/-- `parse_tags` of a text. -/
def parseTags (value : String) : List String := parseParts L (tagParts (Text.strip value))

/-- `parse_tags` of a value that is no object. -/
def parseTagsOf : Json → List String
  | .arr items => parseParts L (items.map Json.shown)
  | value => parseTags L (if value.truthy then value.shown else "")

/-- `parse_tags(config)`. -/
def configTags (config : List (String × Json)) : List String := parseTagsOf L ((Json.lookup config "tags").getD .null)

/-- `join_tags`. -/
def joinTags (tags : List String) : String := Text.join ';' (parseParts L tags)

end

/-! ## Names and colours -/

def isTagStart (c : Char) : Bool := c.isLower || c.isDigit || c = '_'

/-- `TAG_RE`. -/
def matchesTag (tag : String) : Bool :=
  match tag.toList with
  | [] => false
  | c :: cs => isTagStart c && cs.all fun c => isTagStart c || c = '+' || c = '.' || c = '-'

/-- `validate_tag`; none where it raises. -/
def validateTag (L : Lowering) (tag : String) : Option String :=
  let tag := L.lower (Text.strip tag)
  if matchesTag tag then some tag else none

/-- A name that `validate_tag` returns. -/
structure IsTagName (L : Lowering) (tag : String) : Prop where
  valid : matchesTag tag = true
  lowered : L.lower tag = tag

def isHexDigit (c : Char) : Bool := c.isDigit || ('a' ≤ c && c ≤ 'f')

/-- `HEX_RE`. -/
def isColor (value : String) : Bool := value.toList.length = 6 && value.toList.all isHexDigit

/-- `removeprefix("#")`. -/
def withoutHash (value : String) : String :=
  match value.toList with
  | '#' :: rest => String.ofList rest
  | _ => value

/-- `validate_color`; none where it raises. -/
def validateColor (L : Lowering) (color : String) : Option String :=
  let value := withoutHash (L.lower (Text.strip color))
  if value ≠ "" && !isColor value then none else some value

def hexValue (c : Char) : Nat := if c.isDigit then c.toNat - 48 else c.toNat - 87

/-- `readable_foreground` of a validated colour. The luminance is above 0.55, in floats as in
fractions. -/
def readableForeground (background : String) : String :=
  match background.toList.map hexValue with
  | [r₁, r₂, g₁, g₂, b₁, b₂] =>
    if 1402500 < 2126 * (16 * r₁ + r₂) + 7152 * (16 * g₁ + g₂) + 722 * (16 * b₁ + b₂) then "000000" else "ffffff"
  | _ => ""

/-! ## What a list of tags says -/

/-- The tags of a text, spelled as they are there. -/
def tagWords (value : String) : List String := (tagParts value).filter (· ≠ "")

section
variable {seen tags : List String} {x : String}

theorem mem_keepNew : x ∈ keepNew seen tags ↔ x ∈ tags ∧ x ≠ "" ∧ x ∉ seen := by
  induction tags generalizing seen with
  | nil => simp [keepNew]
  | cons tag tags ih =>
    unfold keepNew
    by_cases hskip : (tag = "" || seen.contains tag) = true
    · rw [if_pos hskip, ih]
      have hskip' : tag = "" ∨ tag ∈ seen := by simpa using hskip
      constructor
      · rintro ⟨hx, hrest⟩
        exact ⟨List.mem_cons_of_mem _ hx, hrest⟩
      · rintro ⟨hx, hne, hseen⟩
        rcases List.mem_cons.mp hx with rfl | hx
        · exact (hskip'.elim hne hseen).elim
        · exact ⟨hx, hne, hseen⟩
    · have hkeep : tag ≠ "" ∧ tag ∉ seen := by simpa using hskip
      rw [if_neg hskip, List.mem_cons, List.mem_cons, ih]
      constructor
      · rintro (rfl | ⟨hx, hne, hseen⟩)
        · exact ⟨.inl rfl, hkeep⟩
        · exact ⟨.inr hx, hne, fun h => hseen (List.mem_cons_of_mem _ h)⟩
      · rintro ⟨rfl | hx, hne, hseen⟩
        · exact .inl rfl
        · by_cases hsame : x = tag
          · exact .inl hsame
          · exact .inr ⟨hx, hne, by simp [hsame, hseen]⟩

theorem nodup_keepNew : (keepNew seen tags).Nodup := by
  induction tags generalizing seen with
  | nil => exact List.nodup_nil
  | cons tag tags ih =>
    unfold keepNew
    split
    · exact ih
    · refine List.nodup_cons.mpr ⟨fun h => ?_, ih⟩
      exact (mem_keepNew.mp h).2.2 List.mem_cons_self

/-- Tags that are there once each are all kept. -/
theorem keepNew_of_nodup (hnodup : tags.Nodup) (hne : ∀ t ∈ tags, t ≠ "") (hseen : ∀ t ∈ tags, t ∉ seen) :
    keepNew seen tags = tags := by
  induction tags generalizing seen with
  | nil => rfl
  | cons tag tags ih =>
    have hkeep : tag ≠ "" ∧ tag ∉ seen := ⟨hne tag List.mem_cons_self, hseen tag List.mem_cons_self⟩
    obtain ⟨hout, hnodup⟩ := List.nodup_cons.mp hnodup
    rw [keepNew, if_neg (by simpa using hkeep), ih hnodup (fun t ht => hne t (List.mem_cons_of_mem _ ht))]
    intro t ht hmem
    rcases List.mem_cons.mp hmem with rfl | hmem
    · exact hout ht
    · exact hseen t (List.mem_cons_of_mem _ ht) hmem

/-- Empty texts make no difference. -/
theorem keepNew_filter : keepNew seen (tags.filter (· ≠ "")) = keepNew seen tags := by
  induction tags generalizing seen with
  | nil => rfl
  | cons tag tags ih =>
    by_cases hempty : tag = ""
    · subst hempty
      rw [List.filter_cons_of_neg (by simp), ih]
      rfl
    · rw [List.filter_cons_of_pos (by simpa using hempty), keepNew, keepNew]
      split
      · exact ih
      · rw [ih]

end

/-! ## Blanks at the ends -/

theorem filter_splitOnP_dropWhile {p q : Char → Bool} (hq : ∀ c, q c = true → p c = true) (cs : List Char) :
    ((cs.dropWhile q).splitOnP p).filter (· ≠ []) = (cs.splitOnP p).filter (· ≠ []) := by
  induction cs with
  | nil => rfl
  | cons c cs ih =>
    by_cases hc : q c = true
    · rw [List.dropWhile_cons_of_pos hc, ih, List.splitOnP_cons_eq_if_modifyHead, if_pos (hq c hc),
        List.filter_cons_of_neg (by simp)]
    · rw [List.dropWhile_cons_of_neg hc]

theorem tagWords_eq (value : String) :
    tagWords value = ((value.toList.splitOnP isTagSeparator).filter (· ≠ [])).map String.ofList := by
  have hempty : ∀ l : List Char, String.ofList l = "" ↔ l = [] := by
    intro l
    constructor
    · intro h
      rw [← String.toList_ofList (l := l), h]
      rfl
    · rintro rfl
      rfl
  unfold tagWords tagParts
  rw [List.filter_map]
  congr 1
  refine List.filter_congr fun l _ => ?_
  simp only [Function.comp_apply, ne_eq, hempty]

theorem tagWords_strip (value : String) : tagWords (Text.strip value) = tagWords value := by
  have hspace : ∀ c, Text.isSpace c = true → isTagSeparator c = true := by
    intro c hc
    unfold isTagSeparator
    rw [hc, Bool.or_true]
  -- what is cut off behind is blank, and so is what is cut off in front
  obtain ⟨blank, hsplit, hblank⟩ : ∃ blank, value.toList.dropWhile Text.isSpace =
      ((value.toList.dropWhile Text.isSpace).reverse.dropWhile Text.isSpace).reverse ++ blank ∧
        ∀ c ∈ blank, Text.isSpace c = true := by
    refine ⟨((value.toList.dropWhile Text.isSpace).reverse.takeWhile Text.isSpace).reverse, ?_, fun c hc => ?_⟩
    · rw [← List.reverse_append, List.takeWhile_append_dropWhile, List.reverse_reverse]
    · exact List.mem_takeWhile_imp (List.mem_reverse.mp hc)
  rw [tagWords_eq, tagWords_eq, Text.strip, String.toList_ofList,
    ← Text.filter_splitOnP_append _ fun c hc => hspace c (hblank c hc), ← hsplit, filter_splitOnP_dropWhile hspace]

/-- A word holds no separator. -/
theorem tagWords_plain {value w : String} (hw : w ∈ tagWords value) : w ≠ "" ∧ ∀ c ∈ w.toList, isTagSeparator c = false := by
  unfold tagWords tagParts at hw
  obtain ⟨hpart, hne⟩ := List.mem_filter.mp hw
  obtain ⟨l, hl, rfl⟩ := List.mem_map.mp hpart
  refine ⟨by simpa using hne, fun c hc => ?_⟩
  rw [String.toList_ofList] at hc
  exact Text.not_of_mem_splitOnP hl c hc

/-! ## What is read, and what is written back -/

/-- A text that stands for itself in a list of tags. -/
structure IsTag (tag : String) : Prop where
  ne : tag ≠ ""
  plain : ∀ c ∈ tag.toList, isTagSeparator c = false

theorem isReserved_of_separator {c : Char} (h : isTagSeparator c = true) : isReserved c = true := by
  unfold isReserved
  rw [h]
  rfl

theorem strip_of_plain {tag : String} (h : ∀ c ∈ tag.toList, isTagSeparator c = false) : Text.strip tag = tag := by
  have hspace : ∀ c ∈ tag.toList, Text.isSpace c = false := by
    intro c hc
    have hplain := h c hc
    unfold isTagSeparator at hplain
    exact (Bool.or_eq_false_iff.mp hplain).2
  exact Text.strip_of_ends (fun c hc => hspace c (List.mem_of_head? hc)) fun c hc => hspace c (List.mem_of_getLast? hc)

theorem tagWords_join {names : List String} (h : ∀ n ∈ names, IsTag n) : tagWords (Text.join ';' names) = names := by
  rw [tagWords_eq, Text.toList_join]
  induction names with
  | nil => rfl
  | cons name names ih =>
    have hname := h name List.mem_cons_self
    have hne : name.toList ≠ [] := by simpa [String.toList_eq_nil_iff] using hname.ne
    cases names with
    | nil =>
      rw [List.map_singleton, List.intercalate_singleton, List.splitOnP_eq_singleton hname.plain,
        List.filter_cons_of_pos (by simpa using hne), List.filter_nil, List.map_singleton, String.ofList_toList]
    | cons next rest =>
      have hrest := ih fun n hn => h n (List.mem_cons_of_mem _ hn)
      have hcons : [';'].intercalate ((name :: next :: rest).map String.toList) =
          name.toList ++ ';' :: [';'].intercalate ((next :: rest).map String.toList) := by
        simp [List.intercalate]
      rw [hcons, List.splitOnP_append_cons_of_forall_mem hname.plain _ (by decide), List.filter_cons_of_pos (by simpa using hne),
        List.map_cons, String.ofList_toList, hrest]

section
variable (L : Lowering)

theorem Lowering.isTag {tag : String} (h : IsTag tag) : IsTag (L.lower tag) where
  ne := L.lower_ne tag h.ne
  plain c hc := by
    by_contra hsep
    rw [Bool.not_eq_false] at hsep
    have hin := L.mem_of_reserved tag c (isReserved_of_separator hsep) hc
    rw [h.plain c hin] at hsep
    cases hsep

theorem tagWords_isTag {value w : String} (hw : w ∈ tagWords value) : IsTag w :=
  ⟨(tagWords_plain hw).1, (tagWords_plain hw).2⟩

theorem lower_empty : L.lower "" = "" := L.lower_ascii "" (by simp)

/-- `parse_tags` of texts that hold no separator. -/
theorem parseParts_plain {parts : List String} (h : ∀ p ∈ parts, ∀ c ∈ p.toList, isTagSeparator c = false) :
    parseParts L parts = keepNew [] ((parts.filter (· ≠ "")).map L.lower) := by
  unfold parseParts
  have hstrip : (parts.map fun raw => L.lower (Text.strip raw)) = parts.map L.lower :=
    List.map_congr_left fun raw hraw => by rw [strip_of_plain (h raw hraw)]
  rw [hstrip, ← keepNew_filter, List.filter_map]
  congr 2
  refine List.filter_congr fun raw _ => decide_eq_decide.mpr ?_
  constructor
  · intro hlowered hempty
    rw [hempty, lower_empty] at hlowered
    exact hlowered rfl
  · exact L.lower_ne raw

/-- A list of tags is read as its words, lowered, the first of each. -/
theorem parseTags_eq (value : String) : parseTags L value = keepNew [] ((tagWords value).map L.lower) := by
  unfold parseTags
  rw [parseParts_plain]
  · rw [← tagWords_strip value]
    rfl
  · intro part hpart c hc
    obtain ⟨l, hl, rfl⟩ := List.mem_map.mp hpart
    rw [String.toList_ofList] at hc
    exact Text.not_of_mem_splitOnP hl c hc

theorem mem_parseTags {value x : String} : x ∈ parseTags L value ↔ ∃ w ∈ tagWords value, L.lower w = x := by
  rw [parseTags_eq, mem_keepNew, List.mem_map]
  constructor
  · rintro ⟨hx, -, -⟩
    exact hx
  · rintro ⟨w, hw, rfl⟩
    exact ⟨⟨w, hw, rfl⟩, (L.isTag (tagWords_isTag hw)).ne, by simp⟩

theorem nodup_parseTags (value : String) : (parseTags L value).Nodup := by
  rw [parseTags_eq]
  exact nodup_keepNew

/-- A tag as it is read. -/
structure Read (tag : String) : Prop extends IsTag tag where
  lowered : L.lower tag = tag

theorem parseTags_read {value x : String} (hx : x ∈ parseTags L value) : Read L x := by
  obtain ⟨w, hw, rfl⟩ := (mem_parseTags L).mp hx
  exact ⟨L.isTag (tagWords_isTag hw), L.lower_lower w⟩

/-- Tags that have been read are joined as they are, each once. -/
theorem joinTags_read {tags : List String} (h : ∀ t ∈ tags, Read L t) :
    joinTags L tags = Text.join ';' (keepNew [] tags) := by
  unfold joinTags
  rw [parseParts_plain L fun t ht => (h t ht).plain]
  have hfilter : tags.filter (· ≠ "") = tags := List.filter_eq_self.mpr fun t ht => by simpa using (h t ht).ne
  have hlower : tags.map L.lower = tags := (List.map_congr_left fun t ht => (h t ht).lowered).trans (List.map_id' tags)
  rw [hfilter, hlower]

end

theorem toNat_of_isReserved {c : Char} (h : isReserved c = true) :
    c.toNat = 59 ∨ c.toNat = 44 ∨ c.toNat = 58 ∨ c.toNat = 61 ∨ Text.isSpace c = true := by
  unfold isReserved isTagSeparator at h
  simp only [Bool.or_eq_true, decide_eq_true_eq] at h
  rcases h with (((rfl | rfl) | h) | rfl) | rfl
  · exact .inl rfl
  · exact .inr (.inl rfl)
  · exact .inr (.inr (.inr (.inr h)))
  · exact .inr (.inr (.inl rfl))
  · exact .inr (.inr (.inr (.inl rfl)))

theorem toNat_of_isSpace {c : Char} (h : Text.isSpace c = true) : c.toNat ≤ 32 ∨ 0x85 ≤ c.toNat := by
  simp only [Text.isSpace, Bool.or_eq_true, Bool.and_eq_true, decide_eq_true_eq, beq_iff_eq] at h
  omega

/-- A character of a tag's name is none that the formats read. -/
theorem not_isReserved {c : Char} (h : (isTagStart c || c = '+' || c = '.' || c = '-') = true) : isReserved c = false := by
  have hrange : (97 ≤ c.toNat ∧ c.toNat ≤ 122) ∨ (48 ≤ c.toNat ∧ c.toNat ≤ 57) ∨ c.toNat = 95 ∨ c.toNat = 43 ∨
      c.toNat = 46 ∨ c.toNat = 45 := by
    unfold isTagStart at h
    simp only [Bool.or_eq_true, decide_eq_true_eq] at h
    rcases h with ((((h | h) | rfl) | rfl) | rfl) | rfl
    · have hcode : (decide (c.val ≥ 'a'.val) && decide (c.val ≤ 'z'.val)) = true := h
      simp only [ge_iff_le, Bool.and_eq_true, decide_eq_true_eq, UInt32.le_iff_toNat_le] at hcode
      exact .inl hcode
    · exact .inr (.inl (Char.isDigit_iff_toNat.mp h))
    · exact .inr (.inr (.inl rfl))
    · exact .inr (.inr (.inr (.inl rfl)))
    · exact .inr (.inr (.inr (.inr (.inl rfl))))
    · exact .inr (.inr (.inr (.inr (.inr rfl))))
  refine Bool.eq_false_iff.mpr fun hreserved => ?_
  rcases toNat_of_isReserved hreserved with hc | hc | hc | hc | hspace
  · omega
  · omega
  · omega
  · omega
  · have := toNat_of_isSpace hspace
    omega

theorem not_isReserved_of_matchesTag {tag : String} (h : matchesTag tag = true) : ∀ c ∈ tag.toList, isReserved c = false := by
  unfold matchesTag at h
  intro c hc
  cases hl : tag.toList with
  | nil =>
    rw [hl] at hc
    cases hc
  | cons first rest =>
    rw [hl] at h hc
    simp only [Bool.and_eq_true, List.all_eq_true] at h
    rcases List.mem_cons.mp hc with rfl | hc
    · exact not_isReserved (by simp [h.1])
    · exact not_isReserved (h.2 c hc)

theorem isTag_of_matchesTag {tag : String} (h : matchesTag tag = true) : IsTag tag where
  ne := by
    rintro rfl
    cases h
  plain c hc := Bool.eq_false_iff.mpr fun hsep => by
    have := not_isReserved_of_matchesTag h c hc
    rw [isReserved_of_separator hsep] at this
    cases this

theorem IsTagName.read {L : Lowering} {tag : String} (h : IsTagName L tag) : Read L tag :=
  ⟨isTag_of_matchesTag h.valid, h.lowered⟩

theorem validateTag_isTagName {L : Lowering} {tag name : String} (h : validateTag L tag = some name) : IsTagName L name := by
  unfold validateTag at h
  dsimp only at h
  split at h
  · next hvalid =>
    obtain rfl := Option.some.inj h
    exact ⟨hvalid, L.lower_lower _⟩
  · cases h

/-! ## Lowering by letters -/

theorem toLower_toNat (c : Char) : c.toLower.toNat = if 65 ≤ c.toNat ∧ c.toNat ≤ 90 then c.toNat + 32 else c.toNat := by
  have hrange : (c.val ≥ 'A'.val ∧ c.val ≤ 'Z'.val) ↔ 65 ≤ c.toNat ∧ c.toNat ≤ 90 :=
    and_congr UInt32.le_iff_toNat_le UInt32.le_iff_toNat_le
  unfold Char.toLower
  split
  · next h =>
    have hupper := hrange.mp h
    have hshift : ('a'.val - 'A'.val).toNat = 32 := rfl
    have hval : c.val.toNat = c.toNat := rfl
    rw [if_pos hupper]
    show (c.val + ('a'.val - 'A'.val)).toNat = _
    rw [UInt32.toNat_add, hshift, hval]
    omega
  · next h => rw [if_neg (mt hrange.mpr h)]

theorem lowerChar_toNat (c : Char) : (Text.lowerChar c).toNat =
    if c.toNat = 0x212A then 107 else if 65 ≤ c.toNat ∧ c.toNat ≤ 90 then c.toNat + 32 else c.toNat := by
  rw [Text.lowerChar]
  split
  · rfl
  · exact toLower_toNat c

theorem lowerChar_lowerChar (c : Char) : Text.lowerChar (Text.lowerChar c) = Text.lowerChar c := by
  refine Char.toNat_inj.mp ?_
  have hc := lowerChar_toNat c
  rw [lowerChar_toNat (Text.lowerChar c), if_neg, if_neg]
  · split at hc
    · omega
    · split at hc <;> omega
  · split at hc
    · omega
    · split at hc <;> omega

/-- `str.lower` of a text of ASCII characters; another character stays. -/
def lowerLetters : Lowering where
  lower := Text.lower
  lower_lower s := by
    unfold Text.lower
    rw [String.toList_ofList, List.map_map]
    congr 1
    exact List.map_congr_left fun c _ => lowerChar_lowerChar c
  lower_ascii s _ := rfl
  lower_ne s h hempty := by
    have hlist : s.toList.map Text.lowerChar = [] := by
      rw [← String.toList_ofList (l := s.toList.map Text.lowerChar)]
      show (Text.lower s).toList = []
      rw [hempty]
      rfl
    exact h (String.toList_eq_nil_iff.mp (List.map_eq_nil_iff.mp hlist))
  mem_of_reserved s c hc hmem := by
    unfold Text.lower at hmem
    rw [String.toList_ofList] at hmem
    obtain ⟨d, hd, rfl⟩ := List.mem_map.mp hmem
    have hnat := lowerChar_toNat d
    -- what is reserved comes from no letter
    have hletter : ¬ (97 ≤ (Text.lowerChar d).toNat ∧ (Text.lowerChar d).toNat ≤ 122) := by
      rcases toNat_of_isReserved hc with h | h | h | h | hspace
      · omega
      · omega
      · omega
      · omega
      · have := toNat_of_isSpace hspace
        omega
    have hkelvin : d.toNat ≠ 0x212A := by
      intro hkelvin
      rw [if_pos hkelvin] at hnat
      omega
    have hupper : ¬ (65 ≤ d.toNat ∧ d.toNat ≤ 90) := by
      intro hupper
      rw [if_neg hkelvin, if_pos hupper] at hnat
      omega
    rw [if_neg hkelvin, if_neg hupper] at hnat
    rwa [Char.toNat_inj.mp hnat]

end PveHelper.Tags
