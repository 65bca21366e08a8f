/-
The tag registry of a cluster (`core/services/tag_registry.py`): the options of the cluster
are read, one tag of the registry is changed, and both options of the registry are written
back whole. The one of the styles is a comma-separated text or an object, and the colours in
it are a text of their own.
-/
import PveHelper.Lib.Atomic
import PveHelper.Lib.Table
import PveHelper.Tags.TagText

namespace PveHelper.Tags

open Lib Guests

/-- What `/cluster/options` answers. -/
abbrev Options := List (String × Json)

/-- The entries of `tag-style`, in their order. -/
abbrev Style := Table (Prod.fst : String × String → String)

/-- A tag with its background and its foreground. -/
structure TagColor where
  tag : String
  background : String
  foreground : String
deriving DecidableEq

abbrev Colors := Table TagColor.tag

structure RegisteredTag where
  name : String
  background : String := ""
  foreground : String := ""

/-! ## The two options -/

/-- `options.get(key)`. -/
def getOption (options : Options) (key : String) : Json := (Json.lookup options key).getD .null

/-- `_option_text`. -/
def optionText : Json → String
  | .arr items => Text.join ';' (items.map Json.shown)
  | value => if value.truthy then value.shown else ""

/-- One part of the text: its key and its value, where it has both. -/
def styleEntry (part : String) : Option (String × String) :=
  match Text.partition '=' part with
  | (_, none) => none
  | (key, some raw) => if Text.strip key = "" then none else some (Text.strip key, Text.strip raw)

/-- An entry of the object, where it has a value. -/
def objectEntry : String × Json → Option (String × String)
  | (_, .null) => none
  | (key, raw) => some (key, raw.shown)

/-- `parse_tag_style`. -/
def parseTagStyle : Json → Style
  | .obj fields => .ofRows (fields.filterMap objectEntry)
  | value => .ofRows ((Text.split ',' (optionText value)).filterMap styleEntry)

def stylePart (entry : String × String) : String := entry.1 ++ "=" ++ entry.2

/-- `serialize_tag_style`. -/
def serializeTagStyle (style : Style) : String := Text.join ',' ((style.rows.filter fun e => e.2 ≠ "").map stylePart)

def colorPart (c : TagColor) : String :=
  c.tag ++ ":" ++ c.background ++ (if c.foreground = "" then "" else ":" ++ c.foreground)

/-- `serialize_color_map`. -/
def serializeColorMap (colors : Colors) : String :=
  Text.join ';' ((colors.rows.insertionSort fun a b => ¬ b.tag < a.tag).map colorPart)

section
variable (L : Lowering)

def colorEntry (entry : String) : Option TagColor :=
  match Text.partition ':' entry with
  | (_, none) => none
  | (tag, some colors) =>
    let (background, foreground) := Text.partition ':' colors
    let tag := L.lower (Text.strip tag)
    let foreground := L.lower (foreground.getD "")
    if tag ≠ "" && isColor (L.lower background) then
      some ⟨tag, L.lower background, if isColor foreground then foreground else ""⟩
    else none

/-- `parse_color_map`. -/
def parseColorMap (value : String) : Colors := .ofRows ((Text.split ';' value).filterMap (colorEntry L))

/-- `style.get("color-map", "")`, parsed. -/
def styleColors (style : Style) : Colors := parseColorMap L (((style.get "color-map").map (·.2)).getD "")

def registeredNames (options : Options) : List String := parseTags L (optionText (getOption options "registered-tags"))

/-- `parse_registered_tags`. -/
def parseRegisteredTags (options : Options) : List RegisteredTag :=
  let colors := styleColors L (parseTagStyle (getOption options "tag-style"))
  (registeredNames L options).map fun name => match colors.get name with
    | some c => ⟨name, c.background, c.foreground⟩
    | none => { name := name }

/-! ## Changes -/

/-- A change to the registry, with the tag and the colour that are given. -/
inductive RegistryEdit
  | register (tag color : String)
  | recolor (tag color : String)
  | unregister (tag : String)

/-- A change whose tag and colour are valid. -/
inductive RegistryMutation
  | register (tag color : String)
  | recolor (tag color : String)
  | unregister (tag : String)

def tagNameError : String := "Use lowercase letters, numbers, _, +, . or -; start with a letter, number or _."

def tagColorError : String := "Color must be six hexadecimal characters."

/-- `validate_tag` and `validate_color`, with the error of the one that raises. -/
def validTagColor (tag color : String) : Except String (String × String) :=
  match validateTag L tag with
  | none => .error tagNameError
  | some tag => match validateColor L color with
    | none => .error tagColorError
    | some color => .ok (tag, color)

def RegistryEdit.validated : RegistryEdit → Except String RegistryMutation
  | .register tag color => (validTagColor L tag color).map fun p => .register p.1 p.2
  | .recolor tag color => (validTagColor L tag color).map fun p => .recolor p.1 p.2
  | .unregister tag => match validateTag L tag with
    | none => .error tagNameError
    | some tag => .ok (.unregister tag)

def RegistryMutation.tag : RegistryMutation → String
  | .register tag _ => tag
  | .recolor tag _ => tag
  | .unregister tag => tag

/-- `mutate(names, colors)`. -/
def RegistryMutation.apply (names : List String) (colors : Colors) : RegistryMutation → Except String (List String × Colors)
  | .register tag color =>
    .ok (if names.contains tag then names else names ++ [tag],
      if color = "" then colors else colors.put ⟨tag, color, readableForeground color⟩)
  | .recolor tag color =>
    if names.contains tag then .ok (names, colors.put ⟨tag, color, readableForeground color⟩)
    else .error "Register the tag before assigning a color."
  | .unregister tag => .ok (names.filter (· ≠ tag), colors.keep fun c => c.tag ≠ tag)

/-- `postcondition(actual)`. -/
def RegistryMutation.holds (actual : List RegisteredTag) : RegistryMutation → Bool
  | .register tag color => actual.any fun r => r.name = tag && (color = "" || r.background = color)
  | .recolor tag color => actual.any fun r => r.name = tag && r.background = color
  | .unregister tag => !actual.any fun r => r.name = tag

/-- `set_cluster_options(updates, delete=delete)`. -/
structure OptionWrite where
  updates : List (String × String)
  delete : List String

/-- The options of the cluster after the write. -/
def OptionWrite.apply (w : OptionWrite) (options : Options) : Options :=
  (w.updates.foldl (fun options u => Json.setField options u.1 (.str u.2)) options).filter fun f => !w.delete.contains f.1

def isNull : Json → Bool
  | .null => true
  | _ => false

/-- What is written for the names. -/
def namesWrite (names : List String) : OptionWrite :=
  if names.isEmpty then ⟨[], ["registered-tags"]⟩ else ⟨[("registered-tags", joinTags L names)], []⟩

/-- The style with its colours. -/
def withColors (style : Style) (colors : Colors) : Style :=
  if colors.rows.isEmpty then style.keep fun e => e.1 ≠ "color-map" else style.put ("color-map", serializeColorMap colors)

/-- What is written for the style. -/
def styleWrite (options : Options) (style : Style) : OptionWrite :=
  let serialized := serializeTagStyle style
  if serialized ≠ "" then ⟨[("tag-style", serialized)], []⟩
  else if isNull (getOption options "tag-style") then ⟨[], []⟩
  else ⟨[], ["tag-style"]⟩

/-- The part of `mutate_registered_tags` between its read and its write. -/
def registryWrite (mutation : RegistryMutation) (options : Options) : Except String OptionWrite := do
  let style := parseTagStyle (getOption options "tag-style")
  let (names, colors) ← mutation.apply (registeredNames L options) (styleColors L style)
  let written := namesWrite L (sortedSet names)
  let styled := styleWrite options (withColors style colors)
  pure ⟨written.updates ++ styled.updates, written.delete ++ styled.delete⟩

/-- How the provider answers: the options or the error of the first read, the error of the
write if it fails, and the second read. -/
structure RegistryAnswers where
  read : Except String Options
  write : Option String
  reread : Except String Options

def registryConflictError : String :=
  "The tag registry changed concurrently. The current Proxmox state was reloaded; review it and try again."

/-- `register_tag`, `recolor_tag` and `unregister_tag`: what is written, the registry and the error. -/
def editRegistry (edit : RegistryEdit) (answers : RegistryAnswers) : Option OptionWrite × List RegisteredTag × String :=
  match edit.validated L with
  | .error e => (none, [], e)
  | .ok mutation => match answers.read with
    | .error e => (none, [], e)
    | .ok options => match registryWrite L mutation options with
      | .error e => (none, [], e)
      | .ok write => match answers.write with
        | some e => (some write, [], e)
        | none => match answers.reread with
          | .error e => (some write, [], e)
          | .ok options =>
            let actual := parseRegisteredTags L options
            (some write, actual, if mutation.holds actual then "" else registryConflictError)

end

/-! ## The two formats -/

/-- An entry of a style that the text can hold: its key is no blank, neither it nor its value
holds a comma, the key no equals sign, and both are without blanks at their ends. -/
structure StyleClean (e : String × String) : Prop where
  key : e.1 ≠ ""
  keyStrip : Text.strip e.1 = e.1
  keyComma : ',' ∉ e.1.toList
  keyEquals : '=' ∉ e.1.toList
  value : e.2 ≠ ""
  valueStrip : Text.strip e.2 = e.2
  valueComma : ',' ∉ e.2.toList

theorem styleEntry_part {e : String × String} (h : StyleClean e) : styleEntry (stylePart e) = some e := by
  have hlist : (stylePart e).toList = e.1.toList ++ '=' :: e.2.toList := by
    rw [stylePart, String.toList_append, String.toList_append, List.append_assoc]
    rfl
  unfold styleEntry
  rw [Text.partition_of_first hlist h.keyEquals, String.ofList_toList]
  dsimp only
  rw [h.keyStrip, h.valueStrip, if_neg h.key]

/-- A text that is joined of parts, read part by part. -/
theorem filterMap_split_join {α β : Type} {sep : Char} {part : α → String} {entry : String → Option β} {f : α → Option β}
    (hempty : entry "" = none) (rows : List α) (hpart : ∀ r ∈ rows, sep ∉ (part r).toList ∧ entry (part r) = f r) :
    (Text.split sep (Text.join sep (rows.map part))).filterMap entry = rows.filterMap f := by
  cases rows with
  | nil =>
    have hsplit : Text.split sep (Text.join sep (([] : List α).map part)) = [""] := rfl
    rw [hsplit, List.filterMap_cons_none hempty]
    rfl
  | cons r rows =>
    rw [Text.split_join (by simp) (by simpa using fun r hr => (hpart r hr).1), List.filterMap_map]
    exact List.filterMap_congr fun r hr => (hpart r hr).2

theorem parseTagStyle_str (s : String) :
    parseTagStyle (.str s) = .ofRows ((Text.split ',' (optionText (.str s))).filterMap styleEntry) := rfl

/-- A style is read back from its text. -/
theorem parseTagStyle_serialize {style : Style} (h : ∀ e ∈ style.rows, StyleClean e) (key : String) :
    (parseTagStyle (.str (serializeTagStyle style))).get key = style.get key := by
  have htext : optionText (.str (serializeTagStyle style)) = serializeTagStyle style := by
    unfold optionText Json.truthy Json.shown
    dsimp only
    split
    · rfl
    · next hempty =>
      have htext : serializeTagStyle style = "" := by simpa using hempty
      rw [htext]
  have hrows : style.rows.filter (fun e => e.2 ≠ "") = style.rows :=
    List.filter_eq_self.mpr fun e he => by simpa using (h e he).value
  have hentries : (Text.split ',' (serializeTagStyle style)).filterMap styleEntry = style.rows := by
    unfold serializeTagStyle
    rw [hrows, filterMap_split_join (f := some) (by decide), List.filterMap_some]
    intro e he
    refine ⟨fun hcomma => ?_, styleEntry_part (h e he)⟩
    unfold stylePart at hcomma
    simp only [String.toList_append, List.mem_append] at hcomma
    rcases hcomma with (hcomma | hcomma) | hcomma
    · exact (h e he).keyComma hcomma
    · revert hcomma
      decide
    · exact (h e he).valueComma hcomma
  have hparse : parseTagStyle (.str (serializeTagStyle style)) = .ofRows style.rows := by
    rw [parseTagStyle_str, htext, hentries]
  rw [hparse, Table.get_ofRows_perm (List.Perm.refl _)]

theorem serializeTagStyle_eq_empty {style : Style} (h : ∀ e ∈ style.rows, StyleClean e) (hempty : serializeTagStyle style = "") :
    style.rows = [] := by
  by_contra hne
  obtain ⟨e, rest, hrows⟩ := List.exists_cons_of_ne_nil hne
  have hparsed := parseTagStyle_serialize h e.1
  have hget : style.get e.1 = some e := Table.get_of_mem (hrows ▸ List.mem_cons_self)
  have hnone : (parseTagStyle (.str "")).get e.1 = none := rfl
  rw [hempty, hget, hnone] at hparsed
  cases hparsed

/-! ## Colours -/

theorem isHexDigit_toNat {c : Char} (h : isHexDigit c = true) : (48 ≤ c.toNat ∧ c.toNat ≤ 57) ∨ (97 ≤ c.toNat ∧ c.toNat ≤ 102) := by
  unfold isHexDigit at h
  simp only [Bool.or_eq_true, Bool.and_eq_true, decide_eq_true_eq] at h
  rcases h with h | h
  · exact .inl (Char.isDigit_iff_toNat.mp h)
  · exact .inr ⟨h.1, h.2⟩

theorem isColor_chars {value : String} (h : isColor value = true) : ∀ c ∈ value.toList, isHexDigit c = true := by
  unfold isColor at h
  simpa using (Bool.and_eq_true_iff.mp h).2

theorem isColor_plain {value : String} (h : isColor value = true) : ∀ c ∈ value.toList, isReserved c = false := by
  intro c hc
  have hrange := isHexDigit_toNat (isColor_chars h c hc)
  refine Bool.eq_false_iff.mpr fun hreserved => ?_
  rcases toNat_of_isReserved hreserved with h | h | h | h | hspace
  · omega
  · omega
  · omega
  · omega
  · have := toNat_of_isSpace hspace
    omega

section
variable (L : Lowering)

theorem lower_isColor {value : String} (h : isColor value = true) : L.lower value = value := by
  rw [L.lower_ascii]
  · unfold Text.lower
    have hmap : value.toList.map Text.lowerChar = value.toList := by
      refine (List.map_congr_left fun c hc => ?_).trans (List.map_id _)
      have hrange := isHexDigit_toNat (isColor_chars h c hc)
      rw [Text.lowerChar, if_neg (by omega)]
      refine Char.toNat_inj.mp ?_
      rw [toLower_toNat, if_neg (by omega)]
      rfl
    rw [hmap, String.ofList_toList]
  · intro c hc
    have hrange := isHexDigit_toNat (isColor_chars h c hc)
    omega

/-- A tag of the registry with a colour that it is written with. -/
structure ColorClean (c : TagColor) : Prop where
  ne : c.tag ≠ ""
  plain : ∀ x ∈ c.tag.toList, isTagSeparator x = false ∧ x ≠ ':'
  lowered : L.lower c.tag = c.tag
  color : (isColor c.background = true ∧ (c.foreground = "" ∨ isColor c.foreground = true)) ∨
    c.background = "" ∧ c.foreground = ""

variable {L}

theorem colorPart_toList (c : TagColor) :
    (colorPart c).toList = c.tag.toList ++ ':' :: (c.background ++ (if c.foreground = "" then "" else ":" ++ c.foreground)).toList := by
  simp [colorPart, List.append_assoc]

theorem ColorClean.foreground_cases {c : TagColor} (h : ColorClean L c) : c.foreground = "" ∨ isColor c.foreground = true := by
  rcases h.color with h | h
  · exact h.2
  · exact .inl h.2

theorem isColor_empty : isColor "" = false := by decide

/-- The colours of a tag are read back where there is a background. -/
theorem colorEntry_part {c : TagColor} (h : ColorClean L c) :
    colorEntry L (colorPart c) = if c.background = "" then none else some c := by
  have hcolon : ':' ∉ c.tag.toList := fun hmem => (h.plain _ hmem).2 rfl
  have hstrip : Text.strip c.tag = c.tag := strip_of_plain fun x hx => (h.plain x hx).1
  unfold colorEntry
  rw [Text.partition_of_first (colorPart_toList c) hcolon, String.ofList_toList]
  dsimp only
  rw [hstrip, h.lowered]
  rcases h.color with ⟨hback, hfore⟩ | ⟨hback, hfore⟩
  · have hne : c.background ≠ "" := by
      intro hempty
      rw [hempty, isColor_empty] at hback
      cases hback
    have hbackColon : ':' ∉ c.background.toList := by
      intro hmem
      have hplain := isColor_plain hback _ hmem
      revert hplain
      decide
    rw [if_neg hne]
    by_cases hforeEmpty : c.foreground = ""
    · rw [if_pos hforeEmpty, String.append_empty, Text.partition_of_not_mem hbackColon]
      dsimp only
      rw [lower_isColor L hback, Option.getD_none, lower_empty L, isColor_empty, hback, if_pos (by simp [h.ne])]
      simp [← hforeEmpty]
    · have hforeColor : isColor c.foreground = true := hfore.resolve_left hforeEmpty
      have hlist : (c.background ++ (":" ++ c.foreground)).toList = c.background.toList ++ ':' :: c.foreground.toList := by
        rw [String.toList_append, String.toList_append]
        rfl
      rw [if_neg hforeEmpty, Text.partition_of_first hlist hbackColon, String.ofList_toList]
      dsimp only
      rw [lower_isColor L hback, Option.getD_some, lower_isColor L hforeColor, hforeColor, hback, if_pos (by simp [h.ne])]
      simp
  · rw [if_pos hback, if_pos hfore, String.append_empty, hback, Text.partition_of_not_mem (by decide)]
    dsimp only
    rw [lower_empty L, isColor_empty]
    simp

theorem colorPart_plain {c : TagColor} (h : ColorClean L c) : ∀ x ∈ (colorPart c).toList, isTagSeparator x = false := by
  have hcolor : ∀ value, value = "" ∨ isColor value = true → ∀ x ∈ value.toList, isTagSeparator x = false := by
    rintro value (rfl | hvalue) x hx
    · cases hx
    · exact Bool.eq_false_iff.mpr fun hsep => by
        have hplain := isColor_plain hvalue x hx
        rw [isReserved_of_separator hsep] at hplain
        cases hplain
  have hback : c.background = "" ∨ isColor c.background = true := by
    rcases h.color with h | h
    · exact .inr h.1
    · exact .inl h.1
  intro x hx
  rw [colorPart_toList] at hx
  rcases List.mem_append.mp hx with hx | hx
  · exact (h.plain x hx).1
  · rcases List.mem_cons.mp hx with rfl | hx
    · decide
    · rw [String.toList_append] at hx
      rcases List.mem_append.mp hx with hx | hx
      · exact hcolor _ hback x hx
      · split at hx
        · cases hx
        · rw [String.toList_append] at hx
          rcases List.mem_append.mp hx with hx | hx
          · rw [List.mem_singleton.mp hx]
            decide
          · exact hcolor _ h.foreground_cases x hx

/-- The colours of a registry are read back where they have a background. -/
theorem parseColorMap_serialize {colors : Colors} (h : ∀ c ∈ colors.rows, ColorClean L c) (tag : String) :
    (parseColorMap L (serializeColorMap colors)).get tag = (colors.get tag).filter fun c => c.background ≠ "" := by
  have hperm := List.perm_insertionSort (fun a b : TagColor => ¬ b.tag < a.tag) colors.rows
  have hentries : (Text.split ';' (serializeColorMap colors)).filterMap (colorEntry L) =
      (colors.rows.insertionSort fun a b => ¬ b.tag < a.tag).filter fun c => c.background ≠ "" := by
    unfold serializeColorMap
    rw [filterMap_split_join (f := fun c => if c.background = "" then none else some c) (by simp [colorEntry, Text.partition])]
    · rw [← List.filterMap_eq_filter]
      refine List.filterMap_congr fun c _ => ?_
      by_cases hc : c.background = "" <;> simp [Option.guard, hc]
    · intro c hc
      have hclean := h c (hperm.mem_iff.mp hc)
      refine ⟨fun hmem => ?_, colorEntry_part hclean⟩
      have hplain := colorPart_plain hclean _ hmem
      revert hplain
      decide
  unfold parseColorMap
  rw [hentries, ← Table.get_keep]
  exact Table.get_ofRows_perm (hperm.filter _) tag

end

end PveHelper.Tags
