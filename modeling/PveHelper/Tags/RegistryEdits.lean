/-
A change of the tag registry touches one tag: the options that `register_tag`, `recolor_tag`
and `unregister_tag` write, read again, have the other names, the other colours and the rest
of the style that were there. The style has to be one that its text can hold.
-/
import PveHelper.Tags.Registry

namespace PveHelper.Tags

open Lib Guests

/-! ## What a change does to the names and the colours -/

/-- The tag is a name, and the colour a colour or none. -/
structure RegistryMutation.Valid (L : Lowering) (m : RegistryMutation) : Prop where
  tag : IsTagName L m.tag
  color : ∀ color, m = .register m.tag color ∨ m = .recolor m.tag color → color = "" ∨ isColor color = true

theorem validateColor_valid {L : Lowering} {color value : String} (h : validateColor L color = some value) :
    value = "" ∨ isColor value = true := by
  unfold validateColor at h
  dsimp only at h
  split at h
  · cases h
  · next hvalid =>
    obtain rfl := Option.some.inj h
    by_cases hempty : withoutHash (L.lower (Text.strip color)) = ""
    · exact .inl hempty
    · exact .inr (by simpa [hempty] using hvalid)

theorem validTagColor_valid {L : Lowering} {tag color tag' color' : String} (h : validTagColor L tag color = .ok (tag', color')) :
    IsTagName L tag' ∧ (color' = "" ∨ isColor color' = true) := by
  unfold validTagColor at h
  cases htag : validateTag L tag with
  | none =>
    rw [htag] at h
    cases h
  | some name =>
    cases hcolor : validateColor L color with
    | none =>
      rw [htag, hcolor] at h
      cases h
    | some value =>
      rw [htag, hcolor] at h
      cases h
      exact ⟨validateTag_isTagName htag, validateColor_valid hcolor⟩

theorem RegistryEdit.validated_valid {L : Lowering} {edit : RegistryEdit} {m : RegistryMutation}
    (h : edit.validated L = .ok m) : m.Valid L := by
  cases edit with
  | register tag color =>
    cases hvalid : validTagColor L tag color with
    | error e =>
      simp only [validated, hvalid] at h
      cases h
    | ok pair =>
      simp only [validated, hvalid] at h
      cases h
      obtain ⟨htag, hcolor⟩ := validTagColor_valid hvalid
      refine ⟨htag, fun c hc => ?_⟩
      rcases hc with hc | hc
      · cases hc
        exact hcolor
      · cases hc
  | recolor tag color =>
    cases hvalid : validTagColor L tag color with
    | error e =>
      simp only [validated, hvalid] at h
      cases h
    | ok pair =>
      simp only [validated, hvalid] at h
      cases h
      obtain ⟨htag, hcolor⟩ := validTagColor_valid hvalid
      refine ⟨htag, fun c hc => ?_⟩
      rcases hc with hc | hc
      · cases hc
      · cases hc
        exact hcolor
  | unregister tag =>
    cases htag : validateTag L tag with
    | none =>
      simp only [validated, htag] at h
      cases h
    | some name =>
      simp only [validated, htag] at h
      cases h
      refine ⟨validateTag_isTagName htag, fun c hc => ?_⟩
      rcases hc with hc | hc <;> cases hc

theorem readableForeground_cases (background : String) :
    readableForeground background = "" ∨ isColor (readableForeground background) = true := by
  unfold readableForeground
  split
  · split
    · exact .inr (by decide)
    · exact .inr (by decide)
  · exact .inl rfl

theorem readableForeground_empty : readableForeground "" = "" := rfl

section
variable {L : Lowering}

/-- A tag and a colour that were validated can be written. -/
theorem colorClean_new {tag color : String} (htag : IsTagName L tag) (hcolor : color = "" ∨ isColor color = true) :
    ColorClean L ⟨tag, color, readableForeground color⟩ where
  ne := htag.read.ne
  plain x hx := ⟨htag.read.plain x hx, by
    rintro rfl
    have hplain := not_isReserved_of_matchesTag htag.valid ':' hx
    revert hplain
    decide⟩
  lowered := htag.lowered
  color := by
    rcases hcolor with rfl | hcolor
    · exact .inr ⟨rfl, readableForeground_empty⟩
    · exact .inl ⟨hcolor, readableForeground_cases color⟩

/-- A change touches one name and one colour. -/
structure Touches (L : Lowering) (tag : String) (names names' : List String) (colors colors' : Colors) : Prop where
  others : ∀ n, n ≠ tag → (n ∈ names' ↔ n ∈ names)
  otherColors : ∀ n, n ≠ tag → colors'.get n = colors.get n
  read : (∀ n ∈ names, Read L n) → ∀ n ∈ names', Read L n
  clean : (∀ c ∈ colors.rows, ColorClean L c) → ∀ c ∈ colors'.rows, ColorClean L c

theorem clean_put {colors : Colors} {c : TagColor} (hc : ColorClean L c) (h : ∀ c ∈ colors.rows, ColorClean L c) :
    ∀ c' ∈ (colors.put c).rows, ColorClean L c' := by
  have hall : (colors.put c).All (ColorClean L) := Table.All.put (fun k r hr => h r (Table.mem_of_get hr)) hc
  exact fun c' hc' => hall c'.tag c' (Table.get_of_mem hc')

theorem RegistryMutation.apply_touches {m : RegistryMutation} (hm : m.Valid L) {names names' : List String} {colors colors' : Colors}
    (h : m.apply names colors = .ok (names', colors')) : Touches L m.tag names names' colors colors' := by
  cases m with
  | register tag color =>
    have htag : IsTagName L tag := hm.tag
    show Touches L tag names names' colors colors'
    cases h
    refine ⟨fun n hn => ?_, fun n hn => ?_, fun hread n hn => ?_, fun hclean => ?_⟩
    · split
      · exact Iff.rfl
      · rw [List.mem_append, List.mem_singleton]
        exact or_iff_left hn
    · split
      · rfl
      · rw [Table.get_put, if_neg hn]
    · split at hn
      · exact hread n hn
      · rcases List.mem_append.mp hn with hn | hn
        · exact hread n hn
        · rw [List.mem_singleton.mp hn]
          exact htag.read
    · split
      · exact hclean
      · exact clean_put (colorClean_new htag (hm.color color (.inl rfl))) hclean
  | recolor tag color =>
    have htag : IsTagName L tag := hm.tag
    show Touches L tag names names' colors colors'
    simp only [RegistryMutation.apply] at h
    split at h
    · cases h
      refine ⟨fun n _ => Iff.rfl, fun n hn => ?_, fun hread => hread, ?_⟩
      · rw [Table.get_put, if_neg hn]
      · exact clean_put (colorClean_new htag (hm.color color (.inr rfl)))
    · cases h
  | unregister tag =>
    show Touches L tag names names' colors colors'
    cases h
    refine ⟨fun n hn => ?_, fun n hn => ?_, fun hread n hn => hread n (List.mem_filter.mp hn).1, fun hclean c hc => ?_⟩
    · rw [List.mem_filter, decide_eq_true_eq]
      exact and_iff_left hn
    · rw [Table.get_keep]
      cases hget : colors.get n with
      | none => rfl
      | some c =>
        have hkey : c.tag = n := Table.key_of_get hget
        rw [Option.filter_some, if_pos (by simpa [hkey] using hn)]
    · exact hclean c (Table.mem_keep.mp hc).1

/-! ## What is written -/

theorem getOption_apply_deleted {w : OptionWrite} {key : String} (h : key ∈ w.delete) (options : Options) :
    getOption (w.apply options) key = .null := by
  unfold getOption OptionWrite.apply
  rw [Json.lookup_filter fun k => !w.delete.contains k, if_neg (by simpa using h)]
  rfl

theorem getOption_apply_kept {w : OptionWrite} {key : String} (h : key ∉ w.delete) (options : Options) :
    getOption (w.apply options) key =
      getOption (w.updates.foldl (fun options u => Json.setField options u.1 (.str u.2)) options) key := by
  unfold getOption OptionWrite.apply
  rw [Json.lookup_filter fun k => !w.delete.contains k, if_pos (by simpa using h)]

theorem getOption_set_self (options : Options) (key : String) (value : Json) :
    getOption (Json.setField options key value) key = value := by
  rw [getOption, Json.lookup_setField_self]
  rfl

theorem getOption_set_of_ne {key other : String} (h : other ≠ key) (options : Options) (value : Json) :
    getOption (Json.setField options key value) other = getOption options other := by
  rw [getOption, Json.lookup_setField_of_ne h]
  rfl

/-- The names and the style, written together. -/
def bothWrites (L : Lowering) (names : List String) (options : Options) (style : Style) : OptionWrite :=
  ⟨(namesWrite L names).updates ++ (styleWrite options style).updates,
    (namesWrite L names).delete ++ (styleWrite options style).delete⟩

theorem getOption_bothWrites_names (names : List String) (options : Options) (style : Style) :
    getOption ((bothWrites L names options style).apply options) "registered-tags" =
      if names.isEmpty then .null else .str (joinTags L names) := by
  have hne : "registered-tags" ≠ "tag-style" := by decide
  by_cases hnames : names.isEmpty = true
  · rw [if_pos hnames]
    exact getOption_apply_deleted (by simp [bothWrites, namesWrite, hnames]) options
  · have hkept : "registered-tags" ∉ (bothWrites L names options style).delete := by
      unfold bothWrites styleWrite
      dsimp only
      split
      · simp [namesWrite, hnames]
      · split <;> simp [namesWrite, hnames]
    rw [if_neg hnames, getOption_apply_kept hkept]
    unfold bothWrites styleWrite
    dsimp only
    split
    · simp [namesWrite, hnames, getOption_set_self, getOption_set_of_ne hne]
    · split <;> simp [namesWrite, hnames, getOption_set_self]

theorem isNull_eq {value : Json} (h : isNull value = true) : value = .null := by
  cases value with
  | null => rfl
  | _ => cases h

theorem getOption_bothWrites_style (names : List String) (options : Options) (style : Style) :
    getOption ((bothWrites L names options style).apply options) "tag-style" =
      if serializeTagStyle style ≠ "" then .str (serializeTagStyle style) else .null := by
  have hne : "tag-style" ≠ "registered-tags" := by decide
  have hnames : "tag-style" ∉ (namesWrite L names).delete := by
    unfold namesWrite
    split <;> simp
  by_cases hstyle : serializeTagStyle style = ""
  · rw [if_neg (by simpa using hstyle)]
    by_cases hnull : isNull (getOption options "tag-style") = true
    · have hkept : "tag-style" ∉ (bothWrites L names options style).delete := by
        simp [bothWrites, styleWrite, hstyle, hnull, hnames]
      have hnone : getOption options "tag-style" = .null := isNull_eq hnull
      rw [getOption_apply_kept hkept]
      unfold bothWrites namesWrite
      split
      · simp [styleWrite, hstyle, isNull, hnone]
      · simp [styleWrite, hstyle, isNull, hnone, getOption_set_of_ne hne]
    · exact getOption_apply_deleted (by simp [bothWrites, styleWrite, hstyle, hnull]) options
  · have hkept : "tag-style" ∉ (bothWrites L names options style).delete := by
      simp [bothWrites, styleWrite, hstyle, hnames]
    rw [if_pos hstyle, getOption_apply_kept hkept]
    unfold bothWrites styleWrite
    rw [if_pos hstyle]
    dsimp only
    rw [List.foldl_append, List.foldl_cons, List.foldl_nil, getOption_set_self]

theorem registryWrite_ok {m : RegistryMutation} {options : Options} {w : OptionWrite} (h : registryWrite L m options = .ok w) :
    ∃ names colors, m.apply (registeredNames L options) (styleColors L (parseTagStyle (getOption options "tag-style"))) =
        .ok (names, colors) ∧
      w = bothWrites L (sortedSet names) options (withColors (parseTagStyle (getOption options "tag-style")) colors) := by
  unfold registryWrite at h
  dsimp only at h
  cases happly : m.apply (registeredNames L options) (styleColors L (parseTagStyle (getOption options "tag-style"))) with
  | error e =>
    rw [happly] at h
    cases h
  | ok pair =>
    rw [happly] at h
    cases h
    exact ⟨pair.1, pair.2, rfl, rfl⟩

/-! ## What is read of it -/

theorem optionText_str (text : String) : optionText (.str text) = text := by
  unfold optionText Json.truthy Json.shown
  dsimp only
  split
  · rfl
  · next hempty =>
    have htext : text = "" := by simpa using hempty
    exact htext.symm

/-- The words of the names that are written. -/
theorem mem_words_written {names : List String} (h : ∀ n ∈ names, Read L n) (n : String) :
    n ∈ tagWords (optionText (if (sortedSet names).isEmpty then .null else .str (joinTags L (sortedSet names)))) ↔ n ∈ names := by
  by_cases hempty : (sortedSet names).isEmpty = true
  · have hnone : n ∉ names := fun hn => by
      have hmem := mem_sortedSet.mpr hn
      rw [List.isEmpty_iff.mp hempty] at hmem
      cases hmem
    have hwords : tagWords (optionText .null) = [] := rfl
    rw [if_pos hempty, hwords]
    exact ⟨fun hn => (List.not_mem_nil hn).elim, fun hn => (hnone hn).elim⟩
  · have hread : ∀ n ∈ sortedSet names, Read L n := fun n hn => h n (mem_sortedSet.mp hn)
    rw [if_neg hempty, optionText_str, joinTags_read L hread, tagWords_join fun n hn => (hread n (mem_keepNew.mp hn).1).toIsTag]
    constructor
    · exact fun hn => mem_sortedSet.mp (mem_keepNew.mp hn).1
    · exact fun hn => mem_keepNew.mpr ⟨mem_sortedSet.mpr hn, (h n hn).ne, by simp⟩

/-- Names that were read are read again. -/
theorem mem_registered_written {names : List String} (h : ∀ n ∈ names, Read L n) (n : String) :
    n ∈ parseTags L (optionText (if (sortedSet names).isEmpty then .null else .str (joinTags L (sortedSet names)))) ↔ n ∈ names := by
  rw [mem_parseTags]
  constructor
  · rintro ⟨x, hx, rfl⟩
    have hx := (mem_words_written h x).mp hx
    rwa [(h x hx).lowered]
  · exact fun hn => ⟨n, (mem_words_written h n).mpr hn, (h n hn).lowered⟩

/-- A style that its text can hold is read again. -/
theorem get_style_written {style : Style} (h : ∀ e ∈ style.rows, StyleClean e) (key : String) :
    (parseTagStyle (if serializeTagStyle style ≠ "" then .str (serializeTagStyle style) else .null)).get key = style.get key := by
  by_cases hempty : serializeTagStyle style = ""
  · have hrows := serializeTagStyle_eq_empty h hempty
    have hnone : style.get key = none := Table.get_eq_none.mpr (by simp [hrows])
    rw [if_neg (by simpa using hempty), hnone]
    rfl
  · rw [if_pos hempty, parseTagStyle_serialize h]

theorem mem_toList_join {sep : Char} {parts : List String} {x : Char} (hx : x ∈ (Text.join sep parts).toList) :
    x = sep ∨ ∃ p ∈ parts, x ∈ p.toList := by
  induction parts with
  | nil => cases hx
  | cons part parts ih =>
    cases parts with
    | nil =>
      rw [Text.join_singleton] at hx
      exact .inr ⟨part, List.mem_cons_self, hx⟩
    | cons next rest =>
      rw [Text.toList_join_cons] at hx
      rcases List.mem_append.mp hx with hx | hx
      · exact .inr ⟨part, List.mem_cons_self, hx⟩
      · rcases List.mem_cons.mp hx with rfl | hx
        · exact .inl rfl
        · rcases ih hx with rfl | ⟨p, hp, hx⟩
          · exact .inl rfl
          · exact .inr ⟨p, List.mem_cons_of_mem _ hp, hx⟩

theorem serializeColorMap_ne {colors : Colors} (hne : colors.rows ≠ []) : serializeColorMap colors ≠ "" := by
  have hcolon : ∀ c : TagColor, colorPart c ≠ "" := fun c hempty => by
    have hlist := colorPart_toList c
    rw [hempty] at hlist
    simp at hlist
  have hperm := List.perm_insertionSort (fun a b : TagColor => ¬ b.tag < a.tag) colors.rows
  unfold serializeColorMap
  cases hrows : colors.rows.insertionSort fun a b => ¬ b.tag < a.tag with
  | nil =>
    rw [hrows] at hperm
    exact (hne hperm.symm.eq_nil).elim
  | cons c rest =>
    cases rest with
    | nil =>
      rw [List.map_singleton, Text.join_singleton]
      exact hcolon c
    | cons next rest => exact Text.join_ne_empty _ _ _

/-- The colours of a registry make a value that the text of a style can hold. -/
theorem styleClean_colors {colors : Colors} (h : ∀ c ∈ colors.rows, ColorClean L c) (hne : colors.rows ≠ []) :
    StyleClean ("color-map", serializeColorMap colors) := by
  have hperm := List.perm_insertionSort (fun a b : TagColor => ¬ b.tag < a.tag) colors.rows
  have hchars : ∀ x ∈ (serializeColorMap colors).toList, x = ';' ∨ isTagSeparator x = false := by
    intro x hx
    unfold serializeColorMap at hx
    rcases mem_toList_join hx with rfl | ⟨p, hp, hx⟩
    · exact .inl rfl
    · obtain ⟨c, hc, rfl⟩ := List.mem_map.mp hp
      exact .inr (colorPart_plain (h c (hperm.mem_iff.mp hc)) x hx)
  have hspace : ∀ x ∈ (serializeColorMap colors).toList, Text.isSpace x = false := by
    intro x hx
    rcases hchars x hx with rfl | hplain
    · decide
    · unfold isTagSeparator at hplain
      exact (Bool.or_eq_false_iff.mp hplain).2
  refine ⟨show "color-map" ≠ "" by decide, show Text.strip "color-map" = "color-map" by decide,
    show ',' ∉ "color-map".toList by decide, show '=' ∉ "color-map".toList by decide, serializeColorMap_ne hne, ?_,
    fun hcomma => ?_⟩
  · exact Text.strip_of_ends (fun c hc => hspace c (List.mem_of_head? hc)) fun c hc => hspace c (List.mem_of_getLast? hc)
  · rcases hchars _ hcomma with hcomma | hcomma
    · revert hcomma
      decide
    · revert hcomma
      decide

/-! ## One change -/

/-- `options.get("tag-style")`, parsed. -/
abbrev styleOf (options : Options) : Style := parseTagStyle (getOption options "tag-style")

theorem colorEntry_valid {entry : String} {c : TagColor} (h : colorEntry L entry = some c) :
    c.tag ≠ "" ∧ L.lower c.tag = c.tag ∧ isColor c.background = true ∧ (c.foreground = "" ∨ isColor c.foreground = true) := by
  unfold colorEntry at h
  split at h
  · cases h
  · dsimp only at h
    split at h
    · next hvalid =>
      obtain ⟨htag, hcolor⟩ := Bool.and_eq_true_iff.mp hvalid
      cases h
      refine ⟨by simpa using htag, L.lower_lower _, hcolor, ?_⟩
      dsimp only
      split
      · next hfore => exact .inr hfore
      · exact .inl rfl
    · cases h

theorem styleColors_valid {style : Style} {c : TagColor} (h : c ∈ (styleColors L style).rows) :
    c.tag ≠ "" ∧ L.lower c.tag = c.tag ∧ isColor c.background = true ∧ (c.foreground = "" ∨ isColor c.foreground = true) := by
  obtain ⟨entry, -, hentry⟩ := List.mem_filterMap.mp (Table.mem_rows_ofRows h)
  exact colorEntry_valid hentry

theorem ne_empty_of_isColor {value : String} (h : isColor value = true) : value ≠ "" := by
  rintro rfl
  rw [isColor_empty] at h
  cases h

/-- The tags of the style are names, and its text can hold the rest of it. -/
structure Holdable (L : Lowering) (options : Options) : Prop where
  tags : ∀ c ∈ (styleColors L (styleOf options)).rows, ∀ x ∈ c.tag.toList, isTagSeparator x = false ∧ x ≠ ':'
  entries : ∀ e ∈ (styleOf options).rows, e.1 ≠ "color-map" → StyleClean e

/-- The registry and the style say of all but the tag what they said. -/
structure OneEntry (L : Lowering) (tag : String) (options options' : Options) : Prop where
  names : ∀ n, n ≠ tag → (n ∈ registeredNames L options' ↔ n ∈ registeredNames L options)
  colors : ∀ n, n ≠ tag → (styleColors L (styleOf options')).get n = (styleColors L (styleOf options)).get n
  style : ∀ key, key ≠ "color-map" → (styleOf options').get key = (styleOf options).get key

theorem Holdable.clean {options : Options} (h : Holdable L options) :
    ∀ c ∈ (styleColors L (styleOf options)).rows, ColorClean L c := by
  intro c hc
  obtain ⟨hne, hlowered, hback, hfore⟩ := styleColors_valid hc
  exact ⟨hne, h.tags c hc, hlowered, .inl ⟨hback, hfore⟩⟩

theorem get_withColors_of_ne {key : String} (hkey : key ≠ "color-map") (style : Style) (colors : Colors) :
    (withColors style colors).get key = style.get key := by
  unfold withColors
  split
  · rw [Table.get_keep]
    cases hget : style.get key with
    | none => rfl
    | some e =>
      have hentry : e.1 = key := Table.key_of_get hget
      rw [Option.filter_some, if_pos (by simpa [hentry] using hkey)]
  · rw [Table.get_put, if_neg hkey]

theorem get_withColors_colors (style : Style) (colors : Colors) :
    (withColors style colors).get "color-map" =
      if colors.rows.isEmpty then none else some ("color-map", serializeColorMap colors) := by
  unfold withColors
  split
  · rw [Table.get_keep]
    cases hget : style.get "color-map" with
    | none => rfl
    | some e =>
      have hentry : e.1 = "color-map" := Table.key_of_get hget
      rw [Option.filter_some, if_neg (by simp [hentry])]
  · rw [Table.get_put, if_pos rfl]

theorem styleClean_withColors {style : Style} {colors : Colors} (hstyle : ∀ e ∈ style.rows, e.1 ≠ "color-map" → StyleClean e)
    (hcolors : ∀ c ∈ colors.rows, ColorClean L c) : ∀ e ∈ (withColors style colors).rows, StyleClean e := by
  intro e he
  have hget := Table.get_of_mem he
  by_cases hkey : e.1 = "color-map"
  · rw [hkey, get_withColors_colors] at hget
    split at hget
    · cases hget
    · next hne =>
      cases hget
      exact styleClean_colors hcolors (by simpa using hne)
  · rw [get_withColors_of_ne hkey] at hget
    exact hstyle e (Table.mem_of_get hget) hkey

/-- The colours that are written, read again. -/
theorem get_styleColors_written {style style' : Style} {colors : Colors} (hcolors : ∀ c ∈ colors.rows, ColorClean L c)
    (hget : style'.get "color-map" = (withColors style colors).get "color-map") (tag : String) :
    (styleColors L style').get tag = (colors.get tag).filter fun c => c.background ≠ "" := by
  unfold styleColors
  rw [hget, get_withColors_colors]
  split
  · next hempty =>
    have hnone : colors.get tag = none := Table.get_eq_none.mpr (by simp [List.isEmpty_iff.mp hempty])
    rw [hnone]
    rfl
  · exact parseColorMap_serialize hcolors tag

theorem registryWrite_oneEntry {m : RegistryMutation} (hm : m.Valid L) {options : Options} (hstyle : Holdable L options)
    {w : OptionWrite} (hwrite : registryWrite L m options = .ok w) : OneEntry L m.tag options (w.apply options) := by
  obtain ⟨names, colors, happly, rfl⟩ := registryWrite_ok hwrite
  have htouches := RegistryMutation.apply_touches hm happly
  have hnames : ∀ n ∈ names, Read L n := htouches.read fun n hn => parseTags_read L hn
  have hcolors : ∀ c ∈ colors.rows, ColorClean L c := htouches.clean hstyle.clean
  have hparsed : ∀ key, (styleOf ((bothWrites L (sortedSet names) options (withColors (styleOf options) colors)).apply options)).get key =
      (withColors (styleOf options) colors).get key := by
    intro key
    rw [styleOf, getOption_bothWrites_style]
    exact get_style_written (styleClean_withColors hstyle.entries hcolors) key
  refine ⟨fun n hn => ?_, fun n hn => ?_, fun key hkey => ?_⟩
  · unfold registeredNames
    rw [getOption_bothWrites_names, mem_registered_written hnames]
    exact htouches.others n hn
  · rw [get_styleColors_written hcolors (hparsed _), htouches.otherColors n hn]
    -- a colour that was read has a background
    cases hget : (styleColors L (styleOf options)).get n with
    | none => rfl
    | some c =>
      have hback := (styleColors_valid (Table.mem_of_get hget)).2.2.1
      rw [Option.filter_some, if_pos (by simpa using ne_empty_of_isColor hback)]
  · rw [hparsed, get_withColors_of_ne hkey]

theorem editRegistry_written {edit : RegistryEdit} {answers : RegistryAnswers} {w : OptionWrite}
    (h : (editRegistry L edit answers).1 = some w) :
    ∃ m options, edit.validated L = .ok m ∧ answers.read = .ok options ∧ registryWrite L m options = .ok w := by
  unfold editRegistry at h
  cases hvalid : edit.validated L with
  | error e =>
    simp only [hvalid] at h
    cases h
  | ok m =>
    simp only [hvalid] at h
    cases hread : answers.read with
    | error e =>
      simp only [hread] at h
      cases h
    | ok options =>
      simp only [hread] at h
      cases hwrite : registryWrite L m options with
      | error e =>
        simp only [hwrite] at h
        cases h
      | ok written =>
        simp only [hwrite] at h
        refine ⟨m, options, rfl, rfl, ?_⟩
        cases hfails : answers.write with
        | some e =>
          simp only [hfails] at h
          rw [hwrite, Option.some.inj h]
        | none =>
          simp only [hfails] at h
          cases hreread : answers.reread with
          | error e =>
            simp only [hreread] at h
            rw [hwrite, Option.some.inj h]
          | ok options =>
            simp only [hreread] at h
            rw [hwrite, Option.some.inj h]

/-- A change of the registry touches one tag, in the names, in the colours and in the rest of
the style; and every map of colours is read back from its text. -/
theorem editRegistry_oneEntry {edit : RegistryEdit} {answers : RegistryAnswers} {options : Options} {w : OptionWrite}
    (hread : answers.read = .ok options) (hstyle : Holdable L options) (hwrite : (editRegistry L edit answers).1 = some w) :
    (∃ m, edit.validated L = .ok m ∧ OneEntry L m.tag options (w.apply options)) ∧
      ∀ colors : Colors, (∀ c ∈ colors.rows, ColorClean L c ∧ isColor c.background = true) →
        ∀ tag, (parseColorMap L (serializeColorMap colors)).get tag = colors.get tag := by
  refine ⟨?_, fun colors hcolors tag => ?_⟩
  · obtain ⟨m, options', hvalid, hread', hwritten⟩ := editRegistry_written hwrite
    cases hread.symm.trans hread'
    exact ⟨m, hvalid, registryWrite_oneEntry (RegistryEdit.validated_valid hvalid) hstyle hwritten⟩
  · rw [parseColorMap_serialize fun c hc => (hcolors c hc).1]
    cases hget : colors.get tag with
    | none => rfl
    | some c =>
      have hback := (hcolors c (Table.mem_of_get hget)).2
      rw [Option.filter_some, if_pos (by simpa using ne_empty_of_isColor hback)]

end

/-! ## A blank in a value -/

def colored : Options := [("registered-tags", .str "Prod;web"), ("tag-style", .str "shape=full,color-map=web:FF0000")]

theorem colored_holdable : Holdable lowerLetters colored where
  tags := by
    have hrows : (styleColors lowerLetters (styleOf colored)).rows = [⟨"web", "ff0000", ""⟩] := by decide
    have hweb : IsTagName lowerLetters "web" := ⟨by decide, by decide⟩
    rw [hrows]
    intro c hc
    rw [List.mem_singleton.mp hc]
    exact (colorClean_new hweb (.inl rfl)).plain
  entries := by
    have hrows : (styleOf colored).rows = [("shape", "full"), ("color-map", "web:FF0000")] := by decide
    rw [hrows]
    intro e he hne
    rcases List.mem_cons.mp he with rfl | he
    · exact ⟨by decide, by decide, by decide, by decide, by decide, by decide, by decide⟩
    · rw [List.mem_singleton.mp he] at hne
      exact (hne rfl).elim

theorem colored_oneEntry :
    ∃ w : OptionWrite, (∃ m, (RegistryEdit.register " db " "#00ff00").validated lowerLetters = .ok m ∧
        OneEntry lowerLetters m.tag colored (w.apply colored)) ∧
      ∀ colors : Colors, (∀ c ∈ colors.rows, ColorClean lowerLetters c ∧ isColor c.background = true) →
        ∀ tag, (parseColorMap lowerLetters (serializeColorMap colors)).get tag = colors.get tag :=
  ⟨_, editRegistry_oneEntry (rfl : (⟨.ok colored, none, .ok colored⟩ : RegistryAnswers).read = .ok colored) colored_holdable rfl⟩

/-- The shape is spelled with a blank. -/
def paddedShape : Options := [("tag-style", .obj [("shape", .str " full")])]

/-- The text of a style has no blanks at the ends of its values. -/
theorem paddedShape_trimmed :
    ∃ w, (editRegistry lowerLetters (.register "web" "") ⟨.ok paddedShape, none, .ok paddedShape⟩).1 = some w ∧
      (∀ c ∈ (styleColors lowerLetters (styleOf paddedShape)).rows, ∀ x ∈ c.tag.toList, isTagSeparator x = false ∧ x ≠ ':') ∧
      (∀ e ∈ (styleOf paddedShape).rows, e.2 ≠ "" ∧ ',' ∉ e.2.toList) ∧
      (styleOf (w.apply paddedShape)).get "shape" ≠ (styleOf paddedShape).get "shape" := by
  refine ⟨⟨[("registered-tags", "web"), ("tag-style", "shape= full")], []⟩, rfl, ?_, ?_, ?_⟩
  · intro c hc
    cases hc
  · have hrows : (styleOf paddedShape).rows = [("shape", " full")] := rfl
    rw [hrows]
    decide
  · decide

end PveHelper.Tags
