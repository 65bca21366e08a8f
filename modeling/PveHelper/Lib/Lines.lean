/-
Texts made of lines and of words: the newlines of a file read as text, `str.splitlines`,
`str.split` without a separator and `str.partition` at a separator of several characters. What was
joined is split into the same pieces when no piece holds a separator of Python's, and every piece
is a part of the text.
-/
import PveHelper.Lib.Fields

namespace Lib.Text

/-- `\r\n` as one line break. -/
def joinPairs : List Char → List Char
  | '\r' :: '\n' :: cs => '\n' :: joinPairs cs
  | c :: cs => c :: joinPairs cs
  | [] => []

/-- A file's text with universal newlines. -/
def universalNewlines (s : String) : String :=
  String.ofList ((joinPairs s.toList).map fun c => if c = '\r' then '\n' else c)

/-- Where `str.splitlines` ends a line, by code point. -/
def isLineBreak (c : Char) : Bool :=
  let n := c.toNat
  (10 ≤ n && n ≤ 13) || (28 ≤ n && n ≤ 30) || n == 0x85 || n == 0x2028 || n == 0x2029

/-- `str.splitlines`: what follows the last line break is a line only if there is something. -/
def splitlines (s : String) : List String :=
  let pieces := (joinPairs s.toList).splitOnP isLineBreak
  (if pieces.getLast? = some [] then pieces.dropLast else pieces).map String.ofList

/-- `str.split()`. -/
def words (s : String) : List String := ((s.toList.splitOnP isSpace).filter (· ≠ [])).map String.ofList

/-- The characters before the first occurrence of the separator and those after it. -/
def cutAt (sep : List Char) : List Char → Option (List Char × List Char)
  | [] => none
  | c :: cs =>
    if sep.isPrefixOf (c :: cs) then some ([], (c :: cs).drop sep.length) else (cutAt sep cs).map (Prod.map (c :: ·) id)

/-- `str.partition(sep)`, or nothing where the separator is not found. -/
def partitionOn (sep s : String) : Option (String × String) :=
  (cutAt sep.toList s.toList).map (Prod.map String.ofList String.ofList)

theorem isSpace_of_isLineBreak {c : Char} (h : isLineBreak c = true) : isSpace c = true := by
  unfold isLineBreak at h
  unfold isSpace
  simp only [Bool.or_eq_true, Bool.and_eq_true, decide_eq_true_eq, beq_iff_eq] at h ⊢
  omega

/-! ## Pieces are parts of the text -/

section
variable {p : Char → Bool} {cs l w : List Char}

theorem splitOnP_parts (p : Char → Bool) (cs : List Char) :
    ∃ first rest, cs.splitOnP p = first :: rest ∧ first <+: cs ∧ ∀ l ∈ rest, l <:+: cs := by
  induction cs with
  | nil => exact ⟨[], [], List.splitOnP_nil, List.prefix_refl [], fun l hl => absurd hl List.not_mem_nil⟩
  | cons c cs ih =>
    obtain ⟨first, rest, hparts, hfirst, hrest⟩ := ih
    rw [List.splitOnP_cons_eq_if_modifyHead]
    split
    · refine ⟨[], first :: rest, by rw [hparts], List.nil_prefix, fun l hl => ?_⟩
      rcases List.mem_cons.mp hl with rfl | hl
      · exact hfirst.isInfix.trans (List.suffix_cons c cs).isInfix
      · exact (hrest l hl).trans (List.suffix_cons c cs).isInfix
    · refine ⟨c :: first, rest, by rw [hparts, List.modifyHead_cons], List.prefix_cons_iff.mpr (.inr ⟨_, rfl, hfirst⟩), fun l hl => ?_⟩
      exact (hrest l hl).trans (List.suffix_cons c cs).isInfix

theorem splitOnP_isInfix (hl : l ∈ cs.splitOnP p) : l <:+: cs := by
  obtain ⟨first, rest, hparts, hfirst, hrest⟩ := splitOnP_parts p cs
  rw [hparts] at hl
  rcases List.mem_cons.mp hl with rfl | hl
  · exact hfirst.isInfix
  · exact hrest l hl

theorem cutAt_eq {sep before after : List Char} (h : cutAt sep cs = some (before, after)) : cs = before ++ sep ++ after := by
  induction cs generalizing before with
  | nil => cases h
  | cons c cs ih =>
    rw [cutAt] at h
    split at h
    · next hsep =>
      rw [Option.some.injEq, Prod.mk.injEq] at h
      obtain ⟨rfl, rfl⟩ := h
      exact (List.prefix_iff_eq_append.mp (List.isPrefixOf_iff_prefix.mp hsep)).symm
    · obtain ⟨⟨before', after'⟩, hcut, hmap⟩ := Option.map_eq_some_iff.mp h
      rw [Prod.map_apply, Prod.mk.injEq] at hmap
      obtain ⟨rfl, rfl⟩ := hmap
      rw [ih hcut]
      rfl

theorem joinPairs_of_not_mem (h : '\r' ∉ cs) : joinPairs cs = cs := by
  induction cs using joinPairs.induct with
  | case1 cs ih => exact absurd List.mem_cons_self h
  | case2 c cs hpair ih => rw [joinPairs.eq_2 c cs hpair, ih fun hc => h (List.mem_cons_of_mem _ hc)]
  | case3 => rfl

theorem joinPairs_isPrefix (hw : '\n' ∉ w) (h : w <+: joinPairs cs) : w <+: cs := by
  induction cs using joinPairs.induct generalizing w with
  | case1 cs ih =>
    rw [joinPairs] at h
    rcases List.prefix_cons_iff.mp h with rfl | ⟨w', rfl, -⟩
    · exact List.nil_prefix
    · exact absurd List.mem_cons_self hw
  | case2 c cs hpair ih =>
    rw [joinPairs.eq_2 c cs hpair] at h
    rcases List.prefix_cons_iff.mp h with rfl | ⟨w', rfl, hrest⟩
    · exact List.nil_prefix
    · exact List.prefix_cons_iff.mpr (.inr ⟨w', rfl, ih (fun hc => hw (List.mem_cons_of_mem _ hc)) hrest⟩)
  | case3 => exact h

/-- A part without line feeds is a part of the text before its pairs were joined. -/
theorem joinPairs_infix (hw : '\n' ∉ w) (h : w <:+: joinPairs cs) : w <:+: cs := by
  induction cs using joinPairs.induct with
  | case1 cs ih =>
    rw [joinPairs] at h
    rcases List.infix_cons_iff.mp h with h | h
    · rcases List.prefix_cons_iff.mp h with rfl | ⟨w', rfl, -⟩
      · exact List.nil_infix
      · exact absurd List.mem_cons_self hw
    · exact (ih h).trans ⟨['\r', '\n'], [], by simp⟩
  | case2 c cs hpair ih =>
    have hcons : joinPairs (c :: cs) = c :: joinPairs cs := joinPairs.eq_2 c cs hpair
    rcases List.infix_cons_iff.mp (hcons ▸ h) with hp | hi
    · exact (joinPairs_isPrefix hw (hcons ▸ hp)).isInfix
    · exact (ih hi).trans (List.suffix_cons c cs).isInfix
  | case3 => exact h

theorem not_mem_universalNewlines (s : String) : '\r' ∉ (universalNewlines s).toList := by
  rw [universalNewlines, String.toList_ofList]
  intro hmem
  obtain ⟨c, -, hc⟩ := List.mem_map.mp hmem
  split at hc
  · exact absurd hc (by decide)
  · next hne => exact hne hc

theorem universalNewlines_of_not_mem {s : String} (h : '\r' ∉ s.toList) : universalNewlines s = s := by
  have hsame : ∀ c ∈ s.toList, (if c = '\r' then '\n' else c) = id c := by
    intro c hc
    refine if_neg ?_
    rintro rfl
    exact h hc
  rw [universalNewlines, joinPairs_of_not_mem h, List.map_congr_left hsame, List.map_id, String.ofList_toList]

theorem universalNewlines_infix {s : String} (hw : '\n' ∉ w) (h : w <:+: (universalNewlines s).toList) : w <:+: s.toList := by
  rw [universalNewlines, String.toList_ofList] at h
  obtain ⟨w', hw', rfl⟩ := List.infix_map_iff.mp h
  have hsame : ∀ c ∈ w', (if c = '\r' then '\n' else c) = id c := by
    intro c hc
    split
    · next hr =>
      refine absurd (List.mem_map.mpr ⟨c, hc, ?_⟩) hw
      exact if_pos hr
    · rfl
  rw [List.map_congr_left hsame, List.map_id] at hw ⊢
  exact joinPairs_infix hw hw'

/-- A line of a text without carriage returns is a part of it, and has no line break. -/
theorem splitlines_parts {s line : String} (hs : '\r' ∉ s.toList) (h : line ∈ splitlines s) :
    line.toList <:+: s.toList ∧ ∀ c ∈ line.toList, isLineBreak c = false := by
  obtain ⟨l, hl, rfl⟩ := List.mem_map.mp h
  have hmem : l ∈ (joinPairs s.toList).splitOnP isLineBreak := by
    split at hl
    · exact List.dropLast_subset _ hl
    · exact hl
  rw [joinPairs_of_not_mem hs] at hmem
  rw [String.toList_ofList]
  exact ⟨splitOnP_isInfix hmem, not_of_mem_splitOnP hmem⟩

theorem words_parts {s word : String} (h : word ∈ words s) :
    word.toList <:+: s.toList ∧ ∀ c ∈ word.toList, isSpace c = false := by
  obtain ⟨l, hl, rfl⟩ := List.mem_map.mp h
  have hmem := (List.mem_filter.mp hl).1
  rw [String.toList_ofList]
  exact ⟨splitOnP_isInfix hmem, not_of_mem_splitOnP hmem⟩

theorem partitionOn_parts {sep s before after : String} (h : partitionOn sep s = some (before, after)) :
    before.toList <:+: s.toList ∧ after.toList <:+: s.toList := by
  obtain ⟨⟨b, a⟩, hcut, hmap⟩ := Option.map_eq_some_iff.mp h
  rw [Prod.map_apply, Prod.mk.injEq] at hmap
  obtain ⟨rfl, rfl⟩ := hmap
  rw [cutAt_eq hcut, String.toList_ofList, String.toList_ofList, List.append_assoc]
  exact ⟨(List.prefix_append b _).isInfix, ((List.suffix_append sep.toList a).trans (List.suffix_append b _)).isInfix⟩

end

/-! ## What was joined is split again -/

/-- Lines that hold no line break, each with a line feed after it. -/
theorem splitlines_lines {lines : List String} (h : ∀ line ∈ lines, ∀ c ∈ line.toList, isLineBreak c = false) :
    splitlines (String.ofList (lines.flatMap fun line => line.toList ++ ['\n'])) = lines := by
  have hpieces : (lines.flatMap fun line => line.toList ++ ['\n']).splitOnP isLineBreak = lines.map String.toList ++ [[]] := by
    induction lines with
    | nil => rfl
    | cons line rest ih =>
      rw [List.flatMap_cons, List.append_assoc, List.singleton_append,
        List.splitOnP_append_cons_of_forall_mem (h line List.mem_cons_self) '\n' rfl,
        ih fun l hl => h l (List.mem_cons_of_mem _ hl)]
      rfl
  have hreturn : '\r' ∉ lines.flatMap fun line => line.toList ++ ['\n'] := by
    intro hmem
    obtain ⟨line, hline, hc⟩ := List.mem_flatMap.mp hmem
    rcases List.mem_append.mp hc with hc | hc
    · exact absurd (h line hline _ hc) (by decide)
    · exact absurd hc (by decide)
  unfold splitlines
  rw [String.toList_ofList, joinPairs_of_not_mem hreturn, hpieces]
  simp [Function.comp_def]

theorem splitOnP_intercalate {p : Char → Bool} {sep : Char} (hsep : p sep = true) {fields : List (List Char)}
    (hne : fields ≠ []) (h : ∀ f ∈ fields, ∀ c ∈ f, p c = false) : ([sep].intercalate fields).splitOnP p = fields := by
  induction fields with
  | nil => exact absurd rfl hne
  | cons f rest ih =>
    have hf : ∀ c ∈ f, p c = false := h f List.mem_cons_self
    cases rest with
    | nil =>
      rw [List.intercalate_singleton]
      exact List.splitOnP_eq_singleton hf
    | cons g rest =>
      rw [List.intercalate_cons_cons, List.append_assoc, List.singleton_append, List.splitOnP_append_cons_of_forall_mem hf sep hsep,
        ih (List.cons_ne_nil g rest) fun f hf => h f (List.mem_cons_of_mem _ hf)]

/-- Fields that are words, with a blank between each two. -/
theorem words_join {fields : List String} (hne : ∀ f ∈ fields, f ≠ "") (h : ∀ f ∈ fields, ∀ c ∈ f.toList, isSpace c = false) :
    words (join ' ' fields) = fields := by
  by_cases hnil : fields = []
  · subst hnil
    rfl
  have hlists : ∀ l ∈ fields.map String.toList, ∀ c ∈ l, isSpace c = false := by
    intro l hl
    obtain ⟨f, hf, rfl⟩ := List.mem_map.mp hl
    exact h f hf
  have hfilter : (fields.map String.toList).filter (· ≠ []) = fields.map String.toList := by
    refine List.filter_eq_self.mpr fun l hl => ?_
    obtain ⟨f, hf, rfl⟩ := List.mem_map.mp hl
    exact decide_eq_true fun he => hne f hf (String.toList_eq_nil_iff.mp he)
  rw [words, toList_join, splitOnP_intercalate (by decide) (by simpa using hnil) hlists, hfilter, List.map_map]
  simp [Function.comp_def]

section
variable {sep : Char} {lone : List Char}

theorem cutAt_skip {cs : List Char} (hcs : sep ∉ cs) (rest : List Char) :
    cutAt (sep :: lone) (cs ++ rest) = (cutAt (sep :: lone) rest).map (Prod.map (cs ++ ·) id) := by
  induction cs with
  | nil =>
    rw [List.nil_append]
    cases cutAt (sep :: lone) rest with
    | none => rfl
    | some parts => rfl
  | cons c cs ih =>
    have hc : ¬ (sep :: lone).isPrefixOf (c :: (cs ++ rest)) = true := by
      rw [List.isPrefixOf_iff_prefix, List.cons_prefix_cons]
      rintro ⟨rfl, -⟩
      exact hcs List.mem_cons_self
    rw [List.cons_append, cutAt, if_neg hc, ih fun hmem => hcs (List.mem_cons_of_mem _ hmem), Option.map_map]
    rfl

/-- A text of fields is cut where a field is first the one between the separators. -/
theorem cutAt_intercalate (hlone : sep ∉ lone) (fields : List (List Char)) (hne : fields ≠ [])
    (hsep : ∀ f ∈ fields, sep ∉ f) (hother : ∀ f ∈ fields, f ≠ lone) (rest : List Char) :
    cutAt (sep :: (lone ++ [sep])) ([sep].intercalate fields ++ sep :: (lone ++ sep :: rest)) = some ([sep].intercalate fields, rest) := by
  induction fields with
  | nil => exact absurd rfl hne
  | cons f fields ih =>
    cases fields with
    | nil =>
      have hfound : (sep :: (lone ++ [sep])).isPrefixOf (sep :: (lone ++ sep :: rest)) = true := by
        rw [List.isPrefixOf_iff_prefix]
        exact ⟨rest, by simp⟩
      rw [List.intercalate_singleton, cutAt_skip (hsep f List.mem_cons_self), cutAt, if_pos hfound]
      simp
    | cons g fields =>
      have hg : ¬ (sep :: (lone ++ [sep])).isPrefixOf (sep :: ([sep].intercalate (g :: fields) ++ sep :: (lone ++ sep :: rest))) = true := by
        rw [List.isPrefixOf_iff_prefix, List.cons_prefix_cons]
        rintro ⟨-, tail, htail⟩
        -- The field after the separator ends at the next one, so it would be the one looked for.
        obtain ⟨after, hafter⟩ : ∃ after, [sep].intercalate (g :: fields) ++ sep :: (lone ++ sep :: rest) = g ++ sep :: after := by
          cases fields with
          | nil => exact ⟨_, by rw [List.intercalate_singleton]⟩
          | cons g' fields => exact ⟨_, by rw [List.intercalate_cons_cons, List.append_assoc, List.append_assoc]; rfl⟩
        rw [hafter, List.append_assoc, List.singleton_append] at htail
        have hleft : (lone ++ sep :: tail).span (· ≠ sep) = (lone, sep :: tail) := span_of_first hlone
        rw [htail, span_of_first (hsep g (List.mem_cons_of_mem _ List.mem_cons_self)), Prod.mk.injEq] at hleft
        exact hother g (List.mem_cons_of_mem _ List.mem_cons_self) hleft.1
      rw [List.intercalate_cons_cons, List.append_assoc, List.append_assoc, cutAt_skip (hsep f List.mem_cons_self),
        List.singleton_append, cutAt, if_neg hg, ih (List.cons_ne_nil g fields) (fun f hf => hsep f (List.mem_cons_of_mem _ hf))
          fun f hf => hother f (List.mem_cons_of_mem _ hf)]
      simp

theorem intercalate_append_cons (sep : Char) {pre : List (List Char)} (hpre : pre ≠ []) (f g : List Char)
    (post : List (List Char)) :
    [sep].intercalate (pre ++ f :: g :: post) = [sep].intercalate pre ++ sep :: (f ++ sep :: [sep].intercalate (g :: post)) := by
  induction pre with
  | nil => exact absurd rfl hpre
  | cons p pre ih =>
    cases pre with
    | nil => simp [List.intercalate_cons_cons]
    | cons q pre =>
      have hrest := ih (List.cons_ne_nil q pre)
      rw [List.cons_append] at hrest
      rw [List.cons_append, List.cons_append, List.intercalate_cons_cons, hrest, List.intercalate_cons_cons]
      simp

/-- A text of fields is parted at the first lone field between two separators. -/
theorem partitionOn_join {sep : Char} (lone : String) (hlone : sep ∉ lone.toList) {before : List String} (hne : before ≠ [])
    (hsep : ∀ f ∈ before, sep ∉ f.toList) (hother : ∀ f ∈ before, f ≠ lone) (next : String) (rest : List String) :
    partitionOn (String.ofList (sep :: (lone.toList ++ [sep]))) (join sep (before ++ lone :: next :: rest)) =
      some (join sep before, join sep (next :: rest)) := by
  have hcut := cutAt_intercalate hlone (before.map String.toList) (by simpa using hne)
    (fun l hl => by
      obtain ⟨f, hf, rfl⟩ := List.mem_map.mp hl
      exact hsep f hf)
    (fun l hl => by
      obtain ⟨f, hf, rfl⟩ := List.mem_map.mp hl
      exact fun he => hother f hf (String.toList_injective he))
    ([sep].intercalate ((next :: rest).map String.toList))
  have htext : (join sep (before ++ lone :: next :: rest)).toList = [sep].intercalate (before.map String.toList) ++
      sep :: (lone.toList ++ sep :: [sep].intercalate ((next :: rest).map String.toList)) := by
    rw [toList_join, List.map_append, List.map_cons, List.map_cons, intercalate_append_cons sep (by simpa using hne)]
  rw [partitionOn, htext, String.toList_ofList, hcut]
  rfl

end

end Lib.Text
