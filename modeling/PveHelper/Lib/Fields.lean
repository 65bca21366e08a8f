/-
Texts made of fields with a separator between them. What was joined is split into
the same fields when no field holds the separator (`split_join`, `splitMax_join`),
a text cut at its first separator has the part before it (`partition_append`), and
a number is read back from its decimal digits (`toInt_toString`).
-/
import PveHelper.Lib.Text
import Mathlib.Data.List.TakeDrop

namespace Lib.Text

/-- `sep.join(fields)`. -/
def join (sep : Char) (fields : List String) : String := String.ofList ([sep].intercalate (fields.map String.toList))

/-- `s.split(sep, cuts)`. -/
def splitMax (sep : Char) : Nat → String → List String
  | 0, s => [s]
  | cuts + 1, s => match partition sep s with
    | (before, none) => [before]
    | (before, some after) => before :: splitMax sep cuts after

theorem exists_cons_of_ne {s : String} (h : s ≠ "") : ∃ c cs, s.toList = c :: cs := by
  cases hs : s.toList with
  | nil => exact absurd (by rw [← String.ofList_toList (s := s), hs]) h
  | cons c cs => exact ⟨c, cs, rfl⟩

variable {sep : Char}

/-! ## Joining and splitting -/

theorem toList_join (fields : List String) : (join sep fields).toList = [sep].intercalate (fields.map String.toList) :=
  String.toList_ofList

theorem toList_join_cons (field next : String) (rest : List String) :
    (join sep (field :: next :: rest)).toList = field.toList ++ sep :: (join sep (next :: rest)).toList := by
  rw [toList_join, toList_join, List.map_cons, List.map_cons, List.intercalate_cons_cons, List.append_assoc]
  rfl

theorem join_singleton (field : String) : join sep [field] = field := by
  simp [join]

theorem toList_join_pair (field last : String) : (join sep [field, last]).toList = field.toList ++ sep :: last.toList := by
  rw [toList_join_cons, join_singleton]

/-- Where two fields are joined there is at least the separator. -/
theorem join_ne_empty (field next : String) (rest : List String) : join sep (field :: next :: rest) ≠ "" := by
  intro h
  have hlist := congrArg String.toList h
  rw [toList_join_cons] at hlist
  simp at hlist

/-- A joined text holds the fields' characters and the separator. -/
theorem mem_join {fields : List String} {c : Char} (hc : c ∈ (join sep fields).toList) :
    c = sep ∨ ∃ f ∈ fields, c ∈ f.toList := by
  induction fields with
  | nil => simp [join] at hc
  | cons field rest ih =>
    cases rest with
    | nil =>
      rw [join_singleton] at hc
      exact .inr ⟨field, List.mem_singleton.mpr rfl, hc⟩
    | cons next rest =>
      rw [toList_join_cons, List.mem_append, List.mem_cons] at hc
      rcases hc with hc | rfl | hc
      · exact .inr ⟨field, List.mem_cons_self .., hc⟩
      · exact .inl rfl
      · rcases ih hc with rfl | ⟨f, hf, hcf⟩
        · exact .inl rfl
        · exact .inr ⟨f, List.mem_cons_of_mem _ hf, hcf⟩

theorem split_join {fields : List String} (hne : fields ≠ []) (hsep : ∀ f ∈ fields, sep ∉ f.toList) :
    split sep (join sep fields) = fields := by
  have hlists : ∀ l ∈ fields.map String.toList, sep ∉ l := by
    intro l hl
    obtain ⟨f, hf, rfl⟩ := List.mem_map.mp hl
    exact hsep f hf
  rw [split, toList_join, List.splitOn_intercalate sep hlists (by simpa using hne), List.map_map]
  simp [Function.comp_def]

/-- The characters of the fields are those that separate nothing. -/
theorem mem_field_splitOnP {p : Char → Bool} {cs : List Char} {c : Char} :
    (∃ l ∈ cs.splitOnP p, c ∈ l) ↔ c ∈ cs ∧ p c = false := by
  induction cs with
  | nil => simp
  | cons d cs ih =>
    rw [List.splitOnP_cons_eq_if_modifyHead]
    split
    · next hd =>
      simp only [List.mem_cons, exists_eq_or_imp, List.not_mem_nil, false_or, ih]
      refine ⟨fun h => ⟨.inr h.1, h.2⟩, fun h => ⟨h.1.resolve_left ?_, h.2⟩⟩
      rintro rfl
      rw [hd] at h
      cases h.2
    · next hd =>
      obtain ⟨first, rest, hparts⟩ := List.exists_cons_of_ne_nil (List.splitOnP_ne_nil p cs)
      rw [hparts] at ih ⊢
      simp only [List.modifyHead_cons, List.mem_cons, exists_eq_or_imp, or_assoc] at ih ⊢
      rw [ih]
      constructor
      · rintro (rfl | h)
        · exact ⟨.inl rfl, Bool.eq_false_iff.mpr hd⟩
        · exact ⟨.inr h.1, h.2⟩
      · rintro ⟨rfl | h, hp⟩
        · exact .inl rfl
        · exact .inr ⟨h, hp⟩

theorem not_of_mem_splitOnP {p : Char → Bool} {cs l : List Char} (hl : l ∈ cs.splitOnP p) : ∀ c ∈ l, p c = false :=
  fun _ hc => (mem_field_splitOnP.mp ⟨l, hl, hc⟩).2

/-- The characters of the fields are those of the text, the separator apart. -/
theorem mem_field_split {s : String} {c : Char} : (∃ f ∈ split sep s, c ∈ f.toList) ↔ c ∈ s.toList ∧ c ≠ sep := by
  have hfields : (∃ l ∈ s.toList.splitOnP (· == sep), c ∈ l) ↔ c ∈ s.toList ∧ (c == sep) = false := mem_field_splitOnP
  rw [beq_eq_false_iff_ne] at hfields
  rw [← hfields, split, List.splitOn]
  simp only [List.mem_map, exists_exists_and_eq_and, String.toList_ofList]

/-- Separators at the end only add empty fields. -/
theorem filter_splitOnP_append {p : Char → Bool} (cs : List Char) {ds : List Char} (hds : ∀ c ∈ ds, p c = true) :
    ((cs ++ ds).splitOnP p).filter (· ≠ []) = (cs.splitOnP p).filter (· ≠ []) := by
  induction ds generalizing cs with
  | nil => rw [List.append_nil]
  | cons d ds ih =>
    have hrest := ih (cs ++ [d]) fun c hc => hds c (List.mem_cons_of_mem _ hc)
    rw [List.append_assoc, List.singleton_append] at hrest
    rw [hrest, List.splitOnP_append_cons _ _ (hds d List.mem_cons_self), List.filter_append]
    simp

/-- No field of a split text holds the separator. -/
theorem not_mem_of_mem_split {s field : String} (h : field ∈ split sep s) : sep ∉ field.toList :=
  fun hmem => (mem_field_split.mp ⟨field, h, hmem⟩).2 rfl

/-- The first field of a text that begins with one. -/
theorem split_of_first {s field : String} {rest : List Char} (hs : s.toList = field.toList ++ sep :: rest)
    (hsep : sep ∉ field.toList) : ∃ fields, split sep s = field :: fields := by
  refine ⟨(rest.splitOn sep).map String.ofList, ?_⟩
  rw [split, hs, List.splitOn_append_cons_self_of_not_mem hsep, List.map_cons, String.ofList_toList]

theorem all_ne_of_not_mem {cs : List Char} (h : sep ∉ cs) : ∀ c ∈ cs, decide (c ≠ sep) = true := by
  intro c hc
  have hne : c ≠ sep := fun he => h (he ▸ hc)
  simpa using hne

theorem dropWhile_of_not_mem {cs : List Char} (h : sep ∉ cs) : cs.dropWhile (· ≠ sep) = [] :=
  List.dropWhile_eq_nil_iff.mpr (all_ne_of_not_mem h)

theorem partition_of_not_mem {s : String} (h : sep ∉ s.toList) : partition sep s = (s, none) := by
  rw [partition, List.span_eq_takeWhile_dropWhile, dropWhile_of_not_mem h]

/-- The text up to the first separator. -/
theorem span_of_first {before after : List Char} (h : sep ∉ before) :
    (before ++ sep :: after).span (· ≠ sep) = (before, sep :: after) := by
  have hall := all_ne_of_not_mem h
  rw [List.span_eq_takeWhile_dropWhile, List.takeWhile_append_of_pos hall, List.dropWhile_append_of_pos hall]
  simp

theorem partition_of_first {s before : String} {after : List Char} (hs : s.toList = before.toList ++ sep :: after)
    (h : sep ∉ before.toList) : partition sep s = (before, some (String.ofList after)) := by
  rw [partition, hs, span_of_first h]
  simp only [String.ofList_toList]

theorem partition_eq_some {s before after : String} (h : partition sep s = (before, some after)) :
    s.toList = before.toList ++ sep :: after.toList ∧ sep ∉ before.toList := by
  unfold partition at h
  have hspan := List.span_eq_takeWhile_dropWhile (· ≠ sep) s.toList
  have hsplit := List.takeWhile_append_dropWhile (p := (· ≠ sep)) (l := s.toList)
  split at h
  · cases h
  · next first c rest hs =>
    rw [hs, Prod.mk.injEq] at hspan
    obtain ⟨rfl, hrest⟩ := hspan
    have hc : c = sep := by
      have hhead := List.head?_dropWhile_not (· ≠ sep) s.toList
      rw [← hrest] at hhead
      simpa using hhead
    subst hc
    rw [Prod.mk.injEq, Option.some.injEq] at h
    obtain ⟨rfl, rfl⟩ := h
    rw [String.toList_ofList, String.toList_ofList, hrest, hsplit]
    refine ⟨rfl, fun hmem => ?_⟩
    have hne := List.mem_takeWhile_imp hmem
    simp at hne

theorem splitMax_join {cuts : Nat} {fields : List String} (hlen : fields.length = cuts + 1)
    (hsep : ∀ f ∈ fields, sep ∉ f.toList) : splitMax sep cuts (join sep fields) = fields := by
  induction cuts generalizing fields with
  | zero =>
    obtain ⟨f, rfl⟩ := List.length_eq_one_iff.mp hlen
    rw [join_singleton]
    rfl
  | succ cuts ih =>
    match fields, hlen with
    | f :: next :: rest, hlen =>
      have hpart := partition_of_first (toList_join_cons f next rest) (hsep f (by simp))
      rw [splitMax, hpart, String.ofList_toList]
      have hrest := ih (by simpa using hlen) fun g hg => hsep g (List.mem_cons_of_mem _ hg)
      simp only [hrest]

/-- The last field may hold the separator. -/
theorem splitMax_join_concat (fields : List String) (last : String) (hsep : ∀ f ∈ fields, sep ∉ f.toList) :
    splitMax sep fields.length (join sep (fields ++ [last])) = fields ++ [last] := by
  induction fields with
  | nil =>
    rw [List.nil_append, join_singleton]
    rfl
  | cons f fields ih =>
    obtain ⟨next, rest, hnext⟩ := List.exists_cons_of_ne_nil (l := fields ++ [last]) (by simp)
    have hrest := ih fun g hg => hsep g (List.mem_cons_of_mem _ hg)
    have hpart := partition_of_first (toList_join_cons f next rest) (hsep f List.mem_cons_self)
    rw [hnext] at hrest
    rw [List.cons_append, hnext, List.length_cons, splitMax, hpart, String.ofList_toList]
    simp only [hrest]

theorem splitMax_of_first {s field : String} {rest : List Char} (cuts : Nat) (hs : s.toList = field.toList ++ sep :: rest)
    (hsep : sep ∉ field.toList) : ∃ fields, splitMax sep (cuts + 1) s = field :: fields := by
  rw [splitMax, partition_of_first hs hsep]
  exact ⟨_, rfl⟩

/-! ## Numbers -/

theorem digitValue_of_isDigit {c : Char} (h : c.isDigit = true) : digitValue c = some (c.toNat - 48) ∧ c ≠ '_' := by
  have hrange : 48 ≤ c.toNat ∧ c.toNat ≤ 57 := Char.isDigit_iff_toNat.mp h
  constructor
  · have hfind : decimalZeros.find? (fun z => z ≤ c.toNat && c.toNat < z + 10) = some 0x30 := by
      rw [decimalZeros, List.find?_cons_of_pos]
      rw [Bool.and_eq_true, decide_eq_true_eq, decide_eq_true_eq]
      omega
    rw [digitValue, hfind]
    rfl
  · rintro rfl
    revert hrange
    decide

theorem parseDigits_digits {cs : List Char} (h : ∀ c ∈ cs, c.isDigit = true) (n : Nat) (digit : Bool)
    (hne : digit = true ∨ cs ≠ []) : parseDigits cs n digit = some (Nat.ofDigitChars 10 cs n) := by
  induction cs generalizing n digit with
  | nil =>
    have hdigit : digit = true := hne.resolve_right (by simp)
    simp [parseDigits, hdigit]
  | cons c cs ih =>
    obtain ⟨hvalue, hline⟩ := digitValue_of_isDigit (h c (List.mem_cons_self ..))
    rw [parseDigits, if_neg hline, hvalue, Nat.ofDigitChars_cons]
    exact ih (fun c hc => h c (List.mem_cons_of_mem _ hc)) _ true (.inl rfl)

theorem isSpace_of_isDigit {c : Char} (h : c.isDigit = true) : isSpace c = false := by
  have hrange : 48 ≤ c.toNat ∧ c.toNat ≤ 57 := Char.isDigit_iff_toNat.mp h
  simp only [isSpace, Bool.or_eq_false_iff, Bool.and_eq_false_iff, decide_eq_false_iff_not, beq_eq_false_iff_ne]
  omega

/-- What has no such character at its ends keeps all of it. -/
theorem trimmed_of_ends {p : Char → Bool} {cs : List Char} (hhead : ∀ c ∈ cs.head?, p c = false)
    (hlast : ∀ c ∈ cs.getLast?, p c = false) : ((cs.dropWhile p).reverse.dropWhile p).reverse = cs := by
  have hfront : cs.dropWhile p = cs := by
    cases cs with
    | nil => rfl
    | cons c cs =>
      have hc : p c = false := hhead c rfl
      rw [List.dropWhile_cons_of_neg (by simp [hc])]
  have hback : cs.reverse.dropWhile p = cs.reverse := by
    cases h : cs.reverse with
    | nil => rfl
    | cons c rest =>
      have hc : p c = false := hlast c (by simp [← List.head?_reverse, h])
      rw [List.dropWhile_cons_of_neg (by simp [hc])]
  rw [hfront, hback, List.reverse_reverse]

/-- A text without a blank at its ends is stripped of nothing. -/
theorem strip_of_ends {s : String} (hhead : ∀ c ∈ s.toList.head?, isSpace c = false)
    (hlast : ∀ c ∈ s.toList.getLast?, isSpace c = false) : strip s = s := by
  rw [strip, trimmed_of_ends hhead hlast, String.ofList_toList]

theorem toInt_toString (n : Nat) : toInt (toString n) = some (n : Int) := by
  have hlist : (toString n).toList = Nat.toDigits 10 n := by
    rw [Nat.toString_eq_ofList_toDigits, String.toList_ofList]
  have hdigits : ∀ c ∈ Nat.toDigits 10 n, c.isDigit = true := fun c hc =>
    Nat.isDigit_of_mem_toDigits (by decide) (by decide) hc
  have hblank : ∀ c ∈ Nat.toDigits 10 n, isNumberSpace c = false := fun c hc => by
    rw [isNumberSpace, isSpace_of_isDigit (hdigits c hc), Bool.false_and]
  have hstrip : stripNumber (toString n) = toString n := by
    rw [stripNumber, hlist, trimmed_of_ends (fun c hc => hblank c (List.mem_of_head? hc))
      fun c hc => hblank c (List.mem_of_getLast? hc), ← hlist, String.ofList_toList]
  have hparse : parseDigits (Nat.toDigits 10 n) 0 false = some n := by
    rw [parseDigits_digits hdigits 0 false (.inr Nat.toDigits_ne_nil), Nat.ofDigitChars_ten_toDigits]
  rw [toInt, hstrip, hlist]
  -- the first character is a digit, so no sign
  split
  · rename_i cs hcs
    exact absurd (hdigits '-' (by rw [hcs]; simp)) (by decide)
  · rename_i cs hcs
    exact absurd (hdigits '+' (by rw [hcs]; simp)) (by decide)
  · rw [hparse]
    rfl

/-- The digits of a number end where something else comes. -/
theorem takeWhile_toString (n : Nat) {c : Char} (hc : c.isDigit = false) (l : List Char) :
    ((toString n).toList ++ c :: l).takeWhile Char.isDigit = Nat.toDigits 10 n := by
  rw [Nat.toString_eq_ofList_toDigits, String.toList_ofList,
    List.takeWhile_append_of_pos fun d hd => Nat.isDigit_of_mem_toDigits (by decide) (by decide) hd,
    List.takeWhile_cons_of_neg (by simp [hc]), List.append_nil]

/-- So the number in front is the same where the texts are. -/
theorem toString_append_inj {n m : Nat} {c : Char} (hc : c.isDigit = false) {l l' : List Char}
    (h : (toString n).toList ++ c :: l = (toString m).toList ++ c :: l') : n = m := by
  have hdigits : Nat.toDigits 10 n = Nat.toDigits 10 m := by
    rw [← takeWhile_toString n hc l, ← takeWhile_toString m hc l', h]
  rw [← Nat.ofDigitChars_ten_toDigits (n := n), hdigits, Nat.ofDigitChars_ten_toDigits]

end Lib.Text
