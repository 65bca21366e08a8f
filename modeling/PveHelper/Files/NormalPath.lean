/-
`normalized_relative_path` with and without the replacing of backslashes. `PurePosixPath` drops
dots and empty components before the function looks at them, so what it checks for cannot be there;
a text that is nothing but dots and slashes passes as the path `.`, which has no component at all.
Every other text is refused or gives a path of ordinary components, which is read as itself.
-/
import PveHelper.Files.ConfinedFacts

namespace PveHelper.Files

open Lib

/-- `value.replace("\\", "/")`. -/
def slashed (raw : String) : String := String.ofList (raw.toList.map fun c => if c = '\\' then '/' else c)

/-- The text that the checks run on. -/
def readAs (replaceBackslashes : Bool) (raw : String) : String := if replaceBackslashes then slashed raw else raw

/-- `normalized_relative_path(raw, replace_backslashes=...)`, as the path it returns. -/
def normalizedPath (replaceBackslashes : Bool) (raw : String) : Except Raised String :=
  if !replaceBackslashes && decide ('\\' ∈ raw.toList) then
    .error (.confined .failed "Backslashes are not valid path separators.")
  else
    let value := readAs replaceBackslashes raw
    if Text.startsWith value "/" then .error (.confined .failed "Absolute paths are not allowed.")
    else
      let value := Text.stripChar '/' value
      if value = "" ∨ '\x00' ∈ value.toList then .error (.confined .failed "Path is empty or invalid.")
      else
        let parts := Text.posixParts value
        if Text.startsWith value "/" || parts.any fun part => part == "" || part == "." || part == ".." then
          .error (.confined .failed "Path must stay beneath the storage root.")
        else .ok (posixText parts)

/-- Nothing but dots and slashes, a dot first: `.`, `./`, `./.` and so on. -/
def OnlyDots (value : String) : Prop :=
  value ≠ "" ∧ Text.startsWith value "/" = false ∧ ∀ c ∈ Text.split '/' value, c = "" ∨ c = "."

instance (value : String) : Decidable (OnlyDots value) := inferInstanceAs (Decidable (_ ∧ _ ∧ _))

/-- A path that can be joined below a root. -/
structure SafePath (path : String) : Prop where
  component : Text.posixParts path ≠ []
  ordinary : ∀ c ∈ Text.split '/' path, c ≠ "" ∧ c ≠ "." ∧ c ≠ ".."
  relative : Text.startsWith path "/" = false
  nul : '\x00' ∉ path.toList

/-- What the two readings of a text owe: a refusal of the module's own, or a safe path that is read as
itself; the same answer as `_normalize_relative_path` where there is nothing to trim; and a last
component for the helpers that index it. -/
structure Normalises (replaceBackslashes : Bool) (raw : String) : Prop where
  safe : (∃ kind message, normalizedPath replaceBackslashes raw = .error (.confined kind message)) ∨
    ∃ path, normalizedPath replaceBackslashes raw = .ok path ∧ SafePath path ∧ normalizedPath replaceBackslashes path = .ok path
  agrees : Trimmed raw → raw ≠ "" → Text.startsWith raw "/" = false → '\\' ∉ raw.toList → '\x00' ∉ raw.toList →
    ∀ path, normalizedPath replaceBackslashes raw = .ok path ↔ normalizeRelativePath raw = .ok path
  indexes : ∀ path, normalizedPath replaceBackslashes raw = .ok path →
    (∀ parts, normalizedRelativePath path = .ok parts → parts ≠ []) ∧ ∀ k root s s', confinedEntryStat k root path s ≠ .error .index s'

/-! ## Components -/

section
variable {s v raw path : String} {replaceBackslashes : Bool} {p : List String}

theorem head_of_relative (h : Text.startsWith s "/" = false) : '/' ∉ s.toList.head? := by
  intro hhead
  obtain ⟨cs, hcs⟩ := List.head?_eq_some_iff.mp hhead
  rw [Text.startsWith, hcs] at h
  simp at h

theorem relative_of_head (h : '/' ∉ s.toList.head?) : Text.startsWith s "/" = false := by
  rw [Text.startsWith]
  cases hs : s.toList with
  | nil => rfl
  | cons c cs =>
    have hc : c ≠ '/' := fun he => h (by rw [hs, he]; rfl)
    show ('/' == c && List.isPrefixOf [] cs) = false
    rw [beq_eq_false_iff_ne.mpr hc.symm, Bool.false_and]

/-- The components of a relative text are its fields, without the empty ones and the dots. -/
theorem posixParts_relative (h : Text.startsWith s "/" = false) :
    Text.posixParts s = (Text.split '/' s).filter fun part => part != "" && part != "." := by
  have hslashes : s.toList.takeWhile (· = '/') = [] := by
    have hhead := head_of_relative h
    cases hs : s.toList with
    | nil => rfl
    | cons c cs =>
      refine List.takeWhile_cons_of_neg fun hc => hhead ?_
      rw [hs, of_decide_eq_true hc]
      rfl
  unfold Text.posixParts
  rw [hslashes]
  rfl

theorem posixParts_names (h : Text.startsWith s "/" = false) : ∀ n ∈ Text.posixParts s, Posix.IsName n := by
  intro n hn
  rw [posixParts_relative h] at hn
  obtain ⟨hsplit, hne⟩ := List.mem_filter.mp hn
  simp only [Bool.and_eq_true, bne_iff_ne, ne_eq] at hne
  exact ⟨hne.1, hne.2, Text.not_mem_of_mem_split hsplit⟩

/-- A character of a component is one of the text. -/
theorem mem_of_mem_posixParts (h : Text.startsWith s "/" = false) {n : String} (hn : n ∈ Text.posixParts s) {c : Char}
    (hc : c ∈ n.toList) : c ∈ s.toList := by
  rw [posixParts_relative h] at hn
  exact (Text.mem_field_split.mp ⟨n, (List.mem_filter.mp hn).1, hc⟩).1

/-- A relative text without its slashes at the end. -/
theorem stripChar_relative (h : Text.startsWith s "/" = false) : ∃ n, s.toList = (Text.stripChar '/' s).toList ++ List.replicate n '/' := by
  have hfront : s.toList.dropWhile (· = '/') = s.toList := by
    have hhead := head_of_relative h
    cases hs : s.toList with
    | nil => rfl
    | cons c cs =>
      refine List.dropWhile_cons_of_neg fun hc => hhead ?_
      rw [hs, of_decide_eq_true hc]
      rfl
  refine ⟨(s.toList.reverse.takeWhile (· = '/')).length, ?_⟩
  have hends : List.replicate (s.toList.reverse.takeWhile (· = '/')).length '/' = (s.toList.reverse.takeWhile (· = '/')).reverse := by
    symm
    rw [List.eq_replicate_iff]
    refine ⟨List.length_reverse, fun c hc => ?_⟩
    have hslash := List.mem_takeWhile_imp (List.mem_reverse.mp hc)
    exact of_decide_eq_true hslash
  rw [Text.stripChar, String.toList_ofList, hfront, hends, ← List.reverse_append, List.takeWhile_append_dropWhile, List.reverse_reverse]

theorem stripChar_ne_empty (h : Text.startsWith s "/" = false) (hne : s ≠ "") : Text.stripChar '/' s ≠ "" := by
  intro hempty
  obtain ⟨n, hn⟩ := stripChar_relative h
  rw [hempty, String.toList_empty, List.nil_append] at hn
  cases n with
  | zero => exact hne (String.toList_eq_nil_iff.mp hn)
  | succ n => exact head_of_relative h (by rw [hn]; rfl)

theorem stripChar_startsWith (h : Text.startsWith s "/" = false) : Text.startsWith (Text.stripChar '/' s) "/" = false := by
  refine relative_of_head fun hhead => head_of_relative h ?_
  obtain ⟨n, hn⟩ := stripChar_relative h
  obtain ⟨cs, hcs⟩ := List.head?_eq_some_iff.mp hhead
  rw [hn, hcs]
  rfl

theorem mem_stripChar (h : Text.startsWith s "/" = false) {c : Char} (hc : c ∈ (Text.stripChar '/' s).toList) : c ∈ s.toList := by
  obtain ⟨n, hn⟩ := stripChar_relative h
  rw [hn]
  exact List.mem_append_left _ hc

/-- The slashes at the end are no components. -/
theorem posixParts_stripChar (h : Text.startsWith s "/" = false) : Text.posixParts (Text.stripChar '/' s) = Text.posixParts s := by
  obtain ⟨n, hn⟩ := stripChar_relative h
  have hfilter : ∀ t, (Text.split '/' t).filter (fun part => part != "" && part != ".") =
      (((t.toList.splitOnP (· == '/')).filter (· ≠ [])).map String.ofList).filter fun part => part != "." := by
    intro t
    show ((t.toList.splitOnP (· == '/')).map String.ofList).filter (fun part => part != "" && part != ".") = _
    rw [List.filter_map, List.filter_map, List.filter_filter]
    congr 1
    refine List.filter_congr fun l _ => ?_
    have hempty : (String.ofList l != "") = decide (l ≠ []) := by
      cases l with
      | nil => rfl
      | cons c cs =>
        simp
    simp only [Function.comp_apply, hempty]
    exact Bool.and_comm _ _
  rw [posixParts_relative h, posixParts_relative (stripChar_startsWith h), hfilter, hfilter, hn, Text.filter_splitOnP_append]
  intro c hc
  rw [List.eq_of_mem_replicate hc]
  rfl

/-- The components of a path that is accepted are those of its text. -/
theorem parts_of_normalized {path : String} {p : Path} (h : normalizedRelativePath path = .ok p) :
    p = Text.posixParts path := by
  unfold normalizedRelativePath at h
  split at h
  · cases h
  split at h
  · cases h
  dsimp only at h
  split at h
  · cases h
  split at h
  · cases h
  · rename_i habsolute _ _
    rw [Except.ok.injEq] at h
    rw [← h]
    exact posixParts_stripChar (by simpa using habsolute)

/-! ## What is returned -/

/-- The checks, once a text is known to have no backslash. -/
theorem normalizedPath_eq (h : '\\' ∉ (readAs replaceBackslashes raw).toList) :
    normalizedPath replaceBackslashes raw = (normalizedRelativePath (readAs replaceBackslashes raw)).map posixText := by
  have hback : (!replaceBackslashes && decide ('\\' ∈ raw.toList)) = false := by
    cases replaceBackslashes with
    | true => rfl
    | false => exact decide_eq_false h
  unfold normalizedPath normalizedRelativePath
  rw [if_neg h, if_neg (by rw [hback]; exact Bool.false_ne_true)]
  dsimp only
  split
  · rfl
  · next hrel =>
    have hrel := Bool.eq_false_iff.mpr hrel
    split
    · rfl
    · have hchecks : (Text.startsWith (Text.stripChar '/' (readAs replaceBackslashes raw)) "/" ||
          (Text.posixParts (Text.stripChar '/' (readAs replaceBackslashes raw))).any fun part => part == "" || part == "." || part == "..") = true ↔
          ".." ∈ Text.posixParts (Text.stripChar '/' (readAs replaceBackslashes raw)) := by
        rw [stripChar_startsWith hrel, Bool.false_or, List.any_eq_true]
        have hnames := posixParts_names (stripChar_startsWith hrel)
        constructor
        · rintro ⟨n, hn, hpart⟩
          simp only [Bool.or_eq_true, beq_iff_eq] at hpart
          rcases hpart with (hpart | hpart) | hpart
          · exact absurd hpart (hnames n hn).nonempty
          · exact absurd hpart (hnames n hn).dot
          · rwa [hpart] at hn
        · intro hn
          exact ⟨"..", hn, rfl⟩
      by_cases hdots : ".." ∈ Text.posixParts (Text.stripChar '/' (readAs replaceBackslashes raw))
      · rw [if_pos (hchecks.mpr hdots), if_pos hdots]
        rfl
      · rw [if_neg (mt hchecks.mp hdots), if_neg hdots]
        rfl

theorem readAs_of_not_mem (h : '\\' ∉ raw.toList) : readAs replaceBackslashes raw = raw := by
  cases replaceBackslashes with
  | false => rfl
  | true =>
    show slashed raw = raw
    unfold slashed
    have hsame : ∀ c ∈ raw.toList, (if c = '\\' then '/' else c) = id c := by
      intro c hc
      refine if_neg ?_
      rintro rfl
      exact h hc
    rw [List.map_congr_left hsame, List.map_id, String.ofList_toList]

theorem not_mem_slashed (raw : String) : '\\' ∉ (slashed raw).toList := by
  unfold slashed
  rw [String.toList_ofList]
  intro hmem
  obtain ⟨c, -, hc⟩ := List.mem_map.mp hmem
  split at hc
  · exact absurd hc (by decide)
  · next hne => exact hne hc

/-- A path that is accepted is the text of its components, which are names that the text holds. -/
theorem normalizedRelativePath_names (h : normalizedRelativePath v = .ok p) :
    (∀ n ∈ p, ConfinedName n) ∧ (p = [] ↔ OnlyDots v) := by
  unfold normalizedRelativePath at h
  split at h
  · cases h
  · next hback =>
    split at h
    · cases h
    · next hrel =>
      have hrel := Bool.eq_false_iff.mpr hrel
      dsimp only at h
      split at h
      · cases h
      · next hvalue =>
        split at h
        · cases h
        · next hdots =>
          rw [Except.ok.injEq] at h
          obtain ⟨hne, hnul⟩ := not_or.mp hvalue
          have hstrip := stripChar_startsWith hrel
          subst h
          refine ⟨fun n hn => ⟨⟨posixParts_names hstrip n hn, ?_, fun hc => ?_⟩, fun hc => ?_⟩, ?_⟩
          · rintro rfl
            exact hdots hn
          · exact hnul (mem_of_mem_posixParts hstrip hn hc)
          · exact hback (mem_stripChar hrel (mem_of_mem_posixParts hstrip hn hc))
          · rw [posixParts_stripChar hrel, posixParts_relative hrel, List.filter_eq_nil_iff]
            have hv : v ≠ "" := by
              rintro rfl
              exact hne rfl
            constructor
            · intro hall
              refine ⟨hv, hrel, fun c hc => ?_⟩
              have := hall c hc
              simp only [Bool.and_eq_true, bne_iff_ne, ne_eq, not_and_or, not_not] at this
              exact this
            · rintro ⟨-, -, hall⟩ c hc
              rcases hall c hc with rfl | rfl <;> decide

theorem normalizedPath_ok (h : normalizedPath replaceBackslashes raw = .ok path) :
    '\\' ∉ (readAs replaceBackslashes raw).toList ∧
      ∃ p, normalizedRelativePath (readAs replaceBackslashes raw) = .ok p ∧ path = posixText p := by
  have hback : '\\' ∉ (readAs replaceBackslashes raw).toList := by
    cases replaceBackslashes with
    | true => exact not_mem_slashed raw
    | false =>
      intro hmem
      unfold normalizedPath at h
      rw [if_pos (by simpa [readAs] using hmem)] at h
      cases h
  refine ⟨hback, ?_⟩
  rw [normalizedPath_eq hback] at h
  cases hp : normalizedRelativePath (readAs replaceBackslashes raw) with
  | error e =>
    rw [hp] at h
    cases h
  | ok p =>
    rw [hp] at h
    exact ⟨p, rfl, (Except.ok.inj h).symm⟩

theorem normalizedRelativePath_error {e : Raised} (h : normalizedRelativePath v = .error e) : ∃ message, e = .confined .failed message := by
  unfold normalizedRelativePath at h
  split at h
  · exact ⟨_, (Except.error.inj h).symm⟩
  · split at h
    · exact ⟨_, (Except.error.inj h).symm⟩
    · dsimp only at h
      split at h
      · exact ⟨_, (Except.error.inj h).symm⟩
      · split at h
        · exact ⟨_, (Except.error.inj h).symm⟩
        · cases h

/-- A path of names is safe, and is read as itself. -/
theorem safePath_asPosix (hp : ∀ n ∈ p, ConfinedName n) (hne : p ≠ []) :
    SafePath (Posix.asPosix p) ∧ ∀ replaceBackslashes, normalizedPath replaceBackslashes (Posix.asPosix p) = .ok (Posix.asPosix p) := by
  have hnames : ∀ n ∈ p, Posix.IsName n := fun n hn => (hp n hn).toIsName
  have hback : '\\' ∉ (Posix.asPosix p).toList := not_mem_asPosix (by decide) fun n hn => (hp n hn).backslash
  refine ⟨⟨?_, ?_, relative_of_head (asPosix_ends hnames).1, not_mem_asPosix (by decide) fun n hn => (hp n hn).nul⟩, fun flag => ?_⟩
  · rw [Posix.posixParts_asPosix hnames]
    exact hne
  · rw [Posix.split_asPosix hne fun n hn => (hnames n hn).slash]
    exact fun n hn => ⟨(hnames n hn).nonempty, (hnames n hn).dot, (hp n hn).parent⟩
  · have hread : readAs flag (Posix.asPosix p) = Posix.asPosix p := readAs_of_not_mem hback
    rw [normalizedPath_eq (by rw [hread]; exact hback), hread, normalizedRelativePath_asPosix hp hne]
    show Except.ok (posixText p) = _
    rw [posixText, if_neg hne]

/-- The other reading of a text that has nothing to trim. -/
theorem normalizeRelativePath_eq (ht : Trimmed raw) (hne : raw ≠ "") (hrel : Text.startsWith raw "/" = false)
    (hback : '\\' ∉ raw.toList) (hnul : '\x00' ∉ raw.toList) :
    normalizeRelativePath raw = .ok path ↔ (normalizedRelativePath raw).map posixText = .ok path := by
  have hvalue : ¬ (Text.stripChar '/' raw = "" ∨ '\x00' ∈ (Text.stripChar '/' raw).toList) :=
    not_or.mpr ⟨stripChar_ne_empty hrel hne, fun hmem => hnul (mem_stripChar hrel hmem)⟩
  have hleft : normalizeRelativePath raw = if ".." ∈ Text.posixParts (Text.stripChar '/' raw) then
      .error (.action "Invalid storage path.") else .ok (posixText (Text.posixParts (Text.stripChar '/' raw))) := by
    unfold normalizeRelativePath
    rw [ht]
    exact if_neg (stripChar_ne_empty hrel hne)
  have hright : normalizedRelativePath raw = if ".." ∈ Text.posixParts (Text.stripChar '/' raw) then
      .error (.confined .failed "Path must stay beneath the storage root.")
      else .ok (Text.posixParts (Text.stripChar '/' raw)) := by
    unfold normalizedRelativePath
    rw [if_neg hback, if_neg (by rw [hrel]; exact Bool.false_ne_true)]
    exact if_neg hvalue
  rw [hleft, hright]
  by_cases hdots : ".." ∈ Text.posixParts (Text.stripChar '/' raw)
  · rw [if_pos hdots, if_pos hdots]
    exact iff_of_false (fun h => by cases h) (fun h => by cases h)
  · rw [if_neg hdots, if_neg hdots]
    exact Iff.rfl

/-- A helper that indexes the last component finds one, where the path has any. -/
theorem confinedEntryStat_indexes (hp : normalizedRelativePath path = .ok p) (hne : p ≠ []) (k : Kernel) (root : Path)
    (s s' : Machine Bytes) : confinedEntryStat k root path s ≠ .error .index s' := by
  intro h
  rcases bind_error.mp h with h | ⟨parts, s₁, hparts, h⟩
  · rw [(liftExcept_error.mp h).1] at hp
    cases hp
  obtain ⟨hread, rfl⟩ := liftExcept_ok.mp hparts
  rw [hp, Except.ok.injEq] at hread
  subst hread
  rcases bind_error.mp h with h | ⟨fd, s₂, -, h⟩
  · rcases except_error.mp h with ⟨h, hnone⟩ | ⟨e, s₃, m, h, hcaught, hm⟩
    · rcases bind_error.mp h with h | ⟨fd, s₃, -, h⟩
      · rcases openParent_error h with ⟨e, i, fd, hindex, -⟩ | ⟨message, hindex⟩ <;> cases hindex
      · cases h
    · cases e <;> simp at hcaught
      subst hcaught
      cases hm
  cases fd with
  | none => cases h
  | some fd =>
    obtain ⟨q, n, rfl⟩ := List.eq_nil_or_concat p |>.resolve_left hne
    have hclose : ∀ t t', close k fd t ≠ .error .index t' := fun t t' hraise => by
      obtain ⟨e, i, fd', hindex, -⟩ := close_error hraise
      cases hindex
    rcases ensuring_error.mp h with ⟨x, s₃, -, h⟩ | ⟨s₃, h, -⟩ | ⟨e, s₃, -, h⟩
    · exact hclose s₃ s' h
    · rcases bind_error.mp h with h | ⟨name, s₄, -, h⟩
      · rw [List.concat_eq_append, lastPart_concat] at h
        cases h
      · rcases except_error.mp h with ⟨h, hnone⟩ | ⟨e, s₅, m, h, hcaught, hm⟩
        · rcases bind_error.mp h with h | ⟨entry, s₅, -, h⟩
          · obtain ⟨e, -, he⟩ := raisingAs_error.mp h
            cases he
          · cases h
        · cases e <;> simp at hcaught
          subst hcaught
          cases hm
    · exact hclose s₃ s' h

/-- A text that is not just dots and slashes is refused, or read as a safe path, and only then. -/
theorem normalises_iff (replaceBackslashes : Bool) (raw : String) :
    Normalises replaceBackslashes raw ↔ ¬ OnlyDots (readAs replaceBackslashes raw) := by
  constructor
  · rintro ⟨hsafe, -, -⟩ ⟨hne, hrel, hdots⟩
    have hchars : ∀ c ∈ (readAs replaceBackslashes raw).toList, c = '/' ∨ c = '.' := by
      intro c hc
      by_cases hslash : c = '/'
      · exact .inl hslash
      · obtain ⟨f, hf, hcf⟩ := Text.mem_field_split.mpr ⟨hc, hslash⟩
        rcases hdots f hf with rfl | rfl
        · cases hcf
        · exact .inr (List.mem_singleton.mp hcf)
    have hback : '\\' ∉ (readAs replaceBackslashes raw).toList := fun hc => absurd (hchars _ hc) (by decide)
    have hnul : '\x00' ∉ (readAs replaceBackslashes raw).toList := fun hc => absurd (hchars _ hc) (by decide)
    have hparts : Text.posixParts (Text.stripChar '/' (readAs replaceBackslashes raw)) = [] := by
      rw [posixParts_stripChar hrel, posixParts_relative hrel, List.filter_eq_nil_iff]
      intro c hc
      rcases hdots c hc with rfl | rfl <;> decide
    have hread : normalizedRelativePath (readAs replaceBackslashes raw) = .ok [] := by
      unfold normalizedRelativePath
      rw [if_neg hback, if_neg (by rw [hrel]; exact Bool.false_ne_true)]
      dsimp only
      rw [if_neg (not_or.mpr ⟨stripChar_ne_empty hrel hne, fun hmem => hnul (mem_stripChar hrel hmem)⟩), hparts,
        if_neg List.not_mem_nil]
    have hdot : normalizedPath replaceBackslashes raw = .ok "." := by
      rw [normalizedPath_eq hback, hread]
      rfl
    rcases hsafe with ⟨kind, message, herror⟩ | ⟨path, hpath, hsafe, -⟩
    · rw [hdot] at herror
      cases herror
    · rw [hdot, Except.ok.injEq] at hpath
      subst hpath
      exact hsafe.component (by decide)
  · intro hdots
    refine ⟨?_, ?_, ?_⟩
    · cases h : normalizedPath replaceBackslashes raw with
      | error e =>
        by_cases hback : '\\' ∈ (readAs replaceBackslashes raw).toList
        · cases replaceBackslashes with
          | true => exact absurd hback (not_mem_slashed raw)
          | false =>
            unfold normalizedPath at h
            rw [if_pos (by simpa [readAs] using hback), Except.error.injEq] at h
            exact .inl ⟨_, _, congrArg Except.error h.symm⟩
        · rw [normalizedPath_eq hback] at h
          cases hp : normalizedRelativePath (readAs replaceBackslashes raw) with
          | error e' =>
            obtain ⟨message, rfl⟩ := normalizedRelativePath_error hp
            rw [hp] at h
            exact .inl ⟨_, message, h.symm⟩
          | ok p =>
            rw [hp] at h
            cases h
      | ok path =>
        obtain ⟨hback, p, hp, rfl⟩ := normalizedPath_ok h
        obtain ⟨hnames, hnil⟩ := normalizedRelativePath_names hp
        have hne : p ≠ [] := mt hnil.mp hdots
        obtain ⟨hsafe, hself⟩ := safePath_asPosix hnames hne
        have htext : posixText p = Posix.asPosix p := if_neg hne
        rw [htext]
        exact .inr ⟨_, rfl, hsafe, hself _⟩
    · intro ht hne hrel hback hnul path
      have hread : readAs replaceBackslashes raw = raw := readAs_of_not_mem hback
      rw [normalizedPath_eq (by rw [hread]; exact hback), hread]
      exact (normalizeRelativePath_eq ht hne hrel hback hnul).symm
    · intro path h
      obtain ⟨-, p, hp, rfl⟩ := normalizedPath_ok h
      obtain ⟨hnames, hnil⟩ := normalizedRelativePath_names hp
      have hne : p ≠ [] := mt hnil.mp hdots
      have htext : posixText p = Posix.asPosix p := if_neg hne
      rw [htext]
      have hread := normalizedRelativePath_asPosix hnames hne
      refine ⟨fun parts hparts => ?_, confinedEntryStat_indexes hread hne⟩
      rw [hread, Except.ok.injEq] at hparts
      exact hparts ▸ hne

/-- A dot is read as a path without components. -/
theorem dot_unsafe : ¬ ∀ replaceBackslashes raw, Normalises replaceBackslashes raw :=
  fun hall => (normalises_iff false ".").mp (hall false ".") (by decide)

end

end PveHelper.Files
