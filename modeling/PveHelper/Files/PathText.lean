/-
The two readings of a path below a storage's root: `normalized_relative_path` of
`core/services/confined_filesystem.py`, which refuses what is not one ordinary
path, and `_normalize_relative_path` of `core/services/storage_actions.py`, which
trims blanks and slashes first. On the text of ordinary names the first gives the
names back, and the second does where there is nothing to trim.
-/
import Mathlib.Data.List.DropRight
import PveHelper.Lib.Calls
import PveHelper.Lib.Fields

namespace PveHelper.Files

open Lib

/-- The subclasses of `ConfinedFilesystemError`; `failed` is the class itself. -/
inductive ConfinedKind
  | failed | exists | missing | crossDevice
deriving DecidableEq, Repr

/-- What the file actions raise: `ConfinedFilesystemError`, `OSError`,
`StorageActionError`, `PermissionDenied` and `IndexError`. -/
inductive Raised
  | confined (kind : ConfinedKind) (message : String)
  | os (errno : Errno)
  | action (message : String)
  | denied (message : String)
  | index
deriving DecidableEq, Repr

/-! ## Texts of paths -/

/-- `as_posix` of a relative `PurePosixPath`. -/
def posixText (parts : List String) : String := if parts = [] then "." else Posix.asPosix parts

/-- `PurePosixPath(normalized_relative_path(raw)).parts`; backslashes are never replaced here. -/
def normalizedRelativePath (raw : String) : Except Raised (List String) :=
  if '\\' ∈ raw.toList then .error (.confined .failed "Backslashes are not valid path separators.")
  else if Text.startsWith raw "/" then .error (.confined .failed "Absolute paths are not allowed.")
  else
    let value := Text.stripChar '/' raw
    if value = "" ∨ '\x00' ∈ value.toList then .error (.confined .failed "Path is empty or invalid.")
    else if ".." ∈ Text.posixParts value then .error (.confined .failed "Path must stay beneath the storage root.")
    else .ok (Text.posixParts value)

/-- `_normalize_relative_path`. -/
def normalizeRelativePath (path : String) : Except Raised String :=
  let path := Text.stripChar '/' (Text.strip path)
  if path = "" then .ok ""
  else if ".." ∈ Text.posixParts path then .error (.action "Invalid storage path.")
  else .ok (posixText (Text.posixParts path))

/-- `_join_relative`; the name is never absolute. -/
def joinRelative (directoryPath filename : String) : Except Raised String := do
  let directoryPath ← normalizeRelativePath directoryPath
  if directoryPath = "" then pure filename
  else pure (posixText (Text.posixParts directoryPath ++ Text.posixParts filename))

/-- `_parent_relative`. -/
def parentRelative (path : String) : Except Raised String := do
  let normalized ← normalizeRelativePath path
  pure (Posix.asPosix (Text.posixParts normalized).dropLast)

/-- A name without a backslash: what `normalized_relative_path` accepts. -/
structure ConfinedName (n : String) : Prop extends FileName n where
  backslash : '\\' ∉ n.toList

instance (n : String) : Decidable (ConfinedName n) :=
  decidable_of_iff (FileName n ∧ '\\' ∉ n.toList) ⟨fun h => ⟨h.1, h.2⟩, fun h => ⟨h.toFileName, h.backslash⟩⟩

/-- Nothing of the text is trimmed. -/
def Trimmed (path : String) : Prop := Text.strip path = path

instance (path : String) : Decidable (Trimmed path) := inferInstanceAs (Decidable (Text.strip path = path))

/-! ## Ends of texts -/

/-- Dropping at both ends changes nothing exactly when neither end is to be dropped. -/
theorem dropEnds_eq_iff (drop : Char → Bool) (l : List Char) : ((l.dropWhile drop).reverse.dropWhile drop).reverse = l ↔
    (∀ c ∈ l.head?, drop c = false) ∧ ∀ c ∈ l.getLast?, drop c = false := by
  constructor
  · intro h
    have hlen := congrArg List.length h
    rw [List.length_reverse] at hlen
    have hback := (List.dropWhile_suffix drop (l := (l.dropWhile drop).reverse)).length_le
    rw [List.length_reverse] at hback
    have hfront := List.dropWhile_suffix drop (l := l)
    -- Neither pass drops a character.
    have hkeep : l.dropWhile drop = l := hfront.eq_of_length (by have := hfront.length_le; omega)
    have hkeep' : l.reverse.dropWhile drop = l.reverse := by
      rw [hkeep] at h
      rw [← List.reverse_reverse (List.dropWhile drop l.reverse), h]
    constructor
    · intro c hc
      obtain ⟨cs, rfl⟩ : ∃ cs, l = c :: cs := List.head?_eq_some_iff.mp hc
      by_contra hdrop
      have hshort := congrArg List.length hkeep
      rw [List.dropWhile_cons_of_pos (by simpa using hdrop)] at hshort
      have := (List.dropWhile_suffix drop (l := cs)).length_le
      simp at hshort
      omega
    · intro c hc
      rw [← List.head?_reverse] at hc
      obtain ⟨cs, hcs⟩ : ∃ cs, l.reverse = c :: cs := List.head?_eq_some_iff.mp hc
      by_contra hdrop
      have hshort := congrArg List.length hkeep'
      rw [hcs, List.dropWhile_cons_of_pos (by simpa using hdrop)] at hshort
      have := (List.dropWhile_suffix drop (l := cs)).length_le
      simp at hshort
      omega
  · rintro ⟨hhead, hlast⟩
    have hkeep : ∀ {m : List Char}, (∀ c ∈ m.head?, drop c = false) → m.dropWhile drop = m := by
      intro m hm
      cases m with
      | nil => rfl
      | cons c cs => rw [List.dropWhile_cons_of_neg (by simp [hm c rfl])]
    rw [hkeep hhead, hkeep (by rwa [List.head?_reverse]), List.reverse_reverse]

theorem trimmed_iff {s : String} : Trimmed s ↔
    (∀ c ∈ s.toList.head?, Text.isSpace c = false) ∧ ∀ c ∈ s.toList.getLast?, Text.isSpace c = false := by
  rw [← dropEnds_eq_iff, Trimmed, Text.strip, ← String.toList_inj, String.toList_ofList]

theorem stripChar_of_ends {s : String} {c : Char} (hhead : c ∉ s.toList.head?) (hlast : c ∉ s.toList.getLast?) :
    Text.stripChar c s = s := by
  have hends := (dropEnds_eq_iff (fun x => decide (x = c)) s.toList).mpr
    ⟨fun x hx => decide_eq_false fun he => hhead (he ▸ hx), fun x hx => decide_eq_false fun he => hlast (he ▸ hx)⟩
  rw [Text.stripChar, hends, String.ofList_toList]

section
variable {p q : Path} {n : String}

theorem mem_joined {c : Char} (h : c ∈ Posix.joined p) : c = '/' ∨ ∃ n ∈ p, c ∈ n.toList := by
  induction p with
  | nil => cases h
  | cons n rest ih =>
    cases rest with
    | nil => exact .inr ⟨n, List.mem_cons_self .., h⟩
    | cons m rest =>
      rw [Posix.joined_cons, List.mem_append, List.mem_cons] at h
      rcases h with h | rfl | h
      · exact .inr ⟨n, List.mem_cons_self .., h⟩
      · exact .inl rfl
      · obtain hslash | ⟨m', hm', hc⟩ := ih h
        · exact .inl hslash
        · exact .inr ⟨m', List.mem_cons_of_mem _ hm', hc⟩

theorem not_mem_asPosix {c : Char} (hc : c ≠ '/') (h : ∀ n ∈ p, c ∉ n.toList) : c ∉ (Posix.asPosix p).toList := by
  rw [Posix.asPosix, String.toList_ofList]
  intro hmem
  obtain hslash | ⟨n, hn, hcn⟩ := mem_joined hmem
  · exact hc hslash
  · exact h n hn hcn

theorem mem_asPosix {c : Char} (hn : n ∈ p) (hc : c ∈ n.toList) : c ∈ (Posix.asPosix p).toList := by
  rw [Posix.asPosix, String.toList_ofList]
  induction p with
  | nil => cases hn
  | cons m rest ih =>
    cases rest with
    | nil =>
      rw [List.mem_singleton.mp hn] at hc
      exact hc
    | cons m' rest =>
      rw [Posix.joined_cons, List.mem_append, List.mem_cons]
      rcases List.mem_cons.mp hn with rfl | hn
      · exact .inl hc
      · exact .inr (.inr (ih hn))

theorem head_asPosix (hn : Posix.IsName n) : (Posix.asPosix (n :: p)).toList.head? = n.toList.head? := by
  obtain ⟨c, cs, hcs⟩ := Text.exists_cons_of_ne hn.nonempty
  rw [Posix.asPosix, String.toList_ofList]
  cases p with
  | nil => rw [Posix.joined]
  | cons m p => rw [Posix.joined_cons, hcs, List.cons_append, List.head?_cons, List.head?_cons]

theorem last_asPosix (hn : Posix.IsName n) : (Posix.asPosix (p ++ [n])).toList.getLast? = n.toList.getLast? := by
  obtain ⟨c, cs, hcs⟩ := Text.exists_cons_of_ne hn.nonempty
  rw [Posix.asPosix, String.toList_ofList]
  by_cases hp : p = []
  · rw [hp, List.nil_append, Posix.joined]
  · rw [Posix.joined_concat hp, List.getLast?_append, hcs, List.getLast?_cons_cons, List.getLast?_cons, Option.some_or]

theorem asPosix_ends (hp : ∀ n ∈ p, Posix.IsName n) :
    '/' ∉ (Posix.asPosix p).toList.head? ∧ '/' ∉ (Posix.asPosix p).toList.getLast? := by
  constructor
  · cases p with
    | nil => simp [Posix.asPosix, Posix.joined]
    | cons n p =>
      rw [head_asPosix (hp n (List.mem_cons_self ..))]
      exact fun h => (hp n (List.mem_cons_self ..)).slash (List.mem_of_head? h)
  · induction p using List.reverseRecOn with
    | nil => simp [Posix.asPosix, Posix.joined]
    | append_singleton p n _ =>
      rw [last_asPosix (hp n (by simp))]
      exact fun h => (hp n (by simp)).slash (List.mem_of_getLast? h)

theorem stripChar_asPosix (hp : ∀ n ∈ p, Posix.IsName n) : Text.stripChar '/' (Posix.asPosix p) = Posix.asPosix p :=
  stripChar_of_ends (asPosix_ends hp).1 (asPosix_ends hp).2

theorem asPosix_ne_empty (hp : ∀ n ∈ p, Posix.IsName n) (hne : p ≠ []) : Posix.asPosix p ≠ "" :=
  fun h => hne (Posix.asPosix_eq_empty hp h)

/-! ## Paths of names are read as they are -/

theorem normalizedRelativePath_asPosix (hp : ∀ n ∈ p, ConfinedName n) (hne : p ≠ []) :
    normalizedRelativePath (Posix.asPosix p) = .ok p := by
  have hnames : ∀ n ∈ p, Posix.IsName n := fun n hn => (hp n hn).toIsName
  have hback : '\\' ∉ (Posix.asPosix p).toList := not_mem_asPosix (by decide) fun n hn => (hp n hn).backslash
  have hnul : '\x00' ∉ (Posix.asPosix p).toList := not_mem_asPosix (by decide) fun n hn => (hp n hn).nul
  have habs : Text.startsWith (Posix.asPosix p) "/" = false := by
    have hhead := (asPosix_ends hnames).1
    rw [Text.startsWith]
    cases h : (Posix.asPosix p).toList with
    | nil => rfl
    | cons c cs =>
      have hc : c ≠ '/' := fun he => hhead (by rw [h, he]; rfl)
      show ('/' == c && List.isPrefixOf [] cs) = false
      rw [beq_eq_false_iff_ne.mpr hc.symm, Bool.false_and]
  have hdots : ".." ∉ p := fun h => (hp _ h).parent rfl
  rw [normalizedRelativePath, if_neg hback, if_neg (by simp [habs])]
  dsimp only
  rw [stripChar_asPosix hnames, if_neg (by simp [asPosix_ne_empty hnames hne, hnul]), Posix.posixParts_asPosix hnames,
    if_neg hdots]

/-- A path that is read back as components is read as its own, and none has a backslash. -/
theorem normalizedRelativePath_asPosix_ok (hp : ∀ n ∈ p, FileName n) (h : normalizedRelativePath (Posix.asPosix p) = .ok q) :
    q = p ∧ p ≠ [] ∧ ∀ n ∈ p, ConfinedName n := by
  have hback : '\\' ∉ (Posix.asPosix p).toList := by
    intro hmem
    rw [normalizedRelativePath, if_pos hmem] at h
    cases h
  have hne : p ≠ [] := by
    rintro rfl
    cases h
  have hconfined : ∀ n ∈ p, ConfinedName n := fun n hn => ⟨hp n hn, fun hmem => hback (mem_asPosix hn hmem)⟩
  rw [normalizedRelativePath_asPosix hconfined hne, Except.ok.injEq] at h
  exact ⟨h.symm, hne, hconfined⟩

theorem normalizeRelativePath_asPosix (hp : ∀ n ∈ p, FileName n) (ht : Trimmed (Posix.asPosix p)) :
    normalizeRelativePath (Posix.asPosix p) = .ok (Posix.asPosix p) := by
  have hnames : ∀ n ∈ p, Posix.IsName n := fun n hn => (hp n hn).toIsName
  have hdots : ".." ∉ p := fun h => (hp _ h).parent rfl
  unfold normalizeRelativePath
  rw [ht, stripChar_asPosix hnames]
  dsimp only
  rw [Posix.posixParts_asPosix hnames, if_neg hdots, posixText]
  by_cases hne : p = []
  · rw [hne]
    rfl
  · rw [if_neg (asPosix_ne_empty hnames hne), if_neg hne]

theorem parentRelative_asPosix (hp : ∀ n ∈ p, FileName n) (ht : Trimmed (Posix.asPosix p)) :
    parentRelative (Posix.asPosix p) = .ok (Posix.asPosix p.dropLast) := by
  rw [parentRelative, normalizeRelativePath_asPosix hp ht]
  show Except.ok _ = _
  rw [Posix.posixParts_asPosix fun n hn => (hp n hn).toIsName]

theorem joinRelative_asPosix (hp : ∀ n ∈ p, FileName n) (ht : Trimmed (Posix.asPosix p)) (hn : FileName n) :
    joinRelative (Posix.asPosix p) n = .ok (Posix.asPosix (p ++ [n])) := by
  have hnames : ∀ n ∈ p, Posix.IsName n := fun n hn => (hp n hn).toIsName
  have hsingle : Posix.asPosix [n] = n := by rw [Posix.asPosix, Posix.joined, String.ofList_toList]
  rw [joinRelative, normalizeRelativePath_asPosix hp ht]
  show (if Posix.asPosix p = "" then Except.ok n else _) = _
  by_cases hne : p = []
  · rw [hne, if_pos (by rfl), List.nil_append, hsingle]
  · have hparts : Text.posixParts n = [n] := by
      have := Posix.posixParts_asPosix (p := [n]) (by simpa using hn.toIsName)
      rwa [hsingle] at this
    rw [if_neg (asPosix_ne_empty hnames hne), Posix.posixParts_asPosix hnames, hparts, posixText, if_neg (by simp)]
    rfl

end

end PveHelper.Files
