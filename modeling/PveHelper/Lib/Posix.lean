/-
Paths below a root, as the list of their components and as the text
`PurePath.as_posix` gives them. Over components that a directory can list the
two say the same (`posixParts_asPosix`, `asPosix_inj`). The last component and
its suffix are read as `PurePosixPath.name` and `.suffix` read them.
-/
import PveHelper.Lib.Text

namespace Lib.Posix

/-- A name that a directory can list. -/
structure IsName (n : String) : Prop where
  nonempty : n ≠ ""
  dot : n ≠ "."
  slash : '/' ∉ n.toList

/-- The components with a slash between them. -/
def joined : List String → List Char
  | [] => []
  | [n] => n.toList
  | n :: rest => n.toList ++ '/' :: joined rest

/-- `as_posix` of a path below the root; the root itself is the empty text. -/
def asPosix (p : List String) : String := String.ofList (joined p)

/-- `PurePosixPath(s).name`. -/
def name (s : String) : String := (((Text.split '/' s).filter fun part => part != "" && part != ".").getLast?).getD ""

/-- `PurePosixPath(s).suffix`: from the last dot on, unless only dots come before it. -/
def suffix (s : String) : String :=
  match (name s).toList.reverse.span (· ≠ '.') with
  | (_, []) => ""
  | (after, _ :: before) => if before.any (· ≠ '.') then String.ofList ('.' :: after.reverse) else ""

theorem joined_cons {n m : String} {rest : List String} :
    joined (n :: m :: rest) = n.toList ++ '/' :: joined (m :: rest) := rfl

theorem joined_eq_intercalate (p : List String) : joined p = ['/'].intercalate (p.map String.toList) := by
  induction p with
  | nil => rfl
  | cons n rest ih =>
    cases rest with
    | nil => rw [List.map_singleton, List.intercalate_singleton, joined]
    | cons m rest => simpa [joined_cons] using ih

theorem splitOn_joined {p : List String} (hne : p ≠ []) (hp : ∀ n ∈ p, '/' ∉ n.toList) :
    (joined p).splitOn '/' = p.map String.toList := by
  rw [joined_eq_intercalate]
  refine List.splitOn_intercalate '/' ?_ (by simpa using hne)
  intro l hl
  obtain ⟨n, hn, rfl⟩ := List.mem_map.mp hl
  exact hp n hn

theorem asPosix_inj {p q : List String} (hp : ∀ n ∈ p, '/' ∉ n.toList) (hq : ∀ n ∈ q, '/' ∉ n.toList) (hpne : p ≠ [])
    (hqne : q ≠ []) (h : asPosix p = asPosix q) : p = q := by
  have hjoined : joined p = joined q := String.ofList_inj.mp h
  have hmap : p.map String.toList = q.map String.toList := by
    rw [← splitOn_joined hpne hp, hjoined, splitOn_joined hqne hq]
  exact List.map_injective_iff.mpr (fun _ _ h => String.toList_injective h) hmap

/-- The text of a path of names splits into the names again. -/
theorem split_asPosix {p : List String} (hne : p ≠ []) (hp : ∀ n ∈ p, '/' ∉ n.toList) :
    Text.split '/' (asPosix p) = p := by
  rw [Text.split, asPosix, String.toList_ofList, splitOn_joined hne hp, List.map_map]
  have hid : String.ofList ∘ String.toList = id := funext fun s => String.ofList_toList
  rw [hid, List.map_id]

theorem joined_head {p : List String} (hp : ∀ n ∈ p, IsName n) : (joined p).takeWhile (· = '/') = [] := by
  cases p with
  | nil => rfl
  | cons n rest =>
    have hn : IsName n := hp n (List.mem_cons_self ..)
    obtain ⟨c, cs, hc⟩ := List.exists_cons_of_ne_nil (l := n.toList) fun he => hn.nonempty (String.toList_eq_nil_iff.mp he)
    have hslash : c ≠ '/' := fun he => hn.slash (by rw [hc, he]; exact List.mem_cons_self ..)
    cases rest with
    | nil => simp [joined, hc, hslash]
    | cons m rest => simp [joined_cons, hc, hslash]

theorem posixParts_asPosix {p : List String} (hp : ∀ n ∈ p, IsName n) : Text.posixParts (asPosix p) = p := by
  cases p with
  | nil => decide
  | cons n rest =>
    have hsplit := split_asPosix (List.cons_ne_nil n rest) fun n' hn' => (hp n' hn').slash
    unfold Text.posixParts
    rw [hsplit, asPosix, String.toList_ofList, joined_head hp]
    simp only [List.length_nil, if_true, List.nil_append]
    refine List.filter_eq_self.mpr fun n' hn' => ?_
    simp [(hp n' hn').nonempty, (hp n' hn').dot]

theorem asPosix_eq_empty {p : List String} (hp : ∀ n ∈ p, IsName n) (h : asPosix p = "") : p = [] := by
  rw [← posixParts_asPosix hp, h]
  decide

/-- The text every item of a directory starts with. -/
def below (directory : String) : String := if directory = "" then "" else directory ++ "/"

theorem joined_concat {p : List String} {n : String} (hne : p ≠ []) : joined (p ++ [n]) = joined p ++ '/' :: n.toList := by
  induction p with
  | nil => exact absurd rfl hne
  | cons m rest ih =>
    cases rest with
    | nil => rfl
    | cons m' rest =>
      have hrest := ih (List.cons_ne_nil m' rest)
      rw [List.cons_append, List.cons_append, joined_cons, joined_cons, ← List.cons_append, hrest, List.append_assoc]
      rfl

theorem asPosix_concat {p : List String} (hp : ∀ n ∈ p, IsName n) (n : String) :
    (asPosix (p ++ [n])).toList = (below (asPosix p)).toList ++ n.toList := by
  unfold below
  by_cases hroot : asPosix p = ""
  · rw [if_pos hroot, asPosix_eq_empty hp hroot]
    simp [asPosix, joined]
  · have hne : p ≠ [] := fun he => hroot (by rw [he]; decide)
    rw [if_neg hroot, asPosix, String.toList_ofList, joined_concat hne]
    simp [asPosix]

/-- The path is that of an item of the directory itself. -/
def directChild (directory path : String) : Bool :=
  let remainder := path.toList.drop (below directory).toList.length
  Text.startsWith path (below directory) && !remainder.isEmpty && !remainder.contains '/'

theorem directChild_iff {p q : List String} {n : String} (hp : ∀ x ∈ p, IsName x) (hq : ∀ x ∈ q ++ [n], IsName x) :
    directChild (asPosix p) (asPosix (q ++ [n])) = true ↔ q = p := by
  have hn : IsName n := hq n (by simp)
  unfold directChild Text.startsWith
  simp only [Bool.and_eq_true, List.isPrefixOf_iff_prefix, Bool.not_eq_true', List.isEmpty_eq_false_iff]
  constructor
  · intro h
    obtain ⟨⟨⟨r, hr⟩, hne⟩, hslash⟩ := h
    rw [← hr, List.drop_left] at hne hslash
    -- Both texts are of a path whose last component is the remainder.
    have hsame : asPosix (q ++ [n]) = asPosix (p ++ [String.ofList r]) := by
      refine String.toList_injective ?_
      rw [asPosix_concat hp, String.toList_ofList, hr]
    have hr' : '/' ∉ (String.ofList r).toList := by
      rw [String.toList_ofList]
      simpa using hslash
    have hlist := asPosix_inj (fun x hx => (hq x hx).slash)
      (fun x hx => (List.mem_append.mp hx).elim (fun hx => (hp x hx).slash) fun hx => List.mem_singleton.mp hx ▸ hr')
      (by simp) (by simp) hsame
    exact (List.append_inj' hlist rfl).1
  · intro h
    subst h
    have hpre := asPosix_concat (fun x hx => hq x (List.mem_append_left _ hx)) n
    refine ⟨⟨⟨n.toList, hpre.symm⟩, ?_⟩, ?_⟩
    · rw [hpre, List.drop_left]
      exact fun he => hn.nonempty (String.toList_eq_nil_iff.mp he)
    · rw [hpre, List.drop_left]
      simpa using hn.slash

end Lib.Posix
