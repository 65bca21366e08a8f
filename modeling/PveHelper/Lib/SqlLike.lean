/-
`LIKE` patterns of a database, with the backslash as the escape character, and the pattern that is
written for a text to be found literally: escaped and with a wildcard after it, it matches the texts
that start with it (`like_startsWith`).
-/
import Mathlib.Data.List.Infix
import PveHelper.Lib.Text

namespace Lib.Sql

/-- What stands at one place of a pattern. -/
inductive LikeToken
  | char (c : Char)
  | one
  | many
deriving DecidableEq

/-- The places of a pattern; none where it ends in the escape character. -/
def likeTokens : List Char → Option (List LikeToken)
  | [] => some []
  | ['\\'] => none
  | '\\' :: c :: cs => (likeTokens cs).map (.char c :: ·)
  | '%' :: cs => (likeTokens cs).map (.many :: ·)
  | '_' :: cs => (likeTokens cs).map (.one :: ·)
  | c :: cs => (likeTokens cs).map (.char c :: ·)

/-- Whether the characters match the places, all of both. -/
def matchesTokens : List LikeToken → List Char → Bool
  | [], cs => cs.isEmpty
  | .char c :: ts, d :: cs => c == d && matchesTokens ts cs
  | .one :: ts, _ :: cs => matchesTokens ts cs
  | .many :: ts, cs => cs.tails.any (matchesTokens ts)
  | _ :: _, [] => false

/-- `s LIKE pattern`; nothing where the pattern is refused. -/
def like (pattern s : String) : Option Bool := (likeTokens pattern.toList).map fun tokens => matchesTokens tokens s.toList

/-- `prep_for_like_query`, on one character. -/
def likeChar (c : Char) : List Char := if c = '\\' ∨ c = '%' ∨ c = '_' then ['\\', c] else [c]

/-- The pattern of `__startswith`. -/
def startingWith (text : String) : String := String.ofList (text.toList.flatMap likeChar ++ ['%'])

theorem likeTokens_plain {c : Char} (hback : c ≠ '\\') (hmany : c ≠ '%') (hone : c ≠ '_') (cs : List Char) :
    likeTokens (c :: cs) = (likeTokens cs).map (.char c :: ·) :=
  likeTokens.eq_6 c cs (fun h => absurd h hback) (fun _ _ h => absurd h hback) hmany hone

theorem likeTokens_likeChar (c : Char) (cs : List Char) :
    likeTokens (likeChar c ++ cs) = (likeTokens cs).map (.char c :: ·) := by
  unfold likeChar
  split
  · rfl
  · next hplain =>
    simp only [not_or] at hplain
    exact likeTokens_plain hplain.1 hplain.2.1 hplain.2.2 cs

theorem likeTokens_startingWith (cs : List Char) :
    likeTokens (cs.flatMap likeChar ++ ['%']) = some (cs.map .char ++ [.many]) := by
  induction cs with
  | nil => rfl
  | cons c cs ih =>
    rw [List.flatMap_cons, List.append_assoc, likeTokens_likeChar, ih]
    rfl

theorem matchesTokens_leading (p s : List Char) : matchesTokens (p.map .char ++ [.many]) s = p.isPrefixOf s := by
  induction p generalizing s with
  | nil =>
    show s.tails.any (matchesTokens []) = true
    rw [List.any_eq_true]
    exact ⟨[], List.mem_tails [] s |>.mpr List.nil_suffix, rfl⟩
  | cons c p ih =>
    cases s with
    | nil => rfl
    | cons d s =>
      show (c == d && matchesTokens (p.map .char ++ [.many]) s) = _
      rw [ih]
      rfl

/-- The texts that a text's own pattern finds are those that start with it. -/
theorem like_startsWith (p s : String) : like (startingWith p) s = some (Text.startsWith s p) := by
  rw [like, startingWith, String.toList_ofList, likeTokens_startingWith]
  exact congrArg some (matchesTokens_leading p.toList s.toList)

end Lib.Sql
