/-
Codes whose words are read back from the front of any text: of two texts that start with a word
and agree, the words agree and so does what follows them. Codes set one after the other lose
nothing, and neither does an array of them in brackets. A JSON string is such a code
(`quoted_prefixCode`), and digits are one in front of anything else (`digits_append_inj`).
-/
import Mathlib
import PveHelper.Lib.JsonText

namespace Lib

/-- Texts that start with a word of the code and agree start with the same one. -/
def PrefixCode {α : Type} (code : α → List Char) : Prop :=
  ∀ x y rest rest', code x ++ rest = code y ++ rest' → x = y ∧ rest = rest'

namespace PrefixCode

variable {α β : Type} {code : α → List Char}

theorem injective (hcode : PrefixCode code) : Function.Injective code := by
  intro x y h
  have htext : code x ++ [] = code y ++ [] := by rw [h]
  exact (hcode x y [] [] htext).1

/-- A code is one when a reader finds each word in front of any text. -/
theorem of_read (read : List Char → Option (β × List Char)) {view : α → β} (hview : Function.Injective view)
    (hread : ∀ x rest, read (code x ++ rest) = some (view x, rest)) : PrefixCode code := by
  intro x y rest rest' h
  have hboth := (hread x rest).symm.trans ((congrArg read h).trans (hread y rest'))
  rw [Option.some.injEq, Prod.mk.injEq] at hboth
  exact ⟨hview hboth.1, hboth.2⟩

theorem comp (hcode : PrefixCode code) {f : β → α} (hf : Function.Injective f) : PrefixCode fun b => code (f b) := by
  intro x y rest rest' h
  obtain ⟨hword, hrest⟩ := hcode _ _ _ _ h
  exact ⟨hf hword, hrest⟩

/-- A value that may be missing, where the word for nothing starts otherwise than every other. -/
theorem option (hcode : PrefixCode code) {none' : List Char} (hne : ∀ x rest rest', code x ++ rest ≠ none' ++ rest') :
    PrefixCode fun o : Option α => o.elim none' code := by
  intro x y rest rest' h
  cases x with
  | none =>
    cases y with
    | none => exact ⟨rfl, List.append_cancel_left h⟩
    | some y => exact absurd h.symm (hne y rest' rest)
  | some x =>
    cases y with
    | none => exact absurd h (hne x rest rest')
    | some y =>
      obtain ⟨rfl, hrest⟩ := hcode _ _ _ _ h
      exact ⟨rfl, hrest⟩

/-- What follows the first item of an array up to its end. -/
theorem intercalate_cons_append (sep close : Char) (x : α) (xs : List α) (rest : List Char) :
    [sep].intercalate ((x :: xs).map code) ++ close :: rest =
      code x ++ if xs = [] then close :: rest else sep :: ([sep].intercalate (xs.map code) ++ close :: rest) := by
  cases xs with
  | nil => rw [List.map_cons, List.map_nil, List.intercalate_singleton, if_pos rfl]
  | cons y ys =>
    rw [List.map_cons, List.map_cons, List.intercalate_cons_cons, if_neg (List.cons_ne_nil y ys),
      List.append_assoc, List.append_assoc, List.singleton_append]

/-- The items of an array up to its closing bracket, which no item starts with. -/
theorem array (hcode : PrefixCode code) {sep close : Char} (hsep : sep ≠ close)
    (hclose : ∀ x rest rest', code x ++ rest ≠ close :: rest') :
    PrefixCode fun xs : List α => [sep].intercalate (xs.map code) ++ [close] := by
  intro xs ys rest rest' h
  rw [List.append_assoc, List.append_assoc, List.singleton_append, List.singleton_append] at h
  induction xs generalizing ys with
  | nil =>
    cases ys with
    | nil => exact ⟨rfl, (List.cons.inj h).2⟩
    | cons y ys =>
      rw [intercalate_cons_append] at h
      exact absurd h.symm (hclose y _ rest)
  | cons x xs ih =>
    cases ys with
    | nil =>
      rw [intercalate_cons_append] at h
      exact absurd h (hclose x _ rest')
    | cons y ys =>
      rw [intercalate_cons_append, intercalate_cons_append] at h
      obtain ⟨rfl, htail⟩ := hcode _ _ _ _ h
      by_cases hxs : xs = []
      · by_cases hys : ys = []
        · rw [if_pos hxs, if_pos hys] at htail
          rw [hxs, hys]
          exact ⟨rfl, (List.cons.inj htail).2⟩
        · rw [if_pos hxs, if_neg hys] at htail
          exact absurd (List.cons.inj htail).1.symm hsep
      · by_cases hys : ys = []
        · rw [if_neg hxs, if_pos hys] at htail
          exact absurd (List.cons.inj htail).1 hsep
        · rw [if_neg hxs, if_neg hys] at htail
          obtain ⟨rfl, hrest⟩ := ih ys (List.cons.inj htail).2
          exact ⟨rfl, hrest⟩

end PrefixCode

/-! ## Numbers -/

/-- Words of digits end where another character stands. -/
theorem digits_append_inj {ds ds' rest rest' : List Char} {c c' : Char} (hds : ∀ d ∈ ds, d.isDigit = true)
    (hds' : ∀ d ∈ ds', d.isDigit = true) (hc : c.isDigit = false) (hc' : c'.isDigit = false)
    (h : ds ++ c :: rest = ds' ++ c' :: rest') : ds = ds' ∧ c :: rest = c' :: rest' := by
  have htake : ∀ {ds rest : List Char} {c : Char}, (∀ d ∈ ds, d.isDigit = true) → c.isDigit = false →
      (ds ++ c :: rest).takeWhile Char.isDigit = ds := by
    intro ds rest c hds hc
    rw [List.takeWhile_append_of_pos hds, List.takeWhile_cons_of_neg (by simp [hc]), List.append_nil]
  have hword : ds = ds' := by rw [← htake hds hc, h, htake hds' hc']
  subst hword
  exact ⟨rfl, List.append_cancel_left h⟩

/-! ## JSON strings -/

namespace Json

open JsonText

/-- The code points a character is written as. -/
def units (c : Char) : List CodePoint :=
  if c.toNat < 0x10000 then [ofChar c]
  else [codePoint (0xD800 + (c.toNat - 0x10000) / 1024), codePoint (0xDC00 + (c.toNat - 0x10000) % 1024)]

theorem hexValue_digitChar : ∀ d < 16, hexValue (Nat.digitChar d) = some d := by
  decide

theorem scanString_hex4 {n : Nat} (hn : n < 0x10000) (rest : List Char) :
    scanString ("\\u".toList ++ ((hex4 n).toList ++ rest)) = (scanString rest).map fun r => (codePoint n :: r.1, r.2) := by
  have hvalue : n / 4096 % 16 * 4096 + n / 256 % 16 * 256 + n / 16 % 16 * 16 + n % 16 = n := by omega
  have hunit : unitOf (Nat.digitChar (n / 4096 % 16)) (Nat.digitChar (n / 256 % 16)) (Nat.digitChar (n / 16 % 16))
      (Nat.digitChar (n % 16)) = some (codePoint n) := by
    unfold unitOf
    rw [hexValue_digitChar _ (Nat.mod_lt _ (by decide)), hexValue_digitChar _ (Nat.mod_lt _ (by decide)),
      hexValue_digitChar _ (Nat.mod_lt _ (by decide)), hexValue_digitChar _ (Nat.mod_lt _ (by decide))]
    simp only [hvalue]
  have htext : "\\u".toList ++ ((hex4 n).toList ++ rest) = '\\' :: 'u' :: Nat.digitChar (n / 4096 % 16) ::
      Nat.digitChar (n / 256 % 16) :: Nat.digitChar (n / 16 % 16) :: Nat.digitChar (n % 16) :: rest := by
    simp only [hex4, String.toList_ofList]
    rfl
  rw [htext, scanString, hunit]

theorem ofNat_toNat (c : Char) : codePoint c.toNat = ofChar c := by
  refine Fin.ext (Nat.mod_eq_of_lt ?_)
  exact (ofChar c).isLt

theorem scanString_escapeChar (c : Char) (rest : List Char) :
    scanString ((escapeChar c).toList ++ rest) = (scanString rest).map fun r => (units c ++ r.1, r.2) := by
  have hlow : c.toNat < 128 → units c = [ofChar c] := fun h => if_pos (by omega)
  have hmap : ∀ {p : CodePoint}, units c = [p] → (scanString rest).map (fun r => (p :: r.1, r.2)) =
      (scanString rest).map fun r => (units c ++ r.1, r.2) := by
    intro p hp
    rw [hp]
    rfl
  unfold escapeChar
  dsimp only
  by_cases hquote : c = '"'
  · subst hquote
    rfl
  rw [if_neg hquote]
  by_cases hslash : c = '\\'
  · subst hslash
    rfl
  rw [if_neg hslash]
  by_cases hline : c = '\n'
  · subst hline
    rfl
  rw [if_neg hline]
  by_cases hreturn : c = '\r'
  · subst hreturn
    rfl
  rw [if_neg hreturn]
  by_cases htab : c = '\t'
  · subst htab
    rfl
  rw [if_neg htab]
  by_cases hfeed : c.toNat = 12
  · obtain rfl : c = Char.ofNat 12 := by rw [← hfeed, Char.ofNat_toNat]
    rfl
  rw [if_neg hfeed]
  by_cases hback : c.toNat = 8
  · obtain rfl : c = Char.ofNat 8 := by rw [← hback, Char.ofNat_toNat]
    rfl
  rw [if_neg hback]
  by_cases hplain : (32 ≤ c.toNat && c.toNat ≤ 126) = true
  · rw [if_pos hplain]
    rw [Bool.and_eq_true, decide_eq_true_eq, decide_eq_true_eq] at hplain
    rw [String.toList_ofList, List.singleton_append, ← hmap (hlow (by omega))]
    exact scanString_plain hquote hslash (by omega) rest
  rw [if_neg hplain]
  by_cases hplane : c.toNat < 0x10000
  · rw [if_pos hplane, String.toList_append, List.append_assoc, scanString_hex4 hplane, ofNat_toNat]
    exact hmap (if_pos hplane)
  · have hvalid : c.toNat < 0x110000 := (ofChar c).isLt
    rw [if_neg hplane, String.toList_append, String.toList_append, String.toList_append, List.append_assoc, List.append_assoc,
      List.append_assoc, scanString_hex4 (by omega), scanString_hex4 (by omega), Option.map_map, units, if_neg hplane]
    rfl

theorem scanString_escaped (cs rest : List Char) :
    scanString ((String.join (cs.map escapeChar)).toList ++ '"' :: rest) = some (cs.flatMap units, rest) := by
  rw [String.toList_join]
  induction cs with
  | nil => rfl
  | cons c cs ih =>
    rw [List.map_cons, List.flatMap_cons, List.append_assoc, scanString_escapeChar, ih]
    rfl

theorem joinSurrogates_units (c : Char) (ps : List CodePoint) : joinSurrogates (units c ++ ps) = ofChar c :: joinSurrogates ps := by
  unfold units
  split
  · rw [List.singleton_append]
    cases ps with
    | nil => rfl
    | cons p ps => rw [joinSurrogates, isHigh_ofChar, Bool.false_and, if_neg Bool.false_ne_true]
  · next hplane =>
    have hvalid : c.toNat < 0x110000 := (ofChar c).isLt
    rw [List.cons_append, List.singleton_append, joinSurrogates]
    have hhigh : isHigh (codePoint (0xD800 + (c.toNat - 0x10000) / 1024)) = true := by
      simp only [isHigh, Fin.ofNat, Bool.and_eq_true, decide_eq_true_eq]
      omega
    have hlow : isLow (codePoint (0xDC00 + (c.toNat - 0x10000) % 1024)) = true := by
      simp only [isLow, Fin.ofNat, Bool.and_eq_true, decide_eq_true_eq]
      omega
    have hpair : paired (codePoint (0xD800 + (c.toNat - 0x10000) / 1024))
        (codePoint (0xDC00 + (c.toNat - 0x10000) % 1024)) = ofChar c := by
      refine Fin.ext ?_
      simp only [paired, Fin.ofNat, ofChar]
      omega
    rw [hhigh, hlow, Bool.true_and, if_pos rfl, hpair]

theorem joinSurrogates_flatMap_units (cs : List Char) : joinSurrogates (cs.flatMap units) = cs.map ofChar := by
  induction cs with
  | nil => rfl
  | cons c cs ih => rw [List.flatMap_cons, joinSurrogates_units, ih, List.map_cons]

theorem quoted_toList (s : String) : (quoted s).toList = '"' :: ((String.join (s.toList.map escapeChar)).toList ++ ['"']) := by
  have hquote : "\"".toList = ['"'] := rfl
  rw [quoted, String.toList_append, String.toList_append, hquote, List.append_assoc, List.singleton_append]

/-- A JSON string is read back from the front of any text. -/
theorem quoted_prefixCode : PrefixCode fun s : String => (quoted s).toList := by
  have hview : Function.Injective fun s : String => s.toList.flatMap units := by
    intro s t h
    have hjoin := congrArg joinSurrogates h
    rw [joinSurrogates_flatMap_units, joinSurrogates_flatMap_units] at hjoin
    exact ofText_injective hjoin
  refine PrefixCode.of_read (fun cs => scanString cs.tail) hview ?_
  intro s rest
  rw [quoted_toList, List.cons_append, List.tail_cons, List.append_assoc, List.singleton_append]
  exact scanString_escaped s.toList rest

end Json

end Lib
