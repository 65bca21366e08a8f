/-
Base64 with the standard alphabet: `base64.b64encode`, and `base64.b64decode(validate=True)`, which
takes whole groups of four letters, the last one padded or padding alone after it, and nothing else. What was encoded is decoded
to the same bytes (`decode_encode`), and a text with another letter in it is refused (`decode_other`).
-/
import Mathlib.Data.List.Basic

namespace Lib.Base64

/-- The letter of a number below 64. -/
def letter (n : Nat) : Char :=
  if n < 26 then Char.ofNat (65 + n)
  else if n < 52 then Char.ofNat (71 + n)
  else if n < 62 then Char.ofNat (n - 4)
  else if n = 62 then '+' else '/'

/-- What a letter counts. -/
def value (c : Char) : Option Nat :=
  let n := c.toNat
  if 65 ≤ n ∧ n ≤ 90 then some (n - 65)
  else if 97 ≤ n ∧ n ≤ 122 then some (n - 71)
  else if 48 ≤ n ∧ n ≤ 57 then some (n + 4)
  else if c = '+' then some 62
  else if c = '/' then some 63
  else none

def encode : List UInt8 → List Char
  | a :: b :: c :: rest =>
    letter (a.toNat / 4) :: letter (a.toNat % 4 * 16 + b.toNat / 16) :: letter (b.toNat % 16 * 4 + c.toNat / 64) ::
      letter (c.toNat % 64) :: encode rest
  | [a, b] => [letter (a.toNat / 4), letter (a.toNat % 4 * 16 + b.toNat / 16), letter (b.toNat % 16 * 4), '=']
  | [a] => [letter (a.toNat / 4), letter (a.toNat % 4 * 16), '=', '=']
  | [] => []

/-- The bytes of two, three or four letters. -/
def bytesOf (letters : List Char) : Option (List UInt8) :=
  match letters.mapM value with
  | some [x, y] => some [UInt8.ofNat (x * 4 + y / 16)]
  | some [x, y, z] => some [UInt8.ofNat (x * 4 + y / 16), UInt8.ofNat (y % 16 * 16 + z / 4)]
  | some [x, y, z, w] => some [UInt8.ofNat (x * 4 + y / 16), UInt8.ofNat (y % 16 * 16 + z / 4), UInt8.ofNat (z % 4 * 64 + w)]
  | _ => none

def decode : List Char → Option (List UInt8)
  | [] => some []
  | a :: b :: c :: d :: rest =>
    if d = '=' ∧ rest = [] then if c = '=' then bytesOf [a, b] else bytesOf [a, b, c]
    else
      -- padding that no group asks for is let go at the end
      match bytesOf [a, b, c, d], (if rest.all (· = '=') then some [] else decode rest) with
      | some bytes, some more => some (bytes ++ more)
      | _, _ => none
  | _ => none

theorem value_letter : ∀ n < 64, value (letter n) = some n ∧ letter n ≠ '=' := by decide +kernel

theorem byte_eq {n : Nat} {b : UInt8} (h : n = b.toNat) : UInt8.ofNat n = b := by
  rw [h, UInt8.ofNat_toNat]

theorem encode_all_padding {bytes : List UInt8} (h : (encode bytes).all (· = '=') = true) : bytes = [] := by
  rw [List.all_eq_true] at h
  have hfirst : ∀ (n : UInt8) cs, encode bytes = letter (n.toNat / 4) :: cs → False := by
    intro n cs hcode
    have hn := n.toNat_lt
    refine (value_letter (n.toNat / 4) (by omega)).2 (of_decide_eq_true (h _ ?_))
    rw [hcode]
    exact List.mem_cons_self
  match bytes with
  | [] => rfl
  | [a] => exact (hfirst a _ rfl).elim
  | [a, b] => exact (hfirst a _ rfl).elim
  | a :: b :: c :: rest => exact (hfirst a _ rfl).elim

/-- What was encoded is decoded. -/
theorem decode_encode (bytes : List UInt8) : decode (encode bytes) = some bytes := by
  induction bytes using encode.induct with
  | case1 a b c rest ih =>
    have ha := a.toNat_lt
    have hb := b.toNat_lt
    have hc := c.toNat_lt
    obtain ⟨h₁, -⟩ := value_letter (a.toNat / 4) (by omega)
    obtain ⟨h₂, -⟩ := value_letter (a.toNat % 4 * 16 + b.toNat / 16) (by omega)
    obtain ⟨h₃, -⟩ := value_letter (b.toNat % 16 * 4 + c.toNat / 64) (by omega)
    obtain ⟨h₄, hpad⟩ := value_letter (c.toNat % 64) (by omega)
    have hbytes : bytesOf [letter (a.toNat / 4), letter (a.toNat % 4 * 16 + b.toNat / 16),
        letter (b.toNat % 16 * 4 + c.toNat / 64), letter (c.toNat % 64)] = some [a, b, c] := by
      simp only [bytesOf, List.mapM_cons, List.mapM_nil, h₁, h₂, h₃, h₄, Option.pure_def, Option.bind_eq_bind, Option.bind_some]
      rw [byte_eq (b := a) (by omega), byte_eq (b := b) (by omega), byte_eq (b := c) (by omega)]
    -- what is left is empty, or starts with a letter
    have hrest : (if (encode rest).all (· = '=') then some [] else decode (encode rest)) = some rest := by
      rw [ih]
      split
      · next hall => rw [encode_all_padding hall]
      · rfl
    rw [encode, decode, if_neg fun h => hpad h.1, hrest, hbytes]
    rfl
  | case2 a b =>
    have ha := a.toNat_lt
    have hb := b.toNat_lt
    obtain ⟨h₁, -⟩ := value_letter (a.toNat / 4) (by omega)
    obtain ⟨h₂, -⟩ := value_letter (a.toNat % 4 * 16 + b.toNat / 16) (by omega)
    obtain ⟨h₃, hpad⟩ := value_letter (b.toNat % 16 * 4) (by omega)
    rw [encode, decode, if_pos ⟨rfl, rfl⟩, if_neg hpad]
    simp only [bytesOf, List.mapM_cons, List.mapM_nil, h₁, h₂, h₃, Option.pure_def, Option.bind_eq_bind, Option.bind_some]
    rw [byte_eq (b := a) (by omega), byte_eq (b := b) (by omega)]
  | case3 a =>
    have ha := a.toNat_lt
    obtain ⟨h₁, -⟩ := value_letter (a.toNat / 4) (by omega)
    obtain ⟨h₂, -⟩ := value_letter (a.toNat % 4 * 16) (by omega)
    rw [encode, decode, if_pos ⟨rfl, rfl⟩, if_pos rfl]
    simp only [bytesOf, List.mapM_cons, List.mapM_nil, h₁, h₂, Option.pure_def, Option.bind_eq_bind, Option.bind_some]
    rw [byte_eq (b := a) (by omega)]
  | case4 => rfl

theorem bytesOf_letters {cs : List Char} {bytes : List UInt8} (h : bytesOf cs = some bytes) {c : Char} (hc : c ∈ cs) :
    value c ≠ none := by
  intro hnone
  have hall : ∀ {l : List Char}, c ∈ l → l.mapM value = none := by
    intro l hl
    induction l with
    | nil => cases hl
    | cons x l ih =>
      rw [List.mapM_cons]
      rcases List.mem_cons.mp hl with rfl | hl
      · rw [hnone]
        rfl
      · rw [ih hl]
        cases value x with
        | none => rfl
        | some n => rfl
  rw [bytesOf, hall hc] at h
  cases h

theorem bytesOf_other {cs : List Char} {x : Char} (hvalue : value x = none) (hx : x ∈ cs) : bytesOf cs = none := by
  cases h : bytesOf cs with
  | none => rfl
  | some bytes => exact absurd hvalue (bytesOf_letters h hx)

/-- A character that is no letter and no padding is refused wherever it stands. -/
theorem decode_other {x : Char} (hvalue : value x = none) (hpad : x ≠ '=') : ∀ cs : List Char, x ∈ cs → decode cs = none
  | [], hx => absurd hx List.not_mem_nil
  | [_], _ => rfl
  | [_, _], _ => rfl
  | [_, _, _], _ => rfl
  | a :: b :: c :: d :: rest, hx => by
    rw [decode]
    split
    · next hlast =>
      obtain ⟨rfl, rfl⟩ := hlast
      have hx : x ∈ [a, b, c] := by simpa [hpad] using hx
      split
      · next hc =>
        subst hc
        exact bytesOf_other hvalue (by simpa [hpad] using hx)
      · exact bytesOf_other hvalue hx
    · have hparts : x ∈ [a, b, c, d] ++ rest := hx
      rcases List.mem_append.mp hparts with hx | hx
      · rw [bytesOf_other hvalue hx]
      · have hall : ¬ rest.all (· = '=') = true := fun h => hpad (of_decide_eq_true (List.all_eq_true.mp h x hx))
        rw [if_neg hall, decode_other hvalue hpad rest hx]
        cases bytesOf [a, b, c, d] with
        | none => rfl
        | some bytes => rfl

end Lib.Base64
