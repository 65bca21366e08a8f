/-
Double precision numbers as Python makes them: `float` of an integer, which
raises past the largest double, and `float` of a text, which does not. A finite
double is a whole number of units of 2^-1074, with its sign, so rounding is
integer arithmetic.
-/
import PveHelper.Lib.Text
import Mathlib.Algebra.Group.Nat.Defs

namespace Lib

inductive Double
  | nan
  | inf (negative : Bool)
  /-- The value `units / 2^1074`. -/
  | finite (negative : Bool) (units : Nat)
deriving DecidableEq

namespace Double

/-- `math.isfinite`. -/
def isFinite : Double → Bool
  | finite _ _ => true
  | _ => false

/-- `int` of a number: its whole part; none for its `OverflowError` and its `ValueError`. -/
def toInt : Double → Option Int
  | finite negative units => some (if negative then -((units / 2 ^ 1074 : Nat) : Int) else (units / 2 ^ 1074 : Nat))
  | _ => none

/-- The quotient rounded to the nearest integer, a tie to the even one. -/
def roundHalfEven (num den : Nat) : Nat :=
  let q := num / den
  let r := num % den
  if 2 * r < den then q
  else if den < 2 * r then q + 1
  else if q % 2 = 0 then q else q + 1

/-- The nearest double to `num / den`, in units; none when that is past the largest one. -/
def roundUnits (num den : Nat) : Option Nat :=
  let exact := num * 2 ^ 1074
  -- the last place of a significand of 53 bits, and at least one unit
  let place := 2 ^ (Nat.log2 (exact / den) - 52)
  let units := roundHalfEven exact (den * place) * place
  if 2 ^ (1024 + 1074) ≤ units then none else some units

/-- `float(n)`; none for its `OverflowError`. -/
def ofInt (n : Int) : Option Double := (roundUnits n.natAbs 1).map (finite (decide (n < 0)))

/-- The double nearest to `digits * 10^(exponent - places)`. -/
def ofDecimal (negative : Bool) (digits places : Nat) (exponent : Int) : Double :=
  let shift := exponent - places
  match roundUnits (digits * 10 ^ shift.toNat) (10 ^ (-shift).toNat) with
  | none => inf negative
  | some units => finite negative units

/-- Digits with single underscores between them: their value, how many there are, and the rest. -/
def readDigits : Nat → Nat → List Char → Nat × Nat × List Char
  | n, count, [] => (n, count, [])
  | n, count, c :: cs =>
    match Text.digitValue c with
    | some v => readDigits (10 * n + v) (count + 1) cs
    | none =>
      if c = '_' && 0 < count && (cs.head?.bind Text.digitValue).isSome then readDigits n count cs
      else (n, count, c :: cs)

/-- A sign, if there is one. -/
def readSign : List Char → Bool × List Char
  | '-' :: cs => (true, cs)
  | '+' :: cs => (false, cs)
  | cs => (false, cs)

/-- An exponent, or nothing, up to the end of the text. -/
def readExponent : List Char → Option Int
  | [] => some 0
  | c :: cs =>
    if c = 'e' || c = 'E' then
      let (negative, cs) := readSign cs
      match readDigits 0 0 cs with
      | (n, count, []) => if count = 0 then none else some (if negative then -(n : Int) else n)
      | _ => none
    else none

/-- `float(s)`; none for its `ValueError`. -/
def ofText (s : String) : Option Double :=
  let (negative, cs) := readSign (Text.stripNumber s).toList
  let word := Text.lower (String.ofList cs)
  if word = "inf" || word = "infinity" then some (inf negative)
  else if word = "nan" then some nan
  else
    let (whole, wholeCount, rest) := readDigits 0 0 cs
    let (digits, places, rest) := match rest with
      | '.' :: rest => readDigits whole 0 rest
      | rest => (whole, 0, rest)
    if wholeCount + places = 0 then none
    else (readExponent rest).map (ofDecimal negative digits places)

end Double

example : Double.ofText "-1_0.5e1" = (Double.ofInt (-105)) := by decide +kernel

end Lib
