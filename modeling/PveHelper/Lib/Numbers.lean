/-
`int` and `float` of a JSON value. Both raise `TypeError` for a value of another kind and `ValueError`
for a text or a NaN they cannot read, which the readers of provider answers catch; an infinite number,
or an integer past the largest double, raises `OverflowError`, which they do not.
-/
import PveHelper.Lib.Double
import PveHelper.Lib.Json

namespace Lib.Json

/-- `int(value)`, where it does not raise. -/
def toInt : Json → Option Int
  | int n => some n
  | bool b => some (if b then 1 else 0)
  | str s => Text.toInt s
  | float text => (Double.ofText text).bind Double.toInt
  | null | arr _ | obj _ => none

/-- `int(value)` raises `OverflowError`. -/
def intOverflows : Json → Bool
  | float text => match Double.ofText text with
    | some (.inf _) => true
    | _ => false
  | _ => false

/-- `float(value)` raises `OverflowError`. -/
def floatOverflows : Json → Bool
  | int n => (Double.ofInt n).isNone
  | _ => false

end Lib.Json
