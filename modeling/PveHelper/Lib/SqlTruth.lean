/-
The truth values of SQL: true, false, and NULL where something that is compared is missing. A
`WHERE` selects the rows whose condition is true; a condition that is NULL stays so when it is
negated.
-/
import Mathlib.Logic.Basic

namespace Lib

/-- True, false, or NULL. -/
abbrev SqlTruth := Option Bool

namespace SqlTruth

def not (a : SqlTruth) : SqlTruth := a.map Bool.not

def and : SqlTruth → SqlTruth → SqlTruth
  | some false, _ => some false
  | _, some false => some false
  | some true, some true => some true
  | _, _ => none

def or : SqlTruth → SqlTruth → SqlTruth
  | some true, _ => some true
  | _, some true => some true
  | some false, some false => some false
  | _, _ => none

/-- The row is selected. -/
def holds (a : SqlTruth) : Bool := a == some true

/-- The row's condition is false, so its negation selects it. -/
def fails (a : SqlTruth) : Bool := a == some false

variable (a b : SqlTruth)

@[simp] theorem holds_some (p : Bool) : holds (some p) = p := by cases p <;> rfl

@[simp] theorem fails_some (p : Bool) : fails (some p) = !p := by cases p <;> rfl

@[simp] theorem holds_none : holds none = false := rfl

@[simp] theorem fails_none : fails none = false := rfl

@[simp] theorem holds_not : (not a).holds = a.fails := by
  cases a with
  | none => rfl
  | some p => cases p <;> rfl

@[simp] theorem holds_and : (and a b).holds = (a.holds && b.holds) := by
  rcases a with _ | _ | _ <;> rcases b with _ | _ | _ <;> rfl

@[simp] theorem fails_and : (and a b).fails = (a.fails || b.fails) := by
  rcases a with _ | _ | _ <;> rcases b with _ | _ | _ <;> rfl

@[simp] theorem holds_or : (or a b).holds = (a.holds || b.holds) := by
  rcases a with _ | _ | _ <;> rcases b with _ | _ | _ <;> rfl

end SqlTruth

end Lib
