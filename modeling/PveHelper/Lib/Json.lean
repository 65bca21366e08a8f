/-
JSON values as Python's decoder yields them, with the text `json.dumps` gives
them and the text `str` gives a scalar. A boolean is not an integer here: the
readers that care test `type(value) is int`. An object is its fields in order;
a field is read by its first occurrence, so a list with distinct keys is the
dictionary it spells.
-/
import Mathlib.Data.List.Sort

namespace Lib

inductive Json
  | null
  | bool (b : Bool)
  | int (n : Int)
  /-- A number with a fraction or exponent, as its text. -/
  | float (text : String)
  | str (s : String)
  | arr (xs : List Json)
  | obj (fields : List (String × Json))

/-- `fields.get(key)`, where a missing key and a null value differ. -/
def Json.lookup (fields : List (String × Json)) (key : String) : Option Json :=
  (fields.find? fun f => f.1 == key).map (·.2)

/-- `fields[key] = value`: in its place if the key is there, else at the end. -/
def Json.setField (fields : List (String × Json)) (key : String) (value : Json) : List (String × Json) :=
  if fields.any fun f => f.1 == key then fields.map fun f => if f.1 == key then (key, value) else f
  else fields ++ [(key, value)]

namespace Json

/-! ## `json.dumps(value, sort_keys=True, separators=(",", ":"))` -/

def hex4 (n : Nat) : String :=
  String.ofList [Nat.digitChar (n / 4096 % 16), Nat.digitChar (n / 256 % 16), Nat.digitChar (n / 16 % 16),
    Nat.digitChar (n % 16)]

/-- A character inside a JSON string; everything outside printable ASCII is
escaped, beyond the first plane as a surrogate pair. -/
def escapeChar (c : Char) : String :=
  let n := c.toNat
  if c = '"' then "\\\"" else if c = '\\' then "\\\\"
  else if c = '\n' then "\\n" else if c = '\r' then "\\r" else if c = '\t' then "\\t"
  else if n = 12 then "\\f" else if n = 8 then "\\b"
  else if 32 ≤ n && n ≤ 126 then String.ofList [c]
  else if n < 0x10000 then "\\u" ++ hex4 n
  else "\\u" ++ hex4 (0xD800 + (n - 0x10000) / 1024) ++ "\\u" ++ hex4 (0xDC00 + (n - 0x10000) % 1024)

def quoted (s : String) : String := "\"" ++ String.join (s.toList.map escapeChar) ++ "\""

/-- The fields of an object, sorted by key. -/
def dumpsSorted (fields : List (String × String)) : String :=
  let sorted := fields.insertionSort fun a b => ¬ b.1 < a.1
  "\x7b" ++ ",".intercalate (sorted.map fun f => quoted f.1 ++ ":" ++ f.2) ++ "\x7d"

mutual

def dumps : Json → String
  | null => "null"
  | bool b => if b then "true" else "false"
  | int n => toString n
  | float text => text
  | str s => quoted s
  | arr xs => "[" ++ ",".intercalate (dumpsAll xs) ++ "]"
  | obj fields => dumpsSorted (dumpsFields fields)

def dumpsAll : List Json → List String
  | [] => []
  | x :: xs => dumps x :: dumpsAll xs

def dumpsFields : List (String × Json) → List (String × String)
  | [] => []
  | (key, value) :: fields => (key, dumps value) :: dumpsFields fields

end

/-! ## `str(value or "")` -/

def truthy : Json → Bool
  | null => false
  | bool b => b
  | int n => n != 0
  | float text => text != "0.0" && text != "-0.0"
  | str s => s != ""
  | arr xs => !xs.isEmpty
  | obj fields => !fields.isEmpty

/-- An array or an object, which no option read this way is, stands as its JSON text. -/
def text (value : Json) : String :=
  if !value.truthy then "" else match value with
    | bool _ => "True"
    | str s => s
    | value => dumps value

/-- `str(value)`; an array or an object stands as its JSON text. -/
def shown : Json → String
  | null => "None"
  | bool b => if b then "True" else "False"
  | str s => s
  | value => dumps value

/-! ## Fields of a stated type -/

section
variable {ε : Type} (invalid : ε) (fields : List (String × Json))

/-- `isinstance(value, int)` and no boolean. -/
def intField (key : String) : Except ε Int :=
  match Json.lookup fields key with
  | some (.int n) => .ok n
  | _ => .error invalid

/-- `isinstance(value, str)`. -/
def strField (key : String) : Except ε String :=
  match Json.lookup fields key with
  | some (.str s) => .ok s
  | _ => .error invalid

/-- `set(fields) == expected`. -/
def hasKeys (expected : List String) : Bool :=
  fields.all (fun f => expected.contains f.1) && expected.all fun key => fields.any (·.1 == key)

/-- `fields.get("version") == version`, where `True` is 1. -/
def isVersion (version : Nat) : Bool :=
  match Json.lookup fields "version" with
  | some (.int n) => n == version
  | some (.bool b) => b.toNat == version
  | some (.float text) => text == toString version ++ ".0"
  | _ => false

end

/-! ## Fields -/

section
variable {fields : List (String × Json)} {key other : String} {value : Json}

theorem lookup_cons (f : String × Json) (fields : List (String × Json)) (key : String) :
    Json.lookup (f :: fields) key = if f.1 = key then some f.2 else Json.lookup fields key := by
  unfold lookup
  by_cases h : f.1 = key
  · simp [h]
  · rw [List.find?_cons_of_neg (by simpa using h), if_neg h]

theorem lookup_eq_none : Json.lookup fields key = none ↔ ∀ f ∈ fields, f.1 ≠ key := by
  simp [lookup]

theorem lookup_append (fields' : List (String × Json)) :
    Json.lookup (fields ++ fields') key = (Json.lookup fields key).or (Json.lookup fields' key) := by
  unfold lookup
  rw [List.find?_append, Option.map_or]

theorem lookup_setField_self : Json.lookup (Json.setField fields key value) key = some value := by
  unfold setField
  by_cases hany : (fields.any fun f => f.1 == key) = true
  · rw [if_pos hany]
    induction fields with
    | nil => cases hany
    | cons f rest ih =>
      rw [List.map_cons, lookup_cons]
      by_cases hf : f.1 = key
      · simp [hf]
      · have hrest : (rest.any fun f => f.1 == key) = true := by simpa [hf] using hany
        have hsame : (if (f.1 == key) = true then (key, value) else f) = f := if_neg (by simpa using hf)
        rw [hsame, if_neg hf]
        exact ih hrest
  · have hnone : Json.lookup fields key = none := by
      refine lookup_eq_none.mpr fun f hf hkey => hany (List.any_eq_true.mpr ⟨f, hf, ?_⟩)
      simpa using hkey
    rw [if_neg hany, lookup_append, hnone, lookup_cons, if_pos rfl]
    rfl

theorem lookup_setField_of_ne (h : other ≠ key) : Json.lookup (Json.setField fields key value) other = Json.lookup fields other := by
  unfold setField
  split
  · clear * - h
    induction fields with
    | nil => rfl
    | cons f rest ih =>
      rw [List.map_cons, lookup_cons, lookup_cons, ih]
      by_cases hf : f.1 = key
      · have hset : (if (f.1 == key) = true then (key, value) else f) = (key, value) := if_pos (by simpa using hf)
        rw [hset, if_neg h.symm, if_neg fun he => h (he.symm.trans hf)]
      · have hsame : (if (f.1 == key) = true then (key, value) else f) = f := if_neg (by simpa using hf)
        rw [hsame]
  · rw [lookup_append, lookup_cons, if_neg h.symm]
    exact Option.or_none

theorem lookup_filter (p : String → Bool) :
    Json.lookup (fields.filter fun f => p f.1) key = if p key then Json.lookup fields key else none := by
  induction fields with
  | nil => simp [lookup]
  | cons f rest ih =>
    by_cases hf : f.1 = key
    · subst hf
      by_cases hp : p f.1 = true
      · rw [List.filter_cons, if_pos hp, lookup_cons, lookup_cons, if_pos rfl, if_pos hp, if_pos rfl]
      · rw [List.filter_cons, if_neg hp, ih, if_neg hp, if_neg hp]
    · rw [lookup_cons, if_neg hf, ← ih, List.filter_cons]
      split
      · rw [lookup_cons, if_neg hf]
      · rfl

end

end Json

end Lib
