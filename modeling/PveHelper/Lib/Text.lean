/-
Text operations with Python's meaning: `str.strip` over the characters
`str.isspace` accepts, `int` over fewer blanks, `str.partition` at the first separator, `\d` of a
pattern over the decimal digits of every script, and `datetime.isoformat` of an
instant in UTC.
-/
import Mathlib.Data.List.Basic
import Mathlib.Data.List.DropRight

namespace Lib.Text

/-- `str.isspace`, by code point. -/
def isSpace (c : Char) : Bool :=
  let n := c.toNat
  (9 ≤ n && n ≤ 13) || (28 ≤ n && n ≤ 32) || n == 0x85 || n == 0xA0 || n == 0x1680 ||
    (0x2000 ≤ n && n ≤ 0x200A) || n == 0x2028 || n == 0x2029 || n == 0x202F || n == 0x205F || n == 0x3000

/-- The zero of each run of ten decimal digits (general category Nd, Unicode 16). -/
def decimalZeros : List Nat :=
  [0x30, 0x660, 0x6F0, 0x7C0, 0x966, 0x9E6, 0xA66, 0xAE6, 0xB66, 0xBE6, 0xC66, 0xCE6, 0xD66, 0xDE6, 0xE50, 0xED0,
    0xF20, 0x1040, 0x1090, 0x17E0, 0x1810, 0x1946, 0x19D0, 0x1A80, 0x1A90, 0x1B50, 0x1BB0, 0x1C40, 0x1C50, 0xA620,
    0xA8D0, 0xA900, 0xA9D0, 0xA9F0, 0xAA50, 0xABF0, 0xFF10, 0x104A0, 0x10D30, 0x10D40, 0x11066, 0x110F0, 0x11136,
    0x111D0, 0x112F0, 0x11450, 0x114D0, 0x11650, 0x116C0, 0x116D0, 0x116DA, 0x11730, 0x118E0, 0x11950, 0x11BF0,
    0x11C50, 0x11D50, 0x11DA0, 0x11F50, 0x16A60, 0x16AC0, 0x16B50, 0x16D70, 0x1CCF0, 0x1D7CE, 0x1D7D8, 0x1D7E2,
    0x1D7EC, 0x1D7F6, 0x1E140, 0x1E2F0, 0x1E4F0, 0x1E5F1, 0x1E950, 0x1FBF0]

/-- `\d` of a pattern over text. -/
def isDigit (c : Char) : Bool := decimalZeros.any fun z => z ≤ c.toNat && c.toNat < z + 10

/-- What a decimal digit counts. -/
def digitValue (c : Char) : Option Nat :=
  (decimalZeros.find? fun z => z ≤ c.toNat && c.toNat < z + 10).map (c.toNat - ·)

/-- `str.strip`. -/
def strip (s : String) : String :=
  String.ofList (((s.toList.dropWhile isSpace).reverse.dropWhile isSpace).reverse)

/-- The blanks that `int` and `float` leave out: of the ASCII ones only the tab, the line and
page breaks and the space. -/
def isNumberSpace (c : Char) : Bool := isSpace c && !(28 ≤ c.toNat && c.toNat ≤ 31)

/-- The text of a number between its blanks. -/
def stripNumber (s : String) : String :=
  String.ofList (((s.toList.dropWhile isNumberSpace).reverse.dropWhile isNumberSpace).reverse)

/-- Stripping a stripped text changes nothing. -/
theorem strip_strip (s : String) : strip (strip s) = strip s := by
  have hstrip : ∀ t : String, strip t = String.ofList ((t.toList.dropWhile isSpace).rdropWhile isSpace) := fun _ => rfl
  rw [hstrip (strip s), hstrip s, String.toList_ofList]
  -- the front of what is left is the front of the text without its leading blanks
  have hfront : ((s.toList.dropWhile isSpace).rdropWhile isSpace).dropWhile isSpace
      = (s.toList.dropWhile isSpace).rdropWhile isSpace := by
    rw [List.dropWhile_eq_self_iff]
    intro hl hp
    have hhead := List.dropWhile_get_zero_not isSpace s.toList
      (hl.trans_le (List.rdropWhile_prefix isSpace _).length_le)
    rw [(List.rdropWhile_prefix isSpace _).getElem hl] at hp
    exact hhead hp
  rw [hfront, List.rdropWhile_idempotent]

/-- Beside ASCII letters only the Kelvin sign lowers to one. -/
def lowerChar (c : Char) : Char := if c.toNat = 0x212A then 'k' else c.toLower

/-- `str.lower` of a text that is compared with ASCII texts. -/
def lower (s : String) : String := String.ofList (s.toList.map lowerChar)

/-- `str.lstrip` of one character. -/
def lstripChar (c : Char) (s : String) : String := String.ofList (s.toList.dropWhile (· = c))

/-- `str.strip` of one character. -/
def stripChar (c : Char) (s : String) : String :=
  String.ofList (((s.toList.dropWhile (· = c)).reverse.dropWhile (· = c)).reverse)

/-- `str.startswith`. -/
def startsWith (s start : String) : Bool := start.toList.isPrefixOf s.toList

/-- Over literals, whose `toList` is slow to evaluate. -/
theorem startsWith_ofList (cs start : List Char) :
    startsWith (String.ofList cs) (String.ofList start) = start.isPrefixOf cs := by
  rw [startsWith, String.toList_ofList, String.toList_ofList]

/-- `part in s`. -/
def includes (s part : String) : Bool := s.toList.tails.any part.toList.isPrefixOf

/-- `str.split(sep)`. -/
def split (sep : Char) (s : String) : List String := (s.toList.splitOn sep).map String.ofList

/-- `str.partition(sep)`: the text before the first separator and the text
after it, or no second text when there is none. -/
def partition (sep : Char) (s : String) : String × Option String :=
  match s.toList.span (· ≠ sep) with
  | (_, []) => (s, none)
  | (before, _ :: after) => (String.ofList before, some (String.ofList after))

/-- Digits with single underscores between them; `digit` says whether the last
character was one. -/
def parseDigits : List Char → Nat → Bool → Option Nat
  | [], n, digit => if digit then some n else none
  | c :: cs, n, digit =>
    if c = '_' then if digit then parseDigits cs n false else none
    else match digitValue c with
      | some v => parseDigits cs (10 * n + v) true
      | none => none

/-- `int(s)`, where it does not raise. -/
def toInt (s : String) : Option Int :=
  match (stripNumber s).toList with
  | '-' :: cs => (parseDigits cs 0 false).map fun n => -(n : Int)
  | '+' :: cs => (parseDigits cs 0 false).map Int.ofNat
  | cs => (parseDigits cs 0 false).map Int.ofNat

/-- `PurePosixPath(s).parts`: the root, if there is one, and the components
other than empty ones and dots. -/
def posixParts (s : String) : List String :=
  let slashes := (s.toList.takeWhile (· = '/')).length
  let root := if slashes = 0 then [] else if slashes = 2 then ["//"] else ["/"]
  root ++ (split '/' s).filter fun part => part != "" && part != "."

/-- PostgreSQL stores the text: no NUL is in it. A lone surrogate, which no `String` holds and which
cannot be encoded either, is refused like a NUL; where a JSON text has one, NUL stands for it. -/
def storable (s : String) : Bool := s.toList.all (· ≠ '\x00')

/-! ## Dates -/

/-- The year, month and day of a day counted from 1970-01-01, by eras of 400 years
that start in March. -/
def civilDate (day : Int) : Int × Int × Int :=
  let era := (day + 719468) / 146097
  let dayOfEra := (day + 719468) % 146097
  let yearOfEra := (dayOfEra - dayOfEra / 1460 + dayOfEra / 36524 - dayOfEra / 146096) / 365
  let dayOfYear := dayOfEra - (365 * yearOfEra + yearOfEra / 4 - yearOfEra / 100)
  let marchMonth := (5 * dayOfYear + 2) / 153
  let month := if marchMonth < 10 then marchMonth + 3 else marchMonth - 9
  (yearOfEra + era * 400 + (if month ≤ 2 then 1 else 0), month, dayOfYear - (153 * marchMonth + 2) / 5 + 1)

/-- A number with leading zeros. -/
def padded (width : Nat) (n : Int) : String :=
  let digits := (toString n).toList
  String.ofList (List.replicate (width - digits.length) '0' ++ digits)

/-- `datetime.isoformat`, of an instant in UTC counted in microseconds. -/
def isoformat (micros : Int) : String :=
  let date := civilDate (micros / 86400000000)
  let time := micros % 86400000000
  let second := time / 1000000
  let fraction := time % 1000000
  padded 4 date.1 ++ "-" ++ padded 2 date.2.1 ++ "-" ++ padded 2 date.2.2 ++ "T" ++ padded 2 (second / 3600) ++ ":" ++
    padded 2 (second / 60 % 60) ++ ":" ++ padded 2 (second % 60) ++
    (if fraction = 0 then "" else "." ++ padded 6 fraction) ++ "+00:00"

example : isoformat 1709210096000789 = "2024-02-29T12:34:56.000789+00:00" := by decide +kernel

end Lib.Text
