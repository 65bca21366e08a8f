/-
JSON texts: what `json.loads` reads, and what `json.dumps` writes of an object of texts and
integers with `ensure_ascii=False`. A text that was read is a list of code points, since an escape
may stand for a surrogate alone. Reading fails on a text that is no JSON, on an integer of more
digits than `int` takes, and on containers nested deeper than the interpreter goes; what
`dumpsObject` writes is read back with every field it had (`loads_dumpsObject`).
-/
import Mathlib.Data.List.Sort
import PveHelper.Lib.Atomic
import PveHelper.Lib.Double
import PveHelper.Lib.Fields
import PveHelper.Lib.Json

namespace Lib.JsonText

/-! ## Texts of code points -/

/-- A code point, also a surrogate. -/
abbrev CodePoint := Fin 0x110000

def ofChar (c : Char) : CodePoint := ⟨c.toNat, by
  have := c.valid
  unfold Char.toNat UInt32.isValidChar Nat.isValidChar at *
  omega⟩

def ofText (s : String) : List CodePoint := s.toList.map ofChar

def toChar? (p : CodePoint) : Option Char := if p.val.isValidChar then some (Char.ofNat p.val) else none

/-- The text of the code points; none when a surrogate is among them, which `encode` refuses. -/
def toText? (ps : List CodePoint) : Option String := (ps.mapM toChar?).map String.ofList

def isHigh (p : CodePoint) : Bool := 0xD800 ≤ p.val && p.val < 0xDC00

def isLow (p : CodePoint) : Bool := 0xDC00 ≤ p.val && p.val < 0xE000

/-- The code point of a surrogate pair. -/
def paired (high low : CodePoint) : CodePoint := ⟨0x10000 + high.val % 1024 * 1024 + low.val % 1024, by omega⟩

/-- A high surrogate and the low one after it are one code point. -/
def joinSurrogates : List CodePoint → List CodePoint
  | p :: q :: ps => if isHigh p && isLow q then paired p q :: joinSurrogates ps else p :: joinSurrogates (q :: ps)
  | ps => ps

/-! ## Values -/

inductive Value
  | null
  | bool (b : Bool)
  | int (n : Int)
  | float (d : Double)
  | str (s : List CodePoint)
  | arr (xs : List Value)
  /-- The members as they stand; of two with one key the later counts. -/
  | obj (members : List (List CodePoint × Value))

/-- `value.get(key)` of an object. -/
def get? (members : List (List CodePoint × Value)) (key : String) : Option Value :=
  (members.reverse.find? fun m => m.1 = ofText key).map (·.2)

/-- `bool(value)`. -/
def Value.truthy : Value → Bool
  | null => false
  | bool b => b
  | int n => n != 0
  | float (.finite _ units) => units != 0
  | float _ => true
  | str s => !s.isEmpty
  | arr xs => !xs.isEmpty
  | obj members => !members.isEmpty

/-! ## Reading -/

inductive ReadError
  /-- `JSONDecodeError`. -/
  | decode
  /-- The `ValueError` of an integer with too many digits. -/
  | digits
  /-- `RecursionError`. -/
  | depth
deriving DecidableEq

/-- How far the interpreter goes. -/
structure Limits where
  /-- `sys.get_int_max_str_digits()`; none where that is zero. -/
  maxDigits : Option Nat
  /-- How many containers can be open at once. -/
  maxDepth : Nat

def Limits.allows (l : Limits) (digits : Nat) : Bool := l.maxDigits.all (digits ≤ ·)

def isBlank (c : Char) : Bool := c = ' ' || c = '\t' || c = '\n' || c = '\r'

def skipBlank (cs : List Char) : List Char := cs.dropWhile isBlank

/-- What a backslash and this character stand for. -/
def escapeOf (c : Char) : Option CodePoint :=
  if c = '"' then some 34 else if c = '\\' then some 92 else if c = '/' then some 47
  else if c = 'b' then some 8 else if c = 'f' then some 12 else if c = 'n' then some 10
  else if c = 'r' then some 13 else if c = 't' then some 9 else none

def hexValue (c : Char) : Option Nat :=
  let n := c.toNat
  if 48 ≤ n && n ≤ 57 then some (n - 48)
  else if 65 ≤ n && n ≤ 70 then some (n - 55)
  else if 97 ≤ n && n ≤ 102 then some (n - 87)
  else none

/-- The four digits after `\u`. -/
def unitOf (a b c d : Char) : Option CodePoint :=
  match hexValue a, hexValue b, hexValue c, hexValue d with
  | some a, some b, some c, some d => some (Fin.ofNat 0x110000 (a * 4096 + b * 256 + c * 16 + d))
  | _, _, _, _ => none

/-- The code point of a number. -/
abbrev codePoint (n : Nat) : CodePoint := Fin.ofNat 0x110000 n

/-- A string past its opening quote: its code points, an escaped surrogate for itself, and the rest. -/
def scanString : List Char → Option (List CodePoint × List Char)
  | [] => none
  | '"' :: cs => some ([], cs)
  | '\\' :: 'u' :: a :: b :: c :: d :: cs =>
    match unitOf a b c d with
    | some p => (scanString cs).map fun r => (p :: r.1, r.2)
    | none => none
  | '\\' :: e :: cs =>
    match escapeOf e with
    | some p => (scanString cs).map fun r => (p :: r.1, r.2)
    | none => none
  | c :: cs => if c.toNat < 32 || c = '\\' then none else (scanString cs).map fun r => (ofChar c :: r.1, r.2)

/-- The words that stand for a value. -/
def words : List (String × Value) :=
  [("null", .null), ("true", .bool true), ("false", .bool false), ("NaN", .float .nan),
    ("Infinity", .float (.inf false)), ("-Infinity", .float (.inf true))]

def scanWord (cs : List Char) : Option (Value × List Char) :=
  words.findSome? fun w => if w.1.toList.isPrefixOf cs then some (w.2, cs.drop w.1.toList.length) else none

/-- The digits before the point; a leading zero stands alone. -/
def scanWhole : List Char → List Char × List Char
  | '0' :: cs => (['0'], cs)
  | cs => cs.span Char.isDigit

/-- The point and the digits after it, if there are any. -/
def scanFraction : List Char → List Char × List Char
  | '.' :: cs =>
    match cs.span Char.isDigit with
    | ([], _) => ([], '.' :: cs)
    | (ds, rest) => ('.' :: ds, rest)
  | cs => ([], cs)

def scanSign : List Char → List Char × List Char
  | '-' :: cs => (['-'], cs)
  | '+' :: cs => (['+'], cs)
  | cs => ([], cs)

/-- The exponent, if it has digits. -/
def scanExponent : List Char → List Char × List Char
  | c :: cs =>
    if c = 'e' || c = 'E' then
      let (sign, ds) := scanSign cs
      match ds.span Char.isDigit with
      | ([], _) => ([], c :: cs)
      | (ds, rest) => (c :: sign ++ ds, rest)
    else ([], c :: cs)
  | [] => ([], [])

/-- A number without its sign. -/
def scanUnsigned (l : Limits) (negative : Bool) (cs : List Char) : Except ReadError (Value × List Char) :=
  let (whole, afterWhole) := scanWhole cs
  let (fraction, afterFraction) := scanFraction afterWhole
  let (exponent, rest) := scanExponent afterFraction
  if whole.isEmpty then .error .decode
  else if fraction.isEmpty && exponent.isEmpty then
    if l.allows whole.length then
      let n := Nat.ofDigitChars 10 whole 0
      .ok (.int (if negative then -(n : Int) else n), rest)
    else .error .digits
  else
    match Double.ofText (String.ofList ((if negative then ['-'] else []) ++ whole ++ fraction ++ exponent)) with
    | some d => .ok (.float d, rest)
    | none => .error .decode

def scanNumber (l : Limits) : List Char → Except ReadError (Value × List Char)
  | '-' :: cs => scanUnsigned l true cs
  | cs => scanUnsigned l false cs

section
variable {α : Type}

/-- The items of a container up to its end, with commas between them; `n` bounds how many. -/
def scanItems (item : List Char → Except ReadError (α × List Char)) (close : Char) :
    Nat → List Char → Except ReadError (List α × List Char)
  | 0, _ => .error .decode
  | n + 1, cs => do
    let (x, rest) ← item cs
    match skipBlank rest with
    | c :: rest =>
      if c = close then .ok ([x], rest)
      else if c = ',' then do
        let (xs, rest) ← scanItems item close n (skipBlank rest)
        .ok (x :: xs, rest)
      else .error .decode
    | [] => .error .decode

/-- A container past its opening bracket; each item takes a character at least. -/
def scanContainer (item : List Char → Except ReadError (α × List Char)) (close : Char) (cs : List Char) :
    Except ReadError (List α × List Char) :=
  match skipBlank cs with
  | c :: rest => if c = close then .ok ([], rest) else scanItems item close (c :: rest).length (c :: rest)
  | [] => .error .decode

end

/-- A member of an object. -/
def scanMember (value : List Char → Except ReadError (Value × List Char)) :
    List Char → Except ReadError ((List CodePoint × Value) × List Char)
  | '"' :: cs =>
    match scanString cs with
    | some (key, rest) =>
      match skipBlank rest with
      | ':' :: rest => do
        let (v, rest) ← value (skipBlank rest)
        .ok ((joinSurrogates key, v), rest)
      | _ => .error .decode
    | none => .error .decode
  | _ => .error .decode

/-- One value; `inner` reads the values inside a container, where one may be opened. -/
def scanOne (l : Limits) (inner : Option (List Char → Except ReadError (Value × List Char))) (cs : List Char) :
    Except ReadError (Value × List Char) :=
  match cs with
  | '"' :: rest =>
    match scanString rest with
    | some (s, rest) => .ok (.str (joinSurrogates s), rest)
    | none => .error .decode
  | '\x7b' :: rest =>
    match inner with
    | some value => do
      let (members, rest) ← scanContainer (scanMember value) '\x7d' rest
      .ok (.obj members, rest)
    | none => .error .depth
  | '[' :: rest =>
    match inner with
    | some value => do
      let (xs, rest) ← scanContainer value ']' rest
      .ok (.arr xs, rest)
    | none => .error .depth
  | cs =>
    match scanWord cs with
    | some r => .ok r
    | none => scanNumber l cs

/-- A value with at most so many containers open at once. -/
def scanValue (l : Limits) : Nat → List Char → Except ReadError (Value × List Char)
  | 0 => scanOne l none
  | room + 1 => scanOne l (some (scanValue l room))

/-- `json.loads(s)`. -/
def loads (l : Limits) (s : String) : Except ReadError Value :=
  if s.toList.head? = some '\ufeff' then .error .decode
  else do
    let (value, rest) ← scanValue l l.maxDepth (skipBlank s.toList)
    if (skipBlank rest).isEmpty then .ok value else .error .decode

/-! ## Writing -/

/-- A value of a flat object. -/
inductive Scalar
  | text (s : String)
  | int (n : Int)
deriving DecidableEq

/-- A character inside a string; only quotes, backslashes and control characters are escaped. -/
def escapedChar (c : Char) : List Char :=
  if c = '"' then ['\\', '"'] else if c = '\\' then ['\\', '\\']
  else if c = '\n' then ['\\', 'n'] else if c = '\r' then ['\\', 'r'] else if c = '\t' then ['\\', 't']
  else if c.toNat = 12 then ['\\', 'f'] else if c.toNat = 8 then ['\\', 'b']
  else if c.toNat < 32 then ['\\', 'u', '0', '0', Nat.digitChar (c.toNat / 16), Nat.digitChar (c.toNat % 16)]
  else [c]

def quotedText (s : String) : List Char := '"' :: (s.toList.flatMap escapedChar ++ ['"'])

def Scalar.dumps : Scalar → List Char
  | text s => quotedText s
  | int n => (toString n).toList

/-- The fields in the order of their keys. -/
def sortedFields (fields : List (String × Scalar)) : List (String × Scalar) :=
  fields.insertionSort fun a b => ¬ b.1 < a.1

def dumpsMember (f : String × Scalar) : List Char := quotedText f.1 ++ ':' :: f.2.dumps

/-- `json.dumps(fields, ensure_ascii=False, separators=(",", ":"), sort_keys=True)`. -/
def dumpsObject (fields : List (String × Scalar)) : String :=
  String.ofList ('\x7b' :: ([','].intercalate ((sortedFields fields).map dumpsMember) ++ ['\x7d']))

/-! ## What is written is read back -/

def Scalar.value : Scalar → Value
  | text s => .str (ofText s)
  | int n => .int n

def memberValue (f : String × Scalar) : List CodePoint × Value := (ofText f.1, f.2.value)

theorem isHigh_ofChar (c : Char) : isHigh (ofChar c) = false := by
  have := c.valid
  unfold isHigh ofChar
  unfold UInt32.isValidChar Nat.isValidChar at this
  simp only [Bool.and_eq_false_iff, decide_eq_false_iff_not]
  show ¬ 0xD800 ≤ c.val.toNat ∨ ¬ c.val.toNat < 0xDC00
  omega

/-- A text has no surrogates to join. -/
theorem joinSurrogates_ofText (s : String) : joinSurrogates (ofText s) = ofText s := by
  unfold ofText
  induction s.toList with
  | nil => rfl
  | cons c cs ih =>
    cases cs with
    | nil => rfl
    | cons d cs =>
      rw [List.map_cons, List.map_cons, joinSurrogates, isHigh_ofChar, Bool.false_and, if_neg Bool.false_ne_true]
      rw [List.map_cons] at ih
      rw [ih]

theorem ofText_injective : Function.Injective ofText := by
  intro s t h
  have hchar : Function.Injective ofChar := by
    intro c d hcd
    have hval : c.toNat = d.toNat := congrArg (fun p : CodePoint => p.val) hcd
    exact Char.toNat_inj.mp hval
  exact String.toList_inj.mp (List.map_injective_iff.mpr hchar h)

theorem unitOf_control : ∀ n < 32, unitOf '0' '0' (Nat.digitChar (n / 16)) (Nat.digitChar (n % 16)) = some (Fin.ofNat 0x110000 n) := by
  decide

/-- A character that stands for itself. -/
theorem scanString_plain {c : Char} (hquote : c ≠ '"') (hslash : c ≠ '\\') (hcontrol : ¬ c.toNat < 32) (rest : List Char) :
    scanString (c :: rest) = (scanString rest).map fun r => (ofChar c :: r.1, r.2) := by
  rw [scanString.eq_def]
  split <;> simp_all

theorem scanString_escapedChar (c : Char) (rest : List Char) :
    scanString (escapedChar c ++ rest) = (scanString rest).map fun r => (ofChar c :: r.1, r.2) := by
  unfold escapedChar
  split
  · subst c
    rfl
  split
  · subst c
    rfl
  split
  · subst c
    rfl
  split
  · subst c
    rfl
  split
  · subst c
    rfl
  split
  · next hc =>
    obtain rfl : c = Char.ofNat 12 := by rw [← hc, Char.ofNat_toNat]
    rfl
  split
  · next hc =>
    obtain rfl : c = Char.ofNat 8 := by rw [← hc, Char.ofNat_toNat]
    rfl
  split
  · next hc =>
    have hunit : Fin.ofNat 0x110000 c.toNat = ofChar c := by
      refine Fin.ext ?_
      show c.toNat % 0x110000 = c.toNat
      omega
    simp only [List.cons_append, List.nil_append, scanString, unitOf_control _ hc, hunit]
  · next hquote hslash _ _ _ _ _ hcontrol => exact scanString_plain hquote hslash hcontrol rest

theorem scanString_quoted (s : String) (rest : List Char) :
    scanString (s.toList.flatMap escapedChar ++ '"' :: rest) = some (ofText s, rest) := by
  unfold ofText
  induction s.toList with
  | nil => rfl
  | cons c cs ih =>
    rw [List.flatMap_cons, List.append_assoc, scanString_escapedChar, ih]
    rfl

/-- Only zero is written with a leading zero. -/
theorem head?_toDigits {n : Nat} (hn : 0 < n) : (Nat.toDigits 10 n).head? ≠ some '0' := by
  induction n using Nat.strong_induction_on with
  | _ n ih =>
    rw [Nat.toDigits_eq_if (by decide)]
    split
    · next hlt =>
      have hdigit : ∀ d < 10, 0 < d → Nat.digitChar d ≠ '0' := by decide
      intro h
      exact hdigit n hlt hn (Option.some.inj h)
    · next hge =>
      rw [List.head?_append_of_ne_nil _ Nat.toDigits_ne_nil]
      exact ih (n / 10) (by omega) (by omega)

theorem scanWhole_toDigits (n : Nat) {c : Char} (hc : c.isDigit = false) (rest : List Char) :
    scanWhole (Nat.toDigits 10 n ++ c :: rest) = (Nat.toDigits 10 n, c :: rest) := by
  rcases Nat.eq_zero_or_pos n with rfl | hn
  · rfl
  · have hhead : (Nat.toDigits 10 n ++ c :: rest).head? ≠ some '0' := by
      rw [List.head?_append_of_ne_nil _ Nat.toDigits_ne_nil]
      exact head?_toDigits hn
    unfold scanWhole
    split
    · next heq => exact absurd (congrArg List.head? heq) hhead
    · rw [List.span_eq_takeWhile_dropWhile,
        List.takeWhile_append_of_pos fun d hd => Nat.isDigit_of_mem_toDigits (by decide) (by decide) hd,
        List.dropWhile_append_of_pos fun d hd => Nat.isDigit_of_mem_toDigits (by decide) (by decide) hd,
        List.takeWhile_cons_of_neg (by simp [hc]), List.dropWhile_cons_of_neg (by simp [hc]), List.append_nil]

section
variable {l : Limits}

/-- A number that a comma or a closing brace follows. -/
theorem scanUnsigned_toDigits (hdigits : l.maxDigits = none) (negative : Bool) (n : Nat) {c : Char} (hc : c = ',' ∨ c = '\x7d')
    (rest : List Char) : scanUnsigned l negative (Nat.toDigits 10 n ++ c :: rest) =
      .ok (.int (if negative then -(n : Int) else n), c :: rest) := by
  have hend : c.isDigit = false ∧ scanFraction (c :: rest) = ([], c :: rest) ∧ scanExponent (c :: rest) = ([], c :: rest) := by
    rcases hc with rfl | rfl <;> exact ⟨rfl, rfl, rfl⟩
  obtain ⟨hdigit, hfraction, hexponent⟩ := hend
  have hne : (Nat.toDigits 10 n).isEmpty = false := by simp [Nat.toDigits_ne_nil]
  have hallows : l.allows (Nat.toDigits 10 n).length = true := by simp [Limits.allows, hdigits]
  unfold scanUnsigned
  simp only [scanWhole_toDigits n hdigit, hfraction, hexponent, hne, hallows, Nat.ofDigitChars_ten_toDigits]
  rfl

theorem scanWord_digit {c : Char} (hc : c.isDigit = true) (rest : List Char) :
    scanWord (c :: rest) = none ∧ scanWord ('-' :: c :: rest) = none := by
  have hne : ∀ d, d.isDigit = false → d ≠ c := by
    rintro d hd rfl
    rw [hc] at hd
    cases hd
  have hn := hne 'n' rfl
  have ht := hne 't' rfl
  have hf := hne 'f' rfl
  have hN := hne 'N' rfl
  have hI := hne 'I' rfl
  have hdash := hne '-' rfl
  constructor <;> simp [scanWord, words, hn, ht, hf, hN, hI, hdash]

/-- A value that begins neither with a quote nor with a bracket. -/
theorem scanOne_other {inner : Option (List Char → Except ReadError (Value × List Char))} {c : Char} {cs : List Char}
    (hquote : c ≠ '"') (hbrace : c ≠ '\x7b') (hbracket : c ≠ '[') (hword : scanWord (c :: cs) = none) :
    scanOne l inner (c :: cs) = scanNumber l (c :: cs) := by
  unfold scanOne
  split
  · next heq => exact absurd (List.cons.inj heq).1 hquote
  · next heq => exact absurd (List.cons.inj heq).1 hbrace
  · next heq => exact absurd (List.cons.inj heq).1 hbracket
  · rw [hword]

theorem exists_toDigits_eq (m : Nat) : ∃ d ds, Nat.toDigits 10 m = d :: ds ∧ d.isDigit = true := by
  obtain ⟨d, ds, hds⟩ := List.exists_cons_of_ne_nil (Nat.toDigits_ne_nil (n := m) (b := 10))
  exact ⟨d, ds, hds, Nat.isDigit_of_mem_toDigits (b := 10) (n := m) (by decide) (by decide) (by rw [hds]; exact List.mem_cons_self)⟩

theorem toList_ofNat (m : Nat) : (toString (Int.ofNat m)).toList = Nat.toDigits 10 m := by
  show (toString m).toList = _
  rw [Nat.toString_eq_ofList_toDigits, String.toList_ofList]

theorem toList_negSucc (m : Nat) : (toString (Int.negSucc m)).toList = '-' :: Nat.toDigits 10 (m + 1) := by
  show ("-" ++ toString (m + 1)).toList = _
  simp only [String.toList_append, Nat.toString_eq_ofList_toDigits, String.toList_ofList]
  rfl

/-- An integer inside an object. -/
theorem scanOne_int (hdigits : l.maxDigits = none) (inner : Option (List Char → Except ReadError (Value × List Char))) (n : Int)
    {c : Char} (hc : c = ',' ∨ c = '\x7d') (rest : List Char) :
    scanOne l inner ((toString n).toList ++ c :: rest) = .ok (.int n, c :: rest) := by
  cases n with
  | ofNat m =>
    obtain ⟨d, ds, hds, hdigit⟩ := exists_toDigits_eq m
    have hne : ∀ e, e.isDigit = false → d ≠ e := by
      rintro e he rfl
      rw [hdigit] at he
      cases he
    have hnumber := scanUnsigned_toDigits hdigits false m hc rest
    rw [toList_ofNat]
    rw [hds, List.cons_append] at hnumber ⊢
    rw [scanOne_other (hne _ rfl) (hne _ rfl) (hne _ rfl) (scanWord_digit hdigit _).1, scanNumber, hnumber]
    · rfl
    · rintro cs heq
      exact hne '-' rfl (List.cons.inj heq).1
  | negSucc m =>
    obtain ⟨d, ds, hds, hdigit⟩ := exists_toDigits_eq (m + 1)
    have hnumber := scanUnsigned_toDigits hdigits true (m + 1) hc rest
    rw [toList_negSucc, List.cons_append]
    rw [hds, List.cons_append] at hnumber ⊢
    rw [scanOne_other (by decide) (by decide) (by decide) (scanWord_digit hdigit _).2, scanNumber, hnumber]
    rfl

theorem scanOne_scalar (hdigits : l.maxDigits = none) (inner : Option (List Char → Except ReadError (Value × List Char)))
    (v : Scalar) {c : Char} (hc : c = ',' ∨ c = '\x7d') (rest : List Char) :
    scanOne l inner (v.dumps ++ c :: rest) = .ok (v.value, c :: rest) := by
  cases v with
  | int n => exact scanOne_int hdigits inner n hc rest
  | text s =>
    have hstring := scanString_quoted s (c :: rest)
    show scanOne l inner ('"' :: (s.toList.flatMap escapedChar ++ ['"']) ++ c :: rest) = _
    rw [List.cons_append, List.append_assoc, List.singleton_append, scanOne, hstring]
    simp only [joinSurrogates_ofText]
    rfl

/-- No value begins with a blank. -/
theorem skipBlank_dumps (v : Scalar) (rest : List Char) : skipBlank (v.dumps ++ rest) = v.dumps ++ rest := by
  have hfirst : ∃ c cs, v.dumps = c :: cs ∧ isBlank c = false := by
    cases v with
    | text s => exact ⟨_, _, rfl, rfl⟩
    | int n =>
      cases n with
      | ofNat m =>
        obtain ⟨d, ds, hds, hdigit⟩ := exists_toDigits_eq m
        refine ⟨d, ds, (toList_ofNat m).trans hds, ?_⟩
        have hne : ∀ e, e.isDigit = false → d ≠ e := by
          rintro e he rfl
          rw [hdigit] at he
          cases he
        simp [isBlank, hne ' ' rfl, hne '\t' rfl, hne '\n' rfl, hne '\r' rfl]
      | negSucc m => exact ⟨_, _, toList_negSucc m, rfl⟩
  obtain ⟨c, cs, hcs, hblank⟩ := hfirst
  rw [hcs, List.cons_append, skipBlank, List.dropWhile_cons_of_neg (by simp [hblank])]

theorem scanMember_dumpsMember (hdigits : l.maxDigits = none) (inner : Option (List Char → Except ReadError (Value × List Char)))
    (f : String × Scalar) {c : Char} (hc : c = ',' ∨ c = '\x7d') (rest : List Char) :
    scanMember (scanOne l inner) (dumpsMember f ++ c :: rest) = .ok (memberValue f, c :: rest) := by
  have hkey := scanString_quoted f.1 (':' :: (f.2.dumps ++ c :: rest))
  have htext : dumpsMember f ++ c :: rest = '"' :: (f.1.toList.flatMap escapedChar ++ '"' :: ':' :: (f.2.dumps ++ c :: rest)) := by
    simp [dumpsMember, quotedText]
  have hcolon : skipBlank (':' :: (f.2.dumps ++ c :: rest)) = ':' :: (f.2.dumps ++ c :: rest) := rfl
  rw [htext, scanMember, hkey]
  simp only [hcolon, skipBlank_dumps, scanOne_scalar hdigits inner f.2 hc rest, joinSurrogates_ofText]
  rfl

theorem members_cons (f : String × Scalar) (fields : List (String × Scalar)) (rest : List Char) :
    ∃ cs, [','].intercalate ((f :: fields).map dumpsMember) ++ rest = '"' :: cs := by
  cases fields with
  | nil => exact ⟨_, rfl⟩
  | cons g fields =>
    rw [List.map_cons, List.map_cons, List.intercalate_cons_cons]
    exact ⟨_, rfl⟩

theorem skipBlank_members (f : String × Scalar) (fields : List (String × Scalar)) (rest : List Char) :
    skipBlank ([','].intercalate ((f :: fields).map dumpsMember) ++ rest) = [','].intercalate ((f :: fields).map dumpsMember) ++ rest := by
  obtain ⟨cs, hcs⟩ := members_cons f fields rest
  rw [hcs]
  rfl

theorem length_le_intercalate (fields : List (String × Scalar)) :
    fields.length ≤ ([','].intercalate (fields.map dumpsMember)).length := by
  induction fields with
  | nil => exact Nat.zero_le _
  | cons f fields ih =>
    have hpos : 0 < (dumpsMember f).length := by simp [dumpsMember, quotedText]
    cases fields with
    | nil =>
      rw [List.map_cons, List.map_nil, List.intercalate_singleton]
      exact hpos
    | cons g fields =>
      rw [List.map_cons, List.map_cons, List.intercalate_cons_cons]
      rw [List.map_cons] at ih
      simp only [List.length_cons, List.length_append, List.length_nil] at ih ⊢
      omega

theorem scanItems_close {α : Type} {item : List Char → Except ReadError (α × List Char)} {close : Char} {n : Nat} {x : α}
    {cs rest rest' : List Char} (hitem : item cs = .ok (x, rest)) (hrest : skipBlank rest = close :: rest') :
    scanItems item close (n + 1) cs = .ok ([x], rest') := by
  rw [scanItems, hitem]
  simp only [bind, Except.bind, hrest]
  rfl

theorem scanItems_comma {α : Type} {item : List Char → Except ReadError (α × List Char)} {close : Char} {n : Nat} {x : α}
    {cs rest rest' : List Char} (hitem : item cs = .ok (x, rest)) (hrest : skipBlank rest = ',' :: rest') (hne : ',' ≠ close) :
    scanItems item close (n + 1) cs = (do
      let (xs, rest) ← scanItems item close n (skipBlank rest')
      .ok (x :: xs, rest)) := by
  rw [scanItems, hitem]
  simp only [bind, Except.bind, hrest, if_neg hne]
  rfl

/-- The members after the opening brace, as long as the counter lasts. -/
theorem scanItems_dumpsMembers (hdigits : l.maxDigits = none) (inner : Option (List Char → Except ReadError (Value × List Char)))
    (rest : List Char) (f : String × Scalar) (fields : List (String × Scalar)) : ∀ n, fields.length < n →
    scanItems (scanMember (scanOne l inner)) '\x7d' n ([','].intercalate ((f :: fields).map dumpsMember) ++ '\x7d' :: rest) =
      .ok ((f :: fields).map memberValue, rest) := by
  induction fields generalizing f with
  | nil =>
    intro n hn
    obtain ⟨n, rfl⟩ := Nat.exists_eq_add_one_of_ne_zero (Nat.pos_iff_ne_zero.mp hn)
    have hitem := scanMember_dumpsMember hdigits inner f (.inr rfl) rest
    have hclose : skipBlank ('\x7d' :: rest) = '\x7d' :: rest := rfl
    rw [List.map_cons, List.map_nil, List.intercalate_singleton, scanItems_close hitem hclose]
    rfl
  | cons g fields ih =>
    intro n hn
    obtain ⟨n, rfl⟩ := Nat.exists_eq_add_one_of_ne_zero (Nat.pos_iff_ne_zero.mp (Nat.zero_lt_of_lt hn))
    have hrest := ih g n (by simpa using hn)
    have htext : [','].intercalate ((f :: g :: fields).map dumpsMember) ++ '\x7d' :: rest =
        dumpsMember f ++ ',' :: ([','].intercalate ((g :: fields).map dumpsMember) ++ '\x7d' :: rest) := by
      simp [List.intercalate_cons_cons]
    have hitem := scanMember_dumpsMember hdigits inner f (.inl rfl) ([','].intercalate ((g :: fields).map dumpsMember) ++ '\x7d' :: rest)
    have hcomma : skipBlank (',' :: ([','].intercalate ((g :: fields).map dumpsMember) ++ '\x7d' :: rest)) =
        ',' :: ([','].intercalate ((g :: fields).map dumpsMember) ++ '\x7d' :: rest) := rfl
    rw [htext, scanItems_comma hitem hcomma (by decide), skipBlank_members, hrest]
    rfl

/-- What `dumpsObject` writes is read back, member by member in the order of the keys, by every
reader that may open an object and takes integers of any length. -/
theorem loads_dumpsObject (hdigits : l.maxDigits = none) (hdepth : 0 < l.maxDepth) (fields : List (String × Scalar)) :
    loads l (dumpsObject fields) = .ok (.obj ((sortedFields fields).map memberValue)) := by
  obtain ⟨room, hroom⟩ := Nat.exists_eq_add_one_of_ne_zero (Nat.pos_iff_ne_zero.mp hdepth)
  have hinner : ∃ inner, scanValue l room = scanOne l inner := by
    cases room with
    | zero => exact ⟨_, rfl⟩
    | succ room => exact ⟨_, rfl⟩
  obtain ⟨inner, hinner⟩ := hinner
  have hcontainer : scanContainer (scanMember (scanOne l inner)) '\x7d'
      ([','].intercalate ((sortedFields fields).map dumpsMember) ++ ['\x7d']) = .ok ((sortedFields fields).map memberValue, []) := by
    cases sortedFields fields with
    | nil => rfl
    | cons f rest =>
      have hlen := length_le_intercalate (f :: rest)
      have hitems := scanItems_dumpsMembers hdigits inner [] f rest
        ([','].intercalate ((f :: rest).map dumpsMember) ++ ['\x7d']).length (by simp at hlen ⊢; omega)
      unfold scanContainer
      rw [skipBlank_members]
      obtain ⟨cs, hcs⟩ := members_cons f rest ['\x7d']
      rw [hcs] at hitems ⊢
      exact hitems
  have htext : (dumpsObject fields).toList = '\x7b' :: ([','].intercalate ((sortedFields fields).map dumpsMember) ++ ['\x7d']) :=
    String.toList_ofList
  have hblank : skipBlank (dumpsObject fields).toList = (dumpsObject fields).toList := by
    rw [htext]
    rfl
  unfold loads
  rw [if_neg (by rw [htext]; simp), hblank, htext, hroom, scanValue, hinner, scanOne]
  simp only [hcontainer]
  rfl

end

/-! ## Reading takes characters -/

section
variable {α : Type} {l : Limits}

theorem length_skipBlank_le (cs : List Char) : (skipBlank cs).length ≤ cs.length := (List.dropWhile_sublist _).length_le

theorem scanString_shorter (cs : List Char) : ∀ {s rest}, scanString cs = some (s, rest) → rest.length < cs.length := by
  fun_induction scanString cs with
  | case1 =>
    intro s rest h
    cases h
  | case2 cs =>
    intro s rest h
    cases h
    simp
  | case3 a b c d cs p hp ih =>
    intro s rest h
    obtain ⟨⟨s', rest'⟩, hr, heq⟩ := Option.map_eq_some_iff.mp h
    cases heq
    have := ih hr
    simp only [List.length_cons]
    omega
  | case4 =>
    intro s rest h
    cases h
  | case5 e cs _ p hp ih =>
    intro s rest h
    obtain ⟨⟨s', rest'⟩, hr, heq⟩ := Option.map_eq_some_iff.mp h
    cases heq
    have := ih hr
    simp only [List.length_cons]
    omega
  | case6 =>
    intro s rest h
    cases h
  | case7 =>
    intro s rest h
    cases h
  | case8 c cs _ _ _ _ ih =>
    intro s rest h
    obtain ⟨⟨s', rest'⟩, hr, heq⟩ := Option.map_eq_some_iff.mp h
    cases heq
    exact Nat.lt_succ_of_lt (ih hr)

/-- The words are not empty. -/
theorem scanWord_shorter {cs rest : List Char} {v : Value} (h : scanWord cs = some (v, rest)) : rest.length < cs.length := by
  obtain ⟨w, hw, heq⟩ := List.exists_of_findSome?_eq_some h
  split at heq
  · next hstart =>
    cases heq
    have hpos : ∀ w ∈ words, 0 < w.1.toList.length := by simp [words]
    have hle := (List.isPrefixOf_iff_prefix.mp hstart).length_le
    have := hpos w hw
    rw [List.length_drop]
    omega
  · cases heq

theorem span_snd_le (p : Char → Bool) (cs : List Char) : (cs.span p).1.length + (cs.span p).2.length = cs.length := by
  rw [List.span_eq_takeWhile_dropWhile]
  have := congrArg List.length (List.takeWhile_append_dropWhile (p := p) (l := cs))
  rwa [List.length_append] at this

theorem scanWhole_length (cs : List Char) : (scanWhole cs).1.length + (scanWhole cs).2.length = cs.length := by
  unfold scanWhole
  split
  · simp [Nat.add_comm]
  · exact span_snd_le _ _

theorem scanFraction_le (cs : List Char) : (scanFraction cs).2.length ≤ cs.length := by
  unfold scanFraction
  split
  · next cs =>
    have := span_snd_le Char.isDigit cs
    split
    · exact Nat.le_refl _
    · next heq =>
      rw [heq] at this
      simp only [List.length_cons] at this ⊢
      omega
  · exact Nat.le_refl _

theorem scanSign_le (cs : List Char) : (scanSign cs).2.length ≤ cs.length := by
  unfold scanSign
  split <;> simp

theorem scanExponent_le (cs : List Char) : (scanExponent cs).2.length ≤ cs.length := by
  unfold scanExponent
  split
  · next c cs =>
    have hsign := scanSign_le cs
    have := span_snd_le Char.isDigit (scanSign cs).2
    split
    · dsimp only
      split
      · exact Nat.le_refl _
      · next heq =>
        rw [heq] at this
        simp only [List.length_cons] at this ⊢
        omega
    · exact Nat.le_refl _
  · exact Nat.le_refl _

theorem scanUnsigned_shorter {negative : Bool} {cs rest : List Char} {v : Value} (h : scanUnsigned l negative cs = .ok (v, rest)) :
    rest.length < cs.length := by
  have hwhole := scanWhole_length cs
  have hfraction := scanFraction_le (scanWhole cs).2
  have hexponent := scanExponent_le (scanFraction (scanWhole cs).2).2
  unfold scanUnsigned at h
  dsimp only at h
  split at h
  · cases h
  · next hne =>
    have hpos : 0 < (scanWhole cs).1.length := List.length_pos_iff.mpr fun hnil => hne (by rw [hnil]; rfl)
    have hrest : rest = (scanExponent (scanFraction (scanWhole cs).2).2).2 := by
      split at h
      · split at h
        · exact (congrArg Prod.snd (Except.ok.inj h)).symm
        · cases h
      · split at h
        · exact (congrArg Prod.snd (Except.ok.inj h)).symm
        · cases h
    rw [hrest]
    omega

theorem scanNumber_shorter {cs rest : List Char} {v : Value} (h : scanNumber l cs = .ok (v, rest)) : rest.length < cs.length := by
  unfold scanNumber at h
  split at h
  · exact Nat.lt_succ_of_lt (scanUnsigned_shorter h)
  · exact scanUnsigned_shorter h

/-- A reader that takes a character at least. -/
def Takes (item : List Char → Except ReadError (α × List Char)) : Prop :=
  ∀ cs x rest, item cs = .ok (x, rest) → rest.length < cs.length

theorem scanItems_shorter {item : List Char → Except ReadError (α × List Char)} {close : Char} (hitem : Takes item) (n : Nat) :
    Takes (scanItems item close n) := by
  induction n with
  | zero => exact fun cs xs rest h => by cases h
  | succ n ih =>
    intro cs xs rest h
    rw [scanItems, except_bind_ok] at h
    obtain ⟨⟨x, after⟩, hx, h⟩ := h
    have htaken := hitem _ _ _ hx
    have hblank := length_skipBlank_le after
    dsimp only at h
    split at h
    · next c rest' heq =>
      rw [heq, List.length_cons] at hblank
      split at h
      · cases h
        omega
      · split at h
        · rw [except_bind_ok] at h
          obtain ⟨⟨xs', rest''⟩, hxs, h⟩ := h
          cases h
          have := ih _ _ _ hxs
          have := length_skipBlank_le rest'
          show rest''.length < _
          omega
        · cases h
    · cases h

theorem scanContainer_shorter {item : List Char → Except ReadError (α × List Char)} {close : Char} (hitem : Takes item) :
    Takes (scanContainer item close) := by
  intro cs xs rest h
  have hblank := length_skipBlank_le cs
  unfold scanContainer at h
  split at h
  · next c rest' heq =>
    rw [heq, List.length_cons] at hblank
    split at h
    · cases h
      omega
    · have := scanItems_shorter hitem _ _ _ _ h
      rw [List.length_cons] at this
      omega
  · cases h

theorem scanMember_shorter {value : List Char → Except ReadError (Value × List Char)} (hvalue : Takes value) :
    Takes (scanMember value) := by
  intro cs m rest h
  unfold scanMember at h
  split at h
  · next cs =>
    split at h
    · next key after hkey =>
      have hstring := scanString_shorter cs hkey
      have hblank := length_skipBlank_le after
      split at h
      · next after' heq =>
        rw [heq, List.length_cons] at hblank
        rw [except_bind_ok] at h
        obtain ⟨⟨v, rest'⟩, hv, h⟩ := h
        cases h
        have := hvalue _ _ _ hv
        have := length_skipBlank_le after'
        rw [List.length_cons]
        omega
      · cases h
    · cases h
  · cases h

theorem scanOne_shorter {inner : Option (List Char → Except ReadError (Value × List Char))} (hinner : ∀ value ∈ inner, Takes value) :
    Takes (scanOne l inner) := by
  intro cs v rest h
  unfold scanOne at h
  split at h
  · next cs =>
    split at h
    · next hs =>
      cases h
      exact Nat.lt_succ_of_lt (scanString_shorter cs hs)
    · cases h
  · next cs =>
    split at h
    · next value =>
      rw [except_bind_ok] at h
      obtain ⟨⟨ms, rest'⟩, hms, h⟩ := h
      cases h
      exact Nat.lt_succ_of_lt (scanContainer_shorter (scanMember_shorter (hinner value rfl)) _ _ _ hms)
    · cases h
  · next cs =>
    split at h
    · next value =>
      rw [except_bind_ok] at h
      obtain ⟨⟨xs, rest'⟩, hxs, h⟩ := h
      cases h
      exact Nat.lt_succ_of_lt (scanContainer_shorter (hinner value rfl) _ _ _ hxs)
    · cases h
  · split at h
    · next hw =>
      cases h
      exact scanWord_shorter hw
    · exact scanNumber_shorter h

theorem scanValue_shorter (room : Nat) : Takes (scanValue l room) := by
  induction room with
  | zero => exact scanOne_shorter fun value h => by cases h
  | succ room ih =>
    refine scanOne_shorter fun value h => ?_
    cases h
    exact ih

/-- So how many items `scanContainer` allows for is never what stops it. -/
theorem scanItems_enough {item : List Char → Except ReadError (α × List Char)} {close : Char} (hitem : Takes item) (n : Nat) :
    ∀ (m : Nat) (cs : List Char), 0 < n → 0 < m → cs.length ≤ n → cs.length ≤ m →
      scanItems item close n cs = scanItems item close m cs := by
  induction n with
  | zero => exact fun m cs hn => absurd hn (Nat.lt_irrefl 0)
  | succ n ih =>
    intro m cs _ hm hlenN hlenM
    obtain ⟨m, rfl⟩ := Nat.exists_eq_add_one_of_ne_zero (Nat.pos_iff_ne_zero.mp hm)
    rw [scanItems, scanItems]
    cases hx : item cs with
    | error e => rfl
    | ok r =>
      obtain ⟨x, rest⟩ := r
      have htaken := hitem _ _ _ hx
      have hblank := length_skipBlank_le rest
      simp only [bind, Except.bind]
      cases hskip : skipBlank rest with
      | nil => rfl
      | cons c rest' =>
        rw [hskip, List.length_cons] at hblank
        have hafter := length_skipBlank_le rest'
        -- the item and the comma leave room for the others
        have hrest : scanItems item close n (skipBlank rest') = scanItems item close m (skipBlank rest') :=
          ih m _ (by omega) (by omega) (by omega) (by omega)
        dsimp only
        rw [hrest]

end

end Lib.JsonText
