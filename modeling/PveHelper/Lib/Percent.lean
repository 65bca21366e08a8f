/-
Percent-encoding, as `urllib.parse.quote(s, safe="")` writes it and `unquote`
reads it. A text is encoded byte by byte of its UTF-8 form; a decoder takes the
bytes of each run of ASCII characters back and decodes them together, with the
replacement character where they are not UTF-8. What is quoted is read back as it
was (`unquote_quote`), and holds no character but letters, digits, `_.-~` and the
escapes.
-/
import Mathlib.Data.Bool.AllAny
import Mathlib.Data.String.Basic

namespace Lib.Percent

/-! ## Encoding -/

/-- Letters, digits and `_.-~`. -/
def unreserved (b : Nat) : Bool :=
  (65 ≤ b && b ≤ 90) || (97 ≤ b && b ≤ 122) || (48 ≤ b && b ≤ 57) || b == 95 || b == 46 || b == 45 || b == 126

def hexDigit (n : Nat) : Char := Char.ofNat (if n < 10 then 48 + n else 55 + n)

def quoteByte (b : Nat) : List Char :=
  if unreserved b then [Char.ofNat b] else ['%', hexDigit (b / 16), hexDigit (b % 16)]

/-- The UTF-8 form of a text. -/
def utf8 (cs : List Char) : List UInt8 := cs.flatMap String.utf8EncodeChar

/-- `quote(s, safe="")`. -/
def quote (s : String) : String := String.ofList ((utf8 s.toList).flatMap fun b => quoteByte b.toNat)

/-! ## Decoding -/

def hexValue (c : Char) : Option Nat :=
  let n := c.toNat
  if 48 ≤ n && n ≤ 57 then some (n - 48)
  else if 65 ≤ n && n ≤ 70 then some (n - 55)
  else if 97 ≤ n && n ≤ 102 then some (n - 87)
  else none

/-- The byte of an escape, after its percent sign. -/
def escaped : List Char → Option UInt8
  | a :: b :: _ => match hexValue a, hexValue b with
    | some x, some y => some (UInt8.ofNat (16 * x + y))
    | _, _ => none
  | _ => none

/-- `unquote_to_bytes`, past the digits of the escape before; a percent sign that begins no escape
stands for itself. -/
def unquoteToBytes : Nat → List Char → List UInt8
  | _, [] => []
  | skip + 1, _ :: cs => unquoteToBytes skip cs
  | 0, c :: cs =>
    if c = '%' then
      match escaped cs with
      | some b => b :: unquoteToBytes 2 cs
      | none => 37 :: unquoteToBytes 0 cs
    else String.utf8EncodeChar c ++ unquoteToBytes 0 cs

/-- The ranges the bytes after a lead byte of a well-formed sequence are in. -/
def following (lead : Nat) : List (Nat × Nat) :=
  if 0xC2 ≤ lead && lead ≤ 0xDF then [(0x80, 0xBF)]
  else if lead = 0xE0 then [(0xA0, 0xBF), (0x80, 0xBF)]
  else if lead = 0xED then [(0x80, 0x9F), (0x80, 0xBF)]
  else if 0xE1 ≤ lead && lead ≤ 0xEF then [(0x80, 0xBF), (0x80, 0xBF)]
  else if lead = 0xF0 then [(0x90, 0xBF), (0x80, 0xBF), (0x80, 0xBF)]
  else if lead = 0xF4 then [(0x80, 0x8F), (0x80, 0xBF), (0x80, 0xBF)]
  else if 0xF1 ≤ lead && lead ≤ 0xF3 then [(0x80, 0xBF), (0x80, 0xBF), (0x80, 0xBF)]
  else []

/-- How many of the bytes that should follow do. -/
def matching : List (Nat × Nat) → List UInt8 → Nat
  | (lo, hi) :: ranges, b :: bytes => if lo ≤ b.toNat && b.toNat ≤ hi then matching ranges bytes + 1 else 0
  | _, _ => 0

/-- The character at a lead byte and how many bytes after it belong to it; an ill-formed sequence counts
as one replacement character. -/
def decodeLead (lead : Nat) (bytes : List UInt8) : Char × Nat :=
  let ranges := following lead
  let n := matching ranges bytes
  if lead < 0x80 then (Char.ofNat lead, 0)
  else if ranges.isEmpty || n < ranges.length then (Char.ofNat 0xFFFD, n)
  else
    let payload := match n with
      | 1 => lead - 0xC0
      | 2 => lead - 0xE0
      | _ => lead - 0xF0
    (Char.ofNat ((bytes.take n).foldl (fun v b => 64 * v + (b.toNat - 0x80)) payload), n)

def decodeFrom : Nat → List UInt8 → List Char
  | _, [] => []
  | skip + 1, _ :: bytes => decodeFrom skip bytes
  | 0, lead :: bytes =>
    let (c, n) := decodeLead lead.toNat bytes
    c :: decodeFrom n bytes

/-- `bytes.decode("utf-8", "replace")`. -/
def decodeReplace (bytes : List UInt8) : List Char :=
  match bytes.toByteArray.utf8Decode? with
  | some cs => cs.toList
  | none => decodeFrom 0 bytes

/-- The text after a run of ASCII characters. -/
def unquoteFrom (run : List Char) : List Char → List Char
  | [] => decodeReplace (unquoteToBytes 0 run)
  | c :: cs =>
    if c.toNat < 0x80 then unquoteFrom (run ++ [c]) cs
    else decodeReplace (unquoteToBytes 0 run) ++ c :: unquoteFrom [] cs

/-- `unquote(s)`. -/
def unquote (s : String) : String := String.ofList (unquoteFrom [] s.toList)

/-! ## What is quoted is read back -/

/-- A byte is quoted with ASCII characters other than a colon. -/
theorem quoteByte_chars : ∀ b < 256, ∀ c ∈ quoteByte b, c.toNat < 0x80 ∧ c ≠ ':' := by
  -- evaluated as one check of the quoted text, not as a search over characters
  have hall : ∀ b < 256, (quoteByte b).all (fun c => decide (c.toNat < 0x80 ∧ c ≠ ':')) = true := by
    decide +kernel
  exact fun b hb => List.all_iff_forall_prop.mp (hall b hb)

theorem hexValue_hexDigit : ∀ n < 16, hexValue (hexDigit n) = some n := by
  decide

theorem utf8EncodeChar_unreserved : ∀ b < 256, unreserved b = true →
    Char.ofNat b ≠ '%' ∧ String.utf8EncodeChar (Char.ofNat b) = [UInt8.ofNat b] := by
  decide +kernel

theorem unquoteToBytes_quoteByte (b : UInt8) (rest : List Char) :
    unquoteToBytes 0 (quoteByte b.toNat ++ rest) = b :: unquoteToBytes 0 rest := by
  have hb : b.toNat < 256 := UInt8.toNat_lt_size b
  unfold quoteByte
  split
  · rename_i hplain
    obtain ⟨hne, hbyte⟩ := utf8EncodeChar_unreserved b.toNat hb hplain
    simp only [List.cons_append, List.nil_append, unquoteToBytes, if_neg hne, hbyte, UInt8.ofNat_toNat]
  · have hescaped : escaped (hexDigit (b.toNat / 16) :: hexDigit (b.toNat % 16) :: rest) = some b := by
      have hvalue : 16 * (b.toNat / 16) + b.toNat % 16 = b.toNat := Nat.div_add_mod ..
      simp only [escaped, hexValue_hexDigit (b.toNat / 16) (by omega), hexValue_hexDigit (b.toNat % 16) (by omega), hvalue,
        UInt8.ofNat_toNat]
    simp only [List.cons_append, List.nil_append, unquoteToBytes, if_true, hescaped]

theorem unquoteToBytes_quote (bytes : List UInt8) :
    unquoteToBytes 0 (bytes.flatMap fun b => quoteByte b.toNat) = bytes := by
  induction bytes with
  | nil => rfl
  | cons b bytes ih => rw [List.flatMap_cons, unquoteToBytes_quoteByte, ih]

/-- A text of ASCII characters is one run. -/
theorem unquoteFrom_ascii {cs : List Char} (h : ∀ c ∈ cs, c.toNat < 0x80) (run : List Char) :
    unquoteFrom run cs = decodeReplace (unquoteToBytes 0 (run ++ cs)) := by
  induction cs generalizing run with
  | nil => rw [List.append_nil]; rfl
  | cons c cs ih =>
    rw [unquoteFrom, if_pos (h c (List.mem_cons_self ..)), ih fun c hc => h c (List.mem_cons_of_mem _ hc)]
    simp

theorem decodeReplace_utf8 (cs : List Char) : decodeReplace (utf8 cs) = cs := by
  have hdecode : (utf8 cs).toByteArray.utf8Decode? = some cs.toArray := List.utf8Decode?_utf8Encode
  rw [decodeReplace, hdecode]

theorem quote_chars {s : String} {c : Char} (hc : c ∈ (quote s).toList) : c.toNat < 0x80 ∧ c ≠ ':' := by
  rw [quote, String.toList_ofList] at hc
  obtain ⟨b, -, hb⟩ := List.mem_flatMap.mp hc
  exact quoteByte_chars b.toNat (UInt8.toNat_lt_size b) c hb

theorem unquote_quote (s : String) : unquote (quote s) = s := by
  rw [unquote, unquoteFrom_ascii fun c hc => (quote_chars hc).1, List.nil_append, quote, String.toList_ofList,
    unquoteToBytes_quote, decodeReplace_utf8, String.ofList_toList]

end Lib.Percent
