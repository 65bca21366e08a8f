/-
Octet-counted framing: each message is sent as its length in decimal digits, a
space and its octets. A receiver that reads a length, a space and that many
octets in turn gets back the messages that were sent, whatever octets they
hold (`receive_frames`).
-/
import PveHelper.Lib.Fields
import PveHelper.Lib.Percent

namespace Lib.OctetCounting

/-- `str(len(line)).encode("ascii") + b" " + line`. -/
def frame (line : List UInt8) : List UInt8 := Percent.utf8 (toString line.length).toList ++ 32 :: line

def isDigit (b : UInt8) : Bool := 48 ≤ b.toNat && b.toNat ≤ 57

/-- The number that digits spell. -/
def number (digits : List UInt8) : Nat := Nat.ofDigitChars 10 (digits.map fun b => Char.ofNat b.toNat) 0

/-- The number in front, up to the octet it stops at. -/
def readNumber (stop : UInt8) (octets : List UInt8) : Option (Nat × List UInt8) :=
  let digits := octets.takeWhile isDigit
  match octets.dropWhile isDigit with
  | [] => none
  | b :: rest => if b = stop && !digits.isEmpty then some (number digits, rest) else none

/-- So many octets and those after them. -/
def readOctets (n : Nat) (octets : List UInt8) : Option (List UInt8 × List UInt8) :=
  if n ≤ octets.length then some (octets.take n, octets.drop n) else none

/-- The message in front and the octets after it. -/
def readFrame (octets : List UInt8) : Option (List UInt8 × List UInt8) :=
  (readNumber 32 octets).bind fun (n, rest) => readOctets n rest

/-- What a stream is made of, read one after the other; none where something else stands. -/
def readAll {α : Type} (read : List UInt8 → Option (α × List UInt8)) (octets : List UInt8) : Option (List α) :=
  if octets = [] then some []
  else
    match read octets with
    | none => none
    | some (x, rest) => if rest.length < octets.length then (readAll read rest).map (x :: ·) else none
termination_by octets.length

/-- The messages of a stream of frames; none where the stream is not one. -/
def receive (octets : List UInt8) : Option (List (List UInt8)) := readAll readFrame octets

/-! ## What is sent is received -/

/-- An ASCII text is one octet for each character. -/
theorem utf8_ascii {cs : List Char} (h : ∀ c ∈ cs, c.toNat < 0x80) : Percent.utf8 cs = cs.map fun c => UInt8.ofNat c.toNat := by
  induction cs with
  | nil => rfl
  | cons c cs ih =>
    have hc := h c List.mem_cons_self
    have hchar : String.utf8EncodeChar c = [UInt8.ofNat c.toNat] := by
      have hval : c.val.toNat ≤ 0x7f := Nat.le_of_lt_succ hc
      show (if c.val.toNat ≤ 0x7f then _ else _) = _
      rw [if_pos hval]
      rfl
    rw [Percent.utf8, List.flatMap_cons, hchar, List.map_cons, ← ih fun c hc => h c (List.mem_cons_of_mem _ hc)]
    rfl

theorem isDigit_range {c : Char} (h : c.isDigit = true) : 48 ≤ c.toNat ∧ c.toNat ≤ 57 := by
  simp only [Char.isDigit, Bool.and_eq_true, decide_eq_true_eq] at h
  exact ⟨UInt32.le_iff_toNat_le.mp h.1, UInt32.le_iff_toNat_le.mp h.2⟩

/-- A number is read back in front of any octet that is no digit. -/
theorem readNumber_toString (n : Nat) {stop : UInt8} (hstop : isDigit stop = false) (rest : List UInt8) :
    readNumber stop (Percent.utf8 (toString n).toList ++ stop :: rest) = some (n, rest) := by
  have hchars : ∀ c ∈ Nat.toDigits 10 n, 48 ≤ c.toNat ∧ c.toNat ≤ 57 := fun c hc =>
    isDigit_range (Nat.isDigit_of_mem_toDigits (by decide) (by decide) hc)
  have htext : Percent.utf8 (toString n).toList = (Nat.toDigits 10 n).map fun c => UInt8.ofNat c.toNat := by
    rw [Nat.toString_eq_ofList_toDigits, String.toList_ofList, utf8_ascii fun c hc => by
      have := hchars c hc
      omega]
  have hbyte : ∀ c ∈ Nat.toDigits 10 n, (UInt8.ofNat c.toNat).toNat = c.toNat := fun c hc => by
    have := hchars c hc
    rw [UInt8.toNat_ofNat']
    omega
  have hdigits : ∀ b ∈ (Nat.toDigits 10 n).map (fun c => UInt8.ofNat c.toNat), isDigit b = true := by
    intro b hb
    obtain ⟨c, hc, rfl⟩ := List.mem_map.mp hb
    have := hchars c hc
    unfold isDigit
    rw [hbyte c hc]
    simp [this]
  have hnumber : number ((Nat.toDigits 10 n).map fun c => UInt8.ofNat c.toNat) = n := by
    have hback : ((Nat.toDigits 10 n).map fun c => UInt8.ofNat c.toNat).map (fun b => Char.ofNat b.toNat) =
        Nat.toDigits 10 n := by
      rw [List.map_map]
      refine (List.map_congr_left fun c hc => ?_).trans (List.map_id _)
      show Char.ofNat (UInt8.ofNat c.toNat).toNat = c
      rw [hbyte c hc, Char.ofNat_toNat]
    rw [number, hback, Nat.ofDigitChars_ten_toDigits]
  have hend : ¬ isDigit stop = true := by simp [hstop]
  rw [htext]
  unfold readNumber
  rw [List.takeWhile_append_of_pos hdigits, List.dropWhile_append_of_pos hdigits,
    List.takeWhile_cons_of_neg hend, List.dropWhile_cons_of_neg hend, List.append_nil]
  have hne : ((Nat.toDigits 10 n).map fun c => UInt8.ofNat c.toNat).isEmpty = false := by
    simp [Nat.toDigits_ne_nil]
  simp only [hne, hnumber]
  simp

theorem readOctets_append (octets rest : List UInt8) : readOctets octets.length (octets ++ rest) = some (octets, rest) := by
  simp [readOctets]

theorem readFrame_frame (line rest : List UInt8) : readFrame (frame line ++ rest) = some (line, rest) := by
  rw [readFrame, frame, List.append_assoc, List.cons_append, readNumber_toString _ (by decide)]
  exact readOctets_append line rest

/-- A stream of words is read as these words, with nothing left over, where each is read back from the
front of any stream. -/
theorem readAll_flatMap {α : Type} {read : List UInt8 → Option (α × List UInt8)} {code : α → List UInt8}
    (hread : ∀ x rest, read (code x ++ rest) = some (x, rest)) (hne : ∀ x, code x ≠ []) (xs : List α) :
    readAll read (xs.flatMap code) = some xs := by
  induction xs with
  | nil => rw [List.flatMap_nil, readAll, if_pos rfl]
  | cons x xs ih =>
    have hword : 0 < (code x).length := List.length_pos_iff.mpr (hne x)
    rw [List.flatMap_cons, readAll, if_neg (by simp [hne x]), hread]
    dsimp only
    rw [if_pos (by rw [List.length_append]; omega), ih]
    rfl

/-- A stream of frames is received as the messages it was made of, with nothing left over. -/
theorem receive_frames (lines : List (List UInt8)) : receive (lines.flatMap frame) = some lines :=
  readAll_flatMap readFrame_frame (fun line => by simp [frame]) lines

end Lib.OctetCounting
