/-
The kernel's mount table as `core/services/filesystem.py` reads it. The kernel writes one line for a
mount and escapes four characters inside a field; `splitlines` and `split` end lines and fields at
many more characters than those, and the lone dash after the optional fields is looked for from the
left. The table is read back exactly where no field holds such a character and neither the mount
point nor its options are a dash.
-/
import Mathlib.Data.Bool.AllAny
import PveHelper.Lib.Lines

namespace PveHelper.Storage

open Lib

/-! ## The reader -/

structure MountInfo where
  mountPoint : String := ""
  filesystemType : String := ""
  source : String := ""
  mountOptions : String := ""
  superOptions : String := ""
deriving DecidableEq, Repr

/-- `[0-7]`. -/
def isOctal (c : Char) : Bool := '0' ≤ c && c ≤ '7'

/-- `chr(int(digits, 8))` of three octal digits. -/
def octalChar (a b c : Char) : Char :=
  Char.ofNat ((a.toNat - 48) * 64 + (b.toNat - 48) * 8 + (c.toNat - 48))

/-- The substitution of `_decode_mountinfo_field`, from left to right. -/
def decodeOctal : List Char → List Char
  | '\\' :: a :: b :: c :: cs =>
    if isOctal a && isOctal b && isOctal c then octalChar a b c :: decodeOctal cs else '\\' :: decodeOctal (a :: b :: c :: cs)
  | c :: cs => c :: decodeOctal cs
  | [] => []

/-- `_decode_mountinfo_field`. -/
def decodeMountinfoField (value : String) : String := String.ofList (decodeOctal value.toList)

/-- What the fields before the dash and those after it say. -/
def mountInfoOf (before after : List String) : MountInfo :=
  match before, after with
  | _ :: _ :: _ :: _ :: mountPoint :: options, filesystemType :: source :: rest =>
    { mountPoint := decodeMountinfoField mountPoint
      mountOptions := (options.head?.map decodeMountinfoField).getD ""
      filesystemType
      source := decodeMountinfoField source
      superOptions := (rest.head?.map decodeMountinfoField).getD "" }
  | _, _ => {}

/-- `_parse_mountinfo_line`. -/
def parseMountinfoLine (line : String) : MountInfo :=
  match Text.partitionOn " - " line with
  | none => {}
  | some (before, after) => mountInfoOf (Text.words before) (Text.words after)

/-- `mountinfo_mounts`, from what the file holds; nothing where it cannot be read. -/
def mountinfoMounts (file : Option String) : List MountInfo :=
  match file with
  | none => []
  | some text =>
    ((Text.splitlines (Text.universalNewlines text)).map parseMountinfoLine).filter fun mount => mount.mountPoint ≠ ""

/-! ## The kernel -/

/-- The optional fields of a line. -/
inductive OptionalField
  | shared (group : Nat)
  | master (group : Nat)
  | propagateFrom (group : Nat)
  | unbindable

def OptionalField.text : OptionalField → String
  | .shared group => "shared:" ++ toString group
  | .master group => "master:" ++ toString group
  | .propagateFrom group => "propagate_from:" ++ toString group
  | .unbindable => "unbindable"

/-- The kernel's escape of one character. -/
def escapedChar (c : Char) : List Char :=
  if c = ' ' then ['\\', '0', '4', '0']
  else if c = '\t' then ['\\', '0', '1', '1']
  else if c = '\n' then ['\\', '0', '1', '2']
  else if c = '\\' then ['\\', '1', '3', '4']
  else [c]

def escaped (value : String) : String := String.ofList (value.toList.flatMap escapedChar)

/-- The only white space of a text is what the kernel escapes. -/
def Whole (value : String) : Prop := ∀ c ∈ value.toList, Text.isSpace c = true → c = ' ' ∨ c = '\t' ∨ c = '\n'

instance (value : String) : Decidable (Whole value) := List.decidableBAll _ _

/-- A mount. Its root is the path of a directory of the file system: no lone dash, and no white
space but what the kernel escapes (`root_whole`). Its type is one of the registered names, with
neither white space nor backslash (`filesystemType_plain`). The other texts can be anything that
is not empty. -/
structure Mount where
  id : Nat
  parent : Nat
  major : Nat
  minor : Nat
  root : String
  mountPoint : String
  options : String
  optional : List OptionalField
  filesystemType : String
  source : String
  superOptions : String
  root_whole : root ≠ "" ∧ root ≠ "-" ∧ Whole root
  mountPoint_nonempty : mountPoint ≠ ""
  options_nonempty : options ≠ ""
  filesystemType_plain : filesystemType ≠ "" ∧ ∀ c ∈ filesystemType.toList, Text.isSpace c = false ∧ c ≠ '\\'
  source_nonempty : source ≠ ""
  superOptions_nonempty : superOptions ≠ ""

namespace Mount

/-- What a reader is to know of a mount. -/
def info (m : Mount) : MountInfo :=
  { mountPoint := m.mountPoint, filesystemType := m.filesystemType, source := m.source, mountOptions := m.options,
    superOptions := m.superOptions }

/-- The fields of a line before the optional ones. -/
def leading (m : Mount) : List String :=
  [toString m.id, toString m.parent, toString m.major ++ ":" ++ toString m.minor, escaped m.root, escaped m.mountPoint,
    escaped m.options]

/-- The fields after the dash. -/
def trailing (m : Mount) : List String := [m.filesystemType, escaped m.source, escaped m.superOptions]

def line (m : Mount) : String := Text.join ' ' (m.leading ++ m.optional.map (·.text) ++ "-" :: m.trailing)

/-- What a line of the mount is read back from. -/
structure Readable (m : Mount) : Prop where
  mountPoint : Whole m.mountPoint ∧ m.mountPoint ≠ "-"
  options : Whole m.options ∧ m.options ≠ "-"
  source : Whole m.source
  superOptions : Whole m.superOptions

instance (m : Mount) : Decidable m.Readable :=
  decidable_of_iff ((Whole m.mountPoint ∧ m.mountPoint ≠ "-") ∧ (Whole m.options ∧ m.options ≠ "-") ∧ Whole m.source ∧
    Whole m.superOptions) ⟨fun h => ⟨h.1, h.2.1, h.2.2.1, h.2.2.2⟩, fun h => ⟨h.mountPoint, h.options, h.source, h.superOptions⟩⟩

end Mount

/-- The kernel's table. -/
def mountinfo (mounts : List Mount) : String := String.ofList (mounts.flatMap fun m => m.line.toList ++ ['\n'])

/-! ## Escaping -/

section
variable {v : String} {m : Mount}

theorem decodeOctal_cons {c : Char} (hc : c ≠ '\\') (cs : List Char) : decodeOctal (c :: cs) = c :: decodeOctal cs :=
  decodeOctal.eq_2 c cs fun _ _ _ _ h => absurd h hc

theorem decodeOctal_escapedChar (c : Char) (rest : List Char) : decodeOctal (escapedChar c ++ rest) = c :: decodeOctal rest := by
  unfold escapedChar
  split
  · next h => subst h; rfl
  · split
    · next h => subst h; rfl
    · split
      · next h => subst h; rfl
      · split
        · next h => subst h; rfl
        · next hback => exact decodeOctal_cons hback rest

theorem decodeMountinfoField_escaped (v : String) : decodeMountinfoField (escaped v) = v := by
  have hlist : ∀ cs : List Char, decodeOctal (cs.flatMap escapedChar) = cs := by
    intro cs
    induction cs with
    | nil => rfl
    | cons c cs ih => rw [List.flatMap_cons, decodeOctal_escapedChar, ih]
  rw [decodeMountinfoField, escaped, String.toList_ofList, hlist, String.ofList_toList]

theorem escaped_injective {v w : String} (h : escaped v = escaped w) : v = w := by
  rw [← decodeMountinfoField_escaped v, h, decodeMountinfoField_escaped]

theorem escaped_ne_empty (h : v ≠ "") : escaped v ≠ "" := fun he => h (escaped_injective (he.trans rfl))

theorem escaped_ne_dash (h : v ≠ "-") : escaped v ≠ "-" := fun he => h (escaped_injective (he.trans (by decide)))

theorem not_isSpace_escaped (h : Whole v) : ∀ c ∈ (escaped v).toList, Text.isSpace c = false := by
  intro c hc
  rw [escaped, String.toList_ofList] at hc
  obtain ⟨d, hd, hc⟩ := List.mem_flatMap.mp hc
  have hescape : ∀ l ∈ [['\\', '0', '4', '0'], ['\\', '0', '1', '1'], ['\\', '0', '1', '2'], ['\\', '1', '3', '4']],
      l.all (fun e => !Text.isSpace e) = true := by decide
  have hplain : ∀ l ∈ [['\\', '0', '4', '0'], ['\\', '0', '1', '1'], ['\\', '0', '1', '2'], ['\\', '1', '3', '4']],
      ∀ e ∈ l, Text.isSpace e = false := fun l hl e he => by simpa using List.all_eq_true.mp (hescape l hl) e he
  unfold escapedChar at hc
  split at hc
  · exact hplain ['\\', '0', '4', '0'] (by decide) c hc
  · split at hc
    · exact hplain ['\\', '0', '1', '1'] (by decide) c hc
    · split at hc
      · exact hplain ['\\', '0', '1', '2'] (by decide) c hc
      · split at hc
        · exact hplain ['\\', '1', '3', '4'] (by decide) c hc
        · next hblank htab hfeed _ =>
          rw [List.mem_singleton.mp hc]
          refine Bool.eq_false_iff.mpr fun hspace => ?_
          rcases h d hd hspace with rfl | rfl | rfl
          · exact hblank rfl
          · exact htab rfl
          · exact hfeed rfl

/-! ## One line -/

/-- A field that `split` gives back: a word. -/
def IsWord (f : String) : Prop := f ≠ "" ∧ ∀ c ∈ f.toList, Text.isSpace c = false

theorem isWord_toString (n : Nat) : IsWord (toString n) := by
  have hlist : (toString n).toList = Nat.toDigits 10 n := by rw [Nat.toString_eq_ofList_toDigits, String.toList_ofList]
  constructor
  · intro he
    rw [he] at hlist
    exact Nat.toDigits_ne_nil hlist.symm
  · intro c hc
    rw [hlist] at hc
    exact Text.isSpace_of_isDigit (Nat.isDigit_of_mem_toDigits (by decide) (by decide) hc)

theorem IsWord.append {f g : String} (hf : IsWord f) (hg : ∀ c ∈ g.toList, Text.isSpace c = false) : IsWord (f ++ g) := by
  constructor
  · intro he
    have hlist := congrArg String.toList he
    rw [String.toList_append, String.toList_empty, List.append_eq_nil_iff] at hlist
    exact hf.1 (String.toList_eq_nil_iff.mp hlist.1)
  · intro c hc
    rw [String.toList_append, List.mem_append] at hc
    exact hc.elim (hf.2 c) (hg c)

theorem isWord_escaped (hne : v ≠ "") (hv : Whole v) : IsWord (escaped v) := ⟨escaped_ne_empty hne, not_isSpace_escaped hv⟩

theorem isWord_optional (o : OptionalField) : IsWord o.text := by
  have hleading : ∀ p ∈ ["shared:", "master:", "propagate_from:", "unbindable"], IsWord p := by
    intro p hp
    constructor
    · rintro rfl
      exact absurd hp (by decide)
    · have hall : ∀ p ∈ ["shared:", "master:", "propagate_from:", "unbindable"], p.toList.all (fun c => !Text.isSpace c) = true := by
        decide
      exact fun c hc => by simpa using List.all_eq_true.mp (hall p hp) c hc
  cases o with
  | shared n => exact (hleading _ (by decide)).append (isWord_toString n).2
  | master n => exact (hleading _ (by decide)).append (isWord_toString n).2
  | propagateFrom n => exact (hleading _ (by decide)).append (isWord_toString n).2
  | unbindable => exact hleading _ (by decide)

theorem optional_ne_dash (o : OptionalField) : o.text ≠ "-" := by
  have hlength : 1 < o.text.length := by
    cases o with
    | shared n =>
      rw [OptionalField.text, String.length_append]
      have hword : "shared:".length = 7 := rfl
      omega
    | master n =>
      rw [OptionalField.text, String.length_append]
      have hword : "master:".length = 7 := rfl
      omega
    | propagateFrom n =>
      rw [OptionalField.text, String.length_append]
      have hword : "propagate_from:".length = 15 := rfl
      omega
    | unbindable => decide
  intro h
  rw [h] at hlength
  exact absurd hlength (by decide)

/-- The only white space of the fields that can be anything is what the kernel escapes. -/
structure Mount.AllWhole (m : Mount) : Prop where
  mountPoint : Whole m.mountPoint
  options : Whole m.options
  source : Whole m.source
  superOptions : Whole m.superOptions

theorem isWord_leading (h : m.AllWhole) : ∀ f ∈ m.leading, IsWord f := by
  intro f hf
  simp only [Mount.leading, List.mem_cons, List.not_mem_nil, or_false] at hf
  rcases hf with rfl | rfl | rfl | rfl | rfl | rfl
  · exact isWord_toString _
  · exact isWord_toString _
  · rw [String.append_assoc]
    refine (isWord_toString _).append fun c hc => ?_
    rw [String.toList_append, List.mem_append] at hc
    rcases hc with hc | hc
    · exact List.all_iff_forall_prop.mp (by decide : (":".toList.all fun c => Text.isSpace c = false) = true) c hc
    · exact (isWord_toString _).2 c hc
  · exact isWord_escaped m.root_whole.1 m.root_whole.2.2
  · exact isWord_escaped m.mountPoint_nonempty h.mountPoint
  · exact isWord_escaped m.options_nonempty h.options

theorem isWord_trailing (h : m.AllWhole) : ∀ f ∈ m.trailing, IsWord f := by
  intro f hf
  simp only [Mount.trailing, List.mem_cons, List.not_mem_nil, or_false] at hf
  rcases hf with rfl | rfl | rfl
  · exact ⟨m.filesystemType_plain.1, fun c hc => (m.filesystemType_plain.2 c hc).1⟩
  · exact isWord_escaped m.source_nonempty h.source
  · exact isWord_escaped m.superOptions_nonempty h.superOptions

/-- The fields before and after the first dash of a line. -/
theorem parse_of_parted {line : String} {before after : List String} (hparted : Text.partitionOn " - " line =
      some (Text.join ' ' before, Text.join ' ' after)) (hbefore : ∀ f ∈ before, IsWord f) (hafter : ∀ f ∈ after, IsWord f) :
    parseMountinfoLine line = mountInfoOf before after := by
  rw [parseMountinfoLine, hparted]
  dsimp only
  rw [Text.words_join (fun f hf => (hbefore f hf).1) fun f hf => (hbefore f hf).2,
    Text.words_join (fun f hf => (hafter f hf).1) fun f hf => (hafter f hf).2]

theorem IsWord.blank {f : String} (h : IsWord f) : ' ' ∉ f.toList := fun hc => absurd (h.2 ' ' hc) (by decide)

/-- A line whose first dash is the one after `before`. -/
theorem parted_line (before : List String) (hne : before ≠ []) (hword : ∀ f ∈ before, IsWord f) (hother : ∀ f ∈ before, f ≠ "-")
    (next : String) (rest : List String) (hline : m.line = Text.join ' ' (before ++ "-" :: next :: rest)) :
    Text.partitionOn " - " m.line = some (Text.join ' ' before, Text.join ' ' (next :: rest)) := by
  rw [hline]
  exact Text.partitionOn_join "-" (by decide) hne (fun f hf => (hword f hf).blank) hother next rest

theorem leading_first_ne_dash (m : Mount) : ∀ f ∈ m.leading.take 4, f ≠ "-" := by
  have hdigit : ∀ n : Nat, ∀ t : String, toString n ++ t ≠ "-" := by
    intro n t he
    have hlist := congrArg String.toList he
    rw [String.toList_append, Nat.toString_eq_ofList_toDigits, String.toList_ofList] at hlist
    obtain ⟨d, ds, hds⟩ := List.exists_cons_of_ne_nil (Nat.toDigits_ne_nil (b := 10) (n := n))
    have hd : d.isDigit = true := Nat.isDigit_of_mem_toDigits (by decide) (by decide) (hds ▸ List.mem_cons_self)
    rw [hds, List.cons_append] at hlist
    have hdash : d = '-' := (List.cons.inj hlist).1
    rw [hdash] at hd
    exact absurd hd (by decide)
  intro f hf
  simp only [Mount.leading, List.take_succ_cons, List.take_zero, List.mem_cons, List.not_mem_nil, or_false] at hf
  rcases hf with rfl | rfl | rfl | rfl
  · simpa using hdigit m.id ""
  · simpa using hdigit m.parent ""
  · rw [String.append_assoc]
    exact hdigit m.major _
  · exact escaped_ne_dash m.root_whole.2.1

/-- A readable line is read back. -/
theorem parse_line (h : m.Readable) : parseMountinfoLine m.line = m.info := by
  have hwhole : m.AllWhole := ⟨h.mountPoint.1, h.options.1, h.source, h.superOptions⟩
  have hwords : ∀ f ∈ m.leading ++ m.optional.map (·.text), IsWord f := by
    intro f hf
    rcases List.mem_append.mp hf with hf | hf
    · exact isWord_leading hwhole f hf
    · obtain ⟨o, -, rfl⟩ := List.mem_map.mp hf
      exact isWord_optional o
  have hother : ∀ f ∈ m.leading ++ m.optional.map (·.text), f ≠ "-" := by
    intro f hf
    rcases List.mem_append.mp hf with hf | hf
    · have hsplit : m.leading = m.leading.take 4 ++ [escaped m.mountPoint, escaped m.options] := rfl
      rw [hsplit, List.mem_append] at hf
      rcases hf with hf | hf
      · exact leading_first_ne_dash m f hf
      · simp only [List.mem_cons, List.not_mem_nil, or_false] at hf
        rcases hf with rfl | rfl
        · exact escaped_ne_dash h.mountPoint.2
        · exact escaped_ne_dash h.options.2
    · obtain ⟨o, -, rfl⟩ := List.mem_map.mp hf
      exact optional_ne_dash o
  have hparted := parted_line (m := m) _ (List.cons_ne_nil _ _) hwords hother _ _ rfl
  rw [parse_of_parted hparted hwords (isWord_trailing hwhole)]
  show MountInfo.mk _ _ _ _ _ = m.info
  simp [decodeMountinfoField_escaped, Mount.info]

/-- Where a field before the lone dash is a dash too, it is not read back. -/
theorem parse_line_dash (h : m.AllWhole) (hdash : m.mountPoint = "-" ∨ m.options = "-") :
    (parseMountinfoLine m.line).mountOptions = "" := by
  by_cases hpoint : m.mountPoint = "-"
  · have hline : m.line = Text.join ' ' (m.leading.take 4 ++ escaped m.mountPoint :: escaped m.options ::
        (m.optional.map (·.text) ++ "-" :: m.trailing)) := rfl
    rw [hpoint, show escaped "-" = "-" from rfl] at hline
    have hparted := parted_line (m := m) (m.leading.take 4) (List.cons_ne_nil _ _)
      (fun f hf => isWord_leading h f (List.mem_of_mem_take hf)) (leading_first_ne_dash m) (escaped m.options)
      (m.optional.map (·.text) ++ "-" :: m.trailing) hline
    rw [parseMountinfoLine, hparted]
    dsimp only
    rw [Text.words_join (fun f hf => (isWord_leading h f (List.mem_of_mem_take hf)).1)
      fun f hf => (isWord_leading h f (List.mem_of_mem_take hf)).2]
    rfl
  · have hoptions := hdash.resolve_left hpoint
    have hline : m.line = Text.join ' ' (m.leading.take 5 ++ escaped m.options :: (m.optional.map (·.text) ++ "-" :: m.trailing)) :=
      rfl
    rw [hoptions, show escaped "-" = "-" from rfl] at hline
    have hword : ∀ f ∈ m.leading.take 5, IsWord f := fun f hf => isWord_leading h f (List.mem_of_mem_take hf)
    have hother : ∀ f ∈ m.leading.take 5, f ≠ "-" := by
      intro f hf
      have hsplit : m.leading.take 5 = m.leading.take 4 ++ [escaped m.mountPoint] := rfl
      rw [hsplit, List.mem_append, List.mem_singleton] at hf
      rcases hf with hf | rfl
      · exact leading_first_ne_dash m f hf
      · exact escaped_ne_dash hpoint
    have hparted : ∃ after, Text.partitionOn " - " m.line = some (Text.join ' ' (m.leading.take 5), after) := by
      obtain ⟨next, rest, hnext⟩ := List.exists_cons_of_ne_nil (l := m.optional.map (·.text) ++ "-" :: m.trailing) (by simp)
      rw [hnext] at hline
      exact ⟨_, parted_line (m := m) _ (List.cons_ne_nil _ _) hword hother next rest hline⟩
    obtain ⟨after, hparted⟩ := hparted
    rw [parseMountinfoLine, hparted]
    dsimp only
    rw [Text.words_join (fun f hf => (hword f hf).1) fun f hf => (hword f hf).2]
    rcases Text.words after with _ | ⟨filesystemType, _ | ⟨source, rest⟩⟩
    · rfl
    · rfl
    · rfl

/-! ## What the reader can give -/

/-- White space that the kernel escapes, or none at all. -/
def BlankEscapes (l : List Char) : Prop :=
  ∀ a b c, ['\\', a, b, c] <:+: l → isOctal a = true → isOctal b = true → isOctal c = true → Whole (String.singleton (octalChar a b c))

/-- A text after which the escapes of what follows stay as they are. -/
def KeepsEscapes (f : List Char) : Prop := ∀ rest, BlankEscapes rest → BlankEscapes (f ++ rest)

theorem blankEscapes_nil : BlankEscapes [] := fun _ _ _ h => absurd (List.infix_nil.mp h) (List.cons_ne_nil _ _)

theorem KeepsEscapes.append {f g : List Char} (hf : KeepsEscapes f) (hg : KeepsEscapes g) : KeepsEscapes (f ++ g) := by
  intro rest h
  rw [List.append_assoc]
  exact hf _ (hg rest h)

theorem keepsEscapes_cons {c : Char} (hc : c ≠ '\\') : KeepsEscapes [c] := by
  intro rest h x y z hwithin
  rcases List.infix_cons_iff.mp hwithin with hleading | hwithin
  · exact absurd (List.cons_prefix_cons.mp hleading).1.symm hc
  · exact h x y z hwithin

theorem keepsEscapes_plain {f : List Char} (h : ∀ c ∈ f, c ≠ '\\') : KeepsEscapes f := by
  induction f with
  | nil => exact fun rest hrest => hrest
  | cons c f ih =>
    exact (keepsEscapes_cons (h c List.mem_cons_self)).append (ih fun d hd => h d (List.mem_cons_of_mem _ hd))

theorem keepsEscapes_octal {a b c : Char} (ha : a ≠ '\\') (hb : b ≠ '\\') (hc : c ≠ '\\')
    (h : Whole (String.singleton (octalChar a b c))) : KeepsEscapes ['\\', a, b, c] := by
  intro rest hrest x y z hwithin hx hy hz
  rcases List.infix_cons_iff.mp hwithin with hleading | hwithin
  · obtain ⟨-, hleading⟩ := List.cons_prefix_cons.mp hleading
    obtain ⟨hxa, hleading⟩ := List.cons_prefix_cons.mp hleading
    obtain ⟨hyb, hleading⟩ := List.cons_prefix_cons.mp hleading
    obtain ⟨hzc, -⟩ := List.cons_prefix_cons.mp hleading
    rw [hxa, hyb, hzc]
    exact h
  · have hplain : KeepsEscapes [a, b, c] := keepsEscapes_plain (by simp [ha, hb, hc])
    exact hplain rest hrest x y z hwithin hx hy hz

theorem keepsEscapes_escaped (v : String) : KeepsEscapes (escaped v).toList := by
  rw [escaped, String.toList_ofList]
  induction v.toList with
  | nil => exact fun rest h => h
  | cons c cs ih =>
    rw [List.flatMap_cons]
    refine KeepsEscapes.append ?_ ih
    unfold escapedChar
    split
    · exact keepsEscapes_octal (by decide) (by decide) (by decide) (by decide)
    · split
      · exact keepsEscapes_octal (by decide) (by decide) (by decide) (by decide)
      · split
        · exact keepsEscapes_octal (by decide) (by decide) (by decide) (by decide)
        · split
          · exact keepsEscapes_octal (by decide) (by decide) (by decide) (by decide)
          · next hback => exact keepsEscapes_cons hback

theorem keepsEscapes_join {fields : List String} (h : ∀ f ∈ fields, KeepsEscapes f.toList) :
    KeepsEscapes (Text.join ' ' fields).toList := by
  induction fields with
  | nil => exact fun rest hrest => hrest
  | cons f fields ih =>
    cases fields with
    | nil =>
      rw [Text.join_singleton]
      exact h f List.mem_cons_self
    | cons g fields =>
      rw [Text.toList_join_cons]
      exact (h f List.mem_cons_self).append ((keepsEscapes_cons (by decide)).append
        (ih fun f hf => h f (List.mem_cons_of_mem _ hf)))

/-- The digits and the optional fields have no backslash. -/
theorem IsWord.backslash_toString (n : Nat) : ∀ c ∈ (toString n).toList, c ≠ '\\' := by
  rintro c hc rfl
  rw [Nat.toString_eq_ofList_toDigits, String.toList_ofList] at hc
  exact absurd (Nat.isDigit_of_mem_toDigits (by decide) (by decide) hc) (by decide)

theorem keepsEscapes_line (m : Mount) : KeepsEscapes m.line.toList := by
  have hnumber : ∀ n : Nat, KeepsEscapes (toString n).toList := fun n => keepsEscapes_plain (IsWord.backslash_toString n)
  refine keepsEscapes_join fun f hf => ?_
  rcases List.mem_append.mp hf with hf | hf
  · rcases List.mem_append.mp hf with hf | hf
    · simp only [Mount.leading, List.mem_cons, List.not_mem_nil, or_false] at hf
      rcases hf with rfl | rfl | rfl | rfl | rfl | rfl
      · exact hnumber _
      · exact hnumber _
      · rw [String.toList_append, String.toList_append]
        exact ((hnumber _).append (keepsEscapes_plain (List.all_iff_forall_prop.mp (by decide)))).append (hnumber _)
      · exact keepsEscapes_escaped _
      · exact keepsEscapes_escaped _
      · exact keepsEscapes_escaped _
    · obtain ⟨o, -, rfl⟩ := List.mem_map.mp hf
      have htag : ∀ p ∈ ["shared:", "master:", "propagate_from:", "unbindable"], KeepsEscapes p.toList := by
        intro p hp
        have hall : ∀ p ∈ ["shared:", "master:", "propagate_from:", "unbindable"], p.toList.all (fun c => c != '\\') = true := by
          decide
        exact keepsEscapes_plain fun c hc => by simpa using List.all_eq_true.mp (hall p hp) c hc
      cases o with
      | shared n => exact String.toList_append ▸ (htag "shared:" (by decide)).append (hnumber n)
      | master n => exact String.toList_append ▸ (htag "master:" (by decide)).append (hnumber n)
      | propagateFrom n => exact String.toList_append ▸ (htag "propagate_from:" (by decide)).append (hnumber n)
      | unbindable => exact htag "unbindable" (by decide)
  · simp only [Mount.trailing, List.mem_cons, List.not_mem_nil, or_false] at hf
    rcases hf with rfl | rfl | rfl | rfl
    · exact keepsEscapes_plain (List.all_iff_forall_prop.mp (by decide))
    · exact keepsEscapes_plain fun c hc => (m.filesystemType_plain.2 c hc).2
    · exact keepsEscapes_escaped _
    · exact keepsEscapes_escaped _

theorem blankEscapes_mountinfo (mounts : List Mount) : BlankEscapes (mountinfo mounts).toList := by
  rw [mountinfo, String.toList_ofList]
  induction mounts with
  | nil => exact blankEscapes_nil
  | cons m mounts ih =>
    rw [List.flatMap_cons]
    exact ((keepsEscapes_line m).append (keepsEscapes_cons (by decide))) _ ih

/-- A decoded character is one of the text or the value of an escape in it. -/
theorem mem_decodeOctal {cs : List Char} {x : Char} (hx : x ∈ decodeOctal cs) :
    x ∈ cs ∨ ∃ a b c, ['\\', a, b, c] <:+: cs ∧ isOctal a = true ∧ isOctal b = true ∧ isOctal c = true ∧ x = octalChar a b c := by
  have hwiden : ∀ {y : Char} {l : List Char}, (x ∈ l ∨ ∃ a b c, ['\\', a, b, c] <:+: l ∧ isOctal a = true ∧ isOctal b = true ∧
      isOctal c = true ∧ x = octalChar a b c) → x ∈ y :: l ∨ ∃ a b c, ['\\', a, b, c] <:+: y :: l ∧ isOctal a = true ∧
      isOctal b = true ∧ isOctal c = true ∧ x = octalChar a b c := by
    intro y l h
    rcases h with h | ⟨a, b, c, hwithin, h⟩
    · exact .inl (List.mem_cons_of_mem _ h)
    · exact .inr ⟨a, b, c, hwithin.trans (List.suffix_cons y l).isInfix, h⟩
  induction cs using decodeOctal.induct with
  | case1 a b c cs hoctal ih =>
    rw [decodeOctal, if_pos hoctal] at hx
    rcases List.mem_cons.mp hx with rfl | hx
    · simp only [Bool.and_eq_true] at hoctal
      exact .inr ⟨a, b, c, List.IsPrefix.isInfix ⟨cs, rfl⟩, hoctal.1.1, hoctal.1.2, hoctal.2, rfl⟩
    · exact hwiden (hwiden (hwiden (hwiden (ih hx))))
  | case2 a b c cs hoctal ih =>
    rw [decodeOctal, if_neg hoctal] at hx
    rcases List.mem_cons.mp hx with rfl | hx
    · exact .inl List.mem_cons_self
    · exact hwiden (ih hx)
  | case3 c cs hother ih =>
    rw [decodeOctal.eq_2 c cs hother] at hx
    rcases List.mem_cons.mp hx with rfl | hx
    · exact .inl List.mem_cons_self
    · exact hwiden (ih hx)
  | case4 => cases hx

theorem decode_whole {line word : String} (hline : BlankEscapes line.toList) (hword : word.toList <:+: line.toList)
    (hplain : ∀ c ∈ word.toList, Text.isSpace c = false) : Whole (decodeMountinfoField word) := by
  intro x hx hspace
  rw [decodeMountinfoField, String.toList_ofList] at hx
  rcases mem_decodeOctal hx with hx | ⟨a, b, c, hwithin, ha, hb, hc, rfl⟩
  · rw [hplain x hx] at hspace
    cases hspace
  · exact hline a b c (hwithin.trans hword) ha hb hc _ (by simp) hspace

/-- No text that is read off a line has white space other than what the kernel escapes. -/
theorem parse_whole {line : String} (h : BlankEscapes line.toList) :
    Whole (parseMountinfoLine line).mountPoint ∧ Whole (parseMountinfoLine line).mountOptions ∧
      Whole (parseMountinfoLine line).source ∧ Whole (parseMountinfoLine line).superOptions := by
  have hempty : Whole "" := by decide
  unfold parseMountinfoLine
  split
  · exact ⟨hempty, hempty, hempty, hempty⟩
  · next before after hparted =>
    obtain ⟨hbefore, hafter⟩ := Text.partitionOn_parts hparted
    have hfirst : ∀ word ∈ Text.words before, Whole (decodeMountinfoField word) := fun word hword =>
      decode_whole h ((Text.words_parts hword).1.trans hbefore) (Text.words_parts hword).2
    have hsecond : ∀ word ∈ Text.words after, Whole (decodeMountinfoField word) := fun word hword =>
      decode_whole h ((Text.words_parts hword).1.trans hafter) (Text.words_parts hword).2
    have hoptional : ∀ words : List String, (∀ word ∈ words, Whole (decodeMountinfoField word)) →
        Whole ((words.head?.map decodeMountinfoField).getD "") := by
      intro words hwords
      cases words with
      | nil => exact hempty
      | cons word words => exact hwords word List.mem_cons_self
    unfold mountInfoOf
    split
    · next hwords hwords' =>
      rw [hwords] at hfirst
      rw [hwords'] at hsecond
      refine ⟨hfirst _ (by simp), hoptional _ fun word hword => hfirst word (by simp [hword]), hsecond _ (by simp),
        hoptional _ fun word hword => hsecond word (by simp [hword])⟩
    · exact ⟨hempty, hempty, hempty, hempty⟩

theorem mountinfoMounts_whole {text : String} (h : BlankEscapes text.toList) {r : MountInfo} (hr : r ∈ mountinfoMounts (some text)) :
    Whole r.mountPoint ∧ Whole r.mountOptions ∧ Whole r.source ∧ Whole r.superOptions := by
  obtain ⟨line, hline, rfl⟩ := List.mem_map.mp (List.mem_filter.mp hr).1
  obtain ⟨hpart, hbreaks⟩ := Text.splitlines_parts (Text.not_mem_universalNewlines text) hline
  refine parse_whole fun a b c hwithin => h a b c ?_
  refine Text.universalNewlines_infix (fun hfeed => ?_) (hwithin.trans hpart)
  exact absurd (hbreaks '\n' (hwithin.subset hfeed)) (by decide)

/-! ## The table -/

/-- With no other white space in it, a table is read line by line. -/
theorem mountinfoMounts_lines {mounts : List Mount} (h : ∀ m ∈ mounts, m.AllWhole) :
    mountinfoMounts (some (mountinfo mounts)) =
      (mounts.map fun m => parseMountinfoLine m.line).filter fun mount => mount.mountPoint ≠ "" := by
  have hbreaks : ∀ m ∈ mounts, ∀ c ∈ m.line.toList, Text.isLineBreak c = false := by
    intro m hm c hc
    rcases Text.mem_join hc with rfl | ⟨f, hf, hcf⟩
    · decide
    · refine Bool.eq_false_iff.mpr fun hbreak => ?_
      have hword : IsWord f := by
        rcases List.mem_append.mp hf with hf | hf
        · rcases List.mem_append.mp hf with hf | hf
          · exact isWord_leading (h m hm) f hf
          · obtain ⟨o, -, rfl⟩ := List.mem_map.mp hf
            exact isWord_optional o
        · rcases List.mem_cons.mp hf with rfl | hf
          · exact ⟨by decide, List.all_iff_forall_prop.mp (by decide)⟩
          · exact isWord_trailing (h m hm) f hf
      have := hword.2 c hcf
      rw [Text.isSpace_of_isLineBreak hbreak] at this
      cases this
  have htext : mountinfo mounts = String.ofList ((mounts.map Mount.line).flatMap fun line => line.toList ++ ['\n']) := by
    rw [mountinfo, List.flatMap_map]
  have hlines : ∀ line ∈ mounts.map Mount.line, ∀ c ∈ line.toList, Text.isLineBreak c = false := by
    intro line hline
    obtain ⟨m, hm, rfl⟩ := List.mem_map.mp hline
    exact hbreaks m hm
  have hreturn : '\r' ∉ (mountinfo mounts).toList := by
    rw [mountinfo, String.toList_ofList]
    intro hmem
    obtain ⟨m, hm, hc⟩ := List.mem_flatMap.mp hmem
    rcases List.mem_append.mp hc with hc | hc
    · exact absurd (hbreaks m hm _ hc) (by decide)
    · exact absurd hc (by decide)
  unfold mountinfoMounts
  dsimp only
  rw [Text.universalNewlines_of_not_mem hreturn, htext, Text.splitlines_lines hlines, List.map_map, Function.comp_def]

/-- A table is read back exactly when each of its mounts is readable. -/
theorem mountinfoMounts_iff (mounts : List Mount) :
    mountinfoMounts (some (mountinfo mounts)) = mounts.map Mount.info ↔ ∀ m ∈ mounts, m.Readable := by
  constructor
  · intro h m hm
    have hwhole : ∀ m ∈ mounts, m.AllWhole := by
      intro m hm
      have hmem : m.info ∈ mountinfoMounts (some (mountinfo mounts)) := h ▸ List.mem_map_of_mem hm
      obtain ⟨hpoint, hoptions, hsource, hsuper⟩ := mountinfoMounts_whole (blankEscapes_mountinfo mounts) hmem
      exact ⟨hpoint, hoptions, hsource, hsuper⟩
    have hdash : ¬ (m.mountPoint = "-" ∨ m.options = "-") := by
      intro hdash
      have hmem : m.info ∈ mountinfoMounts (some (mountinfo mounts)) := h ▸ List.mem_map_of_mem hm
      rw [mountinfoMounts_lines hwhole] at hmem
      obtain ⟨n, hn, hinfo⟩ := List.mem_map.mp (List.mem_filter.mp hmem).1
      by_cases hother : n.mountPoint = "-" ∨ n.options = "-"
      · have hoptions := parse_line_dash (hwhole n hn) hother
        rw [hinfo] at hoptions
        exact m.options_nonempty hoptions
      · obtain ⟨hpoint, hoptions⟩ := not_or.mp hother
        have hread := parse_line (m := n) ⟨⟨(hwhole n hn).mountPoint, hpoint⟩, ⟨(hwhole n hn).options, hoptions⟩,
          (hwhole n hn).source, (hwhole n hn).superOptions⟩
        rw [hinfo] at hread
        rcases hdash with hdash | hdash
        · exact hpoint ((congrArg MountInfo.mountPoint hread).symm.trans hdash)
        · exact hoptions ((congrArg MountInfo.mountOptions hread).symm.trans hdash)
    obtain ⟨hpoint, hoptions⟩ := not_or.mp hdash
    exact ⟨⟨(hwhole m hm).mountPoint, hpoint⟩, ⟨(hwhole m hm).options, hoptions⟩, (hwhole m hm).source, (hwhole m hm).superOptions⟩
  · intro h
    have hread : (mounts.map fun m => parseMountinfoLine m.line) = mounts.map Mount.info :=
      List.map_congr_left fun m hm => parse_line (h m hm)
    rw [mountinfoMounts_lines fun m hm => ⟨(h m hm).mountPoint.1, (h m hm).options.1, (h m hm).source, (h m hm).superOptions⟩,
      hread]
    refine List.filter_eq_self.mpr fun r hr => ?_
    obtain ⟨m, -, rfl⟩ := List.mem_map.mp hr
    exact decide_eq_true m.mountPoint_nonempty

/-- A mount below a directory whose name has a no-break space. -/
def brokenMount : Mount where
  id := 36
  parent := 25
  major := 0
  minor := 46
  root := "/"
  mountPoint := "/storages/lab\u00a01"
  options := "rw,relatime"
  optional := [.shared 1]
  filesystemType := "nfs4"
  source := "filer:/lab"
  superOptions := "rw"
  root_whole := by decide
  mountPoint_nonempty := by decide
  options_nonempty := by decide
  filesystemType_plain := ⟨by decide, List.all_iff_forall_prop.mp (by decide)⟩
  source_nonempty := by decide
  superOptions_nonempty := by decide

theorem brokenMount_misread : mountinfoMounts (some (mountinfo [brokenMount])) ≠ [brokenMount].map Mount.info := by
  intro h
  have hreadable := (mountinfoMounts_iff [brokenMount]).mp h brokenMount List.mem_cons_self
  exact absurd hreadable.mountPoint.1 (by decide)

end

end PveHelper.Storage
