import Mathlib

/-!
# Python strings and bytes

A Python `str` is a sequence of code points in which lone surrogates may occur, so it is not a
Lean `String`.  `Str` is that sequence; `Str.encode` is `str.encode()`, which refuses
surrogates; `Bytes.hex` and `Str.fromHex` are `bytes.hex()` and `bytes.fromhex()`; `Str.ofInt`
and `Str.toInt?` are `str(n)` and `int(s, base)`.

* `Str.encode_inj`: equal encodings come from equal strings.
* `Str.fromHex_hex`: decoding undoes encoding.
* `Str.toInt?_ofInt`: parsing undoes printing.
-/

namespace Uxsp

/-- `bytes`. -/
abbrev Bytes := List UInt8

/-- One element of a Python `str`; the surrogates `U+D800` to `U+DFFF` are included. -/
abbrev CodePoint := Fin 0x110000

/-- `str`. -/
abbrev Str := List CodePoint

instance : LawfulBEq Str := inferInstance

namespace CodePoint

instance : NeZero (0x110000 : ℕ) := ⟨by decide⟩

theorem byte_lt (x : UInt8) : x.toNat < 0x110000 := x.toNat_lt.trans (by decide)

def ofChar (c : Char) : CodePoint :=
  ⟨c.toNat, by
    have valid := c.valid
    simp only [UInt32.isValidChar, Nat.isValidChar] at valid
    show c.val.toNat < 0x110000
    omega⟩

/-- The scalar value a code point denotes; a lone surrogate denotes none. -/
def toChar? (c : CodePoint) : Option Char :=
  if valid : c.val.isValidChar then some (Char.ofNatAux c.val valid) else none

@[simp] theorem toChar?_ofChar (c : Char) : (ofChar c).toChar? = some c := by
  have valid : c.toNat.isValidChar := c.valid
  exact dif_pos valid

theorem val_of_toChar? {x : CodePoint} {c : Char} (h : x.toChar? = some c) :
    x.val = c.toNat := by
  unfold toChar? at h
  split at h
  · cases h
    rfl
  · cases h

theorem toChar?_inj {a b : CodePoint} {c : Char} (ha : a.toChar? = some c)
    (hb : b.toChar? = some c) : a = b :=
  Fin.ext ((val_of_toChar? ha).trans (val_of_toChar? hb).symm)

theorem ofChar_injective : Function.Injective ofChar := by
  intro a b h
  have := congrArg toChar? h
  simpa using this

end CodePoint

namespace Str

/-- The Python string a Lean literal denotes. -/
def ofString (s : String) : Str := s.toList.map CodePoint.ofChar

instance : Coe String Str := ⟨ofString⟩

@[simp] theorem ofString_inj {a b : String} : ofString a = ofString b ↔ a = b := by
  refine ⟨fun h => ?_, fun h => h ▸ rfl⟩
  exact String.toList_inj.mp (List.map_injective_iff.mpr CodePoint.ofChar_injective h)

/-! ## `str.encode()` -/

/-- `s.encode()`: UTF-8, or `none` where Python raises `UnicodeEncodeError`. -/
def encode (s : Str) : Option Bytes :=
  (s.mapM CodePoint.toChar?).map fun cs => cs.flatMap String.utf8EncodeChar

theorem utf8_injective {a b : List Char}
    (h : a.flatMap String.utf8EncodeChar = b.flatMap String.utf8EncodeChar) : a = b := by
  have encoded : a.utf8Encode = b.utf8Encode := by
    simp only [List.utf8Encode, h]
  have decoded := congrArg ByteArray.utf8Decode? encoded
  simp only [List.utf8Decode?_utf8Encode, Option.some.injEq] at decoded
  simpa using congrArg Array.toList decoded

end Str

/-- A bytes literal `b"..."`. -/
def Bytes.lit (s : String) : Bytes := s.toList.flatMap String.utf8EncodeChar

namespace Str

theorem lit_inj {a b : String} : Bytes.lit a = Bytes.lit b ↔ a = b := by
  refine ⟨fun h => ?_, fun h => h ▸ rfl⟩
  exact String.toList_inj.mp (utf8_injective h)

theorem mapM_toChar?_inj : ∀ {s t : Str} {cs : List Char},
    s.mapM CodePoint.toChar? = some cs → t.mapM CodePoint.toChar? = some cs → s = t
  | [], [], _, _, _ => rfl
  | [], _ :: _, cs, hs, ht => by
      simp only [List.mapM_nil, Option.pure_def, Option.some.injEq] at hs
      subst hs
      simp [List.mapM_cons, Option.bind_eq_some_iff] at ht
  | _ :: _, [], cs, hs, ht => by
      simp only [List.mapM_nil, Option.pure_def, Option.some.injEq] at ht
      subst ht
      simp [List.mapM_cons, Option.bind_eq_some_iff] at hs
  | x :: s, y :: t, cs, hs, ht => by
      simp only [List.mapM_cons, Option.bind_eq_bind, Option.bind_eq_some_iff,
        Option.pure_def, Option.some.injEq] at hs ht
      obtain ⟨c, hx, rest, hrest, rfl⟩ := hs
      obtain ⟨c', hy, rest', hrest', cons⟩ := ht
      obtain ⟨rfl, rfl⟩ := List.cons.inj cons
      rw [CodePoint.toChar?_inj hx hy, mapM_toChar?_inj hrest hrest']

/-- Equal encodings come from equal strings. -/
theorem encode_inj {s t : Str} {b : Bytes} (hs : s.encode = some b) (ht : t.encode = some b) :
    s = t := by
  simp only [encode, Option.map_eq_some_iff] at hs ht
  obtain ⟨cs, hcs, rfl⟩ := hs
  obtain ⟨ds, hds, same⟩ := ht
  rw [utf8_injective same] at hds
  exact mapM_toChar?_inj hcs hds

theorem mapM_toChar?_ofString (s : String) :
    (ofString s).mapM CodePoint.toChar? = some s.toList := by
  unfold ofString
  induction s.toList with
  | nil => rfl
  | cons c cs ih => rw [List.map_cons, List.mapM_cons, ih, CodePoint.toChar?_ofChar]; rfl

@[simp] theorem encode_ofString (s : String) :
    encode (ofString s) = some (Bytes.lit s) := by
  rw [encode, mapM_toChar?_ofString]
  rfl

/-- ASCII strings have an encoding. -/
theorem exists_encode {s : Str} (ascii : ∀ c ∈ s, c.val < 128) : ∃ b, s.encode = some b := by
  have chars : ∃ cs, s.mapM CodePoint.toChar? = some cs := by
    induction s with
    | nil => exact ⟨[], rfl⟩
    | cons c s ih =>
        obtain ⟨cs, rest⟩ := ih fun d hd => ascii d (List.mem_cons_of_mem c hd)
        have low := ascii c List.mem_cons_self
        have valid : c.val.isValidChar := Or.inl (low.trans (by decide))
        refine ⟨Char.ofNatAux c.val valid :: cs, ?_⟩
        rw [List.mapM_cons, rest, CodePoint.toChar?, dif_pos valid]
        rfl
  obtain ⟨cs, chars⟩ := chars
  exact ⟨_, by rw [encode, chars]; rfl⟩

theorem encode_append (s t : Str) :
    encode (s ++ t) = (encode s).bind fun a => (encode t).map fun b => a ++ b := by
  unfold encode
  rw [List.mapM_append]
  cases s.mapM CodePoint.toChar? with
  | none => rfl
  | some cs =>
      cases t.mapM CodePoint.toChar? with
      | none => rfl
      | some ds => simp

/-- UTF-8 takes at most four bytes a code point. -/
theorem length_encode {s : Str} {b : Bytes} (encoded : s.encode = some b) :
    b.length ≤ 4 * s.length := by
  simp only [encode, Option.map_eq_some_iff] at encoded
  rcases encoded with ⟨cs, chars, rfl⟩
  have size : cs.length = s.length := by
    induction s generalizing cs with
    | nil =>
        simp only [List.mapM_nil, Option.pure_def, Option.some.injEq] at chars
        subst chars
        rfl
    | cons c s ih =>
        simp only [List.mapM_cons, Option.bind_eq_bind, Option.bind_eq_some_iff,
          Option.pure_def, Option.some.injEq] at chars
        rcases chars with ⟨_, -, rest, hrest, rfl⟩
        rw [List.length_cons, List.length_cons, ih rest hrest]
  rw [← size]
  clear * -
  induction cs with
  | nil => exact Nat.zero_le _
  | cons c cs ih =>
      have wide : (String.utf8EncodeChar c).length ≤ 4 := by
        rw [String.length_utf8EncodeChar]
        exact Char.utf8Size_le_four c
      rw [List.flatMap_cons, List.length_append, List.length_cons]
      omega

/-! ## `str(n)` and `int(s, base)` -/

/-- `str(n)` of an `int`. -/
def ofInt (n : ℤ) : Str := ofString (Int.repr n)

@[simp] theorem ofInt_inj {m n : ℤ} : ofInt m = ofInt n ↔ m = n := by
  simp only [ofInt, ofString_inj, Int.repr_inj]

@[simp] theorem encode_ofInt (n : ℤ) : encode (ofInt n) = some (Bytes.lit (Int.repr n)) :=
  encode_ofString _

/-- A printed integer starts with a digit or a minus sign. -/
theorem ofString_ne_ofInt {s : String} {c : Char} {n : ℤ} (head : s.toList.head? = some c)
    (letter : c.isDigit = false) (plain : c ≠ '-') : ofString s ≠ ofInt n := by
  intro same
  rw [ofInt, ofString_inj] at same
  subst same
  rw [Int.repr_eq_if] at head
  split at head
  · rw [Nat.toList_repr] at head
    have digit : c.isDigit := Nat.isDigit_of_mem_toDigits (by decide) (by decide)
      (List.mem_of_mem_head? head)
    rw [letter] at digit
    cases digit
  · rw [String.toList_append] at head
    exact plain (Option.some.inj head).symm

/-- `c.isspace()`. -/
def isSpace (c : CodePoint) : Bool :=
  (9 ≤ c.val && c.val ≤ 13) || (28 ≤ c.val && c.val ≤ 32) || c.val == 0x85 || c.val == 0xA0 ||
    c.val == 0x1680 || (0x2000 ≤ c.val && c.val ≤ 0x200A) || c.val == 0x2028 ||
    c.val == 0x2029 || c.val == 0x202F || c.val == 0x205F || c.val == 0x3000

/-- The whitespace `int()` and `bytes.fromhex()` skip. -/
def isAsciiSpace (c : CodePoint) : Bool := (9 ≤ c.val && c.val ≤ 13) || c.val == 32

/-- The value of an ASCII digit or letter. -/
def digitVal (c : CodePoint) : Option ℕ :=
  if 48 ≤ c.val ∧ c.val ≤ 57 then some (c.val - 48)
  else if 97 ≤ c.val ∧ c.val ≤ 122 then some (c.val - 87)
  else if 65 ≤ c.val ∧ c.val ≤ 90 then some (c.val - 55)
  else none

/-- What `int()` reads in place of a character: spaces and decimal digits outside ASCII become
ASCII ones.  `decimal` is the Unicode table of the digits. -/
def toAscii (decimal : CodePoint → Option (Fin 10)) (c : CodePoint) : CodePoint :=
  if c.val < 127 then c
  else if isSpace c then CodePoint.ofChar ' '
  else match decimal c with
    | some d => ⟨48 + d.val, by omega⟩
    | none => CodePoint.ofChar '?'

/-- Digits of the base, single underscores allowed between two of them.  `blank` holds where an
underscore may not stand: at the start and right after another one. -/
def digits (base : ℕ) : ℕ → Bool → Str → Option ℕ
  | acc, blank, [] => if blank then none else some acc
  | acc, blank, c :: cs =>
      if c = CodePoint.ofChar '_' then
        if blank then none else digits base acc true cs
      else match digitVal c with
        | some d => if d < base then digits base (acc * base + d) false cs else none
        | none => none

/-- An optional sign. -/
def sign : Str → Bool × Str
  | [] => (false, [])
  | c :: cs =>
      if c = CodePoint.ofChar '-' then (true, cs)
      else if c = CodePoint.ofChar '+' then (false, cs)
      else (false, c :: cs)

/-- The prefix `0x`, with the underscore that may follow it. -/
def dropHexPrefix (s : Str) : Str :=
  if s.take 2 = ofString "0x" ∨ s.take 2 = ofString "0X" then
    if s[2]? = some (CodePoint.ofChar '_') then s.drop 3 else s.drop 2
  else s

/-- The longest decimal literal `int()` reads and `str()` prints. -/
def maxStrDigits : ℕ := 4300

/-- `str(n)` raises `ValueError` on integers with more digits. -/
def printable (n : ℤ) : Bool := (Nat.toDigits 10 n.natAbs).length ≤ maxStrDigits

theorem printable_of_lt {n k : ℕ} (small : n < 10 ^ k) (pos : 0 < k) (digits : k ≤ 4300) :
    printable n := by
  have few := (Nat.length_toDigits_le_iff (by decide) pos).mpr small
  exact decide_eq_true (few.trans digits)

theorem printable_natCast {n : ℕ} : printable n ↔ n < 10 ^ maxStrDigits := by
  rw [printable, decide_eq_true_eq, Int.natAbs_natCast]
  exact Nat.length_toDigits_le_iff (by decide) (by decide)

/-- Below a printable number all numbers print. -/
theorem printable_of_le {m n : ℕ} (le : m ≤ n) (h : printable n) : printable m :=
  printable_natCast.mpr (le.trans_lt (printable_natCast.mp h))

/-- `int(s, base)` for base 10 and base 16; `none` is `ValueError`. -/
def toInt? (decimal : CodePoint → Option (Fin 10)) (base : ℕ) (s : Str) : Option ℤ :=
  let t := (((s.map (toAscii decimal)).dropWhile isAsciiSpace).reverse.dropWhile
    isAsciiSpace).reverse
  let (negative, t) := sign t
  let t := if base = 16 then dropHexPrefix t else t
  if base = 10 ∧ maxStrDigits < (t.filter fun c => c ≠ CodePoint.ofChar '_').length then none
  else (digits base 0 true t).map fun n : ℕ => if negative then -(n : ℤ) else n

theorem length_ofInt {n : ℤ} (short : printable n) : (ofInt n).length ≤ 4301 := by
  have few : (Nat.toDigits 10 n.natAbs).length ≤ 4300 := of_decide_eq_true short
  rw [ofInt, ofString, List.length_map, Int.repr_eq_if]
  split
  · rw [Nat.toList_repr]
    have same : n.toNat = n.natAbs := by omega
    rw [same]
    omega
  · rw [String.toList_append, Nat.toList_repr, List.length_append]
    have same : (-n).toNat = n.natAbs := by omega
    have sign : "-".toList.length = 1 := rfl
    rw [same, sign]
    omega

theorem digitVal_ofChar_of_isDigit {c : Char} (h : c.isDigit) :
    digitVal (CodePoint.ofChar c) = some (c.toNat - 48) := by
  have range : 48 ≤ c.toNat ∧ c.toNat ≤ 57 := Char.isDigit_iff_toNat.mp h
  exact if_pos range

theorem ofChar_ne_underscore {c : Char} (h : c.isDigit) :
    CodePoint.ofChar c ≠ CodePoint.ofChar '_' := by
  intro same
  rw [CodePoint.ofChar_injective same] at h
  cases h

theorem digits_ofDigitChars {cs : List Char} (all : ∀ c ∈ cs, c.isDigit) (acc : ℕ)
    {blank : Bool} (start : blank = true → cs ≠ []) :
    digits 10 acc blank (cs.map CodePoint.ofChar) = some (Nat.ofDigitChars 10 cs acc) := by
  induction cs generalizing acc blank with
  | nil =>
      cases blank with
      | true => exact absurd rfl (start rfl)
      | false => rfl
  | cons c cs ih =>
      have digit := all c List.mem_cons_self
      have range : 48 ≤ c.toNat ∧ c.toNat ≤ 57 := Char.isDigit_iff_toNat.mp digit
      simp only [List.map_cons, digits, if_neg (ofChar_ne_underscore digit),
        digitVal_ofChar_of_isDigit digit]
      rw [if_pos (by omega), ih (fun d hd => all d (List.mem_cons_of_mem c hd)) _ (by simp),
        Nat.ofDigitChars_cons, Nat.mul_comm]
      rfl

/-- Nothing is stripped from characters none of which is a space. -/
theorem strip_eq {s : Str} (h : ∀ c ∈ s, isAsciiSpace c = false) :
    ((s.dropWhile isAsciiSpace).reverse.dropWhile isAsciiSpace).reverse = s := by
  have keep : ∀ {t : Str}, (∀ c ∈ t, isAsciiSpace c = false) →
      t.dropWhile isAsciiSpace = t := by
    intro t ht
    cases t with
    | nil => rfl
    | cons c t => rw [List.dropWhile_cons, ht c List.mem_cons_self]; rfl
  rw [keep h, keep (fun c hc => h c (List.mem_reverse.mp hc)), List.reverse_reverse]

theorem digit_plain {c : Char} (h : c.isDigit) :
    c.toNat < 127 ∧ isAsciiSpace (CodePoint.ofChar c) = false := by
  have range : 48 ≤ c.toNat ∧ c.toNat ≤ 57 := Char.isDigit_iff_toNat.mp h
  refine ⟨by omega, ?_⟩
  have low : (CodePoint.ofChar c).val = c.toNat := rfl
  simp only [isAsciiSpace, low, Bool.or_eq_false_iff, Bool.and_eq_false_iff,
    decide_eq_false_iff_not, beq_eq_false_iff_ne]
  omega

theorem isDigit_of_mem_toDigits {k : ℕ} {c : Char} (mem : c ∈ Nat.toDigits 10 k) : c.isDigit :=
  Nat.isDigit_of_mem_toDigits (by decide) (by decide) mem

theorem digits_toDigits (k : ℕ) :
    digits 10 0 true ((Nat.toDigits 10 k).map CodePoint.ofChar) = some k := by
  rw [digits_ofDigitChars (fun _ => isDigit_of_mem_toDigits) 0 (fun _ => Nat.toDigits_ne_nil),
    Nat.ofDigitChars_ten_toDigits]

/-- The characters of a printed integer. -/
theorem ofInt_eq (n : ℤ) : ofInt n =
    ((if n < 0 then ['-'] else []) ++ Nat.toDigits 10 n.natAbs).map CodePoint.ofChar := by
  rw [ofInt, ofString, Int.repr_eq_if]
  split
  · rename_i nonneg
    have same : n.toNat = n.natAbs := by omega
    rw [if_neg (not_lt.mpr nonneg), Nat.toList_repr, same, List.nil_append]
  · rename_i negative
    have same : (-n).toNat = n.natAbs := by omega
    rw [if_pos (not_le.mp negative), String.toList_append, Nat.toList_repr, same]
    rfl

/-- The sign of a printed integer, and its digits. -/
theorem sign_ofInt (n : ℤ) :
    sign (ofInt n) = (decide (n < 0), (Nat.toDigits 10 n.natAbs).map CodePoint.ofChar) := by
  rw [ofInt_eq]
  by_cases negative : n < 0
  · rw [if_pos negative, decide_eq_true negative]
    rfl
  · rw [if_neg negative, decide_eq_false negative, List.nil_append]
    cases digs : Nat.toDigits 10 n.natAbs with
    | nil => rfl
    | cons c cs =>
        have digit : c.isDigit := isDigit_of_mem_toDigits (digs ▸ List.mem_cons_self)
        have ne : ∀ d : Char, d.isDigit = false → CodePoint.ofChar c ≠ CodePoint.ofChar d := by
          intro d hd same
          rw [CodePoint.ofChar_injective same, hd] at digit
          cases digit
        simp only [List.map_cons, sign, if_neg (ne '-' rfl), if_neg (ne '+' rfl)]

/-- No character of a printed integer is a space, and all are ASCII. -/
theorem plain_of_mem_ofInt {n : ℤ} {c : CodePoint} (mem : c ∈ ofInt n) :
    c.val < 127 ∧ isAsciiSpace c = false := by
  rw [ofInt_eq] at mem
  obtain ⟨d, found, rfl⟩ := List.mem_map.mp mem
  obtain minus | digit := List.mem_append.mp found
  · have same : d = '-' := by
      split at minus
      · exact List.mem_singleton.mp minus
      · cases minus
    rw [same]
    decide
  · exact digit_plain (isDigit_of_mem_toDigits digit)

/-- Reading back a printed integer gives that integer or, past `maxStrDigits`, nothing. -/
theorem toInt?_ofInt {decimal : CodePoint → Option (Fin 10)} {n m : ℤ}
    (h : toInt? decimal 10 (ofInt n) = some m) : m = n := by
  have ascii : (ofInt n).map (toAscii decimal) = ofInt n := by
    have same : ∀ c ∈ ofInt n, toAscii decimal c = c := fun c mem =>
      if_pos (plain_of_mem_ofInt mem).1
    exact (List.map_congr_left same).trans (List.map_id _)
  rw [toInt?, ascii, strip_eq fun c mem => (plain_of_mem_ofInt mem).2, sign_ofInt] at h
  simp only [Nat.reduceEqDiff, if_false, digits_toDigits] at h
  split at h
  · cases h
  · simp only [Option.map_some, Option.some.injEq, decide_eq_true_eq] at h
    omega

/-! ## `bytes.hex()` and `bytes.fromhex()` -/

/-- The lower-case hexadecimal digit of a value. -/
def hexDigit (d : Fin 16) : CodePoint :=
  if d.val < 10 then ⟨48 + d.val, by omega⟩ else ⟨87 + d.val, by omega⟩

/-- `bytes.fromhex(s)`; `none` is `ValueError`. -/
def fromHex : Str → Option Bytes
  | [] => some []
  | [c] => if isAsciiSpace c then some [] else none
  | c :: d :: cs =>
      if isAsciiSpace c then fromHex (d :: cs)
      else match digitVal c, digitVal d with
        | some h, some l =>
            if h < 16 ∧ l < 16 then (fromHex cs).map (UInt8.ofNat (16 * h + l) :: ·) else none
        | _, _ => none

end Str

/-- `b.hex()`. -/
def Bytes.hex (b : Bytes) : Str :=
  b.flatMap fun x =>
    [Str.hexDigit ⟨x.toNat / 16, by have := x.toNat_lt; omega⟩,
      Str.hexDigit ⟨x.toNat % 16, by omega⟩]

theorem Bytes.length_hex (b : Bytes) : b.hex.length = 2 * b.length := by
  simp [Bytes.hex, List.length_flatMap, Nat.mul_comm]

namespace Str

theorem digitVal_hexDigit (d : Fin 16) :
    digitVal (hexDigit d) = some d.val ∧ isAsciiSpace (hexDigit d) = false := by
  decide +revert

/-- Decoding undoes encoding. -/
@[simp] theorem fromHex_hex (b : Bytes) : fromHex b.hex = some b := by
  induction b with
  | nil => rfl
  | cons x b ih =>
      have hx := x.toNat_lt
      have digits : x.toNat / 16 < 16 ∧ x.toNat % 16 < 16 := by omega
      have high := digitVal_hexDigit ⟨x.toNat / 16, digits.1⟩
      have low := digitVal_hexDigit ⟨x.toNat % 16, digits.2⟩
      have join : 16 * (x.toNat / 16) + x.toNat % 16 = x.toNat := by omega
      have unfolded : Bytes.hex (x :: b) = hexDigit ⟨x.toNat / 16, digits.1⟩ ::
          hexDigit ⟨x.toNat % 16, digits.2⟩ :: Bytes.hex b := rfl
      rw [unfolded, fromHex, high.2, high.1, low.1]
      simp only [Bool.false_eq_true, if_false, if_pos digits, ih, Option.map_some, join,
        UInt8.ofNat_toNat]

theorem hex_inj {a b : Bytes} : a.hex = b.hex ↔ a = b := by
  refine ⟨fun h => ?_, fun h => h ▸ rfl⟩
  have := congrArg fromHex h
  simpa using this

end Str

end Uxsp
