import Uxsp.Js.Value

/-!
# What travels between the two SDKs

JSON from one language read in the other, and the strings that both have: text without lone
surrogates, and the hexadecimal digits of bytes.
-/

namespace Uxsp

/-! ## JSON -/

namespace JsRuntime

variable (R : JsRuntime)

mutual

/-- What `JSON.parse` makes of the text that `json.dumps` makes of a value; `json.dumps` writes an
infinity or a NaN as something that is not JSON. -/
def ofVal : Val → Option JsVal
  | .none => some .null
  | .bool b => some (.bool b)
  | .int n => some (.number (R.integer n))
  | .float (.finite q) => some (.number (.finite q))
  | .float (.inf _) | .float .nan => none
  | .str s => some (.string (JsStr.ofStr s))
  | .list xs => do return .array (← ofVals xs)
  | .dict items => do return .object (← ofItems items)

def ofVals : List Val → Option (List JsVal)
  | [] => some []
  | x :: xs => do return (← ofVal x) :: (← ofVals xs)

def ofItems : List (Str × Val) → Option JsObject
  | [] => some []
  | (key, v) :: items => do return (JsStr.ofStr key, ← ofVal v) :: (← ofItems items)

end

end JsRuntime

mutual

/-- What `json.loads` makes of the text that `JSON.stringify` makes of a value; a number below
`10 ^ 21` with no fraction is written with its digits. -/
def JsVal.toVal : JsVal → Val
  | .null => .none
  | .bool b => .bool b
  | .number (.finite q) => if q.den = 1 ∧ |q| < 10 ^ 21 then .int q.num else .float (.finite q)
  | .number (.inf _) | .number .nan => .none
  | .string s => .str s.codePoints
  | .array xs => .list (JsVal.toVals xs)
  | .object fields => .dict (JsVal.toItems fields)

def JsVal.toVals : List JsVal → List Val
  | [] => []
  | x :: xs => x.toVal :: JsVal.toVals xs

def JsVal.toItems : List (JsStr × JsVal) → Dict
  | [] => []
  | (key, v) :: fields => (key.codePoints, v.toVal) :: JsVal.toItems fields

end

/-! ## Text -/

namespace JsStr

variable {s : Str} {b : Bytes} {c : CodePoint}

@[simp] theorem ofStr_nil : ofStr [] = [] := rfl

theorem ofStr_cons (c : CodePoint) (s : Str) : ofStr (c :: s) = units c ++ ofStr s := rfl

theorem ofStr_append (s t : Str) : ofStr (s ++ t) = ofStr s ++ ofStr t := List.flatMap_append

theorem codePoints_cons_single {u : UInt16} (other : isHigh u = false) (s : JsStr) :
    codePoints (u :: s) = single u :: codePoints s := by
  cases s with
  | nil => rfl
  | cons v s => simp [codePoints, other]

/-- A unit that is no second half begins a code point. -/
theorem codePoints_append {u : UInt16} (solo : isLow u = false) (p t : JsStr) :
    codePoints (p ++ u :: t) = p.codePoints ++ codePoints (u :: t) := by
  fun_induction codePoints p with
  | case1 => rfl
  | case2 v =>
      rw [List.singleton_append, codePoints, solo, Bool.and_false]
      rfl
  | case3 v w s paired ih =>
      rw [List.cons_append, List.cons_append, codePoints, if_pos paired, ih]
      rfl
  | case4 v w s apart ih =>
      rw [List.cons_append, List.cons_append, codePoints, if_neg apart, ← List.cons_append, ih]
      rfl

/-- What is encoded behind a colon does not depend on what comes before. -/
theorem utf8_colon (p t : JsStr) :
    utf8 (p ++ ((":" : JsStr) ++ t)) = utf8 p ++ (utf8 (":" : JsStr) ++ utf8 t) := by
  have solo : isLow 58 = false := by decide
  have other : isHigh 58 = false := by decide
  have colon : (":" : JsStr) = [58] := by decide
  rw [colon, utf8, List.singleton_append, codePoints_append solo, codePoints_cons_single other,
    List.flatMap_append, List.flatMap_cons]
  rfl

theorem toNat_unit {n : ℕ} (small : n < 0x10000) : (UInt16.ofNat n).toNat = n :=
  Nat.mod_eq_of_lt small

/-- The code units of a code point that is no surrogate are read as it. -/
theorem codePoints_units (valid : c.val.isValidChar) (s : JsStr) :
    codePoints (units c ++ s) = c :: codePoints s := by
  have bound : c.val < 0x110000 := c.isLt
  unfold units
  split
  · rename_i small
    have val := toNat_unit small
    have other : isHigh (UInt16.ofNat c.val) = false := by
      unfold Nat.isValidChar at valid
      simp only [isHigh, Bool.and_eq_false_iff, decide_eq_false_iff_not, not_le, not_lt,
        UInt16.lt_iff_toNat_lt, UInt16.le_iff_toNat_le, val, UInt16.reduceToNat]
      omega
    rw [List.singleton_append, codePoints_cons_single other]
    exact congrArg (· :: codePoints s) (Fin.ext val)
  · rename_i large
    have first := toNat_unit (n := 0xD800 + (c.val - 0x10000) / 0x400) (by omega)
    have second := toNat_unit (n := 0xDC00 + (c.val - 0x10000) % 0x400) (by omega)
    have high : isHigh (UInt16.ofNat (0xD800 + (c.val - 0x10000) / 0x400)) = true := by
      simp only [isHigh, Bool.and_eq_true, decide_eq_true_eq, UInt16.lt_iff_toNat_lt,
        UInt16.le_iff_toNat_le, first, UInt16.reduceToNat]
      omega
    have low : isLow (UInt16.ofNat (0xDC00 + (c.val - 0x10000) % 0x400)) = true := by
      simp only [isLow, Bool.and_eq_true, decide_eq_true_eq, UInt16.lt_iff_toNat_lt,
        UInt16.le_iff_toNat_le, second, UInt16.reduceToNat]
      omega
    rw [List.cons_append, List.singleton_append, codePoints, high, low]
    refine congrArg (· :: codePoints s) (Fin.ext ?_)
    simp only [pair, first, second, Fin.val_ofNat]
    omega

theorem codePoints_ofStr_append (s : Str) (valid : ∀ c ∈ s, c.val.isValidChar) (t : JsStr) :
    codePoints (ofStr s ++ t) = s ++ codePoints t := by
  induction s with
  | nil => rfl
  | cons c s ih =>
      rw [ofStr_cons, List.append_assoc, codePoints_units (valid c List.mem_cons_self),
        ih fun d mem => valid d (List.mem_cons_of_mem c mem)]
      rfl

theorem mapM_toChar? {s : Str} {cs : List Char} (chars : s.mapM CodePoint.toChar? = some cs) :
    (∀ c ∈ s, c.val.isValidChar) ∧ s.map (fun c => c.toChar?.getD '\uFFFD') = cs := by
  induction s generalizing cs with
  | nil =>
      cases chars
      exact ⟨nofun, rfl⟩
  | cons c s ih =>
      simp only [List.mapM_cons, Option.bind_eq_bind, Option.bind_eq_some_iff, Option.pure_def,
        Option.some.injEq] at chars
      obtain ⟨ch, here, rest, chars, rfl⟩ := chars
      obtain ⟨valid, same⟩ := ih chars
      constructor
      · intro d mem
        rcases List.mem_cons.mp mem with rfl | later
        · rw [CodePoint.val_of_toChar? here]
          exact ch.valid
        · exact valid d later
      · rw [List.map_cons, here, same]
        rfl

/-- Text is read back as it was written. -/
theorem codePoints_ofStr (encoded : s.encode = some b) : codePoints (ofStr s) = s := by
  obtain ⟨cs, chars, _⟩ := Option.map_eq_some_iff.mp encoded
  have back := codePoints_ofStr_append s (mapM_toChar? chars).1 []
  rwa [List.append_nil, codePoints, List.append_nil] at back

/-- Both languages encode a text alike. -/
theorem utf8_ofStr (encoded : s.encode = some b) : utf8 (ofStr s) = b := by
  rw [utf8, codePoints_ofStr encoded]
  obtain ⟨cs, chars, rfl⟩ := Option.map_eq_some_iff.mp encoded
  rw [← (mapM_toChar? chars).2, List.flatMap_map]

theorem units_hexDigit : ∀ d : Fin 16, units (Str.hexDigit d) = [hexUnit d.val] := by
  decide

/-- `bytes.hex()` and `encodeHex` write the same digits. -/
theorem ofStr_hex (b : Bytes) : ofStr b.hex = ofBytes b := by
  induction b with
  | nil => rfl
  | cons x b ih =>
      have split : Bytes.hex (x :: b) = Str.hexDigit ⟨x.toNat / 16, by have := x.toNat_lt; omega⟩ ::
          Str.hexDigit ⟨x.toNat % 16, by omega⟩ :: Bytes.hex b := rfl
      rw [split, ofStr_cons, ofStr_cons, units_hexDigit, units_hexDigit, ih]
      rfl

theorem codePoints_ofBytes (b : Bytes) : codePoints (ofBytes b) = b.hex := by
  have ascii : ∀ c ∈ b.hex, c.val < 128 := by
    intro c mem
    obtain ⟨x, _, digit⟩ := List.mem_flatMap.mp mem
    have low : ∀ d : Fin 16, (Str.hexDigit d).val < 128 := by decide
    rcases List.mem_cons.mp digit with rfl | last
    · exact low _
    · rw [List.mem_singleton.mp last]
      exact low _
  obtain ⟨encoding, encoded⟩ := Str.exists_encode ascii
  rw [← ofStr_hex, codePoints_ofStr encoded]

end JsStr

end Uxsp
