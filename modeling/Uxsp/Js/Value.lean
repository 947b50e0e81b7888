import Uxsp.Python.Value

/-!
# JavaScript values

What the JavaScript SDK works with: strings of UTF-16 code units, the values that `JSON.parse`
makes, and exceptions.  `JsRuntime` is what the interpreter prints and reads of numbers.
-/

namespace Uxsp

/-! ## Strings -/

/-- A string: its UTF-16 code units. -/
abbrev JsStr := List UInt16

namespace JsStr

def isHigh (u : UInt16) : Bool := 0xD800 ≤ u && u < 0xDC00

def isLow (u : UInt16) : Bool := 0xDC00 ≤ u && u < 0xE000

/-- The code units of a code point. -/
def units (c : CodePoint) : JsStr :=
  if c.val < 0x10000 then [UInt16.ofNat c.val]
  else [UInt16.ofNat (0xD800 + (c.val - 0x10000) / 0x400),
    UInt16.ofNat (0xDC00 + (c.val - 0x10000) % 0x400)]

def ofStr (s : Str) : JsStr := s.flatMap units

def ofString (s : String) : JsStr := ofStr (Str.ofString s)

instance : Coe String JsStr := ⟨ofString⟩

/-- A code unit that is no half of a pair. -/
def single (u : UInt16) : CodePoint := ⟨u.toNat, u.toNat_lt.trans (by decide)⟩

/-- The code point of a surrogate pair. -/
def pair (u v : UInt16) : CodePoint :=
  Fin.ofNat 0x110000 (0x10000 + (u.toNat - 0xD800) * 0x400 + (v.toNat - 0xDC00))

/-- The code points of a string; a surrogate without its other half is one of its own. -/
def codePoints : JsStr → Str
  | [] => []
  | [u] => [single u]
  | u :: v :: s =>
      if isHigh u && isLow v then pair u v :: codePoints s else single u :: codePoints (v :: s)

/-- `encodeUTF8(s)`: a lone surrogate is replaced. -/
def utf8 (s : JsStr) : Bytes :=
  s.codePoints.flatMap fun c => String.utf8EncodeChar (c.toChar?.getD '\uFFFD')

/-- `ss.join(sep)`. -/
def join (sep : JsStr) (ss : List JsStr) : JsStr := List.intercalate sep ss

/-- The white space that `parseInt` leaves out. -/
def isSpace (u : UInt16) : Bool :=
  let n := u.toNat
  (9 ≤ n && n ≤ 13) || n == 32 || n == 0xA0 || n == 0x1680 || (0x2000 ≤ n && n ≤ 0x200A) ||
    n == 0x2028 || n == 0x2029 || n == 0x202F || n == 0x205F || n == 0x3000 || n == 0xFEFF

/-- The value of a hexadecimal digit. -/
def hexDigit? (u : UInt16) : Option ℕ :=
  let n := u.toNat
  if 48 ≤ n ∧ n ≤ 57 then some (n - 48)
  else if 97 ≤ n ∧ n ≤ 102 then some (n - 87)
  else if 65 ≤ n ∧ n ≤ 70 then some (n - 55)
  else none

/-- A sign, and what is behind it. -/
def sign : JsStr → Bool × JsStr
  | 45 :: s => (true, s)
  | 43 :: s => (false, s)
  | s => (false, s)

/-- Leave out `0x`. -/
def dropHexPrefix : JsStr → JsStr
  | 48 :: 120 :: s => s
  | 48 :: 88 :: s => s
  | s => s

/-- `parseInt(s, 16)`: the digits it begins with; `none` is `NaN`. -/
def parseHex (s : JsStr) : Option ℤ :=
  let (negative, s) := sign (s.dropWhile isSpace)
  match ((dropHexPrefix s).takeWhile fun u => (hexDigit? u).isSome).filterMap hexDigit? with
  | [] => none
  | ds =>
      let n : ℤ := ds.foldl (fun n d => 16 * n + d) 0
      some (if negative then -n else n)

/-- What a `Uint8Array` keeps of a number. -/
def toUint8 (n : Option ℤ) : UInt8 := UInt8.ofNat ((n.getD 0) % 256).toNat

/-- The bytes that the pairs of a string are read as. -/
def hexPairs : JsStr → Bytes
  | u :: v :: s => toUint8 (parseHex [u, v]) :: hexPairs s
  | _ => []

/-- The digit of a value below 16, in lower case. -/
def hexUnit (n : ℕ) : UInt16 := if n < 10 then UInt16.ofNat (48 + n) else UInt16.ofNat (87 + n)

/-- `encodeHex(b)`. -/
def ofBytes (b : Bytes) : JsStr :=
  b.flatMap fun x => [hexUnit (x.toNat / 16), hexUnit (x.toNat % 16)]

theorem toUint8_hexUnits : ∀ n : Fin 256,
    toUint8 (parseHex [hexUnit (n.val / 16), hexUnit (n.val % 16)]) = UInt8.ofNat n.val := by
  decide +kernel

/-- Decoding undoes `encodeHex`. -/
theorem hexPairs_ofBytes (b : Bytes) : hexPairs (ofBytes b) = b := by
  induction b with
  | nil => rfl
  | cons x b ih =>
      have here := toUint8_hexUnits ⟨x.toNat, x.toNat_lt⟩
      rw [UInt8.ofNat_toNat] at here
      show toUint8 (parseHex [hexUnit (x.toNat / 16), hexUnit (x.toNat % 16)]) ::
        hexPairs (ofBytes b) = x :: b
      rw [here, ih]

theorem length_ofBytes (b : Bytes) : (ofBytes b).length = 2 * b.length := by
  induction b with
  | nil => rfl
  | cons x b ih =>
      rw [ofBytes, List.flatMap_cons, List.length_append, ← ofBytes, ih, List.length_cons]
      simp only [List.length_cons, List.length_nil]
      omega

/-- The value of a base64 digit. -/
def base64Digit? (u : UInt16) : Option ℕ :=
  let n := u.toNat
  if 65 ≤ n ∧ n ≤ 90 then some (n - 65)
  else if 97 ≤ n ∧ n ≤ 122 then some (n - 71)
  else if 48 ≤ n ∧ n ≤ 57 then some (n + 4)
  else if n = 43 then some 62
  else if n = 47 then some 63
  else none

/-- The digit of a value below 64. -/
def base64Unit (n : ℕ) : UInt16 :=
  if n < 26 then UInt16.ofNat (65 + n)
  else if n < 52 then UInt16.ofNat (71 + n)
  else if n < 62 then UInt16.ofNat (n - 4)
  else if n = 62 then 43
  else 47

/-- `encodeBase64(b)`. -/
def encodeBase64 : Bytes → JsStr
  | [] => []
  | [x] => [base64Unit (x.toNat / 4), base64Unit (x.toNat % 4 * 16), 61, 61]
  | [x, y] => [base64Unit (x.toNat / 4), base64Unit (x.toNat % 4 * 16 + y.toNat / 16),
      base64Unit (y.toNat % 16 * 4), 61]
  | x :: y :: z :: b =>
      base64Unit (x.toNat / 4) :: base64Unit (x.toNat % 4 * 16 + y.toNat / 16) ::
        base64Unit (y.toNat % 16 * 4 + z.toNat / 64) :: base64Unit (z.toNat % 64) :: encodeBase64 b

/-- The bytes of base64 digits; a last group of two or three has one or two. -/
def base64Bytes : List ℕ → Option Bytes
  | [] => some []
  | [_] => none
  | [i, j] => some [UInt8.ofNat (i * 4 + j / 16)]
  | [i, j, k] => some [UInt8.ofNat (i * 4 + j / 16), UInt8.ofNat (j % 16 * 16 + k / 4)]
  | i :: j :: k :: l :: ds => do
      let b ← base64Bytes ds
      return UInt8.ofNat (i * 4 + j / 16) :: UInt8.ofNat (j % 16 * 16 + k / 4) ::
        UInt8.ofNat (k % 4 * 64 + l) :: b

/-- Leave out the padding: one or two `=` at the end of a string of whole groups. -/
def unpadded (s : JsStr) : JsStr :=
  if s.length % 4 = 0 then
    match s.reverse with
    | 61 :: 61 :: t => t.reverse
    | 61 :: t => t.reverse
    | _ => s
  else s

/-- What `atob` reads, white space left out; `none` where it throws. -/
def base64? (s : JsStr) : Option Bytes := do
  let digits ← (unpadded (s.filter fun u => !([9, 10, 12, 13, 32] : JsStr).contains u)).mapM
    base64Digit?
  base64Bytes digits

/-- The base64 digits of bytes. -/
def base64Digits : Bytes → List ℕ
  | [] => []
  | [x] => [x.toNat / 4, x.toNat % 4 * 16]
  | [x, y] => [x.toNat / 4, x.toNat % 4 * 16 + y.toNat / 16, y.toNat % 16 * 4]
  | x :: y :: z :: b =>
      x.toNat / 4 :: (x.toNat % 4 * 16 + y.toNat / 16) :: (y.toNat % 16 * 4 + z.toNat / 64) ::
        z.toNat % 64 :: base64Digits b

theorem base64Digit?_base64Unit : ∀ n : Fin 64, base64Digit? (base64Unit n) = some n.val := by
  decide

theorem base64Unit_plain : ∀ n : Fin 64, base64Unit n ≠ 61 ∧
    ([9, 10, 12, 13, 32] : JsStr).contains (base64Unit n) = false := by
  decide

theorem base64Digits_lt (b : Bytes) : ∀ n ∈ base64Digits b, n < 64 := by
  induction b using base64Digits.induct with
  | case1 => exact nofun
  | case2 x =>
      have := x.toNat_lt
      simp only [base64Digits, List.mem_cons, List.not_mem_nil, or_false]
      omega
  | case3 x y =>
      have := x.toNat_lt
      have := y.toNat_lt
      simp only [base64Digits, List.mem_cons, List.not_mem_nil, or_false]
      omega
  | case4 x y z b ih =>
      have := x.toNat_lt
      have := y.toNat_lt
      have := z.toNat_lt
      intro n mem
      simp only [base64Digits, List.mem_cons] at mem
      rcases mem with rfl | rfl | rfl | rfl | later
      · omega
      · omega
      · omega
      · omega
      · exact ih n later

/-- Digits, and the padding of the last group. -/
theorem encodeBase64_eq (b : Bytes) : ∃ k < 3, ((base64Digits b).length + k) % 4 = 0 ∧
    encodeBase64 b = (base64Digits b).map base64Unit ++ List.replicate k 61 := by
  induction b using base64Digits.induct with
  | case1 => exact ⟨0, by omega, rfl, rfl⟩
  | case2 x => exact ⟨2, by omega, by simp [base64Digits], rfl⟩
  | case3 x y => exact ⟨1, by omega, by simp [base64Digits], rfl⟩
  | case4 x y z b ih =>
      obtain ⟨k, few, whole, same⟩ := ih
      refine ⟨k, few, ?_, ?_⟩
      · simp only [base64Digits, List.length_cons]
        omega
      · rw [encodeBase64, same]
        rfl

/-- The padding is left out, where the rest does not end in a padding character. -/
theorem unpadded_append {s : JsStr} {k : ℕ} (few : k < 3) (whole : (s.length + k) % 4 = 0)
    (plain : ∀ u ∈ s, u ≠ 61) : unpadded (s ++ List.replicate k 61) = s := by
  have length : (s ++ List.replicate k 61).length % 4 = 0 := by
    rw [List.length_append, List.length_replicate, whole]
  have last : ∀ u t, s.reverse = u :: t → u ≠ 61 := fun u t split =>
    plain u (List.mem_reverse.mp (split ▸ List.mem_cons_self))
  rw [unpadded, if_pos length, List.reverse_append, List.reverse_replicate]
  match k with
  | 0 =>
      rw [List.replicate_zero, List.nil_append, List.append_nil]
      split
      · rename_i t split
        exact absurd rfl (last _ _ split)
      · rename_i t _ split
        exact absurd rfl (last _ _ split)
      · rfl
  | 1 =>
      rw [List.replicate_one, List.singleton_append]
      split
      · rename_i t split
        exact absurd rfl (last _ _ (List.cons.inj split).2)
      · rename_i t _ split
        rw [← (List.cons.inj split).2, List.reverse_reverse]
      · rename_i other
        exact absurd rfl (other _)
  | 2 =>
      show s.reverse.reverse = s
      exact List.reverse_reverse s

theorem base64Bytes_base64Digits (b : Bytes) : base64Bytes (base64Digits b) = some b := by
  induction b using base64Digits.induct with
  | case1 => rfl
  | case2 x =>
      have := x.toNat_lt
      have first : x.toNat / 4 * 4 + x.toNat % 4 * 16 / 16 = x.toNat := by omega
      rw [base64Digits, base64Bytes, first, UInt8.ofNat_toNat]
  | case3 x y =>
      have := x.toNat_lt
      have := y.toNat_lt
      have first : x.toNat / 4 * 4 + (x.toNat % 4 * 16 + y.toNat / 16) / 16 = x.toNat := by omega
      have second : (x.toNat % 4 * 16 + y.toNat / 16) % 16 * 16 + y.toNat % 16 * 4 / 4 =
          y.toNat := by omega
      rw [base64Digits, base64Bytes, first, second, UInt8.ofNat_toNat, UInt8.ofNat_toNat]
  | case4 x y z b ih =>
      have := x.toNat_lt
      have := y.toNat_lt
      have := z.toNat_lt
      have first : x.toNat / 4 * 4 + (x.toNat % 4 * 16 + y.toNat / 16) / 16 = x.toNat := by omega
      have second : (x.toNat % 4 * 16 + y.toNat / 16) % 16 * 16 +
          (y.toNat % 16 * 4 + z.toNat / 64) / 4 = y.toNat := by omega
      have third : (y.toNat % 16 * 4 + z.toNat / 64) % 4 * 64 + z.toNat % 64 = z.toNat := by omega
      rw [base64Digits, base64Bytes, ih, first, second, third, UInt8.ofNat_toNat,
        UInt8.ofNat_toNat, UInt8.ofNat_toNat]
      rfl

/-- `atob` undoes `encodeBase64`. -/
theorem base64?_encodeBase64 (b : Bytes) : (encodeBase64 b).base64? = some b := by
  have small := base64Digits_lt b
  obtain ⟨k, few, whole, same⟩ := encodeBase64_eq b
  have plain : ∀ u ∈ (base64Digits b).map base64Unit,
      u ≠ 61 ∧ ([9, 10, 12, 13, 32] : JsStr).contains u = false := by
    intro u mem
    obtain ⟨n, here, rfl⟩ := List.mem_map.mp mem
    exact base64Unit_plain ⟨n, small n here⟩
  have kept : (encodeBase64 b).filter (fun u => !([9, 10, 12, 13, 32] : JsStr).contains u) =
      encodeBase64 b := by
    refine List.filter_eq_self.mpr fun u mem => ?_
    rw [same, List.mem_append] at mem
    rcases mem with digit | padding
    · rw [(plain u digit).2]
      rfl
    · rw [List.eq_of_mem_replicate padding]
      rfl
  have digits : ((base64Digits b).map base64Unit).mapM base64Digit? = some (base64Digits b) := by
    generalize base64Digits b = ds at small
    induction ds with
    | nil => rfl
    | cons n ds ih =>
        rw [List.map_cons, List.mapM_cons, base64Digit?_base64Unit ⟨n, small n List.mem_cons_self⟩,
          ih fun m mem => small m (List.mem_cons_of_mem n mem)]
        rfl
  have stripped : unpadded (encodeBase64 b) = (base64Digits b).map base64Unit := by
    rw [same]
    exact unpadded_append few (by rwa [List.length_map]) fun u mem => (plain u mem).1
  rw [base64?, kept, stripped, digits]
  exact base64Bytes_base64Digits b

end JsStr

/-! ## Values -/

/-- A number is a float; a value that is not there is `undefined`. -/
inductive JsVal
  | null
  | bool (b : Bool)
  | number (x : PyFloat)
  | string (s : JsStr)
  | array (xs : List JsVal)
  | object (fields : List (JsStr × JsVal))

abbrev JsObject := List (JsStr × JsVal)

/-- `o[key]`; `none` is `undefined`. -/
def JsObject.get? (o : JsObject) (key : JsStr) : Option JsVal := o.lookup key

/-! ## Exceptions -/

inductive JsErrName
  | error
  | typeError
  | rangeError
  | domException
  | handshakeError
  | handshakeAuthError
  | handshakeProofError
  | handshakeExpiredError
  | sessionError
  | sessionExpiredError
  | sessionRevokedError
  | sessionNotActiveError
  | sessionReorderError
  | chunkFormatError
  | chunkValidationError
  | signingError
  | untrustedCardError
  | invalidCardSignatureError
  | expiredCardError
  | cardNotYetValidError
  | revokedCardError
  | payloadFormatError
  | payloadValidationError
  | rateLimitExceededError
  deriving DecidableEq

inductive JsPart
  | lit (s : String)
  | str (s : JsStr)
  deriving DecidableEq

structure JsErr where
  name : JsErrName
  message : List JsPart
  deriving DecidableEq

/-- `if (!cond) throw e`. -/
def jsEnsure (cond : Bool) (e : JsErr) : Except JsErr Unit := if cond then .ok () else .error e

@[simp] theorem jsEnsure_eq_ok {cond : Bool} {e : JsErr} {u : Unit} :
    jsEnsure cond e = .ok u ↔ cond = true := by
  cases cond
  · exact ⟨nofun, nofun⟩
  · exact ⟨fun _ => rfl, fun _ => rfl⟩

@[simp] theorem js_bind_eq_ok {α β : Type} {x : Except JsErr α} {f : α → Except JsErr β} {b : β} :
    (x >>= f) = .ok b ↔ ∃ a, x = .ok a ∧ f a = .ok b := by
  cases x with
  | error e => exact ⟨nofun, nofun⟩
  | ok a => exact ⟨fun h => ⟨a, rfl, h⟩, fun ⟨_, same, h⟩ => by cases same; exact h⟩

@[simp] theorem js_pure_eq_ok {α : Type} {a b : α} :
    (pure a : Except JsErr α) = .ok b ↔ a = b :=
  Except.ok.injEq a b ▸ Iff.rfl

/-- A call that returned, where its result is not printed. -/
theorem exists_of_isOk {α σ : Type} {x : Except JsErr α × σ} (done : x.1.isOk = true) :
    ∃ a s, x = (.ok a, s) := by
  obtain ⟨result, s⟩ := x
  cases result with
  | error e => cases done
  | ok a => exact ⟨a, s, rfl⟩

/-! ## Conversions -/

structure JsRuntime where
  /-- `String(x)` of a number. -/
  numberToString : PyFloat → JsStr
  /-- `Number(s)` of a string. -/
  stringToNumber : JsStr → PyFloat
  /-- What `JSON.parse` reads the digits of an integer as. -/
  integer : ℤ → PyFloat
  jsonStringify : JsVal → JsStr
  jsonParse : JsStr → Except JsErr JsVal
  /-- `new TextDecoder().decode(b)`. -/
  decodeUtf8 : Bytes → JsStr
  /-- `s.localeCompare(t)`. -/
  localeCompare : JsStr → JsStr → Ordering
  toLowerCase : JsStr → JsStr

/-- An object that cannot be made a string, since what it has under `toString` is no function. -/
def notPrimitive : JsErr := ⟨.typeError, [.lit "Cannot convert object to primitive value"]⟩

namespace JsRuntime

variable (R : JsRuntime)

mutual

/-- `String(v)`. -/
def str : JsVal → Except JsErr JsStr
  | .null => .ok "null"
  | .bool b => .ok (if b then "true" else "false")
  | .number x => .ok (R.numberToString x)
  | .string s => .ok s
  | .array xs => do return JsStr.join "," (← strElements xs)
  | .object fields =>
      if (JsObject.get? fields "toString").isSome then .error notPrimitive
      else .ok "[object Object]"

/-- The elements of an array, as `join` prints them. -/
def strElements : List JsVal → Except JsErr (List JsStr)
  | [] => .ok []
  | .null :: xs => do return [] :: (← strElements xs)
  | x :: xs => do return (← str x) :: (← strElements xs)

end

/-- `Number(v)`. -/
def num : JsVal → Except JsErr PyFloat
  | .null => .ok (.finite 0)
  | .bool b => .ok (.finite (if b then 1 else 0))
  | .number x => .ok x
  | v => do return R.stringToNumber (← R.str v)

/-- `ToInt32(v)`, as the bitwise operators read a value. -/
def int32 (v : JsVal) : Except JsErr ℤ := do
  match ← R.num v with
  | .finite q => return (if 0 ≤ q then ⌊q⌋ else ⌈q⌉).bmod (2 ^ 32)
  | _ => return 0

end JsRuntime

/-- `Boolean(v)`. -/
def JsVal.truthy : JsVal → Bool
  | .null => false
  | .bool b => b
  | .number (.finite q) => q != 0
  | .number (.inf _) => true
  | .number .nan => false
  | .string s => !s.isEmpty
  | .array _ | .object _ => true

/-- `x < y`; a NaN is not below anything, nor anything below it. -/
def PyFloat.lt : PyFloat → PyFloat → Bool
  | .finite p, .finite q => p < q
  | .finite _, .inf negative => !negative
  | .inf negative, .finite _ => negative
  | .inf negative, .inf negative' => negative && !negative'
  | .nan, _ | _, .nan => false

/-- `x <= y`. -/
def PyFloat.le (x y : PyFloat) : Bool := x.lt y || (x == y && x != .nan)

/-- `v === s` for a string `s`. -/
def JsVal.isStr (v : Option JsVal) (s : JsStr) : Bool :=
  match v with
  | some (.string t) => t == s
  | _ => false

/-- `o[key]`, where it is used as a string. -/
def JsObject.item (o : JsObject) (key : JsStr) : Except JsErr JsVal :=
  match o.get? key with
  | some v => .ok v
  | none => .error ⟨.typeError,
      [.lit "Cannot read properties of undefined (reading 'length')"]⟩

/-! ## `utils.ts` -/

def invalidHex : JsErr := ⟨.error, [.lit "Invalid hex string"]⟩

/-- What `new Uint8Array(n / 2)` and `hex.substring` do for a value that is no string but has a
length. -/
def decodeHexOfLength : PyFloat → Except JsErr Bytes
  | .finite q =>
      if q = 0 then .ok []
      else if (q / 2).den = 1 then
        .error ⟨.typeError, [.lit "hex.substring is not a function"]⟩
      else .error invalidHex
  | _ => .error invalidHex

/-- `decodeHex(hex)`. -/
def decodeHex (R : JsRuntime) : JsVal → Except JsErr Bytes
  | .string s => if s.length % 2 = 0 then .ok s.hexPairs else .error invalidHex
  | .array xs => decodeHexOfLength (.finite xs.length)
  | .object fields =>
      match JsObject.get? fields "length" with
      | some v => do decodeHexOfLength (← R.num v)
      | none => .error invalidHex
  | .null => .error ⟨.typeError, [.lit "Cannot read properties of null (reading 'length')"]⟩
  | .bool _ | .number _ => .error invalidHex

theorem decodeHex_ofBytes (R : JsRuntime) (b : Bytes) :
    decodeHex R (.string (JsStr.ofBytes b)) = .ok b := by
  have even : (JsStr.ofBytes b).length % 2 = 0 := by
    rw [JsStr.length_ofBytes]
    omega
  rw [decodeHex, if_pos even, JsStr.hexPairs_ofBytes]

/-- `decodeBase64(s)`. -/
def decodeBase64 (s : JsStr) : Except JsErr Bytes :=
  match s.base64? with
  | some b => .ok b
  | none => .error ⟨.domException, [.lit "The string to be decoded is not correctly encoded."]⟩

theorem decodeBase64_encodeBase64 (b : Bytes) : decodeBase64 (JsStr.encodeBase64 b) = .ok b := by
  rw [decodeBase64, JsStr.base64?_encodeBase64]

end Uxsp
