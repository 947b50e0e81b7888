import Uxsp.Python.Json

/-!
# A JSON codec

`JsonText.dumps` writes a value as `json.dumps` does, for values without floats, and
`JsonText.loads` reads such a text.  Strings are escaped to ASCII; a character outside the Basic
Multilingual Plane is written as two escapes, and two escapes that pair up are read as one
character.  `loads_dumps` is the round trip.  Bytes are written as numbers: `34` is a quotation
mark, `92` a backslash, `117` a `u`, `91` and `93` are brackets, `123` and `125` are braces, `44` is
a comma and `58` a colon.
-/

namespace Uxsp.JsonText

/-! ## Writing -/

/-- The characters with an escape of one letter. -/
def shortEscapes : List (ℕ × UInt8) :=
  [(34, 34), (92, 92), (10, 110), (13, 114), (9, 116), (8, 98), (12, 102)]

/-- A hexadecimal digit in lower case. -/
def hexByte (d : ℕ) : UInt8 := UInt8.ofNat (if d < 10 then 48 + d else 87 + d)

/-- A backslash, a `u` and four hexadecimal digits. -/
def escapeUnit (u : ℕ) : Bytes :=
  [92, 117, hexByte (u / 4096 % 16), hexByte (u / 256 % 16), hexByte (u / 16 % 16),
    hexByte (u % 16)]

/-- The surrogates that stand for a character outside the Basic Multilingual Plane. -/
def highUnit (c : CodePoint) : ℕ := 0xD800 + (c.val - 0x10000) / 0x400

def lowUnit (c : CodePoint) : ℕ := 0xDC00 + (c.val - 0x10000) % 0x400

/-- A character inside a string. -/
def char (c : CodePoint) : Bytes :=
  match shortEscapes.lookup c.val with
  | some e => [92, e]
  | none =>
      if 32 ≤ c.val ∧ c.val ≤ 126 then [UInt8.ofNat c.val]
      else if c.val < 0x10000 then escapeUnit c.val
      else escapeUnit (highUnit c) ++ escapeUnit (lowUnit c)

/-- The rest of a string, with the closing mark. -/
def body : Str → Bytes
  | [] => [34]
  | c :: s => char c ++ body s

/-- The digits of a number. -/
def digits (n : ℕ) : Bytes := (Nat.toDigits 10 n).map fun c => UInt8.ofNat c.toNat

def number (n : ℤ) : Option Bytes :=
  if Str.printable n then some (if n < 0 then 45 :: digits n.natAbs else digits n.natAbs) else none

/-- What stands between two elements, and between a key and its value. -/
structure Separators where
  comma : Bytes
  colon : Bytes

mutual

def val (sep : Separators) : Val → Option Bytes
  | .none => some (.lit "null")
  | .bool true => some (.lit "true")
  | .bool false => some (.lit "false")
  | .int n => number n
  | .float _ => none
  | .str s => some (34 :: body s)
  | .list [] => some [91, 93]
  | .list (x :: xs) => do return 91 :: ((← val sep x) ++ (← elements sep xs))
  | .dict [] => some [123, 125]
  | .dict ((k, v) :: items) => do
      return 123 :: 34 :: (body k ++ (sep.colon ++ ((← val sep v) ++ (← members sep items))))

/-- The elements behind the first one. -/
def elements (sep : Separators) : List Val → Option Bytes
  | [] => some [93]
  | x :: xs => do return sep.comma ++ ((← val sep x) ++ (← elements sep xs))

/-- The members behind the first one. -/
def members (sep : Separators) : List (Str × Val) → Option Bytes
  | [] => some [125]
  | (k, v) :: items => do
      return sep.comma ++ (34 :: (body k ++ (sep.colon ++
        ((← val sep v) ++ (← members sep items)))))

end

/-! ## Reading -/

/-- Leave out spaces. -/
def skip : Bytes → Bytes
  | 32 :: rest => skip rest
  | b => b

def isDigit (b : UInt8) : Bool := 48 ≤ b && b ≤ 57

def readNat (b : Bytes) : Option (ℕ × Bytes) :=
  match b.takeWhile isDigit with
  | [] => none
  | ds => some (Nat.ofDigitChars 10 (ds.map fun d => Char.ofNat d.toNat) 0, b.dropWhile isDigit)

def codePoint (c : UInt8) : CodePoint := ⟨c.toNat, CodePoint.byte_lt c⟩

/-- The character behind a backslash. -/
def unescape (e : UInt8) : Option CodePoint :=
  [((34 : UInt8), (34 : CodePoint)), (92, 92), (47, 47), (110, 10), (114, 13), (116, 9), (98, 8),
    (102, 12)].lookup e

def hexVal (b : UInt8) : Option ℕ :=
  if 48 ≤ b ∧ b ≤ 57 then some (b.toNat - 48)
  else if 97 ≤ b ∧ b ≤ 102 then some (b.toNat - 87)
  else if 65 ≤ b ∧ b ≤ 70 then some (b.toNat - 55)
  else none

/-- Four hexadecimal digits. -/
def readUnit (a b c d : UInt8) : Option CodePoint := do
  return Fin.ofNat 0x110000
    (4096 * (← hexVal a) + 256 * (← hexVal b) + 16 * (← hexVal c) + (← hexVal d))

/-- The rest of a string, every escape read as one character. -/
def readBody : Bytes → Option (Str × Bytes)
  | [] => none
  | 34 :: rest => some ([], rest)
  | 92 :: e :: rest =>
      if e = 117 then
        match rest with
        | a :: b :: c :: d :: rest =>
            (readUnit a b c d).bind fun u => (readBody rest).map fun p => (u :: p.1, p.2)
        | _ => none
      else (unescape e).bind fun c => (readBody rest).map fun p => (c :: p.1, p.2)
  | c :: rest =>
      if 32 ≤ c ∧ c ≤ 126 then (readBody rest).map fun p => (codePoint c :: p.1, p.2) else none

/-- A colon, spaces allowed behind it. -/
def readColon : Bytes → Option Bytes
  | 58 :: rest => some (skip rest)
  | _ => none

mutual

def readVal : ℕ → Bytes → Option (Val × Bytes)
  | 0, _ => none
  | _ + 1, 110 :: 117 :: 108 :: 108 :: rest => some (.none, rest)
  | _ + 1, 116 :: 114 :: 117 :: 101 :: rest => some (.bool true, rest)
  | _ + 1, 102 :: 97 :: 108 :: 115 :: 101 :: rest => some (.bool false, rest)
  | _ + 1, 34 :: rest => (readBody rest).map fun p => (.str p.1.reread, p.2)
  | _ + 1, 91 :: 93 :: rest => some (.list [], rest)
  | n + 1, 91 :: rest => do
      let (x, rest) ← readVal n rest
      let (xs, rest) ← readElements n rest
      return (.list (x :: xs), rest)
  | _ + 1, 123 :: 125 :: rest => some (.dict [], rest)
  | n + 1, 123 :: 34 :: rest => do
      let (k, rest) ← readBody rest
      let (v, rest) ← readVal n (← readColon rest)
      let (items, rest) ← readMembers n rest
      return (.dict ((k.reread, v) :: items), rest)
  | _ + 1, 45 :: rest => (readNat rest).map fun p => (.int (-p.1), p.2)
  | _ + 1, b => (readNat b).map fun p => (.int p.1, p.2)

def readElements : ℕ → Bytes → Option (List Val × Bytes)
  | 0, _ => none
  | _ + 1, 93 :: rest => some ([], rest)
  | n + 1, 44 :: rest => do
      let (x, rest) ← readVal n (skip rest)
      let (xs, rest) ← readElements n rest
      return (x :: xs, rest)
  | _, _ => none

def readMembers : ℕ → Bytes → Option (List (Str × Val) × Bytes)
  | 0, _ => none
  | _ + 1, 125 :: rest => some ([], rest)
  | n + 1, 44 :: rest => do
      match skip rest with
      | 34 :: rest =>
          let (k, rest) ← readBody rest
          let (v, rest) ← readVal n (← readColon rest)
          let (items, rest) ← readMembers n rest
          return ((k.reread, v) :: items, rest)
      | _ => none
  | _, _ => none

end

/-- `json.loads` of a text. -/
def loads (b : Bytes) : Except PyErr Val :=
  match readVal b.length b with
  | some (v, []) => .ok v
  | _ => .error ⟨.jsonDecodeError, ["Expecting value"]⟩

/-- `json.dumps` with these separators. -/
def dumps (sep : Separators) (v : Val) : Except PyErr Bytes :=
  match val sep v with
  | some b => .ok b
  | none => .error ⟨.typeError, ["Object is not JSON serializable"]⟩

/-! ## The round trip -/

/-- A comma and a colon, with spaces behind them. -/
structure Separators.Lawful (sep : Separators) : Prop where
  comma : ∃ i, sep.comma = 44 :: List.replicate i 32
  colon : ∃ i, sep.colon = 58 :: List.replicate i 32

variable {sep : Separators}

theorem skip_replicate (i : ℕ) {c : UInt8} {t : Bytes} (apart : c ≠ 32) :
    skip (List.replicate i 32 ++ c :: t) = c :: t := by
  induction i with
  | zero =>
      show skip (c :: t) = c :: t
      unfold skip
      split
      · rename_i same
        cases same
        exact absurd rfl apart
      · rfl
  | succ i ih => exact ih

theorem toNat_ofNat {c : CodePoint} (small : c.val < 128) : (UInt8.ofNat c.val).toNat = c.val :=
  UInt8.toNat_ofNat_of_lt (show c.val < 256 by omega)

theorem codePoint_ofNat {c : CodePoint} (small : c.val < 128) :
    codePoint (UInt8.ofNat c.val) = c :=
  Fin.ext (toNat_ofNat small)

theorem hexVal_hexByte : ∀ d < 16, hexVal (hexByte d) = some d := by decide

theorem readUnit_escape {u : ℕ} (small : u < 0x10000) :
    readUnit (hexByte (u / 4096 % 16)) (hexByte (u / 256 % 16)) (hexByte (u / 16 % 16))
      (hexByte (u % 16)) = some (Fin.ofNat 0x110000 u) := by
  have digit : ∀ n : ℕ, hexVal (hexByte (n % 16)) = some (n % 16) := fun n =>
    hexVal_hexByte _ (Nat.mod_lt _ (by norm_num))
  have whole : 4096 * (u / 4096 % 16) + 256 * (u / 256 % 16) + 16 * (u / 16 % 16) + u % 16 = u := by
    omega
  simp only [readUnit, digit, Option.bind_eq_bind, Option.bind_some, Option.pure_def, whole]

/-- The escapes of a character: itself, or its surrogates. -/
def unitsOf (c : CodePoint) : Str :=
  if c.val < 0x10000 then [c]
  else [Fin.ofNat 0x110000 (highUnit c), Fin.ofNat 0x110000 (lowUnit c)]

def units (s : Str) : Str := s.flatMap unitsOf

theorem units_cons (c : CodePoint) (s : Str) : units (c :: s) = unitsOf c ++ units s := rfl

theorem readBody_unit {u : ℕ} (small : u < 0x10000) (rest : Bytes) :
    readBody (escapeUnit u ++ rest) =
      (readBody rest).map fun p => (Fin.ofNat 0x110000 u :: p.1, p.2) := by
  have unfolded : ∀ a b c d : UInt8, readBody ([92, 117, a, b, c, d] ++ rest) =
      (readUnit a b c d).bind fun u => (readBody rest).map fun p => (u :: p.1, p.2) :=
    fun _ _ _ _ => rfl
  rw [escapeUnit, unfolded, readUnit_escape small, Option.bind_some]

theorem readBody_escape {e : UInt8} (apart : e ≠ 117) (rest : Bytes) :
    readBody ([92, e] ++ rest) =
      (unescape e).bind fun c => (readBody rest).map fun p => (c :: p.1, p.2) := by
  rcases rest with _ | ⟨a, _ | ⟨b, _ | ⟨c, _ | ⟨d, rest⟩⟩⟩⟩ <;>
    simp only [List.cons_append, List.nil_append, readBody, if_neg apart]

theorem readBody_plain {b : UInt8} (range : 32 ≤ b ∧ b ≤ 126) (quote : b ≠ 34)
    (backslash : b ≠ 92) (rest : Bytes) :
    readBody (b :: rest) = (readBody rest).map fun p => (codePoint b :: p.1, p.2) := by
  rw [readBody, if_pos range]
  · exact quote
  · exact fun _ _ same => absurd same backslash

/-- A written character is read as its escapes. -/
theorem readBody_char (c : CodePoint) (rest : Bytes) : readBody (char c ++ rest) =
    (readBody rest).map fun p => (unitsOf c ++ p.1, p.2) := by
  have bound := c.isLt
  have same : Fin.ofNat 0x110000 c.val = c := Fin.ext (Nat.mod_eq_of_lt bound)
  unfold char
  cases short : shortEscapes.lookup c.val with
  | some e =>
      have listed : (c.val, e) ∈ shortEscapes := by
        obtain ⟨left, right, split, -⟩ := List.lookup_eq_some_iff.mp short
        rw [split]
        exact List.mem_append_right _ List.mem_cons_self
      have known : ∀ item ∈ shortEscapes, item.2 ≠ 117 ∧ item.1 < 0x10000 ∧
          unescape item.2 = some (Fin.ofNat 0x110000 item.1) := by decide
      obtain ⟨apart, small, back⟩ := known _ listed
      rw [same] at back
      simp only
      rw [readBody_escape apart, back, unitsOf, if_pos small]
      rfl
  | none =>
      have unlisted : ∀ n e, shortEscapes.lookup n = some e → c.val ≠ n := by
        rintro n e found rfl
        rw [found] at short
        cases short
      simp only
      by_cases range : 32 ≤ c.val ∧ c.val ≤ 126
      · have value := toNat_ofNat (c := c) (by omega)
        have again : 32 ≤ UInt8.ofNat c.val ∧ UInt8.ofNat c.val ≤ 126 := by
          rw [UInt8.le_iff_toNat_le, UInt8.le_iff_toNat_le, value]
          exact range
        have quote : UInt8.ofNat c.val ≠ 34 := fun here =>
          unlisted 34 34 rfl (by rw [← value, here]; rfl)
        have backslash : UInt8.ofNat c.val ≠ 92 := fun here =>
          unlisted 92 92 rfl (by rw [← value, here]; rfl)
        rw [if_pos range, List.singleton_append, readBody_plain again quote backslash,
          codePoint_ofNat (by omega), unitsOf, if_pos (by omega)]
        rfl
      · rw [if_neg range]
        by_cases small : c.val < 0x10000
        · rw [if_pos small, readBody_unit small, unitsOf, if_pos small, same]
          rfl
        · have high : highUnit c < 0x10000 := by rw [highUnit]; omega
          have low : lowUnit c < 0x10000 := by rw [lowUnit]; omega
          rw [if_neg small, List.append_assoc, readBody_unit high, readBody_unit low,
            Option.map_map, unitsOf, if_neg small]
          rfl

theorem readBody_body (s : Str) (rest : Bytes) :
    readBody (body s ++ rest) = some (units s, rest) := by
  induction s with
  | nil => rfl
  | cons c s ih =>
      rw [body, List.append_assoc, readBody_char, ih, Option.map_some, units_cons]

/-- A character that starts no pair is left alone. -/
theorem reread_cons {c : CodePoint} {s : Str}
    (alone : ∀ d ∈ s.head?, ¬ (c.isHighSurrogate && d.isLowSurrogate) = true) :
    Str.reread (c :: s) = c :: s.reread := by
  cases s with
  | nil => rfl
  | cons d s => rw [Str.reread, if_neg (alone d rfl)]

/-- The surrogates of a character pair up to it. -/
theorem ofSurrogates_units {c : CodePoint} (large : ¬ c.val < 0x10000) (s : Str) :
    Str.reread (unitsOf c ++ s) = c :: s.reread := by
  have bound := c.isLt
  have high : (Fin.ofNat 0x110000 (highUnit c)).val = highUnit c :=
    Nat.mod_eq_of_lt (by rw [highUnit]; omega)
  have low : (Fin.ofNat 0x110000 (lowUnit c)).val = lowUnit c :=
    Nat.mod_eq_of_lt (by rw [lowUnit]; omega)
  have pair : (CodePoint.isHighSurrogate (Fin.ofNat 0x110000 (highUnit c)) &&
      CodePoint.isLowSurrogate (Fin.ofNat 0x110000 (lowUnit c))) = true := by
    have up : 0xD800 ≤ highUnit c ∧ highUnit c < 0xDC00 := by rw [highUnit]; omega
    have down : 0xDC00 ≤ lowUnit c ∧ lowUnit c < 0xE000 := by rw [lowUnit]; omega
    rw [CodePoint.isHighSurrogate, CodePoint.isLowSurrogate, high, low, decide_eq_true up.1,
      decide_eq_true up.2, decide_eq_true down.1, decide_eq_true down.2]
    rfl
  have whole : CodePoint.ofSurrogates (Fin.ofNat 0x110000 (highUnit c))
      (Fin.ofNat 0x110000 (lowUnit c)) = c := by
    refine Fin.ext ?_
    have sum : 0x10000 + (highUnit c - 0xD800) * 0x400 + (lowUnit c - 0xDC00) = c.val := by
      rw [highUnit, lowUnit]
      omega
    rw [CodePoint.ofSurrogates, high, low, sum]
    exact Nat.mod_eq_of_lt bound
  rw [unitsOf, if_neg large]
  show Str.reread (_ :: _ :: s) = _
  rw [Str.reread, if_pos pair, whole]

/-- Reading joins what writing took apart. -/
theorem reread_units (s : Str) : (units s).reread = s.reread := by
  fun_induction Str.reread s with
  | case1 high low s pair ih =>
      obtain ⟨up, down⟩ := Bool.and_eq_true_iff.mp pair
      simp only [CodePoint.isHighSurrogate, CodePoint.isLowSurrogate, Bool.and_eq_true,
        decide_eq_true_eq] at up down
      rw [units_cons, units_cons, unitsOf, if_pos (by omega), unitsOf, if_pos (by omega)]
      show Str.reread (high :: low :: units s) = _
      rw [Str.reread, if_pos pair, ih]
  | case2 c d s apart ih =>
      by_cases small : c.val < 0x10000
      · rw [units_cons, unitsOf, if_pos small, List.singleton_append, reread_cons, ih]
        intro e head
        rw [units_cons, unitsOf] at head
        split at head
        · obtain rfl := Option.some.inj head
          exact apart
        · -- the first surrogate of a character is no second one
          rename_i large
          obtain rfl := Option.some.inj head
          have bound := d.isLt
          have value : (Fin.ofNat 0x110000 (highUnit d)).val = highUnit d :=
            Nat.mod_eq_of_lt (by rw [highUnit]; omega)
          have first : CodePoint.isLowSurrogate (Fin.ofNat 0x110000 (highUnit d)) = false := by
            rw [CodePoint.isLowSurrogate, value, Bool.and_eq_false_iff, decide_eq_false_iff_not,
              highUnit]
            exact .inl (by omega)
          rw [first, Bool.and_false]
          exact Bool.false_ne_true
      · rw [units_cons, ofSurrogates_units small, ih]
  | case3 s short =>
      cases s with
      | nil => rfl
      | cons c s =>
          cases s with
          | cons d s => exact absurd rfl (short c d s)
          | nil =>
              by_cases small : c.val < 0x10000
              · rw [units_cons, unitsOf, if_pos small]
                rfl
              · rw [units_cons, ofSurrogates_units small]
                rfl

/-! ## Numbers -/

theorem digit_range {n : ℕ} {c : Char} (mem : c ∈ Nat.toDigits 10 n) :
    48 ≤ c.toNat ∧ c.toNat ≤ 57 :=
  Char.isDigit_iff_toNat.mp (Nat.isDigit_of_mem_toDigits (by decide) (by decide) mem)

theorem isDigit_of_mem {n : ℕ} {b : UInt8} (mem : b ∈ digits n) : isDigit b = true := by
  rcases List.mem_map.mp mem with ⟨c, here, rfl⟩
  have range := digit_range here
  have back : (UInt8.ofNat c.toNat).toNat = c.toNat :=
    UInt8.toNat_ofNat_of_lt (show c.toNat < 256 by omega)
  rw [isDigit, Bool.and_eq_true, decide_eq_true_eq, decide_eq_true_eq, UInt8.le_iff_toNat_le,
    UInt8.le_iff_toNat_le, back]
  exact range

theorem readNat_digits (n : ℕ) {rest : Bytes} (stop : ∀ b ∈ rest.head?, isDigit b = false) :
    readNat (digits n ++ rest) = some (n, rest) := by
  have all : ∀ b ∈ digits n, isDigit b = true := fun b mem => isDigit_of_mem mem
  have tail : rest.takeWhile isDigit = [] ∧ rest.dropWhile isDigit = rest := by
    cases rest with
    | nil => exact ⟨rfl, rfl⟩
    | cons b rest =>
        have other := stop b rfl
        rw [List.takeWhile_cons, List.dropWhile_cons, other]
        exact ⟨rfl, rfl⟩
  have taken : (digits n ++ rest).takeWhile isDigit = digits n := by
    rw [List.takeWhile_append_of_pos all, tail.1, List.append_nil]
  have dropped : (digits n ++ rest).dropWhile isDigit = rest := by
    rw [List.dropWhile_append_of_pos all, tail.2]
  have chars : (digits n).map (fun d => Char.ofNat d.toNat) = Nat.toDigits 10 n := by
    rw [digits, List.map_map]
    refine (List.map_congr_left fun c mem => ?_).trans (List.map_id _)
    have range := digit_range mem
    have back : (UInt8.ofNat c.toNat).toNat = c.toNat :=
      UInt8.toNat_ofNat_of_lt (show c.toNat < 256 by omega)
    show Char.ofNat (UInt8.ofNat c.toNat).toNat = c
    rw [back, Char.ofNat_toNat]
  have nonempty : digits n ≠ [] := by
    intro none
    exact Nat.toDigits_ne_nil (List.map_eq_nil_iff.mp none)
  unfold readNat
  rw [taken, dropped]
  split
  · rename_i none
    exact absurd none nonempty
  · rename_i ds _
    rw [chars, Nat.ofDigitChars_ten_toDigits]

theorem digits_head (n : ℕ) : ∃ d ds, digits n = d :: ds ∧ isDigit d = true := by
  cases found : digits n with
  | nil => exact absurd (List.map_eq_nil_iff.mp found) Nat.toDigits_ne_nil
  | cons d ds => exact ⟨d, ds, rfl, isDigit_of_mem (found ▸ List.mem_cons_self)⟩

theorem readVal_digit (n : ℕ) {d : UInt8} (t : Bytes) (digit : isDigit d = true) :
    readVal (n + 1) (d :: t) = (readNat (d :: t)).map fun p => (.int p.1, p.2) := by
  rw [readVal]
  all_goals
    intros
    rename_i same
    cases same
    cases digit

theorem readVal_number {m : ℤ} {b : Bytes} (written : number m = some b) (n : ℕ) {rest : Bytes}
    (stop : ∀ b ∈ rest.head?, isDigit b = false) :
    readVal (n + 1) (b ++ rest) = some (.int m, rest) := by
  unfold number at written
  split at written
  · cases written
    have read := readNat_digits m.natAbs stop
    split
    · rename_i negative
      show (readNat (digits m.natAbs ++ rest)).map _ = _
      rw [read, Option.map_some]
      have same : -(m.natAbs : ℤ) = m := by omega
      rw [same]
    · rename_i nonneg
      have same : (m.natAbs : ℤ) = m := by omega
      rcases digits_head m.natAbs with ⟨d, ds, split, digit⟩
      rw [split, List.cons_append, readVal_digit n _ digit, ← List.cons_append, ← split, read,
        Option.map_some, same]
  · cases written

/-! ## Values -/

/-- A written value starts with neither a space nor a closing bracket. -/
theorem val_head {v : Val} {b : Bytes} (written : val sep v = some b) :
    ∃ c t, b = c :: t ∧ c ≠ 32 ∧ c ≠ 93 := by
  cases v with
  | none => cases written; exact ⟨_, _, rfl, by decide, by decide⟩
  | bool x => cases x <;> (cases written; exact ⟨_, _, rfl, by decide, by decide⟩)
  | int n =>
      rw [val, number] at written
      split at written
      · cases written
        split
        · exact ⟨_, _, rfl, by decide, by decide⟩
        · rcases digits_head n.natAbs with ⟨d, ds, split, digit⟩
          refine ⟨d, ds, split, ?_, ?_⟩
          · rintro rfl
            cases digit
          · rintro rfl
            cases digit
      · cases written
  | float x => cases written
  | str s => cases written; exact ⟨_, _, rfl, by decide, by decide⟩
  | list xs =>
      cases xs with
      | nil => cases written; exact ⟨_, _, rfl, by decide, by decide⟩
      | cons x xs =>
          simp only [val, Option.bind_eq_bind, Option.bind_eq_some_iff, Option.pure_def,
            Option.some.injEq] at written
          rcases written with ⟨_, _, _, _, rfl⟩
          exact ⟨_, _, rfl, by decide, by decide⟩
  | dict items =>
      cases items with
      | nil => cases written; exact ⟨_, _, rfl, by decide, by decide⟩
      | cons item items =>
          simp only [val, Option.bind_eq_bind, Option.bind_eq_some_iff, Option.pure_def,
            Option.some.injEq] at written
          rcases written with ⟨_, _, _, _, rfl⟩
          exact ⟨_, _, rfl, by decide, by decide⟩

theorem elements_stop (lawful : sep.Lawful) {xs : List Val} {b : Bytes}
    (written : elements sep xs = some b) (rest : Bytes) :
    ∀ c ∈ (b ++ rest).head?, isDigit c = false := by
  rcases lawful.comma with ⟨i, comma⟩
  cases xs with
  | nil => cases written; rintro c ⟨⟩; rfl
  | cons x xs =>
      simp only [elements, Option.bind_eq_bind, Option.bind_eq_some_iff, Option.pure_def,
        Option.some.injEq] at written
      rcases written with ⟨_, _, _, _, rfl⟩
      rw [comma]
      rintro c ⟨⟩
      rfl

theorem members_stop (lawful : sep.Lawful) {items : List (Str × Val)} {b : Bytes}
    (written : members sep items = some b) (rest : Bytes) :
    ∀ c ∈ (b ++ rest).head?, isDigit c = false := by
  rcases lawful.comma with ⟨i, comma⟩
  cases items with
  | nil => cases written; rintro c ⟨⟩; rfl
  | cons item items =>
      simp only [members, Option.bind_eq_bind, Option.bind_eq_some_iff, Option.pure_def,
        Option.some.injEq] at written
      rcases written with ⟨_, _, _, _, rfl⟩
      rw [comma]
      rintro c ⟨⟩
      rfl

/-- The key, the colon and the value of a member, behind the opening mark of the key. -/
theorem read_member (lawful : sep.Lawful) (k : Str) {v : Val} {bv : Bytes}
    (value : val sep v = some bv) (t : Bytes) :
    ∃ behind, readBody (body k ++ (sep.colon ++ (bv ++ t))) = some (units k, behind) ∧
      readColon behind = some (bv ++ t) := by
  rcases lawful.colon with ⟨i, colon⟩
  rcases val_head value with ⟨c, s, rfl, apart, _⟩
  refine ⟨_, readBody_body k _, ?_⟩
  rw [colon]
  exact congrArg some (skip_replicate i apart)

mutual

/-- What a written value is read as: surrogate pairs are joined. -/
def joined : Val → Val
  | .str s => .str s.reread
  | .list xs => .list (joinedList xs)
  | .dict items => .dict (joinedItems items)
  | v => v

def joinedList : List Val → List Val
  | [] => []
  | x :: xs => joined x :: joinedList xs

def joinedItems : List (Str × Val) → List (Str × Val)
  | [] => []
  | (k, v) :: items => (k.reread, joined v) :: joinedItems items

end

mutual

theorem readVal_val (lawful : sep.Lawful) : ∀ (v : Val) (b : Bytes) (n : ℕ) (rest : Bytes),
    val sep v = some b → b.length ≤ n → (∀ c ∈ rest.head?, isDigit c = false) →
      readVal n (b ++ rest) = some (joined v, rest)
  | .none, _, n + 1, _, rfl, _, _ => rfl
  | .none, _, 0, _, rfl, short, _ => absurd short (by decide)
  | .bool true, _, n + 1, _, rfl, _, _ => rfl
  | .bool true, _, 0, _, rfl, short, _ => absurd short (by decide)
  | .bool false, _, n + 1, _, rfl, _, _ => rfl
  | .bool false, _, 0, _, rfl, short, _ => absurd short (by decide)
  | .int m, b, n, rest, written, fuel, stop => by
      rcases val_head written with ⟨c, t, rfl, _⟩
      cases n with
      | zero => cases fuel
      | succ n => exact readVal_number written n stop
  | .float _, _, _, _, written, _, _ => nomatch written
  | .str s, b, n, rest, written, fuel, stop => by
      obtain rfl := Option.some.inj written
      cases n with
      | zero => cases fuel
      | succ n =>
          show (readBody (body s ++ rest)).map _ = _
          rw [readBody_body, Option.map_some, reread_units, joined]
  | .list [], _, n + 1, _, rfl, _, _ => rfl
  | .list [], _, 0, _, rfl, short, _ => absurd short (by decide)
  | .list (x :: xs), b, n, rest, written, fuel, stop => by
      simp only [val, Option.bind_eq_bind, Option.bind_eq_some_iff, Option.pure_def,
        Option.some.injEq] at written
      rcases written with ⟨bx, first, bxs, others, rfl⟩
      cases n with
      | zero => cases fuel
      | succ n =>
          rw [List.length_cons, List.length_append, Nat.add_le_add_iff_right] at fuel
          have head := readVal_val lawful x bx n (bxs ++ rest) first (by omega)
            (elements_stop lawful others rest)
          have tail := readElements_elements lawful xs bxs n rest others (by omega)
          rcases val_head first with ⟨c, t, rfl, _, apart⟩
          rw [List.cons_append, List.append_assoc]
          show readVal (n + 1) (91 :: c :: (t ++ (bxs ++ rest))) = _
          have unread : readVal (n + 1) (91 :: c :: (t ++ (bxs ++ rest))) = (do
              let (x, rest) ← readVal n (c :: (t ++ (bxs ++ rest)))
              let (xs, rest) ← readElements n rest
              return (.list (x :: xs), rest)) := by
            rw [readVal]
            intro _ same
            cases same
            exact absurd rfl apart
          rw [List.cons_append] at head
          rw [unread, head]
          simp only [Option.bind_eq_bind, Option.bind_some, tail, Option.pure_def, joined,
            joinedList]
  | .dict [], _, n + 1, _, rfl, _, _ => rfl
  | .dict [], _, 0, _, rfl, short, _ => absurd short (by decide)
  | .dict ((k, v) :: items), b, n, rest, written, fuel, stop => by
      simp only [val, Option.bind_eq_bind, Option.bind_eq_some_iff, Option.pure_def,
        Option.some.injEq] at written
      rcases written with ⟨bv, value, bxs, others, rfl⟩
      cases n with
      | zero => cases fuel
      | succ n =>
          simp only [List.length_cons, List.length_append] at fuel
          rcases read_member lawful k value (bxs ++ rest) with ⟨behind, keyRead, colonRead⟩
          have head := readVal_val lawful v bv n (bxs ++ rest) value (by omega)
            (members_stop lawful others rest)
          have tail := readMembers_members lawful items bxs n rest others (by omega)
          simp only [List.cons_append, List.append_assoc]
          rw [readVal]
          simp only [Option.bind_eq_bind, Option.bind_some, keyRead, colonRead, head, tail,
            Option.pure_def, reread_units, joined, joinedItems]

theorem readElements_elements (lawful : sep.Lawful) : ∀ (xs : List Val) (b : Bytes) (n : ℕ)
    (rest : Bytes), elements sep xs = some b → b.length ≤ n →
      readElements n (b ++ rest) = some (joinedList xs, rest)
  | [], _, n + 1, _, rfl, _ => rfl
  | [], _, 0, _, rfl, short => absurd short (by decide)
  | x :: xs, b, n, rest, written, fuel => by
      simp only [elements, Option.bind_eq_bind, Option.bind_eq_some_iff, Option.pure_def,
        Option.some.injEq] at written
      rcases written with ⟨bx, first, bxs, others, rfl⟩
      rcases lawful.comma with ⟨i, comma⟩
      rw [comma, List.cons_append, List.length_cons, List.length_append, List.length_append] at fuel
      cases n with
      | zero => cases fuel
      | succ n =>
          have head := readVal_val lawful x bx n (bxs ++ rest) first (by omega)
            (elements_stop lawful others rest)
          have tail := readElements_elements lawful xs bxs n rest others (by omega)
          rcases val_head first with ⟨c, t, rfl, apart, _⟩
          have skipped : skip (List.replicate i 32 ++ (c :: t ++ (bxs ++ rest))) =
            c :: t ++ (bxs ++ rest) := skip_replicate i apart
          rw [comma]
          simp only [List.cons_append, List.append_assoc] at skipped head ⊢
          rw [readElements, skipped, head]
          simp only [Option.bind_eq_bind, Option.bind_some, tail, Option.pure_def, joinedList]

theorem readMembers_members (lawful : sep.Lawful) : ∀ (items : List (Str × Val)) (b : Bytes)
    (n : ℕ) (rest : Bytes), members sep items = some b → b.length ≤ n →
      readMembers n (b ++ rest) = some (joinedItems items, rest)
  | [], _, n + 1, _, rfl, _ => rfl
  | [], _, 0, _, rfl, short => absurd short (by decide)
  | (k, v) :: items, b, n, rest, written, fuel => by
      simp only [members, Option.bind_eq_bind, Option.bind_eq_some_iff, Option.pure_def,
        Option.some.injEq] at written
      rcases written with ⟨bv, value, bxs, others, rfl⟩
      rcases lawful.comma with ⟨i, comma⟩
      rw [comma] at fuel
      simp only [List.cons_append, List.length_cons, List.length_append] at fuel
      cases n with
      | zero => cases fuel
      | succ n =>
          rcases read_member lawful k value (bxs ++ rest) with ⟨behind, keyRead, colonRead⟩
          have head := readVal_val lawful v bv n (bxs ++ rest) value (by omega)
            (members_stop lawful others rest)
          have tail := readMembers_members lawful items bxs n rest others (by omega)
          have skipped : skip (List.replicate i 32 ++ (34 :: (body k ++ (sep.colon ++ (bv ++
              (bxs ++ rest)))))) = 34 :: (body k ++ (sep.colon ++ (bv ++ (bxs ++ rest)))) :=
            skip_replicate i (by decide)
          rw [comma]
          simp only [List.cons_append, List.append_assoc]
          rw [readMembers, skipped]
          simp only [Option.bind_eq_bind, Option.bind_some, keyRead, colonRead, head, tail,
            Option.pure_def, reread_units, joinedItems]

end

/-- What was written is read back. -/
theorem loads_dumps (lawful : sep.Lawful) {v : Val} {b : Bytes} (written : dumps sep v = .ok b) :
    loads b = .ok (joined v) := by
  unfold dumps at written
  split at written
  · rename_i t text
    cases written
    have read := readVal_val lawful v b b.length [] text le_rfl nofun
    rw [List.append_nil] at read
    rw [loads, read]
  · cases written

/-! ## What is read as it was -/

mutual

theorem joined_of_plain : ∀ {v : Val}, v.plain = true → joined v = v
  | .none, _ => rfl
  | .bool _, _ => rfl
  | .int _, _ => rfl
  | .float _, plain => by cases plain
  | .str s, plain => by
      obtain ⟨b, encoded⟩ := Option.isSome_iff_exists.mp plain
      rw [joined, Str.reread_of_encode encoded]
  | .list xs, plain => by rw [joined, joinedList_of_plain plain]
  | .dict items, plain => by
      obtain ⟨keyed, plain⟩ := Bool.and_eq_true_iff.mp plain
      obtain ⟨-, encodable⟩ := Bool.and_eq_true_iff.mp keyed
      rw [joined, joinedItems_of_plain (List.all_eq_true.mp encodable) plain]

theorem joinedList_of_plain : ∀ {xs : List Val}, Val.plainList xs = true → joinedList xs = xs
  | [], _ => rfl
  | v :: xs, plain => by
      obtain ⟨here, rest⟩ := Bool.and_eq_true_iff.mp plain
      rw [joinedList, joined_of_plain here, joinedList_of_plain rest]

theorem joinedItems_of_plain : ∀ {items : List (Str × Val)},
    (∀ item ∈ items, item.1.encode.isSome = true) → Dict.plainItems items = true →
      joinedItems items = items
  | [], _, _ => rfl
  | (k, v) :: items, encodable, plain => by
      obtain ⟨here, rest⟩ := Bool.and_eq_true_iff.mp plain
      obtain ⟨keyHere, keysRest⟩ := List.forall_mem_cons.mp encodable
      obtain ⟨b, encoded⟩ := Option.isSome_iff_exists.mp keyHere
      rw [joinedItems, joined_of_plain here, Str.reread_of_encode encoded,
        joinedItems_of_plain keysRest rest]

end

/-- Plain members are kept. -/
theorem keeps_joinedItems {d : Dict} (keyed : d.wellKeyed = true) : d.Keeps (joinedItems d) := by
  obtain ⟨-, encodable⟩ := Bool.and_eq_true_iff.mp keyed
  replace encodable := List.all_eq_true.mp encodable
  clear keyed
  induction d with
  | nil => exact fun _ _ found => nomatch found
  | cons item d ih =>
      obtain ⟨k, w⟩ := item
      obtain ⟨here, rest⟩ := List.forall_mem_cons.mp encodable
      obtain ⟨b, encoded⟩ := Option.isSome_iff_exists.mp here
      have ih := ih rest
      intro key v found plain
      unfold Dict.get? at found ⊢
      rw [joinedItems, Assoc.lookup_cons_ite, Str.reread_of_encode encoded]
      rw [Assoc.lookup_cons_ite] at found
      split at found
      · obtain rfl := Option.some.inj found
        rw [if_pos ‹_›, joined_of_plain plain]
      · rw [if_neg ‹_›]
        exact ih key v found plain

/-- A character that two surrogates stand for is none itself. -/
theorem ofSurrogates_scalar {high low : CodePoint}
    (pair : (high.isHighSurrogate && low.isLowSurrogate) = true) :
    (CodePoint.ofSurrogates high low).isHighSurrogate = false ∧
      (CodePoint.ofSurrogates high low).isLowSurrogate = false := by
  obtain ⟨up, down⟩ := Bool.and_eq_true_iff.mp pair
  simp only [CodePoint.isHighSurrogate, CodePoint.isLowSurrogate, Bool.and_eq_true,
    decide_eq_true_eq] at up down
  have value : (CodePoint.ofSurrogates high low).val =
      0x10000 + (high.val - 0xD800) * 0x400 + (low.val - 0xDC00) :=
    Nat.mod_eq_of_lt (by omega)
  rw [CodePoint.isHighSurrogate, CodePoint.isLowSurrogate, value]
  simp only [Bool.and_eq_false_iff, decide_eq_false_iff_not]
  omega

theorem reread_head (c : CodePoint) (s : Str) :
    ∃ e t, Str.reread (c :: s) = e :: t ∧ (e = c ∨ e.isLowSurrogate = false) := by
  cases s with
  | nil => exact ⟨c, [], rfl, .inl rfl⟩
  | cons d s =>
      rw [Str.reread]
      split
      · rename_i pair
        exact ⟨_, _, rfl, .inr (ofSurrogates_scalar pair).2⟩
      · exact ⟨c, _, rfl, .inl rfl⟩

/-- Joining twice joins no more. -/
theorem reread_reread (s : Str) : s.reread.reread = s.reread := by
  fun_induction Str.reread s with
  | case1 high low s pair ih =>
      rw [reread_cons, ih]
      intro d _
      rw [(ofSurrogates_scalar pair).1, Bool.false_and]
      exact Bool.false_ne_true
  | case2 c d s apart ih =>
      rw [reread_cons, ih]
      intro e head
      obtain ⟨e', t, read, same | scalar⟩ := reread_head d s
      · rw [read] at head
        obtain rfl := Option.some.inj head
        rwa [same]
      · rw [read] at head
        obtain rfl := Option.some.inj head
        rw [scalar, Bool.and_false]
        exact Bool.false_ne_true
  | case3 s short =>
      cases s with
      | nil => rfl
      | cons c s =>
          cases s with
          | cons d s => exact absurd rfl (short c d s)
          | nil => rfl

mutual

/-- A file is read back as `Val.reread` says. -/
theorem reread_joined : ∀ v : Val, (joined v).reread = v.reread
  | .none => rfl
  | .bool _ => rfl
  | .int _ => rfl
  | .float _ => rfl
  | .str s => by rw [joined, Val.reread, reread_reread, Val.reread]
  | .list xs => by rw [joined, Val.reread, rereadList_joined xs, Val.reread]
  | .dict items => by rw [joined, Val.reread, rereadItems_joined items, Val.reread]

theorem rereadList_joined : ∀ xs : List Val, Val.rereadList (joinedList xs) = Val.rereadList xs
  | [] => rfl
  | v :: xs => by
      rw [joinedList, Val.rereadList, reread_joined v, rereadList_joined xs, Val.rereadList]

theorem rereadItems_joined : ∀ items : List (Str × Val),
    Dict.rereadItems (joinedItems items) = Dict.rereadItems items
  | [] => rfl
  | (k, v) :: items => by
      rw [joinedItems, Dict.rereadItems, reread_reread, reread_joined v, rereadItems_joined items,
        Dict.rereadItems]

end

/-! ## A text is printable ASCII -/

def Printable (b : Bytes) : Prop := (b.all fun x => decide (32 ≤ x ∧ x ≤ 126)) = true

theorem printable_iff {b : Bytes} : Printable b ↔ ∀ x ∈ b, 32 ≤ x ∧ x ≤ 126 := by
  simp only [Printable, List.all_eq_true, decide_eq_true_eq]

theorem printable_nil : Printable [] := rfl

theorem printable_cons {x : UInt8} {b : Bytes} :
    Printable (x :: b) ↔ (32 ≤ x ∧ x ≤ 126) ∧ Printable b := by
  rw [Printable, List.all_cons, Bool.and_eq_true, decide_eq_true_eq, Printable]

theorem printable_append {a b : Bytes} : Printable (a ++ b) ↔ Printable a ∧ Printable b := by
  rw [Printable, List.all_append, Bool.and_eq_true, Printable, Printable]

theorem hexByte_range : ∀ d < 16, 32 ≤ hexByte d ∧ hexByte d ≤ 126 := by decide

/-- A written character is printable ASCII. -/
theorem char_range (c : CodePoint) : ∀ x ∈ char c, 32 ≤ x ∧ x ≤ 126 := by
  have hex : ∀ n : ℕ, 32 ≤ hexByte (n % 16) ∧ hexByte (n % 16) ≤ 126 := fun n =>
    hexByte_range _ (Nat.mod_lt _ (by norm_num))
  have unit : ∀ u : ℕ, ∀ x ∈ escapeUnit u, 32 ≤ x ∧ x ≤ 126 := by
    intro u x mem
    simp only [escapeUnit, List.mem_cons, List.not_mem_nil, or_false] at mem
    rcases mem with rfl | rfl | rfl | rfl | rfl | rfl
    · decide
    · decide
    all_goals exact hex _
  intro x mem
  unfold char at mem
  split at mem
  · rename_i e short
    have listed : (c.val, e) ∈ shortEscapes := by
      obtain ⟨left, right, split, -⟩ := List.lookup_eq_some_iff.mp short
      rw [split]
      exact List.mem_append_right _ List.mem_cons_self
    have known : ∀ item ∈ shortEscapes, 32 ≤ item.2 ∧ item.2 ≤ 126 := by decide
    obtain rfl | rfl := List.mem_pair.mp mem
    · decide
    · exact known _ listed
  · split at mem
    · rename_i range
      have value := toNat_ofNat (c := c) (by omega)
      rw [List.mem_singleton.mp mem, UInt8.le_iff_toNat_le, UInt8.le_iff_toNat_le, value]
      exact range
    · split at mem
      · exact unit _ x mem
      · obtain high | low := List.mem_append.mp mem
        · exact unit _ x high
        · exact unit _ x low

theorem body_range (s : Str) : ∀ x ∈ body s, 32 ≤ x ∧ x ≤ 126 := by
  induction s with
  | nil =>
      intro x mem
      rw [List.mem_singleton.mp mem]
      decide
  | cons c s ih =>
      intro x mem
      obtain here | rest := List.mem_append.mp mem
      · exact char_range c x here
      · exact ih x rest

theorem printable_body (s : Str) : Printable (body s) := printable_iff.mpr (body_range s)

theorem printable_digits (n : ℕ) : Printable (digits n) := by
  refine printable_iff.mpr fun x mem => ?_
  have digit := isDigit_of_mem mem
  rw [isDigit, Bool.and_eq_true, decide_eq_true_eq, decide_eq_true_eq] at digit
  exact ⟨UInt8.le_trans (by decide) digit.1, UInt8.le_trans digit.2 (by decide)⟩

theorem printable_number {n : ℤ} {b : Bytes} (written : number n = some b) : Printable b := by
  unfold number at written
  split at written
  · cases written
    split
    · exact printable_cons.mpr ⟨by decide, printable_digits _⟩
    · exact printable_digits _
  · cases written

mutual

theorem printable_val (comma : Printable sep.comma) (colon : Printable sep.colon) :
    ∀ {v : Val} {b : Bytes}, val sep v = some b → Printable b
  | .none, b, written => by cases written; rfl
  | .bool true, b, written => by cases written; rfl
  | .bool false, b, written => by cases written; rfl
  | .int n, b, written => printable_number written
  | .float _, b, written => by cases written
  | .str s, b, written => by
      obtain rfl := Option.some.inj written
      exact printable_cons.mpr ⟨by decide, printable_body s⟩
  | .list [], b, written => by cases written; rfl
  | .list (x :: xs), b, written => by
      simp only [val, Option.bind_eq_bind, Option.bind_eq_some_iff, Option.pure_def,
        Option.some.injEq] at written
      obtain ⟨bx, head, bxs, tail, rfl⟩ := written
      exact printable_cons.mpr ⟨by decide, printable_append.mpr
        ⟨printable_val comma colon head, printable_elements comma colon tail⟩⟩
  | .dict [], b, written => by cases written; rfl
  | .dict ((k, v) :: items), b, written => by
      simp only [val, Option.bind_eq_bind, Option.bind_eq_some_iff, Option.pure_def,
        Option.some.injEq] at written
      obtain ⟨bv, head, bi, tail, rfl⟩ := written
      refine printable_cons.mpr ⟨by decide, printable_cons.mpr ⟨by decide, ?_⟩⟩
      exact printable_append.mpr ⟨printable_body k, printable_append.mpr ⟨colon,
        printable_append.mpr ⟨printable_val comma colon head, printable_members comma colon tail⟩⟩⟩

theorem printable_elements (comma : Printable sep.comma) (colon : Printable sep.colon) :
    ∀ {xs : List Val} {b : Bytes}, elements sep xs = some b → Printable b
  | [], b, written => by cases written; rfl
  | x :: xs, b, written => by
      simp only [elements, Option.bind_eq_bind, Option.bind_eq_some_iff, Option.pure_def,
        Option.some.injEq] at written
      obtain ⟨bx, head, bxs, tail, rfl⟩ := written
      exact printable_append.mpr ⟨comma, printable_append.mpr
        ⟨printable_val comma colon head, printable_elements comma colon tail⟩⟩

theorem printable_members (comma : Printable sep.comma) (colon : Printable sep.colon) :
    ∀ {items : List (Str × Val)} {b : Bytes}, members sep items = some b → Printable b
  | [], b, written => by cases written; rfl
  | (k, v) :: items, b, written => by
      simp only [members, Option.bind_eq_bind, Option.bind_eq_some_iff, Option.pure_def,
        Option.some.injEq] at written
      obtain ⟨bv, head, bi, tail, rfl⟩ := written
      refine printable_append.mpr ⟨comma, printable_cons.mpr ⟨by decide, ?_⟩⟩
      exact printable_append.mpr ⟨printable_body k, printable_append.mpr ⟨colon,
        printable_append.mpr ⟨printable_val comma colon head, printable_members comma colon tail⟩⟩⟩

end

theorem members_last {items : List (Str × Val)} {b : Bytes} (written : members sep items = some b) :
    ∃ front, b = front ++ [125] := by
  induction items generalizing b with
  | nil => cases written; exact ⟨[], rfl⟩
  | cons item items ih =>
      simp only [members, Option.bind_eq_bind, Option.bind_eq_some_iff, Option.pure_def,
        Option.some.injEq] at written
      obtain ⟨bv, head, bi, tail, rfl⟩ := written
      obtain ⟨front, rfl⟩ := ih tail
      exact ⟨sep.comma ++ 34 :: (body item.1 ++ (sep.colon ++ (bv ++ front))), by simp⟩

/-- An object is between braces. -/
theorem val_dict {d : Dict} {b : Bytes} (written : val sep (.dict d) = some b) :
    ∃ inner, b = 123 :: (inner ++ [125]) := by
  cases d with
  | nil => cases written; exact ⟨[], rfl⟩
  | cons item items =>
      simp only [val, Option.bind_eq_bind, Option.bind_eq_some_iff, Option.pure_def,
        Option.some.injEq] at written
      obtain ⟨bv, head, bi, tail, rfl⟩ := written
      obtain ⟨front, rfl⟩ := members_last tail
      exact ⟨34 :: (body item.1 ++ (sep.colon ++ (bv ++ front))), by simp⟩

/-- An object is written on one line. -/
theorem dumps_line (comma : Printable sep.comma) (colon : Printable sep.colon) {d : Dict}
    {b : Bytes} (written : dumps sep (.dict d) = .ok b) :
    ∃ inner, b = 123 :: (inner ++ [125]) ∧ ∀ x ∈ inner, x ≠ 10 ∧ x ≠ 13 := by
  unfold dumps at written
  split at written
  · rename_i t text
    cases written
    obtain ⟨inner, rfl⟩ := val_dict text
    have printable := (printable_append.mp (printable_cons.mp (printable_val comma colon text)).2).1
    refine ⟨inner, rfl, fun x mem => ⟨?_, ?_⟩⟩
    · intro same
      exact absurd (printable_iff.mp printable x mem) (by rw [same]; decide)
    · intro same
      exact absurd (printable_iff.mp printable x mem) (by rw [same]; decide)
  · cases written

/-! ## How long a text is -/

/-- The length of a string between its marks. -/
def quoted (s : Str) : ℕ := (body s).length + 1

/-- A printable ASCII character other than the mark and the backslash. -/
def PlainChar (c : CodePoint) : Prop := 32 ≤ c.val ∧ c.val ≤ 126 ∧ c.val ≠ 34 ∧ c.val ≠ 92

theorem char_plain {c : CodePoint} (plain : PlainChar c) : char c = [UInt8.ofNat c.val] := by
  obtain ⟨low, high, quote, backslash⟩ := plain
  have unlisted : shortEscapes.lookup c.val = none := by
    refine List.lookup_eq_none_iff.mpr fun item mem => ?_
    have apart : ∀ item ∈ shortEscapes, item.1 = 34 ∨ item.1 = 92 ∨ item.1 < 32 := by decide
    have here := apart item mem
    rw [bne_iff_ne]
    omega
  rw [char, unlisted]
  exact if_pos ⟨low, high⟩

/-- Between its marks a plain string is as long as it is. -/
theorem quoted_plain {s : Str} (plain : ∀ c ∈ s, PlainChar c) : quoted s = s.length + 2 := by
  unfold quoted
  induction s with
  | nil => rfl
  | cons c s ih =>
      obtain ⟨here, rest⟩ := List.forall_mem_cons.mp plain
      have length := ih rest
      rw [body, char_plain here, List.length_append, List.length_singleton, List.length_cons]
      omega

/-- The separators of `json.dumps(v)`. -/
def Separators.default : Separators := ⟨[44, 32], [58, 32]⟩

/-- `separators=(",", ":")`. -/
def Separators.compact : Separators := ⟨[44], [58]⟩

theorem Separators.default_lawful : Separators.default.Lawful := ⟨⟨1, rfl⟩, ⟨1, rfl⟩⟩

theorem Separators.compact_lawful : Separators.compact.Lawful := ⟨⟨0, rfl⟩, ⟨0, rfl⟩⟩

theorem Separators.default_printable :
    Printable Separators.default.comma ∧ Printable Separators.default.colon := ⟨rfl, rfl⟩

end Uxsp.JsonText

namespace Uxsp

/-- `json.dumps` writes what `JsonText` writes. -/
structure Runtime.JsonExact (R : Runtime) : Prop where
  compact : ∀ {v text}, JsonText.val .compact v = some text → R.jsonCompact v = .ok text
  dumps : ∀ {v text}, JsonText.val .default v = some text → R.jsonDumps v = .ok text

end Uxsp
