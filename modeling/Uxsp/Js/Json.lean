import Uxsp.Js.Transparent
import Uxsp.Js.Wire
import Uxsp.Python.JsonText

/-!
# JSON in JavaScript

`JsonCorrect` is what `JSON.stringify` and `JSON.parse` promise about an object of strings, numbers
and `null`, whose text is sent as UTF-8.  `JsRuntime.textual` has a JSON that keeps the promise.
-/

namespace Uxsp

/-! ## Flat objects -/

/-- Characters of printable ASCII only. -/
def JsStr.Printable (s : JsStr) : Prop := ∀ u ∈ s, 32 ≤ u.toNat ∧ u.toNat ≤ 126

instance (s : JsStr) : Decidable s.Printable :=
  List.decidableBAll (fun u : UInt16 => 32 ≤ u.toNat ∧ u.toNat ≤ 126) s

/-- A number is whole and small enough for a float to be exact. -/
inductive JsVal.Flat : JsVal → Prop
  | null : Flat .null
  | number {n : ℕ} : n < 2 ^ 53 → Flat (.number (.finite n))
  | string {s : JsStr} : s.Printable → Flat (.string s)

/-- Members are named by words, which no index of an array is, and no name is there twice. -/
structure JsObject.Flat (o : JsObject) : Prop where
  nodup : (o.map Prod.fst).Nodup
  keys : ∀ field ∈ o, field.1.Printable ∧ ∃ u ∈ field.1.head?, 97 ≤ u.toNat
  values : ∀ field ∈ o, field.2.Flat

/-- A flat object is read as it was written, through UTF-8. -/
structure JsRuntime.JsonCorrect (R : JsRuntime) : Prop where
  reads : ∀ {o : JsObject}, o.Flat →
    R.jsonParse (R.decodeUtf8 (JsStr.utf8 (R.jsonStringify (.object o)))) = .ok (.object o)

/-! ## ASCII -/

namespace JsStr

variable {s : JsStr} {b : Bytes}

/-- The code units that have the values of bytes. -/
def ofAscii (b : Bytes) : JsStr := b.map fun x => UInt16.ofNat x.toNat

def toAscii (s : JsStr) : Bytes := s.map fun u => UInt8.ofNat u.toNat

theorem toNat_ofNat_toNat (x : UInt8) : (UInt16.ofNat x.toNat).toNat = x.toNat :=
  toNat_unit (x.toNat_lt.trans (by norm_num))

theorem toAscii_ofAscii (b : Bytes) : toAscii (ofAscii b) = b := by
  rw [toAscii, ofAscii, List.map_map]
  refine (List.map_congr_left fun x _ => ?_).trans (List.map_id _)
  show UInt8.ofNat (UInt16.ofNat x.toNat).toNat = x
  rw [toNat_ofNat_toNat, UInt8.ofNat_toNat]

theorem isHigh_of_small {u : UInt16} (small : u.toNat < 128) : isHigh u = false := by
  have below : ¬ 0xD800 ≤ u := by
    rw [UInt16.le_iff_toNat_le]
    exact not_le.mpr (small.trans (show 128 < 0xD800 by norm_num))
  rw [isHigh, decide_eq_false below, Bool.false_and]

theorem codePoints_of_small (small : ∀ u ∈ s, u.toNat < 128) : codePoints s = s.map single := by
  induction s with
  | nil => rfl
  | cons u s ih =>
      rw [codePoints_cons_single (isHigh_of_small (small u List.mem_cons_self)),
        ih fun v mem => small v (List.mem_cons_of_mem u mem)]
      rfl

theorem units_single (u : UInt16) : units (single u) = [u] := by
  have low : (single u).val < 0x10000 := u.toNat_lt
  rw [units, if_pos low]
  exact congrArg (fun v => [v]) (UInt16.ofNat_toNat)

theorem ofStr_single (s : JsStr) : ofStr (s.map single) = s := by
  induction s with
  | nil => rfl
  | cons u s ih => rw [List.map_cons, ofStr_cons, units_single, ih, List.singleton_append]

theorem utf8_single : ∀ n : Fin 128, String.utf8EncodeChar
    ((single (UInt16.ofNat n.val)).toChar?.getD '\uFFFD') = [UInt8.ofNat n.val] := by
  decide +kernel

theorem utf8_of_small (small : ∀ u ∈ s, u.toNat < 128) : utf8 s = toAscii s := by
  rw [utf8, codePoints_of_small small, List.flatMap_map]
  induction s with
  | nil => rfl
  | cons u s ih =>
      have here := utf8_single ⟨u.toNat, small u List.mem_cons_self⟩
      rw [UInt16.ofNat_toNat] at here
      rw [List.flatMap_cons, here, ih fun v mem => small v (List.mem_cons_of_mem u mem)]
      rfl

theorem Printable.small (printable : s.Printable) : ∀ u ∈ s, u.toNat < 128 :=
  fun u mem => (printable u mem).2.trans_lt (by norm_num)

theorem Printable.ofStr_codePoints (printable : s.Printable) : ofStr s.codePoints = s := by
  rw [codePoints_of_small printable.small, ofStr_single]

end JsStr

/-! ## A JSON for flat objects -/

/-- A runtime with a JSON; a text is what `JsonText` writes without spaces. -/
def JsRuntime.textual : JsRuntime :=
  { JsRuntime.plain with
    jsonStringify := fun v => JsStr.ofAscii ((JsonText.val .compact v.toVal).getD [])
    jsonParse := fun s =>
      match (JsonText.loads s.toAscii).toOption.bind JsRuntime.plain.ofVal with
      | some v => .ok v
      | none => .error ⟨.error, [.lit "Unexpected end of JSON input"]⟩ }

namespace JsonText

/-- A text of ASCII characters. -/
def Ascii (b : Bytes) : Prop := ∀ x ∈ b, x.toNat < 128

theorem ascii_cons {x : UInt8} {b : Bytes} : Ascii (x :: b) ↔ x.toNat < 128 ∧ Ascii b :=
  List.forall_mem_cons

theorem ascii_append {a b : Bytes} : Ascii (a ++ b) ↔ Ascii a ∧ Ascii b :=
  List.forall_mem_append

theorem ascii_body (s : Str) : Ascii (body s) := by
  intro x mem
  have range := (body_range s x mem).2
  rw [UInt8.le_iff_toNat_le] at range
  exact Nat.lt_of_le_of_lt range (by decide)

theorem joined_codePoints {s : JsStr} (printable : s.Printable) :
    s.codePoints.reread = s.codePoints := by
  rw [JsStr.codePoints_of_small printable.small]
  refine Str.reread_of_forall fun c mem => ?_
  obtain ⟨u, here, rfl⟩ := List.mem_map.mp mem
  have high := (printable u here).2
  rw [CodePoint.isHighSurrogate, Bool.and_eq_false_iff, decide_eq_false_iff_not]
  exact .inl (by show ¬ 0xD800 ≤ u.toNat; omega)

theorem ascii_digits (n : ℕ) : Ascii (digits n) := by
  intro x mem
  have digit := isDigit_of_mem mem
  rw [isDigit, Bool.and_eq_true, decide_eq_true_eq, decide_eq_true_eq, UInt8.le_iff_toNat_le,
    UInt8.le_iff_toNat_le] at digit
  exact digit.2.trans_lt (by decide)

/-- A flat value is written, and read back as it was. -/
theorem exists_val {v : JsVal} (flat : v.Flat) :
    (∃ b, val .compact v.toVal = some b ∧ Ascii b) ∧ joined v.toVal = v.toVal ∧
      JsRuntime.plain.ofVal v.toVal = some v := by
  cases flat with
  | null =>
      have ascii : Ascii [110, 117, 108, 108] := by simp [Ascii]
      exact ⟨⟨_, rfl, ascii⟩, rfl, rfl⟩
  | @number n small =>
      have whole : (JsVal.number (.finite n)).toVal = .int n := by
        have bound : |(n : ℚ)| < 10 ^ 21 := by
          rw [abs_of_nonneg (Nat.cast_nonneg n)]
          exact_mod_cast small.trans (by norm_num)
        rw [JsVal.toVal, if_pos ⟨Rat.den_natCast n, bound⟩, Rat.num_natCast]
      have printable : Str.printable n = true :=
        Str.printable_of_lt (k := 16) (small.trans (by norm_num)) (by norm_num) (by norm_num)
      rw [whole]
      refine ⟨⟨digits n, ?_, ascii_digits n⟩, rfl, ?_⟩
      · rw [val, number, if_pos printable, if_neg (by omega), Int.natAbs_natCast]
      · show some (JsVal.number (.finite ((n : ℤ) : ℚ))) = _
        rw [Int.cast_natCast]
  | @string s printable =>
      refine ⟨⟨34 :: body s.codePoints, rfl, ascii_cons.mpr ⟨by decide, ascii_body _⟩⟩, ?_, ?_⟩
      · rw [JsVal.toVal, joined, joined_codePoints printable]
      · rw [JsVal.toVal, JsRuntime.ofVal, printable.ofStr_codePoints]

theorem exists_members {o : JsObject} (keys : ∀ field ∈ o, field.1.Printable)
    (values : ∀ field ∈ o, field.2.Flat) :
    (∃ b, members .compact (JsVal.toItems o) = some b ∧ Ascii b) ∧
      joinedItems (JsVal.toItems o) = JsVal.toItems o ∧
      JsRuntime.plain.ofItems (JsVal.toItems o) = some o := by
  induction o with
  | nil => exact ⟨⟨[125], rfl, by simp [Ascii]⟩, rfl, rfl⟩
  | cons field o ih =>
      obtain ⟨key, v⟩ := field
      have printable := keys _ List.mem_cons_self
      obtain ⟨⟨bv, written, asciiVal⟩, same, read⟩ := exists_val (values _ List.mem_cons_self)
      obtain ⟨⟨bi, rest, asciiRest⟩, others, back⟩ := ih
        (fun f mem => keys f (List.mem_cons_of_mem _ mem))
        (fun f mem => values f (List.mem_cons_of_mem _ mem))
      refine ⟨⟨[44] ++ (34 :: (body key.codePoints ++ ([58] ++ (bv ++ bi)))), ?_, ?_⟩, ?_, ?_⟩
      · rw [JsVal.toItems, members, written, rest]
        rfl
      · simp only [ascii_append, ascii_cons]
        exact ⟨⟨by decide, nofun⟩, by decide, ascii_body _, ⟨by decide, nofun⟩, asciiVal,
          asciiRest⟩
      · rw [JsVal.toItems, joinedItems, joined_codePoints printable, same, others]
      · rw [JsVal.toItems, JsRuntime.ofItems, read, back, printable.ofStr_codePoints]
        rfl

/-- An object is its members without the first comma, in braces. -/
theorem exists_object {o : JsObject} (flat : o.Flat) :
    (∃ b, val .compact (JsVal.toVal (.object o)) = some b ∧ Ascii b) ∧
      joined (JsVal.toVal (.object o)) = JsVal.toVal (.object o) ∧
      JsRuntime.plain.ofVal (JsVal.toVal (.object o)) = some (.object o) := by
  have keys := fun field mem => (flat.keys field mem).1
  obtain ⟨⟨b, written, ascii⟩, same, back⟩ := exists_members keys flat.values
  refine ⟨?_, ?_, ?_⟩
  · cases o with
    | nil => exact ⟨[123, 125], rfl, by simp [Ascii]⟩
    | cons field o =>
        obtain ⟨key, v⟩ := field
        rw [JsVal.toItems] at written
        simp only [members, Option.bind_eq_bind, Option.bind_eq_some_iff, Option.pure_def,
          Option.some.injEq] at written
        obtain ⟨bv, head, bi, tail, rfl⟩ := written
        refine ⟨123 :: 34 :: (body key.codePoints ++ ([58] ++ (bv ++ bi))), ?_, ?_⟩
        · rw [JsVal.toVal, JsVal.toItems, val, head, tail]
          rfl
        · rw [ascii_append, ascii_cons] at ascii
          exact ascii_cons.mpr ⟨by decide, ascii_cons.mpr ascii.2⟩
  · rw [JsVal.toVal, joined, same]
  · rw [JsVal.toVal, JsRuntime.ofVal, back]
    rfl

end JsonText

theorem JsRuntime.textual_json : JsRuntime.textual.JsonCorrect where
  reads := by
    intro o flat
    obtain ⟨⟨b, written, ascii⟩, same, back⟩ := JsonText.exists_object flat
    have text : JsRuntime.textual.jsonStringify (.object o) = JsStr.ofAscii b := by
      show JsStr.ofAscii ((JsonText.val .compact (JsVal.toVal (.object o))).getD []) = _
      rw [written]
      rfl
    have small : ∀ u ∈ JsStr.ofAscii b, u.toNat < 128 := by
      intro u mem
      obtain ⟨x, here, rfl⟩ := List.mem_map.mp mem
      rw [JsStr.toNat_ofNat_toNat]
      exact ascii x here
    have dumped : JsonText.dumps .compact (JsVal.toVal (.object o)) = .ok b := by
      rw [JsonText.dumps, written]
    have loaded := JsonText.loads_dumps JsonText.Separators.compact_lawful dumped
    rw [text, JsStr.utf8_of_small small, JsStr.toAscii_ofAscii]
    show (match (JsonText.loads (JsStr.toAscii (JsStr.ofAscii b))).toOption.bind
        JsRuntime.plain.ofVal with
      | some v => Except.ok v
      | none => .error _) = _
    rw [JsStr.toAscii_ofAscii, loaded, same, Except.toOption, Option.bind_some, back]

end Uxsp
