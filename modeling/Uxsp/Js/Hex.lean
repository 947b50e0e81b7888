import Uxsp.Js.Json

/-!
# `decodeHex` and hexadecimal

`decodeHex` gives each pair of characters to `parseInt`, which leaves out white space, a sign and
`0x`, stops at the first character that is no digit and makes a NaN of the rest; a typed array
keeps 0 of a NaN.  Only an odd length is refused.

`decodeHex_exact_iff`: the strings that are decoded as hexadecimal should be are those of odd
length and those of hexadecimal digits.
-/

namespace Uxsp

namespace JsStr

/-- An even number of hexadecimal digits. -/
structure IsHex (s : JsStr) : Prop where
  even : s.length % 2 = 0
  digits : ∀ u ∈ s, (hexDigit? u).isSome = true

/-- The small letter of a capital one. -/
def lowerUnit (u : UInt16) : UInt16 := if 65 ≤ u ∧ u ≤ 90 then u + 32 else u

/-- `s.toLowerCase()` of ASCII. -/
def lower (s : JsStr) : JsStr := s.map lowerUnit

/-- The 22 digits. -/
def HEX_DIGITS : List UInt16 :=
  [48, 49, 50, 51, 52, 53, 54, 55, 56, 57, 97, 98, 99, 100, 101, 102, 65, 66, 67, 68, 69, 70]

theorem mem_hexDigits {u : UInt16} (digit : (hexDigit? u).isSome = true) : u ∈ HEX_DIGITS := by
  have ascii : u.toNat < 128 := by
    unfold hexDigit? at digit
    simp only at digit
    split at digit
    · omega
    · split at digit
      · omega
      · split at digit
        · omega
        · cases digit
  have all : ∀ n : Fin 128, (hexDigit? (UInt16.ofNat n.val)).isSome = true →
      UInt16.ofNat n.val ∈ HEX_DIGITS := by decide +kernel
  have here := all ⟨u.toNat, ascii⟩
  rw [UInt16.ofNat_toNat] at here
  exact here digit

/-- Two digits are read as the byte that is written with them. -/
theorem ofBytes_parseHex {u v : UInt16} (hu : (hexDigit? u).isSome = true)
    (hv : (hexDigit? v).isSome = true) :
    ofBytes [toUint8 (parseHex [u, v])] = [lowerUnit u, lowerUnit v] := by
  have all : (HEX_DIGITS.all fun u => HEX_DIGITS.all fun v =>
      ofBytes [toUint8 (parseHex [u, v])] == [lowerUnit u, lowerUnit v]) = true := by decide +kernel
  simp only [List.all_eq_true, beq_iff_eq] at all
  exact all u (mem_hexDigits hu) v (mem_hexDigits hv)

/-- Writing undoes the reading of digits, but for capital letters. -/
theorem IsHex.ofBytes_hexPairs {s : JsStr} (hex : s.IsHex) : ofBytes s.hexPairs = s.lower := by
  obtain ⟨even, digits⟩ := hex
  induction s using hexPairs.induct with
  | case1 u v s ih =>
      obtain ⟨hu, hv, rest⟩ : (hexDigit? u).isSome = true ∧ (hexDigit? v).isSome = true ∧
          ∀ w ∈ s, (hexDigit? w).isSome = true := by
        simpa only [List.forall_mem_cons] using digits
      have shorter : s.length % 2 = 0 := by
        simp only [List.length_cons] at even
        omega
      have here := ofBytes_parseHex hu hv
      have split : ofBytes (hexPairs (u :: v :: s)) =
          ofBytes [toUint8 (parseHex [u, v])] ++ ofBytes (hexPairs s) := rfl
      rw [split, here, ih shorter rest]
      rfl
  | case2 s short =>
      match s, short with
      | [], _ => rfl
      | [_], _ => simp at even
      | u :: v :: s, short => exact absurd rfl (short u v s)

end JsStr

/-- A string is decoded as hexadecimal should be: it is accepted exactly if it is hexadecimal, the
bytes are those it spells, and where it is malformed no other string decodes to the same bytes. -/
structure DecodesHex (R : JsRuntime) (s : JsStr) : Prop where
  accepts : (∃ b, decodeHex R (.string s) = .ok b) ↔ s.IsHex
  spells : ∀ b, decodeHex R (.string s) = .ok b → JsStr.ofBytes b = s.lower
  apart : ¬ s.IsHex → ∀ t b, decodeHex R (.string t) = .ok b → decodeHex R (.string s) ≠ .ok b

variable {R : JsRuntime} {s : JsStr}

theorem decodeHex_string_eq_ok {b : Bytes} :
    decodeHex R (.string s) = .ok b ↔ s.length % 2 = 0 ∧ b = s.hexPairs := by
  rw [decodeHex]
  split
  · rename_i even
    rw [Except.ok.injEq]
    exact ⟨fun same => ⟨even, same.symm⟩, fun h => h.2.symm⟩
  · rename_i odd
    exact iff_of_false (fun same => by cases same) fun h => odd h.1

/-- `decodeHex` accepts a string by its length alone. -/
theorem decodeHex_string_returns_iff :
    (∃ b, decodeHex R (.string s) = .ok b) ↔ s.length % 2 = 0 := by
  simp only [decodeHex_string_eq_ok, exists_and_left, exists_eq, and_true]

/-- Strings that decode to the same bytes are the same in lower case, if both decode as hexadecimal
should. -/
theorem DecodesHex.lower_eq {t : JsStr} (hs : DecodesHex R s) (ht : DecodesHex R t) {b : Bytes}
    (decoded : decodeHex R (.string s) = .ok b) (decoded' : decodeHex R (.string t) = .ok b) :
    s.lower = t.lower :=
  (hs.spells b decoded).symm.trans (ht.spells b decoded')

/-- A string is decoded as hexadecimal should be exactly if its length is odd or all its characters
are digits. -/
theorem decodeHex_exact_iff : DecodesHex R s ↔
    s.length % 2 = 1 ∨ ∀ u ∈ s, (JsStr.hexDigit? u).isSome = true := by
  constructor
  · intro exact
    rcases Nat.mod_two_eq_zero_or_one s.length with even | odd
    · exact Or.inr (exact.accepts.mp (decodeHex_string_returns_iff.mpr even)).digits
    · exact Or.inl odd
  · rintro (odd | digits)
    · have refused : ∀ b, decodeHex R (.string s) ≠ .ok b := by
        intro b decoded
        have even := (decodeHex_string_eq_ok.mp decoded).1
        omega
      have malformed : ¬ s.IsHex := by
        intro hex
        have even := hex.even
        omega
      refine ⟨⟨?_, fun hex => absurd hex malformed⟩, ?_, fun _ _ b _ => refused b⟩
      · rintro ⟨b, decoded⟩
        exact absurd decoded (refused b)
      · intro b decoded
        exact absurd decoded (refused b)
    · refine ⟨?_, ?_, ?_⟩
      · rw [decodeHex_string_returns_iff]
        exact ⟨fun even => ⟨even, digits⟩, fun hex => hex.even⟩
      · intro b decoded
        obtain ⟨even, rfl⟩ := decodeHex_string_eq_ok.mp decoded
        exact JsStr.IsHex.ofBytes_hexPairs ⟨even, digits⟩
      · intro malformed t b _ decoded
        exact malformed ⟨(decodeHex_string_eq_ok.mp decoded).1, digits⟩

/-- Two letters that are no digits are taken for a zero byte. -/
theorem decodeHex_not_exact : ¬ ∀ (R : JsRuntime) (s : JsStr), DecodesHex R s := by
  intro always
  have exact := always JsRuntime.textual "zz"
  have hex := exact.accepts.mp (decodeHex_string_returns_iff.mpr (by decide))
  have digit := hex.digits 122 (by decide)
  revert digit
  decide

end Uxsp
