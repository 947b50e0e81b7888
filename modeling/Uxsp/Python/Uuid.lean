import Uxsp.Python.Value

/-!
# `uuid`

`Uuid.parses` is whether `uuid.UUID(s)` returns; `Uuid4.str` is `str(uuid.uuid4())`, a function of
the digits drawn.  What is printed parses: `Uuid4.parses_str`.
-/

namespace Uxsp

namespace Str

/-- `s.replace(pat, "")`; `skip` characters of the occurrence just found are still to be left
out. -/
def removeAll (pat : Str) : ℕ → Str → Str
  | _, [] => []
  | skip + 1, _ :: cs => removeAll pat skip cs
  | 0, c :: cs =>
      if pat.isPrefixOf (c :: cs) then removeAll pat (pat.length - 1) cs
      else c :: removeAll pat 0 cs

/-- `s.strip(chars)`. -/
def strip (chars : Str) (s : Str) : Str :=
  ((s.dropWhile chars.contains).reverse.dropWhile chars.contains).reverse

theorem removeAll_of_notMem {p : CodePoint} {pat s : Str} (h : p ∉ s) :
    removeAll (p :: pat) 0 s = s := by
  induction s with
  | nil => rfl
  | cons c cs ih =>
      have other : (p == c) = false :=
        beq_eq_false_iff_ne.mpr fun same => h (same ▸ List.mem_cons_self)
      rw [removeAll, List.isPrefixOf, other, Bool.false_and, if_neg Bool.false_ne_true,
        ih fun hc => h (List.mem_cons_of_mem c hc)]

theorem dropWhile_of_forall {p : CodePoint → Bool} {s : Str} (h : ∀ c ∈ s, p c = false) :
    s.dropWhile p = s := by
  cases s with
  | nil => rfl
  | cons c s => rw [List.dropWhile_cons, h c List.mem_cons_self]; rfl

theorem strip_of_forall {chars s : Str} (h : ∀ c ∈ s, chars.contains c = false) :
    strip chars s = s := by
  rw [strip, dropWhile_of_forall h, dropWhile_of_forall, List.reverse_reverse]
  exact fun c hc => h c (List.mem_reverse.mp hc)

end Str

/-- Whether `uuid.UUID(s)` accepts the string. -/
def Uuid.parses (R : Runtime) (s : Str) : Bool :=
  let hex := Str.removeAll "uuid:" 0 (Str.removeAll "urn:" 0 s)
  let hex := Str.removeAll "-" 0 (Str.strip "\x7b\x7d" hex)
  hex.length = 32 &&
    match hex.toInt? R.decimal 16 with
    | some n => 0 ≤ n && n < 2 ^ 128
    | none => false

/-- The hexadecimal digits of a random UUID: version 4, variant 10. -/
structure Uuid4 where
  digits : List (Fin 16)
  length_eq : digits.length = 32
  version : digits[12]? = some 4
  variant : ∃ d ∈ digits[16]?, 8 ≤ d.val ∧ d.val < 12

namespace Uuid4

/-- The least of them. -/
def least : Uuid4 where
  digits := List.replicate 12 0 ++ [4, 0, 0, 0, 8] ++ List.replicate 15 0
  length_eq := rfl
  version := rfl
  variant := ⟨8, rfl, by decide, by decide⟩

/-- Digits in groups of 8, 4, 4, 4 and 12, with hyphens between. -/
def grouped (digits : List (Fin 16)) : Str :=
  let hex := digits.map Str.hexDigit
  hex.take 8 ++ ("-" : Str) ++ (hex.drop 8).take 4 ++ ("-" : Str) ++ (hex.drop 12).take 4 ++
    ("-" : Str) ++ (hex.drop 16).take 4 ++ ("-" : Str) ++ hex.drop 20

/-- `str(uuid.uuid4())`. -/
def str (u : Uuid4) : Str := grouped u.digits

theorem mem_grouped {digits : List (Fin 16)} {c : CodePoint} (h : c ∈ grouped digits) :
    c = CodePoint.ofChar '-' ∨ ∃ d, c = Str.hexDigit d := by
  have hyphen : c ∈ ("-" : Str) → c = CodePoint.ofChar '-' := List.mem_singleton.mp
  have digit : c ∈ digits.map Str.hexDigit → ∃ d, c = Str.hexDigit d := fun hc => by
    obtain ⟨d, -, rfl⟩ := List.mem_map.mp hc
    exact ⟨d, rfl⟩
  simp only [grouped, List.mem_append] at h
  rcases h with (((((((h | h) | h) | h) | h) | h) | h) | h) | h
  · exact Or.inr (digit (List.mem_of_mem_take h))
  · exact Or.inl (hyphen h)
  · exact Or.inr (digit (List.mem_of_mem_drop (List.mem_of_mem_take h)))
  · exact Or.inl (hyphen h)
  · exact Or.inr (digit (List.mem_of_mem_drop (List.mem_of_mem_take h)))
  · exact Or.inl (hyphen h)
  · exact Or.inr (digit (List.mem_of_mem_drop (List.mem_of_mem_take h)))
  · exact Or.inl (hyphen h)
  · exact Or.inr (digit (List.mem_of_mem_drop h))

/-- No hexadecimal digit is one of the characters `uuid.UUID` looks for. -/
theorem hexDigit_plain (d : Fin 16) : Str.hexDigit d ≠ CodePoint.ofChar '-' ∧
    Str.hexDigit d ≠ CodePoint.ofChar 'u' ∧ Str.hexDigit d ≠ CodePoint.ofChar '_' ∧
    Str.hexDigit d ≠ CodePoint.ofChar '+' ∧ Str.hexDigit d ≠ CodePoint.ofChar 'x' ∧
    Str.hexDigit d ≠ CodePoint.ofChar 'X' ∧ (Str.hexDigit d).val < 123 ∧
    ("\x7b\x7d" : Str).contains (Str.hexDigit d) = false := by
  decide +revert

theorem hexDigit_ascii (d : Fin 16) : (Str.hexDigit d).val < 128 :=
  (hexDigit_plain d).2.2.2.2.2.2.1.trans (by norm_num)

theorem length_str (u : Uuid4) : u.str.length = 36 := by
  simp [str, grouped, u.length_eq, Str.ofString]

theorem removeAll_hyphen_append (s t : Str) :
    Str.removeAll "-" 0 (s ++ t) = Str.removeAll "-" 0 s ++ Str.removeAll "-" 0 t := by
  induction s with
  | nil => rfl
  | cons c s ih =>
      have single : ∀ rest : Str, ("-" : Str).isPrefixOf (c :: rest) =
          (CodePoint.ofChar '-' == c) := fun rest => by
        show (CodePoint.ofChar '-' == c && _) = _
        simp
      rw [List.cons_append, Str.removeAll, Str.removeAll, single, single]
      split
      · exact ih
      · rw [ih]
        rfl

theorem removeAll_hyphen_digits (ds : List CodePoint) (h : ∀ c ∈ ds, ∃ d, c = Str.hexDigit d) :
    Str.removeAll "-" 0 ds = ds := by
  refine Str.removeAll_of_notMem fun hc => ?_
  obtain ⟨d, same⟩ := h _ hc
  exact (hexDigit_plain d).1 same.symm

theorem removeAll_hyphen_grouped (digits : List (Fin 16)) :
    Str.removeAll "-" 0 (grouped digits) = digits.map Str.hexDigit := by
  have gone : Str.removeAll "-" 0 ("-" : Str) = [] := rfl
  have kept : ∀ ds, ds.Sublist (digits.map Str.hexDigit) → Str.removeAll "-" 0 ds = ds := by
    intro ds sub
    refine removeAll_hyphen_digits ds fun c hc => ?_
    obtain ⟨d, -, rfl⟩ := List.mem_map.mp (sub.subset hc)
    exact ⟨d, rfl⟩
  have part : ∀ i j, (((digits.map Str.hexDigit).drop i).take j).Sublist
      (digits.map Str.hexDigit) := fun i j => (List.take_sublist _ _).trans (List.drop_sublist _ _)
  simp only [grouped, removeAll_hyphen_append, gone, List.append_nil]
  rw [kept _ (List.take_sublist _ _), kept _ (part 8 4), kept _ (part 12 4), kept _ (part 16 4),
    kept _ (List.drop_sublist _ _)]
  have join : ∀ (hex : Str) i j, hex.take i ++ (hex.drop i).take j = hex.take (i + j) := by
    intro hex i j
    rw [← List.take_add]
  rw [join, join, join, List.take_append_drop]

/-- Hexadecimal digits are read to a number that fits. -/
theorem digits_hexDigit (ds : List (Fin 16)) (acc : ℕ) (blank : Bool)
    (start : blank = true → ds ≠ []) :
    ∃ n, Str.digits 16 acc blank (ds.map Str.hexDigit) = some n ∧
      n < (acc + 1) * 16 ^ ds.length := by
  induction ds generalizing acc blank with
  | nil =>
      cases blank with
      | true => exact absurd rfl (start rfl)
      | false => exact ⟨acc, rfl, by simp⟩
  | cons d ds ih =>
      obtain ⟨n, read, small⟩ := ih (acc * 16 + d.val) false nofun
      refine ⟨n, ?_, small.trans_le ?_⟩
      · rw [List.map_cons, Str.digits, if_neg (hexDigit_plain d).2.2.1,
          (Str.digitVal_hexDigit d).1]
        simp only [if_pos d.isLt, read]
      · rw [List.length_cons, pow_succ', ← Nat.mul_assoc]
        exact Nat.mul_le_mul_right _ (by have := d.isLt; omega)

theorem toInt?_hexDigits (decimal : CodePoint → Option (Fin 10)) {ds : List (Fin 16)}
    (nonempty : ds ≠ []) :
    ∃ n : ℕ, Str.toInt? decimal 16 (ds.map Str.hexDigit) = some (n : ℤ) ∧ n < 16 ^ ds.length := by
  obtain ⟨n, read, small⟩ := digits_hexDigit ds 0 true fun _ => nonempty
  refine ⟨n, ?_, by simpa using small⟩
  have asciiDigits : (ds.map Str.hexDigit).map (Str.toAscii decimal) = ds.map Str.hexDigit := by
    rw [List.map_map]
    refine List.map_congr_left fun d _ => if_pos ?_
    exact (hexDigit_plain d).2.2.2.2.2.2.1.trans (by decide)
  have unsigned : Str.sign (ds.map Str.hexDigit) = (false, ds.map Str.hexDigit) := by
    cases ds with
    | nil => rfl
    | cons d ds =>
        simp only [List.map_cons, Str.sign, if_neg (hexDigit_plain d).1,
          if_neg (hexDigit_plain d).2.2.2.1]
  have unprefixed : Str.dropHexPrefix (ds.map Str.hexDigit) = ds.map Str.hexDigit := by
    refine if_neg fun prefixed => ?_
    have digit : ∀ c ∈ (ds.map Str.hexDigit).take 2, ∃ d, c = Str.hexDigit d := by
      intro c hc
      obtain ⟨d, -, rfl⟩ := List.mem_map.mp (List.mem_of_mem_take hc)
      exact ⟨d, rfl⟩
    rcases prefixed with lower | upper
    · obtain ⟨d, same⟩ := digit (CodePoint.ofChar 'x') (by rw [lower]; decide)
      exact (hexDigit_plain d).2.2.2.2.1 same.symm
    · obtain ⟨d, same⟩ := digit (CodePoint.ofChar 'X') (by rw [upper]; decide)
      exact (hexDigit_plain d).2.2.2.2.2.1 same.symm
  have unspaced := Str.strip_eq (s := ds.map Str.hexDigit) fun c hc => by
    obtain ⟨d, -, rfl⟩ := List.mem_map.mp hc
    exact (Str.digitVal_hexDigit d).2
  rw [Str.toInt?, asciiDigits, unspaced]
  simp only [unsigned, unprefixed, if_true]
  rw [if_neg (by omega), read]
  simp

/-- What `str(uuid.uuid4())` prints is a UUID. -/
theorem parses_str (R : Runtime) (u : Uuid4) : Uuid.parses R u.str = true := by
  have noLetter : CodePoint.ofChar 'u' ∉ u.str := fun h => by
    rcases mem_grouped h with same | ⟨d, same⟩
    · exact absurd same (by decide)
    · exact (hexDigit_plain d).2.1 same.symm
  have noBrace : ∀ c ∈ u.str, ("\x7b\x7d" : Str).contains c = false := fun c h => by
    rcases mem_grouped h with rfl | ⟨d, rfl⟩
    · decide
    · exact (hexDigit_plain d).2.2.2.2.2.2.2
  have urn : Str.removeAll "urn:" 0 u.str = u.str := Str.removeAll_of_notMem noLetter
  have uuid : Str.removeAll "uuid:" 0 u.str = u.str := Str.removeAll_of_notMem noLetter
  have nonempty : u.digits ≠ [] := fun h => by
    have := u.length_eq
    rw [h] at this
    cases this
  obtain ⟨n, read, small⟩ := toInt?_hexDigits R.decimal nonempty
  rw [u.length_eq] at small
  have fits : n < 2 ^ 128 := small.trans_eq (by decide)
  simp only [Uuid.parses, urn, uuid, Str.strip_of_forall noBrace]
  rw [str, removeAll_hyphen_grouped, read, List.length_map, u.length_eq]
  simp only [decide_true, Bool.true_and, Bool.and_eq_true, decide_eq_true_eq]
  exact ⟨Int.natCast_nonneg n, by exact_mod_cast fits⟩

theorem encode_str (u : Uuid4) : ∃ b, u.str.encode = some b := by
  refine Str.exists_encode fun c h => ?_
  rcases mem_grouped h with rfl | ⟨d, rfl⟩
  · decide
  · exact hexDigit_ascii d

end Uuid4

end Uxsp
