import Mathlib

/-!
# Length-prefixed concatenation

Fields over an alphabet `α` are written one after another, each behind a header of fixed width
that holds its length.  With headers that tell lengths below a bound apart, the concatenation
determines the list of fields: `LengthPrefix.join_injective`.
-/

namespace Uxsp.LengthPrefix

variable {α : Type*} (header : ℕ → List α)

/-- The fields in order, each behind its header. -/
def join (fields : List (List α)) : List α :=
  fields.flatMap fun f => header f.length ++ f

@[simp] theorem join_nil : join header [] = [] := rfl

@[simp] theorem join_cons (f : List α) (fields : List (List α)) :
    join header (f :: fields) = header f.length ++ (f ++ join header fields) := by
  simp [join]

/-- Headers have one positive width and tell lengths below `bound` apart. -/
structure Lawful (bound : ℕ) : Prop where
  width : ∃ w, 0 < w ∧ ∀ n, (header n).length = w
  inj : ∀ m n, m < bound → n < bound → header m = header n → m = n

variable {header} {bound : ℕ}

/-- The first field of a concatenation and the rest are determined by it. -/
theorem Lawful.split (law : Lawful header bound) {f g : List α} {s t : List α}
    (hf : f.length < bound) (hg : g.length < bound)
    (same : header f.length ++ (f ++ s) = header g.length ++ (g ++ t)) : f = g ∧ s = t := by
  obtain ⟨w, _, width⟩ := law.width
  obtain ⟨headers, bodies⟩ := List.append_inj same ((width _).trans (width _).symm)
  exact List.append_inj bodies (law.inj _ _ hf hg headers)

theorem Lawful.join_eq_nil (law : Lawful header bound) {fields : List (List α)}
    (h : join header fields = []) : fields = [] := by
  cases fields with
  | nil => rfl
  | cons f fields =>
      obtain ⟨w, positive, width⟩ := law.width
      have empty := (List.append_eq_nil_iff.mp ((join_cons header f fields).symm.trans h)).1
      have := width f.length
      rw [empty] at this
      exact absurd this.symm positive.ne'

/-- The concatenation determines the fields. -/
theorem Lawful.join_injective (law : Lawful header bound) :
    ∀ {fs gs : List (List α)}, (∀ f ∈ fs, f.length < bound) → (∀ g ∈ gs, g.length < bound) →
      join header fs = join header gs → fs = gs
  | [], gs, _, _, same => (law.join_eq_nil same.symm).symm
  | f :: fs, [], _, _, same => law.join_eq_nil same
  | f :: fs, g :: gs, hfs, hgs, same => by
      rw [join_cons, join_cons] at same
      obtain ⟨rfl, rest⟩ := law.split (hfs f List.mem_cons_self) (hgs g List.mem_cons_self) same
      rw [law.join_injective (fun f hf => hfs f (List.mem_cons_of_mem _ hf))
        (fun g hg => hgs g (List.mem_cons_of_mem _ hg)) rest]

/-- The big-endian digits of `n` in base `b`, `w` of them. -/
def bigEndian (b : ℕ) (w n : ℕ) : List ℕ :=
  (List.range w).reverse.map fun i => n / b ^ i % b

@[simp] theorem length_bigEndian (b w n : ℕ) : (bigEndian b w n).length = w := by
  simp [bigEndian]

theorem bigEndian_succ (b w n : ℕ) :
    bigEndian b (w + 1) n = n / b ^ w % b :: bigEndian b w n := by
  simp [bigEndian, List.range_succ]

/-- Fixed-width digits determine a number that fits. -/
theorem bigEndian_inj {b : ℕ} :
    ∀ {w m n : ℕ}, m < b ^ w → n < b ^ w → bigEndian b w m = bigEndian b w n → m = n := by
  have mod_eq : ∀ {w m n : ℕ}, bigEndian b w m = bigEndian b w n → m % b ^ w = n % b ^ w := by
    intro w
    induction w with
    | zero => intro m n _; simp [Nat.mod_one]
    | succ w ih =>
        intro m n same
        rw [bigEndian_succ, bigEndian_succ] at same
        obtain ⟨top, rest⟩ := List.cons.inj same
        rw [pow_succ, Nat.mod_mul, Nat.mod_mul, ih rest, top]
  intro w m n hm hn same
  have := mod_eq same
  rwa [Nat.mod_eq_of_lt hm, Nat.mod_eq_of_lt hn] at this

/-- The number big-endian digits in base `b` denote. -/
def ofBigEndian (b : ℕ) (digits : List ℕ) : ℕ := digits.foldl (fun n d => n * b + d) 0

/-- Reading back the digits of a number that fits. -/
theorem ofBigEndian_bigEndian {b w n : ℕ} (fits : n < b ^ w) :
    ofBigEndian b (bigEndian b w n) = n := by
  have read : ∀ w start, (bigEndian b w n).foldl (fun n d => n * b + d) start =
      start * b ^ w + n % b ^ w := by
    intro w
    induction w with
    | zero =>
        intro start
        simp [bigEndian, Nat.mod_one]
    | succ w ih =>
        intro start
        rw [bigEndian_succ, List.foldl_cons, ih, pow_succ, Nat.mod_mul]
        ring
  rw [ofBigEndian, read w 0, Nat.zero_mul, Nat.zero_add, Nat.mod_eq_of_lt fits]

end Uxsp.LengthPrefix
