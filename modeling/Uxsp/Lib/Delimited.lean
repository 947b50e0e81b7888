import Mathlib

/-!
# Delimited lines

A line `a ++ sep :: (d ++ sep :: r)` is three fields put behind one another with a separator that
may stand in the first and in the last field, though not in the middle one.  `line_eq_iff` says what
other fields make the same line.

`eq_of_interleaved` is about increasing sequences: one that leaves another must pass one of its
elements.

`before`, `after` and `afterLast` are the parts of a list around a separator.
-/

namespace Uxsp.Delimited

variable {α : Type*} {sep : α} {a a' d d' r r' : List α}

/-- Three fields as a line. -/
def line (sep : α) (a d r : List α) : List α := a ++ sep :: (d ++ sep :: r)

/-- A field without the separator ends at the first one. -/
theorem append_sep_inj (ha : sep ∉ a) (ha' : sep ∉ a') (same : a ++ sep :: r = a' ++ sep :: r') :
    a = a' ∧ r = r' := by
  induction a generalizing a' with
  | nil =>
      cases a' with
      | nil => exact ⟨rfl, (List.cons.inj same).2⟩
      | cons x a' =>
          obtain ⟨rfl, _⟩ := List.cons.inj same
          exact absurd List.mem_cons_self ha'
  | cons x a ih =>
      cases a' with
      | nil =>
          obtain ⟨rfl, _⟩ := List.cons.inj same
          exact absurd List.mem_cons_self ha
      | cons y a' =>
          obtain ⟨rfl, rest⟩ := List.cons.inj same
          have tails := ih (fun mem => ha (List.mem_cons_of_mem _ mem))
            (fun mem => ha' (List.mem_cons_of_mem _ mem)) rest
          exact ⟨congrArg _ tails.1, tails.2⟩

/-- The fields `a'`, `d'`, `r'` are read where the line of `a`, `d`, `r` has a field `d'` between two
separators behind its middle one. -/
def Behind (sep : α) (a d r a' d' r' : List α) : Prop :=
  (a' = a ++ sep :: d ∧ r = d' ++ sep :: r') ∨
    ∃ u, a' = a ++ sep :: (d ++ sep :: u) ∧ r = u ++ sep :: (d' ++ sep :: r')

theorem Behind.line_eq (behind : Behind sep a d r a' d' r') : line sep a' d' r' = line sep a d r := by
  rcases behind with ⟨rfl, rfl⟩ | ⟨u, rfl, rfl⟩
  · simp [line]
  · simp [line]

theorem Behind.ne (behind : Behind sep a d r a' d' r') : a' ≠ a := by
  intro same
  have longer : a.length < a'.length := by
    rcases behind with ⟨rfl, _⟩ | ⟨u, rfl, _⟩ <;> simp
  exact absurd (congrArg List.length same) longer.ne'

/-- A longer first field takes the middle one in. -/
theorem behind_of_line_eq (hd : sep ∉ d) (hd' : sep ∉ d') {x : α} {t : List α} (split : a' = a ++ x :: t)
    (same : line sep a' d' r' = line sep a d r) : Behind sep a d r a' d' r' := by
  subst split
  rw [line, line, List.append_assoc, List.append_cancel_left_eq, List.cons_append,
    List.cons.injEq] at same
  obtain ⟨rfl, same⟩ := same
  rcases List.append_eq_append_iff.mp same with ⟨u, inside, rest⟩ | ⟨u, inside, rest⟩
  · cases u with
    | nil =>
        rw [List.append_nil] at inside
        obtain ⟨_, rest⟩ := List.cons.inj (rest.trans (List.nil_append _))
        exact .inl ⟨by rw [inside], rest.symm⟩
    | cons y u =>
        rw [List.cons_append, List.cons.injEq] at rest
        obtain ⟨rfl, _⟩ := rest
        exact absurd (inside ▸ List.mem_append_right t List.mem_cons_self) hd
  · cases u with
    | nil =>
        rw [List.append_nil] at inside
        obtain ⟨_, rest⟩ := List.cons.inj ((List.nil_append _).symm.trans rest.symm)
        exact .inl ⟨by rw [inside], rest.symm⟩
    | cons y u =>
        rw [List.cons_append, List.cons.injEq] at rest
        obtain ⟨rfl, rest⟩ := rest
        exact .inr ⟨u, by rw [inside], rest⟩

/-- Two triples of fields make one line if they are equal or one is read behind the other. -/
theorem line_eq_iff (hd : sep ∉ d) (hd' : sep ∉ d') : line sep a' d' r' = line sep a d r ↔
    (a' = a ∧ d' = d ∧ r' = r) ∨ Behind sep a d r a' d' r' ∨ Behind sep a' d' r' a d r := by
  constructor
  · intro same
    rcases List.append_eq_append_iff.mp same with ⟨t, split, rest⟩ | ⟨t, split, rest⟩
    · cases t with
      | nil =>
          rw [List.append_nil] at split
          obtain ⟨_, rest⟩ := List.cons.inj rest
          obtain ⟨middle, last⟩ := append_sep_inj hd' hd rest
          exact .inl ⟨split.symm, middle, last⟩
      | cons x t => exact .inr (.inr (behind_of_line_eq hd' hd split same.symm))
    · cases t with
      | nil =>
          rw [List.append_nil] at split
          obtain ⟨_, rest⟩ := List.cons.inj rest
          obtain ⟨middle, last⟩ := append_sep_inj hd hd' rest
          exact .inl ⟨split, middle.symm, last.symm⟩
      | cons x t => exact .inr (.inl (behind_of_line_eq hd hd' split same))
  · rintro (⟨rfl, rfl, rfl⟩ | behind | behind)
    · rfl
    · exact behind.line_eq
    · exact behind.line_eq.symm

/-- Two increasing sequences are equal if the second moves no element of the first without passing
another one. -/
theorem eq_of_interleaved {β : Type*} [LinearOrder β] {n : ℕ} {f g : Fin n → β} (hf : StrictMono f)
    (hg : StrictMono g) (up : ∀ k, f k < g k → ∃ j, f k < f j ∧ f j ≤ g k)
    (down : ∀ k, g k < f k → ∃ j, g k ≤ f j ∧ f j < f k) : f = g := by
  have noUp : ∀ k, ¬ f k < g k := by
    -- the last element that moves up passes one that moves up too
    intro k
    induction k using WellFoundedGT.induction with
    | ind k ih =>
        intro less
        obtain ⟨j, left, right⟩ := up k less
        have later : k < j := hf.lt_iff_lt.mp left
        exact ih j later (right.trans_lt (hg later))
  have noDown : ∀ k, ¬ g k < f k := by
    intro k
    induction k using WellFoundedLT.induction with
    | ind k ih =>
        intro less
        obtain ⟨j, left, right⟩ := down k less
        have earlier : j < k := hf.lt_iff_lt.mp right
        exact ih j earlier ((hg earlier).trans_le left)
  funext k
  exact le_antisymm (not_lt.mp (noDown k)) (not_lt.mp (noUp k))

/-! ## The parts around a separator -/

section Parts

variable [DecidableEq α]

/-- What stands before the first separator; everything if there is none. -/
def before (sep : α) (s : List α) : List α := s.takeWhile fun x => x ≠ sep

/-- What stands behind the first separator. -/
def after (sep : α) (s : List α) : List α := (s.dropWhile fun x => x ≠ sep).drop 1

/-- What stands behind the last separator; everything if there is none. -/
def afterLast (sep : α) (s : List α) : List α := (s.reverse.takeWhile fun x => x ≠ sep).reverse

omit [DecidableEq α] in
/-- What satisfies a test is taken up to the first element that does not. -/
theorem takeWhile_of_stop {p : α → Bool} (inside : ∀ x ∈ a, p x = true)
    (stop : ∀ x ∈ r.head?, p x = false) : (a ++ r).takeWhile p = a := by
  rw [List.takeWhile_append_of_pos inside]
  cases r with
  | nil => exact List.append_nil a
  | cons x r => rw [List.takeWhile_cons_of_neg (by simp [stop x rfl]), List.append_nil]

omit [DecidableEq α] in
theorem dropWhile_of_stop {p : α → Bool} (inside : ∀ x ∈ a, p x = true)
    (stop : ∀ x ∈ r.head?, p x = false) : (a ++ r).dropWhile p = r := by
  rw [List.dropWhile_append_of_pos inside]
  cases r with
  | nil => rfl
  | cons x r => exact List.dropWhile_cons_of_neg (by simp [stop x rfl])

theorem ne_sep_of_mem (h : sep ∉ a) : ∀ x ∈ a, decide (x ≠ sep) = true :=
  fun _ mem => decide_eq_true fun same => h (same ▸ mem)

theorem before_append (h : sep ∉ a) : before sep (a ++ sep :: r) = a :=
  takeWhile_of_stop (ne_sep_of_mem h) (by simp)

theorem before_eq_self (h : sep ∉ a) : before sep a = a := by
  rw [before, List.takeWhile_eq_self_iff]
  exact ne_sep_of_mem h

theorem after_append (h : sep ∉ a) : after sep (a ++ sep :: r) = r := by
  rw [after, dropWhile_of_stop (ne_sep_of_mem h) (by simp)]
  rfl

theorem after_eq_nil (h : sep ∉ a) : after sep a = [] := by
  rw [after, List.dropWhile_eq_nil_iff.mpr (ne_sep_of_mem h)]
  rfl

theorem afterLast_append (h : sep ∉ r) : afterLast sep (a ++ sep :: r) = r := by
  rw [afterLast, List.reverse_append, List.reverse_cons, List.append_assoc, List.singleton_append,
    takeWhile_of_stop (ne_sep_of_mem (by simpa using h)) (by simp), List.reverse_reverse]

theorem afterLast_eq_self (h : sep ∉ a) : afterLast sep a = a := by
  rw [afterLast, List.takeWhile_eq_self_iff.mpr (ne_sep_of_mem (by simpa using h)),
    List.reverse_reverse]

end Parts

end Uxsp.Delimited
