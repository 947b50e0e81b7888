import Mathlib

/-!
# Cutting a list into slices

`slices size xs` cuts `xs` from the left into slices of `size` elements, the last one with what is
left.  The slices in order are the list: `flatten_slices`.
-/

namespace Uxsp.Slices

variable {α : Type*}

/-- How many slices a list of `length` elements takes. -/
def count (size length : ℕ) : ℕ := (length + size - 1) / size

/-- The slices that start at `0`, `size`, `2 * size` and so on. -/
def slices (size : ℕ) (xs : List α) : List (List α) :=
  (List.range (count size xs.length)).map fun k => (xs.drop (k * size)).take size

@[simp] theorem length_slices (size : ℕ) (xs : List α) :
    (slices size xs).length = count size xs.length := by
  rw [slices, List.length_map, List.length_range]

theorem length_le_count {size length : ℕ} (positive : 0 < size) :
    length ≤ count size length * size := by
  have cut := Nat.div_add_mod (length + size - 1) size
  have rest := Nat.mod_lt (length + size - 1) positive
  rw [count, Nat.mul_comm]
  omega

theorem count_pos {size length : ℕ} (positive : 0 < size) (nonempty : 0 < length) :
    0 < count size length :=
  Nat.div_pos (by omega) positive

/-- There are not more slices than elements. -/
theorem count_le {size length : ℕ} (positive : 0 < size) : count size length ≤ length := by
  rw [count, Nat.div_le_iff_le_mul_add_pred positive]
  have wide := Nat.le_mul_of_pos_left length positive
  omega

/-- The first `n` slices are the first `n * size` elements. -/
theorem flatten_range (size : ℕ) (xs : List α) (n : ℕ) :
    ((List.range n).map fun k => (xs.drop (k * size)).take size).flatten = xs.take (n * size) := by
  induction n with
  | zero => simp
  | succ n ih =>
      rw [List.range_succ, List.map_append, List.flatten_append, ih, List.map_singleton,
        List.flatten_singleton, Nat.succ_mul, List.take_add]

theorem count_succ {size length : ℕ} (positive : 0 < size) (nonempty : 0 < length) :
    count size length = count size (length - size) + 1 := by
  have first : count size length = (length - 1) / size + 1 := by
    rw [count, Nat.sub_add_comm nonempty, Nat.add_div_right _ positive]
  rw [first, count]
  rcases Nat.lt_or_ge length size with short | long
  · rw [Nat.sub_eq_zero_of_le short.le, Nat.zero_add, Nat.div_eq_of_lt (by omega),
      Nat.div_eq_of_lt (by omega)]
  · rw [show length - size + size - 1 = length - 1 by omega]

/-- The first slice, and those of what it leaves. -/
theorem slices_of_ne_nil {size : ℕ} (positive : 0 < size) {xs : List α}
    (nonempty : xs ≠ []) : slices size xs = xs.take size :: slices size (xs.drop size) := by
  have length := List.length_pos_iff.mpr nonempty
  rw [slices, count_succ positive length, List.range_succ_eq_map, List.map_cons, List.map_map,
    slices, List.length_drop, Nat.zero_mul, List.drop_zero]
  refine congrArg _ (List.map_congr_left fun k _ => ?_)
  rw [Function.comp_apply, List.drop_drop, Nat.succ_mul, Nat.add_comm size]

theorem flatten_slices {size : ℕ} (positive : 0 < size) (xs : List α) :
    (slices size xs).flatten = xs := by
  rw [slices, flatten_range]
  exact List.take_of_length_le (length_le_count positive)

theorem length_of_mem_slices {size : ℕ} {xs slice : List α} (mem : slice ∈ slices size xs) :
    slice.length ≤ size := by
  rcases List.mem_map.mp mem with ⟨k, _, rfl⟩
  exact List.length_take_le _ _

/-- No slice is empty. -/
theorem ne_nil_of_mem_slices {size : ℕ} (positive : 0 < size) {xs slice : List α}
    (mem : slice ∈ slices size xs) : slice ≠ [] := by
  obtain ⟨k, inside, rfl⟩ := List.mem_map.mp mem
  have before := (Nat.le_div_iff_mul_le positive).mp (Nat.succ_le_of_lt (List.mem_range.mp inside))
  rw [Nat.succ_mul] at before
  refine List.ne_nil_of_length_pos ?_
  rw [List.length_take, List.length_drop]
  omega

end Uxsp.Slices
