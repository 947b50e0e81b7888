import Mathlib

/-!
# The values of a register

`log` lists the values that a register has held, oldest first; the value at `0` is the one that it
had at the start, and the value at `k` the one that its `k`-th write left.  `Since log k a` says
that `a` was the value at or after the `k`-th write.
-/

namespace Uxsp.Versions

variable {α : Type*} {log log' : List α} {k k' : ℕ} {a : α}

/-- The value `a` is not older than what the `k`-th write left.  Nothing is said for `k = 0`. -/
def Since (log : List α) (k : ℕ) (a : α) : Prop := 0 < k → ∃ m, k ≤ m ∧ log[m]? = some a

theorem since_zero : Since log 0 a := fun h => absurd h (lt_irrefl 0)

theorem since_of_getElem? (found : log[k]? = some a) : Since log k a := fun _ => ⟨k, le_rfl, found⟩

/-- Later writes change nothing about it. -/
theorem Since.mono (since : Since log k a) (le : log <+: log') : Since log' k a := by
  intro pos
  obtain ⟨m, after, found⟩ := since pos
  obtain ⟨more, rfl⟩ := le
  refine ⟨m, after, ?_⟩
  rw [List.getElem?_append_left (List.getElem?_eq_some_iff.mp found).1, found]

theorem Since.anti (since : Since log k a) (le : k' ≤ k) : Since log k' a := by
  intro pos
  obtain ⟨m, le', found⟩ := since (by omega)
  exact ⟨m, by omega, found⟩

theorem Since.max (since : Since log k a) (since' : Since log k' a) : Since log (max k k') a := by
  obtain le | le := le_total k k'
  · rwa [max_eq_right le]
  · rwa [max_eq_left le]

/-- The value that the register has is as new as any. -/
theorem since_getLast? (last : log.getLast? = some a) (lt : k < log.length) : Since log k a := by
  intro _
  rw [List.getLast?_eq_getElem?] at last
  exact ⟨_, by omega, last⟩

end Uxsp.Versions
