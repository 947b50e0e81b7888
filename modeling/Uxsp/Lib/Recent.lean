import Mathlib

/-!
# A bounded memory of what came last

`push` adds to a list without repetition that holds at most `cap` elements and forgets the one that
has been in it longest.  What came in is in it while fewer than `cap` came after: `mem_pushes_of_after`.
-/

namespace Uxsp.Recent

variable {α : Type*} {cap : ℕ} {seen xs pre post : List α} {x y : α}

/-- Room for one more. -/
def trim (cap : ℕ) (seen : List α) : List α := if cap ≤ seen.length then seen.tail else seen

theorem mem_of_mem_trim (mem : y ∈ trim cap seen) : y ∈ seen := by
  unfold trim at mem
  split at mem
  · exact List.mem_of_mem_tail mem
  · exact mem

/-- Trimming spares what fewer than `cap` came after. -/
theorem trim_split {front back : List α} (few : back.length + 1 < cap) :
    ∃ front', trim cap (front ++ x :: back) = front' ++ x :: back := by
  unfold trim
  split
  · rename_i full
    cases front with
    | nil =>
        simp only [List.nil_append, List.length_cons] at full
        omega
    | cons f front => exact ⟨front, rfl⟩
  · exact ⟨front, rfl⟩

variable [DecidableEq α]

def push (cap : ℕ) (seen : List α) (x : α) : List α :=
  if x ∈ trim cap seen then trim cap seen else trim cap seen ++ [x]

/-- What is left of `xs`, that came in one after another. -/
def pushes (cap : ℕ) (xs : List α) : List α := xs.foldl (push cap) []

@[simp] theorem pushes_nil : pushes cap ([] : List α) = [] := rfl

theorem pushes_snoc : pushes cap (xs ++ [x]) = push cap (pushes cap xs) x := by
  rw [pushes, List.foldl_append]
  rfl

theorem mem_of_mem_push (mem : y ∈ push cap seen x) : y ∈ seen ∨ y = x := by
  unfold push at mem
  split at mem
  · exact Or.inl (mem_of_mem_trim mem)
  · rcases List.mem_append.mp mem with old | new
    · exact Or.inl (mem_of_mem_trim old)
    · exact Or.inr (List.mem_singleton.mp new)

/-- Only what came in is remembered. -/
theorem mem_of_mem_pushes (mem : y ∈ pushes cap xs) : y ∈ xs := by
  induction xs using List.reverseRecOn with
  | nil => cases mem
  | append_singleton xs x ih =>
      rw [pushes_snoc] at mem
      rcases mem_of_mem_push mem with old | new
      · exact List.mem_append_left _ (ih old)
      · exact List.mem_append_right _ (List.mem_singleton.mpr new)

theorem push_of_notMem (new : x ∉ seen) : push cap seen x = trim cap seen ++ [x] :=
  if_neg (mt mem_of_mem_trim new)

/-- What came in with fewer than `cap` after it is followed by no more than came after it. -/
theorem pushes_split (new : x ∉ pre) (few : post.length < cap) :
    ∃ front back, pushes cap (pre ++ x :: post) = front ++ x :: back ∧
      back.length ≤ post.length := by
  induction post using List.reverseRecOn with
  | nil =>
      rw [pushes_snoc, push_of_notMem (mt mem_of_mem_pushes new)]
      exact ⟨_, [], rfl, le_rfl⟩
  | append_singleton post y ih =>
      rw [List.length_append, List.length_singleton] at few
      obtain ⟨front, back, split, short⟩ := ih (by omega)
      obtain ⟨front', trimmed⟩ : ∃ front', trim cap (front ++ x :: back) = front' ++ x :: back :=
        trim_split (by omega)
      rw [← List.cons_append, ← List.append_assoc, pushes_snoc, split, push, trimmed,
        List.length_append, List.length_singleton]
      split
      · exact ⟨front', back, rfl, by omega⟩
      · refine ⟨front', back ++ [y], by simp, ?_⟩
        rw [List.length_append, List.length_singleton]
        omega

/-- What came in is remembered while fewer than `cap` came after. -/
theorem mem_pushes (new : x ∉ pre) (few : post.length < cap) :
    x ∈ pushes cap (pre ++ x :: post) := by
  obtain ⟨front, back, split, _⟩ := pushes_split new few
  rw [split]
  exact List.mem_append_right _ List.mem_cons_self

/-- What came after the first `x`. -/
def after (xs : List α) (x : α) : List α := (xs.dropWhile fun y => y ≠ x).tail

theorem mem_pushes_of_after (mem : x ∈ xs) (few : (after xs x).length < cap) :
    x ∈ pushes cap xs := by
  have split := List.takeWhile_append_dropWhile (p := fun y => decide (y ≠ x)) (l := xs)
  have new : x ∉ xs.takeWhile fun y => y ≠ x := fun inside => by
    simpa using List.mem_takeWhile_imp inside
  unfold after at few
  cases rest : xs.dropWhile fun y => y ≠ x with
  | nil =>
      rw [rest, List.append_nil] at split
      rw [split] at new
      exact absurd mem new
  | cons y post =>
      have here : y = x := by
        have stop := List.head?_dropWhile_not (fun y => decide (y ≠ x)) xs
        rw [rest] at stop
        simpa using stop
      rw [rest] at few split
      rw [← split, here]
      exact mem_pushes new few

/-- The last `cap` of different elements are left. -/
theorem pushes_of_nodup (room : 0 < cap) (nodup : xs.Nodup) :
    pushes cap xs = xs.drop (xs.length - cap) := by
  induction xs using List.reverseRecOn with
  | nil => simp
  | append_singleton xs x ih =>
      obtain ⟨before, _, apart⟩ := List.nodup_append.mp nodup
      have new : x ∉ pushes cap xs := fun mem =>
        apart x (mem_of_mem_pushes mem) x (List.mem_singleton.mpr rfl) rfl
      rw [pushes_snoc, push_of_notMem new, ih before, trim, List.length_drop, List.length_append,
        List.length_singleton, List.drop_append_of_le_length (by omega)]
      split
      · rw [List.tail_drop]
        congr 2
        omega
      · congr 2
        omega

end Uxsp.Recent
