import Mathlib

/-!
# Sliding replay windows

An ideal replay window of width `W` over the numbers accepted so far, and what an implementation
may forget of them.  `Admits W A n` says that `n` is new and not older than the window below the
largest accepted number.  `Remembers W A S` says that the finite set `S` is good enough a memory
of `A`: it invents nothing, keeps the maximum, and keeps everything inside the window.

* `Remembers.admits_iff`: membership and floor test on `S` decide `Admits W A`.
* `Remembers.insert`, `Remembers.forget`: the two updates an implementation makes.
-/

namespace Uxsp.Window

/-- The largest element, `-1` for the empty set. -/
def top (A : Finset ℕ) : ℤ := A.fold max (-1) (fun n : ℕ => (n : ℤ))

theorem le_top {A : Finset ℕ} {n : ℕ} (h : n ∈ A) : (n : ℤ) ≤ top A :=
  (Finset.le_fold_max (n : ℤ)).mpr (Or.inr ⟨n, h, le_refl _⟩)

theorem top_le_iff {A : Finset ℕ} {b : ℤ} : top A ≤ b ↔ -1 ≤ b ∧ ∀ n ∈ A, (n : ℤ) ≤ b :=
  Finset.fold_max_le b

theorem neg_one_le_top (A : Finset ℕ) : -1 ≤ top A := (top_le_iff.mp (le_refl _)).1

@[simp] theorem top_empty : top ∅ = -1 := rfl

theorem top_eq_neg_one_iff {A : Finset ℕ} : top A = -1 ↔ A = ∅ := by
  refine ⟨fun h => ?_, fun h => h ▸ rfl⟩
  refine Finset.eq_empty_of_forall_notMem fun n hn => ?_
  have := le_top hn
  omega

/-- A nonempty set attains its maximum. -/
theorem exists_eq_top {A : Finset ℕ} (h : A.Nonempty) : ∃ n ∈ A, (n : ℤ) = top A := by
  obtain ⟨n, hn, largest⟩ := A.exists_max_image id h
  refine ⟨n, hn, le_antisymm (le_top hn) (top_le_iff.mpr ⟨by omega, ?_⟩)⟩
  intro m hm
  exact_mod_cast largest m hm

theorem top_insert (n : ℕ) (A : Finset ℕ) : top (insert n A) = max (n : ℤ) (top A) := by
  refine le_antisymm (top_le_iff.mpr ⟨?_, ?_⟩) (max_le (le_top (Finset.mem_insert_self n A)) ?_)
  · exact le_max_of_le_right (neg_one_le_top A)
  · intro m hm
    rcases Finset.mem_insert.mp hm with rfl | hm
    · exact le_max_left _ _
    · exact le_max_of_le_right (le_top hm)
  · exact top_le_iff.mpr
      ⟨neg_one_le_top _, fun m hm => le_top (Finset.mem_insert_of_mem hm)⟩

theorem top_mono {A B : Finset ℕ} (h : A ⊆ B) : top A ≤ top B :=
  top_le_iff.mpr ⟨neg_one_le_top B, fun _ hn => le_top (h hn)⟩

/-- A subset that keeps the largest element has the same maximum. -/
theorem top_eq_of_subset {A S : Finset ℕ} (sub : S ⊆ A)
    (keeps : ∀ n ∈ A, (n : ℤ) = top A → n ∈ S) : top S = top A := by
  rcases A.eq_empty_or_nonempty with rfl | nonempty
  · rw [Finset.subset_empty.mp sub]
  · obtain ⟨n, hn, largest⟩ := exists_eq_top nonempty
    exact le_antisymm (top_mono sub) (largest ▸ le_top (keeps n hn largest))

/-- `n` is new and not below the window under the largest accepted number. -/
def Admits (W : ℕ) (A : Finset ℕ) (n : ℕ) : Prop := n ∉ A ∧ top A < n + W

instance (W : ℕ) (A : Finset ℕ) (n : ℕ) : Decidable (Admits W A n) :=
  inferInstanceAs (Decidable (_ ∧ _))

/-- `S` is a sufficient memory of the accepted set `A` for windows of width `W`. -/
structure Remembers (W : ℕ) (A S : Finset ℕ) : Prop where
  sub : S ⊆ A
  top_eq : top S = top A
  inside : ∀ n ∈ A, top A < n + W → n ∈ S

theorem Remembers.refl (W : ℕ) (A : Finset ℕ) : Remembers W A A :=
  ⟨Finset.Subset.refl A, rfl, fun _ hn _ => hn⟩

/-- Testing the memory and the floor decides the ideal window. -/
theorem Remembers.admits_iff {W : ℕ} {A S : Finset ℕ} (h : Remembers W A S) (n : ℕ) :
    (n ∉ S ∧ top S < n + W) ↔ Admits W A n := by
  rw [h.top_eq]
  constructor
  · rintro ⟨unseen, floor⟩
    exact ⟨fun hn => unseen (h.inside n hn floor), floor⟩
  · rintro ⟨fresh, floor⟩
    exact ⟨fun hn => fresh (h.sub hn), floor⟩

theorem Remembers.insert {W : ℕ} {A S : Finset ℕ} (h : Remembers W A S) (n : ℕ) :
    Remembers W (insert n A) (insert n S) where
  sub := Finset.insert_subset_insert n h.sub
  top_eq := by rw [top_insert, top_insert, h.top_eq]
  inside := by
    intro m hm floor
    rcases Finset.mem_insert.mp hm with rfl | hm
    · exact Finset.mem_insert_self _ _
    · refine Finset.mem_insert_of_mem (h.inside m hm ?_)
      rw [top_insert] at floor
      exact lt_of_le_of_lt (le_max_right _ _) floor

/-- Forgetting numbers that are below the window is harmless. -/
theorem Remembers.forget {W : ℕ} {A S T : Finset ℕ} (h : Remembers W A S) (width : 0 < W)
    (sub : T ⊆ S) (keeps : ∀ n ∈ S, top A < n + W → n ∈ T) : Remembers W A T where
  sub := fun _ hn => h.sub (sub hn)
  top_eq := by
    rw [← h.top_eq]
    refine top_eq_of_subset sub fun n hn largest => keeps n hn ?_
    rw [← h.top_eq, ← largest]
    omega
  inside := fun n hn floor => keeps n (h.inside n hn floor) floor

end Uxsp.Window
