import Mathlib

/-!
# Stable sorts by a preorder

A comparison that is transitive and total may find two different elements equal.  A stable sort
leaves those in the order they came in: `sort_filter_tied`.  So two arrangements of the same
elements sort alike, as far as `f` shows, exactly if they agree on each class of tied elements:
`map_sort_eq_iff`.
-/

namespace Uxsp.StableSort

variable {α β : Type*} {le : α → α → Bool} {l l' : List α} {f : α → β}

/-- The comparison finds the two equal. -/
def tied (le : α → α → Bool) (a b : α) : Bool := le a b && le b a

section

variable (trans : ∀ a b c, le a b = true → le b c = true → le a c = true)
  (total : ∀ a b, (le a b || le b a) = true)

include trans total

theorem sort_filter_tied (l : List α) (c : α) :
    (l.mergeSort le).filter (tied le c) = l.filter (tied le c) := by
  have together : (l.filter (tied le c)).Pairwise fun a b => le a b = true := by
    refine List.pairwise_iff_forall_sublist.mpr fun {a b} pair => ?_
    have inside : ∀ x ∈ [a, b], tied le c x = true := fun x mem =>
      (List.mem_filter.mp (pair.subset mem)).2
    have left := inside a List.mem_cons_self
    have right := inside b (List.mem_cons_of_mem a List.mem_cons_self)
    simp only [tied, Bool.and_eq_true] at left right
    exact trans a c b left.2 right.1
  have kept := (List.sublist_mergeSort trans total together List.filter_sublist).filter (tied le c)
  rw [List.filter_filter] at kept
  simp only [Bool.and_self] at kept
  refine (kept.eq_of_length_le ?_).symm
  exact ((List.mergeSort_perm l le).filter _).length_eq.le

/-- Place by place, two sorted arrangements of the same elements have tied elements. -/
theorem forall₂_tied (perm : l.Perm l') :
    List.Forall₂ (fun a b => tied le a b = true) (l.mergeSort le) (l'.mergeSort le) := by
  let order : Preorder α :=
    { le := fun a b => le a b = true
      le_refl := fun a => by simpa using total a a
      le_trans := trans }
  have ascending : ∀ l : List α,
      ((l.mergeSort le).map (toAntisymmetrization (· ≤ ·))).Pairwise (· ≤ ·) := by
    intro l
    rw [List.pairwise_map]
    exact List.pairwise_mergeSort trans total l
  have same : (l.mergeSort le).map (toAntisymmetrization (· ≤ ·)) =
      (l'.mergeSort le).map (toAntisymmetrization (· ≤ ·)) := by
    refine List.Perm.eq_of_pairwise (fun a b _ _ => le_antisymm) (ascending l) (ascending l') ?_
    exact (((List.mergeSort_perm l le).trans perm).trans (List.mergeSort_perm l' le).symm).map _
  rw [← List.forall₂_eq_eq_eq, List.forall₂_map_left_iff, List.forall₂_map_right_iff] at same
  refine same.imp fun a b equal => ?_
  obtain ⟨left, right⟩ := Quotient.exact equal
  exact Bool.and_eq_true_iff.mpr ⟨left, right⟩

omit total in
theorem tied_congr {a b : α} (same : tied le a b = true) (c : α) : tied le c a = tied le c b := by
  simp only [tied, Bool.and_eq_true] at same
  rw [Bool.eq_iff_iff]
  simp only [tied, Bool.and_eq_true]
  constructor
  · rintro ⟨below, above⟩
    exact ⟨trans c a b below same.1, trans b a c same.2 above⟩
  · rintro ⟨below, above⟩
    exact ⟨trans c b a below same.2, trans a b c same.1 above⟩

/-- Lists that are tied place by place look alike exactly if each class looks alike. -/
theorem map_eq_iff (aligned : List.Forall₂ (fun a b => tied le a b = true) l l') :
    l.map f = l'.map f ↔
      ∀ c, (l.filter (tied le c)).map f = (l'.filter (tied le c)).map f := by
  induction aligned with
  | nil => exact ⟨fun _ _ => rfl, fun _ => rfl⟩
  | @cons a b l l' same aligned ih =>
      have keep : ∀ c, tied le c b = tied le c a := fun c => (tied_congr trans same c).symm
      constructor
      · intro alike c
        obtain ⟨head, tail⟩ := List.cons.inj alike
        have rest := ih.mp tail c
        by_cases here : tied le c a = true
        · rw [List.filter_cons_of_pos here, List.filter_cons_of_pos ((keep c).trans here),
            List.map_cons, List.map_cons, head, rest]
        · rw [List.filter_cons_of_neg here, List.filter_cons_of_neg (keep c ▸ here), rest]
      · intro alike
        have self : tied le a a = true := by
          have below : le a a = true := by simpa using total a a
          exact Bool.and_eq_true_iff.mpr ⟨below, below⟩
        have first := alike a
        rw [List.filter_cons_of_pos self, List.filter_cons_of_pos ((keep a).trans self),
          List.map_cons, List.map_cons] at first
        refine List.cons_eq_cons.mpr ⟨(List.cons.inj first).1, ih.mpr fun c => ?_⟩
        have rest := alike c
        by_cases here : tied le c a = true
        · rw [List.filter_cons_of_pos here, List.filter_cons_of_pos ((keep c).trans here),
            List.map_cons, List.map_cons] at rest
          exact (List.cons.inj rest).2
        · rwa [List.filter_cons_of_neg here, List.filter_cons_of_neg (keep c ▸ here)] at rest

/-- Two arrangements of the same elements are sorted into lists that look alike exactly if each
class of tied elements does. -/
theorem map_sort_eq_iff (perm : l.Perm l') :
    (l.mergeSort le).map f = (l'.mergeSort le).map f ↔
      ∀ c, (l.filter (tied le c)).map f = (l'.filter (tied le c)).map f := by
  rw [map_eq_iff trans total (forall₂_tied trans total perm)]
  simp only [sort_filter_tied trans total]

end

end Uxsp.StableSort
