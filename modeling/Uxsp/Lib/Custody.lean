import Uxsp.Lib.Run

/-!
# Custody

A system takes items in, holds them and gives them out; `Custody` says that no step makes an item or
loses one.

* `Custody.conserved`: what a run has taken in is what is held at its end and what was given out.
* `Custody.nodup_out`: if no item was taken in twice, none is given out twice.
* `Custody.in_order`: a system that never holds two items gives them out as they came.
-/

namespace Uxsp

variable {σ ε α : Type*} {step : σ → ε → σ → Prop} {held : σ → List α} {taken out : ε → List α}
  {s t : σ} {es : List ε}

/-- A step moves items and does nothing else to them. -/
def Custody (step : σ → ε → σ → Prop) (held : σ → List α) (taken out : ε → List α) : Prop :=
  ∀ ⦃s e t⦄, step s e t → (held s ++ taken e).Perm (held t ++ out e)

/-- Two lists with the same items are one list, if it has one item at most. -/
theorem eq_of_perm_of_short {as bs : List α} (same : as.Perm bs) (short : bs.length ≤ 1) :
    as = bs := by
  match bs, short with
  | [], _ => exact List.perm_nil.mp same
  | [b], _ => exact List.perm_singleton.mp same

theorem append_comm_of_short {as bs : List α} (short : (as ++ bs).length ≤ 1) :
    as ++ bs = bs ++ as :=
  (eq_of_perm_of_short List.perm_append_comm short).symm

namespace Custody

/-- What was there and what a run has taken in is what is held at its end and what was given out. -/
theorem conserved (custody : Custody step held taken out) (run : Run step s es t) :
    (held s ++ es.flatMap taken).Perm (held t ++ es.flatMap out) := by
  induction run with
  | nil => exact .refl _
  | @snoc t u es e _ last ih =>
      have here := custody last
      simp only [List.flatMap_append, List.flatMap_singleton, ← Multiset.coe_eq_coe,
        ← Multiset.coe_add] at ih here ⊢
      rw [← add_assoc, ih, add_right_comm, here, add_right_comm, add_assoc]

theorem conserved_of_empty (custody : Custody step held taken out) (run : Run step s es t)
    (empty : held s = []) : (es.flatMap taken).Perm (held t ++ es.flatMap out) := by
  have kept := custody.conserved run
  rwa [empty, List.nil_append] at kept

theorem nodup_out (custody : Custody step held taken out) (run : Run step s es t)
    (empty : held s = []) (once : (es.flatMap taken).Nodup) : (es.flatMap out).Nodup :=
  (List.nodup_append.mp ((custody.conserved_of_empty run empty).nodup_iff.mp once)).2.1

/-- One step of a system that has room for one item. -/
theorem in_order_step (custody : Custody step held taken out) {e : ε}
    (apart : taken e = [] ∨ out e = []) (last : step s e t) (before : (held s).length ≤ 1)
    (after : (held t).length ≤ 1) : held s ++ taken e = out e ++ held t := by
  have moved := custody last
  rcases apart with none | none
  · rw [none, List.append_nil] at moved ⊢
    have short : (held t ++ out e).length ≤ 1 := moved.length_eq ▸ before
    rw [eq_of_perm_of_short moved short, append_comm_of_short short]
  · rw [none, List.append_nil] at moved
    rw [none, List.nil_append]
    exact eq_of_perm_of_short moved after

/-- A system that never holds two items, and never takes and gives in one step, gives them out as
they came. -/
theorem in_order (custody : Custody step held taken out) (apart : ∀ e, taken e = [] ∨ out e = [])
    (run : Run (fun s e t => step s e t ∧ (held t).length ≤ 1) s es t)
    (start : (held s).length ≤ 1) :
    held s ++ es.flatMap taken = es.flatMap out ++ held t ∧ (held t).length ≤ 1 := by
  induction run with
  | nil => exact ⟨List.append_nil _, start⟩
  | @snoc t u es e _ last ih =>
      obtain ⟨same, before⟩ := ih
      refine ⟨?_, last.2⟩
      rw [List.flatMap_append, List.flatMap_append, List.flatMap_singleton, List.flatMap_singleton,
        ← List.append_assoc, same, List.append_assoc, List.append_assoc,
        custody.in_order_step (apart e) last.1 before last.2]

end Custody

end Uxsp
