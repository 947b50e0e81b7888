import Uxsp.Lib.Run

/-!
# Two runs of one system

`Run.alike` is the unwinding rule: two runs that are asked the same from related states tell the
same, as long as each step does and leads to related states again.
-/

namespace Uxsp

variable {σ ε α β : Type*} {step : σ → ε → σ → Prop}

theorem Run.alike {R : σ → σ → Prop} {asked : ε → α} {told : ε → β}
    (keep : ∀ s s' e e' t t', R s s' → step s e t → step s' e' t' → asked e = asked e' →
      told e = told e' ∧ R t t')
    {s s' t t' : σ} {es es' : List ε} (related : R s s') (run : Run step s es t)
    (run' : Run step s' es' t') (same : es.map asked = es'.map asked) :
    es.map told = es'.map told ∧ R t t' := by
  induction run generalizing es' t' with
  | nil =>
      obtain rfl := List.map_eq_nil_iff.mp same.symm
      exact ⟨rfl, run'.of_nil ▸ related⟩
  | @snoc t u es e _ last ih =>
      obtain rfl | ⟨es', e', rfl⟩ := es'.eq_nil_or_concat
      · simp at same
      rw [List.concat_eq_append] at run' same ⊢
      obtain ⟨m, before, last'⟩ := run'.of_snoc
      rw [List.map_append, List.map_append] at same
      obtain ⟨front, here⟩ := List.append_inj' same rfl
      obtain ⟨told, related⟩ := ih before front
      obtain ⟨outcome, related⟩ := keep _ _ _ _ _ _ related last last' (List.singleton_inj.mp here)
      refine ⟨?_, related⟩
      rw [List.map_append, List.map_append, told, List.map_singleton, List.map_singleton, outcome]

end Uxsp
