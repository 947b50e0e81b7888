import Mathlib

/-!
# Runs of a labelled transition system

`Run step s es t` is a run from `s` to `t` whose steps carry the labels `es`, oldest first.  The
invariant rules are stated once here: `Run.invariant` for an invariant of the state,
`Run.history` for an invariant that also speaks about the labels so far, `Run.split` for looking at
one step in the middle of a run, and `Run.since` for the step that brought a fact about.
-/

namespace Uxsp

variable {σ ε : Type*} {step step' : σ → ε → σ → Prop}

/-- A finite run, grown at its end. -/
inductive Run (step : σ → ε → σ → Prop) : σ → List ε → σ → Prop
  | nil {s : σ} : Run step s [] s
  | snoc {s t u : σ} {es : List ε} {e : ε} :
      Run step s es t → step t e u → Run step s (es ++ [e]) u

theorem Run.single {s t : σ} {e : ε} (h : step s e t) : Run step s [e] t :=
  .snoc .nil h

theorem Run.append {s t u : σ} {es fs : List ε} (left : Run step s es t)
    (right : Run step t fs u) : Run step s (es ++ fs) u := by
  induction right with
  | nil => rwa [List.append_nil]
  | snoc _ last ih =>
      rw [← List.append_assoc]
      exact .snoc ih last

theorem Run.cons {s t u : σ} {e : ε} {es : List ε} (first : step s e t)
    (rest : Run step t es u) : Run step s (e :: es) u :=
  (Run.single first).append rest

/-- An invariant of the state that every step keeps holds after a run. -/
theorem Run.invariant {I : σ → Prop} (keep : ∀ s e t, I s → step s e t → I t)
    {s t : σ} {es : List ε} (run : Run step s es t) (start : I s) : I t := by
  induction run with
  | nil => exact start
  | snoc _ last ih => exact keep _ _ _ ih last

/-- An invariant of the state and of the labels so far. -/
theorem Run.history {I : List ε → σ → Prop}
    (keep : ∀ es s e t, I es s → step s e t → I (es ++ [e]) t)
    {s t : σ} {es : List ε} (run : Run step s es t) (start : I [] s) : I es t := by
  induction run with
  | nil => exact start
  | snoc _ last ih => exact keep _ _ _ _ ih last

theorem Run.mono (weaken : ∀ s e t, step s e t → step' s e t) {s t : σ} {es : List ε}
    (run : Run step s es t) : Run step' s es t := by
  induction run with
  | nil => exact .nil
  | snoc _ last ih => exact .snoc ih (weaken _ _ _ last)

theorem Run.of_nil {s t : σ} (run : Run step s [] t) : t = s := by
  generalize labels : ([] : List ε) = es at run
  cases run with
  | nil => rfl
  | snoc _ _ => simp at labels

theorem Run.of_snoc {s u : σ} {es : List ε} {e : ε} (run : Run step s (es ++ [e]) u) :
    ∃ t, Run step s es t ∧ step t e u := by
  generalize labels : es ++ [e] = fs at run
  cases run with
  | nil => simp at labels
  | snoc before last =>
      obtain ⟨rfl, rest⟩ := List.append_inj' labels rfl
      cases rest
      exact ⟨_, before, last⟩

/-- A run over `es ++ fs` passes through a state after `es`. -/
theorem Run.split {s u : σ} {es fs : List ε} (run : Run step s (es ++ fs) u) :
    ∃ t, Run step s es t ∧ Run step t fs u := by
  induction fs using List.reverseRecOn generalizing u with
  | nil =>
      rw [List.append_nil] at run
      exact ⟨u, run, .nil⟩
  | append_singleton fs e ih =>
      rw [← List.append_assoc] at run
      obtain ⟨t, before, last⟩ := run.of_snoc
      obtain ⟨m, left, right⟩ := ih before
      exact ⟨m, left, .snoc right last⟩

/-- The states around the step labelled `e` in the middle of a run. -/
theorem Run.split_at {s u : σ} {es fs : List ε} {e : ε}
    (run : Run step s (es ++ e :: fs) u) :
    ∃ t t', Run step s es t ∧ step t e t' ∧ Run step t' fs u := by
  rw [List.append_cons] at run
  obtain ⟨t', before, after⟩ := run.split
  obtain ⟨t, left, here⟩ := before.of_snoc
  exact ⟨t, t', left, here, after⟩

/-- What holds after a run and did not at its start has been brought about by one of its steps, and
has held ever since. -/
theorem Run.since {p : σ → Prop} {s t : σ} {es : List ε} (run : Run step s es t) (before : ¬ p s)
    (now : p t) : ∃ front e rest x y, es = front ++ e :: rest ∧ Run step s front x ∧ step x e y ∧
      ¬ p x ∧ p y ∧ Run (fun a f b => step a f b ∧ p b) y rest t := by
  induction run with
  | nil => exact absurd now before
  | @snoc t u es e earlier last ih =>
      by_cases holds : p t
      · obtain ⟨front, f, rest, x, y, rfl, reached, here, off, on, held⟩ := ih holds
        exact ⟨front, f, rest ++ [e], x, y, by simp, reached, here, off, on, .snoc held ⟨last, now⟩⟩
      · exact ⟨es, e, [], t, u, rfl, earlier, last, holds, now, .nil⟩

/-- The last label of a kind is in one place. -/
theorem last_unique (kind : ε → Prop) {left left' right right' : List ε} {e e' : ε}
    (same : left ++ e :: right = left' ++ e' :: right') (mark : kind e) (mark' : kind e')
    (none : ∀ f ∈ right, ¬ kind f) (none' : ∀ f ∈ right', ¬ kind f) :
    left = left' ∧ e = e' ∧ right = right' := by
  rcases List.append_eq_append_iff.mp same with ⟨gap, rfl, rest⟩ | ⟨gap, rfl, rest⟩
  · cases gap with
    | nil =>
        simp only [List.nil_append, List.cons.injEq] at rest
        exact ⟨(List.append_nil _).symm, rest⟩
    | cons f gap =>
        simp only [List.cons_append, List.cons.injEq] at rest
        have inside : e' ∈ right := by
          rw [rest.2]
          exact List.mem_append_right _ List.mem_cons_self
        exact absurd mark' (none e' inside)
  · cases gap with
    | nil =>
        simp only [List.nil_append, List.cons.injEq] at rest
        exact ⟨List.append_nil _, rest.1.symm, rest.2.symm⟩
    | cons f gap =>
        simp only [List.cons_append, List.cons.injEq] at rest
        have inside : e ∈ right' := by
          rw [rest.2]
          exact List.mem_append_right _ List.mem_cons_self
        exact absurd mark (none' e inside)

end Uxsp
