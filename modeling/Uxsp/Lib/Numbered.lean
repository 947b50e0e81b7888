import Mathlib

/-!
# Numbered queues

A sender numbers what it sends consecutively; the messages wait in order.  `Numbered carries n as ds`
says that the messages `ds` carry `as` under the numbers `n`, `n + 1` and so on, where `carries`
relates a number and a payload to the message made of them.
-/

namespace Uxsp

variable {α δ : Type*}

inductive Numbered (carries : ℕ → α → δ → Prop) : ℕ → List α → List δ → Prop
  | nil {n : ℕ} : Numbered carries n [] []
  | cons {n : ℕ} {a : α} {d : δ} {as : List α} {ds : List δ} :
      carries n a d → Numbered carries (n + 1) as ds → Numbered carries n (a :: as) (d :: ds)

variable {carries : ℕ → α → δ → Prop} {n : ℕ} {a : α} {d : δ} {as : List α} {ds : List δ}

theorem Numbered.length_eq (queue : Numbered carries n as ds) : as.length = ds.length := by
  induction queue with
  | nil => rfl
  | cons _ _ ih => rw [List.length_cons, List.length_cons, ih]

/-- One more message goes to the end of the queue. -/
theorem Numbered.snoc (queue : Numbered carries n as ds) (last : carries (n + as.length) a d) :
    Numbered carries n (as ++ [a]) (ds ++ [d]) := by
  induction queue with
  | nil => exact .cons last .nil
  | cons first _ ih =>
      refine .cons first (ih ?_)
      rwa [List.length_cons, Nat.add_comm _ 1, ← Nat.add_assoc] at last

/-- The first message carries the first payload. -/
theorem Numbered.of_cons (queue : Numbered carries n as (d :: ds)) :
    ∃ a rest, as = a :: rest ∧ carries n a d ∧ Numbered carries (n + 1) rest ds := by
  cases queue with
  | cons first rest => exact ⟨_, _, rfl, first, rest⟩

end Uxsp
