import Uxsp.Lib.Run

/-!
# Numbered lanes

A sender puts entries on a lane, one for each number; an entry may be empty.  The receiver takes
entries in the order of their numbers and none twice, and it only takes those that satisfy `Q`.  A
cut loses all entries that are on the lane.

* `Run.takes`: what has been taken are the first entries of the lane, all of which satisfy `Q`.
* `Run.stuck`: if a cut loses an entry that has not been taken, no entry is taken any more.
-/

namespace Uxsp

structure Lane (δ : Type*) where
  entries : List (Option δ)
  taken : ℕ
  /-- The entries below this number are lost. -/
  floor : ℕ

namespace Lane

variable {δ : Type*} {Q : δ → Prop} {l l' : Lane δ} {es : List Unit}

/-- The next entry is taken or lost. -/
def take (l : Lane δ) : Lane δ := { l with taken := l.taken + 1 }

def put (l : Lane δ) (d : Option δ) : Lane δ := { l with entries := l.entries ++ [d] }

def cut (l : Lane δ) : Lane δ := { l with floor := l.entries.length }

inductive Step (Q : δ → Prop) (l : Lane δ) : Unit → Lane δ → Prop
  | idle : Step Q l () l
  | put (d : Option δ) : Step Q l () (l.put d)
  | take {d : δ} : l.floor ≤ l.taken → l.entries[l.taken]? = some (some d) → Q d →
      Step Q l () l.take
  | cut : Step Q l () l.cut

/-- What has been taken are the first entries of the lane. -/
structure Takes (Q : δ → Prop) (l : Lane δ) : Prop where
  floor_le : l.floor ≤ l.entries.length
  taken : ∀ k < l.taken, ∃ d, l.entries[k]? = some (some d) ∧ Q d

theorem Takes.taken_le (takes : Takes Q l) : l.taken ≤ l.entries.length := by
  rcases Nat.eq_zero_or_pos l.taken with none | some
  · omega
  · obtain ⟨d, entry, -⟩ := takes.taken (l.taken - 1) (by omega)
    have inside := (List.getElem?_eq_some_iff.mp entry).1
    omega

theorem Step.takes (step : Step Q l () l') (takes : Takes Q l) : Takes Q l' := by
  cases step with
  | idle => exact takes
  | put d =>
      refine ⟨?_, fun k below => ?_⟩
      · change l.floor ≤ (l.entries ++ [d]).length
        rw [List.length_append]
        exact Nat.le_add_right_of_le takes.floor_le
      · obtain ⟨d', entry, good⟩ := takes.taken k below
        exact ⟨d', List.getElem?_append_left (List.getElem?_eq_some_iff.mp entry).1 ▸ entry, good⟩
  | @take d _ entry good =>
      refine ⟨takes.floor_le, fun k below => ?_⟩
      rcases Nat.lt_succ_iff_lt_or_eq.mp below with earlier | rfl
      · exact takes.taken k earlier
      · exact ⟨d, entry, good⟩
  | cut => exact ⟨le_rfl, takes.taken⟩

theorem Run.takes (run : Run (Step Q) l es l') (takes : Takes Q l) : Takes Q l' :=
  run.invariant (fun _ _ _ takes step => step.takes takes) takes

theorem Step.floor_le (step : Step Q l () l') (takes : Takes Q l) : l.floor ≤ l'.floor := by
  cases step with
  | idle | put | take => exact le_rfl
  | cut => exact takes.floor_le

/-- Once an entry is lost that was not taken, nothing is taken any more. -/
theorem Run.stuck (run : Run (Step Q) l es l') (takes : Takes Q l) (gap : l.taken < l.floor) :
    l'.taken = l.taken ∧ l'.taken < l'.floor := by
  have inv := run.invariant (I := fun m : Lane δ => Takes Q m ∧ m.taken = l.taken ∧
    m.taken < m.floor) ?_ ⟨takes, rfl, gap⟩
  · exact inv.2
  · rintro m ⟨⟩ m' ⟨takes, same, gap⟩ step
    refine ⟨step.takes takes, ?_⟩
    have above := step.floor_le takes
    cases step with
    | idle | put => exact ⟨same, gap⟩
    | take held => exact absurd held (by omega)
    | cut => exact ⟨same, gap.trans_le above⟩

end Lane

end Uxsp
