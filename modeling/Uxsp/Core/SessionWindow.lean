import Uxsp.Core.SessionSteps
import Uxsp.Lib.SlidingWindow

/-!
# The replay window of a session

`WindowInv` ties the maximum to the remembered numbers and bounds their count; every call keeps
it.  Under it the two tests of `acceptWindow` decide the ideal window of
`Uxsp.Window.Admits`, and the undo in `decrypt` restores the window exactly when fewer than two
windows were remembered.
-/

namespace Uxsp.Session

open Window

variable {P : Platform} {s : Session} {seq : ℕ}

/-- The maximum is that of the remembered numbers, and at most two windows are remembered. -/
structure WindowInv (s : Session) : Prop where
  max_eq : s.maxSeenSeq = top s.seenSeqs
  card_le : s.seenSeqs.card ≤ 256

/-! ## The tests decide the ideal window -/

theorem WindowInv.fits_iff (inv : WindowInv s) :
    s.Fits seq ↔ seq ∉ s.seenSeqs ∧ top s.seenSeqs < seq + 128 := by
  have low := neg_one_le_top s.seenSeqs
  unfold Fits windowFloor
  rw [inv.max_eq]
  simp only [WINDOW_SIZE]
  refine and_congr_right fun _ => ?_
  omega

theorem WindowInv.fits_iff_admits (inv : WindowInv s) {A : Finset ℕ}
    (mem : Remembers 128 A s.seenSeqs) : s.Fits seq ↔ Window.Admits 128 A seq :=
  inv.fits_iff.trans (mem.admits_iff seq)

/-! ## Pruning -/

theorem mem_prune {seen : Finset ℕ} {maxSeen : ℤ} {n : ℕ} (hn : n ∈ seen)
    (inside : maxSeen < n + 128) : n ∈ prune seen maxSeen := by
  unfold prune
  split
  · refine Finset.mem_filter.mpr ⟨hn, ?_⟩
    simp only [WINDOW_SIZE]
    omega
  · exact hn

theorem prune_subset (seen : Finset ℕ) (maxSeen : ℤ) : prune seen maxSeen ⊆ seen := by
  unfold prune
  split
  · exact Finset.filter_subset _ _
  · exact Finset.Subset.refl seen

theorem prune_of_card_le {seen : Finset ℕ} (maxSeen : ℤ) (h : seen.card ≤ 256) :
    prune seen maxSeen = seen :=
  if_neg (not_lt.mpr h)

/-- At most a window fits between the floor and the maximum. -/
theorem card_le_of_inside {seen : Finset ℕ} (maxSeen : ℤ)
    (inside : ∀ n ∈ seen, maxSeen - 128 + 1 ≤ (n : ℤ) ∧ (n : ℤ) ≤ maxSeen) :
    seen.card ≤ 128 := by
  have image : seen.map ⟨fun n : ℕ => (n : ℤ), Nat.cast_injective⟩ ⊆
      Finset.Icc (maxSeen - 128 + 1) maxSeen := by
    intro z hz
    obtain ⟨n, hn, rfl⟩ := Finset.mem_map.mp hz
    exact Finset.mem_Icc.mpr (inside n hn)
  have count := Finset.card_le_card image
  rw [Finset.card_map, Int.card_Icc] at count
  omega

theorem card_prune_le {seen : Finset ℕ} {maxSeen : ℤ} (above : ∀ n ∈ seen, (n : ℤ) ≤ maxSeen) :
    (prune seen maxSeen).card ≤ 256 := by
  unfold prune
  split
  · refine (card_le_of_inside maxSeen fun n hn => ?_).trans (by omega)
    obtain ⟨hn, low⟩ := Finset.mem_filter.mp hn
    exact ⟨low, above n hn⟩
  · rename_i small
    exact not_lt.mp small

theorem top_prune {seen : Finset ℕ} : top (prune seen (top seen)) = top seen :=
  top_eq_of_subset (prune_subset _ _) fun n hn largest => mem_prune hn (by omega)

/-! ## Advancing -/

theorem advanceWindow_max (inv : WindowInv s) (seq : ℕ) :
    (s.advanceWindow seq).maxSeenSeq = top (insert seq s.seenSeqs) := by
  simp only [advanceWindow]
  rw [top_insert, inv.max_eq]
  split <;> omega

theorem advanceWindow_seen (inv : WindowInv s) (seq : ℕ) :
    (s.advanceWindow seq).seenSeqs =
      prune (insert seq s.seenSeqs) (top (insert seq s.seenSeqs)) := by
  rw [← advanceWindow_max inv seq]
  rfl

theorem WindowInv.advanceWindow (inv : WindowInv s) (seq : ℕ) :
    WindowInv (s.advanceWindow seq) where
  max_eq := by rw [advanceWindow_max inv, advanceWindow_seen inv, top_prune]
  card_le := by
    rw [advanceWindow_seen inv]
    exact card_prune_le fun n hn => le_top hn

theorem remembers_advanceWindow (inv : WindowInv s) {A : Finset ℕ}
    (mem : Remembers 128 A s.seenSeqs) (seq : ℕ) :
    Remembers 128 (insert seq A) (s.advanceWindow seq).seenSeqs := by
  rw [advanceWindow_seen inv]
  refine (mem.insert seq).forget (by omega) (prune_subset _ _) fun n hn inside => ?_
  refine mem_prune hn ?_
  rwa [(mem.insert seq).top_eq]

/-! ## Undoing -/

theorem rollback_seen (ordering : s.config.enforceOrdering = false) :
    ((s.advanceWindow seq).rollbackSeq seq).seenSeqs =
      (s.advanceWindow seq).seenSeqs.erase seq := by
  have same : (s.advanceWindow seq).config = s.config := rfl
  simp [rollbackSeq, same, ordering]

theorem rollback_subset (ordering : s.config.enforceOrdering = false) :
    ((s.advanceWindow seq).rollbackSeq seq).seenSeqs ⊆ s.seenSeqs := by
  rw [rollback_seen ordering]
  intro n hn
  obtain ⟨ne, hn⟩ := Finset.mem_erase.mp hn
  exact (Finset.mem_insert.mp (prune_subset _ _ hn)).resolve_left ne

theorem rollback_max (ordering : s.config.enforceOrdering = false) :
    ((s.advanceWindow seq).rollbackSeq seq).maxSeenSeq =
      if (seq : ℤ) = (s.advanceWindow seq).maxSeenSeq
      then top ((s.advanceWindow seq).rollbackSeq seq).seenSeqs
      else (s.advanceWindow seq).maxSeenSeq := by
  have same : (s.advanceWindow seq).config = s.config := rfl
  simp [rollbackSeq, same, ordering, maxSeqs, top]

theorem rollback_count (ordering : s.config.enforceOrdering = false) :
    ((s.advanceWindow seq).rollbackSeq seq).recvCount = s.recvCount := by
  simp [rollbackSeq, ordering, Session.advanceWindow]

/-- Advancing and undoing touch the window only. -/
theorem rollback_frame (seq : ℕ) (ordering : s.config.enforceOrdering = false) :
    (s.advanceWindow seq).rollbackSeq seq = { s with
      seenSeqs := ((s.advanceWindow seq).rollbackSeq seq).seenSeqs
      maxSeenSeq := ((s.advanceWindow seq).rollbackSeq seq).maxSeenSeq
      recvCount := ((s.advanceWindow seq).rollbackSeq seq).recvCount } := by
  have same : (s.advanceWindow seq).config = s.config := rfl
  simp only [rollbackSeq, same, ordering, Bool.false_eq_true, if_false]
  rfl

/-- The undo keeps the invariant, whatever pruning dropped. -/
theorem WindowInv.rollback (inv : WindowInv s) (ordering : s.config.enforceOrdering = false)
    (unseen : seq ∉ s.seenSeqs) : WindowInv ((s.advanceWindow seq).rollbackSeq seq) where
  max_eq := by
    rw [rollback_max ordering]
    split
    · rfl
    · rename_i below
      -- the number was not the maximum, so the old maximum is still remembered
      rw [advanceWindow_max inv, top_insert] at below ⊢
      have old : max (seq : ℤ) (top s.seenSeqs) = top s.seenSeqs := by omega
      rw [old]
      refine (top_eq_of_subset (rollback_subset ordering) fun n hn largest => ?_).symm
      rw [rollback_seen ordering, advanceWindow_seen inv]
      refine Finset.mem_erase.mpr ⟨fun same => unseen (same ▸ hn), ?_⟩
      refine mem_prune (Finset.mem_insert_of_mem hn) ?_
      rw [top_insert]
      omega
  card_le := (Finset.card_le_card (rollback_subset ordering)).trans inv.card_le

/-- Nothing still inside the window is dropped: then the memory is as good as before. -/
theorem remembers_rollback (inv : WindowInv s) {A : Finset ℕ}
    (mem : Remembers 128 A s.seenSeqs) (ordering : s.config.enforceOrdering = false)
    (unseen : seq ∉ s.seenSeqs)
    (kept : s.seenSeqs.card < 256 ∨ ∀ n ∈ s.seenSeqs, s.maxSeenSeq < n + 128 → seq < n + 128) :
    Remembers 128 A ((s.advanceWindow seq).rollbackSeq seq).seenSeqs := by
  refine mem.forget (by omega) (rollback_subset ordering) fun n hn inside => ?_
  rw [rollback_seen ordering, advanceWindow_seen inv]
  refine Finset.mem_erase.mpr ⟨fun same => unseen (same ▸ hn), ?_⟩
  rcases kept with room | kept
  · rw [prune_of_card_le _ ((Finset.card_insert_le _ _).trans room)]
    exact Finset.mem_insert_of_mem hn
  · refine mem_prune (Finset.mem_insert_of_mem hn) ?_
    rw [← mem.top_eq] at inside
    have near := kept n hn (inv.max_eq ▸ inside)
    rw [top_insert]
    omega

/-- With room for one more number the undo is exact. -/
theorem rollback_advanceWindow (inv : WindowInv s)
    (ordering : s.config.enforceOrdering = false) (unseen : seq ∉ s.seenSeqs)
    (room : s.seenSeqs.card < 256) : (s.advanceWindow seq).rollbackSeq seq = s := by
  have seen : ((s.advanceWindow seq).rollbackSeq seq).seenSeqs = s.seenSeqs := by
    rw [rollback_seen ordering, advanceWindow_seen inv,
      prune_of_card_le _ ((Finset.card_insert_le _ _).trans room), Finset.erase_insert unseen]
  have maxSeen : ((s.advanceWindow seq).rollbackSeq seq).maxSeenSeq = s.maxSeenSeq := by
    rw [(inv.rollback ordering unseen).max_eq, seen, inv.max_eq]
  refine (rollback_frame seq ordering).trans ?_
  rw [seen, maxSeen, rollback_count ordering]

/-- With two windows remembered, pruning has dropped a number the undo does not bring back. -/
theorem rollback_seen_ne (inv : WindowInv s) (ordering : s.config.enforceOrdering = false)
    (unseen : seq ∉ s.seenSeqs) (full : s.seenSeqs.card = 256) :
    ((s.advanceWindow seq).rollbackSeq seq).seenSeqs ≠ s.seenSeqs := by
  intro same
  rw [rollback_seen ordering, advanceWindow_seen inv, prune,
    if_pos (by rw [Finset.card_insert_of_notMem unseen, full]; decide)] at same
  have few : s.seenSeqs.card ≤ 128 := by
    refine card_le_of_inside (top (insert seq s.seenSeqs)) fun n hn => ?_
    rw [← same] at hn
    obtain ⟨hn, low⟩ := Finset.mem_filter.mp (Finset.mem_of_mem_erase hn)
    exact ⟨low, le_top hn⟩
  omega

end Uxsp.Session
