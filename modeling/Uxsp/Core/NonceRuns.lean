import Uxsp.Core.Nonce
import Uxsp.Lib.Run

/-!
# `MemoryNonceStore` over whole runs

The store is a set of nonces with expiry times that fails closed: it never grows beyond
`MAX_NONCE_STORE_SIZE`, an entry stays until it expires, and a full store refuses new nonces.  What
one call does to an entry is in `Uxsp.Core.Nonce`; `Bounded` and `holds_run` carry it through a run.
-/

namespace Uxsp

namespace MemoryNonceStore

variable {m m' : MemoryNonceStore} {nonce other : Str} {expiry clock now ttl start : ℚ}

/-- A call with its answer. -/
inductive Call
  | markUsed (nonce : Str) (ttlSeconds now : ℚ) (answer : Except PyErr Bool)
  | isSeen (nonce : Str) (now : ℚ) (answer : Bool)
  | cleanup (now : ℚ)

/-- One call, at a time that is not before the last. -/
inductive Step : MemoryNonceStore × ℚ → Call → MemoryNonceStore × ℚ → Prop
  | markUsed {m : MemoryNonceStore} {clock now : ℚ} (nonce : Str) (ttl : ℚ) (later : clock ≤ now) :
      Step (m, clock) (.markUsed nonce ttl now (m.markUsed nonce ttl now).1)
        ((m.markUsed nonce ttl now).2, now)
  | isSeen {m : MemoryNonceStore} {clock now : ℚ} (nonce : Str) (later : clock ≤ now) :
      Step (m, clock) (.isSeen nonce now (m.isSeen nonce now).1) ((m.isSeen nonce now).2, now)
  | cleanup {m : MemoryNonceStore} {clock now : ℚ} (later : clock ≤ now) :
      Step (m, clock) (.cleanup now) (m.cleanup now, now)

variable {s s' : MemoryNonceStore × ℚ} {es : List Call} {e : Call}

theorem Step.later (step : Step s e s') : s.2 ≤ s'.2 := by
  cases step <;> assumption

theorem clock_run (run : Run Step s es s') : s.2 ≤ s'.2 := by
  induction run with
  | nil => exact le_rfl
  | snoc _ last ih => exact ih.trans last.later

/-! ## No more than the maximum -/

/-- The store is within its bound. -/
def Bounded (m : MemoryNonceStore) : Prop := m.entries.length ≤ MAX_NONCE_STORE_SIZE

theorem length_insert (new : m.has nonce = false) :
    (m.insert nonce expiry new).entries.length = m.entries.length + 1 :=
  List.length_append

/-- An entry is only added where there is room. -/
theorem bounded_markUsed (bounded : m.Bounded) : (m.markUsed nonce ttl now).2.Bounded := by
  have counted : (m.countCall now).Bounded := length_countCall_le.trans bounded
  have cleaned : ((m.countCall now).cleanup now).Bounded :=
    (List.length_filter_le _ _).trans counted
  unfold markUsed
  simp only
  split
  · exact counted
  · rename_i absent
    split
    · split
      · exact cleaned
      · rename_i room
        exact (length_insert (has_cleanup now absent)).trans_le (not_le.mp room)
    · rename_i room
      exact (length_insert (Bool.eq_false_iff.mpr absent)).trans_le (not_le.mp room)

theorem bounded_step (bounded : s.1.Bounded) (step : Step s e s') : s'.1.Bounded := by
  cases step with
  | markUsed nonce ttl later => exact bounded_markUsed bounded
  | isSeen nonce later => exact length_isSeen_le.trans bounded
  | cleanup later => exact (List.length_filter_le _ _).trans bounded

/-! ## Entries stay until they expire -/

theorem holds_step (holds : s.1.Holds nonce expiry) (step : Step s e s') (before : s'.2 < expiry) :
    s'.1.Holds nonce expiry := by
  cases step with
  | markUsed nonce ttl later => exact holds.markUsed before
  | isSeen nonce later => exact holds.isSeen before
  | cleanup later => exact holds.cleanup before

theorem holds_run (run : Run Step s es s') (holds : s.1.Holds nonce expiry)
    (before : s'.2 < expiry) : s'.1.Holds nonce expiry := by
  induction run with
  | nil => exact holds
  | snoc _ last ih => exact holds_step (ih (last.later.trans_lt before)) last before

/-! ## What `mark_used` answers -/

theorem markUsed_of_has (present : (m.countCall now).has nonce = true) :
    (m.markUsed nonce ttl now).1 = .ok false := by
  unfold markUsed
  simp only [dif_pos present]

/-- Marked at all, a nonce was not there when it was looked up. -/
theorem has_of_marked (marked : (m.markUsed nonce ttl now).1 = .ok true) :
    (m.countCall now).has nonce = false := by
  refine Bool.eq_false_iff.mpr fun present => ?_
  rw [markUsed_of_has present] at marked
  cases marked

theorem cleanup_of_live (live : ∀ entry ∈ m.entries, now < entry.2) :
    (m.cleanup now).entries = m.entries :=
  List.filter_eq_self.mpr fun entry mem => decide_eq_true (live entry mem)

theorem countCall_of_live (live : ∀ entry ∈ m.entries, now < entry.2) :
    (m.countCall now).entries = m.entries := by
  unfold countCall
  split
  · exact cleanup_of_live live
  · rfl

/-- A full store of entries that are still to expire refuses a new nonce. -/
theorem markUsed_full (full : MAX_NONCE_STORE_SIZE ≤ m.entries.length)
    (live : ∀ entry ∈ m.entries, now < entry.2) (new : m.has nonce = false) :
    (m.markUsed nonce ttl now).1 = .error fullError ∧
      (m.markUsed nonce ttl now).2.entries = m.entries := by
  have same := countCall_of_live live
  have absent : ¬ (m.countCall now).has nonce = true := Bool.eq_false_iff.mp (has_countCall now new)
  have cleaned : ((m.countCall now).cleanup now).entries = m.entries := by
    rw [← same] at live ⊢
    exact cleanup_of_live live
  unfold markUsed
  simp only [dif_neg absent]
  rw [if_pos (same ▸ full), if_pos (cleaned ▸ full)]
  exact ⟨rfl, cleaned⟩

/-- The store is a set with expiry times that fails closed, in every run. -/
theorem ttl_set (run : Run Step (empty, start) es (m, clock)) :
    m.entries.length ≤ MAX_NONCE_STORE_SIZE ∧
    (∀ nonce expiry, m.Holds nonce expiry → ∀ post s, Run Step (m, clock) post s →
      s.2 < expiry → s.1.Holds nonce expiry) ∧
    (∀ nonce ttl now, clock ≤ now → (m.markUsed nonce ttl now).1 = .ok true →
      ¬ m.Live nonce now ∧ (m.countCall now).has nonce = false ∧
      (m.markUsed nonce ttl now).2.Holds nonce (now + ttl) ∧
      ∀ post s, Run Step ((m.markUsed nonce ttl now).2, now) post s → ∀ ttl' again, s.2 ≤ again →
        again < now + ttl → (s.1.markUsed nonce ttl' again).1 = .ok false) ∧
    ∀ nonce ttl now, clock ≤ now → MAX_NONCE_STORE_SIZE ≤ m.entries.length →
      (∀ entry ∈ m.entries, now < entry.2) → m.has nonce = false →
      (m.markUsed nonce ttl now).1 = .error fullError ∧
        (m.markUsed nonce ttl now).2.entries = m.entries := by
  refine ⟨?_, fun nonce expiry holds post s more => holds_run more holds,
    fun nonce ttl now _ marked => ?_, fun nonce ttl now _ => markUsed_full⟩
  · exact run.invariant (I := fun s => s.1.Bounded) (fun _ _ _ => bounded_step) (Nat.zero_le _)
  · have holds := markUsed_holds marked
    refine ⟨?_, has_of_marked marked, holds, fun post s more ttl' again later before => ?_⟩
    · rintro ⟨expiry, held, young⟩
      exact markUsed_of_holds held young marked
    · have still := holds_run more holds (later.trans_lt before)
      exact markUsed_of_has (still.countCall before).has

theorem ttl_set_sample :
    (((empty.markUsed (Str.ofString "n") 300 0).2.markUsed (Str.ofString "n") 60 299).1 =
      .ok false) := by
  have marked : (empty.markUsed (Str.ofString "n") 300 0).1 = .ok true := rfl
  obtain ⟨-, -, -, again⟩ := (ttl_set (.nil : Run Step (empty, 0) [] (empty, 0))).2.2.1
    (Str.ofString "n") 300 0 le_rfl marked
  exact again [] _ .nil 60 299 (by norm_num) (by norm_num)

end MemoryNonceStore

end Uxsp
