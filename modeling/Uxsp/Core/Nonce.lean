import Uxsp.Python.Value
import Uxsp.Lib.TtlStore

/-!
# `uxsp.core.nonce`

`NonceStore` is the abstract class together with its contract: `markUsed` is an atomic
test-and-set that honours the time to live.  `MemoryNonceStore` is the in-process store, and
`MemoryNonceStore.nonceStore` says that it keeps the contract.
-/

namespace Uxsp

structure NonceStore where
  State : Type
  /-- `mark_used(nonce, ttl_seconds)` at a clock reading. -/
  markUsed : State → Str → ℚ → ℚ → Except PyErr Bool × State
  /-- What the store does otherwise: `is_seen`, `cleanup`, expiry. -/
  tend : State → ℚ → State → Prop
  laws : Ttl.Laws markUsed tend

/-- A nonce store with `is_seen`. -/
structure SeenStore extends NonceStore where
  isSeen : State → Str → ℚ → Except PyErr Bool × State
  isSeen_tends : ∀ s nonce now, tend s now (isSeen s nonce now).2

/-- What a nonce store promises about nonces it has never marked. -/
abbrev SeenStore.FirstUse (S : SeenStore) := Ttl.FirstUse S.markUsed S.isSeen

/-- An `OrderedDict` from nonces to expiry times, oldest first. -/
structure MemoryNonceStore where
  entries : List (Str × ℚ)
  callsSinceCleanup : ℕ
  nodup : (entries.map Prod.fst).Nodup

namespace MemoryNonceStore

def MAX_NONCE_STORE_SIZE : ℕ := 100000

def empty : MemoryNonceStore := ⟨[], 0, List.nodup_nil⟩

/-- `_cleanup_unlocked`: drop what has expired. -/
def cleanup (m : MemoryNonceStore) (now : ℚ) : MemoryNonceStore where
  entries := m.entries.filter fun entry => now < entry.2
  callsSinceCleanup := m.callsSinceCleanup
  nodup := m.nodup.sublist (List.filter_sublist.map _)

def has (m : MemoryNonceStore) (nonce : Str) : Bool := (m.entries.map Prod.fst).contains nonce

/-- `_store[nonce] = expiry` for a new nonce. -/
def insert (m : MemoryNonceStore) (nonce : Str) (expiry : ℚ) (new : m.has nonce = false) :
    MemoryNonceStore where
  entries := m.entries ++ [(nonce, expiry)]
  callsSinceCleanup := m.callsSinceCleanup
  nodup := by
    rw [List.map_append, List.nodup_append]
    refine ⟨m.nodup, List.nodup_singleton nonce, fun a ha b hb same => ?_⟩
    have same : a = nonce := same.trans (List.mem_singleton.mp hb)
    rw [same] at ha
    have present : m.has nonce = true := List.contains_iff_mem.mpr ha
    rw [new] at present
    cases present

/-- The call counter, with a cleanup at every thousandth call. -/
def countCall (m : MemoryNonceStore) (now : ℚ) : MemoryNonceStore :=
  if 1000 ≤ m.callsSinceCleanup + 1 then { m.cleanup now with callsSinceCleanup := 0 }
  else { m with callsSinceCleanup := m.callsSinceCleanup + 1 }

def fullError : PyErr :=
  ⟨.storeError, ["MemoryNonceStore is full (", .int MAX_NONCE_STORE_SIZE, " entries). ",
    "Call cleanup() to remove expired entries, or use a larger store."]⟩

theorem has_cleanup {m : MemoryNonceStore} {nonce : Str} (now : ℚ)
    (absent : ¬ m.has nonce = true) : (m.cleanup now).has nonce = false := by
  refine Bool.eq_false_iff.mpr fun present => absent ?_
  have sub := (List.filter_sublist (p := fun entry => decide (now < entry.2)) (l := m.entries)).map
    Prod.fst
  exact List.contains_iff_mem.mpr (sub.subset (List.contains_iff_mem.mp present))

def markUsed (m : MemoryNonceStore) (nonce : Str) (ttlSeconds now : ℚ) :
    Except PyErr Bool × MemoryNonceStore :=
  let m := m.countCall now
  if known : m.has nonce = true then (.ok false, m)
  else if MAX_NONCE_STORE_SIZE ≤ m.entries.length then
    let cleaned := m.cleanup now
    if MAX_NONCE_STORE_SIZE ≤ cleaned.entries.length then (.error fullError, cleaned)
    else (.ok true, cleaned.insert nonce (now + ttlSeconds) (has_cleanup now known))
  else (.ok true, m.insert nonce (now + ttlSeconds) (Bool.eq_false_iff.mpr known))

/-- `is_seen(nonce)`: an entry found expired is dropped. -/
def isSeen (m : MemoryNonceStore) (nonce : Str) (now : ℚ) : Bool × MemoryNonceStore :=
  match m.entries.lookup nonce with
  | none => (false, m)
  | some expiry =>
      if expiry ≤ now then
        (false,
          { entries := m.entries.filter fun entry => entry.1 ≠ nonce
            callsSinceCleanup := m.callsSinceCleanup
            nodup := m.nodup.sublist (List.filter_sublist.map _) })
      else (true, m)

/-! ## The store keeps the contract -/

/-- The store has an entry with this nonce and expiry. -/
def Holds (m : MemoryNonceStore) (nonce : Str) (expiry : ℚ) : Prop :=
  (nonce, expiry) ∈ m.entries

variable {m : MemoryNonceStore} {nonce other : Str} {expiry now ttl : ℚ}

theorem Holds.cleanup (holds : m.Holds nonce expiry) (before : now < expiry) :
    (m.cleanup now).Holds nonce expiry :=
  List.mem_filter.mpr ⟨holds, decide_eq_true before⟩

theorem Holds.countCall (holds : m.Holds nonce expiry) (before : now < expiry) :
    (m.countCall now).Holds nonce expiry := by
  unfold MemoryNonceStore.countCall
  split
  · exact holds.cleanup before
  · exact holds

theorem Holds.has (holds : m.Holds nonce expiry) : m.has nonce = true :=
  List.contains_iff_mem.mpr (List.mem_map_of_mem (f := Prod.fst) holds)

theorem holds_insert (m : MemoryNonceStore) (nonce : Str) (expiry : ℚ)
    (new : m.has nonce = false) : (m.insert nonce expiry new).Holds nonce expiry :=
  List.mem_append_right _ List.mem_cons_self

theorem Holds.insert (holds : m.Holds nonce expiry) {e : ℚ} (new : m.has other = false) :
    (m.insert other e new).Holds nonce expiry :=
  List.mem_append_left _ holds

theorem markUsed_holds (marked : (m.markUsed nonce ttl now).1 = .ok true) :
    (m.markUsed nonce ttl now).2.Holds nonce (now + ttl) := by
  unfold markUsed at marked ⊢
  simp only at marked ⊢
  split at marked
  · cases marked
  · rename_i new
    rw [dif_neg new]
    split at marked
    · rename_i full
      rw [if_pos full]
      split at marked
      · cases marked
      · rename_i room
        rw [if_neg room]
        exact holds_insert _ _ _ (has_cleanup now new)
    · rename_i room
      rw [if_neg room]
      exact holds_insert _ _ _ (Bool.eq_false_iff.mpr new)

theorem markUsed_of_holds (holds : m.Holds nonce expiry) (before : now < expiry) :
    (m.markUsed nonce ttl now).1 ≠ .ok true := by
  have known := (holds.countCall before).has
  unfold markUsed
  simp only [dif_pos known]
  exact nofun

theorem Holds.markUsed (holds : m.Holds nonce expiry) (before : now < expiry) :
    (m.markUsed other ttl now).2.Holds nonce expiry := by
  have holds := holds.countCall before
  unfold MemoryNonceStore.markUsed
  simp only
  split
  · exact holds
  · rename_i new
    split
    · split
      · exact holds.cleanup before
      · exact (holds.cleanup before).insert (has_cleanup now new)
    · exact holds.insert (Bool.eq_false_iff.mpr new)

theorem Holds.isSeen (holds : m.Holds nonce expiry) (before : now < expiry) :
    (m.isSeen other now).2.Holds nonce expiry := by
  unfold MemoryNonceStore.isSeen
  cases found : m.entries.lookup other with
  | none => exact holds
  | some e =>
      simp only
      split
      · rename_i old
        refine List.mem_filter.mpr ⟨holds, decide_eq_true fun same => ?_⟩
        simp only at same
        subst same
        -- keys are unique, so the entry found is the one held
        obtain ⟨left, right, split, -⟩ := List.lookup_eq_some_iff.mp found
        have mem : (nonce, e) ∈ m.entries := by
          rw [split]
          exact List.mem_append_right _ List.mem_cons_self
        have entry := List.inj_on_of_nodup_map m.nodup mem holds rfl
        cases entry
        exact absurd old (not_le.mpr before)
      · exact holds

/-- The in-process store, as an implementation of the abstract class. -/
def nonceStore : NonceStore where
  State := MemoryNonceStore
  markUsed := markUsed
  tend := fun m now m' => m' = m.cleanup now ∨ ∃ nonce, m' = (m.isSeen nonce now).2
  laws := {
    Holds := Holds
    mark_holds := markUsed_holds
    held_rejects := markUsed_of_holds
    mark_keeps := Holds.markUsed
    tend_keeps := by
      intro m nonce expiry now m' holds before step
      rcases step with rfl | ⟨other, rfl⟩
      · exact holds.cleanup before
      · exact holds.isSeen before }

def seenStore : SeenStore where
  toNonceStore := nonceStore
  isSeen := fun m nonce now => (.ok (m.isSeen nonce now).1, (m.isSeen nonce now).2)
  isSeen_tends := fun _ nonce _ => .inr ⟨nonce, rfl⟩

/-! ## The store takes new nonces -/

theorem has_countCall (now : ℚ) (new : m.has nonce = false) :
    (m.countCall now).has nonce = false := by
  have absent : ¬ m.has nonce = true := Bool.eq_false_iff.mp new
  unfold countCall
  split
  · exact has_cleanup now absent
  · exact new

theorem has_insert {e : ℚ} (absent : m.has other = false) (new : m.has nonce = false)
    (apart : other ≠ nonce) : (m.insert other e absent).has nonce = false := by
  rw [has, List.contains_eq_any_beq, List.any_eq_false] at new ⊢
  intro key mem
  rw [insert, List.map_append, List.mem_append] at mem
  rcases mem with old | added
  · exact new key old
  · rw [List.mem_singleton.mp added]
    simpa using fun same : nonce = other => apart same.symm

theorem has_markUsed (new : m.has nonce = false) (apart : other ≠ nonce) :
    (m.markUsed other ttl now).2.has nonce = false := by
  have new := has_countCall now new
  have cleaned := has_cleanup now (Bool.eq_false_iff.mp new)
  unfold markUsed
  simp only
  split
  · exact new
  · rename_i absent
    split
    · split
      · exact cleaned
      · exact has_insert (has_cleanup now absent) cleaned apart
    · exact has_insert (Bool.eq_false_iff.mpr absent) new apart

theorem markUsed_new {b : Bool} (new : m.has nonce = false)
    (marked : (m.markUsed nonce ttl now).1 = .ok b) : b = true := by
  have absent : ¬ (m.countCall now).has nonce = true := Bool.eq_false_iff.mp (has_countCall now new)
  unfold markUsed at marked
  simp only [dif_neg absent] at marked
  split at marked
  · split at marked
    · cases marked
    · exact (Except.ok.inj marked).symm
  · exact (Except.ok.inj marked).symm

theorem length_countCall_le : (m.countCall now).entries.length ≤ m.entries.length := by
  unfold countCall
  split
  · exact List.length_filter_le _ _
  · exact le_rfl

theorem length_markUsed_le :
    (m.markUsed nonce ttl now).2.entries.length ≤ m.entries.length + 1 := by
  have counted : (m.countCall now).entries.length ≤ m.entries.length := length_countCall_le
  have cleaned : ((m.countCall now).cleanup now).entries.length ≤
      (m.countCall now).entries.length := List.length_filter_le _ _
  have grows : ∀ (m : MemoryNonceStore) (e : ℚ) (new : m.has nonce = false),
      (m.insert nonce e new).entries.length = m.entries.length + 1 := fun m e new =>
    List.length_append
  unfold markUsed
  simp only
  split
  · exact counted.trans (Nat.le_succ _)
  · split
    · split
      · exact (cleaned.trans counted).trans (Nat.le_succ _)
      · rw [grows]
        omega
    · rw [grows]
      omega

theorem length_isSeen_le : (m.isSeen nonce now).2.entries.length ≤ m.entries.length := by
  unfold isSeen
  split
  · exact le_rfl
  · split
    · exact List.length_filter_le _ _
    · exact le_rfl

/-- A store with room answers. -/
theorem markUsed_answers (room : m.entries.length < MAX_NONCE_STORE_SIZE) :
    ∃ b, (m.markUsed nonce ttl now).1 = .ok b := by
  have counted : (m.countCall now).entries.length ≤ m.entries.length := length_countCall_le
  unfold markUsed
  simp only
  split
  · exact ⟨false, rfl⟩
  · rw [if_neg (by omega)]
    exact ⟨true, rfl⟩

theorem lookup_of_new (new : m.has nonce = false) : m.entries.lookup nonce = none := by
  refine List.lookup_eq_none_iff.mpr fun entry mem => ?_
  have absent : ¬ m.has nonce = true := Bool.eq_false_iff.mp new
  have apart : nonce ≠ entry.1 := by
    intro same
    subst same
    exact absent (List.contains_iff_mem.mpr (List.mem_map_of_mem (f := Prod.fst) mem))
  exact bne_iff_ne.mpr apart

theorem has_isSeen (new : m.has nonce = false) : (m.isSeen other now).2.has nonce = false := by
  unfold isSeen
  split
  · exact new
  · split
    · have absent : ¬ m.has nonce = true := Bool.eq_false_iff.mp new
      refine Bool.eq_false_iff.mpr fun present => absent ?_
      have sub := (List.filter_sublist (p := fun entry => decide (entry.1 ≠ other))
        (l := m.entries)).map Prod.fst
      exact List.contains_iff_mem.mpr (sub.subset (List.contains_iff_mem.mp present))
    · exact new

/-- A call that marks nothing leaves a new nonce new. -/
theorem has_unmarked (new : m.has nonce = false)
    (unmarked : (m.markUsed nonce ttl now).1 ≠ .ok true) :
    (m.markUsed nonce ttl now).2.has nonce = false := by
  have absent : ¬ (m.countCall now).has nonce = true := Bool.eq_false_iff.mp (has_countCall now new)
  unfold markUsed at unmarked ⊢
  simp only [dif_neg absent] at unmarked ⊢
  split at unmarked
  · rename_i full
    rw [if_pos full]
    split at unmarked
    · rename_i still
      rw [if_pos still]
      exact has_cleanup now absent
    · exact absurd rfl unmarked
  · exact absurd rfl unmarked

/-- The store refuses no nonce but those it has marked. -/
def truthful : Ttl.Truthful nonceStore.markUsed nonceStore.tend where
  Unmarked := fun m nonce => m.has nonce = false
  mark_unmarked := markUsed_new
  mark_keeps := by
    intro m nonce other ttl now new unmarked
    by_cases same : other = nonce
    · subst same
      exact has_unmarked new (unmarked rfl)
    · exact has_markUsed new same
  tend_keeps := by
    intro m nonce now m' new step
    obtain rfl | ⟨other, rfl⟩ := step
    · exact has_cleanup now (Bool.eq_false_iff.mp new)
    · exact has_isSeen new

def firstUse : seenStore.FirstUse where
  New := fun m nonce => m.has nonce = false
  mark_new := markUsed_new
  seen_new := by
    intro m nonce now b new seen
    have unknown : (m.isSeen nonce now).1 = false := by
      unfold isSeen
      rw [lookup_of_new new]
    exact (Except.ok.inj seen).symm.trans unknown
  mark_keeps := has_markUsed
  seen_keeps := has_isSeen

/-! ## The store forgets what has expired -/

/-- The store has an entry with this nonce that expires after the time. -/
def Live (m : MemoryNonceStore) (nonce : Str) (t : ℚ) : Prop :=
  ∃ expiry, m.Holds nonce expiry ∧ t < expiry

variable {t : ℚ}

theorem live_cleanup (le : now ≤ t) : (m.cleanup now).Live nonce t ↔ m.Live nonce t := by
  constructor
  · rintro ⟨expiry, holds, less⟩
    exact ⟨expiry, (List.mem_filter.mp holds).1, less⟩
  · rintro ⟨expiry, holds, less⟩
    exact ⟨expiry, holds.cleanup (le.trans_lt less), less⟩

theorem live_countCall (le : now ≤ t) : (m.countCall now).Live nonce t ↔ m.Live nonce t := by
  unfold countCall
  split
  · exact live_cleanup le
  · exact Iff.rfl

theorem live_insert {e : ℚ} (new : m.has other = false) :
    (m.insert other e new).Live nonce t ↔ nonce = other ∧ t < e ∨ m.Live nonce t := by
  constructor
  · rintro ⟨expiry, holds, less⟩
    obtain old | added := List.mem_append.mp holds
    · exact .inr ⟨expiry, old, less⟩
    · obtain ⟨rfl, rfl⟩ := Prod.mk.inj (List.mem_singleton.mp added)
      exact .inl ⟨rfl, less⟩
  · rintro (⟨rfl, less⟩ | ⟨expiry, holds, less⟩)
    · exact ⟨e, holds_insert m nonce e new, less⟩
    · exact ⟨expiry, holds.insert new, less⟩

theorem live_markUsed (marked : (m.markUsed other ttl now).1 = .ok true) (le : now ≤ t) :
    (m.markUsed other ttl now).2.Live nonce t ↔
      nonce = other ∧ t < now + ttl ∨ m.Live nonce t := by
  unfold markUsed at marked ⊢
  simp only at marked ⊢
  split at marked
  · cases marked
  · rename_i new
    rw [dif_neg new]
    split at marked
    · rename_i full
      rw [if_pos full]
      split at marked
      · cases marked
      · rename_i room
        rw [if_neg room, live_insert, live_cleanup le, live_countCall le]
    · rename_i room
      rw [if_neg room, live_insert, live_countCall le]

theorem live_markUsed_frame (unmarked : (m.markUsed other ttl now).1 ≠ .ok true) (le : now ≤ t) :
    (m.markUsed other ttl now).2.Live nonce t ↔ m.Live nonce t := by
  unfold markUsed at unmarked ⊢
  simp only at unmarked ⊢
  split at unmarked
  · rename_i known
    rw [dif_pos known, live_countCall le]
  · rename_i new
    rw [dif_neg new]
    split at unmarked
    · rename_i full
      rw [if_pos full]
      split at unmarked
      · rename_i full
        rw [if_pos full, live_cleanup le, live_countCall le]
      · exact absurd rfl unmarked
    · exact absurd rfl unmarked

/-- A nonce has one entry at most. -/
theorem Holds.unique {e : ℚ} (holds : m.Holds nonce expiry) (holds' : m.Holds nonce e) :
    expiry = e := by
  have entry := List.inj_on_of_nodup_map m.nodup holds holds' rfl
  exact congrArg Prod.snd entry

theorem holds_of_lookup (found : m.entries.lookup nonce = some expiry) : m.Holds nonce expiry := by
  obtain ⟨left, right, split, -⟩ := List.lookup_eq_some_iff.mp found
  rw [Holds, split]
  exact List.mem_append_right _ List.mem_cons_self

theorem isSeen_iff : (m.isSeen nonce now).1 = true ↔ m.Live nonce now := by
  unfold isSeen
  cases found : m.entries.lookup nonce with
  | none =>
      refine ⟨nofun, fun live => ?_⟩
      obtain ⟨expiry, holds, -⟩ := live
      exact absurd rfl (bne_iff_ne.mp (List.lookup_eq_none_iff.mp found _ holds))
  | some expiry =>
      have holds := holds_of_lookup found
      simp only
      split
      · rename_i old
        refine ⟨nofun, fun live => ?_⟩
        obtain ⟨e, holds', less⟩ := live
        rw [← holds.unique holds'] at less
        exact absurd less (not_lt.mpr old)
      · rename_i young
        exact ⟨fun _ => ⟨expiry, holds, not_le.mp young⟩, fun _ => rfl⟩

theorem live_isSeen (le : now ≤ t) : (m.isSeen other now).2.Live nonce t ↔ m.Live nonce t := by
  constructor
  · rintro ⟨expiry, holds, less⟩
    refine ⟨expiry, ?_, less⟩
    unfold isSeen at holds
    split at holds
    · exact holds
    · split at holds
      · exact (List.mem_filter.mp holds).1
      · exact holds
  · rintro ⟨expiry, holds, less⟩
    exact ⟨expiry, holds.isSeen (le.trans_lt less), less⟩

/-- A nonce that was looked up and not found is not in the store any more. -/
theorem has_of_unseen (unseen : (m.isSeen nonce now).1 = false) :
    (m.isSeen nonce now).2.has nonce = false := by
  unfold isSeen at unseen ⊢
  cases found : m.entries.lookup nonce with
  | none =>
      refine Bool.eq_false_iff.mpr fun present => ?_
      obtain ⟨⟨key, expiry⟩, mem, rfl⟩ := List.mem_map.mp (List.contains_iff_mem.mp present)
      exact absurd rfl (bne_iff_ne.mp (List.lookup_eq_none_iff.mp found _ mem))
  | some expiry =>
      rw [found] at unseen
      simp only at unseen ⊢
      split
      · refine Bool.eq_false_iff.mpr fun present => ?_
        obtain ⟨entry, mem, same⟩ := List.mem_map.mp (List.contains_iff_mem.mp present)
        exact of_decide_eq_true (List.mem_filter.mp mem).2 same
      · rename_i young
        rw [if_neg young] at unseen
        cases unseen

/-- The store answers like one that forgets a nonce when its mark expires. -/
def exactSeen : Ttl.ExactSeen markUsed seenStore.isSeen where
  Live := Live
  mark_live := live_markUsed
  mark_frame := live_markUsed_frame
  seen_iff := by
    intro m nonce now b seen
    rw [← Except.ok.inj seen]
    exact isSeen_iff
  seen_frame := live_isSeen
  mark_unseen := fun unseen marked => markUsed_new (has_of_unseen (Except.ok.inj unseen)) marked

end MemoryNonceStore

end Uxsp
