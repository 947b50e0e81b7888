import Mathlib

/-!
# Stores of used keys with a time to live

A store marks keys as used and may forget a key once its time to live is over.  `Laws` is what a
caller may rely on; `Guards` is the invariant a system keeps about one marked key: until the
expiry of the mark the store holds it.  `Guards.expired` is the use of it: a key that is marked
again was marked long enough ago.
-/

namespace Uxsp.Ttl

variable {σ κ ε : Type*}

/-- What a store promises.  `mark` tests and sets a key; `tend` is any other step it takes at a
time: looking a key up, cleaning up, expiring entries. -/
structure Laws (mark : σ → κ → ℚ → ℚ → Except ε Bool × σ) (tend : σ → ℚ → σ → Prop) where
  /-- The store holds the key until the time. -/
  Holds : σ → κ → ℚ → Prop
  mark_holds : ∀ {s k ttl now}, (mark s k ttl now).1 = .ok true →
    Holds (mark s k ttl now).2 k (now + ttl)
  held_rejects : ∀ {s k e ttl now}, Holds s k e → now < e → (mark s k ttl now).1 ≠ .ok true
  mark_keeps : ∀ {s k e k' ttl now}, Holds s k e → now < e → Holds (mark s k' ttl now).2 k e
  tend_keeps : ∀ {s k e now s'}, Holds s k e → now < e → tend s now s' → Holds s' k e

variable {mark : σ → κ → ℚ → ℚ → Except ε Bool × σ} {tend : σ → ℚ → σ → Prop}
  (laws : Laws mark tend) {s s' : σ} {clock now ttl e : ℚ} {k k' : κ}

/-- Seen from `clock`, the store holds the key until it expires. -/
def Guards (s : σ) (clock : ℚ) (k : κ) (e : ℚ) : Prop := clock < e → laws.Holds s k e

theorem Guards.of_mark (marked : (mark s k ttl now).1 = .ok true) :
    Guards laws (mark s k ttl now).2 now k (now + ttl) :=
  fun _ => laws.mark_holds marked

variable {laws}

theorem Guards.later (guards : Guards laws s clock k e) (le : clock ≤ now) :
    Guards laws s now k e :=
  fun before => guards (le.trans_lt before)

theorem Guards.kept (guards : Guards laws s clock k e) (le : clock ≤ now) :
    Guards laws (mark s k' ttl now).2 now k e :=
  fun before => laws.mark_keeps (guards (le.trans_lt before)) before

theorem Guards.tended (guards : Guards laws s clock k e) (le : clock ≤ now)
    (step : tend s now s') : Guards laws s' now k e :=
  fun before => laws.tend_keeps (guards (le.trans_lt before)) before step

/-- A key is marked again only after its mark has expired. -/
theorem Guards.expired (guards : Guards laws s clock k e) (le : clock ≤ now)
    (again : (mark s k ttl now).1 = .ok true) : e ≤ now := by
  by_contra early
  have before : now < e := not_le.mp early
  exact laws.held_rejects (guards (le.trans_lt before)) before again

/-- What a store promises about keys it has never marked: it takes them. -/
structure FirstUse (mark : σ → κ → ℚ → ℚ → Except ε Bool × σ) (seen : σ → κ → ℚ → Except ε Bool × σ)
    where
  /-- The key was never marked. -/
  New : σ → κ → Prop
  mark_new : ∀ {s k ttl now b}, New s k → (mark s k ttl now).1 = .ok b → b = true
  seen_new : ∀ {s k now b}, New s k → (seen s k now).1 = .ok b → b = false
  mark_keeps : ∀ {s k k' ttl now}, New s k → k' ≠ k → New (mark s k' ttl now).2 k
  seen_keeps : ∀ {s k k' now}, New s k → New (seen s k' now).2 k

/-- What a store promises that refuses no key but those it has marked. -/
structure Truthful (mark : σ → κ → ℚ → ℚ → Except ε Bool × σ) (tend : σ → ℚ → σ → Prop) where
  /-- The key was never marked. -/
  Unmarked : σ → κ → Prop
  mark_unmarked : ∀ {s k ttl now b}, Unmarked s k → (mark s k ttl now).1 = .ok b → b = true
  mark_keeps : ∀ {s k k' ttl now}, Unmarked s k →
    (k' = k → (mark s k' ttl now).1 ≠ .ok true) → Unmarked (mark s k' ttl now).2 k
  tend_keeps : ∀ {s k now s'}, Unmarked s k → tend s now s' → Unmarked s' k

/-! ## Stores that forget -/

/-- What a store promises that holds a key until its mark expires, and no longer. -/
structure Timed (mark : σ → κ → ℚ → ℚ → Except ε Bool × σ) where
  /-- The store holds the key at the time. -/
  Live : σ → κ → ℚ → Prop
  mark_live : ∀ {s k ttl now k' t}, (mark s k ttl now).1 = .ok true → now ≤ t →
    (Live (mark s k ttl now).2 k' t ↔ k' = k ∧ t < now + ttl ∨ Live s k' t)
  mark_frame : ∀ {s k ttl now k' t}, (mark s k ttl now).1 ≠ .ok true → now ≤ t →
    (Live (mark s k ttl now).2 k' t ↔ Live s k' t)

/-- Marking alone is exact: a key is taken exactly if it is not held. -/
structure Exact (mark : σ → κ → ℚ → ℚ → Except ε Bool × σ) extends Timed mark where
  mark_iff : ∀ {s k ttl now b}, (mark s k ttl now).1 = .ok b → (b = true ↔ ¬ Live s k now)

/-- Looking a key up is exact, and a key that was not found is taken. -/
structure ExactSeen (mark : σ → κ → ℚ → ℚ → Except ε Bool × σ)
    (seen : σ → κ → ℚ → Except ε Bool × σ) extends Timed mark where
  seen_iff : ∀ {s k now b}, (seen s k now).1 = .ok b → (b = true ↔ Live s k now)
  seen_frame : ∀ {s k now k' t}, now ≤ t → (Live (seen s k now).2 k' t ↔ Live s k' t)
  mark_unseen : ∀ {s k ttl now b}, (seen s k now).1 = .ok false →
    (mark (seen s k now).2 k ttl now).1 = .ok b → b = true

/-- Marking loses no key. -/
theorem Timed.kept (timed : Timed mark) {t : ℚ} (le : now ≤ t) (live : timed.Live s k t) :
    timed.Live (mark s k' ttl now).2 k t := by
  by_cases marked : (mark s k' ttl now).1 = .ok true
  · exact (timed.mark_live marked le).mpr (.inr live)
  · exact (timed.mark_frame marked le).mpr live

theorem Timed.held (timed : Timed mark) {t : ℚ} (marked : (mark s k ttl now).1 = .ok true)
    (le : now ≤ t) (less : t < now + ttl) : timed.Live (mark s k ttl now).2 k t :=
  (timed.mark_live marked le).mpr (.inl ⟨rfl, less⟩)

end Uxsp.Ttl
