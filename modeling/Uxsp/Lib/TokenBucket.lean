import Mathlib

/-!
# Token buckets

A bucket holds at most `cap` tokens, gains `rate` of them in a unit of time and gives one away for
each request it allows.  It is filled up lazily, when a request comes.  `Bounds` is the invariant of
a run: what was allowed since a time and what is left in the bucket are paid for by a full bucket
and the tokens gained since.
-/

namespace Uxsp.TokenBucket

structure Bucket where
  tokens : ℚ
  lastRefill : ℚ
  deriving DecidableEq

variable (cap rate : ℚ)

/-- The bucket with the tokens gained since it was last filled up. -/
def refill (b : Bucket) (t : ℚ) : Bucket :=
  if 0 < t - b.lastRefill then ⟨min cap (b.tokens + (t - b.lastRefill) * rate), t⟩ else b

/-- Whether the first token can be taken, and the bucket without it. -/
def take (b : Bucket) : Bool × Bucket :=
  if 1 ≤ b.tokens then (true, { b with tokens := b.tokens - 1 }) else (false, b)

/-- A request to a bucket that is made full where there is none. -/
def request (o : Option Bucket) (t : ℚ) : Bool × Bucket :=
  take (refill cap rate (o.getD ⟨cap, t⟩) t)

variable {cap rate} {b : Bucket} {o : Option Bucket} {hist : List ℚ} {t clock lo hi : ℚ}

/-- A bucket that is not in the future is filled up to now. -/
theorem refill_eq (full : b.tokens ≤ cap) (past : b.lastRefill ≤ t) :
    refill cap rate b t = ⟨min cap (b.tokens + (t - b.lastRefill) * rate), t⟩ := by
  unfold refill
  split
  · rfl
  · rename_i still
    have same : b.lastRefill = t := le_antisymm past (by linarith)
    rw [same, sub_self, zero_mul, add_zero, min_eq_right full, ← same]

/-- How many of the times are in `[lo, hi]`. -/
def between (lo hi : ℚ) (ts : List ℚ) : ℕ := ts.countP fun x => lo ≤ x ∧ x ≤ hi

/-- How many of the times are not before `lo`. -/
def since (lo : ℚ) (ts : List ℚ) : ℕ := ts.countP fun x => lo ≤ x

theorem since_snoc : since lo (hist ++ [t]) = since lo hist + if lo ≤ t then 1 else 0 := by
  rw [since, List.countP_append, List.countP_singleton, since]
  simp only [decide_eq_true_eq]

theorem between_le_since : between lo hi hist ≤ since lo hist := by
  refine List.countP_mono_left fun x _ inside => ?_
  rw [decide_eq_true_eq] at inside ⊢
  exact inside.1

/-- A time after the interval is not counted. -/
theorem between_snoc_of_lt (later : hi < t) : between lo hi (hist ++ [t]) = between lo hi hist := by
  rw [between, List.countP_append, List.countP_singleton, if_neg, add_zero, between]
  rw [decide_eq_true_eq]
  exact fun inside => absurd inside.2 (not_le.mpr later)

/-- What was allowed so far, and the bucket it left. -/
structure Bounds (cap rate : ℚ) (hist : List ℚ) (b : Bucket) : Prop where
  nonneg : 0 ≤ b.tokens
  full : b.tokens ≤ cap
  past : ∀ x ∈ hist, x ≤ b.lastRefill
  paid : ∀ lo ≤ b.lastRefill, since lo hist + b.tokens ≤ cap + rate * (b.lastRefill - lo)
  between : ∀ lo hi, lo ≤ hi → between lo hi hist ≤ cap + rate * (hi - lo)

/-- A bucket that was just made. -/
theorem bounds_full (positive : 0 < cap) (gains : 0 < rate) : Bounds cap rate [] ⟨cap, t⟩ where
  nonneg := positive.le
  full := le_rfl
  past := nofun
  paid lo before := by
    have gained : 0 ≤ rate * (t - lo) := mul_nonneg gains.le (sub_nonneg.mpr before)
    rw [since, List.countP_nil, Nat.cast_zero]
    linarith
  between lo hi le := by
    have gained : 0 ≤ rate * (hi - lo) := mul_nonneg gains.le (sub_nonneg.mpr le)
    rw [TokenBucket.between, List.countP_nil, Nat.cast_zero]
    linarith

namespace Bounds

variable (bounds : Bounds cap rate hist b)

include bounds

/-- Nothing was allowed after the bucket was last filled up. -/
theorem since_eq_zero (later : b.lastRefill < lo) : since lo hist = 0 := by
  refine List.countP_eq_zero.mpr fun x mem => ?_
  rw [decide_eq_true_eq, not_le]
  exact (bounds.past x mem).trans_lt later

/-- Filling up pays for the time that went by, unless the bucket runs over. -/
theorem refill (gains : 0 < rate) (later : b.lastRefill ≤ t) :
    Bounds cap rate hist (refill cap rate b t) := by
  have gained : 0 ≤ (t - b.lastRefill) * rate := mul_nonneg (sub_nonneg.mpr later) gains.le
  rw [refill_eq bounds.full later]
  refine ⟨?_, min_le_left _ _, fun x mem => (bounds.past x mem).trans later, fun lo before => ?_,
    bounds.between⟩
  · exact le_min (bounds.nonneg.trans bounds.full) (by linarith [bounds.nonneg])
  · by_cases old : lo ≤ b.lastRefill
    · have paid := bounds.paid lo old
      have less : min cap (b.tokens + (t - b.lastRefill) * rate) ≤
          b.tokens + (t - b.lastRefill) * rate := min_le_right _ _
      show since lo hist + min cap (b.tokens + (t - b.lastRefill) * rate) ≤ cap + rate * (t - lo)
      linarith
    · have none := bounds.since_eq_zero (not_le.mp old)
      have less : min cap (b.tokens + (t - b.lastRefill) * rate) ≤ cap := min_le_left _ _
      have passed : 0 ≤ rate * (t - lo) := mul_nonneg gains.le (sub_nonneg.mpr before)
      rw [none, Nat.cast_zero]
      linarith

/-- A token that is taken pays for its request. -/
theorem spend (gains : 0 < rate) (enough : 1 ≤ b.tokens) :
    Bounds cap rate (hist ++ [b.lastRefill]) { b with tokens := b.tokens - 1 } := by
  have paid : ∀ lo ≤ b.lastRefill, (since lo (hist ++ [b.lastRefill]) : ℚ) + (b.tokens - 1) ≤
      cap + rate * (b.lastRefill - lo) := by
    intro lo before
    rw [since_snoc, if_pos before, Nat.cast_add, Nat.cast_one]
    linarith [bounds.paid lo before]
  refine ⟨sub_nonneg.mpr enough, by linarith [bounds.full], fun x mem => ?_, paid,
    fun lo hi le => ?_⟩
  · obtain old | last := List.mem_append.mp mem
    · exact bounds.past x old
    · exact (List.mem_singleton.mp last).le
  · obtain before | reached := lt_or_ge hi b.lastRefill
    · rw [between_snoc_of_lt before]
      exact bounds.between lo hi le
    · -- the interval ends after the request, so it counts what `since` does
      have counted : (TokenBucket.between lo hi (hist ++ [b.lastRefill]) : ℚ) ≤
          since lo (hist ++ [b.lastRefill]) := by
        exact_mod_cast between_le_since
      by_cases before : lo ≤ b.lastRefill
      · have passed : rate * (b.lastRefill - lo) ≤ rate * (hi - lo) :=
          mul_le_mul_of_nonneg_left (by linarith) gains.le
        linarith [paid lo before]
      · have none : since lo (hist ++ [b.lastRefill]) = 0 := by
          rw [since_snoc, if_neg before, bounds.since_eq_zero (not_le.mp before)]
        have passed : 0 ≤ rate * (hi - lo) := mul_nonneg gains.le (sub_nonneg.mpr le)
        rw [none, Nat.cast_zero] at counted
        linarith [bounds.nonneg, bounds.full]

end Bounds

/-- A request keeps the bounds; the bucket it leaves is filled up to its time. -/
theorem Bounds.request (bounds : Bounds cap rate hist (o.getD ⟨cap, t⟩)) (gains : 0 < rate)
    (later : (o.getD ⟨cap, t⟩).lastRefill ≤ t) :
    Bounds cap rate (hist ++ if (request cap rate o t).1 then [t] else []) (request cap rate o t).2 ∧
      (request cap rate o t).2.lastRefill = t := by
  have filled := bounds.refill gains later
  have now : (TokenBucket.refill cap rate (o.getD ⟨cap, t⟩) t).lastRefill = t := by
    rw [refill_eq bounds.full later]
  unfold TokenBucket.request
  generalize TokenBucket.refill cap rate (o.getD ⟨cap, t⟩) t = b at filled now
  subst now
  unfold take
  split
  · rename_i enough
    rw [if_pos rfl]
    exact ⟨filled.spend gains enough, rfl⟩
  · rw [if_neg Bool.false_ne_true, List.append_nil]
    exact ⟨filled, rfl⟩

/-- A refused request is allowed as soon as one token has been gained, if the bucket can hold it. -/
theorem request_retry (gains : 0 < rate) (whole : 1 ≤ cap)
    (bounds : Bounds cap rate hist (o.getD ⟨cap, t⟩)) (later : (o.getD ⟨cap, t⟩).lastRefill ≤ t)
    (refused : (request cap rate o t).1 = false) :
    (request cap rate (some (request cap rate o t).2)
      (t + (1 - (request cap rate o t).2.tokens) / rate)).1 = true := by
  obtain ⟨left, now⟩ := bounds.request gains later
  have few : (request cap rate o t).2.tokens < 1 := by
    unfold request take at refused ⊢
    split at refused
    · cases refused
    · rename_i few
      rw [if_neg few]
      exact not_le.mp few
  generalize (request cap rate o t).2 = b at left now few
  have waited : 0 ≤ (1 - b.tokens) / rate := div_nonneg (by linarith) gains.le
  have gained : b.tokens + (1 - b.tokens) / rate * rate = 1 := by
    rw [div_mul_cancel₀ _ gains.ne', add_sub_cancel]
  rw [request, Option.getD_some, refill_eq left.full (by linarith), now, add_sub_cancel_left, gained,
    take, if_pos (le_min whole le_rfl)]

end Uxsp.TokenBucket
