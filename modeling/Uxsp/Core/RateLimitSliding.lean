import Uxsp.Core.RateLimit

/-!
# `SlidingRateLimiter` is exact

The invariant of a run is `Tracks`: the log of a key records the times at which its checks succeeded
(`SlidingLog.Records`), however often the limiter swept.  A check then answers by how many of them
are in the window that ends now.
-/

namespace Uxsp

namespace SlidingRateLimiter

open LimiterCall
open LimiterConfig (sample sampleKey)
open SlidingLog (Records prune within records_nil prune_eq_recent)

variable {c : LimiterConfig} {m m' : SlidingRateLimiter} {key other : Str} {now t clock : ℚ}

/-- The log of a key. -/
def times (c : LimiterConfig) (m : SlidingRateLimiter) (key : Str) : List ℚ :=
  (m.log.get? (c.fullKey key)).getD []

theorem getD_keep (o : Option (List ℚ)) :
    (o.bind (keep c now)).getD [] = prune c.windowSeconds now (o.getD []) := by
  cases o with
  | none => rfl
  | some ts =>
      rw [Option.bind_some, Option.getD_some, keep]
      cases prune c.windowSeconds now ts <;> rfl

theorem times_cleanup :
    (m.cleanupLocked c now).2.times c key = prune c.windowSeconds now (m.times c key) := by
  rw [times, cleanupLocked, Table.get?_sweep, getD_keep, times]

theorem times_tick (c : LimiterConfig) (m : SlidingRateLimiter) (key : Str) (now : ℚ) :
    (m.tick c now).times c key = m.times c key ∨
    (m.tick c now).times c key = prune c.windowSeconds now (m.times c key) := by
  unfold tick
  split
  · exact .inr times_cleanup
  · exact .inl rfl

theorem size_tick_le : (m.tick c now).log.size ≤ m.log.size := by
  unfold tick
  split
  · exact Table.size_sweep_le _ _
  · exact le_rfl

theorem times_put {ts : List ℚ} :
    (m.put c key ts).times c other = if other = key then ts else m.times c other := by
  rw [times, put, Table.get?_set]
  by_cases same : other = key
  · rw [if_pos same, if_pos (beq_iff_eq.mpr (congrArg c.fullKey same))]
    rfl
  · rw [if_neg same, if_neg (mt beq_iff_eq.mp (mt c.fullKey_inj.mp same)), times]

/-- The log of a key when it is checked. -/
def pruned (c : LimiterConfig) (m : SlidingRateLimiter) (key : Str) (now : ℚ) : List ℚ :=
  prune c.windowSeconds now ((m.tick c now).times c key)

/-- A check answers by the length of the pruned log, and leaves it with or without its time. -/
theorem check_cases (positive : 0 < c.maxRequests) (room : m.Roomy) (key : Str) (now : ℚ) :
    c.maxRequests ≤ (m.pruned c key now).length ∧ m.check c key now =
        (.error ⟨key, max 0 (retryAfter c now (m.pruned c key now))⟩,
          (m.tick c now).put c key (m.pruned c key now)) ∨
      (m.pruned c key now).length < c.maxRequests ∧ m.check c key now =
        (.ok (), (m.tick c now).put c key (m.pruned c key now ++ [now])) := by
  have room : ¬ MAX_ENTRIES ≤ (m.tick c now).log.size :=
    not_le.mpr (size_tick_le.trans_lt room)
  have answer : m.check c key now =
      if c.maxRequests ≤ (m.pruned c key now).length then
        (.error ⟨key, max 0 (retryAfter c now (m.pruned c key now))⟩,
          (m.tick c now).put c key (m.pruned c key now))
      else (.ok (), (m.tick c now).put c key (m.pruned c key now ++ [now])) := by
    unfold check
    simp only [if_neg positive.ne', room, and_false, if_false]
    rfl
  rw [answer]
  by_cases full : c.maxRequests ≤ (m.pruned c key now).length
  · exact .inl ⟨full, if_pos full⟩
  · exact .inr ⟨not_le.mp full, if_neg full⟩

/-- The log of a key records its admitted checks. -/
def Tracks (c : LimiterConfig) (key : Str) (hist : List ℚ) (s : SlidingRateLimiter × ℚ) : Prop :=
  Records c.windowSeconds c.maxRequests hist (s.1.times c key) s.2

variable {hist : List ℚ}

theorem Tracks.tick (tracks : Tracks c key hist (m, clock)) (later : clock ≤ now) :
    Tracks c key hist (m.tick c now, now) := by
  unfold Tracks at tracks ⊢
  obtain same | swept := times_tick c m key now
  · rw [same]
    exact tracks.later later
  · rw [swept]
    exact tracks.prune later

/-- The window that ends now holds what is left after pruning. -/
theorem Tracks.within_eq (tracks : Tracks c key hist (m, clock)) (later : clock ≤ now) :
    within (now - c.windowSeconds) now hist = (m.pruned c key now).length :=
  Records.within_eq (tracks.tick later) le_rfl

/-- A check of the key. -/
theorem Tracks.check (tracks : Tracks c key hist (m, clock)) (positive : 0 < c.maxRequests)
    (room : m.Roomy) (later : clock ≤ now) :
    Tracks c key (hist ++ if (m.check c key now).1 = .ok () then [now] else [])
      ((m.check c key now).2, now) := by
  have records := tracks.tick later
  unfold Tracks at records ⊢
  obtain ⟨-, checked⟩ | ⟨few, checked⟩ := check_cases positive room key now <;> rw [checked]
  · rw [if_neg nofun, List.append_nil, times_put, if_pos rfl]
    exact records.prune le_rfl
  · rw [if_pos rfl, times_put, if_pos rfl]
    exact records.snoc le_rfl few

/-- A check of another key. -/
theorem Tracks.frame (tracks : Tracks c key hist (m, clock)) (positive : 0 < c.maxRequests)
    (room : m.Roomy) (later : clock ≤ now) (apart : key ≠ other) :
    Tracks c key hist ((m.check c other now).2, now) := by
  have records := tracks.tick later
  unfold Tracks at records ⊢
  obtain ⟨-, checked⟩ | ⟨-, checked⟩ := check_cases positive room other now <;>
    rwa [checked, times_put, if_neg apart]

theorem Tracks.cleanup (tracks : Tracks c key hist (m, clock)) (later : clock ≤ now) :
    Tracks c key hist ((m.cleanupLocked c now).2, now) := by
  unfold Tracks at tracks ⊢
  rw [times_cleanup]
  exact tracks.prune later

variable {es : List LimiterCall} {s s' : SlidingRateLimiter × ℚ} {e : LimiterCall}

/-- Every call but a reset. -/
theorem tracks_step (positive : 0 < c.maxRequests) (tracks : Tracks c key (admitted key es) s)
    (step : (base c).Step Roomy s e s') (quiet : e.isReset = false) :
    Tracks c key (admitted key (es ++ [e])) s' := by
  rw [admitted_snoc]
  cases step with
  | check k later room =>
      rw [checkOf_check]
      by_cases here : k = key
      · subst here
        rw [if_pos rfl, admitted_single]
        exact tracks.check positive room later
      · rw [if_neg here, Option.toList_none, List.filter_nil, List.map_nil, List.append_nil]
        exact tracks.frame positive room later (Ne.symm here)
  | reset k => cases quiet
  | cleanup later =>
      rw [checkOf_cleanup, Option.toList_none, List.filter_nil, List.map_nil, List.append_nil]
      exact tracks.cleanup later

theorem tracks_run (positive : 0 < c.maxRequests)
    (run : Run ((base c).Step Roomy) (init now, now) es s) (quiet : ∀ e ∈ es, e.isReset = false)
    (key : Str) : Tracks c key (admitted key es) s := by
  have keep : ∀ es s e s', ((∀ e ∈ es, e.isReset = false) → Tracks c key (admitted key es) s) →
      (base c).Step Roomy s e s' →
      (∀ f ∈ es ++ [e], f.isReset = false) → Tracks c key (admitted key (es ++ [e])) s' := by
    intro es s e s' ih step quiet
    obtain ⟨before, last⟩ := List.forall_mem_append.mp quiet
    exact tracks_step positive (ih before) step (last e List.mem_cons_self)
  exact run.history (I := fun es s => (∀ e ∈ es, e.isReset = false) → Tracks c key (admitted key es) s)
    keep (fun _ => records_nil) quiet

/-! ## The decisions -/

theorem remaining_eq (m : SlidingRateLimiter) (ascending : (m.times c key).Pairwise (· ≤ ·)) :
    m.remaining c key now = c.maxRequests - (prune c.windowSeconds now (m.times c key)).length := by
  unfold remaining
  rw [prune_eq_recent ascending]
  unfold times at ascending ⊢
  cases entry : m.log.get? (c.fullKey key) with
  | none => rfl
  | some ts =>
      rw [entry] at ascending
      cases ts with
      | nil => rfl
      | cons x ts =>
          exact congrArg (c.maxRequests - ·) (SlidingLog.length_takeWhile_reverse ascending)

theorem check_eq_ok (positive : 0 < c.maxRequests) (room : m.Roomy) :
    (m.check c key now).1 = .ok () ↔ (m.pruned c key now).length < c.maxRequests := by
  obtain ⟨full, checked⟩ | ⟨few, checked⟩ := check_cases positive room key now <;> rw [checked]
  · exact iff_of_false nofun (not_lt.mpr full)
  · exact iff_of_true rfl few

/-- A check that is refused leaves the limiter below its capacity. -/
theorem roomy_check (positive : 0 < c.maxRequests) (room : m.Roomy)
    (full : c.maxRequests ≤ (m.pruned c key now).length) (checked : m.check c key now =
      (.error ⟨key, max 0 (retryAfter c now (m.pruned c key now))⟩,
        (m.tick c now).put c key (m.pruned c key now))) : (m.check c key now).2.Roomy := by
  have present : ((m.tick c now).log.get? (c.fullKey key)).isSome = true := by
    cases entry : (m.tick c now).log.get? (c.fullKey key) with
    | none =>
        rw [pruned, times, entry] at full
        exact absurd full (not_le.mpr positive)
    | some ts => rfl
  rw [checked, Roomy, put, Table.size_set present]
  exact size_tick_le.trans_lt room

theorem pruned_eq : m.pruned c key now = prune c.windowSeconds now (m.times c key) := by
  unfold pruned
  obtain same | swept := times_tick c m key now
  · rw [same]
  · rw [swept, SlidingLog.prune_prune]

/-- A refused key is admitted after the time it is told, and not before. -/
theorem check_retry (tracks : Tracks c key hist (m, clock)) (positive : 0 < c.maxRequests)
    (room : m.Roomy) (later : clock ≤ now) {r : RateLimitExceededError}
    (refusal : (m.check c key now).1 = .error r) :
    ((m.check c key now).2.check c key (now + r.retryAfter)).1 = .ok () ∧
      ∀ t, now ≤ t → t < now + r.retryAfter → ((m.check c key now).2.check c key t).1 ≠ .ok () := by
  obtain ⟨full, checked⟩ | ⟨-, checked⟩ := check_cases positive room key now
  · have roomy := roomy_check positive room full checked
    have records := (tracks.tick later).prune le_rfl
    have log : (m.check c key now).2.times c key = m.pruned c key now := by
      rw [checked, times_put, if_pos rfl]
    have answers : ∀ t, ((m.check c key now).2.check c key t).1 = .ok () ↔
        (prune c.windowSeconds t (m.pruned c key now)).length < c.maxRequests := by
      intro t
      rw [check_eq_ok positive roomy, pruned_eq, log]
    rw [checked] at refusal
    obtain rfl := Except.error.inj refusal
    cases oldest : m.pruned c key now with
    | nil =>
        rw [oldest] at full
        exact absurd full (not_le.mpr positive)
    | cons first rest =>
        have young : now - c.windowSeconds < first := SlidingLog.lt_of_prune_eq oldest
        have short : (first :: rest).length ≤ c.maxRequests := oldest ▸ records.short
        have wait : now + max 0 (retryAfter c now (first :: rest)) = first + c.windowSeconds := by
          rw [retryAfter, max_eq_right (by linarith)]
          ring
        rw [oldest] at full answers
        rw [wait, answers]
        refine ⟨SlidingLog.length_prune_lt.trans_le short, fun t _ early => ?_⟩
        rw [Ne, answers, SlidingLog.prune_of_lt early]
        exact not_lt.mpr full
  · rw [checked] at refusal
    cases refusal

/-- In runs of checks and clean-ups below the key capacity, the limiter decides by the number of
checks of the key that succeeded in the window that ends now. -/
theorem check_exact (c : LimiterConfig) (positive : 0 < c.maxRequests) {start clock now : ℚ}
    {es : List LimiterCall} {m : SlidingRateLimiter}
    (run : Run ((base c).Step Roomy) (init start, start) es (m, clock))
    (quiet : ∀ e ∈ es, e.isReset = false) (key : Str) (later : clock ≤ now) :
    m.remaining c key now + within (now - c.windowSeconds) now (admitted key es) =
        c.maxRequests ∧
      (m.Roomy →
        ((m.check c key now).1 = .ok () ↔
          within (now - c.windowSeconds) now (admitted key es) < c.maxRequests) ∧
        ∀ r, (m.check c key now).1 = .error r →
          ((m.check c key now).2.check c key (now + r.retryAfter)).1 = .ok () ∧
          ∀ t, now ≤ t → t < now + r.retryAfter →
            ((m.check c key now).2.check c key t).1 ≠ .ok ()) := by
  have tracks := tracks_run positive run quiet key
  refine ⟨?_, fun room => ⟨?_, fun r => check_retry tracks positive room later⟩⟩
  · have few := Records.within_le tracks later
    rw [remaining_eq m tracks.ascending]
    rw [tracks.within_eq later, pruned_eq] at few ⊢
    exact Nat.sub_add_cancel few
  · rw [check_eq_ok positive room, tracks.within_eq later]

theorem check_exact_sample :
    let m := ((init 0).check sample sampleKey 0).2
    let m' := (m.check sample sampleKey 45).2
    (m.check sample sampleKey 45).1 = .error ⟨sampleKey, 15⟩ ∧
      m.remaining sample sampleKey 45 + 1 = 1 ∧
      (m'.check sample sampleKey (45 + 15)).1 = .ok () := by
  have step : (base sample).Step Roomy (init 0, 0)
      (.check sampleKey 0 ((init 0).check sample sampleKey 0).1)
      (((init 0).check sample sampleKey 0).2, 0) :=
    .check (L := base sample) sampleKey le_rfl (by decide +kernel)
  have answer : ((init 0).check sample sampleKey 0).1 = .ok () := by decide +kernel
  have refusal : (((init 0).check sample sampleKey 0).2.check sample sampleKey 45).1 =
      .error ⟨sampleKey, 15⟩ := by decide +kernel
  rw [answer] at step
  have counted : within (45 - sample.windowSeconds) 45
      (admitted sampleKey [.check sampleKey 0 (.ok ())]) = 1 := by decide +kernel
  have later : (0 : ℚ) ≤ 45 := by norm_num
  obtain ⟨left, decides⟩ := check_exact sample Nat.one_pos (.single step)
    (List.forall_mem_singleton.mpr rfl) sampleKey later
  rw [counted] at left
  exact ⟨refusal, left, ((decides (by decide +kernel)).2 _ refusal).1⟩

end SlidingRateLimiter

end Uxsp
