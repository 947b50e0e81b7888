import Uxsp.Core.RateLimit

/-!
# The bounds of `RateLimiter`

Whatever else a limiter is asked, and whenever it sweeps its entries, a key gets the answers that
`FixedWindow.answers` gives to its own checks: `Tracks` is the invariant and `tracks_step` its step.
The bounds are then those of `FixedWindow`.
-/

namespace Uxsp

namespace FixedWindow

variable {cap : ℕ} {width t : ℚ} {o o' : Option Window}

theorem refused_congr (same : running width o t = running width o' t) :
    refused cap width o t = refused cap width o' t := by
  unfold refused
  rw [same]

theorem next_congr (same : running width o t = running width o' t) :
    next cap width o t = next cap width o' t := by
  unfold next
  rw [same]

end FixedWindow

namespace RateLimiter

open LimiterCall
open LimiterConfig (sample sampleKey)
open FixedWindow (Window running refused next state running_eq_some running_eq_none refused_congr
  next_congr)

variable {c : LimiterConfig} {m : RateLimiter} {key other : Str} {now t clock : ℚ}

/-- The answer to a check that waits this long, or not at all. -/
def verdict (key : Str) : Option ℚ → Except RateLimitExceededError Unit
  | none => .ok ()
  | some r => .error ⟨key, r⟩

@[simp] theorem verdict_eq_ok {r : Option ℚ} : verdict key r = .ok () ↔ r = none := by
  cases r <;> simp [verdict]

/-- The window of a key that runs at the time. -/
def window (c : LimiterConfig) (m : RateLimiter) (key : Str) (t : ℚ) : Option Window :=
  running c.windowSeconds (m.counters.get? (c.fullKey key)) t

theorem running_keep (le : now ≤ t) (o : Option Window) :
    running c.windowSeconds (o.bind (keep c now)) t = running c.windowSeconds o t := by
  cases o with
  | none => rfl
  | some w =>
      rw [Option.bind_some, keep]
      split
      · rename_i old
        have gone : running c.windowSeconds none t = none := rfl
        rw [gone, eq_comm, running_eq_none]
        intro v same
        obtain rfl := Option.some.inj same
        linarith
      · rfl

/-- A sweep takes no window that runs. -/
theorem window_cleanup (le : now ≤ t) :
    (m.cleanupLocked c now).2.window c key t = m.window c key t := by
  rw [window, cleanupLocked, Table.get?_sweep, running_keep le, window]

theorem window_tick (le : now ≤ t) : (m.tick c now).window c key t = m.window c key t := by
  unfold tick
  split
  · exact window_cleanup le
  · rfl

theorem size_tick_le : (m.tick c now).counters.size ≤ m.counters.size := by
  unfold tick
  split
  · exact Table.size_sweep_le _ _
  · exact le_rfl

theorem window_put {w : Window} : (m.put c key w).window c other t =
    if other = key then running c.windowSeconds (some w) t else m.window c other t := by
  rw [window, put, Table.get?_set]
  by_cases same : other = key
  · rw [if_pos same, if_pos (beq_iff_eq.mpr (congrArg c.fullKey same))]
  · rw [if_neg same, if_neg (mt beq_iff_eq.mp (mt c.fullKey_inj.mp same)), window]

/-- After the sweep there is an entry for the key, or room for one. -/
def Placed (c : LimiterConfig) (m : RateLimiter) (key : Str) (now : ℚ) : Prop :=
  ((m.tick c now).counters.get? (c.fullKey key)).isSome = true ∨
    (m.tick c now).counters.size < MAX_ENTRIES

theorem Roomy.placed (room : m.Roomy) : m.Placed c key now := .inr (size_tick_le.trans_lt room)

/-- A check answers by the window that runs and leaves the next one; the other keys keep theirs. -/
theorem check_placed (positive : 0 < c.maxRequests) (placed : m.Placed c key now) :
    (m.check c key now).1 =
        verdict key (refused c.maxRequests c.windowSeconds (m.counters.get? (c.fullKey key)) now) ∧
      ∀ other t, now ≤ t → (m.check c key now).2.window c other t =
        if other = key then running c.windowSeconds
          (next c.maxRequests c.windowSeconds (m.counters.get? (c.fullKey key)) now) t
        else m.window c other t := by
  have same : running c.windowSeconds ((m.tick c now).counters.get? (c.fullKey key)) now =
      running c.windowSeconds (m.counters.get? (c.fullKey key)) now := window_tick le_rfl
  rw [← refused_congr same, ← next_congr same]
  have others : ∀ other t, now ≤ t → m.window c other t = (m.tick c now).window c other t :=
    fun other t later => (window_tick later).symm
  unfold check
  simp only [if_neg positive.ne']
  cases entry : (m.tick c now).counters.get? (c.fullKey key) with
  | none =>
      rw [Placed, entry] at placed
      have room := not_le.mpr (placed.resolve_left Bool.false_ne_true)
      simp only [if_neg room]
      refine ⟨rfl, fun other t later => ?_⟩
      rw [window_put, others other t later]
      rfl
  | some w =>
      by_cases young : now - w.start < c.windowSeconds
      · have run : running c.windowSeconds (some w) now = some w := running_eq_some.mpr ⟨rfl, young⟩
        by_cases full : c.maxRequests ≤ w.count
        · simp only [if_pos young, if_pos full, refused, next, run]
          refine ⟨rfl, fun other t later => ?_⟩
          split
          · rename_i here
            rw [window, here, entry]
          · exact (others other t later).symm
        · simp only [if_pos young, if_neg full, refused, next, run]
          refine ⟨rfl, fun other t later => ?_⟩
          rw [window_put, others other t later]
      · have run : running c.windowSeconds (some w) now = none := by
          refine running_eq_none.mpr fun v same => ?_
          obtain rfl := Option.some.inj same
          linarith
        simp only [if_neg young, refused, next, run]
        refine ⟨rfl, fun other t later => ?_⟩
        rw [window_put, others other t later]

theorem check_eq (positive : 0 < c.maxRequests) (room : m.Roomy) (key : Str) (now : ℚ) :
    (m.check c key now).1 =
        verdict key (refused c.maxRequests c.windowSeconds (m.counters.get? (c.fullKey key)) now) ∧
      ∀ other t, now ≤ t → (m.check c key now).2.window c other t =
        if other = key then running c.windowSeconds
          (next c.maxRequests c.windowSeconds (m.counters.get? (c.fullKey key)) now) t
        else m.window c other t :=
  check_placed positive (Roomy.placed room)

/-- What a key was answered so far and what the limiter says about its window. -/
structure Tracks (c : LimiterConfig) (key : Str)
    (asked : List (ℚ × Except RateLimitExceededError Unit)) (s : RateLimiter × ℚ) : Prop where
  ascending : (asked.map Prod.fst).Pairwise (· ≤ ·)
  past : ∀ x ∈ asked.map Prod.fst, x ≤ s.2
  answers : asked = (FixedWindow.answers c.maxRequests c.windowSeconds (asked.map Prod.fst)).map
    fun a => (a.1, verdict key a.2)
  window : ∀ t, s.2 ≤ t → s.1.window c key t =
    running c.windowSeconds (state c.maxRequests c.windowSeconds (asked.map Prod.fst)) t

variable {asked : List (ℚ × Except RateLimitExceededError Unit)} {m' : RateLimiter}

theorem tracks_init : Tracks c key [] (init now, now) :=
  ⟨.nil, nofun, rfl, fun _ _ => rfl⟩

/-- A call that is not about the key. -/
theorem Tracks.idle (tracks : Tracks c key asked (m, clock)) (later : clock ≤ now)
    (same : ∀ t, now ≤ t → m'.window c key t = m.window c key t) :
    Tracks c key asked (m', now) :=
  ⟨tracks.ascending, fun x mem => (tracks.past x mem).trans later, tracks.answers,
    fun t after => (same t after).trans (tracks.window t (later.trans after))⟩

/-- A key is answered by the window that its own checks left. -/
theorem Tracks.answer (tracks : Tracks c key asked (m, clock)) (positive : 0 < c.maxRequests)
    (room : m.Roomy) (later : clock ≤ now) : (m.check c key now).1 =
      verdict key (refused c.maxRequests c.windowSeconds
        (state c.maxRequests c.windowSeconds (asked.map Prod.fst)) now) := by
  rw [(check_eq positive room key now).1]
  exact congrArg (verdict key) (refused_congr (tracks.window now later))

theorem Tracks.asks (tracks : Tracks c key asked (m, clock)) (positive : 0 < c.maxRequests)
    (room : m.Roomy) (later : clock ≤ now) :
    Tracks c key (asked ++ [(now, (m.check c key now).1)]) ((m.check c key now).2, now) := by
  have same := tracks.window now later
  refine ⟨?_, ?_, ?_, fun t after => ?_⟩ <;> rw [List.map_append, List.map_singleton]
  · refine List.pairwise_append.mpr ⟨tracks.ascending, List.pairwise_singleton _ _, ?_⟩
    intro x mem y last
    rw [List.mem_singleton.mp last]
    exact (tracks.past x mem).trans later
  · intro x mem
    obtain old | last := List.mem_append.mp mem
    · exact (tracks.past x old).trans later
    · exact (List.mem_singleton.mp last).le
  · rw [FixedWindow.answers_snoc, List.map_append, ← tracks.answers, List.map_singleton,
      tracks.answer positive room later]
  · rw [(check_eq positive room key now).2 key t after, if_pos rfl, next_congr same,
      FixedWindow.state_snoc]

variable {es : List LimiterCall} {s s' : RateLimiter × ℚ} {e : LimiterCall}

/-- Every call but a reset. -/
theorem tracks_step (positive : 0 < c.maxRequests) (tracks : Tracks c key (answers key es) s)
    (step : (base c).Step Roomy s e s') (quiet : e.isReset = false) :
    Tracks c key (answers key (es ++ [e])) s' := by
  rw [LimiterCall.answers_snoc]
  cases step with
  | check k later room =>
      rw [checkOf_check]
      by_cases here : k = key
      · subst here
        rw [if_pos rfl]
        exact tracks.asks positive room later
      · rw [if_neg here, Option.toList_none, List.append_nil]
        refine tracks.idle later fun t after => ?_
        have frame := (check_eq positive room k _).2 key t after
        rwa [if_neg (Ne.symm here)] at frame
  | reset k => cases quiet
  | cleanup later =>
      rw [checkOf_cleanup, Option.toList_none, List.append_nil]
      exact tracks.idle later fun t after => window_cleanup after

theorem tracks_run (positive : 0 < c.maxRequests) (run : Run ((base c).Step Roomy) (init now, now) es s)
    (quiet : ∀ e ∈ es, e.isReset = false) (key : Str) : Tracks c key (answers key es) s := by
  have keep : ∀ es s e s', ((∀ e ∈ es, e.isReset = false) → Tracks c key (answers key es) s) →
      (base c).Step Roomy s e s' →
      (∀ f ∈ es ++ [e], f.isReset = false) → Tracks c key (answers key (es ++ [e])) s' := by
    intro es s e s' ih step quiet
    obtain ⟨before, last⟩ := List.forall_mem_append.mp quiet
    exact tracks_step positive (ih before) step (last e List.mem_cons_self)
  exact run.history (I := fun es s => (∀ e ∈ es, e.isReset = false) → Tracks c key (answers key es) s)
    keep (fun _ => tracks_init) quiet

theorem admitted_eq (tracks : Tracks c key (answers key es) s) : admitted key es =
    FixedWindow.admitted c.maxRequests c.windowSeconds (attempts key es) := by
  have same : ∀ r : Option ℚ, (verdict key r).toOption.isSome = r.isNone := by
    intro r
    cases r <;> rfl
  have found := tracks.answers
  rw [admitted, FixedWindow.admitted, attempts]
  generalize FixedWindow.answers c.maxRequests c.windowSeconds ((answers key es).map Prod.fst) = given
    at found ⊢
  rw [found, List.filter_map, List.map_map]
  simp only [Function.comp_def, same]

/-! ## What a key can count on -/

theorem remaining_eq : m.remaining c key now =
    match m.window c key now with
    | none => c.maxRequests
    | some w => c.maxRequests - w.count := by
  unfold remaining window
  cases m.counters.get? (c.fullKey key) with
  | none => rfl
  | some w =>
      by_cases old : c.windowSeconds ≤ now - w.start
      · have gone : running c.windowSeconds (some w) now = none := by
          refine running_eq_none.mpr fun v same => ?_
          obtain rfl := Option.some.inj same
          linarith
        simp only [if_pos old, gone]
      · have runs : running c.windowSeconds (some w) now = some w :=
          running_eq_some.mpr ⟨rfl, not_le.mp old⟩
        simp only [if_neg old, runs]

/-- There is something left exactly if the next check succeeds. -/
theorem remaining_pos (positive : 0 < c.maxRequests) (room : m.Roomy) :
    0 < m.remaining c key now ↔ (m.check c key now).1 = .ok () := by
  rw [(check_eq positive room key now).1, verdict_eq_ok, refused, remaining_eq]
  unfold window
  cases running c.windowSeconds (m.counters.get? (c.fullKey key)) now with
  | none => exact iff_of_true positive rfl
  | some w =>
      by_cases full : c.maxRequests ≤ w.count
      · simp [full]
      · simp [if_neg full, not_le.mp full]

/-- A check that is refused leaves the limiter below its capacity. -/
theorem roomy_check (positive : 0 < c.maxRequests) (room : m.Roomy)
    {r : RateLimitExceededError} (refusal : (m.check c key now).1 = .error r) :
    (m.check c key now).2.Roomy := by
  have room : (m.tick c now).Roomy := size_tick_le.trans_lt room
  unfold check at refusal ⊢
  simp only [if_neg positive.ne'] at refusal ⊢
  cases entry : (m.tick c now).counters.get? (c.fullKey key) with
  | none =>
      simp only [entry, if_neg (not_le.mpr room)] at refusal
      cases refusal
  | some w =>
      simp only [entry] at refusal ⊢
      split at refusal
      · split at refusal
        · rename_i young full
          rw [if_pos young, if_pos full]
          exact room
        · cases refusal
      · cases refusal

/-- A refused key is admitted after the time it is told, and not before. -/
theorem check_retry (positive : 0 < c.maxRequests) (room : m.Roomy) {r : RateLimitExceededError}
    (refusal : (m.check c key now).1 = .error r) :
    ((m.check c key now).2.check c key (now + r.retryAfter)).1 = .ok () ∧
      ∀ t, now ≤ t → t < now + r.retryAfter → ((m.check c key now).2.check c key t).1 ≠ .ok () := by
  obtain ⟨answer, windows⟩ := check_eq positive room key now
  have windows : ∀ t, now ≤ t → (m.check c key now).2.window c key t = running c.windowSeconds
      (next c.maxRequests c.windowSeconds (m.counters.get? (c.fullKey key)) now) t := by
    intro t later
    rw [windows key t later, if_pos rfl]
  have room := roomy_check positive room refusal
  rw [answer] at refusal
  cases waits : refused c.maxRequests c.windowSeconds (m.counters.get? (c.fullKey key)) now with
  | none =>
      rw [waits] at refusal
      cases refusal
  | some wait =>
      rw [waits] at refusal
      obtain rfl := Except.error.inj refusal
      obtain ⟨waiting, after, before⟩ := FixedWindow.refused_retry waits
      have answers : ∀ t, now ≤ t → ((m.check c key now).2.check c key t).1 =
          verdict key (refused c.maxRequests c.windowSeconds
            (next c.maxRequests c.windowSeconds (m.counters.get? (c.fullKey key)) now) t) := by
        intro t later
        rw [(check_eq positive room key t).1]
        exact congrArg (verdict key) (refused_congr (windows t later))
      refine ⟨?_, fun t later early => ?_⟩
      · rw [answers _ (le_add_of_nonneg_right waiting.le), verdict_eq_ok]
        exact after
      · rw [answers t later, Ne, verdict_eq_ok]
        exact before t early

/-- In runs of checks and clean-ups below the key capacity: a window admits no more than the
maximum and any interval of its length no more than twice that; the answers to a key depend on the
times of its own checks alone; `remaining` foretells the next check; and `retry_after` is exact. -/
theorem check_bounds (c : LimiterConfig) (positive : 0 < c.maxRequests) {start clock : ℚ}
    {es : List LimiterCall} {m : RateLimiter}
    (run : Run ((base c).Step Roomy) (init start, start) es (m, clock))
    (quiet : ∀ e ∈ es, e.isReset = false) (key : Str) :
    (∀ w, m.window c key clock = some w → ∀ post s,
      Run ((base c).Step Roomy) (m, clock) post s → (∀ e ∈ post, e.isReset = false) →
      (admitted key (es ++ post)).countP
        (fun x => w.start ≤ x ∧ x < w.start + c.windowSeconds) ≤ c.maxRequests) ∧
    (∀ lo : ℚ,
      (admitted key es).countP (fun x => lo ≤ x ∧ x < lo + c.windowSeconds) ≤ 2 * c.maxRequests ∧
      (admitted key es).countP (fun x => lo < x ∧ x ≤ lo + c.windowSeconds) ≤ 2 * c.maxRequests) ∧
    (∀ start' es' s, Run ((base c).Step Roomy) (init start', start') es' s →
      (∀ e ∈ es', e.isReset = false) → attempts key es' = attempts key es →
      answers key es' = answers key es) ∧
    ∀ now, clock ≤ now → m.Roomy →
      (0 < m.remaining c key now ↔ (m.check c key now).1 = .ok ()) ∧
      ∀ r, (m.check c key now).1 = .error r →
        ((m.check c key now).2.check c key (now + r.retryAfter)).1 = .ok () ∧
        ∀ t, now ≤ t → t < now + r.retryAfter →
          ((m.check c key now).2.check c key t).1 ≠ .ok () := by
  have tracks := tracks_run positive run quiet key
  refine ⟨fun w window post s more still => ?_, fun lo => ?_,
    fun start' es' s run' quiet' same => ?_,
    fun now _ room => ⟨remaining_pos positive room, fun r => check_retry positive room⟩⟩
  · have whole := tracks_run positive (run.append more) (List.forall_mem_append.mpr ⟨quiet, still⟩) key
    have split : attempts key (es ++ post) = attempts key es ++ attempts key post := by
      rw [attempts, answers, List.filterMap_append, List.map_append]
      rfl
    have ascending := whole.ascending
    rw [← attempts, split] at ascending
    rw [tracks.window clock le_rfl] at window
    rw [admitted_eq whole, split]
    exact FixedWindow.countP_window_le positive c.window_pos ascending
      (running_eq_some.mp window).1
  · rw [admitted_eq tracks]
    exact ⟨FixedWindow.countP_short_le positive c.window_pos tracks.ascending
        (FixedWindow.short_Ico lo),
      FixedWindow.countP_short_le positive c.window_pos tracks.ascending (FixedWindow.short_Ioc lo)⟩
  · rw [tracks.answers, (tracks_run positive run' quiet' key).answers]
    rw [attempts, attempts] at same
    rw [same]

theorem check_bounds_sample :
    let m := ((init 0).check sample sampleKey 0).2
    let m' := (m.check sample sampleKey 45).2
    (m.check sample sampleKey 45).1 = .error ⟨sampleKey, 15⟩ ∧
      (m'.check sample sampleKey (45 + 15)).1 = .ok () ∧
      (m'.check sample sampleKey 59).1 ≠ .ok () := by
  have step : (base sample).Step Roomy (init 0, 0)
      (.check sampleKey 0 ((init 0).check sample sampleKey 0).1)
      (((init 0).check sample sampleKey 0).2, 0) :=
    .check (L := base sample) sampleKey le_rfl (by decide +kernel)
  have refusal : (((init 0).check sample sampleKey 0).2.check sample sampleKey 45).1 =
      .error ⟨sampleKey, 15⟩ := by decide +kernel
  have bounds := check_bounds sample Nat.one_pos (.single step)
    (List.forall_mem_singleton.mpr rfl) sampleKey
  obtain ⟨after, before⟩ := (bounds.2.2.2 45 (by norm_num) (by decide +kernel)).2 _ refusal
  exact ⟨refusal, after, before 59 (by norm_num) (by norm_num)⟩

end RateLimiter

end Uxsp
