import Uxsp.Core.RateLimitFixed
import Uxsp.Core.RedisSliding
import Uxsp.Crypto.Transparent

/-!
# `uxsp.core.rate_limit`: `RedisRateLimiter`

A counter that the first request of a window makes, with the window as its deadline.  The window is
an argument of `EXPIRE`, which takes integers only, so a window given as a `float` makes the script
fail after it has counted the request, and the counter stays for ever.  With an `int` a counter and
a window in memory count alike (`Counts`), and `limitsLike_iff` says that it takes just this.
-/

namespace Uxsp

/-- A number, as Python has it. -/
inductive Number
  | int (n : ℤ)
  | float (x : ℚ)

def Number.value : Number → ℚ
  | .int n => n
  | .float x => x

/-- How the client writes an argument. -/
def Number.encode (R : Runtime) : Number → Except PyErr Str
  | .int n => if Str.printable n then .ok (Str.ofInt n) else .error PyErr.digitLimit
  | .float x => .ok (R.strFloat (.finite x))

/-- The settings, with the window as it was given. -/
structure RedisLimiterConfig extends LimiterConfig where
  window : Number
  window_eq : windowSeconds = window.value

/-- The same settings with another prefix. -/
def RedisLimiterConfig.under (c : RedisLimiterConfig) (keyPrefix : Str) : RedisLimiterConfig :=
  { c with keyPrefix }

namespace RedisRateLimiter

section

variable (R : Runtime) (c : RedisLimiterConfig) (key : Str) (now : ℚ) (d : RedisKeyspace)

/-- `_LUA_SCRIPT`. -/
def luaScript (arg : Str) : Redis.Script Str Str (ℤ × ℤ) := do
  let current ← Redis.incr (c.fullKey key) now
  let _ ← if current = 1 then Redis.expire (c.fullKey key) (Redis.integer? arg) now else pure 0
  let ttl ← Redis.ttl (c.fullKey key) now
  return (current, ttl)

/-- What `check` makes of the reply. -/
def answerOf : Except Redis.Error (ℤ × ℤ) → Except RedisLimiterError Unit
  | .error e => .error (.raised e.raised)
  | .ok (count, ttl) =>
      if c.maxRequests < count then
        .error (.exceeded ⟨key, if 0 < ttl then max 0 (ttl : ℚ) else c.windowSeconds⟩)
      else .ok ()

def check : Except RedisLimiterError Unit × RedisKeyspace :=
  if c.maxRequests = 0 then (.error (.exceeded (c.exceeded key)), d)
  else
    match c.window.encode R with
    | .error e => (.error (.raised e), d)
    | .ok arg =>
        let (reply, d) := luaScript c key now arg d
        (answerOf c key reply, d)

def reset : RedisKeyspace := (Redis.del (c.fullKey key) d).2

end

/-! ## In lockstep -/

/-- A check of both limiters, with the answers. -/
structure Exchange where
  key : Str
  now : ℚ
  memory : Except RateLimitExceededError Unit
  redis : Except RedisLimiterError Unit

inductive Call
  | check (x : Exchange)
  | reset (key : Str)

def Call.key : Call → Str
  | .check x => x.key
  | .reset key => key

/-- Both limiters and the time of the last check. -/
structure Pair where
  memory : RateLimiter
  redis : RedisKeyspace
  clock : ℚ

/-- The same call to a limiter in memory and to one in Redis, whose keys have another prefix.  A
check finds an entry for its key in memory, or room for one. -/
inductive Step (R : Runtime) (c : RedisLimiterConfig) (redisPrefix : Str) :
    Pair → Call → Pair → Prop
  | check {s : Pair} {now : ℚ} (key : Str) (later : s.clock ≤ now)
      (placed : s.memory.Placed c.toLimiterConfig key now) :
      Step R c redisPrefix s
        (.check ⟨key, now, (s.memory.check c.toLimiterConfig key now).1,
          (RedisRateLimiter.check R (c.under redisPrefix) key now s.redis).1⟩)
        ⟨(s.memory.check c.toLimiterConfig key now).2,
          (RedisRateLimiter.check R (c.under redisPrefix) key now s.redis).2, now⟩
  | reset {s : Pair} (key : Str) : Step R c redisPrefix s (.reset key)
      ⟨s.memory.reset c.toLimiterConfig key,
        RedisRateLimiter.reset (c.under redisPrefix) key s.redis, s.clock⟩

/-! ## In Redis alone -/

/-- A call to the limiter in Redis, with the answer to a check. -/
inductive RedisCall
  | check (key : Str) (now : ℚ) (answer : Except RedisLimiterError Unit)
  | reset (key : Str)

inductive RedisStep (R : Runtime) (c : RedisLimiterConfig) :
    RedisKeyspace × ℚ → RedisCall → RedisKeyspace × ℚ → Prop
  | check {d : RedisKeyspace} {clock now : ℚ} (key : Str) (later : clock ≤ now) :
      RedisStep R c (d, clock) (.check key now (RedisRateLimiter.check R c key now d).1)
        ((RedisRateLimiter.check R c key now d).2, now)
  | reset {d : RedisKeyspace} {clock : ℚ} (key : Str) :
      RedisStep R c (d, clock) (.reset key) (RedisRateLimiter.reset c key d, clock)

def RedisCall.key : RedisCall → Str
  | .check key _ _ | .reset key => key

/-! ## The script -/

variable {R : Runtime} {c : RedisLimiterConfig} {key other arg : Str} {now clock t : ℚ}
  {d d' : RedisKeyspace} {n m : ℤ}

/-- The first request of a window sets the deadline. -/
theorem luaScript_first (integer : Redis.integer? arg = some n) (positive : 0 < n)
    (gone : Redis.live d (c.fullKey key) now = none) : ∃ ttl d',
    luaScript c key now arg d = (.ok (1, ttl), d') ∧ Redis.Frame (c.fullKey key) d d' ∧
      ∀ t, Redis.live d' (c.fullKey key) t =
        if t < now + n then some ⟨.counter 1, some (now + n)⟩ else none := by
  obtain ⟨d₁, counted, frame, found⟩ := Redis.incr_of_none gone
  obtain ⟨d₂, timed, frame', lasts⟩ := Redis.expire_ok found positive
  obtain ⟨ttl, asked⟩ := Redis.exists_ttl (c.fullKey key) now d₂
  refine ⟨ttl, d₂, ?_, frame.trans frame', lasts⟩
  rw [luaScript, Redis.bind_of_ok counted, if_pos rfl, integer, Redis.bind_of_ok timed]
  exact Redis.bind_of_ok asked

/-- Another request of the window. -/
theorem luaScript_next {u : ℚ} (counted : 1 ≤ m)
    (found : Redis.live d (c.fullKey key) now = some ⟨.counter m, some u⟩) : ∃ ttl d',
    luaScript c key now arg d = (.ok (m + 1, ttl), d') ∧ Redis.Frame (c.fullKey key) d d' ∧
      ∀ t, Redis.live d' (c.fullKey key) t =
        if t < u then some ⟨.counter (m + 1), some u⟩ else none := by
  obtain ⟨d₁, incremented, frame, lasts⟩ := Redis.incr_of_counter found
  obtain ⟨ttl, asked⟩ := Redis.exists_ttl (c.fullKey key) now d₁
  refine ⟨ttl, d₁, ?_, frame, lasts⟩
  have more : ¬ m + 1 = 1 := by omega
  have skipped : (pure 0 : Redis.Script Str Str ℤ) d₁ = (.ok 0, d₁) := rfl
  rw [luaScript, Redis.bind_of_ok incremented, if_neg more, Redis.bind_of_ok skipped]
  exact Redis.bind_of_ok asked

theorem check_of_reply (written : c.window.encode R = .ok arg) (positive : 0 < c.maxRequests)
    {reply : Except Redis.Error (ℤ × ℤ)} (replied : luaScript c key now arg d = (reply, d')) :
    check R c key now d = (answerOf c key reply, d') := by
  rw [check, if_neg positive.ne', written]
  simp only [replied]

/-- An integer for a window, as the client writes it, and its value. -/
theorem encode_int (given : c.window = .int n) (short : Str.printable n) :
    c.window.encode R = .ok (Str.ofInt n) ∧ c.windowSeconds = n ∧ 0 < n := by
  have width : c.windowSeconds = n := by rw [c.window_eq, given, Number.value]
  refine ⟨?_, width, ?_⟩
  · rw [given, Number.encode, if_pos short]
  · exact_mod_cast width ▸ c.window_pos

/-- A check of a key that is not there is admitted. -/
theorem check_first (given : c.window = .int n) (short : Str.printable n)
    (positive : 0 < c.maxRequests) (gone : Redis.live d (c.fullKey key) now = none) : ∃ d',
    check R c key now d = (.ok (), d') ∧ Redis.Frame (c.fullKey key) d d' ∧
      ∀ t, Redis.live d' (c.fullKey key) t = if t < now + c.windowSeconds then
        some ⟨.counter 1, some (now + c.windowSeconds)⟩ else none := by
  obtain ⟨written, width, wide⟩ := encode_int (R := R) given short
  obtain ⟨ttl, d', replied, frame, lasts⟩ :=
    luaScript_first (Redis.integer?_ofInt n) wide gone
  rw [width]
  refine ⟨d', ?_, frame, lasts⟩
  rw [check_of_reply written positive replied, answerOf, if_neg]
  exact not_lt.mpr (by exact_mod_cast positive)

/-- A check of a key that is there is admitted as long as the counter allows it. -/
theorem check_next {u : ℚ} (given : c.window = .int n) (short : Str.printable n)
    (positive : 0 < c.maxRequests) (counted : 1 ≤ m)
    (found : Redis.live d (c.fullKey key) now = some ⟨.counter m, some u⟩) : ∃ answer d',
    check R c key now d = (answer, d') ∧ (answer = .ok () ↔ m + 1 ≤ c.maxRequests) ∧
      Redis.Frame (c.fullKey key) d d' ∧
      ∀ t, Redis.live d' (c.fullKey key) t =
        if t < u then some ⟨.counter (m + 1), some u⟩ else none := by
  obtain ⟨written, -, -⟩ := encode_int (R := R) given short
  obtain ⟨ttl, d', replied, frame, lasts⟩ :=
    (luaScript_next counted found : ∃ ttl d', luaScript c key now (Str.ofInt n) d = _ ∧ _)
  refine ⟨_, d', check_of_reply written positive replied, ?_, frame, lasts⟩
  rw [answerOf]
  by_cases full : (c.maxRequests : ℤ) < m + 1
  · rw [if_pos full]
    exact iff_of_false nofun (not_le.mpr full)
  · rw [if_neg full]
    exact iff_of_true rfl (not_lt.mp full)

/-! ## Counters and windows -/

open FixedWindow (Window running running_eq_some running_eq_none)

/-- A counter counts as a window does, and also what is refused; it has the end of the window as its
deadline. -/
inductive Counts (max : ℕ) (width : ℚ) : Option Window → Option (Redis.Entry Str) → Prop
  | none : Counts max width none none
  | some {w : Window} {n : ℤ} (first : 1 ≤ n) (count : (w.count : ℤ) = min n max) :
      Counts max width (some w) (some ⟨.counter n, some (w.start + width)⟩)

/-- Both count alike under a key from now on, and no window is in the future. -/
structure Follows (c : RedisLimiterConfig) (redisPrefix key : Str) (s : Pair) : Prop where
  counts : ∀ t, s.clock ≤ t → Counts c.maxRequests c.windowSeconds
    (s.memory.window c.toLimiterConfig key t)
    (Redis.live s.redis ((c.under redisPrefix).fullKey key) t)
  past : ∀ t w, s.clock ≤ t → s.memory.window c.toLimiterConfig key t = some w → w.start ≤ s.clock

variable {redisPrefix : Str} {s s' : Pair} {e : Call} {es : List Call} {w : Window} {cap : ℕ}
  {width : ℚ}

/-- A call for another key. -/
theorem Follows.frame (follows : Follows c redisPrefix key s) (later : s.clock ≤ s'.clock)
    (window : ∀ t, s'.clock ≤ t → s'.memory.window c.toLimiterConfig key t =
      s.memory.window c.toLimiterConfig key t)
    (frame : Redis.Frame ((c.under redisPrefix).fullKey other) s.redis s'.redis)
    (apart : key ≠ other) : Follows c redisPrefix key s' where
  counts t after := by
    rw [window t after, frame.live (mt (c.under redisPrefix).fullKey_inj.mp apart)]
    exact follows.counts t (later.trans after)
  past t w after found := by
    rw [window t after] at found
    exact (follows.past t w (later.trans after) found).trans later

variable {r r' : RedisKeyspace × ℚ} {f : RedisCall} {fs : List RedisCall}

/-- Under a key there is nothing, or a counter that ends within a window from now. -/
def Bounded (c : RedisLimiterConfig) (key : Str) (s : RedisKeyspace × ℚ) : Prop :=
  ∀ t, s.2 ≤ t → Redis.live s.1 (c.fullKey key) t = none ∨ ∃ m u, 1 ≤ m ∧
    t < u ∧ u ≤ s.2 + c.windowSeconds ∧
    Redis.live s.1 (c.fullKey key) t = some ⟨.counter m, some u⟩

theorem Bounded.frame (bounded : Bounded c key r) (later : r.2 ≤ r'.2)
    (frame : Redis.Frame (c.fullKey other) r.1 r'.1) (apart : key ≠ other) :
    Bounded c key r' := by
  intro t after
  rw [frame.live (mt c.fullKey_inj.mp apart)]
  obtain gone | ⟨m, u, first, early, soon, found⟩ := bounded t (later.trans after)
  · exact .inl gone
  · exact .inr ⟨m, u, first, early, soon.trans (by linarith), found⟩

/-- What is there until a deadline within the window. -/
theorem bounded_of_live {u : ℚ} (first : 1 ≤ m) (soon : u ≤ r.2 + c.windowSeconds)
    (lasts : ∀ t, Redis.live r.1 (c.fullKey key) t =
      if t < u then some ⟨.counter m, some u⟩ else none) : Bounded c key r := by
  intro t _
  by_cases early : t < u
  · exact .inr ⟨m, u, first, early, soon, (lasts t).trans (if_pos early)⟩
  · exact .inl ((lasts t).trans (if_neg early))

theorem bounded_step (given : c.window = .int n) (short : Str.printable n)
    (positive : 0 < c.maxRequests) (step : RedisStep R c r f r')
    (bounded : ∀ key, Bounded c key r) :
    (∀ key, Bounded c key r') ∧ Redis.Frame (c.fullKey f.key) r.1 r'.1 := by
  cases step with
  | @check d clock now key later =>
      have later : (d, clock).2 ≤ now := later
      obtain gone | ⟨m, u, first, -, soon, found⟩ := bounded key now later
      · obtain ⟨d', checked, frame, lasts⟩ := check_first (R := R) given short positive gone
        rw [checked]
        refine ⟨fun k => ?_, frame⟩
        by_cases here : k = key
        · rw [here]
          exact bounded_of_live le_rfl le_rfl lasts
        · exact (bounded k).frame later frame here
      · obtain ⟨answer, d', checked, -, frame, lasts⟩ :=
          check_next (R := R) given short positive first found
        rw [checked]
        refine ⟨fun k => ?_, frame⟩
        by_cases here : k = key
        · rw [here]
          exact bounded_of_live (by omega) (soon.trans (by linarith)) lasts
        · exact (bounded k).frame later frame here
  | @reset d clock key =>
      refine ⟨fun k => ?_, .erase⟩
      by_cases here : k = key
      · subst here
        refine fun t _ => .inl ?_
        show Redis.live (reset c k d) _ t = none
        rw [reset, Redis.del, Redis.live_erase, if_pos rfl]
      · exact (bounded k).frame le_rfl .erase here

/-- The server holds nothing under the prefix. -/
def Unused (c : LimiterConfig) (d : RedisKeyspace) (start : ℚ) : Prop :=
  ∀ key, Redis.live d (c.fullKey key) start = none

end RedisRateLimiter

end Uxsp
