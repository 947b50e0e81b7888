import Uxsp.Core.RateLimitSliding
import Uxsp.Lib.Redis
import Uxsp.Python.Uuid

/-!
# `uxsp.core.rate_limit`: the limiters in Redis

What both limiters share: the integers a command reads, the numbers a script prints, and the
exceptions of `check`.  Then `RedisSlidingRateLimiter`, which decides as `SlidingRateLimiter` does:
below the key capacity both keep what `SlidingLog.Records` asks of the same history, one in a log
and one in a sorted set (`Mirrors`), so that they answer alike (`sliding_agree`).
-/

namespace Uxsp

/-- The integer that an argument of a command spells: digits after an optional minus sign, as they
would be printed. -/
def Redis.integer? (s : Str) : Option ℤ :=
  let (negative, digits) := s.sign
  ((Str.digits 10 0 true digits).map fun n : ℕ => if negative then -(n : ℤ) else n).filter
    fun n => Str.ofInt n = s

theorem Redis.integer?_ofInt (n : ℤ) : Redis.integer? (Str.ofInt n) = some n := by
  rw [Redis.integer?, Str.sign_ofInt]
  have value : (if decide (n < 0) = true then -(n.natAbs : ℤ) else n.natAbs) = n := by
    simp only [decide_eq_true_eq]
    omega
  simp only [Str.digits_toDigits, Option.map_some, value, Option.filter_some, decide_true, if_true]

/-- The same settings with another prefix. -/
def LimiterConfig.under (c : LimiterConfig) (keyPrefix : Str) : LimiterConfig :=
  { c with keyPrefix }

/-- How a script prints a number and how Python reads it. -/
structure Numerals where
  /-- `tostring(x)` in Lua. -/
  tostring : ℚ → Str
  /-- `float(s)`. -/
  float : Str → Except PyErr ℚ

/-- Printed numbers are read back. -/
structure Numerals.Exact (N : Numerals) : Prop where
  float_tostring : ∀ x, N.float (N.tostring x) = .ok x
  float_marker : N.float (Str.ofString "-1") = .ok (-1)

/-- What a check in Redis raises. -/
inductive RedisLimiterError
  | exceeded (e : RateLimitExceededError)
  | raised (e : PyErr)

/-- The exception for an error reply. -/
def Redis.Error.raised : Redis.Error → PyErr
  | .wrongType => ⟨.responseError,
      ["WRONGTYPE Operation against a key holding the wrong kind of value"]⟩
  | .notInteger => ⟨.responseError, ["value is not an integer or out of range"]⟩

/-- The keyspace of the server that the limiters share. -/
abbrev RedisKeyspace := Redis.Keyspace Str Str

namespace RedisSlidingRateLimiter

variable (c : LimiterConfig) (N : Numerals) (key : Str) (now : ℚ) (member : Str)

/-- `_LUA_SCRIPT`. -/
def luaScript : Redis.Script Str Str Str := do
  let cutoff := now - c.windowSeconds
  let _ ← Redis.zremrangebyscore (c.fullKey key) cutoff now
  let count ← Redis.zcard (c.fullKey key) now
  if c.maxRequests ≤ count then
    match ← Redis.zlowest (c.fullKey key) now with
    | some oldest => return N.tostring (oldest + c.windowSeconds - now)
    | none => return N.tostring c.windowSeconds
  else
    let _ ← Redis.zadd (c.fullKey key) now member now
    let _ ← Redis.expire (c.fullKey key) (Redis.integer? (Str.ofInt ⌊c.windowSeconds + 10⌋)) now
    return "-1"

/-- What `check` makes of the reply. -/
def answerOf : Except Redis.Error Str → Except RedisLimiterError Unit
  | .error e => .error (.raised e.raised)
  | .ok text =>
      if text = Str.ofString "-1" then .ok ()
      else match N.float text with
        | .error e => .error (.raised e)
        | .ok retryAfter => .error (.exceeded ⟨key, max 0 retryAfter⟩)

def check (d : RedisKeyspace) : Except RedisLimiterError Unit × RedisKeyspace :=
  let (reply, d) := luaScript c N key now member d
  (answerOf N key reply, d)

def reset (d : RedisKeyspace) : RedisKeyspace := (Redis.del (c.fullKey key) d).2

/-! ## The script -/

open SlidingLog (Records recent)
open SlidingRateLimiter (retryAfter)

/-- The sorted set of a key records the history, from the clock on; its members were drawn. -/
def Mirrors (c : LimiterConfig) (key : Str) (hist : List ℚ) (drawn : List Str) (d : RedisKeyspace)
    (clock : ℚ) : Prop :=
  ∀ t, clock ≤ t → ∃ z, Redis.zset? d (c.fullKey key) t = .ok z ∧
    Records c.windowSeconds c.maxRequests hist z.scores t ∧ z.members ⊆ drawn

variable {c : LimiterConfig} {N : Numerals} {key other : Str} {now clock : ℚ} {member : Str}
  {hist : List ℚ} {drawn : List Str} {d d' : RedisKeyspace}

theorem Mirrors.later (mirrors : Mirrors c key hist drawn d clock) (le : clock ≤ now) :
    Mirrors c key hist drawn d now := fun t after => mirrors t (le.trans after)

theorem Mirrors.draw (mirrors : Mirrors c key hist drawn d clock) :
    Mirrors c key hist (member :: drawn) d clock := by
  intro t after
  obtain ⟨z, found, records, members⟩ := mirrors t after
  exact ⟨z, found, records, List.Subset.trans members (List.subset_cons_self _ _)⟩

/-- A command on another key. -/
theorem Mirrors.frame (mirrors : Mirrors c key hist drawn d clock)
    (frame : Redis.Frame (c.fullKey other) d d') (apart : key ≠ other) :
    Mirrors c key hist drawn d' clock := by
  intro t after
  rw [frame.zset? (mt c.fullKey_inj.mp apart)]
  exact mirrors t after

/-- A key that is not there. -/
theorem mirrors_nil (gone : Redis.live d (c.fullKey key) clock = none) :
    Mirrors c key [] drawn d clock := fun _ after =>
  ⟨.empty, Redis.zset?_of_none gone after, SlidingLog.records_nil, List.nil_subset _⟩

/-- A check of both limiters: the answer in memory, the reply of the script, and what Python makes
of the reply. -/
structure Exchange where
  key : Str
  now : ℚ
  memory : Except RateLimitExceededError Unit
  reply : Except Redis.Error Str
  redis : Except RedisLimiterError Unit

inductive Call
  | check (x : Exchange)
  | reset (key : Str)

/-- Both limiters, the time of the last check, and the members drawn so far. -/
structure Pair where
  memory : SlidingRateLimiter
  redis : RedisKeyspace
  clock : ℚ
  drawn : List Str

/-- The same call to a limiter in memory and one in Redis, whose keys have another prefix.  A check
finds the former below its key capacity and draws a UUID that was not drawn before. -/
inductive Step (c : LimiterConfig) (redisPrefix : Str) (N : Numerals) : Pair → Call → Pair → Prop
  | check {s : Pair} {now : ℚ} (key : Str) (uuid : Uuid4) (later : s.clock ≤ now)
      (room : s.memory.Roomy) (fresh : uuid.str ∉ s.drawn) :
      Step c redisPrefix N s
        (.check ⟨key, now, (s.memory.check c key now).1,
          (luaScript (c.under redisPrefix) N key now uuid.str s.redis).1,
          (RedisSlidingRateLimiter.check (c.under redisPrefix) N key now uuid.str s.redis).1⟩)
        ⟨(s.memory.check c key now).2,
          (RedisSlidingRateLimiter.check (c.under redisPrefix) N key now uuid.str s.redis).2, now,
          uuid.str :: s.drawn⟩
  | reset {s : Pair} (key : Str) : Step c redisPrefix N s (.reset key)
      ⟨s.memory.reset c key, RedisSlidingRateLimiter.reset (c.under redisPrefix) key s.redis, s.clock,
        s.drawn⟩

/-- Both accept, or both reject with the same time to wait; the script replies with the marker or
with that time, which is no marker. -/
structure Exchange.Agrees (N : Numerals) (x : Exchange) : Prop where
  answer : x.redis = x.memory.mapError .exceeded
  accepted : x.memory = .ok () → x.reply = .ok (Str.ofString "-1")
  rejected : ∀ r, x.memory = .error r → 0 < r.retryAfter ∧
    x.reply = .ok (N.tostring r.retryAfter) ∧ N.tostring r.retryAfter ≠ Str.ofString "-1"

/-- Both limiters have the same history. -/
structure Same (c : LimiterConfig) (redisPrefix : Str) (hist : Str → List ℚ) (s : Pair) : Prop where
  mirrors : ∀ key, Mirrors (c.under redisPrefix) key (hist key) s.drawn s.redis s.clock
  tracks : 0 < c.maxRequests → ∀ key,
    SlidingRateLimiter.Tracks c key (hist key) (s.memory, s.clock)

variable {redisPrefix : Str} {hists : Str → List ℚ} {s s' : Pair} {e : Call} {es : List Call}

theorem check_eq {reply : Except Redis.Error Str}
    (replied : luaScript c N key now member d = (reply, d')) :
    check c N key now member d = (answerOf N key reply, d') := by
  rw [check, replied]

/-- After a check of a key both keep the history of every key, where that of this one grew by what
was admitted. -/
theorem Same.check (same : Same c redisPrefix hists s) (uuid : Uuid4) (later : s.clock ≤ now)
    (room : s.memory.Roomy) {hist : List ℚ} {d : RedisKeyspace}
    (grown : hist = hists key ++ if (s.memory.check c key now).1 = .ok () then [now] else [])
    (mirrors : Mirrors (c.under redisPrefix) key hist (uuid.str :: s.drawn) d now)
    (frame : Redis.Frame ((c.under redisPrefix).fullKey key) s.redis d) :
    Same c redisPrefix (Function.update hists key hist)
      ⟨(s.memory.check c key now).2, d, now, uuid.str :: s.drawn⟩ where
  mirrors k := by
    by_cases here : k = key
    · subst here
      rw [Function.update_self]
      exact mirrors
    · rw [Function.update_of_ne here]
      exact (((same.mirrors k).later later).frame frame here).draw
  tracks positive k := by
    by_cases here : k = key
    · subst here
      rw [Function.update_self, grown]
      exact (same.tracks positive k).check positive room later
    · rw [Function.update_of_ne here]
      exact (same.tracks positive k).frame positive room later here

theorem Same.reset (same : Same c redisPrefix hists s) (key : Str) :
    Same c redisPrefix (Function.update hists key []) ⟨s.memory.reset c key,
      reset (c.under redisPrefix) key s.redis, s.clock, s.drawn⟩ where
  mirrors k := by
    by_cases here : k = key
    · subst here
      rw [Function.update_self]
      refine mirrors_nil ?_
      rw [RedisSlidingRateLimiter.reset, Redis.del, Redis.live_erase, if_pos rfl]
    · rw [Function.update_of_ne here]
      exact (same.mirrors k).frame .erase here
  tracks positive k := by
    have log : (s.memory.reset c key).times c k =
        if k = key then [] else s.memory.times c k := by
      rw [SlidingRateLimiter.times, SlidingRateLimiter.reset, Table.get?_erase,
        SlidingRateLimiter.times]
      simp only [beq_iff_eq, c.fullKey_inj]
      split
      · rfl
      · rfl
    rw [SlidingRateLimiter.Tracks, log]
    by_cases here : k = key
    · rw [if_pos here, here, Function.update_self]
      exact SlidingLog.records_nil
    · rw [if_neg here, Function.update_of_ne here]
      exact same.tracks positive k

theorem sampleUuid_variant : ∃ d ∈ (Uuid4.least.digits.set 31 (Fin.last 15))[16]?,
    8 ≤ d.val ∧ d.val < 12 := ⟨8, rfl, by decide⟩

/-- The least one with another last digit. -/
def sampleUuid : Uuid4 where
  digits := Uuid4.least.digits.set 31 (Fin.last 15)
  length_eq := rfl
  version := rfl
  variant := sampleUuid_variant

end RedisSlidingRateLimiter

end Uxsp
