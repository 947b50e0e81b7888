import Uxsp.Js.Value
import Uxsp.Lib.Run
import Uxsp.Lib.Table
import Uxsp.Lib.TokenBucket

/-!
# `rateLimit.ts`: the token bucket

`RateLimiter` keeps a bucket for each key, with times in milliseconds and a rate in tokens a second.
A key only ever reads and writes its own bucket, so a run of calls is for each key a run of requests
to one `TokenBucket`, whose bounds are those of the key (`Tracks`, `limiter_bounds`).
-/

namespace Uxsp

open TokenBucket (Bucket)

structure JsRateLimiter where
  capacity : ℚ
  refillRatePerSec : ℚ
  buckets : Table JsStr Bucket

namespace JsRateLimiter

/-- The constructor. -/
def make (capacity refillRatePerSec : ℚ) : Except JsErr JsRateLimiter :=
  if capacity ≤ 0 ∨ refillRatePerSec ≤ 0 then
    .error ⟨.error, [.lit "capacity and refillRatePerSec must be positive"]⟩
  else .ok ⟨capacity, refillRatePerSec, .empty⟩

section

variable (m : JsRateLimiter) (key : JsStr) (now : ℚ)

def refill (bucket : Bucket) : Bucket :=
  let elapsed := (now - bucket.lastRefill) / 1000
  if 0 < elapsed then ⟨min m.capacity (bucket.tokens + elapsed * m.refillRatePerSec), now⟩
  else bucket

/-- The bucket of a key, made full where there is none. -/
def bucket : Bucket := (m.buckets.get? key).getD ⟨m.capacity, now⟩

/-- The bucket in the map, which is changed in place. -/
def put (b : Bucket) : JsRateLimiter := { m with buckets := m.buckets.set key b }

def isAllowed : Bool × JsRateLimiter :=
  let bucket := m.refill now (m.bucket key now)
  if 1 ≤ bucket.tokens then (true, m.put key { bucket with tokens := bucket.tokens - 1 })
  else (false, m.put key bucket)

def exceeded : JsErr :=
  ⟨.rateLimitExceededError, [.lit "Rate limit exceeded for peer '", .str key, .lit "'."]⟩

def check : Except JsErr Unit × JsRateLimiter :=
  let (allowed, m) := m.isAllowed key now
  (if allowed then .ok () else .error (exceeded key), m)

/-- Without a key, all buckets go. -/
def reset (key : Option JsStr) : JsRateLimiter :=
  match key with
  | some key => { m with buckets := m.buckets.erase key }
  | none => { m with buckets := .empty }

end

/-! ## Runs -/

/-- A call that asks for a token, and whether it got one. -/
inductive Call
  | isAllowed (key : JsStr) (now : ℚ) (answer : Bool)
  | check (key : JsStr) (now : ℚ) (answer : Except JsErr Unit)

def Call.key : Call → JsStr
  | .isAllowed key _ _ | .check key _ _ => key

def Call.now : Call → ℚ
  | .isAllowed _ now _ | .check _ now _ => now

/-- `check` returned, or `isAllowed` returned `true`. -/
def Call.allowed : Call → Bool
  | .isAllowed _ _ answer => answer
  | .check _ _ answer => answer.isOk

/-- One call, at a time that is not before the last. -/
inductive Step : JsRateLimiter × ℚ → Call → JsRateLimiter × ℚ → Prop
  | isAllowed {m : JsRateLimiter} {clock now : ℚ} (key : JsStr) (later : clock ≤ now) :
      Step (m, clock) (.isAllowed key now (m.isAllowed key now).1) ((m.isAllowed key now).2, now)
  | check {m : JsRateLimiter} {clock now : ℚ} (key : JsStr) (later : clock ≤ now) :
      Step (m, clock) (.check key now (m.check key now).1) ((m.check key now).2, now)

/-- The times at which a call for this key was allowed. -/
def allowedTimes (key : JsStr) (es : List Call) : List ℚ :=
  (es.filter fun e => e.key = key ∧ e.allowed = true).map Call.now

variable {m m' : JsRateLimiter} {key other : JsStr} {now clock cap rate : ℚ} {e : Call}
  {es post : List Call} {s s' : JsRateLimiter × ℚ}

theorem allowedTimes_snoc : allowedTimes key (es ++ [e]) = allowedTimes key es ++
    if e.key = key ∧ e.allowed = true then [e.now] else [] := by
  rw [allowedTimes, List.filter_append, List.map_append, allowedTimes]
  congr 1
  by_cases mine : e.key = key ∧ e.allowed = true
  · rw [if_pos mine, List.filter_cons_of_pos (by simpa using mine)]
    rfl
  · rw [if_neg mine, List.filter_cons_of_neg (by simpa using mine)]
    rfl

theorem refill_eq (b : Bucket) :
    m.refill now b = TokenBucket.refill m.capacity (m.refillRatePerSec / 1000) b now := by
  have passed : 0 < (now - b.lastRefill) / 1000 ↔ 0 < now - b.lastRefill :=
    div_pos_iff_of_pos_right (by norm_num)
  have gained : (now - b.lastRefill) / 1000 * m.refillRatePerSec =
      (now - b.lastRefill) * (m.refillRatePerSec / 1000) := by
    ring
  unfold refill TokenBucket.refill
  simp only [passed, gained]

/-- What one call asks of the bucket of its key. -/
def asked (m : JsRateLimiter) (key : JsStr) (now : ℚ) : Bool × Bucket :=
  TokenBucket.request m.capacity (m.refillRatePerSec / 1000) (m.buckets.get? key) now

theorem isAllowed_eq :
    m.isAllowed key now = ((m.asked key now).1, m.put key (m.asked key now).2) := by
  unfold isAllowed asked TokenBucket.request TokenBucket.take
  simp only [refill_eq, bucket]
  split
  · rfl
  · rfl

/-- A call is answered as its key's bucket is, leaves that bucket and no other. -/
theorem Step.cases (step : Step (m, clock) e s') : clock ≤ e.now ∧
    e.allowed = (m.asked e.key e.now).1 ∧ s' = (m.put e.key (m.asked e.key e.now).2, e.now) := by
  cases step with
  | isAllowed key later =>
      rw [isAllowed_eq]
      exact ⟨later, rfl, rfl⟩
  | check key later =>
      rw [JsRateLimiter.check, isAllowed_eq]
      refine ⟨later, ?_, rfl⟩
      simp only [Call.allowed, Call.key, Call.now]
      cases (m.asked key _).1 <;> rfl

theorem get?_put {b : Bucket} :
    (m.put key b).buckets.get? other = if other = key then some b else m.buckets.get? other := by
  rw [put, Table.get?_set]
  simp only [beq_iff_eq]

/-- A key that is reset gets a full bucket again, and the others keep theirs. -/
theorem bucket_reset : (m.reset none).bucket other now = ⟨m.capacity, now⟩ ∧
    (m.reset (some key)).bucket other now =
      if other = key then ⟨m.capacity, now⟩ else m.bucket other now := by
  refine ⟨rfl, ?_⟩
  rw [bucket, reset, Table.get?_erase]
  simp only [beq_iff_eq]
  split
  · rfl
  · rfl

/-! ## The bounds -/

/-- The bucket of a key was paid for, as long as there is one; it is not in the future. -/
structure Tracks (cap rate : ℚ) (es : List Call) (s : JsRateLimiter × ℚ) : Prop where
  capacity : s.1.capacity = cap
  refillRate : s.1.refillRatePerSec = rate
  unused : ∀ key, s.1.buckets.get? key = none → allowedTimes key es = []
  past : ∀ key b, s.1.buckets.get? key = some b → b.lastRefill ≤ s.2
  bounds : ∀ key b, s.1.buckets.get? key = some b →
    TokenBucket.Bounds cap (rate / 1000) (allowedTimes key es) b

theorem tracks_init : Tracks cap rate [] (⟨cap, rate, .empty⟩, clock) :=
  ⟨rfl, rfl, fun _ _ => rfl, nofun, nofun⟩

/-- The bucket that a call finds, also where it has to make one. -/
theorem Tracks.found (tracks : Tracks cap rate es (m, clock)) (positive : 0 < cap)
    (gains : 0 < rate) (later : clock ≤ now) (key : JsStr) :
    TokenBucket.Bounds cap (rate / 1000) (allowedTimes key es)
      ((m.buckets.get? key).getD ⟨cap, now⟩) ∧
      ((m.buckets.get? key).getD ⟨cap, now⟩).lastRefill ≤ now := by
  cases found : m.buckets.get? key with
  | none =>
      rw [tracks.unused key found]
      exact ⟨TokenBucket.bounds_full positive (by linarith), le_rfl⟩
  | some b => exact ⟨tracks.bounds key b found, (tracks.past key b found).trans later⟩

theorem asked_eq (tracks : Tracks cap rate es (m, clock)) :
    m.asked key now = TokenBucket.request cap (rate / 1000) (m.buckets.get? key) now := by
  rw [asked, tracks.capacity, tracks.refillRate]

theorem tracks_step (positive : 0 < cap) (gains : 0 < rate) (tracks : Tracks cap rate es s)
    (step : Step s e s') : Tracks cap rate (es ++ [e]) s' := by
  obtain ⟨m, clock⟩ := s
  obtain ⟨later, answer, rfl⟩ := step.cases
  obtain ⟨bounds, past⟩ := tracks.found positive gains later e.key
  obtain ⟨paid, filled⟩ := bounds.request (by linarith) past
  rw [← asked_eq tracks, ← answer] at paid
  rw [← asked_eq tracks] at filled
  refine ⟨tracks.capacity, tracks.refillRate, fun key none => ?_, fun key b found => ?_,
    fun key b found => ?_⟩
  · rw [get?_put] at none
    split at none
    · cases none
    · rename_i other
      rw [allowedTimes_snoc, if_neg fun mine => other mine.1.symm, List.append_nil]
      exact tracks.unused key none
  · rw [get?_put] at found
    split at found
    · obtain rfl := Option.some.inj found
      exact filled.le
    · exact (tracks.past key b found).trans later
  · rw [get?_put] at found
    rw [allowedTimes_snoc]
    split at found
    · rename_i same
      obtain rfl := Option.some.inj found
      rw [same]
      simp only [true_and]
      exact paid
    · rename_i other
      rw [if_neg fun mine => other mine.1.symm, List.append_nil]
      exact tracks.bounds key b found

theorem tracks_run (positive : 0 < cap) (gains : 0 < rate)
    (run : Run Step (⟨cap, rate, .empty⟩, clock) es s) : Tracks cap rate es s :=
  run.history (fun _ _ _ _ => tracks_step positive gains) tracks_init

/-- The calls for other keys leave a key its bucket. -/
theorem get?_run (run : Run Step s post s') (others : ∀ e ∈ post, e.key ≠ key) :
    s'.1.buckets.get? key = s.1.buckets.get? key := by
  have keep : ∀ (es : List Call) t e t', ((∀ e ∈ es, e.key ≠ key) →
      t.1.buckets.get? key = s.1.buckets.get? key) → Step t e t' →
      (∀ f ∈ es ++ [e], f.key ≠ key) → t'.1.buckets.get? key = s.1.buckets.get? key := by
    intro es t e t' ih step others
    obtain ⟨m, clock⟩ := t
    obtain ⟨-, -, rfl⟩ := step.cases
    obtain ⟨before, last⟩ := List.forall_mem_append.mp others
    rw [get?_put, if_neg (last e List.mem_cons_self).symm]
    exact ih before
  exact run.history (I := fun (es : List Call) t => (∀ e ∈ es, e.key ≠ key) →
    t.1.buckets.get? key = s.1.buckets.get? key) keep (fun _ => rfl) others

/-- In a run of calls without a reset: the tokens of every bucket are between zero and the capacity;
a key is allowed no more calls in an interval than the capacity and what is refilled meanwhile; and
a call that is refused would be allowed once the rest of a token is refilled. -/
theorem limiter_bounds {capacity refillRatePerSec : ℚ} {limiter m : JsRateLimiter}
    (made : make capacity refillRatePerSec = .ok limiter) {start clock : ℚ} {es : List Call}
    (run : Run Step (limiter, start) es (m, clock)) :
    (∀ key b, m.buckets.get? key = some b → 0 ≤ b.tokens ∧ b.tokens ≤ capacity) ∧
    (∀ key lo hi, lo ≤ hi → (allowedTimes key es).countP (fun x => lo ≤ x ∧ x ≤ hi) ≤
      capacity + refillRatePerSec * ((hi - lo) / 1000)) ∧
    ∀ e m', Step (m, clock) e (m', e.now) → e.allowed = false → 1 ≤ capacity →
      ∃ b, m'.buckets.get? e.key = some b ∧
        let t := e.now + 1000 * ((1 - b.tokens) / refillRatePerSec)
        ∀ post m'' clock', Run Step (m', e.now) post (m'', clock') → (∀ f ∈ post, f.key ≠ e.key) →
          clock' ≤ t → (m''.isAllowed e.key t).1 = true ∧ (m''.check e.key t).1 = .ok () := by
  unfold make at made
  split at made
  · cases made
  rename_i valid
  obtain ⟨positive, gains⟩ := not_or.mp valid
  have positive := not_le.mp positive
  have gains := not_le.mp gains
  obtain rfl := Except.ok.inj made
  have tracks := tracks_run positive gains run
  refine ⟨fun key b found => ?_, fun key lo hi le => ?_, fun e m' step refused whole => ?_⟩
  · have bounds := tracks.bounds key b found
    exact ⟨bounds.nonneg, bounds.full⟩
  · have scale : refillRatePerSec * ((hi - lo) / 1000) = refillRatePerSec / 1000 * (hi - lo) := by
      ring
    rw [scale]
    exact ((tracks.found positive gains le_rfl key).1).between lo hi le
  · obtain ⟨later, answer, target⟩ := step.cases
    obtain rfl := congrArg Prod.fst target
    obtain ⟨bounds, past⟩ := tracks.found positive gains later e.key
    rw [answer, asked_eq tracks] at refused
    have retry := TokenBucket.request_retry (by linarith) whole bounds past refused
    refine ⟨_, by rw [get?_put, if_pos rfl], fun post m'' clock' run' others _ => ?_⟩
    have kept := get?_run run' others
    have same := (tracks_run positive gains ((run.snoc step).append run'))
    rw [get?_put, if_pos rfl] at kept
    have allowed : (m''.asked e.key (e.now + 1000 *
        ((1 - (m.asked e.key e.now).2.tokens) / refillRatePerSec))).1 = true := by
      rw [asked_eq same, kept, asked_eq tracks, mul_div_assoc', mul_comm, ← div_div_eq_mul_div]
      exact retry
    rw [check, isAllowed_eq]
    simp only [allowed]
    exact ⟨trivial, rfl⟩

/-- One token, and two in a second. -/
def sample : JsRateLimiter := ⟨1, 2, .empty⟩

theorem limiter_bounds_sample :
    let m := (sample.isAllowed "peer" 0).2
    let m' := (m.isAllowed "peer" 100).2
    (m.isAllowed "peer" 100).1 = false ∧ (m'.isAllowed "peer" 500).1 = true := by
  have first : Step (sample, 0) (.isAllowed "peer" 0 (sample.isAllowed "peer" 0).1)
      ((sample.isAllowed "peer" 0).2, 0) := .isAllowed "peer" le_rfl
  have second : Step ((sample.isAllowed "peer" 0).2, 0)
      (.isAllowed "peer" 100 ((sample.isAllowed "peer" 0).2.isAllowed "peer" 100).1)
      (((sample.isAllowed "peer" 0).2.isAllowed "peer" 100).2, 100) :=
    .isAllowed "peer" (by norm_num)
  have refused : ((sample.isAllowed "peer" 0).2.isAllowed "peer" 100).1 = false := by decide +kernel
  have made : make 1 2 = .ok sample := if_neg (by norm_num)
  obtain ⟨-, -, retry⟩ := limiter_bounds made (.single first)
  obtain ⟨b, found, later⟩ := retry _ _ second refused le_rfl
  have left : ((sample.isAllowed "peer" 0).2.isAllowed "peer" 100).2.buckets.get? "peer" =
      some ⟨1 / 5, 100⟩ := by decide +kernel
  obtain rfl := Option.some.inj (found.symm.trans left)
  have time : (100 : ℚ) + 1000 * ((1 - 1 / 5) / 2) = 500 := by norm_num
  have allowed : (((sample.isAllowed "peer" 0).2.isAllowed "peer" 100).2.isAllowed "peer"
      (100 + 1000 * ((1 - 1 / 5) / 2))).1 = true :=
    (later [] _ _ .nil nofun (by norm_num [Call.now])).1
  rw [time] at allowed
  exact ⟨refused, allowed⟩

end JsRateLimiter

end Uxsp
