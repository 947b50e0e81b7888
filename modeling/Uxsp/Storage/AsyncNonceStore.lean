import Uxsp.Python.Value
import Uxsp.Lib.TtlStore

/-!
# `uxsp.storage.noncestore`: the async stores

`AsyncNonceStore` is the abstract class; `check_and_mark` is its `mark_used`.  A store is taken to
hold a nonce for the time it is asked to, as `SET key value NX EX ttl` of Redis does, which
`asyncRedisNonceStore` calls.
-/

namespace Uxsp

structure AsyncNonceStore where
  State : Type
  /-- `mark_used(nonce, ttl_seconds)` at a clock reading. -/
  markUsed : State → Str → ℚ → ℚ → Except PyErr Bool × State
  exact : Ttl.Exact markUsed

/-- The keys of a Redis database, with the times at which they expire. -/
structure RedisKeys where
  entries : List (Str × ℚ)

namespace RedisKeys

def empty : RedisKeys := ⟨[]⟩

/-- The key has not expired. -/
def has (db : RedisKeys) (key : Str) (now : ℚ) : Bool :=
  db.entries.any fun entry => entry.1 == key && decide (now < entry.2)

/-- `SET key "1" NX EX ttl`. -/
def setNxEx (db : RedisKeys) (key : Str) (ttl now : ℚ) : Bool × RedisKeys :=
  if db.has key now then (false, db) else (true, ⟨(key, now + ttl) :: db.entries⟩)

variable {db : RedisKeys} {key : Str} {now : ℚ}

theorem has_eq_true : db.has key now = true ↔ ∃ e, (key, e) ∈ db.entries ∧ now < e := by
  simp only [has, List.any_eq_true, Bool.and_eq_true, beq_iff_eq, decide_eq_true_eq, Prod.exists]
  constructor
  · rintro ⟨k, e, mem, rfl, less⟩
    exact ⟨e, mem, less⟩
  · rintro ⟨e, mem, less⟩
    exact ⟨key, e, mem, rfl, less⟩

end RedisKeys

/-- `AsyncRedisNonceStore.mark_used`, the connection being up. -/
def asyncRedisMark (keyPrefix : Str) (db : RedisKeys) (nonce : Str) (ttlSeconds now : ℚ) :
    Except PyErr Bool × RedisKeys :=
  let (result, db) := db.setNxEx (keyPrefix ++ nonce) ttlSeconds now
  (.ok result, db)

theorem asyncRedisMark_of_has {keyPrefix nonce : Str} {db : RedisKeys} {ttl now : ℚ}
    (known : db.has (keyPrefix ++ nonce) now = true) :
    asyncRedisMark keyPrefix db nonce ttl now = (.ok false, db) := by
  simp only [asyncRedisMark, RedisKeys.setNxEx, if_pos known]

theorem asyncRedisMark_of_not_has {keyPrefix nonce : Str} {db : RedisKeys} {ttl now : ℚ}
    (new : ¬ db.has (keyPrefix ++ nonce) now = true) :
    asyncRedisMark keyPrefix db nonce ttl now =
      (.ok true, ⟨(keyPrefix ++ nonce, now + ttl) :: db.entries⟩) := by
  simp only [asyncRedisMark, RedisKeys.setNxEx, if_neg new]

/-- `AsyncRedisNonceStore`. -/
def asyncRedisNonceStore (keyPrefix : Str) : AsyncNonceStore where
  State := RedisKeys
  markUsed := asyncRedisMark keyPrefix
  exact := {
    Live := fun db nonce t => db.has (keyPrefix ++ nonce) t = true
    mark_iff := by
      intro db nonce ttl now b marked
      by_cases known : db.has (keyPrefix ++ nonce) now = true
      · rw [asyncRedisMark_of_has known] at marked
        cases marked
        exact ⟨nofun, fun new => absurd known new⟩
      · rw [asyncRedisMark_of_not_has known] at marked
        cases marked
        exact ⟨fun _ => known, fun _ => rfl⟩
    mark_live := by
      intro db nonce ttl now other t marked _
      by_cases known : db.has (keyPrefix ++ nonce) now = true
      · rw [asyncRedisMark_of_has known] at marked
        cases marked
      · simp only [asyncRedisMark_of_not_has known, RedisKeys.has, List.any_cons, Bool.or_eq_true,
          Bool.and_eq_true, beq_iff_eq, decide_eq_true_eq, List.append_cancel_left_eq]
        rw [eq_comm]
    mark_frame := by
      intro db nonce ttl now other t unmarked _
      by_cases known : db.has (keyPrefix ++ nonce) now = true
      · rw [asyncRedisMark_of_has known]
      · rw [asyncRedisMark_of_not_has known] at unmarked
        exact absurd rfl unmarked }

end Uxsp
