import Uxsp.Lib.Table

/-!
# A Redis server

A keyspace of counters and sorted sets, where a key may have a deadline from which on it is gone.  A
script runs commands one after another while the clock stands still, and what they did stays where a
later one fails.  Numbers are exact.

The rules say what is read from a keyspace after a command, at the same time or later: `zset?` is
the sorted set under a key, `live` whatever is there.
-/

namespace Uxsp.Redis

inductive Error
  /-- `WRONGTYPE Operation against a key holding the wrong kind of value`. -/
  | wrongType
  /-- `value is not an integer or out of range`. -/
  | notInteger
  deriving DecidableEq

/-! ## Sorted sets -/

/-- Members with their scores, by score and then by member. -/
@[ext] structure SortedSet (μ : Type*) [LinearOrder μ] where
  items : List (ℚ ×ₗ μ)
  sorted : items.Pairwise (· ≤ ·)
  nodup : (items.map fun item => (ofLex item).2).Nodup

namespace SortedSet

variable {μ : Type*} [LinearOrder μ]

def empty : SortedSet μ := ⟨[], .nil, List.nodup_nil⟩

variable (z : SortedSet μ)

def card : ℕ := z.items.length

def scores : List ℚ := z.items.map fun item => (ofLex item).1

def members : List μ := z.items.map fun item => (ofLex item).2

/-- The members with a score above this one. -/
def above (cutoff : ℚ) : SortedSet μ where
  items := z.items.filter fun item => cutoff < (ofLex item).1
  sorted := z.sorted.sublist List.filter_sublist
  nodup := z.nodup.sublist (List.filter_sublist.map _)

/-- The others, and where one is added. -/
def without (member : μ) : List (ℚ ×ₗ μ) := z.items.filter fun item => (ofLex item).2 ≠ member

/-- A member gets a score, or another one. -/
def add (score : ℚ) (member : μ) : SortedSet μ where
  items := (z.without member).orderedInsert (· ≤ ·) (toLex (score, member))
  sorted := (z.sorted.sublist List.filter_sublist).orderedInsert _ _
  nodup := by
    rw [((List.perm_orderedInsert _ _ _).map _).nodup_iff, List.map_cons, List.nodup_cons]
    refine ⟨fun mem => ?_, z.nodup.sublist (List.filter_sublist.map _)⟩
    obtain ⟨item, left, same⟩ := List.mem_map.mp mem
    exact of_decide_eq_true (List.mem_filter.mp left).2 same

variable {z} {cutoff score : ℚ} {member : μ}

@[simp] theorem scores_empty : (empty : SortedSet μ).scores = [] := rfl

@[simp] theorem members_empty : (empty : SortedSet μ).members = [] := rfl

@[simp] theorem above_empty : (empty : SortedSet μ).above cutoff = empty := rfl

end SortedSet

/-! ## The keyspace -/

variable {κ μ : Type*} [DecidableEq κ] [LinearOrder μ]

inductive Value (μ : Type*) [LinearOrder μ]
  | counter (n : ℤ)
  | zset (z : SortedSet μ)

structure Entry (μ : Type*) [LinearOrder μ] where
  value : Value μ
  deadline : Option ℚ

abbrev Keyspace (κ μ : Type*) [LinearOrder μ] := Table κ (Entry μ)

/-- What is under a key at a time. -/
def live (d : Keyspace κ μ) (k : κ) (now : ℚ) : Option (Entry μ) :=
  (d.get? k).filter fun e => e.deadline.all fun t => now < t

/-- The sorted set under a key; a key that is not there is an empty one. -/
def zset? (d : Keyspace κ μ) (k : κ) (now : ℚ) : Except Error (SortedSet μ) :=
  match live d k now with
  | none => .ok .empty
  | some ⟨.zset z, _⟩ => .ok z
  | some ⟨.counter _, _⟩ => .error .wrongType

/-- A program for the server, which changes the keyspace also where it fails. -/
def Script (κ μ : Type*) [LinearOrder μ] (α : Type) : Type _ :=
  Keyspace κ μ → Except Error α × Keyspace κ μ

instance : Monad (Script κ μ) where
  pure a d := (.ok a, d)
  bind s f d := match s d with
    | (.ok a, d) => f a d
    | (.error e, d) => (.error e, d)

variable {α β : Type} {s : Script κ μ α} {f : α → Script κ μ β} {d d' : Keyspace κ μ} {k k' : κ}
  {now t cutoff score : ℚ} {member : μ} {z : SortedSet μ} {n : ℤ}

omit [DecidableEq κ] in
theorem bind_of_ok {a : α} (done : s d = (.ok a, d')) : (s >>= f) d = f a d' := by
  show (match s d with | (.ok a, d) => f a d | (.error e, d) => (.error e, d)) = f a d'
  rw [done]

/-- `INCR key`. -/
def incr (k : κ) (now : ℚ) : Script κ μ ℤ := fun d =>
  match live d k now with
  | none => (.ok 1, d.set k ⟨.counter 1, none⟩)
  | some ⟨.counter n, deadline⟩ => (.ok (n + 1), d.set k ⟨.counter (n + 1), deadline⟩)
  | some ⟨.zset _, _⟩ => (.error .wrongType, d)

/-- `EXPIRE key seconds`, with the integer that the argument spells, if it spells one. -/
def expire (k : κ) (seconds : Option ℤ) (now : ℚ) : Script κ μ ℤ := fun d =>
  match seconds with
  | none => (.error .notInteger, d)
  | some n =>
      match live d k now with
      | none => (.ok 0, d)
      | some e => (.ok 1, if n ≤ 0 then d.erase k else d.set k ⟨e.value, some (now + n)⟩)

/-- `TTL key`, in whole seconds. -/
def ttl (k : κ) (now : ℚ) : Script κ μ ℤ := fun d =>
  match live d k now with
  | none => (.ok (-2), d)
  | some ⟨_, none⟩ => (.ok (-1), d)
  | some ⟨_, some t⟩ => (.ok ⌊t - now + 1 / 2⌋, d)

/-- `DEL key`. -/
def del (k : κ) : Script κ μ Unit := fun d => (.ok (), d.erase k)

/-- `ZREMRANGEBYSCORE key -inf cutoff`. -/
def zremrangebyscore (k : κ) (cutoff now : ℚ) : Script κ μ ℕ := fun d =>
  match live d k now with
  | none => (.ok 0, d)
  | some ⟨.zset z, deadline⟩ =>
      let left := z.above cutoff
      (.ok (z.card - left.card),
        if left.items = [] then d.erase k else d.set k ⟨.zset left, deadline⟩)
  | some ⟨.counter _, _⟩ => (.error .wrongType, d)

/-- `ZCARD key`. -/
def zcard (k : κ) (now : ℚ) : Script κ μ ℕ := fun d => ((zset? d k now).map SortedSet.card, d)

/-- The score in the reply to `ZRANGE key 0 0 WITHSCORES`. -/
def zlowest (k : κ) (now : ℚ) : Script κ μ (Option ℚ) := fun d =>
  ((zset? d k now).map fun z => z.scores.head?, d)

/-- `ZADD key score member`. -/
def zadd (k : κ) (score : ℚ) (member : μ) (now : ℚ) : Script κ μ ℕ := fun d =>
  match live d k now with
  | none => (.ok 1, d.set k ⟨.zset (SortedSet.empty.add score member), none⟩)
  | some ⟨.zset z, deadline⟩ =>
      (.ok ((z.add score member).card - z.card), d.set k ⟨.zset (z.add score member), deadline⟩)
  | some ⟨.counter _, _⟩ => (.error .wrongType, d)

/-! ## Rules -/

theorem live_set {e : Entry μ} : live (d.set k e) k' t =
    if k' = k then (some e).filter fun e => e.deadline.all fun u => t < u else live d k' t := by
  rw [live, Table.get?_set]
  by_cases same : k' = k
  · rw [if_pos same, if_pos (beq_iff_eq.mpr same)]
  · rw [if_neg same, if_neg (mt beq_iff_eq.mp same), live]

theorem live_erase : live (d.erase k) k' t = if k' = k then none else live d k' t := by
  rw [live, Table.get?_erase]
  by_cases same : k' = k
  · rw [if_pos same, if_pos (beq_iff_eq.mpr same)]
    rfl
  · rw [if_neg same, if_neg (mt beq_iff_eq.mp same), live]

/-- A key that is gone stays so, and one that is there stays until its deadline. -/
theorem live_later (le : now ≤ t) :
    live d k t = (live d k now).filter fun e => e.deadline.all fun u => t < u := by
  unfold live
  rw [Option.filter_filter]
  congr 1
  funext e
  cases e.deadline with
  | none => rfl
  | some u =>
      rw [Option.all_some, Option.all_some, Bool.eq_and_self, decide_eq_true_eq, decide_eq_true_eq]
      exact le.trans_lt

/-- Every other key is as it was. -/
def Frame (k : κ) (d d' : Keyspace κ μ) : Prop := ∀ k', k' ≠ k → d'.get? k' = d.get? k'

theorem Frame.refl : Frame k d d := fun _ _ => rfl

theorem Frame.trans {d'' : Keyspace κ μ} (first : Frame k d d') (second : Frame k d' d'') :
    Frame k d d'' := fun k' other => (second k' other).trans (first k' other)

theorem Frame.set {e : Entry μ} : Frame k d (d.set k e) := by
  intro k' other
  rw [Table.get?_set, if_neg (mt beq_iff_eq.mp other)]

theorem Frame.erase : Frame k d (d.erase k) := by
  intro k' other
  rw [Table.get?_erase, if_neg (mt beq_iff_eq.mp other)]

theorem Frame.live (frame : Frame k d d') (other : k' ≠ k) : live d' k' t = live d k' t := by
  rw [Redis.live, Redis.live, frame k' other]

theorem Frame.zset? (frame : Frame k d d') (other : k' ≠ k) : zset? d' k' t = zset? d k' t := by
  rw [Redis.zset?, Redis.zset?, frame.live other]

theorem zset?_of_none (gone : live d k now = none) (le : now ≤ t) : zset? d k t = .ok .empty := by
  rw [zset?, live_later le, gone]
  rfl

theorem expire_ok {e : Entry μ} (found : live d k now = some e) (positive : 0 < n) : ∃ d',
    expire k (some n) now d = (.ok 1, d') ∧ Frame k d d' ∧
      ∀ t, live d' k t = if t < now + n then some ⟨e.value, some (now + n)⟩ else none := by
  unfold expire
  rw [found]
  simp only [if_neg (not_le.mpr positive)]
  refine ⟨_, rfl, .set, fun t => ?_⟩
  rw [live_set, if_pos rfl, Option.filter_some, Option.all_some]
  simp only [decide_eq_true_eq]

theorem incr_of_none (gone : live d k now = none) : ∃ d', incr k now d = (.ok 1, d') ∧
    Frame k d d' ∧ live d' k now = some ⟨.counter 1, none⟩ := by
  unfold incr
  rw [gone]
  refine ⟨_, rfl, .set, ?_⟩
  rw [live_set, if_pos rfl]
  rfl

/-- A counter keeps its deadline. -/
theorem incr_of_counter {u : ℚ} (found : live d k now = some ⟨.counter n, some u⟩) : ∃ d',
    incr k now d = (.ok (n + 1), d') ∧ Frame k d d' ∧
      ∀ t, live d' k t = if t < u then some ⟨.counter (n + 1), some u⟩ else none := by
  unfold incr
  rw [found]
  refine ⟨_, rfl, .set, fun t => ?_⟩
  rw [live_set, if_pos rfl, Option.filter_some, Option.all_some]
  simp only [decide_eq_true_eq]

theorem exists_ttl (k : κ) (now : ℚ) (d : Keyspace κ μ) : ∃ n, ttl k now d = (.ok n, d) := by
  unfold ttl
  split
  · exact ⟨_, rfl⟩
  · exact ⟨_, rfl⟩
  · exact ⟨_, rfl⟩

end Uxsp.Redis
