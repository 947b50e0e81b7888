import Uxsp.Python.Str
import Uxsp.Lib.Run

/-!
# `uxsp.storage.noncestore`: the sorted set

`SlidingWindowNonceStore` keeps its nonces in one sorted set of Redis, scored by the times at which
they expire.  The whole key expires too, and every nonce that is added sets that time anew.
`kept_for_ttl` says when no nonce is lost by it.
-/

namespace Uxsp

/-- A sorted set of Redis, with the time at which its key expires. -/
structure SortedSet where
  members : List (Str × ℚ)
  expireAt : Option ℚ
  /-- A key without members does not exist. -/
  gone : members = [] → expireAt = none

namespace SortedSet

def empty : SortedSet := ⟨[], none, fun _ => rfl⟩

/-- What a command finds at a time: an expired key does not exist. -/
def found (z : SortedSet) (now : ℚ) : SortedSet :=
  if z.expireAt.any fun t => t ≤ now then empty else z

/-- These members, if there are any, with this expiry. -/
def ofMembers (members : List (Str × ℚ)) (expireAt : Option ℚ) : SortedSet :=
  if none : members = [] then empty else ⟨members, expireAt, fun h => absurd h none⟩

/-- `ZREMRANGEBYSCORE`: remove the members with such scores. -/
def remove (z : SortedSet) (range : ℚ → Bool) : SortedSet :=
  ofMembers (z.members.filter fun m => !range m.2) z.expireAt

/-- `ZSCORE`. -/
def score (z : SortedSet) (member : Str) : Option ℚ := z.members.lookup member

/-- `ZADD NX`: add a member that is not there, and say whether it was added. -/
def addNew (z : SortedSet) (score : ℚ) (member : Str) : Bool × SortedSet :=
  if (z.score member).isSome then (false, z)
  else (true, ofMembers (z.members ++ [(member, score)]) z.expireAt)

/-- `EXPIRE`. -/
def expire (z : SortedSet) (time : ℚ) : SortedSet := ofMembers z.members (some time)

variable {z : SortedSet} {now time : ℚ} {m : Str × ℚ} {members : List (Str × ℚ)}
  {range : ℚ → Bool} {expireAt : Option ℚ}

@[simp] theorem members_ofMembers : (ofMembers members expireAt).members = members := by
  unfold ofMembers
  split
  · rename_i none
    exact none.symm
  · rfl

theorem expireAt_ofMembers (some : members ≠ []) :
    (ofMembers members expireAt).expireAt = expireAt := by
  rw [ofMembers, dif_neg some]

theorem mem_remove : m ∈ (z.remove range).members ↔ m ∈ z.members ∧ range m.2 = false := by
  rw [remove, members_ofMembers, List.mem_filter, Bool.not_eq_true']

theorem expireAt_remove (mem : m ∈ (z.remove range).members) :
    (z.remove range).expireAt = z.expireAt := by
  rw [remove, members_ofMembers] at mem
  exact expireAt_ofMembers (List.ne_nil_of_mem mem)

theorem score_of_mem (mem : m ∈ z.members) : (z.score m.1).isSome = true := by
  refine Option.isSome_iff_ne_none.mpr fun none => ?_
  exact bne_iff_ne.mp (List.lookup_eq_none_iff.mp none m mem) rfl

/-- The key expires after none of its members that is still remembered. -/
def Outlives (z : SortedSet) (now : ℚ) : Prop :=
  ∀ m ∈ z.members, now < m.2 → ∃ time, z.expireAt = some time ∧ m.2 ≤ time

theorem mem_of_mem_found (mem : m ∈ (z.found now).members) : m ∈ z.members ∧ z.found now = z := by
  unfold found at mem ⊢
  split at mem
  · cases mem
  · rename_i young
    exact ⟨mem, if_neg young⟩

theorem Outlives.later (outlives : z.Outlives now) (le : now ≤ time) : z.Outlives time :=
  fun m mem before => outlives m mem (le.trans_lt before)

/-- A key has not expired while a member is remembered. -/
theorem Outlives.found (outlives : z.Outlives now) (mem : m ∈ z.members) (before : now < m.2) :
    z.found now = z := by
  obtain ⟨time, expires, le⟩ := outlives m mem before
  refine if_neg fun expired => ?_
  rw [expires] at expired
  exact absurd (of_decide_eq_true expired) (not_le.mpr (before.trans_le le))

theorem Outlives.of_found (outlives : z.Outlives now) : (z.found now).Outlives now := by
  intro m mem before
  obtain ⟨old, same⟩ := mem_of_mem_found mem
  rw [same]
  exact outlives m old before

theorem Outlives.remove (outlives : z.Outlives now) : (z.remove range).Outlives now := by
  intro m mem before
  rw [expireAt_remove mem]
  exact outlives m (mem_remove.mp mem).1 before

end SortedSet

namespace SlidingWindow

/-- The script of `mark_used`. -/
def markUsedScript (z : SortedSet) (now expiry : ℚ) (nonce : Str) (window : ℤ) : Bool × SortedSet :=
  let z := (z.found now).remove fun score => score ≤ now
  let (added, z) := z.addNew expiry nonce
  if added then (added, z.expire (now + (window + 3600))) else (added, z)

/-- `mark_used`, the connection being up. -/
def markUsed (z : SortedSet) (nonce : Str) (ttlSeconds : ℤ) (now : ℚ) : Bool × SortedSet :=
  markUsedScript z now (now + ttlSeconds) nonce ttlSeconds

def isSeen (z : SortedSet) (nonce : Str) (now : ℚ) : Bool :=
  ((z.found now).score nonce).any fun score => now < score

/-- `cleanup`: the number of members that are removed. -/
def cleanup (z : SortedSet) (now : ℚ) : ℕ × SortedSet :=
  let z := z.found now
  let kept := z.remove fun score => 0 ≤ score && score ≤ now
  (z.members.length - kept.members.length, kept)

/-- A call, when it was made and what it returned. -/
inductive Event
  | markUsed (nonce : Str) (ttlSeconds : ℤ) (now : ℚ) (result : Bool)
  | isSeen (nonce : Str) (now : ℚ) (result : Bool)
  | cleanup (now : ℚ) (removed : ℕ)

/-- The sorted set, and the time of the last call. -/
structure Store where
  set : SortedSet
  clock : ℚ

def start (clock : ℚ) : Store := ⟨.empty, clock⟩

variable {s t : Store} {e : Event} {es : List Event}

inductive Step (s : Store) : Event → Store → Prop
  | markUsed {nonce : Str} {ttlSeconds : ℤ} {now : ℚ} : s.clock ≤ now →
      Step s (.markUsed nonce ttlSeconds now (markUsed s.set nonce ttlSeconds now).1)
        ⟨(markUsed s.set nonce ttlSeconds now).2, now⟩
  | isSeen {nonce : Str} {now : ℚ} : s.clock ≤ now →
      Step s (.isSeen nonce now (isSeen s.set nonce now)) ⟨s.set.found now, now⟩
  | cleanup {now : ℚ} : s.clock ≤ now →
      Step s (.cleanup now (cleanup s.set now).1) ⟨(cleanup s.set now).2, now⟩

/-- A nonce that was taken is taken again only when its time is over. -/
def KeptForTtl (e f : Event) : Prop :=
  ∀ (nonce : Str) (ttl : ℤ) (now : ℚ) ttl' now' r, e = .markUsed nonce ttl now true →
    f = .markUsed nonce ttl' now' r → now' < now + ttl → r = false

/-- A nonce that is added makes the key expire before no nonce that is in the set. -/
def Covers (s : Store) (e : Event) : Prop :=
  ∀ nonce ttl now, e = .markUsed nonce ttl now true →
    ∀ m ∈ (s.set.found now).members, now < m.2 → m.2 ≤ now + (ttl + 3600)

/-- A step that keeps the condition. -/
def Covered (s : Store) (e : Event) (t : Store) : Prop := Step s e t ∧ Covers s e

/-! ## What the calls do -/

/-- What `mark_used` finds once the expired nonces are removed. -/
def pruned (z : SortedSet) (now : ℚ) : SortedSet := (z.found now).remove fun score => score ≤ now

variable {z : SortedSet} {nonce : Str} {ttl : ℤ} {now : ℚ} {m : Str × ℚ}

theorem markUsed_known (known : ((pruned z now).score nonce).isSome = true) :
    markUsed z nonce ttl now = (false, pruned z now) := by
  have added : (pruned z now).addNew (now + ttl) nonce = (false, pruned z now) := if_pos known
  rw [pruned] at added
  simp only [markUsed, markUsedScript, added]
  rfl

theorem markUsed_new (new : ¬ ((pruned z now).score nonce).isSome = true) :
    markUsed z nonce ttl now = (true,
      .ofMembers ((pruned z now).members ++ [(nonce, now + ttl)]) (some (now + (ttl + 3600)))) := by
  have added : (pruned z now).addNew (now + ttl) nonce = (true,
      .ofMembers ((pruned z now).members ++ [(nonce, now + ttl)]) (pruned z now).expireAt) :=
    if_neg new
  rw [pruned] at added ⊢
  simp only [markUsed, markUsedScript, added, if_true, SortedSet.expire,
    SortedSet.members_ofMembers]

/-- A nonce that is still remembered is not removed. -/
theorem mem_pruned (outlives : z.Outlives now) (mem : m ∈ z.members) (before : now < m.2) :
    m ∈ (pruned z now).members := by
  rw [pruned, outlives.found mem before]
  exact SortedSet.mem_remove.mpr ⟨mem, decide_eq_false (not_le.mpr before)⟩

theorem mem_of_mem_pruned (mem : m ∈ (pruned z now).members) : m ∈ (z.found now).members :=
  (SortedSet.mem_remove.mp mem).1

/-! ## No nonce is lost -/

/-- The set holds every nonce that was taken until its time is over, and its key expires no
sooner. -/
structure Remembered (es : List Event) (s : Store) : Prop where
  kept : es.Pairwise KeptForTtl
  outlives : s.set.Outlives s.clock
  held : ∀ (nonce : Str) (ttl : ℤ) (now : ℚ), .markUsed nonce ttl now true ∈ es →
    s.clock < now + ttl → (nonce, now + ttl) ∈ s.set.members

/-- A call that takes no nonce and loses none. -/
theorem Remembered.quiet (remembered : Remembered es s) (later : s.clock ≤ t.clock)
    (quiet : ∀ nonce ttl now, e = .markUsed nonce ttl now true → False)
    (kept : ∀ f ∈ es, KeptForTtl f e) (outlives : t.set.Outlives t.clock)
    (holds : ∀ m ∈ s.set.members, t.clock < m.2 → m ∈ t.set.members) :
    Remembered (es ++ [e]) t where
  kept := by
    refine List.pairwise_append.mpr ⟨remembered.kept, List.pairwise_singleton _ _, ?_⟩
    intro f mem g new
    rw [List.mem_singleton.mp new]
    exact kept f mem
  outlives := outlives
  held := by
    intro nonce ttl now mem before
    obtain old | new := List.mem_append.mp mem
    · exact holds _ (remembered.held nonce ttl now old (later.trans_lt before)) before
    · exact (quiet nonce ttl now (List.mem_singleton.mp new).symm).elim

theorem Remembered.step (remembered : Remembered es s) (step : Covered s e t) :
    Remembered (es ++ [e]) t := by
  obtain ⟨step, covers⟩ := step
  cases step with
  | @isSeen nonce now le =>
      have outlives := remembered.outlives.later le
      refine remembered.quiet le nofun (fun f _ => nofun) outlives.of_found ?_
      intro m mem before
      rw [outlives.found mem before]
      exact mem
  | @cleanup now le =>
      have outlives := remembered.outlives.later le
      refine remembered.quiet le nofun (fun f _ => nofun) outlives.of_found.remove ?_
      intro m mem before
      rw [cleanup, outlives.found mem before]
      exact SortedSet.mem_remove.mpr ⟨mem, by simp [not_le.mpr before]⟩
  | @markUsed nonce ttl now le =>
      have outlives := remembered.outlives.later le
      by_cases known : ((pruned s.set now).score nonce).isSome = true
      · rw [markUsed_known known]
        refine remembered.quiet le nofun ?_ outlives.of_found.remove fun m => mem_pruned outlives
        intro f _ n t T t' T' r _ here _
        cases here
        rfl
      · rw [markUsed_new known] at covers ⊢
        have pruned_le : ∀ m ∈ (pruned s.set now).members, now < m.2 → m.2 ≤ now + (ttl + 3600) :=
          fun m mem => covers nonce ttl now rfl m (mem_of_mem_pruned mem)
        constructor
        · refine List.pairwise_append.mpr ⟨remembered.kept, List.pairwise_singleton _ _, ?_⟩
          intro f mem g new n t T t' T' r there here before
          rw [List.mem_singleton.mp new] at here
          cases here
          subst there
          -- the earlier mark would still be there
          have held := remembered.held _ t T mem (le.trans_lt before)
          exact absurd (SortedSet.score_of_mem (mem_pruned outlives held before)) known
        · intro m mem before
          rw [SortedSet.members_ofMembers] at mem
          refine ⟨now + (ttl + 3600), SortedSet.expireAt_ofMembers (by simp), ?_⟩
          obtain old | new := List.mem_append.mp mem
          · exact pruned_le m old before
          · rw [List.mem_singleton.mp new]
            linarith
        · intro n t T mem before
          rw [SortedSet.members_ofMembers]
          obtain old | new := List.mem_append.mp mem
          · have held := remembered.held n t T old (le.trans_lt before)
            exact List.mem_append_left _ (mem_pruned outlives held before)
          · cases List.mem_singleton.mp new
            exact List.mem_append_right _ List.mem_cons_self

/-- In a run in which every nonce that is added makes the key expire after all nonces that are
still remembered, no nonce that was taken is taken again before its time is over. -/
theorem kept_for_ttl {clock : ℚ} (run : Run Covered (start clock) es s) : es.Pairwise KeptForTtl :=
  (run.history (fun _ _ _ _ remembered step => remembered.step step)
    ⟨.nil, fun _ mem => absurd mem List.not_mem_nil, nofun⟩ : Remembered es s).kept

/-! A nonce that is refused within its time, and one that a shorter one takes along. -/

def sampleMarks : List Event := [.markUsed "a" 300 0 true, .markUsed "a" 300 200 false]

/-- A nonce that is presented again within its time. -/
theorem sampleMarks_kept : sampleMarks.Pairwise KeptForTtl := by
  have le : (0 : ℚ) ≤ 200 := by norm_num
  have first : Covered (start 0) (.markUsed "a" 300 0 true) ⟨(markUsed .empty "a" 300 0).2, 0⟩ :=
    ⟨.markUsed le_rfl, fun _ _ _ _ m mem => absurd mem List.not_mem_nil⟩
  have marked : markUsed (markUsed .empty "a" 300 0).2 "a" 300 200 =
      (false, pruned (markUsed .empty "a" 300 0).2 200) := markUsed_known (by decide +kernel)
  have step : Step ⟨(markUsed .empty "a" 300 0).2, 0⟩ (.markUsed "a" 300 200 _) ⟨_, 200⟩ :=
    .markUsed le
  rw [marked] at step
  exact kept_for_ttl (.cons first (.cons ⟨step, nofun⟩ .nil))

/-- A nonce marked for a second makes the key expire before a nonce marked for longer. -/
theorem forgotten_with_key : ¬ ∀ (clock : ℚ) (es : List Event) (s : Store),
    Run Step (start clock) es s → es.Pairwise KeptForTtl := by
  intro always
  have le : (0 : ℚ) ≤ 1 := by norm_num
  have le' : (1 : ℚ) ≤ 4000 := by norm_num
  have results : (markUsed .empty "a" 10000 0).1 = true ∧
      (markUsed (markUsed (markUsed .empty "a" 10000 0).2 "b" 1 1).2 "a" 300 4000).1 = true := by
    decide +kernel
  have first : Step (start 0) (.markUsed "a" 10000 0 _) ⟨_, 0⟩ := .markUsed le_rfl
  have second z : Step ⟨z, 0⟩ (.markUsed "b" 1 1 _) ⟨_, 1⟩ := .markUsed le
  have third z : Step ⟨z, 1⟩ (.markUsed "a" 300 4000 _) ⟨_, 4000⟩ := .markUsed le'
  have kept := always _ _ _ (.cons first (.cons (second _) (.cons (third _) .nil)))
  have pair := (List.pairwise_cons.mp kept).1 _ (.tail _ (.head _))
  exact absurd (pair "a" 10000 0 300 4000 true (congrArg (Event.markUsed "a" 10000 0) results.1)
    (congrArg (Event.markUsed "a" 300 4000) results.2) (by norm_num)) nofun

end SlidingWindow

end Uxsp
