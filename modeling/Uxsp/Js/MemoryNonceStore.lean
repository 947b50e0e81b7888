import Uxsp.Js.Value
import Uxsp.Lib.Assoc
import Uxsp.Lib.Run

/-!
# `noncestore.ts`

`MemoryNonceStore` keeps a `Map` from nonces to the times at which they expire, in milliseconds.
Entries stand in the order in which their nonces were first marked, and a full store forgets those
in front, whether they have expired or not.  `live_nonces_kept` says when no nonce is lost by it.
-/

namespace Uxsp

/-- The `Map`, oldest entry first, and the capacity. -/
structure JsMemoryNonceStore where
  seen : List (JsStr × ℚ)
  maxEntries : PyFloat
  nodup : (seen.map Prod.fst).Nodup

namespace JsMemoryNonceStore

def empty (maxEntries : PyFloat) : JsMemoryNonceStore := ⟨[], maxEntries, List.nodup_nil⟩

/-- `size >= maxEntries`. -/
def fills (maxEntries : PyFloat) (size : ℕ) : Bool :=
  match maxEntries with
  | .finite q => q ≤ size
  | .inf negative => negative
  | .nan => false

/-- `evictExpired`: the loop ends at the first entry that has not expired. -/
def evictExpired (seen : List (JsStr × ℚ)) (now : ℚ) : List (JsStr × ℚ) :=
  seen.dropWhile fun entry => entry.2 ≤ now

/-- The loop of `markUsed` that deletes the oldest entries of a full store. -/
def evictOldest (maxEntries : PyFloat) : List (JsStr × ℚ) → List (JsStr × ℚ)
  | [] => []
  | entry :: seen =>
      if fills maxEntries (seen.length + 1) then evictOldest maxEntries seen else entry :: seen

theorem evictOldest_sublist (maxEntries : PyFloat) :
    ∀ seen : List (JsStr × ℚ), (evictOldest maxEntries seen).Sublist seen
  | [] => List.Sublist.refl _
  | entry :: seen => by
      unfold evictOldest
      split
      · exact (evictOldest_sublist maxEntries seen).cons entry
      · exact List.Sublist.refl _

def markUsed (m : JsMemoryNonceStore) (nonce : JsStr) (ttlSeconds now : ℚ) :
    Bool × JsMemoryNonceStore :=
  if ((evictExpired m.seen now).lookup nonce).any fun expiresAt => now < expiresAt then
    (false, {
      seen := evictExpired m.seen now
      maxEntries := m.maxEntries
      nodup := m.nodup.sublist ((List.dropWhile_sublist _).map _) })
  else
    (true, {
      seen := Assoc.set (evictOldest m.maxEntries (evictExpired m.seen now)) nonce
        (now + ttlSeconds * 1000)
      maxEntries := m.maxEntries
      nodup := Assoc.nodup_set _ _ _ (m.nodup.sublist
        (((evictOldest_sublist _ _).trans (List.dropWhile_sublist _)).map _)) })

/-- An entry that is found expired is deleted. -/
def isSeen (m : JsMemoryNonceStore) (nonce : JsStr) (now : ℚ) : Bool × JsMemoryNonceStore :=
  match m.seen.lookup nonce with
  | none => (false, m)
  | some expiresAt =>
      if expiresAt ≤ now then
        (false, {
          seen := Assoc.erase m.seen nonce
          maxEntries := m.maxEntries
          nodup := Assoc.nodup_erase _ _ m.nodup })
      else (true, m)

/-! ## What is kept -/

variable {m : JsMemoryNonceStore} {seen : List (JsStr × ℚ)} {nonce other : JsStr}
  {ttl now expiresAt : ℚ} {maxEntries : PyFloat}

/-- With the entries behind it no live entry fills the store. -/
def Roomy (maxEntries : PyFloat) (seen : List (JsStr × ℚ)) (now : ℚ) : Prop :=
  ∀ (front back : List (JsStr × ℚ)) (entry : JsStr × ℚ), seen = front ++ entry :: back →
    now < entry.2 → fills maxEntries (back.length + 1) = false

theorem Roomy.suffix {rest : List (JsStr × ℚ)} (roomy : Roomy maxEntries seen now)
    (suffix : rest <:+ seen) : Roomy maxEntries rest now := by
  intro front back entry split live
  obtain ⟨dropped, rfl⟩ := suffix
  rw [split, ← List.append_assoc] at roomy
  exact roomy _ _ _ rfl live

/-- A live entry is not evicted as an expired one. -/
theorem lookup_evictExpired (found : seen.lookup nonce = some expiresAt) (live : now < expiresAt) :
    (evictExpired seen now).lookup nonce = some expiresAt := by
  induction seen with
  | nil => cases found
  | cons entry seen ih =>
      unfold evictExpired
      rw [List.dropWhile_cons]
      split
      · rename_i expired
        rw [Assoc.lookup_cons_ite] at found
        split at found
        · cases found
          exact absurd live (not_lt.mpr (of_decide_eq_true expired))
        · exact ih found
      · exact found

/-- A live entry with room behind it is not evicted as an old one. -/
theorem lookup_evictOldest (roomy : Roomy maxEntries seen now)
    (found : seen.lookup nonce = some expiresAt) (live : now < expiresAt) :
    (evictOldest maxEntries seen).lookup nonce = some expiresAt := by
  induction seen with
  | nil => cases found
  | cons entry seen ih =>
      unfold evictOldest
      split
      · rename_i full
        rw [Assoc.lookup_cons_ite] at found
        split at found
        · cases found
          rw [roomy [] _ _ rfl live] at full
          cases full
        · exact ih (roomy.suffix (List.suffix_cons entry seen)) found
      · exact found

theorem markUsed_live (found : m.seen.lookup nonce = some expiresAt) (live : now < expiresAt) :
    (m.markUsed nonce ttl now).1 = false := by
  have kept := lookup_evictExpired found live
  unfold markUsed
  rw [kept, Option.any_some, if_pos (decide_eq_true live)]

theorem lookup_markUsed_self (taken : (m.markUsed nonce ttl now).1 = true) :
    (m.markUsed nonce ttl now).2.seen.lookup nonce = some (now + ttl * 1000) := by
  unfold markUsed at taken ⊢
  split at taken
  · cases taken
  · rename_i unknown
    rw [if_neg unknown, Assoc.lookup_set, if_pos (beq_self_eq_true nonce)]

/-- Marking a nonce keeps the live entries of the others, if they have room. -/
theorem lookup_markUsed (apart : other ≠ nonce)
    (roomy : (m.markUsed nonce ttl now).1 = true → Roomy m.maxEntries m.seen now)
    (found : m.seen.lookup other = some expiresAt) (live : now < expiresAt) :
    (m.markUsed nonce ttl now).2.seen.lookup other = some expiresAt := by
  have kept := lookup_evictExpired found live
  unfold markUsed at roomy ⊢
  split
  · exact kept
  · rename_i unknown
    rw [if_neg unknown] at roomy
    have different : ¬ (other == nonce) = true := mt eq_of_beq apart
    rw [Assoc.lookup_set, if_neg different]
    exact lookup_evictOldest ((roomy rfl).suffix (List.dropWhile_suffix _)) kept live

theorem lookup_isSeen (found : m.seen.lookup other = some expiresAt) (live : now < expiresAt) :
    (m.isSeen nonce now).2.seen.lookup other = some expiresAt := by
  unfold isSeen
  split
  · exact found
  · rename_i expiry here
    split
    · rename_i expired
      have different : ¬ (other == nonce) = true := by
        intro same
        rw [eq_of_beq same, here] at found
        cases found
        exact absurd live (not_lt.mpr expired)
      rw [Assoc.lookup_erase, if_neg different]
      exact found
    · exact found

/-! ## Runs -/

/-- A call, when it was made and what it returned. -/
inductive Event
  | markUsed (nonce : JsStr) (ttlSeconds now : ℚ) (result : Bool)
  | isSeen (nonce : JsStr) (now : ℚ) (result : Bool)

/-- The store, and the time of the last call. -/
structure Clocked where
  store : JsMemoryNonceStore
  clock : ℚ

def start (maxEntries : PyFloat) (clock : ℚ) : Clocked := ⟨empty maxEntries, clock⟩

inductive Step (s : Clocked) : Event → Clocked → Prop
  | markUsed {nonce : JsStr} {ttlSeconds now : ℚ} : s.clock ≤ now →
      Step s (.markUsed nonce ttlSeconds now (s.store.markUsed nonce ttlSeconds now).1)
        ⟨(s.store.markUsed nonce ttlSeconds now).2, now⟩
  | isSeen {nonce : JsStr} {now : ℚ} : s.clock ≤ now →
      Step s (.isSeen nonce now (s.store.isSeen nonce now).1) ⟨(s.store.isSeen nonce now).2, now⟩

/-- A nonce that was taken is not taken again before its time is over. -/
def KeptForTtl (e f : Event) : Prop :=
  ∀ (nonce : JsStr) (ttl now ttl' now' : ℚ) (r : Bool), e = .markUsed nonce ttl now true →
    f = .markUsed nonce ttl' now' r → now' < now + ttl * 1000 → r = false

/-- A nonce is taken only where the live ones have room. -/
def HasRoom (s : Clocked) (e : Event) : Prop :=
  ∀ (nonce : JsStr) (ttl now : ℚ), e = .markUsed nonce ttl now true →
    Roomy s.store.maxEntries s.store.seen now

/-- A step that keeps the condition. -/
def RoomyStep (s : Clocked) (e : Event) (t : Clocked) : Prop := Step s e t ∧ HasRoom s e

variable {s t : Clocked} {e : Event} {es : List Event}

/-- The store holds every nonce that was taken until its time is over. -/
structure Remembered (es : List Event) (s : Clocked) : Prop where
  kept : es.Pairwise KeptForTtl
  held : ∀ {nonce : JsStr} {ttl now : ℚ}, .markUsed nonce ttl now true ∈ es →
    s.clock < now + ttl * 1000 → s.store.seen.lookup nonce = some (now + ttl * 1000)

theorem Remembered.snoc_kept (remembered : Remembered es s)
    (kept : ∀ f ∈ es, KeptForTtl f e) : (es ++ [e]).Pairwise KeptForTtl := by
  refine List.pairwise_append.mpr ⟨remembered.kept, List.pairwise_singleton _ _, ?_⟩
  intro f mem g last
  rw [List.mem_singleton.mp last]
  exact kept f mem

theorem Remembered.step (remembered : Remembered es s) (step : RoomyStep s e t) :
    Remembered (es ++ [e]) t := by
  obtain ⟨step, roomy⟩ := step
  cases step with
  | @isSeen nonce now le =>
      constructor
      · exact remembered.snoc_kept fun f _ => nofun
      · intro n ttl T mem live
        obtain old | last := List.mem_append.mp mem
        · exact lookup_isSeen (remembered.held old (le.trans_lt live)) live
        · cases List.mem_singleton.mp last
  | @markUsed nonce ttl now le =>
      constructor
      · refine remembered.snoc_kept fun f mem => ?_
        intro n ttl' T ttl'' T' r there here before
        cases here
        subst there
        exact markUsed_live (remembered.held mem (le.trans_lt before)) before
      · intro n ttl' T mem live
        obtain old | last := List.mem_append.mp mem
        · have found := remembered.held old (le.trans_lt live)
          by_cases same : n = nonce
          · -- the nonce is refused, so that nothing is deleted for it
            subst same
            have refused : (s.store.markUsed n ttl now).1 = false := markUsed_live found live
            have kept := lookup_evictExpired found live
            unfold JsMemoryNonceStore.markUsed at refused ⊢
            split at refused
            · rename_i known
              rw [if_pos known]
              exact kept
            · cases refused
          · exact lookup_markUsed same (fun taken => roomy _ _ _ (congrArg _ taken)) found live
        · have taken := List.mem_singleton.mp last
          injection taken with sameNonce sameTtl sameNow result
          subst sameNonce sameTtl sameNow
          exact lookup_markUsed_self result.symm

/-- In a run in which nonces are taken only where the live ones have room, no nonce that was taken
is taken again before its time is over. -/
theorem live_nonces_kept {maxEntries : PyFloat} {clock : ℚ}
    (run : Run RoomyStep (start maxEntries clock) es s) : es.Pairwise KeptForTtl :=
  (run.history (fun _ _ _ _ remembered step => remembered.step step)
    ⟨.nil, fun mem => absurd mem List.not_mem_nil⟩ : Remembered es s).kept

/-! ## A full store -/

def sampleCalls : List Event := [.markUsed "a" 90 0 true, .markUsed "a" 90 1000 false]

/-- A nonce that is presented again within its time. -/
theorem sampleCalls_kept : sampleCalls.Pairwise KeptForTtl := by
  have taken : ((empty (.finite 2)).markUsed "a" 90 0).1 = true := by decide +kernel
  have refused : (((empty (.finite 2)).markUsed "a" 90 0).2.markUsed "a" 90 1000).1 = false := by
    decide +kernel
  have first : RoomyStep (start (.finite 2) 0)
      (.markUsed "a" 90 0 ((empty (.finite 2)).markUsed "a" 90 0).1)
      ⟨((empty (.finite 2)).markUsed "a" 90 0).2, 0⟩ := by
    refine ⟨.markUsed le_rfl, fun _ _ _ _ front back entry split => ?_⟩
    cases front <;> cases split
  have second : RoomyStep ⟨((empty (.finite 2)).markUsed "a" 90 0).2, 0⟩
      (.markUsed "a" 90 1000
        (((empty (.finite 2)).markUsed "a" 90 0).2.markUsed "a" 90 1000).1)
      ⟨(((empty (.finite 2)).markUsed "a" 90 0).2.markUsed "a" 90 1000).2, 1000⟩ := by
    refine ⟨.markUsed (by norm_num), fun _ _ _ same => ?_⟩
    rw [refused] at same
    cases same
  rw [refused] at second
  have run := Run.cons first (.cons second .nil)
  rw [taken] at run
  exact live_nonces_kept run

/-- A store for one nonce forgets it for the next one. -/
theorem forgotten_when_full : ¬ ∀ (maxEntries : PyFloat) (clock : ℚ) (es : List Event) (s : Clocked),
    Run Step (start maxEntries clock) es s → es.Pairwise KeptForTtl := by
  intro always
  have results : ((empty (.finite 1)).markUsed "a" 90 0).1 = true ∧
      (((((empty (.finite 1)).markUsed "a" 90 0).2.markUsed "b" 90 1000).2).markUsed "a" 90 2000).1 =
        true := by
    decide +kernel
  have first : Step (start (.finite 1) 0) (.markUsed "a" 90 0 _) ⟨_, 0⟩ := .markUsed le_rfl
  have second m : Step ⟨m, 0⟩ (.markUsed "b" 90 1000 _) ⟨_, 1000⟩ := .markUsed (by norm_num)
  have third m : Step ⟨m, 1000⟩ (.markUsed "a" 90 2000 _) ⟨_, 2000⟩ := .markUsed (by norm_num)
  have kept := always _ _ _ _ (.cons first (.cons (second _) (.cons (third _) .nil)))
  have pair := (List.pairwise_cons.mp kept).1 _ (.tail _ (.head _))
  exact absurd (pair "a" 90 0 90 2000 true (congrArg (Event.markUsed "a" 90 0) results.1)
    (congrArg (Event.markUsed "a" 90 2000) results.2) (by norm_num)) nofun

end JsMemoryNonceStore

end Uxsp
