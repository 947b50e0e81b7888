import Uxsp.Core.Nonce
import Uxsp.Lib.Run

/-!
# `uxsp.storage.noncestore`: two tiers

`TieredNonceStore.mark_used` asks a fast tier, then a durable tier, then the fast tier again.  Each
of the three is an atomic step, and calls interleave between them.  The fast tier may raise or lose
entries at any step; the durable tier keeps the contract of `DurableStore`.
-/

namespace Uxsp

/-- A nonce store that refuses no nonce but those it has marked. -/
structure DurableStore extends NonceStore where
  truthful : Ttl.Truthful markUsed tend
  initial : State
  initial_unmarked : ∀ nonce, truthful.Unmarked initial nonce

namespace Tiered

/-- The arguments of a call of `mark_used`. -/
structure MarkCall where
  nonce : Str
  ttlSeconds : ℚ

/-- Where a call stands: which tier it asks next, or how it ended. -/
inductive Phase
  | idle
  | first (c : MarkCall)
  | durable (c : MarkCall)
  | again (c : MarkCall)
  | returned (c : MarkCall) (result : Bool)
  | raised (c : MarkCall) (e : PyErr)

/-- The first answer of the fast tier: an error of the store falls through to the durable tier. -/
def afterFirst (c : MarkCall) : Except PyErr Bool → Phase
  | .ok true => .durable c
  | .ok false => .returned c false
  | .error e => if e.cls.isA .storeError then .durable c else .raised c e

def afterDurable (c : MarkCall) : Except PyErr Bool → Phase
  | .ok true => .again c
  | .ok false => .returned c false
  | .error e => .raised c e

/-- The second answer of the fast tier is not looked at, and an error of the store is suppressed. -/
def afterAgain (c : MarkCall) : Except PyErr Bool → Phase
  | .ok _ => .returned c true
  | .error e => if e.cls.isA .storeError then .returned c true else .raised c e

/-- What the fast tier may do when it is asked to mark a nonce.  It may lose entries, and a call
that raises may have marked the nonce or not. -/
def FastMarks (held : Set Str) (nonce : Str) (r : Except PyErr Bool) (held' : Set Str) : Prop :=
  match r with
  | .ok true => held' ⊆ insert nonce held
  | .ok false => nonce ∈ held ∧ held' ⊆ held
  | .error e => e.cls = .storeError ∧ held' ⊆ insert nonce held

/-- The two tiers, the clock, and where each call stands. -/
structure Tiers (D : DurableStore) where
  clock : ℚ
  fast : Set Str
  durable : D.State
  phase : ℕ → Phase

/-- A step: a call asks one of the tiers, or a tier changes by itself.  `left` says whether the fast
tier holds the nonce afterwards. -/
inductive Event
  | called (i : ℕ) (c : MarkCall)
  | first (i : ℕ) (c : MarkCall) (r : Except PyErr Bool) (left : Bool)
  | durable (i : ℕ) (c : MarkCall) (now : ℚ) (r : Except PyErr Bool)
  | again (i : ℕ) (c : MarkCall) (r : Except PyErr Bool)
  | other

variable {D : DurableStore} {x y : Tiers D} {es : List Event} {e : Event} {clock : ℚ}

/-- No call has begun, and no nonce is marked. -/
def start (D : DurableStore) (clock : ℚ) : Tiers D := ⟨clock, ∅, D.initial, fun _ => .idle⟩

/-- A call moves on. -/
def Tiers.put (x : Tiers D) (i : ℕ) (phase : Phase) : Tiers D :=
  { x with phase := Function.update x.phase i phase }

inductive Step (x : Tiers D) : Event → Tiers D → Prop
  | call {i : ℕ} (c : MarkCall) : x.phase i = .idle → Step x (.called i c) (x.put i (.first c))
  | first {i : ℕ} {c : MarkCall} {r : Except PyErr Bool} {held : Set Str} {left : Bool} :
      x.phase i = .first c → FastMarks x.fast c.nonce r held → (left = true ↔ c.nonce ∈ held) →
      Step x (.first i c r left) { x.put i (afterFirst c r) with fast := held }
  | durable {i : ℕ} {c : MarkCall} {now : ℚ} {r : Except PyErr Bool} {d : D.State} :
      x.phase i = .durable c → x.clock ≤ now →
      D.markUsed x.durable c.nonce c.ttlSeconds now = (r, d) →
      Step x (.durable i c now r) { x.put i (afterDurable c r) with durable := d, clock := now }
  | again {i : ℕ} {c : MarkCall} {r : Except PyErr Bool} {held : Set Str} :
      x.phase i = .again c → FastMarks x.fast c.nonce r held →
      Step x (.again i c r) { x.put i (afterAgain c r) with fast := held }
  /-- The fast tier loses entries or restarts. -/
  | lose {held : Set Str} : held ⊆ x.fast → Step x .other { x with fast := held }
  /-- The durable tier is asked something else, cleans up or expires entries. -/
  | tend {now : ℚ} {d : D.State} : x.clock ≤ now → D.tend x.durable now d →
      Step x .other { x with durable := d, clock := now }

/-! ## What is promised -/

/-- The durable tier takes the nonce. -/
def Event.Takes (nonce : Str) (e : Event) : Prop :=
  ∃ i c now, e = .durable i c now (.ok true) ∧ c.nonce = nonce

/-- The call returns `False`. -/
def Event.Refuses (i : ℕ) (c : MarkCall) (e : Event) : Prop :=
  (∃ left, e = .first i c (.ok false) left) ∨ ∃ now, e = .durable i c now (.ok false)

/-- Two calls that returned `True` for a nonce marked it so far apart that the first mark had run
out. -/
def Once (es : List Event) (x : Tiers D) : Prop :=
  ∀ i j c c', i ≠ j → x.phase i = .returned c true → x.phase j = .returned c' true →
    c.nonce = c'.nonce → ∃ t t', .durable i c t (.ok true) ∈ es ∧ .durable j c' t' (.ok true) ∈ es ∧
      (t + c.ttlSeconds ≤ t' ∨ t' + c'.ttlSeconds ≤ t)

/-- A call that had begun before then has returned `True` for the nonce, or has not ended yet. -/
def Backed (pre : List Event) (x : Tiers D) (nonce : Str) : Prop :=
  ∃ j c, c.nonce = nonce ∧ .called j c ∈ pre ∧
    (x.phase j = .returned c true ∨ x.phase j = .again c ∨
      x.phase j = .durable c ∧ ∃ r, .first j c r true ∈ pre)

/-- A call that returns `False` does so because of an earlier or concurrent call. -/
def Justified (es : List Event) (x : Tiers D) : Prop :=
  ∀ pre e post i c, es = pre ++ e :: post → e.Refuses i c → Backed pre x c.nonce

/-- Each call that left its nonce in the fast tier has had it taken by the durable tier, unless the
durable tier had taken it before. -/
def MarksBacked (es : List Event) : Prop :=
  ∀ pre mid post i c r now r', es = pre ++ .first i c r true :: (mid ++ .durable i c now r' :: post) →
    r' = .ok true ∨ ∃ e ∈ pre, e.Takes c.nonce

/-! ## What a step does to one call -/

/-- How a call moves on. -/
inductive Moves (i : ℕ) : Phase → Event → Phase → Prop
  | stay {a : Phase} {e : Event} : Moves i a e a
  | call {c : MarkCall} : Moves i .idle (.called i c) (.first c)
  | pass {c : MarkCall} {r : Except PyErr Bool} {left : Bool} : r ≠ .ok false →
      Moves i (.first c) (.first i c r left) (.durable c)
  | refuse {c : MarkCall} {left : Bool} :
      Moves i (.first c) (.first i c (.ok false) left) (.returned c false)
  | take {c : MarkCall} {now : ℚ} : Moves i (.durable c) (.durable i c now (.ok true)) (.again c)
  | known {c : MarkCall} {now : ℚ} :
      Moves i (.durable c) (.durable i c now (.ok false)) (.returned c false)
  | fail {c : MarkCall} {now : ℚ} {err : PyErr} :
      Moves i (.durable c) (.durable i c now (.error err)) (.raised c err)
  | finish {c : MarkCall} {r : Except PyErr Bool} :
      Moves i (.again c) (.again i c r) (.returned c true)

theorem isA_storeError {e : PyErr} (cls : e.cls = .storeError) : e.cls.isA .storeError = true := by
  rw [cls]
  rfl

theorem Moves.of_first {i : ℕ} {c : MarkCall} {r : Except PyErr Bool} {left : Bool}
    {held held' : Set Str} (marks : FastMarks held c.nonce r held') :
    Moves i (.first c) (.first i c r left) (afterFirst c r) := by
  match r, marks with
  | .ok true, _ => exact .pass nofun
  | .ok false, _ => exact .refuse
  | .error e, marks =>
      rw [afterFirst, if_pos (isA_storeError marks.1)]
      exact .pass nofun

theorem Moves.of_durable {i : ℕ} {c : MarkCall} {now : ℚ} (r : Except PyErr Bool) :
    Moves i (.durable c) (.durable i c now r) (afterDurable c r) := by
  match r with
  | .ok true => exact .take
  | .ok false => exact .known
  | .error e => exact .fail

theorem Moves.of_again {i : ℕ} {c : MarkCall} {r : Except PyErr Bool} {held held' : Set Str}
    (marks : FastMarks held c.nonce r held') :
    Moves i (.again c) (.again i c r) (afterAgain c r) := by
  match r, marks with
  | .ok _, _ => exact .finish
  | .error e, marks =>
      rw [afterAgain, if_pos (isA_storeError marks.1)]
      exact .finish

/-- Each step moves each call in one of these ways. -/
theorem Step.moves (step : Step x e y) (i : ℕ) : Moves i (x.phase i) e (y.phase i) := by
  have other : ∀ (j : ℕ) (phase : Phase), i ≠ j → (x.put j phase).phase i = x.phase i :=
    fun j phase ne => Function.update_of_ne ne ..
  cases step with
  | @call j c idle =>
      obtain rfl | ne := eq_or_ne i j
      · rw [idle, show (x.put i (.first c)).phase i = _ from Function.update_self ..]
        exact .call
      · rw [other j _ ne]
        exact .stay
  | @first j c r held left here marks _ =>
      obtain rfl | ne := eq_or_ne i j
      · rw [here, show (x.put i (afterFirst c r)).phase i = _ from Function.update_self ..]
        exact .of_first marks
      · rw [show (x.put j (afterFirst c r)).phase i = _ from other j _ ne]
        exact .stay
  | @durable j c now r d here _ _ =>
      obtain rfl | ne := eq_or_ne i j
      · rw [here, show (x.put i (afterDurable c r)).phase i = _ from Function.update_self ..]
        exact .of_durable r
      · rw [show (x.put j (afterDurable c r)).phase i = _ from other j _ ne]
        exact .stay
  | @again j c r held here marks =>
      obtain rfl | ne := eq_or_ne i j
      · rw [here, show (x.put i (afterAgain c r)).phase i = _ from Function.update_self ..]
        exact .of_again marks
      · rw [show (x.put j (afterAgain c r)).phase i = _ from other j _ ne]
        exact .stay
  | lose | tend => exact .stay

/-! ## What a call has done so far -/

/-- The arguments a call has been given. -/
def Phase.call? : Phase → Option MarkCall
  | .idle => none
  | .first c | .durable c | .again c | .returned c _ | .raised c _ => some c

/-- The durable tier has taken the nonce of the call. -/
def Phase.Taken (c : MarkCall) (a : Phase) : Prop := a = .again c ∨ a = .returned c true

variable {i : ℕ} {c : MarkCall} {a b : Phase} {t : ℚ} {nonce : Str}

theorem Moves.called (moves : Moves i a e b) (given : b.call? = some c) :
    a.call? = some c ∨ e = .called i c := by
  cases moves with
  | call =>
      obtain rfl := Option.some.inj given
      exact .inr rfl
  | _ => exact .inl given

theorem Moves.taken (moves : Moves i a e b) (taken : a.Taken c) : b.Taken c := by
  cases moves with
  | stay => exact taken
  | finish =>
      obtain same | same := taken
      · cases same
        exact .inr rfl
      · cases same
  | _ => obtain same | same := taken <;> cases same

theorem Moves.takes (moves : Moves i a e b) (taken : b.Taken c) :
    a.Taken c ∨ ∃ now, e = .durable i c now (.ok true) := by
  cases moves with
  | stay => exact .inl taken
  | @take c' now =>
      obtain same | same := taken
      · cases same
        exact .inr ⟨now, rfl⟩
      · cases same
  | finish =>
      obtain same | same := taken
      · cases same
      · cases same
        exact .inl (.inl rfl)
  | _ => obtain same | same := taken <;> cases same

variable (run : Run Step (start D clock) es x)

include run

/-- A call that is under way or has ended was called. -/
theorem run_called (given : (x.phase i).call? = some c) : .called i c ∈ es := by
  induction run generalizing i c with
  | nil => cases given
  | snoc _ last ih =>
      obtain old | rfl := (last.moves i).called given
      · exact List.mem_append_left _ (ih old)
      · exact List.mem_append_right _ List.mem_cons_self

/-- A call whose nonce was taken stays one. -/
theorem run_taken (mem : .durable i c t (.ok true) ∈ es) : (x.phase i).Taken c := by
  induction run with
  | nil => cases mem
  | snoc _ last ih =>
      obtain old | new := List.mem_append.mp mem
      · exact (last.moves i).taken (ih old)
      · obtain rfl := List.mem_singleton.mp new
        cases last
        exact .inl (Function.update_self ..)

/-- The nonce of a call that returned `True` was taken. -/
theorem run_takes (taken : (x.phase i).Taken c) : ∃ t, .durable i c t (.ok true) ∈ es := by
  induction run generalizing i c with
  | nil => obtain same | same := taken <;> cases same
  | snoc _ last ih =>
      obtain old | ⟨now, rfl⟩ := (last.moves i).takes taken
      · obtain ⟨t, mem⟩ := ih old
        exact ⟨t, List.mem_append_left _ mem⟩
      · exact ⟨now, List.mem_append_right _ List.mem_cons_self⟩

/-- A call was called before the durable tier took its nonce. -/
theorem called_of_mem {pre post : List Event} (split : es = pre ++ post)
    (mem : .durable i c t (.ok true) ∈ pre) : .called i c ∈ pre := by
  subst split
  obtain ⟨m, before, _⟩ := run.split
  have taken := run_taken before mem
  refine run_called before ?_
  obtain here | here := taken <;> rw [here] <;> rfl

omit run

/-! ## Once at most -/

/-- Two marks of one nonce are so far apart that the first has run out. -/
def Event.Apart (e f : Event) : Prop :=
  ∀ i c t j c' t', e = .durable i c t (.ok true) → f = .durable j c' t' (.ok true) →
    c.nonce = c'.nonce → t + c.ttlSeconds ≤ t' ∨ t' + c'.ttlSeconds ≤ t

/-- The durable tier holds what it has taken, and has taken no nonce twice in its time. -/
structure Remembered (es : List Event) (x : Tiers D) : Prop where
  apart : es.Pairwise Event.Apart
  guards : ∀ i c t, .durable i c t (.ok true) ∈ es →
    Ttl.Guards D.laws x.durable x.clock c.nonce (t + c.ttlSeconds)

/-- A step that takes no nonce. -/
theorem Remembered.quiet (remembered : Remembered es x)
    (quiet : ∀ i c t, e ≠ .durable i c t (.ok true))
    (kept : ∀ {nonce expiry}, Ttl.Guards D.laws x.durable x.clock nonce expiry →
      Ttl.Guards D.laws y.durable y.clock nonce expiry) : Remembered (es ++ [e]) y where
  apart := by
    refine List.pairwise_append.mpr ⟨remembered.apart, List.pairwise_singleton _ _, ?_⟩
    intro f _ g new i c t j c' t' _ here
    rw [List.mem_singleton.mp new] at here
    exact absurd here (quiet j c' t')
  guards := by
    intro i c t mem
    obtain old | new := List.mem_append.mp mem
    · exact kept (remembered.guards i c t old)
    · exact absurd (List.mem_singleton.mp new).symm (quiet i c t)

theorem Remembered.step (remembered : Remembered es x) (step : Step x e y) :
    Remembered (es ++ [e]) y := by
  cases step with
  | call | first | again | lose => exact remembered.quiet nofun fun guards => guards
  | tend le tended => exact remembered.quiet nofun fun guards => guards.tended le tended
  | @durable i c now r d _ le marked =>
      have result := congrArg Prod.fst marked
      obtain rfl := congrArg Prod.snd marked
      by_cases took : r = .ok true
      · rw [took] at result ⊢
        constructor
        · refine List.pairwise_append.mpr ⟨remembered.apart, List.pairwise_singleton _ _, ?_⟩
          intro f mem g new j c' t k c'' t' there here same
          rw [List.mem_singleton.mp new] at here
          cases here
          subst there
          have guards := remembered.guards j c' t mem
          rw [same] at guards
          exact .inl (guards.expired le result)
        · intro j c' t mem
          obtain old | new := List.mem_append.mp mem
          · exact (remembered.guards j c' t old).kept le
          · cases List.mem_singleton.mp new
            exact Ttl.Guards.of_mark D.laws result
      · refine remembered.quiet (fun j c' t here => took ?_) fun guards => guards.kept le
        cases here
        rfl

theorem Run.remembered (run : Run Step (start D clock) es x) : Remembered es x :=
  run.history (fun _ _ _ _ remembered step => remembered.step step) ⟨.nil, nofun⟩

theorem once (run : Run Step (start D clock) es x) : Once es x := by
  intro i j c c' ne one other same
  obtain ⟨t, mem⟩ := run_takes run (.inr one)
  obtain ⟨t', mem'⟩ := run_takes run (.inr other)
  refine ⟨t, t', mem, mem', ?_⟩
  have symmetric : Std.Symm Event.Apart := ⟨fun e f apart i c t j c' t' here there same =>
    (apart j c' t' i c t there here same.symm).symm⟩
  have distinct : Event.durable i c t (.ok true) ≠ .durable j c' t' (.ok true) := fun h => by
    cases h
    exact ne rfl
  exact (Run.remembered run).apart.forall mem mem' distinct i c t j c' t' rfl rfl same

/-! ## Verdicts -/

/-- A nonce that was never taken is unmarked in the durable tier. -/
theorem run_unmarked (run : Run Step (start D clock) es x) (new : ∀ e ∈ es, ¬ e.Takes nonce) :
    D.truthful.Unmarked x.durable nonce := by
  induction run with
  | nil => exact D.initial_unmarked nonce
  | snoc _ last ih =>
      have unmarked := ih fun e mem => new e (List.mem_append_left _ mem)
      have here := new _ (List.mem_append_right _ List.mem_cons_self)
      cases last with
      | call | first | again | lose => exact unmarked
      | tend le tended => exact D.truthful.tend_keeps unmarked tended
      | @durable i c now r d _ _ marked =>
          have result : (D.markUsed _ c.nonce c.ttlSeconds now).1 = r := congrArg Prod.fst marked
          obtain rfl := congrArg Prod.snd marked
          refine D.truthful.mark_keeps unmarked fun same took => here ⟨i, c, now, ?_, same⟩
          rw [result.symm.trans took]

/-- A call whose nonce was taken backs its nonce. -/
theorem backed_of_taken (run : Run Step (start D clock) es x) {pre post : List Event}
    (split : es = pre ++ post) (mem : .durable i c t (.ok true) ∈ pre) : Backed pre x c.nonce := by
  have taken := run_taken run (split ▸ List.mem_append_left _ mem)
  refine ⟨i, c, rfl, called_of_mem run split mem, ?_⟩
  obtain again | returned := taken
  · exact .inr (.inl again)
  · exact .inl returned

theorem Backed.mono {pre post : List Event} (backed : Backed pre x nonce) :
    Backed (pre ++ post) x nonce := by
  obtain ⟨j, c, same, called, here⟩ := backed
  refine ⟨j, c, same, List.mem_append_left _ called, ?_⟩
  obtain returned | again | ⟨waiting, r, mem⟩ := here
  · exact .inl returned
  · exact .inr (.inl again)
  · exact .inr (.inr ⟨waiting, r, List.mem_append_left _ mem⟩)

theorem MarksBacked.of_snoc (marks : MarksBacked (es ++ [e])) : MarksBacked es := by
  intro pre mid post i c r now r' split
  refine marks pre mid (post ++ [e]) i c r now r' ?_
  rw [split]
  simp only [List.append_assoc, List.cons_append]

/-- A nonce that is backed stays backed. -/
theorem Backed.step (run : Run Step (start D clock) es x) (step : Step x e y)
    (marks : MarksBacked (es ++ [e])) {pre post : List Event} (split : es = pre ++ post)
    (backed : Backed pre x nonce) : Backed pre y nonce := by
  obtain ⟨j, c, rfl, called, here⟩ := backed
  have moves := step.moves j
  have stays : (x.phase j).Taken c → Backed pre y c.nonce := by
    intro taken
    refine ⟨j, c, rfl, called, ?_⟩
    obtain again | returned := moves.taken taken
    · exact .inr (.inl again)
    · exact .inl returned
  -- another call has taken the nonce before this one left it in the fast tier
  have other : ∀ r now r', .first j c r true ∈ pre → e = .durable j c now r' → r' ≠ .ok true →
      Backed pre y c.nonce := by
    intro r now r' mem asked refused
    obtain ⟨before, mid, rfl⟩ := List.append_of_mem mem
    obtain took | ⟨_, mem, k, c', t, rfl, same⟩ :=
      marks before (mid ++ post) [] j c r now r' (by simp [split, asked])
    · exact absurd took refused
    · have mem' : .durable k c' t (.ok true) ∈ before ++ .first j c r true :: mid :=
        List.mem_append_left _ mem
      have taken := run_taken run (split ▸ List.mem_append_left _ mem')
      refine ⟨k, c', same, called_of_mem run split mem', ?_⟩
      obtain again | returned := (step.moves k).taken taken
      · exact .inr (.inl again)
      · exact .inl returned
  obtain returned | again | ⟨waiting, r, mem⟩ := here
  · exact stays (.inr returned)
  · exact stays (.inl again)
  · rw [waiting] at moves
    generalize after : y.phase j = b at moves
    cases moves with
    | stay => exact ⟨j, c, rfl, called, .inr (.inr ⟨after, r, mem⟩)⟩
    | take => exact ⟨j, c, rfl, called, .inr (.inl after)⟩
    | known => exact other r _ _ mem rfl nofun
    | fail => exact other r _ _ mem rfl nofun

/-- What the fast tier holds is backed after a step. -/
theorem fast_step (run : Run Step (start D clock) es x) (step : Step x e y)
    (marks : MarksBacked (es ++ [e])) (fast : ∀ nonce ∈ x.fast, Backed es x nonce) :
    ∀ nonce ∈ y.fast, Backed (es ++ [e]) y nonce := by
  intro nonce held
  have old : nonce ∈ x.fast → Backed (es ++ [e]) y nonce := fun mem =>
    ((fast nonce mem).step run step marks (List.append_nil es).symm).mono
  have given := fun i c => run_called (i := i) (c := c) run
  cases step with
  | call | durable | tend => exact old held
  | lose sub => exact old (sub held)
  | @first i c r held' left here answers kept =>
      have called := given i c (by rw [here]; rfl)
      have added : r ≠ .ok false → nonce = c.nonce → Backed (es ++ [.first i c r left])
          { x.put i (afterFirst c r) with fast := held' } nonce := by
        intro passed same
        obtain rfl : left = true := kept.mpr (same ▸ held)
        have phase : afterFirst c r = .durable c := by
          match r, answers with
          | .ok true, _ => rfl
          | .ok false, _ => exact absurd rfl passed
          | .error e, answers => exact if_pos (isA_storeError answers.1)
        refine ⟨i, c, same.symm, List.mem_append_left _ called, .inr (.inr ⟨?_, r, by simp⟩)⟩
        exact (Function.update_self ..).trans phase
      match r, answers with
      | .ok true, sub =>
          obtain same | mem := sub held
          · exact added nofun same
          · exact old mem
      | .ok false, ⟨_, sub⟩ => exact old (sub held)
      | .error e, ⟨_, sub⟩ =>
          obtain same | mem := sub held
          · exact added nofun same
          · exact old mem
  | @again i c r held' here answers =>
      have called := given i c (by rw [here]; rfl)
      have sub : held' ⊆ insert c.nonce x.fast := by
        match r, answers with
        | .ok true, sub => exact sub
        | .ok false, ⟨_, sub⟩ => exact sub.trans (Set.subset_insert _ _)
        | .error e, ⟨_, sub⟩ => exact sub
      have phase : afterAgain c r = .returned c true := by
        match r, answers with
        | .ok _, _ => rfl
        | .error e, answers => exact if_pos (isA_storeError answers.1)
      obtain same | mem := sub held
      · refine ⟨i, c, same.symm, List.mem_append_left _ called, .inl ?_⟩
        exact (Function.update_self ..).trans phase
      · exact old mem

/-- A verdict is backed when it is given. -/
theorem refuses_backed (run : Run Step (start D clock) es x) (step : Step x e y)
    (fast : ∀ nonce ∈ x.fast, Backed es x nonce) (refuses : e.Refuses i c) :
    Backed es x c.nonce := by
  obtain ⟨left, rfl⟩ | ⟨now, rfl⟩ := refuses
  · cases step with
    | first _ answers _ => exact fast _ answers.1
  · cases step with
    | durable _ _ marked =>
        by_contra none
        have new : ∀ e ∈ es, ¬ e.Takes c.nonce := by
          rintro _ mem ⟨j, c', t, rfl, same⟩
          exact none (same ▸ backed_of_taken run (List.append_nil es).symm mem)
        have result := congrArg Prod.fst marked
        exact Bool.false_ne_true (D.truthful.mark_unmarked (run_unmarked run new) result)

/-- Where every nonce that was left in the fast tier is taken by the durable tier, what the fast
tier holds and every verdict are backed. -/
theorem run_backed (run : Run Step (start D clock) es x) (marks : MarksBacked es) :
    (∀ nonce ∈ x.fast, Backed es x nonce) ∧ Justified es x := by
  induction run with
  | nil => exact ⟨nofun, fun pre e post i c split => absurd split (by simp)⟩
  | @snoc m u es e before last ih =>
      obtain ⟨fast, justified⟩ := ih marks.of_snoc
      refine ⟨fast_step before last marks fast, ?_⟩
      intro pre f post i c split refuses
      obtain rfl | ⟨post, g, rfl⟩ := List.eq_nil_or_concat post
      · obtain ⟨rfl, same⟩ := List.append_inj' split rfl
        obtain rfl := List.singleton_inj.mp same
        have backed := refuses_backed before last fast refuses
        exact backed.step before last marks (List.append_nil _).symm
      · rw [List.concat_eq_append, ← List.cons_append, ← List.append_assoc] at split
        obtain ⟨rfl, _⟩ := List.append_inj' split rfl
        exact (justified pre f post i c rfl refuses).step before last marks rfl

/-- Calls that return `True` for one nonce lie its time to live apart.  In a run in which every call
that left its nonce in the fast tier had it taken by the durable tier, or found it taken, `False` is
returned only because of an earlier or concurrent call. -/
theorem tiered_mark_used (run : Run Step (start D clock) es x) :
    Once es x ∧ (MarksBacked es → Justified es x) :=
  ⟨once run, fun marks => (run_backed run marks).2⟩

/-! A nonce that is marked once and refused once, and one that an outage leaves in the fast tier. -/

/-- `MemoryNonceStore` as the durable tier. -/
def memoryTier : DurableStore where
  toNonceStore := MemoryNonceStore.nonceStore
  truthful := MemoryNonceStore.truthful
  initial := MemoryNonceStore.empty
  initial_unmarked := fun _ => rfl

/-- What a store raises while it is down. -/
def downError : PyErr := ⟨.storeError, ["PostgresNonceStore unavailable"]⟩

/-- A store that is up or down; while it is down it raises. -/
def outages (D : DurableStore) : DurableStore where
  State := D.State × Bool
  markUsed := fun s nonce ttl now =>
    if s.2 then ((D.markUsed s.1 nonce ttl now).1, (D.markUsed s.1 nonce ttl now).2, true)
    else (.error downError, s)
  tend := fun s now t => D.tend s.1 now t.1 ∨ t.1 = s.1
  laws := {
    Holds := fun s => D.laws.Holds s.1
    mark_holds := by
      intro s nonce ttl now marked
      split at marked
      · rename_i up
        rw [if_pos up]
        exact D.laws.mark_holds marked
      · cases marked
    held_rejects := by
      intro s nonce e ttl now holds before
      split
      · exact D.laws.held_rejects holds before
      · nofun
    mark_keeps := by
      intro s nonce e other ttl now holds before
      split
      · exact D.laws.mark_keeps holds before
      · exact holds
    tend_keeps := by
      intro s nonce e now t holds before step
      obtain step | same := step
      · exact D.laws.tend_keeps holds before step
      · exact same ▸ holds }
  truthful := {
    Unmarked := fun s => D.truthful.Unmarked s.1
    mark_unmarked := by
      intro s nonce ttl now b unmarked marked
      split at marked
      · exact D.truthful.mark_unmarked unmarked marked
      · cases marked
    mark_keeps := by
      intro s nonce other ttl now unmarked refused
      split at refused
      · rename_i up
        rw [if_pos up]
        exact D.truthful.mark_keeps unmarked refused
      · rename_i down
        rw [if_neg down]
        exact unmarked
    tend_keeps := by
      intro s nonce now t unmarked step
      obtain step | same := step
      · exact D.truthful.tend_keeps unmarked step
      · exact same ▸ unmarked }
  initial := (D.initial, true)
  initial_unmarked := D.initial_unmarked

/-- Calls whose nonces the durable tier took. -/
theorem marksBacked_of_taken
    (taken : ∀ i c now r, .durable i c now r ∈ es → r = .ok true) : MarksBacked es := by
  intro pre mid post i c r now r' split
  exact .inl (taken i c now r' (by simp [split]))

def sampleMark : MarkCall := ⟨"n", 300⟩

def sampleMarks : List Event :=
  [.called 0 sampleMark, .first 0 sampleMark (.ok true) true, .durable 0 sampleMark 0 (.ok true),
    .again 0 sampleMark (.ok true), .called 1 sampleMark, .first 1 sampleMark (.ok false) true]

/-- The second call of the sample is refused because of the first. -/
theorem sampleMarks_backed : ∃ x : Tiers memoryTier,
    Run Step (start memoryTier 0) sampleMarks x ∧ Once sampleMarks x ∧ Justified sampleMarks x := by
  have mem : sampleMark.nonce ∈ ({sampleMark.nonce} : Set Str) := rfl
  have sub : ({sampleMark.nonce} : Set Str) ⊆ insert sampleMark.nonce ∅ := fun _ h => .inl h
  have run : ∃ x : Tiers memoryTier, Run Step (start memoryTier 0) sampleMarks x :=
    ⟨_, .cons (.call sampleMark rfl) <| .cons (.first rfl sub ⟨fun _ => mem, fun _ => rfl⟩) <|
      .cons (.durable rfl le_rfl (Prod.ext rfl rfl)) <|
      .cons (.again rfl (Set.subset_insert _ _ : FastMarks _ _ (.ok true) _)) <|
      .cons (.call sampleMark rfl) <|
      .cons (.first rfl ⟨mem, subset_rfl⟩ ⟨fun _ => mem, fun _ => rfl⟩) .nil⟩
  obtain ⟨x, run⟩ := run
  obtain ⟨once, justified⟩ := tiered_mark_used run
  refine ⟨x, run, once, justified (marksBacked_of_taken ?_)⟩
  intro i c now r mem
  simp only [sampleMarks, List.mem_cons, List.not_mem_nil, or_false, reduceCtorEq, false_or,
    Event.durable.injEq] at mem
  exact mem.2.2.2

def outageMarks : List Event :=
  [.other, .called 0 sampleMark, .first 0 sampleMark (.ok true) true,
    .durable 0 sampleMark 0 (.error downError), .called 1 sampleMark,
    .first 1 sampleMark (.ok false) true]

/-- The durable tier is down for the first call: the second is refused though none was accepted. -/
theorem refused_after_outage : ¬ ∀ (D : DurableStore) (clock : ℚ) (es : List Event) (x : Tiers D),
    Run Step (start D clock) es x → Once es x ∧ Justified es x := by
  intro always
  have mem : sampleMark.nonce ∈ ({sampleMark.nonce} : Set Str) := rfl
  have sub : ({sampleMark.nonce} : Set Str) ⊆ insert sampleMark.nonce ∅ := fun _ h => .inl h
  have down : (outages memoryTier).tend (outages memoryTier).initial 0
      ((outages memoryTier).initial.1, false) := .inr rfl
  have run : ∃ x : Tiers (outages memoryTier), Run Step (start (outages memoryTier) 0) outageMarks x ∧
      x.phase 0 = .raised sampleMark downError ∧ x.phase 1 = .returned sampleMark false :=
    ⟨_, .cons (.tend le_rfl down) <| .cons (.call sampleMark rfl) <|
      .cons (.first rfl sub ⟨fun _ => mem, fun _ => rfl⟩) <| .cons (.durable rfl le_rfl rfl) <|
      .cons (.call sampleMark rfl) <|
      .cons (.first rfl ⟨mem, subset_rfl⟩ ⟨fun _ => mem, fun _ => rfl⟩) .nil, rfl, rfl⟩
  obtain ⟨x, run, raised, refused⟩ := run
  obtain ⟨_, justified⟩ := always _ _ _ _ run
  obtain ⟨j, c, _, called, here⟩ :=
    justified (outageMarks.take 5) _ [] 1 sampleMark rfl (.inl ⟨true, rfl⟩)
  simp only [outageMarks, List.take_succ_cons, List.take_zero, List.mem_cons, List.not_mem_nil,
    or_false, reduceCtorEq, false_or, Event.called.injEq] at called
  obtain ⟨rfl, rfl⟩ | ⟨rfl, rfl⟩ := called
  · rw [raised] at here
    obtain here | here | ⟨here, _⟩ := here <;> cases here
  · rw [refused] at here
    obtain here | here | ⟨here, _⟩ := here <;> cases here

end Tiered

end Uxsp
