import Uxsp.Lib.Run
import Uxsp.Lib.Versions
import Uxsp.Storage.KeyStore

/-!
# `uxsp.storage.keystore`: a cache in front of a backend

A call of `CachingKeyStore` is a few accesses of the cache and the backend.  Each access is an
atomic step, and calls interleave between them.  The backend is a `MemoryKeyStore`; the cache is one
too, but any of its calls may raise and it may lose entries.

Beside the two stores the state keeps what the backend has held under each id and the last write of
each id that has returned.  `coherent` says when no call of `get` returns less than that write left.
-/

namespace Uxsp.Caching

open Versions

/-- Where a call stands: which store it asks next, or how it ended.  A `get` knows the number of the
last write of its id that had returned when it was called, and a write its own number. -/
inductive Phase
  | idle
  | cacheGet (id : Str) (floor : ℕ)
  | backendGet (id : Str) (floor : ℕ)
  | fill (id : Str) (floor : ℕ) (card : CardType)
  | got (id : Str) (floor : ℕ) (r : Option CardType)
  | backendPut (card : CardType) (overwrite : Bool)
  | cachePut (card : CardType) (n : ℕ)
  | put (card : CardType)
  | backendDelete (id : Str)
  | cacheDelete (id : Str) (n : ℕ) (result : Bool)
  | deleted (id : Str) (result : Bool)
  | raised (e : PyErr)

/-- An error of the backend of the cache is passed over, and the call goes on. -/
def suppressed (next : Phase) : Except PyErr α → Phase
  | .ok _ => next
  | .error e => if e.cls.isA .keyStoreBackendError then next else .raised e

def afterCacheGet (id : Str) (floor : ℕ) : Except PyErr (Option CardType) → Phase
  | .ok (some card) => .got id floor (some card)
  | r => suppressed (.backendGet id floor) r

def afterBackendGet (id : Str) (floor : ℕ) : Option CardType → Phase
  | some card => .fill id floor card
  | none => .got id floor none

/-- The stores, where each call stands, what the backend has held under an id, and the number of the
last write of an id that has returned. -/
structure Stores where
  backend : Cards
  cache : Cards
  phase : ℕ → Phase
  log : Str → List (Option CardType)
  settled : Str → ℕ

/-- No call has begun. -/
def start (backend cache : Cards) : Stores :=
  ⟨backend, cache, fun _ => .idle, fun id => [backend.lookup id], fun _ => 0⟩

namespace Stores

variable (x : Stores) (i : ℕ) (id : Str)

/-- A call moves on. -/
def move (phase : Phase) : Stores := { x with phase := Function.update x.phase i phase }

/-- The backend holds this under the id from now on. -/
def wrote (backend : Cards) (entry : Option CardType) : Stores :=
  { x with backend := backend, log := Function.update x.log id (x.log id ++ [entry]) }

/-- The `n`-th write of the id returns. -/
def settle (n : ℕ) : Stores :=
  { x with settled := Function.update x.settled id (max (x.settled id) n) }

end Stores

/-- A call of the cache does what it is asked, or raises and may have done it or not. -/
def CacheCall (answer : α) (r : Except PyErr α) (done : Bool) : Prop :=
  r = .ok answer ∧ done = true ∨ ∃ e, r = .error e ∧ e.cls = .keyStoreBackendError

/-- A step: an access that changes the cache, with whether it was done, or another. -/
inductive Event
  | fill (card : CardType) (done : Bool)
  | put (card : CardType) (n : ℕ) (done : Bool)
  | delete (id : Str) (n : ℕ) (done : Bool)
  | other

inductive Step (x : Stores) : Event → Stores → Prop
  | callGet {i : ℕ} (id : Str) : x.phase i = .idle →
      Step x .other (x.move i (.cacheGet id (x.settled id)))
  | callPut {i : ℕ} (card : CardType) (overwrite : Bool) : x.phase i = .idle →
      Step x .other (x.move i (.backendPut card overwrite))
  | callDelete {i : ℕ} (id : Str) : x.phase i = .idle →
      Step x .other (x.move i (.backendDelete id))
  | cacheGet {i : ℕ} {id : Str} {floor : ℕ} {r : Except PyErr (Option CardType)} :
      x.phase i = .cacheGet id floor → CacheCall (MemoryKeyStore.get x.cache id) r true →
      Step x .other (x.move i (afterCacheGet id floor r))
  | backendGet {i : ℕ} {id : Str} {floor : ℕ} : x.phase i = .backendGet id floor →
      Step x .other (x.move i (afterBackendGet id floor (MemoryKeyStore.get x.backend id)))
  | fill {i : ℕ} {id : Str} {floor : ℕ} {card : CardType} {r : Except PyErr Unit} {done : Bool} :
      x.phase i = .fill id floor card → CacheCall () r done →
      Step x (.fill card done)
        { x.move i (suppressed (.got id floor (some card)) r) with
          cache := if done then (MemoryKeyStore.put x.cache card true).2 else x.cache }
  | backendPut {i : ℕ} {card : CardType} {overwrite : Bool} {b : Cards} :
      x.phase i = .backendPut card overwrite →
      MemoryKeyStore.put x.backend card overwrite = (.ok (), b) →
      Step x .other ((x.wrote card.entityId b (some card)).move i
        (.cachePut card (x.log card.entityId).length))
  | backendRefuses {i : ℕ} {card : CardType} {overwrite : Bool} {e : PyErr} {b : Cards} :
      x.phase i = .backendPut card overwrite →
      MemoryKeyStore.put x.backend card overwrite = (.error e, b) →
      Step x .other { x.move i (.raised e) with backend := b }
  | cachePut {i : ℕ} {card : CardType} {n : ℕ} {r : Except PyErr Unit} {done : Bool} :
      x.phase i = .cachePut card n → CacheCall () r done →
      Step x (.put card n done)
        { (x.settle card.entityId n).move i (suppressed (.put card) r) with
          cache := if done then (MemoryKeyStore.put x.cache card true).2 else x.cache }
  | backendDelete {i : ℕ} {id : Str} {result : Bool} {b : Cards} :
      x.phase i = .backendDelete id → MemoryKeyStore.delete x.backend id = (result, b) →
      Step x .other ((x.wrote id b none).move i (.cacheDelete id (x.log id).length result))
  | cacheDelete {i : ℕ} {id : Str} {n : ℕ} {result : Bool} {r : Except PyErr Bool} {done : Bool} :
      x.phase i = .cacheDelete id n result →
      CacheCall (MemoryKeyStore.delete x.cache id).1 r done →
      Step x (.delete id n done)
        { (x.settle id n).move i (suppressed (.deleted id result) r) with
          cache := if done then (MemoryKeyStore.delete x.cache id).2 else x.cache }
  /-- The cache loses entries. -/
  | evict {cache : Cards} :
      (∀ id card, cache.lookup id = some card → x.cache.lookup id = some card) →
      Step x .other { x with cache := cache }

/-! ## What is promised -/

/-- What a `get` returned is not older than what the last write left that had returned when it was
called. -/
def Coherent (x : Stores) : Prop :=
  ∀ i id floor r, x.phase i = .got id floor r → Since (x.log id) floor r

/-- A card is stored in the cache only if no write that is newer than it has returned, and a write
whose access of the cache raises leaves nothing older than itself there. -/
def Timely (x : Stores) : Event → Prop
  | .fill card true => Since (x.log card.entityId) (x.settled card.entityId) (some card)
  | .put card _ true => Since (x.log card.entityId) (x.settled card.entityId) (some card)
  | .put card n false => ∀ held, x.cache.lookup card.entityId = some held →
      Since (x.log card.entityId) n (some held)
  | .delete id n false => ∀ held, x.cache.lookup id = some held → Since (x.log id) n (some held)
  | .fill _ false | .delete _ _ true | .other => True

/-- A step that is timely. -/
def TimelyStep (x : Stores) (e : Event) (y : Stores) : Prop := Step x e y ∧ Timely x e

/-! ## The invariant -/

/-- What a call knows is right. -/
def Phase.Sound (x : Stores) : Phase → Prop
  | .cacheGet id floor | .backendGet id floor => floor ≤ x.settled id
  | .fill id floor card => Since (x.log id) floor (some card)
  | .got id floor r => Since (x.log id) floor r
  | .cachePut card n => (x.log card.entityId)[n]? = some (some card)
  | .cacheDelete id n _ => (x.log id)[n]? = some none
  | _ => True

structure Sound (x : Stores) : Prop where
  newest : ∀ id, (x.log id).getLast? = some (x.backend.lookup id)
  settled : ∀ id, x.settled id < (x.log id).length
  cached : ∀ id card, x.cache.lookup id = some card →
    Since (x.log id) (x.settled id) (some card)
  phases : ∀ i, (x.phase i).Sound x

/-- Nothing is forgotten. -/
structure Later (x y : Stores) : Prop where
  log : ∀ id, x.log id <+: y.log id
  settled : ∀ id, x.settled id ≤ y.settled id

variable {x y : Stores} {es : List Event} {e : Event} {backend cache : Cards} {i n : ℕ} {id : Str}
  {card : CardType} {entry : Option CardType} {phase : Phase}

theorem Phase.Sound.later (sound : phase.Sound x) (later : Later x y) : phase.Sound y := by
  have kept : ∀ {id} {n : ℕ} {entry : Option CardType},
      (x.log id)[n]? = some entry → (y.log id)[n]? = some entry := by
    intro id n entry found
    obtain ⟨more, grown⟩ := later.log id
    rw [← grown, List.getElem?_append_left (List.getElem?_eq_some_iff.mp found).1, found]
  cases phase with
  | cacheGet id floor => exact Nat.le_trans sound (later.settled id)
  | backendGet id floor => exact Nat.le_trans sound (later.settled id)
  | fill id floor card => exact Since.mono sound (later.log id)
  | got id floor r => exact Since.mono sound (later.log id)
  | cachePut card n => exact kept sound
  | cacheDelete id n result => exact kept sound
  | idle | backendPut | put | backendDelete | deleted | raised => trivial

theorem Later.refl : Later x x := ⟨fun _ => List.prefix_rfl, fun _ => le_rfl⟩

theorem later_wrote : Later x (x.wrote id backend entry) where
  log := by
    intro id'
    by_cases same : id' = id
    · subst same
      simp [Stores.wrote]
    · simp [Stores.wrote, same]
  settled := fun _ => le_rfl

theorem later_settle : Later x (x.settle id n) where
  log := fun _ => List.prefix_rfl
  settled := by
    intro id'
    by_cases same : id' = id
    · subst same
      simp [Stores.settle]
    · simp [Stores.settle, same]

theorem Sound.moved {p : Phase} (sound : Sound x) (later : Later x y)
    (newest : ∀ id, (y.log id).getLast? = some (y.backend.lookup id))
    (settled : ∀ id, y.settled id < (y.log id).length)
    (cached : ∀ id card, y.cache.lookup id = some card →
      Since (y.log id) (y.settled id) (some card))
    (moves : y.phase = Function.update x.phase i p) (here : p.Sound y) : Sound y := by
  refine ⟨newest, settled, cached, fun j => ?_⟩
  rw [moves]
  by_cases own : j = i
  · subst own
    rwa [Function.update_self]
  · rw [Function.update_of_ne own]
    exact (sound.phases j).later later

/-- A step that only moves a call. -/
theorem Sound.move (sound : Sound x) (here : phase.Sound x) : Sound (x.move i phase) := by
  have later : Later x (x.move i phase) := ⟨fun _ => List.prefix_rfl, fun _ => le_rfl⟩
  exact sound.moved later sound.newest sound.settled sound.cached rfl (here.later later)

theorem sound_suppressed {answer : α} {r : Except PyErr α} {done : Bool}
    (call : CacheCall answer r done) (here : phase.Sound x) : (suppressed phase r).Sound x := by
  obtain ⟨rfl, _⟩ | ⟨e, rfl, cls⟩ := call
  · exact here
  · rw [suppressed, cls]
    exact here

/-- What the cache answers is as new as what has returned. -/
theorem Sound.cacheGet {floor : ℕ} {r : Except PyErr (Option CardType)} (sound : Sound x)
    (call : CacheCall (MemoryKeyStore.get x.cache id) r true) (le : floor ≤ x.settled id) :
    (afterCacheGet id floor r).Sound x := by
  have miss : (Phase.backendGet id floor).Sound x := le
  match found : r, call with
  | .ok none, _ => exact miss
  | .ok (some card), .inl ⟨same, _⟩ =>
      have lookup : x.cache.lookup id = some card := (Except.ok.inj same).symm
      exact (sound.cached id card lookup).anti le
  | .error e, call => exact sound_suppressed call miss

/-- What the backend answers is as new as anything. -/
theorem Sound.backendGet {floor : ℕ} (sound : Sound x) (le : floor ≤ x.settled id) :
    (afterBackendGet id floor (MemoryKeyStore.get x.backend id)).Sound x := by
  have lt : floor < (x.log id).length := Nat.lt_of_le_of_lt le (sound.settled id)
  have since := since_getLast? (sound.newest id) lt
  unfold MemoryKeyStore.get
  cases found : x.backend.lookup id with
  | none => rwa [found] at since
  | some card => rwa [found] at since

/-- The backend takes a write, which is the newest from now on. -/
theorem Sound.wrote (sound : Sound x) (fresh : backend.lookup id = entry)
    (rest : ∀ id', id' ≠ id → backend.lookup id' = x.backend.lookup id')
    (here : (x.log id ++ [entry])[(x.log id).length]? = some entry →
      phase.Sound (x.wrote id backend entry)) :
    Sound ((x.wrote id backend entry).move i phase) := by
  have later : Later x (x.wrote id backend entry) := later_wrote
  have there : Sound (x.wrote id backend entry) := by
    refine ⟨fun id' => ?_, fun id' => ?_, fun id' card found => ?_, fun j =>
      (sound.phases j).later later⟩
    · by_cases same : id' = id
      · subst same
        simp [Stores.wrote, fresh]
      · simp [Stores.wrote, same, rest id' same, sound.newest id']
    · have grown := (later.log id').length_le
      exact Nat.lt_of_lt_of_le (sound.settled id') grown
    · exact (sound.cached id' card found).mono (later.log id')
  refine there.move (here ?_)
  rw [List.getElem?_append_right le_rfl, Nat.sub_self]
  rfl

/-- A write returns.  What the cache holds under its id is not older. -/
theorem Sound.settle (sound : Sound x) (written : (x.log id)[n]? = some entry)
    (same : ∀ id', id' ≠ id → cache.lookup id' = x.cache.lookup id')
    (fresh : ∀ card, cache.lookup id = some card →
      Since (x.log id) (max (x.settled id) n) (some card))
    (here : phase.Sound x) : Sound { (x.settle id n).move i phase with cache := cache } := by
  have later : Later x (x.settle id n) := later_settle
  refine sound.moved (i := i) ⟨later.log, later.settled⟩ sound.newest (fun id' => ?_)
    (fun id' card found => ?_) rfl (here.later ⟨later.log, later.settled⟩)
  · by_cases own : id' = id
    · subst own
      have lt := (List.getElem?_eq_some_iff.mp written).1
      have before := sound.settled id'
      simp only [Stores.settle, Stores.move, Function.update_self]
      omega
    · simpa [Stores.settle, Stores.move, own] using sound.settled id'
  · by_cases own : id' = id
    · subst own
      simpa [Stores.settle, Stores.move] using fresh card found
    · rw [same id' own] at found
      simpa [Stores.settle, Stores.move, own] using sound.cached id' card found

/-- A card stored in the cache, or not. -/
theorem lookup_stored {done : Bool} {held : CardType}
    (found : (if done then (MemoryKeyStore.put x.cache card true).2 else x.cache).lookup id =
      some held) :
    x.cache.lookup id = some held ∨ done = true ∧ id = card.entityId ∧ held = card := by
  cases done with
  | false => exact .inl found
  | true =>
      rw [if_pos rfl, MemoryKeyStore.put_overwrite, Assoc.lookup_set] at found
      split at found
      · rename_i same
        exact .inr ⟨rfl, eq_of_beq same, (Option.some.inj found).symm⟩
      · exact .inl found

theorem Sound.ofPhase (sound : Sound x) (here : x.phase i = phase) : phase.Sound x :=
  here ▸ sound.phases i

theorem Sound.step (sound : Sound x) (step : Step x e y) (timely : Timely x e) : Sound y := by
  cases step with
  | callGet id idle => exact sound.move (le_refl (x.settled id))
  | callPut | callDelete => exact sound.move trivial
  | @cacheGet i id floor r here call =>
      have le : floor ≤ x.settled id := sound.ofPhase here
      exact sound.move (sound.cacheGet call le)
  | @backendGet i id floor here =>
      have le : floor ≤ x.settled id := sound.ofPhase here
      exact sound.move (sound.backendGet le)
  | @fill i id floor card r done here call =>
      have read : (Phase.fill id floor card).Sound x := sound.ofPhase here
      have since : (Phase.got id floor (some card)).Sound x := read
      have later : Later x x := .refl
      refine sound.moved (i := i) ⟨later.log, later.settled⟩ sound.newest sound.settled ?_ rfl
        ((sound_suppressed call since).later ⟨later.log, later.settled⟩)
      intro id' held found
      obtain old | ⟨rfl, rfl, rfl⟩ := lookup_stored found
      · exact sound.cached id' held old
      · exact timely
  | @backendPut i card overwrite b here stored =>
      obtain rfl := MemoryKeyStore.put_eq_ok stored
      refine sound.wrote (by simp) (fun id' other => ?_) fun _ => ?_
      · simp [other]
      · simp [Phase.Sound, Stores.wrote]
  | @backendRefuses i card overwrite e b here refused =>
      obtain ⟨_, rfl⟩ := MemoryKeyStore.put_eq_error refused
      exact sound.move trivial
  | @cachePut i card n r done here call =>
      have written : (x.log card.entityId)[n]? = some (some card) := sound.ofPhase here
      refine sound.settle written (fun id' other => ?_) (fun held found => ?_)
        (sound_suppressed call trivial)
      · cases done <;> simp [other]
      · cases done with
        | true =>
            obtain rfl : card = held := by simpa using found
            exact Since.max timely (since_of_getElem? written)
        | false => exact (sound.cached _ held found).max (timely held found)
  | @backendDelete i id result b here deleted =>
      obtain rfl : b = _ := (congrArg Prod.snd deleted).symm
      refine sound.wrote (by simp) (fun id' other => ?_) fun _ => ?_
      · simp [other]
      · simp [Phase.Sound, Stores.wrote]
  | @cacheDelete i id n result r done here call =>
      have written : (x.log id)[n]? = some none := sound.ofPhase here
      refine sound.settle written (fun id' other => ?_) (fun held found => ?_)
        (sound_suppressed call trivial)
      · cases done <;> simp [other]
      · cases done with
        | true => simp at found
        | false => exact (sound.cached _ held found).max (timely held found)
  | evict fewer =>
      refine ⟨sound.newest, sound.settled, fun id card found => ?_, fun j => ?_⟩
      · exact sound.cached id card (fewer id card found)
      · exact (sound.phases j).later ⟨fun _ => List.prefix_rfl, fun _ => le_rfl⟩

theorem sound_start : Sound (start backend cache) where
  newest := fun _ => rfl
  settled := fun _ => Nat.zero_lt_one
  cached := fun _ _ _ => since_zero
  phases := fun _ => trivial

/-- In a run of timely steps no `get` returns less than the last write of its id left that had
returned when it was called.  The stores may hold anything when the run begins. -/
theorem coherent (run : Run TimelyStep (start backend cache) es x) : Coherent x := by
  have sound : Sound x :=
    run.invariant (fun _ _ _ sound step => sound.step step.1 step.2) sound_start
  intro i id floor r got
  exact sound.ofPhase got

/-! A card that is read after it was put, and one that is read after it was deleted. -/

/-- The sample is put and then read from the cache. -/
theorem samplePut_coherent : ∃ x : Stores, ∃ es, Run TimelyStep (start [] []) es x ∧ Coherent x ∧
    x.phase 1 = .got sampleCard.entityId 1 (some sampleCard) := by
  have since : Since [none, some sampleCard] 0 (some sampleCard) := since_zero
  have run : ∃ x : Stores, ∃ es, Run TimelyStep (start [] []) es x ∧
      x.phase 1 = .got sampleCard.entityId 1 (some sampleCard) :=
    ⟨_, _, .cons ⟨.callPut (i := 0) sampleCard true rfl, trivial⟩ <|
      .cons ⟨.backendPut (i := 0) rfl rfl, trivial⟩ <|
      .cons ⟨.cachePut (i := 0) rfl (.inl ⟨rfl, rfl⟩), since⟩ <|
      .cons ⟨.callGet (i := 1) sampleCard.entityId rfl, trivial⟩ <|
      .cons ⟨.cacheGet (i := 1) rfl (.inl ⟨rfl, rfl⟩), trivial⟩ .nil, rfl⟩
  obtain ⟨x, es, run, got⟩ := run
  exact ⟨x, es, run, coherent run, got⟩

/-- A `get` reads the sample from the backend, and stores it in the cache after a `delete` of it has
returned.  The next `get` returns it. -/
theorem deleted_card_returned : ¬ ∀ (backend cache : Cards) (es : List Event) (x : Stores),
    Run Step (start backend cache) es x → Coherent x := by
  intro always
  have run : ∃ x : Stores, ∃ es, Run Step (start [(sampleCard.entityId, sampleCard)] []) es x ∧
      x.phase 2 = .got sampleCard.entityId 1 (some sampleCard) ∧
      x.log sampleCard.entityId = [some sampleCard, none] :=
    ⟨_, _, .cons (.callGet (i := 0) sampleCard.entityId rfl) <|
      .cons (.cacheGet (i := 0) rfl (.inl ⟨rfl, rfl⟩)) <|
      .cons (.backendGet (i := 0) rfl) <|
      .cons (.callDelete (i := 1) sampleCard.entityId rfl) <|
      .cons (.backendDelete (i := 1) rfl rfl) <|
      .cons (.cacheDelete (i := 1) rfl (.inl ⟨rfl, rfl⟩)) <|
      .cons (.fill (i := 0) rfl (.inl ⟨rfl, rfl⟩)) <|
      .cons (.callGet (i := 2) sampleCard.entityId rfl) <|
      .cons (.cacheGet (i := 2) rfl (.inl ⟨rfl, rfl⟩)) .nil, rfl, rfl⟩
  obtain ⟨x, es, run, got, log⟩ := run
  have since := always _ _ es x run 2 _ _ _ got
  rw [log] at since
  obtain ⟨m, le, found⟩ := since Nat.zero_lt_one
  match m, le with
  | 1, _ => cases found
  | m + 2, _ => cases found

end Uxsp.Caching
