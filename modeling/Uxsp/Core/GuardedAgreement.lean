import Uxsp.Core.GuardedHandshake

/-!
# When the guarded responders agree

`accept_alike` says in which runs the two guarded responders accept the same HELLOs: the
asynchronous one must have a store when a HELLO comes twice, and no other dict may have used up the
names of a genuine HELLO.
-/

namespace Uxsp

open Handshake

namespace GuardedHandshakes

open AsyncGuardedHandshake

variable {P : Platform} (responder : Identity P) {S T : SeenStore}

/-- No call on a nonce store raises. -/
structure Answers (s : Stores S T) (x : Presented) : Prop where
  store : ∀ {key version}, x.Checked responder key version →
    ∃ b, (S.markUsed s.store key NONCE_TTL x.after).1 = .ok b
  asyncStore : ∀ {a key nonce}, s.asyncStore = some a → x.Asks P key nonce →
    (∃ b, (T.markUsed a key NONCE_TTL x.asked).1 = .ok b) ∧
    (∃ b, (T.isSeen (T.markUsed a key NONCE_TTL x.asked).2 nonce x.asked).1 = .ok b) ∧
    ∃ b, (T.markUsed (T.isSeen (T.markUsed a key NONCE_TTL x.asked).2 nonce x.asked).2 nonce
      DEFAULT_TTL x.asked).1 = .ok b

/-- No HELLO before has used the names of this one. -/
structure Unused (before : List Event) (x : Presented) (key nonce : Str) : Prop where
  apart : nonce ≠ key
  checked : ∀ e ∈ before, ∀ version, ¬ e.Checked responder key version
  asked : ∀ e ∈ before, ∀ key' nonce', e.Asks P key' nonce' →
    key' ≠ key ∧ nonce' ≠ key ∧ key' ≠ nonce ∧ nonce' ≠ nonce

/-- What a valid HELLO must satisfy, given the HELLOs before it.  Without an asynchronous store no
HELLO may come twice; with one a HELLO may repeat a valid one, and otherwise its names are new. -/
structure Clean (stored : Bool) (before : List Event) (x : Presented) : Prop where
  nonce : ∃ n, nonceOf x.hello = .str n
  unused : ∀ {key version n}, x.Checked responder key version → nonceOf x.hello = .str n →
    if stored then
      (∃ e ∈ before, e.Valid responder ∧ e.Repeats P.toRuntime x) ∨ Unused responder before x key n
    else ∀ e ∈ before, ∀ version, ¬ e.Checked responder key version

/-- The two responders accept the same HELLOs, none of them twice, and every valid one that does not
repeat another. -/
structure Alike (es : List Event) : Prop where
  same : ∀ e ∈ es, e.acceptedAsync = e.accepted
  once : es.Pairwise fun e f =>
    ¬ (e.acceptedAsync = true ∧ f.acceptedAsync = true ∧ e.Repeats P.toRuntime f.toPresented)
  genuine : ∀ {before e rest}, es = before ++ e :: rest → e.Valid responder →
    (∀ f ∈ before, f.Valid responder → ¬ f.Repeats P.toRuntime e.toPresented) →
      e.acceptedAsync = true

variable {responder} {s t : Stores S T} {x : Presented} {e : Event} {key nonce version : Str}

/-! ## The store of the asynchronous responder -/

variable {a : T.State} {asked clock expiry : ℚ} {held : Str}

theorem guards_markHello (guards : Ttl.Guards T.laws a clock held expiry) (le : clock ≤ asked) :
    Ttl.Guards T.laws (markHello T a key nonce asked).2 asked held expiry := by
  have marked : Ttl.Guards T.laws (T.markUsed a key NONCE_TTL asked).2 asked held expiry :=
    guards.kept le
  unfold markHello
  generalize T.markUsed a key NONCE_TTL asked = first at marked ⊢
  rcases first with ⟨_ | _ | _, a₁⟩
  · exact marked
  · exact marked
  · have peeked := marked.tended le_rfl (T.isSeen_tends a₁ nonce asked)
    simp only at peeked ⊢
    generalize T.isSeen a₁ nonce asked = second at peeked ⊢
    rcases second with ⟨_ | _ | _, a₂⟩
    · exact peeked
    · have kept : Ttl.Guards T.laws (T.markUsed a₂ nonce DEFAULT_TTL asked).2 asked held expiry :=
        peeked.kept le_rfl
      simp only at kept ⊢
      generalize T.markUsed a₂ nonce DEFAULT_TTL asked = third at kept ⊢
      rcases third with ⟨_ | _, a₃⟩ <;> exact kept
    · exact peeked

/-- The first mark of a HELLO that was taken. -/
theorem guards_of_markHello (taken : (markHello T a key nonce asked).1 = .ok ()) :
    Ttl.Guards T.laws (markHello T a key nonce asked).2 asked key (asked + NONCE_TTL) := by
  have marked : (T.markUsed a key NONCE_TTL asked).1 = .ok true →
      Ttl.Guards T.laws (T.markUsed a key NONCE_TTL asked).2 asked key (asked + NONCE_TTL) :=
    Ttl.Guards.of_mark T.laws
  unfold markHello at taken ⊢
  generalize T.markUsed a key NONCE_TTL asked = first at marked taken ⊢
  rcases first with ⟨_ | _ | _, a₁⟩
  · cases taken
  · cases taken
  · have peeked := (marked rfl).tended le_rfl (T.isSeen_tends a₁ nonce asked)
    simp only at peeked taken ⊢
    generalize T.isSeen a₁ nonce asked = second at peeked taken ⊢
    rcases second with ⟨_ | _ | _, a₂⟩
    · cases taken
    · have kept : Ttl.Guards T.laws (T.markUsed a₂ nonce DEFAULT_TTL asked).2 asked key
          (asked + NONCE_TTL) :=
        peeked.kept le_rfl
      simp only at kept taken ⊢
      generalize T.markUsed a₂ nonce DEFAULT_TTL asked = third at kept taken ⊢
      rcases third with ⟨_ | _, a₃⟩
      · cases taken
      · exact kept
    · cases taken

theorem markHello_of_held (guards : Ttl.Guards T.laws a clock key expiry) (le : clock ≤ asked)
    (before : asked < expiry) : (markHello T a key nonce asked).1 ≠ .ok () := by
  intro taken
  have first : (T.markUsed a key NONCE_TTL asked).1 = .ok true := by
    unfold markHello at taken
    generalize T.markUsed a key NONCE_TTL asked = out at taken ⊢
    rcases out with ⟨_ | _ | _, a₁⟩
    · cases taken
    · cases taken
    · rfl
  exact absurd (guards.expired le first) (not_le.mpr before)

/-- A dict that passes the format check, signed or not, blocks the HELLOs of its session. -/
theorem blocks_of_markHello {y : Presented} {nonce' : Str}
    (taken : (markHello T a key nonce y.asked).1 = .ok ()) (asks : x.Asks P key nonce')
    (le : y.asked ≤ x.asked) (soon : x.asked < y.asked + NONCE_TTL) :
    succeeded (AsyncGuardedHandshake.respond P T (.ok ())
      (some (markHello T a key nonce y.asked).2) responder (.dict x.hello) x.card x.config x.asked
      x.now x.after x.coins).1 = false := by
  refine Bool.eq_false_iff.mpr fun accepted => ?_
  have marked := ((respondAsync_some asks _).mp accepted).2
  exact markHello_of_held (guards_of_markHello taken) le soon marked

variable (F : S.FirstUse) (G : T.FirstUse)

theorem new_markHello (new : G.New a held) (apart : key ≠ held) (apart' : nonce ≠ held) :
    G.New (markHello T a key nonce asked).2 held := by
  have marked : G.New (T.markUsed a key NONCE_TTL asked).2 held := G.mark_keeps new apart
  unfold markHello
  generalize T.markUsed a key NONCE_TTL asked = first at marked ⊢
  rcases first with ⟨_ | _ | _, a₁⟩
  · exact marked
  · exact marked
  · have peeked : G.New (T.isSeen a₁ nonce asked).2 held := G.seen_keeps marked
    simp only at peeked ⊢
    generalize T.isSeen a₁ nonce asked = second at peeked ⊢
    rcases second with ⟨_ | _ | _, a₂⟩
    · exact peeked
    · have kept : G.New (T.markUsed a₂ nonce DEFAULT_TTL asked).2 held :=
        G.mark_keeps peeked apart'
      simp only at kept ⊢
      generalize T.markUsed a₂ nonce DEFAULT_TTL asked = third at kept ⊢
      rcases third with ⟨_ | _, a₃⟩ <;> exact kept
    · exact peeked

/-- A store that answers takes a HELLO whose names are new to it. -/
theorem markHello_of_new (new : G.New a key) (newNonce : G.New a nonce) (apart : nonce ≠ key)
    (answers : (∃ b, (T.markUsed a key NONCE_TTL asked).1 = .ok b) ∧
      (∃ b, (T.isSeen (T.markUsed a key NONCE_TTL asked).2 nonce asked).1 = .ok b) ∧
      ∃ b, (T.markUsed (T.isSeen (T.markUsed a key NONCE_TTL asked).2 nonce asked).2 nonce
        DEFAULT_TTL asked).1 = .ok b) :
    (markHello T a key nonce asked).1 = .ok () := by
  rcases answers with ⟨⟨b, first⟩, ⟨b', second⟩, ⟨b'', third⟩⟩
  have still : G.New (T.markUsed a key NONCE_TTL asked).2 nonce :=
    G.mark_keeps newNonce apart.symm
  cases G.mark_new new first
  cases G.seen_new still second
  unfold markHello
  generalize T.markUsed a key NONCE_TTL asked = out at first second third ⊢
  rcases out with ⟨_, a₁⟩
  simp only at first second third
  subst first
  simp only
  generalize T.isSeen a₁ nonce asked = out at second third ⊢
  rcases out with ⟨_, a₂⟩
  simp only at second third
  subst second
  simp only
  generalize T.markUsed a₂ nonce DEFAULT_TTL asked = out at third ⊢
  rcases out with ⟨_, a₃⟩
  simp only at third
  subst third
  rfl

/-! ## One HELLO -/

variable {y z : Presented}

theorem Presented.Repeats.trans {R : Runtime} (first : x.Repeats R y) (second : y.Repeats R z) :
    x.Repeats R z := by
  rcases first with ⟨⟨sid, hx, hy⟩, v, w, ts, vx, cx, wy, cy⟩
  rcases second with ⟨⟨sid', hy', hz⟩, v', w', ts', vy, cy', wz, cz⟩
  rw [hy] at hy'
  cases hy'
  rw [wy] at vy
  cases vy
  cases Except.ok.inj (cy.symm.trans cy')
  exact ⟨⟨sid, hx, hz⟩, v, w', ts, vx, cx, wz, cz⟩

theorem Presented.Valid.repeats_self (valid : x.Valid responder) : x.Repeats P.toRuntime x := by
  rcases valid.facts with ⟨sid, _, _, found, _, accepted, _⟩
  rcases accepted.fresh with ⟨v, ts, stamped, converted, _⟩
  exact ⟨⟨sid, found, found⟩, v, v, ts, stamped, converted, stamped, converted⟩

/-- A HELLO that repeats another is presented before the marks of the other run out. -/
theorem Presented.Repeats.soon (repeats : x.Repeats P.toRuntime y) (valid : x.Valid responder)
    (valid' : y.Valid responder) :
    y.after < x.after + NONCE_TTL ∧ y.asked < x.asked + NONCE_TTL := by
  rcases repeats.timestamp with ⟨v, w, ts, vx, cx, wy, cy⟩
  rcases valid.facts with ⟨_, _, _, _, _, accepted, _⟩
  rcases valid'.facts with ⟨_, _, _, _, _, accepted', _⟩
  rcases accepted.fresh with ⟨v', ts', stamped, converted, young, _⟩
  rcases accepted'.fresh with ⟨w', ts'', stamped', converted', _, old⟩
  rw [vx] at stamped
  cases stamped
  rw [wy] at stamped'
  cases stamped'
  cases Except.ok.inj (cx.symm.trans converted)
  cases Except.ok.inj (cy.symm.trans converted')
  have fast := x.fast
  have order := x.now_le
  have fast' := y.fast
  have order' := y.asked_le
  have marked := Network.marks_close young x.now_le old (fast'.trans (by linarith))
  have asked : y.asked + Network.CALL_SECONDS < x.now + NONCE_TTL :=
    Network.marks_close young le_rfl old (by linarith)
  exact ⟨marked, by linarith⟩

/-- What holds between two HELLOs of a run. -/
structure Inv (stored : Bool) (es : List Event) (s : Stores S T) : Prop where
  stored_eq : s.asyncStore.isSome = stored
  new : ∀ {key}, (∀ e ∈ es, ∀ version, ¬ e.Checked responder key version) → F.New s.store key
  newAsync : ∀ {a name}, s.asyncStore = some a →
    (∀ e ∈ es, ∀ key nonce, e.Asks P key nonce → key ≠ name ∧ nonce ≠ name) → G.New a name
  held : ∀ e ∈ es, e.accepted = true → ∀ {key version}, e.Checked responder key version →
    Ttl.Guards S.laws s.store s.clock key (e.after + NONCE_TTL)
  heldAsync : ∀ {a}, s.asyncStore = some a → ∀ e ∈ es, e.acceptedAsync = true →
    ∀ {key nonce}, e.Asks P key nonce → Ttl.Guards T.laws a s.clock key (e.asked + NONCE_TTL)
  valid : ∀ e ∈ es, e.accepted = true → e.Valid responder
  origin : ∀ e ∈ es, e.Valid responder →
    ∃ f ∈ es, f.accepted = true ∧ f.Repeats P.toRuntime e.toPresented
  named : ∀ e ∈ es, e.Valid responder → ∃ n, nonceOf e.hello = .str n
  same : ∀ e ∈ es, e.acceptedAsync = e.accepted

variable {F G} {stored : Bool} {es : List Event}

theorem Step.valid (step : Step responder s e t) (accepted : e.accepted = true) :
    e.Valid responder :=
  valid_of_accepted (step.accepts.trans accepted)

theorem Step.validAsync (step : Step responder s e t) (accepted : e.acceptedAsync = true) :
    e.Valid responder := by
  have taken := step.acceptsAsync.trans accepted
  cases store : s.asyncStore with
  | none =>
      rw [store] at taken
      exact (respondAsync_none.mp taken).2
  | some a =>
      rw [store] at taken
      by_cases asks : ∃ key nonce, e.Asks P key nonce
      · rcases asks with ⟨key, nonce, asks⟩
        exact ((respondAsync_some asks a).mp taken).1
      · push Not at asks
        rcases respondAsync_unasked asks a with ⟨err, refused⟩
        rw [refused] at taken
        cases taken

/-- The synchronous responder accepts no repetition. -/
theorem Inv.refuses (inv : @Inv P responder S T F G stored es s)
    (step : Step responder s e t) {f : Event} (mem : f ∈ es) (accepted : f.accepted = true)
    (repeats : f.Repeats P.toRuntime e.toPresented) : e.accepted = false := by
  refine Bool.eq_false_iff.mpr fun again => ?_
  have valid := step.valid again
  rcases repeats.sessionId with ⟨sid, hf, he⟩
  rcases (inv.valid f mem accepted).facts with ⟨sid', version, _, found, checked, _⟩
  rcases valid.facts with ⟨sid'', version', _, found', checked', _⟩
  rw [hf] at found
  cases found
  rw [he] at found'
  cases found'
  have marked := ((respond_accepts checked' s.store).mp (step.accepts.trans again)).2
  have expired := (inv.held f mem accepted checked).expired
    (step.later.trans (e.asked_le.trans e.now_le)) marked
  exact absurd expired (not_le.mpr (repeats.soon (inv.valid f mem accepted) valid).1)

/-- Neither does the asynchronous one, if it has a store. -/
theorem Inv.refusesAsync (inv : @Inv P responder S T F G true es s)
    (step : Step responder s e t) {f : Event} (mem : f ∈ es) (accepted : f.accepted = true)
    (repeats : f.Repeats P.toRuntime e.toPresented) (named' : ∃ n, nonceOf e.hello = .str n) :
    e.acceptedAsync = false := by
  refine Bool.eq_false_iff.mpr fun again => ?_
  have valid := step.validAsync again
  rcases Option.isSome_iff_exists.mp inv.stored_eq with ⟨a, store⟩
  rcases inv.named f mem (inv.valid f mem accepted) with ⟨n, named⟩
  rcases named' with ⟨n', named'⟩
  rcases repeats.sessionId with ⟨sid, hf, he⟩
  rcases (inv.valid f mem accepted).facts with ⟨sid', _, _, found, _, _, asks⟩
  rcases valid.facts with ⟨sid'', _, _, found', _, _, asks'⟩
  rw [hf] at found
  cases found
  rw [he] at found'
  cases found'
  have taken := step.acceptsAsync.trans again
  rw [store] at taken
  have marked := ((respondAsync_some (asks' named') a).mp taken).2
  have guards := inv.heldAsync store f mem ((inv.same f mem).trans accepted) (asks named)
  exact markHello_of_held guards step.later
    (repeats.soon (inv.valid f mem accepted) valid).2 marked

/-- A clean HELLO that repeats no valid one is accepted by both. -/
theorem Inv.accepts (inv : @Inv P responder S T F G stored es s)
    (step : Step responder s e t) (answers : Answers responder s e.toPresented)
    (clean : Clean responder stored es e.toPresented) (valid : e.Valid responder)
    (first : ∀ f ∈ es, f.Valid responder → ¬ f.Repeats P.toRuntime e.toPresented) :
    e.accepted = true ∧ e.acceptedAsync = true := by
  rcases valid.facts with ⟨sid, version, _, _, checked, _, asks⟩
  rcases clean.nonce with ⟨n, named⟩
  have asks := asks named
  have names := clean.unused checked named
  rcases answers.store checked with ⟨b, marked⟩
  cases stored with
  | false =>
      simp only [Bool.false_eq_true, if_false] at names
      have store := Option.not_isSome_iff_eq_none.mp (Bool.eq_false_iff.mp inv.stored_eq)
      cases F.mark_new (inv.new names) marked
      refine ⟨step.accepts.symm.trans ((respond_accepts checked s.store).mpr ⟨valid, marked⟩),
        step.acceptsAsync.symm.trans ?_⟩
      rw [store]
      exact respondAsync_none.mpr ⟨⟨n, asks.format⟩, valid⟩
  | true =>
      simp only [if_true] at names
      rcases names with ⟨f, mem, valid', repeats⟩ | unused
      · exact absurd repeats (first f mem valid')
      · rcases Option.isSome_iff_exists.mp inv.stored_eq with ⟨a, store⟩
        cases F.mark_new (inv.new unused.checked) marked
        refine ⟨step.accepts.symm.trans ((respond_accepts checked s.store).mpr ⟨valid, marked⟩),
          step.acceptsAsync.symm.trans ?_⟩
        have newKey := inv.newAsync store fun f mem key' nonce' asks' =>
          ⟨(unused.asked f mem key' nonce' asks').1, (unused.asked f mem key' nonce' asks').2.1⟩
        have newNonce := inv.newAsync store fun f mem key' nonce' asks' =>
          (unused.asked f mem key' nonce' asks').2.2
        rw [store]
        exact (respondAsync_some asks a).mpr ⟨valid,
          markHello_of_new G newKey newNonce unused.apart (answers.asyncStore store asks)⟩

/-- A HELLO that repeats a valid one is accepted by neither. -/
theorem Inv.rejects (inv : @Inv P responder S T F G stored es s)
    (step : Step responder s e t) (clean : Clean responder stored es e.toPresented)
    (valid : e.Valid responder) {f : Event} (mem : f ∈ es) (valid' : f.Valid responder)
    (repeats : f.Repeats P.toRuntime e.toPresented) :
    e.accepted = false ∧ e.acceptedAsync = false := by
  rcases inv.origin f mem valid' with ⟨g, mem', accepted, origin⟩
  have again := origin.trans repeats
  cases stored with
  | false =>
      -- without a store the names of a clean HELLO were never checked before
      rcases clean.nonce with ⟨n, named⟩
      rcases repeats.sessionId with ⟨sid, hf, he⟩
      rcases valid.facts with ⟨_, _, _, found, checked, _⟩
      rcases valid'.facts with ⟨_, version, _, found', checked', _⟩
      rw [he] at found
      cases found
      rw [hf] at found'
      cases found'
      have names := clean.unused checked named
      simp only [Bool.false_eq_true, if_false] at names
      exact absurd checked' (names f mem version)
  | true =>
      exact ⟨inv.refuses step mem' accepted again,
        inv.refusesAsync step mem' accepted again clean.nonce⟩

theorem Inv.agree (inv : @Inv P responder S T F G stored es s)
    (step : Step responder s e t) (answers : Answers responder s e.toPresented)
    (clean : e.Valid responder → Clean responder stored es e.toPresented) :
    e.acceptedAsync = e.accepted := by
  by_cases valid : e.Valid responder
  · by_cases first : ∀ f ∈ es, f.Valid responder → ¬ f.Repeats P.toRuntime e.toPresented
    · rcases inv.accepts step answers (clean valid) valid first with ⟨accepted, acceptedAsync⟩
      rw [accepted, acceptedAsync]
    · push Not at first
      rcases first with ⟨f, mem, valid', repeats⟩
      rcases inv.rejects step (clean valid) valid mem valid' repeats with ⟨refused, refusedAsync⟩
      rw [refused, refusedAsync]
  · have refused : e.accepted = false := Bool.eq_false_iff.mpr fun h => valid (step.valid h)
    have refusedAsync : e.acceptedAsync = false :=
      Bool.eq_false_iff.mpr fun h => valid (step.validAsync h)
    rw [refused, refusedAsync]

/-- What a step does to the store of the synchronous responder. -/
theorem Step.store_cases (step : Step responder s e t) :
    (∃ key version, e.Checked responder key version ∧
      t.store = (S.markUsed s.store key NONCE_TTL e.after).2) ∨
    (∀ key version, ¬ e.Checked responder key version) ∧ t.store = s.store := by
  by_cases checks : ∃ key version, e.Checked responder key version
  · rcases checks with ⟨key, version, checked⟩
    exact .inl ⟨key, version, checked, step.store.symm.trans (respond_store checked s.store)⟩
  · push Not at checks
    rcases respond_unchecked checks s.store with ⟨err, refused⟩
    exact .inr ⟨checks, step.store.symm.trans (congrArg Prod.snd refused)⟩

/-- What a step does to the store of the asynchronous responder. -/
theorem Step.asyncStore_cases (step : Step responder s e t) :
    (s.asyncStore = none ∧ t.asyncStore = none) ∨
    (∃ a key nonce, s.asyncStore = some a ∧ e.Asks P key nonce ∧
      t.asyncStore = some (markHello T a key nonce e.asked).2) ∨
    ∃ a, s.asyncStore = some a ∧ (∀ key nonce, ¬ e.Asks P key nonce) ∧ t.asyncStore = some a := by
  cases store : s.asyncStore with
  | none =>
      have left := step.asyncStore
      rw [store, respondAsync_unstored] at left
      exact .inl ⟨rfl, left.symm⟩
  | some a =>
      have left := step.asyncStore
      rw [store] at left
      by_cases asks : ∃ key nonce, e.Asks P key nonce
      · rcases asks with ⟨key, nonce, asks⟩
        rw [respondAsync_store asks a] at left
        exact .inr (.inl ⟨a, key, nonce, rfl, asks, left.symm⟩)
      · push Not at asks
        rcases respondAsync_unasked asks a with ⟨err, refused⟩
        rw [refused] at left
        exact .inr (.inr ⟨a, rfl, asks, left.symm⟩)

theorem Inv.held_step (inv : @Inv P responder S T F G stored es s)
    (step : Step responder s e t) {f : Event} (mem : f ∈ es ++ [e]) (accepted : f.accepted = true)
    (checked : f.Checked responder key version) :
    Ttl.Guards S.laws t.store t.clock key (f.after + NONCE_TTL) := by
  rw [step.clock]
  have later := step.later.trans (e.asked_le.trans e.now_le)
  rcases List.mem_append.mp mem with old | new
  · have guards := inv.held f old accepted checked
    rcases step.store_cases with ⟨key', version', _, left⟩ | ⟨_, left⟩
    · rw [left]
      exact guards.kept later
    · rw [left]
      exact guards.later later
  · cases List.mem_singleton.mp new
    have marked := ((respond_accepts checked s.store).mp (step.accepts.trans accepted)).2
    rw [← step.store, respond_store checked]
    exact Ttl.Guards.of_mark S.laws marked

theorem Inv.heldAsync_step (inv : @Inv P responder S T F G stored es s)
    (step : Step responder s e t) {a : T.State} (store : t.asyncStore = some a) {f : Event}
    (mem : f ∈ es ++ [e]) (accepted : f.acceptedAsync = true) (asks : f.Asks P key nonce) :
    Ttl.Guards T.laws a t.clock key (f.asked + NONCE_TTL) := by
  rw [step.clock]
  have fast := e.asked_le.trans e.now_le
  rcases step.asyncStore_cases with ⟨_, left⟩ | ⟨a', key', nonce', before, asks', left⟩ |
    ⟨a', before, unasked, left⟩
  · rw [left] at store
    cases store
  · rw [left, Option.some.injEq] at store
    subst store
    rcases List.mem_append.mp mem with old | new
    · have guards := inv.heldAsync before f old accepted asks
      exact (guards_markHello guards step.later).later fast
    · cases List.mem_singleton.mp new
      rcases asks.unique asks' with ⟨rfl, rfl⟩
      have taken := step.acceptsAsync.trans accepted
      rw [before] at taken
      have marked := ((respondAsync_some asks a').mp taken).2
      exact (guards_of_markHello marked).later fast
  · rw [left, Option.some.injEq] at store
    subst store
    rcases List.mem_append.mp mem with old | new
    · exact (inv.heldAsync before f old accepted asks).later (step.later.trans fast)
    · cases List.mem_singleton.mp new
      exact absurd asks (unasked key nonce)

theorem Inv.step (inv : @Inv P responder S T F G stored es s)
    (step : Step responder s e t) (answers : Answers responder s e.toPresented)
    (clean : e.Valid responder → Clean responder stored es e.toPresented) :
    @Inv P responder S T F G stored (es ++ [e]) t where
  stored_eq := by
    have before := inv.stored_eq
    rcases step.asyncStore_cases with ⟨none, left⟩ | ⟨a, _, _, some, _, left⟩ | ⟨a, some, _, left⟩
    · rw [left, ← before, none]
    · rw [left, ← before, some]
      rfl
    · rw [left, ← before, some]
  new := by
    intro key unchecked
    have before := inv.new fun f mem => unchecked f (List.mem_append_left _ mem)
    rcases step.store_cases with ⟨key', version, checked, left⟩ | ⟨_, left⟩
    · rw [left]
      refine F.mark_keeps before ?_
      rintro rfl
      exact unchecked e (List.mem_append_right _ List.mem_cons_self) version checked
    · rw [left]
      exact before
  newAsync := by
    intro a name store unasked
    have earlier := fun f mem => unasked f (List.mem_append_left _ mem)
    rcases step.asyncStore_cases with ⟨_, left⟩ | ⟨a', key, nonce, before, asks, left⟩ |
      ⟨a', before, _, left⟩
    · rw [left] at store
      cases store
    · rw [left, Option.some.injEq] at store
      subst store
      have apart := unasked e (List.mem_append_right _ List.mem_cons_self) key nonce asks
      exact new_markHello G (inv.newAsync before earlier) apart.1 apart.2
    · rw [left, Option.some.injEq] at store
      subst store
      exact inv.newAsync before earlier
  held := fun f mem accepted => inv.held_step step mem accepted
  heldAsync := fun store f mem accepted => inv.heldAsync_step step store mem accepted
  valid := by
    intro f mem accepted
    rcases List.mem_append.mp mem with old | new
    · exact inv.valid f old accepted
    · cases List.mem_singleton.mp new
      exact step.valid accepted
  origin := by
    intro f mem valid
    rcases List.mem_append.mp mem with old | new
    · rcases inv.origin f old valid with ⟨g, mem', origin⟩
      exact ⟨g, List.mem_append_left _ mem', origin⟩
    · cases List.mem_singleton.mp new
      by_cases first : ∀ f ∈ es, f.Valid responder → ¬ f.Repeats P.toRuntime e.toPresented
      · have accepted := (inv.accepts step answers (clean valid) valid first).1
        exact ⟨e, List.mem_append_right _ List.mem_cons_self, accepted, valid.repeats_self⟩
      · push Not at first
        rcases first with ⟨f, mem, valid', repeats⟩
        rcases inv.origin f mem valid' with ⟨g, mem', accepted, origin⟩
        exact ⟨g, List.mem_append_left _ mem', accepted, origin.trans repeats⟩
  named := by
    intro f mem valid
    rcases List.mem_append.mp mem with old | new
    · exact inv.named f old valid
    · cases List.mem_singleton.mp new
      exact (clean valid).nonce
  same := by
    intro f mem
    rcases List.mem_append.mp mem with old | new
    · exact inv.same f old
    · cases List.mem_singleton.mp new
      exact inv.agree step answers clean

theorem Alike.step (alike : Alike responder es) (inv : @Inv P responder S T F G stored es s)
    (step : Step responder s e t) (answers : Answers responder s e.toPresented)
    (clean : e.Valid responder → Clean responder stored es e.toPresented) :
    Alike responder (es ++ [e]) where
  same := (inv.step step answers clean).same
  once := by
    refine List.pairwise_append.mpr ⟨alike.once, List.pairwise_singleton _ _, ?_⟩
    rintro f mem g new ⟨accepted, again, repeats⟩
    cases List.mem_singleton.mp new
    rw [inv.same f mem] at accepted
    rw [inv.agree step answers clean, inv.refuses step mem accepted repeats] at again
    cases again
  genuine := by
    intro before f rest split valid first
    rcases List.eq_nil_or_concat rest with rfl | ⟨init, last, rfl⟩
    · rcases List.append_inj' split rfl with ⟨rfl, same⟩
      cases same
      exact (inv.accepts step answers (clean valid) valid first).2
    · rw [List.concat_eq_append, ← List.cons_append, ← List.append_assoc] at split
      rcases List.append_inj' split rfl with ⟨rfl, _⟩
      exact alike.genuine rfl valid first

/-- In a run of clean HELLOs over unused stores that answer, the two responders accept the same
HELLOs, none of them twice, and no HELLO makes a genuine one be rejected. -/
theorem accept_alike (F : S.FirstUse) (G : T.FirstUse) {s₀ : Stores S T}
    (run : Run (fun s e t => Step responder s e t ∧ Answers responder s e.toPresented) s₀ es s)
    (unused : ∀ key, F.New s₀.store key)
    (unusedAsync : ∀ a, s₀.asyncStore = some a → ∀ name, G.New a name)
    (clean : ∀ before e rest, es = before ++ e :: rest → e.Valid responder →
      Clean responder s₀.asyncStore.isSome before e.toPresented) :
    Alike responder es := by
  suffices both : @Inv P responder S T F G s₀.asyncStore.isSome es s ∧ Alike responder es
    from both.2
  induction run with
  | nil =>
      refine ⟨⟨rfl, fun _ => unused _, fun store _ => unusedAsync _ store _, nofun, nofun, nofun,
        nofun, nofun, nofun⟩, nofun, List.Pairwise.nil, ?_⟩
      intro before e rest split
      exact absurd split (by simp)
  | @snoc _ _ _ f _ last ih =>
      have here := clean _ _ [] rfl
      rcases ih fun before e rest split => clean before e (rest ++ [f]) (by rw [split]; simp) with
        ⟨inv, alike⟩
      exact ⟨inv.step last.1 last.2 here, alike.step inv last.1 last.2 here⟩

/-! ## Alice calls Bob -/

variable (responder)

/-- What presenting a HELLO to the responders does. -/
def Stores.present (s : Stores S T) (x : Presented) : Event × Stores S T :=
  let (result, store) := GuardedHandshake.respond P S (.ok ()) s.store responder (.dict x.hello)
    x.card x.config x.now x.after x.coins
  let (resultAsync, asyncStore) := AsyncGuardedHandshake.respond P T (.ok ()) s.asyncStore responder
    (.dict x.hello) x.card x.config x.asked x.now x.after x.coins
  (⟨x, succeeded result, succeeded resultAsync⟩, ⟨store, asyncStore, x.after⟩)

theorem Stores.present_step (s : Stores S T) (x : Presented) (later : s.clock ≤ x.asked) :
    Step responder s (s.present responder x).1 (s.present responder x).2 :=
  ⟨later, rfl, rfl, rfl, rfl, rfl⟩

open Network in
/-- A genuine HELLO from Alice to Bob, at the instant 0. -/
theorem exists_sampleHello : ∃ x : Presented, x.asked = 0 ∧ x.after = 0 ∧
    nonceOf x.hello = .str sampleUuid.str ∧
    x.hello.get? "session_id" = some (.str sampleUuid.str) ∧
    succeeded (GuardedHandshake.respond .transparent MemoryNonceStore.seenStore (.ok ())
      MemoryNonceStore.empty (sampleParties true) (.dict x.hello) x.card x.config x.now x.after
      x.coins).1 = true := by
  have hi : (sampleParties false).entityId.Bindable := ⟨_, Str.encode_ofString "alice", by decide⟩
  have hr : (sampleParties true).entityId.Bindable := ⟨_, Str.encode_ofString "bob", by decide⟩
  have short : Str.printable ⌊(0 : ℚ)⌋ := by decide
  have timely : Timely 0 0 := by norm_num [Timely, MAX_AGE]
  rcases exists_initiate (ρ := Unit) Platform.transparent_exchange Platform.transparent_signature
    hi hr short none sampleUuid sampleCoins with ⟨hs, exchange, b, _, initiated⟩
  rcases initiated.made with ⟨hello, _, made⟩
  have unused : MemoryNonceStore.nonceStore.markUsed MemoryNonceStore.empty
      (("hello:" : Str) ++ sampleUuid.str) NONCE_TTL 0 = (.ok true, _) := rfl
  rcases exists_respond Platform.transparent_exchange Platform.transparent_signature hi hr made
    timely short unused none sampleCoins with ⟨ack, session, answered⟩
  have fast : (0 : ℚ) ≤ 0 + CALL_SECONDS := by norm_num [CALL_SECONDS]
  refine ⟨⟨hello, (sampleParties false).publicCard, none, sampleCoins, 0, 0, 0, le_rfl, le_rfl,
    fast⟩, rfl, rfl, ?_, made.sessionId_eq, ?_⟩
  · rcases made.signed with ⟨sigs, _, _, rfl⟩
    simp [nonceOf, helloDict, Val.truthy]
  · refine succeeded_eq_true.mpr ⟨(ack, session), ?_⟩
    exact congrArg Prod.fst answered

/-- In-process stores before any HELLO; the asynchronous responder may have none. -/
def sampleStores (stored : Bool) : Stores MemoryNonceStore.seenStore MemoryNonceStore.seenStore :=
  ⟨MemoryNonceStore.empty, if stored then some MemoryNonceStore.empty else none, 0⟩

open Network in
/-- The genuine HELLO is accepted by both. -/
theorem sample_alike :
    ∃ e s, Run (Step (P := .transparent) (sampleParties true)) (sampleStores true) [e] s ∧
      e.Valid (sampleParties true) ∧ Alike (sampleParties true) [e] := by
  rcases exists_sampleHello with ⟨x, asked, _, named, found, accepted⟩
  have valid := valid_of_accepted accepted
  have step := (sampleStores true).present_step (sampleParties true) x asked.ge
  have answers : Answers (sampleParties true) (sampleStores true) x := by
    refine ⟨fun _ => ⟨true, rfl⟩, fun {a key nonce} store _ => ?_⟩
    cases Option.some.inj store
    refine ⟨⟨true, rfl⟩, ⟨_, rfl⟩, MemoryNonceStore.markUsed_answers ?_⟩
    have few : ((MemoryNonceStore.empty.markUsed key NONCE_TTL x.asked).2.isSeen nonce
        x.asked).2.entries.length ≤ 1 :=
      MemoryNonceStore.length_isSeen_le.trans MemoryNonceStore.length_markUsed_le
    exact few.trans_lt (by norm_num [MemoryNonceStore.MAX_NONCE_STORE_SIZE])
  have clean : Clean (sampleParties true) true [] x := by
    refine ⟨⟨_, named⟩, fun {key version n} checked named' => .inr ⟨?_, nofun, nofun⟩⟩
    rcases valid.facts with ⟨sid, _, _, found', checked', _, _⟩
    rw [found] at found'
    cases found'
    rw [named] at named'
    cases named'
    rw [← (checked.unique checked').1]
    intro same
    have length := congrArg List.length same
    rw [List.length_append] at length
    simp [Str.ofString] at length
  refine ⟨_, _, .single step, valid, accept_alike MemoryNonceStore.firstUse
    MemoryNonceStore.firstUse (.single ⟨step, answers⟩) (fun _ => rfl) ?_ ?_⟩
  · intro a store name
    cases Option.some.inj store
    rfl
  · intro before e rest split _
    rcases List.append_eq_singleton_iff.mp split.symm with ⟨rfl, same⟩ | ⟨_, absent⟩
    · cases same
      exact clean
    · cases absent

open Network in
/-- Without a store the asynchronous responder accepts the HELLO again and again. -/
theorem repeated_without_store : ¬ ∀ (es : List Event)
    (s : Stores MemoryNonceStore.seenStore MemoryNonceStore.seenStore),
    Run (Step (P := .transparent) (sampleParties true)) (sampleStores false) es s →
      ∀ e ∈ es, e.acceptedAsync = e.accepted := by
  intro always
  rcases exists_sampleHello with ⟨x, asked, after, named, _, accepted⟩
  have valid := valid_of_accepted accepted
  rcases valid.facts with ⟨sid, version, _, _, checked, _, asks⟩
  have marked := ((respond_accepts (S := MemoryNonceStore.seenStore) checked
    MemoryNonceStore.empty).mp accepted).2
  obtain ⟨e₁, s₁, step₁, rfl⟩ : ∃ e s, Step (sampleParties true) (sampleStores false) e s ∧
      e.toPresented = x :=
    ⟨_, _, (sampleStores false).present_step _ x asked.ge, rfl⟩
  have later : s₁.clock ≤ e₁.asked := by rw [step₁.clock, after, asked]
  obtain ⟨e₂, s₂, step₂, same⟩ : ∃ e s, Step (sampleParties true) s₁ e s ∧
      e.toPresented = e₁.toPresented :=
    ⟨_, _, s₁.present_step _ e₁.toPresented later, rfl⟩
  have agree := always _ _ (.cons step₁ (.single step₂)) e₂
    (List.mem_cons_of_mem _ List.mem_cons_self)
  have unstored : s₁.asyncStore = none := step₁.asyncStore.symm.trans respondAsync_unstored
  have again : e₂.acceptedAsync = true := by
    rw [← step₂.acceptsAsync, unstored, same]
    exact respondAsync_none.mpr ⟨⟨_, (asks named).format⟩, valid⟩
  rw [again] at agree
  have taken := step₂.accepts.trans agree.symm
  rw [same] at taken
  have markedAgain := ((respond_accepts checked s₁.store).mp taken).2
  rw [← step₁.store, respond_store checked] at markedAgain
  have guards := Ttl.Guards.of_mark MemoryNonceStore.nonceStore.laws marked
  have expired := guards.expired le_rfl markedAgain
  norm_num [NONCE_TTL] at expired

end GuardedHandshakes

end Uxsp
