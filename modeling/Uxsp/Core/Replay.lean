import Uxsp.Core.Identity
import Uxsp.Core.Nonce
import Uxsp.Crypto.Seal
import Uxsp.Crypto.Transparent
import Uxsp.Lib.Run

/-!
# `uxsp.core.replay`

`ReplayGuard` admits an envelope once: its timestamp must be fresh and its nonce new.  A call reads
the clock at the freshness check, at the look into the store, in `verify_envelope` and when the
nonce is marked, in this order.

`ReplayGuard.committed_once` says when a run of calls commits an envelope at most once: the store
forgets a nonce `window + clock_skew` seconds after it was marked, which is late enough for every
instant at which the envelope is fresh but the last one.
-/

namespace Uxsp

structure ReplayGuard where
  window : ℤ
  clockSkew : ℤ
  window_pos : 0 < window
  skew_nonneg : 0 ≤ clockSkew
  skew_lt : clockSkew < window

namespace ReplayGuard

/-- The checks of the constructor. -/
def init (R : Runtime) (window clockSkew : ℤ) : Except PyErr ReplayGuard :=
  if positive : 0 < window then
    if nonneg : 0 ≤ clockSkew then
      if less : clockSkew < window then .ok ⟨window, clockSkew, positive, nonneg, less⟩
      else .error (R.err .valueError ["clock_skew (", .int clockSkew,
        "s) must be less than window_seconds (", .int window, "s). ",
        "Otherwise future envelopes could exceed the window."])
    else .error (R.err .valueError
      ["clock_skew must be a non-negative integer, got ", .int clockSkew])
  else .error (R.err .valueError ["window_seconds must be a positive integer, got ", .int window])

/-- The constructor accepts exactly the parameters of the guards. -/
theorem init_eq_ok {R : Runtime} {window clockSkew : ℤ} {g : ReplayGuard} :
    init R window clockSkew = .ok g ↔ g.window = window ∧ g.clockSkew = clockSkew := by
  rcases g with ⟨w, c, positive, nonneg, less⟩
  unfold init
  constructor
  · intro accepted
    split at accepted
    · split at accepted
      · split at accepted
        · cases accepted
          exact ⟨rfl, rfl⟩
        · cases accepted
      · cases accepted
    · cases accepted
  · rintro ⟨rfl, rfl⟩
    rw [dif_pos positive, dif_pos nonneg, dif_pos less]

/-- `ReplayGuard(store)`. -/
def default : ReplayGuard := ⟨300, 30, by norm_num, by norm_num, by norm_num⟩

/-- How long the store is asked to remember a nonce. -/
def ttl (g : ReplayGuard) : ℚ := g.window + g.clockSkew

/-- An envelope with its timestamp converted and its nonce checked. -/
structure Normalised where
  envelope : Dict
  timestamp : ℤ
  envelopeNonce : Str

/-- The dict `_normalise` returns. -/
def Normalised.dict (n : Normalised) : Dict :=
  (n.envelope.set "timestamp" (.int n.timestamp)).set "envelope_nonce" (.str n.envelopeNonce)

/-- A nonce the guard accepts. -/
def guardNonce (envelope : Dict) : Except PyErr Str :=
  match envelope.get? "envelope_nonce" with
  | some (.str (c :: s)) => .ok (c :: s)
  | _ => .error ⟨.valueError, ["Envelope nonce must be a non-empty string."]⟩

def normalise (R : Runtime) : Val → Except PyErr Normalised
  | .dict envelope => do
      requireFields envelope ["timestamp", "envelope_nonce"] fun field => ⟨.valueError,
        ["Envelope missing required field: '", field, "'. Was this envelope created with UXSP?"]⟩
      let ts ← intTimestamp R envelope (R.err .valueError
        ["Envelope timestamp must be a Unix integer, got ",
          .repr ((Dict.get? envelope "timestamp").getD .none), "."])
      let nonce ← guardNonce envelope
      return ⟨envelope, ts, nonce⟩
  | _ => .error ⟨.valueError, ["Envelope must be a dictionary or Envelope instance."]⟩

variable (g : ReplayGuard)

def checkFreshnessNormalised (R : Runtime) (n : Normalised) (now : ℚ) : Except PyErr Unit := do
  let age := now - n.timestamp
  ensure (age ≤ g.window) (R.err .staleEnvelopeError ["Envelope is ", .rounded age,
    "s old. Maximum: ", .int g.window, "s. Possible replay of a captured envelope."])
  ensure (n.timestamp ≤ now + g.clockSkew) (R.err .futureEnvelopeError
    ["Envelope is ", .rounded (n.timestamp - now), "s in the future. Allowed skew: ",
      .int g.clockSkew, "s."])

/-- `_normalise` and the freshness check. -/
def fresh (R : Runtime) (envelope : Val) (now : ℚ) : Except PyErr Normalised := do
  let n ← normalise R envelope
  g.checkFreshnessNormalised R n now
  return n

variable (S : SeenStore)

/-- `if store.is_seen(nonce): raise`. -/
def refuseSeen (s : S.State) (nonce : Str) (now : ℚ) (duplicate : PyErr) :
    Except PyErr Unit × S.State :=
  match S.isSeen s nonce now with
  | (.error e, s) => (.error e, s)
  | (.ok true, s) => (.error duplicate, s)
  | (.ok false, s) => (.ok (), s)

/-- `if not store.mark_used(nonce, ttl): raise`. -/
def markFirst (s : S.State) (nonce : Str) (now : ℚ) (duplicate : PyErr) :
    Except PyErr Unit × S.State :=
  match S.markUsed s nonce g.ttl now with
  | (.error e, s) => (.error e, s)
  | (.ok false, s) => (.error duplicate, s)
  | (.ok true, s) => (.ok (), s)

def duplicateError : PyErr :=
  ⟨.duplicateNonceError, ["Envelope nonce already used. Replay rejected."]⟩

/-- The pre-flight check: freshness, and a look into the store. -/
def precheck (R : Runtime) (s : S.State) (envelope : Val) (fresh seen : ℚ) :
    Except PyErr Unit × S.State :=
  match g.fresh R envelope fresh with
  | .error e => (.error e, s)
  | .ok n => refuseSeen S s n.envelopeNonce seen duplicateError

/-- Mark the envelope nonce as used.  `check_and_commit` is this. -/
def commit (R : Runtime) (s : S.State) (envelope : Val) (fresh mark : ℚ) :
    Except PyErr Unit × S.State :=
  match g.fresh R envelope fresh with
  | .error e => (.error e, s)
  | .ok n => g.markFirst S s n.envelopeNonce mark duplicateError

/-- `f"Nonce '{nonce[:8]}...' already used."` -/
def duplicateNonceError (nonce : Str) : PyErr := ⟨.duplicateNonceError,
  ["Nonce '", .str (nonce.take 8), "...' already used. Replay rejected."]⟩

/-- The checks of `check_and_open` before the store is asked. -/
def openCheck (R : Runtime) (envelope : Val) (senderCard : PublicCard) (now : ℚ) :
    Except PyErr Normalised := do
  let n ← normalise R envelope
  ensure (Val.eqStr (n.dict.get? "sender_id") senderCard.entityId)
    ⟨.valueError, ["Envelope sender_id does not match sender card."]⟩
  g.checkFreshnessNormalised R n now
  return n

/-- Check for replay, verify and decrypt in one call. -/
def checkAndOpen (P : Platform) (s : S.State) (envelope : Val) (recipient : Identity P)
    (senderCard : PublicCard) (fresh seen verify mark : ℚ) : Except PyErr Bytes × S.State :=
  match g.openCheck P.toRuntime envelope senderCard fresh with
  | .error e => (.error e, s)
  | .ok n =>
      match refuseSeen S s n.envelopeNonce seen (duplicateNonceError n.envelopeNonce) with
      | (.error e, s) => (.error e, s)
      | (.ok (), s) =>
          match verifyEnvelope P n.dict senderCard.publicKeys recipient.entityId
            senderCard.entityId g.window g.clockSkew verify with
          | .error e => (.error e, s)
          | .ok verified =>
              match g.markFirst S s n.envelopeNonce mark (duplicateNonceError n.envelopeNonce) with
              | (.error e, s) => (.error e, s)
              | (.ok (), s) => (decryptVerifiedEnvelope P verified recipient.keypair [], s)

/-! ## What a call has done -/

variable {g S} {R : Runtime} {P : Platform} {s : S.State} {envelope : Val} {nonce : Str}
  {now freshAt seenAt verifyAt markAt : ℚ} {duplicate : PyErr} {n : Normalised}

theorem checkFreshnessNormalised_eq_ok {u : Unit} :
    g.checkFreshnessNormalised R n now = .ok u ↔
      now - n.timestamp ≤ g.window ∧ n.timestamp ≤ now + g.clockSkew := by
  simp only [checkFreshnessNormalised, bind_eq_ok, ensure_eq_ok, decide_eq_true_eq]
  constructor
  · rintro ⟨_, notStale, notFuture⟩
    exact ⟨notStale, notFuture⟩
  · rintro ⟨notStale, notFuture⟩
    exact ⟨(), notStale, notFuture⟩

theorem fresh_eq_ok : g.fresh R envelope now = .ok n ↔ normalise R envelope = .ok n ∧
    now - n.timestamp ≤ g.window ∧ n.timestamp ≤ now + g.clockSkew := by
  simp only [fresh, bind_eq_ok, checkFreshnessNormalised_eq_ok, pure_eq_ok]
  constructor
  · rintro ⟨n, normal, _, checked, rfl⟩
    exact ⟨normal, checked⟩
  · rintro ⟨normal, checked⟩
    exact ⟨n, normal, (), checked, rfl⟩

theorem refuseSeen_tends : S.tend s now (refuseSeen S s nonce now duplicate).2 := by
  have tends := S.isSeen_tends s nonce now
  unfold refuseSeen
  generalize S.isSeen s nonce now = peeked at tends ⊢
  rcases peeked with ⟨_ | _ | _, s'⟩ <;> exact tends

theorem markFirst_state :
    (g.markFirst S s nonce now duplicate).2 = (S.markUsed s nonce g.ttl now).2 := by
  unfold markFirst
  rcases S.markUsed s nonce g.ttl now with ⟨_ | _ | _, s'⟩ <;> rfl

theorem markFirst_eq_ok {u : Unit} : (g.markFirst S s nonce now duplicate).1 = .ok u ↔
    (S.markUsed s nonce g.ttl now).1 = .ok true := by
  unfold markFirst
  rcases S.markUsed s nonce g.ttl now with ⟨_ | _ | _, s'⟩
  · exact ⟨nofun, nofun⟩
  · exact ⟨nofun, nofun⟩
  · exact ⟨fun _ => rfl, fun _ => rfl⟩

theorem openCheck_facts {card : PublicCard}
    (checked : g.openCheck R envelope card now = .ok n) : normalise R envelope = .ok n ∧
      now - n.timestamp ≤ g.window ∧ n.timestamp ≤ now + g.clockSkew := by
  simp only [openCheck, bind_eq_ok, ensure_eq_ok, checkFreshnessNormalised_eq_ok,
    pure_eq_ok] at checked
  rcases checked with ⟨n, normal, _, _, _, checked, rfl⟩
  exact ⟨normal, checked⟩

/-- What a call that returned has checked and marked: the envelope was fresh and its nonce new. -/
structure Committed (g : ReplayGuard) (R : Runtime) (S : SeenStore) (envelope : Val)
    (freshAt markAt : ℚ) (before after : S.State) (n : Normalised) : Prop where
  normal : normalise R envelope = .ok n
  notStale : freshAt - n.timestamp ≤ g.window
  notFuture : n.timestamp ≤ freshAt + g.clockSkew
  marked : (S.markUsed before n.envelopeNonce g.ttl markAt).1 = .ok true
  state : after = (S.markUsed before n.envelopeNonce g.ttl markAt).2

theorem commit_facts {u : Unit} (committed : (g.commit S R s envelope freshAt markAt).1 = .ok u) :
    ∃ n, Committed g R S envelope freshAt markAt s
      (g.commit S R s envelope freshAt markAt).2 n := by
  unfold commit at committed ⊢
  cases checked : g.fresh R envelope freshAt with
  | error e => rw [checked] at committed; cases committed
  | ok n =>
      rw [checked] at committed
      rcases fresh_eq_ok.mp checked with ⟨normal, notStale, notFuture⟩
      exact ⟨n, normal, notStale, notFuture, markFirst_eq_ok.mp committed, markFirst_state⟩

theorem checkAndOpen_facts {recipient : Identity P} {card : PublicCard} {plaintext : Bytes}
    (opened : (g.checkAndOpen S P s envelope recipient card freshAt seenAt verifyAt markAt).1 =
      .ok plaintext) :
    ∃ n, Committed g P.toRuntime S envelope freshAt markAt
      (refuseSeen S s n.envelopeNonce seenAt (duplicateNonceError n.envelopeNonce)).2
      (g.checkAndOpen S P s envelope recipient card freshAt seenAt verifyAt markAt).2 n := by
  unfold checkAndOpen at opened ⊢
  cases checked : g.openCheck P.toRuntime envelope card freshAt with
  | error e => rw [checked] at opened; cases opened
  | ok n =>
      rw [checked] at opened
      rcases openCheck_facts checked with ⟨normal, notStale, notFuture⟩
      refine ⟨n, ?_⟩
      simp only at opened ⊢
      generalize refuseSeen S s n.envelopeNonce seenAt (duplicateNonceError n.envelopeNonce) =
        peeked at opened ⊢
      rcases peeked with ⟨_ | _, s'⟩
      · cases opened
      · simp only at opened ⊢
        cases verified : verifyEnvelope P n.dict card.publicKeys recipient.entityId card.entityId
          g.window g.clockSkew verifyAt with
        | error e => rw [verified] at opened; cases opened
        | ok ctx =>
            rw [verified] at opened
            simp only at opened ⊢
            cases marked : g.markFirst S s' n.envelopeNonce markAt
              (duplicateNonceError n.envelopeNonce) with
            | mk result s'' =>
                rw [marked] at opened
                cases result with
                | error e => cases opened
                | ok u =>
                    have first : (g.markFirst S s' n.envelopeNonce markAt
                        (duplicateNonceError n.envelopeNonce)).1 = .ok u :=
                      congrArg Prod.fst marked
                    have left := congrArg Prod.snd marked
                    rw [markFirst_state] at left
                    exact ⟨normal, notStale, notFuture, markFirst_eq_ok.mp first, left.symm⟩

/-! ## The store keeps what is marked -/

variable {clock expiry : ℚ} {held : Str}

theorem guards_refuseSeen (guards : Ttl.Guards S.laws s clock held expiry) (le : clock ≤ now) :
    Ttl.Guards S.laws (refuseSeen S s nonce now duplicate).2 now held expiry :=
  guards.tended le refuseSeen_tends

theorem guards_markFirst (guards : Ttl.Guards S.laws s clock held expiry) (le : clock ≤ now) :
    Ttl.Guards S.laws (g.markFirst S s nonce now duplicate).2 now held expiry := by
  rw [markFirst_state]
  exact guards.kept le

theorem guards_precheck (guards : Ttl.Guards S.laws s clock held expiry) (le : clock ≤ seenAt) :
    Ttl.Guards S.laws (g.precheck S R s envelope freshAt seenAt).2 seenAt held expiry := by
  unfold precheck
  split
  · exact guards.later le
  · exact guards_refuseSeen guards le

theorem guards_commit (guards : Ttl.Guards S.laws s clock held expiry) (le : clock ≤ markAt) :
    Ttl.Guards S.laws (g.commit S R s envelope freshAt markAt).2 markAt held expiry := by
  unfold commit
  split
  · exact guards.later le
  · exact guards_markFirst guards le

theorem guards_checkAndOpen {recipient : Identity P} {card : PublicCard}
    (guards : Ttl.Guards S.laws s clock held expiry) (le : clock ≤ seenAt)
    (le' : seenAt ≤ markAt) :
    Ttl.Guards S.laws
      (g.checkAndOpen S P s envelope recipient card freshAt seenAt verifyAt markAt).2
      markAt held expiry := by
  unfold checkAndOpen
  split
  · exact guards.later (le.trans le')
  · rename_i n _
    have peeked : Ttl.Guards S.laws (refuseSeen S s n.envelopeNonce seenAt
        (duplicateNonceError n.envelopeNonce)).2 seenAt held expiry :=
      guards_refuseSeen guards le
    generalize refuseSeen S s n.envelopeNonce seenAt (duplicateNonceError n.envelopeNonce) =
      looked at peeked ⊢
    rcases looked with ⟨_ | _, s'⟩
    · exact peeked.later le'
    · simp only at peeked ⊢
      split
      · exact peeked.later le'
      · have marked : Ttl.Guards S.laws (g.markFirst S s' n.envelopeNonce markAt
            (duplicateNonceError n.envelopeNonce)).2 markAt held expiry :=
          guards_markFirst peeked le'
        generalize g.markFirst S s' n.envelopeNonce markAt
          (duplicateNonceError n.envelopeNonce) = result at marked ⊢
        rcases result with ⟨_ | _, s''⟩ <;> exact marked

/-! ## Runs of calls -/

/-- The clock readings of a call, in the order they are taken. -/
structure Readings where
  fresh : ℚ
  seen : ℚ
  verify : ℚ
  mark : ℚ
  fresh_le : fresh ≤ seen
  seen_le : seen ≤ verify
  verify_le : verify ≤ mark

/-- A call that takes no time. -/
def Readings.instant (now : ℚ) : Readings := ⟨now, now, now, now, le_rfl, le_rfl, le_rfl⟩

theorem Readings.seen_le_mark (t : Readings) : t.seen ≤ t.mark := t.seen_le.trans t.verify_le

theorem Readings.fresh_le_mark (t : Readings) : t.fresh ≤ t.mark := t.fresh_le.trans t.seen_le_mark

/-- A call on the guard, or on the store under it. -/
inductive Call (P : Platform)
  | precheck (envelope : Val)
  | commit (envelope : Val)
  | checkAndOpen (envelope : Val) (recipient : Identity P) (senderCard : PublicCard)
  | isSeen (nonce : Str)
  | markUsed (nonce : Str) (ttlSeconds : ℚ)
  | cleanup

/-- Whether the call returned, and the store it left. -/
def perform (g : ReplayGuard) (m : MemoryNonceStore) (t : Readings) :
    Call P → Bool × MemoryNonceStore
  | .precheck envelope =>
      let (result, m) := g.precheck MemoryNonceStore.seenStore P.toRuntime m envelope t.fresh t.seen
      (succeeded result, m)
  | .commit envelope =>
      let (result, m) := g.commit MemoryNonceStore.seenStore P.toRuntime m envelope t.fresh t.mark
      (succeeded result, m)
  | .checkAndOpen envelope recipient senderCard =>
      let (result, m) := g.checkAndOpen MemoryNonceStore.seenStore P m envelope recipient
        senderCard t.fresh t.seen t.verify t.mark
      (succeeded result, m)
  | .isSeen nonce => (true, (m.isSeen nonce t.seen).2)
  | .markUsed nonce ttlSeconds =>
      let (result, m) := m.markUsed nonce ttlSeconds t.mark
      (succeeded result, m)
  | .cleanup => (true, m.cleanup t.mark)

/-- A call as it happened. -/
structure Event (P : Platform) where
  call : Call P
  readings : Readings
  returned : Bool

/-- The store and the last reading of the clock. -/
structure Watch where
  store : MemoryNonceStore
  clock : ℚ

structure Step (g : ReplayGuard) (s : Watch) (e : Event P) (t : Watch) : Prop where
  later : s.clock ≤ e.readings.fresh
  performed : g.perform s.store e.readings e.call = (e.returned, t.store)
  clock : t.clock = e.readings.mark

/-- The envelope has this timestamp and nonce. -/
def Names (R : Runtime) (ts : ℤ) (nonce : Str) (envelope : Val) : Prop :=
  ∃ n, normalise R envelope = .ok n ∧ n.timestamp = ts ∧ n.envelopeNonce = nonce

/-- The call is a commit or a check-and-open of an envelope with this timestamp and nonce. -/
def Call.Presents (ts : ℤ) (nonce : Str) : Call P → Prop
  | .commit envelope | .checkAndOpen envelope _ _ => Names P.toRuntime ts nonce envelope
  | _ => False

/-- The call committed an envelope with this timestamp and nonce. -/
def Event.Commits (ts : ℤ) (nonce : Str) (e : Event P) : Prop :=
  e.call.Presents ts nonce ∧ e.returned = true

/-- The later call presents the envelope again, still fresh, with its nonce to be marked at a time
when the mark of the earlier call has run out. -/
def Outlived (g : ReplayGuard) (ts : ℤ) (nonce : Str) (e f : Event P) : Prop :=
  e.Commits ts nonce ∧ f.call.Presents ts nonce ∧ f.readings.fresh ≤ ts + g.window ∧
    e.readings.mark + g.ttl ≤ f.readings.mark

/-! ## At most once -/

abbrev memoryLaws : Ttl.Laws MemoryNonceStore.markUsed MemoryNonceStore.nonceStore.tend :=
  MemoryNonceStore.nonceStore.laws

variable {m : MemoryNonceStore} {t : Readings} {call : Call P} {ts : ℤ}

/-- No call loses a mark before its time. -/
theorem guards_perform (guards : Ttl.Guards memoryLaws m clock held expiry)
    (le : clock ≤ t.fresh) :
    Ttl.Guards memoryLaws (g.perform m t call).2 t.mark held expiry := by
  cases call with
  | precheck envelope =>
      exact (guards_precheck (S := MemoryNonceStore.seenStore) guards
        (le.trans t.fresh_le)).later t.seen_le_mark
  | commit envelope =>
      exact guards_commit (S := MemoryNonceStore.seenStore) guards (le.trans t.fresh_le_mark)
  | checkAndOpen envelope recipient senderCard =>
      exact guards_checkAndOpen (S := MemoryNonceStore.seenStore) guards (le.trans t.fresh_le)
        t.seen_le_mark
  | isSeen other =>
      have kept := guards.tended (le.trans t.fresh_le) (.inr ⟨other, rfl⟩)
      exact kept.later t.seen_le_mark
  | markUsed other ttlSeconds => exact guards.kept (le.trans t.fresh_le_mark)
  | cleanup => exact guards.tended (le.trans t.fresh_le_mark) (.inl rfl)

/-- A call that commits marks the nonce in a store that has lost no mark before its time. -/
theorem perform_commits (presents : call.Presents ts nonce)
    (returned : (g.perform m t call).1 = true) :
    ∃ before, (MemoryNonceStore.markUsed before nonce g.ttl t.mark).1 = .ok true ∧
      (g.perform m t call).2 = (MemoryNonceStore.markUsed before nonce g.ttl t.mark).2 ∧
      t.fresh ≤ ts + g.window ∧ ts ≤ t.fresh + g.clockSkew ∧
      ∀ {clock expiry : ℚ} {held : Str}, Ttl.Guards memoryLaws m clock held expiry →
        clock ≤ t.seen → Ttl.Guards memoryLaws before t.seen held expiry := by
  cases call with
  | precheck envelope => exact presents.elim
  | isSeen other => exact presents.elim
  | markUsed other ttlSeconds => exact presents.elim
  | cleanup => exact presents.elim
  | commit envelope =>
      rcases presents with ⟨n, normal, rfl, rfl⟩
      rcases succeeded_eq_true.mp returned with ⟨u, committed⟩
      rcases commit_facts committed with ⟨n', facts⟩
      cases Except.ok.inj (normal.symm.trans facts.normal)
      exact ⟨m, facts.marked, facts.state, by linarith [facts.notStale], facts.notFuture,
        fun guards le => guards.later le⟩
  | checkAndOpen envelope recipient senderCard =>
      rcases presents with ⟨n, normal, rfl, rfl⟩
      rcases succeeded_eq_true.mp returned with ⟨plaintext, opened⟩
      rcases checkAndOpen_facts opened with ⟨n', facts⟩
      cases Except.ok.inj (normal.symm.trans facts.normal)
      exact ⟨_, facts.marked, facts.state, by linarith [facts.notStale], facts.notFuture,
        fun guards le => guards_refuseSeen (S := MemoryNonceStore.seenStore) guards le⟩

/-- The envelope was committed once at most, and every commit is still remembered. -/
structure Remembered (g : ReplayGuard) (ts : ℤ) (nonce : Str) (es : List (Event P)) (s : Watch) :
    Prop where
  once : es.Pairwise fun e f => ¬ (e.Commits ts nonce ∧ f.Commits ts nonce)
  guarded : ∀ e ∈ es, e.Commits ts nonce →
    Ttl.Guards memoryLaws s.store s.clock nonce (e.readings.mark + g.ttl)

theorem Remembered.step {es : List (Event P)} {s s' : Watch} {f : Event P}
    (remembered : Remembered g ts nonce es s) (step : g.Step s f s')
    (inTime : ∀ e ∈ es, ¬ Outlived g ts nonce e f) : Remembered g ts nonce (es ++ [f]) s' := by
  rcases step with ⟨later, performed, clock⟩
  have returned : (g.perform s.store f.readings f.call).1 = f.returned := congrArg _ performed
  have left : (g.perform s.store f.readings f.call).2 = s'.store := congrArg _ performed
  have kept : ∀ {held : Str} {expiry : ℚ}, Ttl.Guards memoryLaws s.store s.clock held expiry →
      Ttl.Guards memoryLaws s'.store s'.clock held expiry := by
    intro held expiry guards
    rw [← left, clock]
    exact guards_perform guards later
  by_cases commits : f.Commits ts nonce
  · rcases perform_commits commits.1 (returned.trans commits.2) with
      ⟨before, marked, after, notStale, _, carried⟩
    -- an earlier commit would still be remembered when this one marks the nonce
    have first : ∀ e ∈ es, ¬ e.Commits ts nonce := by
      intro e mem earlier
      have guards := carried (remembered.guarded e mem earlier) (later.trans f.readings.fresh_le)
      have expired := guards.expired f.readings.seen_le_mark marked
      exact inTime e mem ⟨earlier, commits.1, notStale, expired⟩
    refine ⟨List.pairwise_append.mpr ⟨remembered.once, List.pairwise_singleton _ _, ?_⟩, ?_⟩
    · intro e mem _ _ both
      exact first e mem both.1
    · intro e mem earlier
      rcases List.mem_append.mp mem with old | new
      · exact absurd earlier (first e old)
      · rw [List.mem_singleton.mp new, ← left, after, clock]
        exact Ttl.Guards.of_mark memoryLaws marked
  · refine ⟨List.pairwise_append.mpr ⟨remembered.once, List.pairwise_singleton _ _, ?_⟩, ?_⟩
    · intro e _ e' new both
      rw [List.mem_singleton.mp new] at both
      exact commits both.2
    · intro e mem earlier
      rcases List.mem_append.mp mem with old | new
      · exact kept (remembered.guarded e old earlier)
      · rw [List.mem_singleton.mp new] at earlier
        exact absurd earlier commits

/-- As long as no call outlives an earlier commit of the envelope, the envelope is committed at most
once. -/
theorem committed_once (g : ReplayGuard) (ts : ℤ) (nonce : Str) {es : List (Event P)}
    {s s' : Watch} (run : Run g.Step s es s')
    (inTime : es.Pairwise fun e f => ¬ Outlived g ts nonce e f) :
    es.Pairwise fun e f => ¬ (e.Commits ts nonce ∧ f.Commits ts nonce) := by
  suffices remembered : Remembered g ts nonce es s' from remembered.once
  induction run with
  | nil => exact ⟨List.Pairwise.nil, nofun⟩
  | snoc _ last ih =>
      rcases List.pairwise_append.mp inTime with ⟨before, _, apart⟩
      refine (ih before).step last fun e mem => ?_
      exact apart e mem _ (List.mem_singleton_self _)

/-! A guard with the default window, and an envelope of the instant 1000. -/

def sampleEnvelope : Val := .dict [("timestamp", .int 1000), ("envelope_nonce", .str "n")]

def sampleCommit : Call .transparent := .commit sampleEnvelope

/-- A call at an instant, on this store. -/
def sampleEvent (m : MemoryNonceStore) (now : ℚ) (call : Call .transparent) : Event .transparent :=
  ⟨call, .instant now, (default.perform m (.instant now) call).1⟩

theorem sampleEvent_step {m : MemoryNonceStore} {clock now : ℚ} (call : Call .transparent)
    (later : clock ≤ now) : default.Step ⟨m, clock⟩ (sampleEvent m now call)
      ⟨(default.perform m (.instant now) call).2, now⟩ :=
  ⟨later, rfl, rfl⟩

/-- The store after the envelope was committed at the first instant at which it is fresh. -/
def sampleMarked : MemoryNonceStore := (default.perform .empty (.instant 970) sampleCommit).2

/-- The store after a look at the last instant at which the envelope is fresh. -/
def samplePeeked : MemoryNonceStore :=
  (default.perform sampleMarked (.instant 1300) (.precheck (P := .transparent) sampleEnvelope)).2

theorem sampleCommit_presents : sampleCommit.Presents 1000 "n" := ⟨_, rfl, rfl, rfl⟩

theorem sampleCommit_once :
    [sampleEvent .empty 970 sampleCommit, sampleEvent sampleMarked 1299 sampleCommit].Pairwise
      fun e f => ¬ (e.Commits 1000 "n" ∧ f.Commits 1000 "n") := by
  have run : Run default.Step ⟨.empty, 0⟩
      [sampleEvent .empty 970 sampleCommit, sampleEvent sampleMarked 1299 sampleCommit] _ :=
    .cons (sampleEvent_step _ (by norm_num)) (.single (sampleEvent_step _ (by norm_num)))
  refine committed_once default 1000 "n" run (List.pairwise_pair.mpr fun outlived => ?_)
  have expired := outlived.2.2.2
  norm_num [sampleEvent, Readings.instant, ttl, default] at expired

/-- Committed at the first instant of freshness, looked up and committed at the last. -/
theorem edge_committed_twice :
    ¬ ∀ (g : ReplayGuard) (ts : ℤ) (nonce : Str) (es : List (Event .transparent)) (s : Watch),
      Run g.Step ⟨.empty, 0⟩ es s →
        es.Pairwise fun e f => ¬ (e.Commits ts nonce ∧ f.Commits ts nonce) := by
  intro always
  have run : Run default.Step ⟨.empty, 0⟩
      [sampleEvent .empty 970 sampleCommit,
        sampleEvent sampleMarked 1300 (.precheck sampleEnvelope),
        sampleEvent samplePeeked 1300 sampleCommit] _ :=
    .cons (sampleEvent_step _ (by norm_num)) (.cons (sampleEvent_step _ (by norm_num))
      (.single (sampleEvent_step _ (by norm_num))))
  have once := always default 1000 "n" _ _ run
  have first : (sampleEvent .empty 970 sampleCommit).returned = true := by decide +kernel
  have again : (sampleEvent samplePeeked 1300 sampleCommit).returned = true := by decide +kernel
  refine List.rel_of_pairwise_cons once ?_
    ⟨⟨sampleCommit_presents, first⟩, ⟨sampleCommit_presents, again⟩⟩
  exact List.mem_cons_of_mem _ List.mem_cons_self

/-- Among calls that take no time, only the last instant of freshness outlives a commit, and only
one made at the first. -/
theorem outlived_edge {e f : Event P} {c now : ℚ} (outlived : Outlived g ts nonce e f)
    (first : e.readings = .instant c) (later : f.readings = .instant now)
    (allowed : ts ≤ c + g.clockSkew) : c = ts - g.clockSkew ∧ now = ts + g.window := by
  rcases outlived with ⟨_, _, notStale, expired⟩
  rw [later] at notStale expired
  rw [first] at expired
  simp only [Readings.instant, ttl] at notStale expired
  exact ⟨by linarith, by linarith⟩

end ReplayGuard

end Uxsp
