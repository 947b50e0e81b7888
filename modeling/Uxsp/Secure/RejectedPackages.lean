import Uxsp.Aio.Agreement
import Uxsp.Lib.TwoRuns
import Uxsp.Secure.Delivery

/-!
# What a rejected package costs

A call marks the nonce of an envelope that it has verified, and opens the chunks after that.
`receive_unverified`, `receive_seen` and `receive_unseen` are the three things a call can do to the
store.  A rejected call is noticed later exactly if it was the first to bring the envelope of a call
of the sender, with a chunk list that does not open; a genuine package is delivered exactly if no
call before it has brought its nonce in a verified envelope.
-/

namespace Uxsp.Secure

open Aio (SameLive opened)

variable {P : Platform} {A B : Identity P} {g : ReplayGuard} {S : SeenStore} {s s' : S.State}
  {call : ReceiveCall} {package : SecurePackage} {env : Envelope} {ctx : VerifiedContext}

/-! ## What does not depend on the store -/

/-- The envelope of the package is fresh and signed for the recipient, at the readings of the
call. -/
structure ReceiveCall.Verifies (B : Identity P) (g : ReplayGuard) (call : ReceiveCall)
    (package : SecurePackage) (env : Envelope) (ctx : VerifiedContext) : Prop where
  resolved : call.resolved P.toRuntime B.entityId = .ok package
  found : packageEnvelope P.toRuntime package = .ok env
  checked : B.openChecks env.toDict call.sender.card (some g) call.readings.checked = .ok g
  fresh : g.fresh P.toRuntime (.dict env.toDict) call.readings.fresh =
    .ok ⟨env.toDict, env.timestamp, env.envelopeNonce⟩
  verified : verifyEnvelope P env.toDict call.sender.card.publicKeys B.entityId
    call.sender.card.entityId g.window g.clockSkew call.readings.verify = .ok ctx
  again : g.fresh P.toRuntime (.dict env.toDict) call.readings.again =
    .ok ⟨env.toDict, env.timestamp, env.envelopeNonce⟩

/-- The call brings a verified envelope with this nonce. -/
def ReceiveCall.Brings (B : Identity P) (g : ReplayGuard) (nonce : Str) (call : ReceiveCall) :
    Prop :=
  ∃ package env ctx, call.Verifies B g package env ctx ∧ env.envelopeNonce = nonce

theorem ReceiveCall.Verifies.unique {package' : SecurePackage} {env' : Envelope}
    {ctx' : VerifiedContext} (verifies : call.Verifies B g package env ctx)
    (verifies' : call.Verifies B g package' env' ctx') :
    package' = package ∧ env' = env ∧ ctx' = ctx := by
  obtain rfl := Except.ok.inj (verifies'.resolved.symm.trans verifies.resolved)
  obtain rfl := Except.ok.inj (verifies'.found.symm.trans verifies.found)
  exact ⟨rfl, rfl, Except.ok.inj (verifies'.verified.symm.trans verifies.verified)⟩

/-- The store does not fail during the call. -/
structure StoreAnswers (g : ReplayGuard) (S : SeenStore) (s : S.State) (t : Identity.OpenReadings) :
    Prop where
  seen : ∀ nonce, ∃ b, (S.isSeen s nonce t.seen).1 = .ok b
  marked : ∀ nonce, ∃ b, (S.markUsed (S.isSeen s nonce t.seen).2 nonce g.ttl t.mark).1 = .ok b

/-- A store that answers exactly and holds a nonce for one stretch of time; it takes a nonce that it
was asked about in vain before. -/
structure KeepsMarks (S : SeenStore) extends Ttl.ExactSeen S.markUsed S.isSeen where
  live_earlier : ∀ {s nonce t t'}, Live s nonce t → t' ≤ t → Live s nonce t'
  mark_later : ∀ {s nonce ttl now later b}, now ≤ later → (S.isSeen s nonce now).1 = .ok false →
    (S.markUsed (S.isSeen s nonce now).2 nonce ttl later).1 = .ok b → b = true

def memoryKeepsMarks : KeepsMarks MemoryNonceStore.seenStore where
  toExactSeen := MemoryNonceStore.exactSeen
  live_earlier := by
    rintro m nonce t t' ⟨expiry, holds, less⟩ le
    exact ⟨expiry, holds, le.trans_lt less⟩
  mark_later := fun _ unseen marked =>
    MemoryNonceStore.markUsed_new (MemoryNonceStore.has_of_unseen (Except.ok.inj unseen)) marked

/-! ## What a call does to the store -/

theorem checked_le_seen (t : Identity.OpenReadings) : t.checked ≤ t.seen :=
  t.checked_le.trans t.fresh_le

theorem seen_le_mark (t : Identity.OpenReadings) : t.seen ≤ t.mark :=
  t.seen_le.trans (t.verify_le.trans t.again_le)

variable {exact : Ttl.ExactSeen S.markUsed S.isSeen}

theorem openPackage_state {e : PyErr} {s' : S.State}
    (resolved : call.resolved P.toRuntime B.entityId = .ok package)
    (found : packageEnvelope P.toRuntime package = .ok env)
    (refused : B.openFrom S s env.toDict call.sender.card (some g) call.readings = (.error e, s')) :
    receivePayload B g S s call = (.error (receiveError e), s') := by
  simp only [receivePayload, resolved, openPackage, found, refused]

/-- A call that brings no verified envelope looks a nonce up at most. -/
theorem receive_unverified (exact : Ttl.ExactSeen S.markUsed S.isSeen)
    (unverified : ∀ package env ctx, ¬ call.Verifies B g package env ctx) :
    (receivePayload B g S s call).1.toOption = none ∧
      SameLive S exact call.readings.seen s (receivePayload B g S s call).2 := by
  have untouched : SameLive S exact call.readings.seen s s := fun _ _ _ => Iff.rfl
  cases resolved : call.resolved P.toRuntime B.entityId with
  | error e =>
      simp only [receivePayload, resolved]
      exact ⟨rfl, untouched⟩
  | ok package =>
      cases found : packageEnvelope P.toRuntime package with
      | error e =>
          simp only [receivePayload, resolved, openPackage, found]
          exact ⟨rfl, untouched⟩
      | ok env =>
          suffices refused : ∃ e s', B.openFrom S s env.toDict call.sender.card (some g)
              call.readings = (.error e, s') ∧ SameLive S exact call.readings.seen s s' by
            obtain ⟨e, s', refused, same⟩ := refused
            rw [openPackage_state resolved found refused]
            exact ⟨rfl, same⟩
          have looked : SameLive S exact call.readings.seen s
              (S.isSeen s env.envelopeNonce call.readings.seen).2 :=
            fun _ _ le => exact.seen_frame le
          simp only [Identity.openFrom]
          cases checked : B.openChecks env.toDict call.sender.card (some g)
              call.readings.checked with
          | error e => exact ⟨e, s, rfl, untouched⟩
          | ok guard =>
              obtain rfl := (openChecks_eq_ok.mp checked).2.2.2.2
              simp only [ReplayGuard.precheck]
              cases fresh : guard.fresh P.toRuntime (.dict env.toDict) call.readings.fresh with
              | error e => exact ⟨e, s, rfl, untouched⟩
              | ok n =>
                  obtain ⟨_, rfl⟩ :=
                    normalise_toDict_eq_ok.mp (ReplayGuard.fresh_eq_ok.mp fresh).1
                  simp only [ReplayGuard.refuseSeen]
                  generalize S.isSeen s env.envelopeNonce call.readings.seen = peeked at looked ⊢
                  obtain ⟨_ | _ | _, s₁⟩ := peeked
                  · exact ⟨_, s₁, rfl, looked⟩
                  · simp only [Identity.openGuarded]
                    cases verified : verifyEnvelope P env.toDict call.sender.card.publicKeys
                        B.entityId call.sender.card.entityId guard.window guard.clockSkew
                        call.readings.verify with
                    | error e => exact ⟨e, s₁, rfl, looked⟩
                    | ok ctx =>
                        simp only [ReplayGuard.commit]
                        cases again : guard.fresh P.toRuntime (.dict env.toDict)
                            call.readings.again with
                        | error e => exact ⟨e, s₁, rfl, looked⟩
                        | ok n =>
                            obtain ⟨_, rfl⟩ :=
                              normalise_toDict_eq_ok.mp (ReplayGuard.fresh_eq_ok.mp again).1
                            exact absurd ⟨resolved, found, checked, fresh, verified, again⟩
                              (unverified package env ctx)
                  · exact ⟨_, s₁, rfl, looked⟩

/-- A verified envelope whose nonce has been seen is refused. -/
theorem receive_seen (exact : Ttl.ExactSeen S.markUsed S.isSeen)
    (verifies : call.Verifies B g package env ctx)
    (seen : (S.isSeen s env.envelopeNonce call.readings.seen).1 = .ok true) :
    (receivePayload B g S s call).1.toOption = none ∧
      SameLive S exact call.readings.seen s (receivePayload B g S s call).2 := by
  have refused : B.openFrom S s env.toDict call.sender.card (some g) call.readings =
      (.error ReplayGuard.duplicateError,
        (S.isSeen s env.envelopeNonce call.readings.seen).2) := by
    simp only [Identity.openFrom, verifies.checked, ReplayGuard.precheck, verifies.fresh,
      ReplayGuard.refuseSeen]
    generalize S.isSeen s env.envelopeNonce call.readings.seen = looked at seen ⊢
    obtain ⟨_, s'⟩ := looked
    cases seen
    rfl
  rw [openPackage_state verifies.resolved verifies.found refused]
  exact ⟨rfl, fun _ _ le => exact.seen_frame le⟩

/-- A verified envelope whose nonce has not been seen is marked and opened. -/
theorem receive_unseen (verifies : call.Verifies B g package env ctx)
    (unseen : (S.isSeen s env.envelopeNonce call.readings.seen).1 = .ok false)
    (marked : (S.markUsed (S.isSeen s env.envelopeNonce call.readings.seen).2 env.envelopeNonce
      g.ttl call.readings.mark).1 = .ok true) :
    (receivePayload B g S s call).1.toOption = (opened P B package env ctx).toOption ∧
      (receivePayload B g S s call).2 = g.passed S s env.envelopeNonce call.readings := by
  have opens : B.openFrom S s env.toDict call.sender.card (some g) call.readings =
      (decryptVerifiedEnvelope P ctx B.keypair [],
        g.passed S s env.envelopeNonce call.readings) := by
    simp only [Identity.openFrom, verifies.checked, ReplayGuard.precheck, verifies.fresh,
      ReplayGuard.refuseSeen, Identity.openGuarded, verifies.verified, ReplayGuard.commit,
      verifies.again, ReplayGuard.markFirst, ReplayGuard.passed]
    generalize S.isSeen s env.envelopeNonce call.readings.seen = looked at unseen marked ⊢
    obtain ⟨_, s₁⟩ := looked
    cases unseen
    simp only at marked ⊢
    generalize S.markUsed s₁ env.envelopeNonce g.ttl call.readings.mark = result at marked ⊢
    obtain ⟨_, s₂⟩ := result
    cases marked
    rfl
  unfold opened
  cases decrypted : decryptVerifiedEnvelope P ctx B.keypair [] with
  | error e =>
      rw [decrypted] at opens
      rw [openPackage_state verifies.resolved verifies.found opens]
      exact ⟨rfl, rfl⟩
  | ok plaintext =>
      rw [decrypted] at opens
      simp only [receivePayload, verifies.resolved, openPackage, verifies.found, opens]
      cases unpacked : contents P package env plaintext with
      | error e => exact ⟨by simp [bind, Except.bind, unpacked, Except.toOption], rfl⟩
      | ok payload => exact ⟨by simp [bind, Except.bind, unpacked, Except.toOption], rfl⟩

theorem live_passed (keeps : KeepsMarks S) {t : Identity.OpenReadings} {nonce other : Str}
    (marked : (S.markUsed (S.isSeen s nonce t.seen).2 nonce g.ttl t.mark).1 = .ok true) {at' : ℚ}
    (le : t.mark ≤ at') : keeps.Live (g.passed S s nonce t) other at' ↔
      other = nonce ∧ at' < t.mark + g.ttl ∨ keeps.Live s other at' := by
  have early : t.seen ≤ at' := (seen_le_mark t).trans le
  rw [ReplayGuard.passed, keeps.mark_live marked le, keeps.seen_frame early]

/-- A call finds no verified envelope, or one with a nonce that the store holds, or one with a new
nonce, which it marks. -/
theorem receive_cases (keeps : KeepsMarks S) (answers : StoreAnswers g S s call.readings) :
    (∀ package env ctx, ¬ call.Verifies B g package env ctx) ∧
        (receivePayload B g S s call).1.toOption = none ∧
        SameLive S keeps.toExactSeen call.readings.mark s (receivePayload B g S s call).2 ∨
      ∃ package env ctx, call.Verifies B g package env ctx ∧
        (keeps.Live s env.envelopeNonce call.readings.seen ∧
            (receivePayload B g S s call).1.toOption = none ∧
            SameLive S keeps.toExactSeen call.readings.mark s (receivePayload B g S s call).2 ∨
          ¬ keeps.Live s env.envelopeNonce call.readings.seen ∧
            (receivePayload B g S s call).1.toOption = (opened P B package env ctx).toOption ∧
            ∀ nonce t, call.readings.mark ≤ t →
              (keeps.Live (receivePayload B g S s call).2 nonce t ↔
                nonce = env.envelopeNonce ∧ t < call.readings.mark + g.ttl ∨
                  keeps.Live s nonce t)) := by
  have early := seen_le_mark call.readings
  by_cases verifies : ∃ package env ctx, call.Verifies B g package env ctx
  · obtain ⟨package, env, ctx, verifies⟩ := verifies
    refine .inr ⟨package, env, ctx, verifies, ?_⟩
    obtain ⟨b, seen⟩ := answers.seen env.envelopeNonce
    cases b with
    | true =>
        obtain ⟨refused, same⟩ := receive_seen keeps.toExactSeen verifies seen
        exact .inl ⟨(keeps.seen_iff seen).mp rfl, refused,
          fun nonce t le => same nonce t (early.trans le)⟩
    | false =>
        obtain ⟨b, marked⟩ := answers.marked env.envelopeNonce
        obtain rfl := keeps.mark_later early seen marked
        obtain ⟨result, state⟩ := receive_unseen verifies seen marked
        refine .inr ⟨fun live => ?_, result, fun nonce t le => ?_⟩
        · exact Bool.false_ne_true ((keeps.seen_iff seen).mpr live)
        · rw [state]
          exact live_passed keeps marked le
  · push Not at verifies
    obtain ⟨refused, same⟩ := receive_unverified keeps.toExactSeen verifies
    exact .inl ⟨verifies, refused, fun nonce t le => same nonce t (early.trans le)⟩

/-! ## Runs of calls -/

/-- The store, and the last reading of the clock. -/
structure Watched (S : SeenStore) where
  store : S.State
  clock : ℚ

/-- A call and what came of it. -/
structure Reception where
  call : ReceiveCall
  result : Except PyErr Bytes

def Reception.delivered (e : Reception) : Option Bytes := e.result.toOption

structure ReceiveStep (B : Identity P) (g : ReplayGuard) (S : SeenStore) (s : Watched S)
    (e : Reception) (t : Watched S) : Prop where
  later : s.clock ≤ e.call.readings.checked
  answers : StoreAnswers g S s.store e.call.readings
  performed : receivePayload B g S s.store e.call = (e.result, t.store)
  clock : t.clock = e.call.readings.mark

/-- Whatever calls follow, they deliver the same from both states. -/
def DeliversAlike (B : Identity P) (g : ReplayGuard) (S : SeenStore) (s s' : Watched S) : Prop :=
  ∀ es es' t t', Run (ReceiveStep B g S) s es t → Run (ReceiveStep B g S) s' es' t' →
    es.map Reception.call = es'.map Reception.call →
      es.map Reception.delivered = es'.map Reception.delivered

/-- From the last reading on both states hold the same nonces. -/
def Watched.Alike (keeps : KeepsMarks S) (s s' : Watched S) : Prop :=
  s'.clock = s.clock ∧ SameLive S keeps.toExactSeen s.clock s.store s'.store

theorem Watched.Alike.step (keeps : KeepsMarks S) {s s' t t' : Watched S} {e e' : Reception}
    (alike : s.Alike keeps s') (step : ReceiveStep B g S s e t)
    (step' : ReceiveStep B g S s' e' t') (same : e.call = e'.call) :
    e.delivered = e'.delivered ∧ t.Alike keeps t' := by
  obtain ⟨call, result⟩ := e
  obtain ⟨_, result'⟩ := e'
  obtain rfl : call = _ := same
  obtain ⟨later, answers, performed, clock⟩ := step
  obtain ⟨later', answers', performed', clock'⟩ := step'
  simp only at later later' answers answers' performed performed' clock clock'
  have reached : s.clock ≤ call.readings.seen := later.trans (checked_le_seen call.readings)
  have passed := seen_le_mark call.readings
  have first := receive_cases (B := B) keeps answers
  have second := receive_cases (B := B) keeps answers'
  rw [performed] at first
  rw [performed'] at second
  have held : ∀ nonce t, call.readings.seen ≤ t →
      (keeps.Live s'.store nonce t ↔ keeps.Live s.store nonce t) :=
    fun nonce t le => alike.2 nonce t (reached.trans le)
  -- stores that a call leaves alone stay alike
  have unmarked : SameLive S keeps.toExactSeen call.readings.mark s.store t.store →
      SameLive S keeps.toExactSeen call.readings.mark s'.store t'.store → t.Alike keeps t' := by
    intro left right
    refine ⟨clock'.trans clock.symm, fun nonce u le => ?_⟩
    rw [clock] at le
    rw [right nonce u le, left nonce u le]
    exact held nonce u (passed.trans le)
  obtain ⟨unverified, refused, kept⟩ | ⟨package, env, ctx, verifies, first⟩ := first
  · obtain ⟨_, refused', kept'⟩ | ⟨package', env', ctx', verifies', _⟩ := second
    · exact ⟨refused.trans refused'.symm, unmarked kept kept'⟩
    · exact absurd verifies' (unverified package' env' ctx')
  · obtain ⟨unverified, _⟩ | ⟨package', env', ctx', verifies', second⟩ := second
    · exact absurd verifies (unverified package env ctx)
    obtain ⟨rfl, rfl, rfl⟩ := verifies.unique verifies'
    have same := held env'.envelopeNonce call.readings.seen le_rfl
    obtain ⟨live, refused, kept⟩ | ⟨new, outcome, marks⟩ := first
    · obtain ⟨_, refused', kept'⟩ | ⟨new', _⟩ := second
      · exact ⟨refused.trans refused'.symm, unmarked kept kept'⟩
      · exact absurd (same.mpr live) new'
    · obtain ⟨live', _⟩ | ⟨_, outcome', marks'⟩ := second
      · exact absurd (same.mp live') new
      · refine ⟨outcome.trans outcome'.symm, clock'.trans clock.symm, fun nonce u le => ?_⟩
        rw [clock] at le
        rw [marks nonce u le, marks' nonce u le, held nonce u (passed.trans le)]

/-- States that hold the same nonces deliver alike. -/
theorem Watched.Alike.delivers (keeps : KeepsMarks S) {s s' : Watched S}
    (alike : s.Alike keeps s') : DeliversAlike B g S s s' := by
  intro es es' t t' run run' same
  refine (Run.alike (R := Watched.Alike keeps) ?_ alike run run' same).1
  exact fun _ _ _ _ _ _ alike step step' same => alike.step keeps step step' same

/-! ## The call that is noticed -/

variable {sent : List (SendCall A)}

/-- A verified envelope holds what a call of the sender sealed. -/
theorem Ideal.unsealed (ideal : Ideal sent B call) (exchange : P.ExchangeCorrect)
    (aead : P.AeadCorrect) (verifies : call.Verifies B g package env ctx) :
    ∃ e ∈ sent, env.envelopeNonce = e.envelopeNonce ∧
      decryptVerifiedEnvelope P ctx B.keypair [] = .ok e.plaintext := by
  obtain ⟨e, mem, env', f, b, made, same, address⟩ :=
    ideal.origin verifies.resolved verifies.found verifies.verified
  have reads := (verifyEnvelope_facts verifies.verified).reads
  have drawn : f.envelopeNonce = e.envelopeNonce := by
    obtain ⟨_, _, _, _, _, _, rfl⟩ := sealFields_eq_ok.mp made.sealedFor.fields
    rfl
  have read := (Envelope.reads_toDict P.toRuntime env).envelopeNonce.symm.trans reads.envelopeNonce
  simp only [Option.some.injEq, Val.str.injEq] at read
  exact ⟨e, mem, by rw [read, same, drawn],
    made.sealedFor.opens exchange aead (ideal.cards e mem address) same⟩

/-- The call is the first to bring the envelope of a call of the sender, in a package that is marked
chunked and whose chunk list does not open. -/
def ReceiveCall.Burns (sent : List (SendCall A)) (B : Identity P) (g : ReplayGuard)
    (keeps : KeepsMarks S) (s : S.State) (call : ReceiveCall) : Prop :=
  ∃ e ∈ sent, ∃ package env ctx, call.Verifies B g package env ctx ∧
    env.envelopeNonce = e.envelopeNonce ∧ ¬ keeps.Live s e.envelopeNonce call.readings.seen ∧
    package.isChunked = true ∧
    (openChunks P e.envelopeNonce e.plaintext package.chunks).toOption = none

/-- The package with the kind and the chunks of a call. -/
def SendCall.repair (e : SendCall A) (package : SecurePackage) : SecurePackage :=
  { package with isChunked := e.chunked, chunks := e.package.chunks }

/-- The call again, with the repaired package and at an instant. -/
def ReceiveCall.repaired (e : SendCall A) (call : ReceiveCall) (package : SecurePackage) (now : ℚ) :
    ReceiveCall :=
  { call with input := .package (e.repair package), readings := .instant now }

/-- A repaired package holds the payload. -/
theorem SendCall.repair_contents (aead : P.AeadCorrect) (json : P.JsonCorrect) (e : SendCall A)
    (nonce : env.envelopeNonce = e.envelopeNonce) :
    contents P (e.repair package) env e.plaintext = .ok e.payload := by
  cases chunked : e.chunked with
  | false =>
      have whole : e.plaintext = e.payload := by
        rw [plaintext, chunked, if_neg Bool.false_ne_true]
      rw [contents, repair, chunked, if_neg Bool.false_ne_true, whole]
  | true =>
      obtain ⟨_, _, _, made⟩ := e.exists_made
      obtain ⟨packed, encrypted, chunks⟩ := made.chunks chunked
      have key : e.plaintext = e.coins.sessionKey := by rw [plaintext, chunked, if_pos rfl]
      rw [contents, repair, chunked, if_pos rfl, key, nonce]
      exact chunks.opens aead json rfl

theorem ReceiveCall.Verifies.repaired (aead : P.AeadCorrect) (json : P.JsonCorrect)
    {e : SendCall A} {now : ℚ} (nonce : env.envelopeNonce = e.envelopeNonce)
    (verifies : { call with readings := .instant now }.Verifies B g package env ctx) :
    (call.repaired e package now).Verifies B g (e.repair package) env ctx := by
  obtain ⟨resolved, found, checked, fresh, verified, again⟩ := verifies
  refine ⟨?_, ?_, checked, fresh, verified, again⟩
  · exact resolved_eq_ok.mpr ⟨rfl, (resolved_eq_ok.mp resolved).2⟩
  · have chunks : (!(e.repair package).isChunked || (e.repair package).chunks.truthy) = true := by
      have whole : contents P (e.repair package) env e.plaintext = .ok e.payload :=
        e.repair_contents aead json nonce
      unfold contents at whole
      split at whole
      · rw [truthy_of_openChunks whole, Bool.or_true]
      · rename_i single
        rw [Bool.eq_false_iff.mpr single]
        rfl
    simp only [packageEnvelope, bind_eq_ok, ensure_eq_ok] at found ⊢
    obtain ⟨_, _, _, present, built⟩ := found
    exact ⟨(), chunks, (), present, built⟩

variable {sₛ sₜ : Watched S} {e : Reception}

/-- A rejected call that is not noticed. -/
theorem ReceiveStep.alike (keeps : KeepsMarks S) (exchange : P.ExchangeCorrect)
    (aead : P.AeadCorrect) (ideal : Ideal sent B e.call) (step : ReceiveStep B g S sₛ e sₜ)
    (rejected : e.delivered = none) (harmless : ¬ e.call.Burns sent B g keeps sₛ.store) :
    Watched.Alike keeps ⟨sₛ.store, sₜ.clock⟩ sₜ := by
  have cases := receive_cases (B := B) keeps step.answers
  rw [step.performed, ← step.clock] at cases
  obtain ⟨_, _, kept⟩ | ⟨package, env, ctx, verifies, ⟨_, _, kept⟩ | ⟨new, outcome, _⟩⟩ := cases
  · exact ⟨rfl, kept⟩
  · exact ⟨rfl, kept⟩
  · obtain ⟨x, mem, nonce, plain⟩ := ideal.unsealed exchange aead verifies
    have failed : (contents P package env x.plaintext).toOption = none := by
      have unopened := outcome.symm.trans rejected
      rwa [opened, plain] at unopened
    rw [nonce] at new
    cases kind : package.isChunked with
    | false =>
        rw [contents, kind, if_neg Bool.false_ne_true] at failed
        cases failed
    | true =>
        rw [contents, kind, if_pos rfl, nonce] at failed
        exact absurd ⟨x, mem, package, env, ctx, verifies, nonce, new, kind, failed⟩ harmless

/-- A call that is noticed: the repaired package would be delivered, and is refused. -/
theorem ReceiveStep.noticed (keeps : KeepsMarks S) (exchange : P.ExchangeCorrect)
    (aead : P.AeadCorrect) (json : P.JsonCorrect) (ideal : Ideal sent B e.call)
    (step : ReceiveStep B g S sₛ e sₜ) (working : ∀ t, StoreAnswers g S sₛ.store t)
    (working' : ∀ t, StoreAnswers g S sₜ.store t)
    (lasting : ∀ package env ctx, e.call.Verifies B g package env ctx →
      { e.call with readings := .instant sₜ.clock }.Verifies B g package env ctx)
    (burns : e.call.Burns sent B g keeps sₛ.store) :
    ¬ DeliversAlike B g S ⟨sₛ.store, sₜ.clock⟩ sₜ := by
  intro alike
  obtain ⟨x, mem, package, env, ctx, verifies, nonce, new, kind, _⟩ := burns
  let call := e.call.repaired x package sₜ.clock
  have again : call.Verifies B g (x.repair package) env ctx :=
    (lasting package env ctx verifies).repaired aead json nonce
  -- the store did not hold the nonce before, and does after the call
  have cases := receive_cases (B := B) keeps step.answers
  rw [step.performed, ← step.clock] at cases
  have before : ¬ keeps.Live sₛ.store env.envelopeNonce sₜ.clock := by
    intro live
    rw [nonce, step.clock] at live
    exact new (keeps.live_earlier live (seen_le_mark e.call.readings))
  have after : keeps.Live sₜ.store env.envelopeNonce sₜ.clock := by
    obtain ⟨unverified, _⟩ | ⟨package', env', ctx', verifies', ⟨live, _⟩ | ⟨_, _, marks⟩⟩ := cases
    · exact absurd verifies (unverified package env ctx)
    · obtain ⟨-, rfl, -⟩ := verifies.unique verifies'
      rw [nonce] at live
      exact absurd live new
    · obtain ⟨-, rfl, -⟩ := verifies.unique verifies'
      refine (marks _ _ le_rfl).mpr (.inl ⟨rfl, ?_⟩)
      have positive : (0 : ℚ) < g.window := Int.cast_pos.mpr g.window_pos
      have nonneg : (0 : ℚ) ≤ g.clockSkew := Int.cast_nonneg g.skew_nonneg
      rw [ReplayGuard.ttl]
      linarith
  have first : ReceiveStep B g S ⟨sₛ.store, sₜ.clock⟩
      ⟨call, (receivePayload B g S sₛ.store call).1⟩
      ⟨(receivePayload B g S sₛ.store call).2, sₜ.clock⟩ := ⟨le_rfl, working _, rfl, rfl⟩
  have second : ReceiveStep B g S sₜ ⟨call, (receivePayload B g S sₜ.store call).1⟩
      ⟨(receivePayload B g S sₜ.store call).2, sₜ.clock⟩ := ⟨le_rfl, working' _, rfl, rfl⟩
  have same := List.singleton_inj.mp (alike _ _ _ _ (.single first) (.single second) rfl)
  have delivered : (receivePayload B g S sₛ.store call).1.toOption = some x.payload := by
    obtain ⟨unverified, _⟩ | ⟨package', env', ctx', verifies', ⟨live, _⟩ | ⟨_, outcome, _⟩⟩ :=
      receive_cases (B := B) keeps first.answers
    · exact absurd again (unverified _ env ctx)
    · obtain ⟨-, rfl, -⟩ := again.unique verifies'
      exact absurd live before
    · obtain ⟨rfl, rfl, rfl⟩ := again.unique verifies'
      obtain ⟨x', mem', nonce', plain⟩ := ideal.unsealed exchange aead verifies
      obtain rfl := ideal.eq_of_nonce mem mem' (nonce.symm.trans nonce')
      rw [outcome, opened, plain]
      exact congrArg Except.toOption (x.repair_contents aead json nonce)
  have refused : (receivePayload B g S sₜ.store call).1.toOption = none := by
    obtain ⟨unverified, _⟩ | ⟨package', env', ctx', verifies', ⟨_, outcome, _⟩ | ⟨new, _⟩⟩ :=
      receive_cases (B := B) keeps second.answers
    · exact absurd again (unverified _ env ctx)
    · exact outcome
    · obtain ⟨-, rfl, -⟩ := again.unique verifies'
      exact absurd after new
  rw [Reception.delivered, Reception.delivered, delivered, refused] at same
  cases same

/-- A rejected call is noticed later exactly if it was the first to bring the envelope of a call of
the sender, with chunks that do not open. -/
theorem costless_iff (keeps : KeepsMarks S) (exchange : P.ExchangeCorrect) (aead : P.AeadCorrect)
    (json : P.JsonCorrect) (ideal : Ideal sent B e.call) (step : ReceiveStep B g S sₛ e sₜ)
    (rejected : e.delivered = none) (working : ∀ t, StoreAnswers g S sₛ.store t)
    (working' : ∀ t, StoreAnswers g S sₜ.store t)
    (lasting : ∀ package env ctx, e.call.Verifies B g package env ctx →
      { e.call with readings := .instant sₜ.clock }.Verifies B g package env ctx) :
    DeliversAlike B g S ⟨sₛ.store, sₜ.clock⟩ sₜ ↔ ¬ e.call.Burns sent B g keeps sₛ.store :=
  ⟨fun alike burns => step.noticed keeps exchange aead json ideal working working' lasting burns
      alike,
    fun harmless => (step.alike keeps exchange aead ideal rejected harmless).delivers keeps⟩

/-! ## The package that is delivered -/

/-- Until an envelope of this timestamp is stale the store holds its nonce exactly if a call has
brought it in a verified envelope. -/
structure Marks (B : Identity P) (g : ReplayGuard) (keeps : KeepsMarks S) (nonce : Str) (ts : ℤ)
    (es : List Reception) (s : Watched S) : Prop where
  brought : ∀ t, s.clock ≤ t → keeps.Live s.store nonce t →
    ∃ d ∈ es, d.call.Brings B g nonce
  held : ∀ d ∈ es, d.call.Brings B g nonce → ∀ t, s.clock ≤ t → t < ts + g.window →
    keeps.Live s.store nonce t

/-- Verified envelopes with this nonce are of this instant. -/
def OwnNonce (B : Identity P) (g : ReplayGuard) (nonce : Str) (ts : ℤ) (es : List Reception) :
    Prop :=
  ∀ d ∈ es, ∀ package env ctx, d.call.Verifies B g package env ctx → env.envelopeNonce = nonce →
    env.timestamp = ts

variable {nonce : Str} {ts : ℤ} {es : List Reception}

/-- A mark lasts as long as the envelope is fresh. -/
theorem ReceiveCall.Verifies.lasts (verifies : call.Verifies B g package env ctx) :
    (env.timestamp : ℚ) + g.window ≤ call.readings.mark + g.ttl := by
  obtain ⟨_, _, notFuture⟩ := ReplayGuard.fresh_eq_ok.mp verifies.fresh
  have early : call.readings.fresh ≤ call.readings.mark :=
    call.readings.fresh_le.trans (seen_le_mark call.readings)
  simp only at notFuture
  rw [ReplayGuard.ttl]
  linarith

theorem Marks.step {keeps : KeepsMarks S} (marks : Marks B g keeps nonce ts es sₛ)
    (step : ReceiveStep B g S sₛ e sₜ) (own : OwnNonce B g nonce ts [e]) :
    Marks B g keeps nonce ts (es ++ [e]) sₜ := by
  have reached : sₛ.clock ≤ e.call.readings.seen :=
    step.later.trans (checked_le_seen e.call.readings)
  have later : ∀ {t}, sₜ.clock ≤ t → e.call.readings.mark ≤ t ∧ sₛ.clock ≤ t := by
    intro t le
    rw [step.clock] at le
    exact ⟨le, reached.trans ((seen_le_mark e.call.readings).trans le)⟩
  have cases := receive_cases (B := B) keeps step.answers
  rw [step.performed] at cases
  -- what was true of the store before is true of one that holds the same nonces
  have unmarked : SameLive S keeps.toExactSeen e.call.readings.mark sₛ.store sₜ.store →
      (e.call.Brings B g nonce → ∃ d ∈ es, d.call.Brings B g nonce) →
      Marks B g keeps nonce ts (es ++ [e]) sₜ := by
    intro same known
    refine ⟨fun t le live => ?_, fun d mem brings t le less => ?_⟩
    · obtain ⟨d, mem, brings⟩ :=
        marks.brought t (later le).2 ((same nonce t (later le).1).mp live)
      exact ⟨d, List.mem_append_left _ mem, brings⟩
    · have earlier : ∃ d ∈ es, d.call.Brings B g nonce := by
        obtain old | new := List.mem_append.mp mem
        · exact ⟨d, old, brings⟩
        · rw [List.mem_singleton.mp new] at brings
          exact known brings
      obtain ⟨d, mem, brings⟩ := earlier
      exact (same nonce t (later le).1).mpr (marks.held d mem brings t (later le).2 less)
  obtain ⟨unverified, _, same⟩ | ⟨package, env, ctx, verifies, seen | ⟨_, _, added⟩⟩ := cases
  · refine unmarked same fun brings => ?_
    obtain ⟨package, env, ctx, verifies, _⟩ := brings
    exact absurd verifies (unverified package env ctx)
  · obtain ⟨live, _, same⟩ := seen
    refine unmarked same fun brings => ?_
    obtain ⟨_, _, _, verifies', rfl⟩ := brings
    obtain ⟨-, rfl, -⟩ := verifies.unique verifies'
    exact marks.brought _ reached live
  · refine ⟨fun t le live => ?_, fun d mem brings t le less => ?_⟩
    · obtain ⟨rfl, _⟩ | old := (added nonce t (later le).1).mp live
      · exact ⟨e, List.mem_append_right _ List.mem_cons_self, package, env, ctx, verifies, rfl⟩
      · obtain ⟨d, mem, brings⟩ := marks.brought t (later le).2 old
        exact ⟨d, List.mem_append_left _ mem, brings⟩
    · refine (added nonce t (later le).1).mpr ?_
      obtain old | new := List.mem_append.mp mem
      · exact .inr (marks.held d old brings t (later le).2 less)
      · rw [List.mem_singleton.mp new] at brings
        obtain ⟨_, _, _, verifies', rfl⟩ := brings
        obtain ⟨-, rfl, -⟩ := verifies.unique verifies'
        have stamp := own e List.mem_cons_self package _ ctx verifies rfl
        rw [← stamp] at less
        exact .inl ⟨rfl, less.trans_le verifies.lasts⟩

theorem Marks.of_run (keeps : KeepsMarks S) (unmarked : ∀ t, ¬ keeps.Live sₛ.store nonce t)
    (run : Run (ReceiveStep B g S) sₛ es sₜ) (own : OwnNonce B g nonce ts es) :
    Marks B g keeps nonce ts es sₜ := by
  induction run with
  | nil =>
      exact ⟨fun t _ live => absurd live (unmarked t), fun d mem => absurd mem List.not_mem_nil⟩
  | snoc _ last ih =>
      refine (ih fun d mem => own d (List.mem_append_left _ mem)).step last fun d mem => ?_
      exact own d (List.mem_append_right _ mem)

/-- A genuine package of the call is presented to the recipient it was made for, before the last
instant at which its envelope is fresh. -/
structure SendCall.Presented (x : SendCall A) (B : Identity P) (g : ReplayGuard)
    (call : ReceiveCall) : Prop where
  peerId : x.peer.id = B.entityId
  cardId : x.peer.card.entityId = B.entityId
  keys : x.peer.card.publicKeys = extractPublicKeys B.keypair
  senderId : call.sender.id = A.entityId
  senderCard : call.sender.card.toPublicCard = A.publicCard
  valid : call.sender.card.verifyValidity P.toRuntime call.readings.checked = .ok ()
  genuine : ∃ package, call.resolved P.toRuntime B.entityId = .ok package ∧ x.Genuine package
  notStale : call.readings.again - ⌊x.now⌋ ≤ g.window
  notFuture : (⌊x.now⌋ : ℚ) ≤ call.readings.fresh + g.clockSkew
  notLast : call.readings.seen < ⌊x.now⌋ + g.window

/-- What becomes of the sample package over this store. -/
def sampleTake (m : MemoryNonceStore) (package : SecurePackage) :
    Reception × Watched MemoryNonceStore.seenStore :=
  let (result, m) := receivePayload sampleRecipient .default MemoryNonceStore.seenStore m
    (sampleCall "file" package)
  (⟨sampleCall "file" package, result⟩, ⟨m, 1000⟩)

/-- The store after the package. -/
def sampleTaken (package : SecurePackage) : MemoryNonceStore := (sampleTake .empty package).2.store

/-- The package, and the store after it and after its replay. -/
structure SampleTwice (package : SecurePackage) : Prop where
  first : (sampleTake .empty package).1.delivered = some [1, 2]
  again : (sampleTake (sampleTaken package) package).1.delivered = none
  room : (sampleTaken package).entries.length ≤ 1
  room' : (MemoryNonceStore.entries (sampleTake (sampleTaken package) package).2.store).length ≤ 1

theorem sampleTwice_computed : ((sampleSend [1, 2]).toOption.map fun package =>
    decide ((sampleTake .empty package).1.delivered = some [1, 2] ∧
      (sampleTake (sampleTaken package) package).1.delivered = none ∧
      (sampleTaken package).entries.length ≤ 1 ∧
      (MemoryNonceStore.entries (sampleTake (sampleTaken package) package).2.store).length ≤ 1)) =
        some true := by
  decide +kernel

theorem exists_sampleTwice : ∃ package, sampleSend [1, 2] = .ok package ∧ SampleTwice package := by
  obtain ⟨package, sent, computed⟩ := Option.map_eq_some_iff.mp sampleTwice_computed
  obtain ⟨first, again, room, room'⟩ := of_decide_eq_true computed
  exact ⟨package, Except.of_toOption sent, first, again, room, room'⟩

theorem sampleAnswers {m : MemoryNonceStore} (room : m.entries.length ≤ 1)
    (t : Identity.OpenReadings) : StoreAnswers .default MemoryNonceStore.seenStore m t where
  seen := fun _ => ⟨_, rfl⟩
  marked := fun _ => MemoryNonceStore.markUsed_answers
    (MemoryNonceStore.length_isSeen_le.trans_lt (room.trans_lt (by decide)))

theorem sampleTake_step {m : MemoryNonceStore} {clock : ℚ} (package : SecurePackage)
    (later : clock ≤ 1000) (room : m.entries.length ≤ 1) :
    ReceiveStep sampleRecipient .default MemoryNonceStore.seenStore ⟨m, clock⟩
      (sampleTake m package).1 (sampleTake m package).2 where
  later := later
  answers := sampleAnswers room _
  performed := rfl
  clock := rfl

theorem sampleResolved {m : MemoryNonceStore} {package : SecurePackage}
    (delivered : (sampleTake m package).1.delivered = some [1, 2]) :
    (sampleCall "file" package).resolved Platform.textual.toRuntime sampleRecipient.entityId =
      .ok { package with dataType := "file" } := by
  obtain ⟨package', _, _, resolved, _⟩ := receivePayload_facts (Except.of_toOption delivered)
  obtain rfl := Except.ok.inj (resolved_eq_ok.mp resolved).1
  exact resolved

/-- The replay costs nothing. -/
theorem sampleReplay_costless : ∃ package, ∃ returned : sampleSend [1, 2] = .ok package,
    (DeliversAlike sampleRecipient .default MemoryNonceStore.seenStore
      ⟨sampleTaken package, 1000⟩ (sampleTake (sampleTaken package) package).2 ↔
      ¬ (sampleCall "file" package).Burns [sampleSent returned] sampleRecipient .default
        memoryKeepsMarks (sampleTaken package)) := by
  obtain ⟨package, returned, sample⟩ := exists_sampleTwice
  have resolved := sampleResolved sample.first
  refine ⟨package, returned, ?_⟩
  have ideal : Ideal [sampleSent returned] sampleRecipient (sampleCall "file" package) := by
    refine Ideal.of_single rfl rfl fun package' resolved' => ?_
    obtain rfl := Except.ok.inj (resolved.symm.trans resolved')
    rfl
  have step := sampleTake_step package (le_refl (1000 : ℚ)) sample.room
  exact costless_iff memoryKeepsMarks Platform.textual_exchange Platform.textual_aead
    Platform.textual_json ideal step sample.again (sampleAnswers sample.room)
    (sampleAnswers sample.room') fun package env ctx verifies => verifies

end Uxsp.Secure
