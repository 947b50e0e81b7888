import Uxsp.Secure.ChunkIntegrity

/-!
# Packages as they were sent

A package that has kept the envelope, the chunks and the kind of a call of the sender is received as
the payload of that call or not at all.  `SendCall.delivered` is the first case: the package was
sealed for the recipient and the guard lets its envelope pass.
-/

namespace Uxsp

variable {P : Platform} {i : Identity P} {S : SeenStore} {s s' : S.State} {env : Envelope}
  {card : Card} {guard : ReplayGuard} {t : Identity.OpenReadings} {plaintext : Bytes}

/-- What the store holds after the guard has let an envelope pass. -/
def ReplayGuard.passed (guard : ReplayGuard) (S : SeenStore) (s : S.State) (nonce : Str)
    (t : Identity.OpenReadings) : S.State :=
  (S.markUsed (S.isSeen s nonce t.seen).2 nonce guard.ttl t.mark).2

/-- An envelope that was opened has a valid card and was let pass. -/
theorem openFrom_done
    (opened : i.openFrom S s env.toDict card (some guard) t = (.ok plaintext, s')) :
    card.verifyValidity P.toRuntime t.checked = .ok () ∧
      Admits guard S s env.timestamp env.envelopeNonce t ∧
      s' = guard.passed S s env.envelopeNonce t := by
  unfold Identity.openFrom at opened
  cases checked : i.openChecks env.toDict card (some guard) t.checked with
  | error e => rw [checked] at opened; cases opened
  | ok g =>
      obtain ⟨_, valid, _, _, rfl⟩ := openChecks_eq_ok.mp checked
      rw [checked] at opened
      simp only [ReplayGuard.precheck] at opened
      cases early : g.fresh P.toRuntime (.dict env.toDict) t.fresh with
      | error e => rw [early] at opened; cases opened
      | ok n =>
          rw [early] at opened
          obtain ⟨normal, _, notFuture⟩ := ReplayGuard.fresh_eq_ok.mp early
          obtain ⟨_, rfl⟩ := normalise_toDict_eq_ok.mp normal
          simp only [ReplayGuard.refuseSeen] at opened
          cases looked : S.isSeen s env.envelopeNonce t.seen with
          | mk result s₁ =>
              rw [looked] at opened
              obtain _ | _ | _ := result
              · cases opened
              · simp only [Identity.openGuarded, ReplayGuard.commit] at opened
                cases verified : verifyEnvelope P env.toDict card.publicKeys i.entityId
                  card.entityId g.window g.clockSkew t.verify with
                | error e => rw [verified] at opened; cases opened
                | ok ctx =>
                    rw [verified] at opened
                    cases late : g.fresh P.toRuntime (.dict env.toDict) t.again with
                    | error e => rw [late] at opened; cases opened
                    | ok n =>
                        rw [late] at opened
                        obtain ⟨normal', notStale, _⟩ := ReplayGuard.fresh_eq_ok.mp late
                        obtain ⟨_, rfl⟩ := normalise_toDict_eq_ok.mp normal'
                        simp only [ReplayGuard.markFirst] at opened
                        cases marked : S.markUsed s₁ env.envelopeNonce g.ttl t.mark with
                        | mk result s₂ =>
                            rw [marked] at opened
                            obtain _ | _ | _ := result
                            · cases opened
                            · cases opened
                            · have left := (Prod.mk.inj opened).2
                              refine ⟨valid, ⟨notStale, notFuture, ?_, ?_⟩, ?_⟩
                              · rw [looked]
                              · rw [looked, marked]
                              · rw [ReplayGuard.passed, looked, marked]
                                exact left.symm
              · cases opened

namespace Secure

variable {A B : Identity P} {call : ReceiveCall} {package : SecurePackage}

/-- The package has kept the envelope, the chunks and the kind of the call. -/
structure SendCall.Genuine (e : SendCall A) (package : SecurePackage) : Prop where
  envelope : package.envelope = e.package.envelope
  isChunked : package.isChunked = e.package.isChunked
  chunks : package.chunks = e.package.chunks

theorem SendCall.Made.envelope_facts {e : SendCall A} {f : SealedFields} {b : Bytes}
    (made : e.Made env f b) : env.envelopeNonce = e.envelopeNonce ∧ env.timestamp = ⌊e.now⌋ := by
  obtain ⟨_, _, _, _, _, _, rfl⟩ := sealFields_eq_ok.mp made.sealedFor.fields
  obtain ⟨_, _, stamp, nonce⟩ := made.sealedFor.envelope_eq
  exact ⟨nonce, stamp⟩

/-- The envelope in a genuine package is the one that the call made. -/
theorem SendCall.Genuine.envelope_eq {e : SendCall A} (genuine : e.Genuine package)
    {f : SealedFields} {b : Bytes} (made : e.Made env f b) {env' : Envelope}
    (found : packageEnvelope P.toRuntime package = .ok env') : env' = env := by
  obtain ⟨data, outer, built⟩ := packageEnvelope_facts found
  rw [genuine.envelope, made.envelope] at outer
  rw [← outer, made.sealedFor.small] at built
  exact (Except.ok.inj built).symm

/-- What is in a genuine package. -/
theorem SendCall.Genuine.contents_eq (aead : P.AeadCorrect) (json : P.JsonCorrect)
    {e : SendCall A} (genuine : e.Genuine package) {f : SealedFields} {b : Bytes}
    (made : e.Made env f b) : contents P package env e.plaintext = .ok e.payload := by
  rw [contents, genuine.isChunked, made.isChunked]
  cases chunked : e.chunked with
  | false => rw [if_neg Bool.false_ne_true, SendCall.plaintext, chunked, if_neg Bool.false_ne_true]
  | true =>
      obtain ⟨packed, encrypted, chunks⟩ := made.chunks chunked
      rw [if_pos rfl, made.envelope_facts.1, SendCall.plaintext, chunked, if_pos rfl,
        genuine.chunks]
      exact chunks.opens aead json rfl

/-- A genuine package that was made for the recipient has an envelope. -/
theorem SendCall.Genuine.packageEnvelope_eq (aead : P.AeadCorrect) (json : P.JsonCorrect)
    {e : SendCall A} (genuine : e.Genuine package) {f : SealedFields} {b : Bytes}
    (made : e.Made env f b) : packageEnvelope P.toRuntime package = .ok env := by
  have chunks : (!package.isChunked || package.chunks.truthy) = true := by
    have whole := genuine.contents_eq aead json made
    unfold contents at whole
    split at whole
    · rw [truthy_of_openChunks whole, Bool.or_true]
    · rename_i single
      rw [Bool.eq_false_iff.mpr single]
      rfl
  simp only [packageEnvelope, bind_eq_ok, ensure_eq_ok]
  refine ⟨(), chunks, (), ?_, ?_⟩
  · rw [genuine.envelope, made.envelope]
    rfl
  · rw [genuine.envelope, made.envelope]
    exact made.sealedFor.small

/-- What is made for the recipient is made for its keys. -/
def SendCall.KeyedFor (e : SendCall A) (B : Identity P) : Prop :=
  e.peer.card.entityId = B.entityId → e.peer.card.publicKeys = extractPublicKeys B.keypair

/-- A genuine package is received as the payload of the call, once the guard has let its envelope
pass. -/
theorem SendCall.received (exchange : P.ExchangeCorrect) (aead : P.AeadCorrect)
    (json : P.JsonCorrect) {e : SendCall A} (keyed : e.KeyedFor B)
    (resolved : call.resolved P.toRuntime B.entityId = .ok package) (genuine : e.Genuine package)
    {r : Bytes} (returned : receivePayload B guard S s call = (.ok r, s')) :
    r = e.payload ∧ Admits guard S s ⌊e.now⌋ e.envelopeNonce call.readings ∧
      s' = guard.passed S s e.envelopeNonce call.readings := by
  obtain ⟨env, f, b, made⟩ := e.exists_made
  obtain ⟨nonce, stamp⟩ := made.envelope_facts
  have found := genuine.packageEnvelope_eq aead json made
  simp only [receivePayload, resolved, openPackage, found] at returned
  cases opened : B.openFrom S s env.toDict call.sender.card (some guard) call.readings with
  | mk result s₁ =>
      rw [opened] at returned
      cases result with
      | error err => cases returned
      | ok plaintext =>
          obtain ⟨_, admits, state⟩ := openFrom_done opened
          have first : (B.openFrom S s env.toDict call.sender.card (some guard)
              call.readings).1 = .ok plaintext := congrArg Prod.fst opened
          obtain ⟨ctx, verified, decrypted⟩ := openFrom_facts first
          have facts := verifyEnvelope_facts verified
          have same : ctx.toSealedFields = f := by
            obtain ⟨sigs, _, written⟩ := made.sealedFor.dict
            have reads := facts.reads
            rw [written] at reads
            rw [reads.unique (reads_context P f sigs)]
            rfl
          have address : e.peer.card.entityId = B.entityId := by
            rw [← facts.addressed, same]
            obtain ⟨_, _, _, _, _, _, rfl⟩ := sealFields_eq_ok.mp made.sealedFor.fields
            rfl
          have plain := made.sealedFor.opens exchange aead (keyed address) same
          rw [decrypted, Except.ok.injEq] at plain
          subst plain
          simp only [genuine.contents_eq aead json made, Prod.mk.injEq, Except.ok.injEq] at returned
          obtain ⟨rfl, rfl⟩ := returned
          rw [nonce, stamp] at admits
          rw [nonce] at state
          exact ⟨rfl, admits, state⟩

/-- A genuine package that is welcome is delivered. -/
theorem SendCall.delivered (exchange : P.ExchangeCorrect) (aead : P.AeadCorrect)
    (signature : P.SignatureCorrect) (json : P.JsonCorrect) {e : SendCall A}
    (welcome : Welcome e B guard S s call.sender call.readings)
    (resolved : call.resolved P.toRuntime B.entityId = .ok package) (genuine : e.Genuine package) :
    receivePayload B guard S s call =
      (.ok e.payload, guard.passed S s e.envelopeNonce call.readings) := by
  obtain ⟨env, f, b, made⟩ := e.exists_made
  obtain ⟨nonce, stamp⟩ := made.envelope_facts
  have found := genuine.packageEnvelope_eq aead json made
  have admits : Admits guard S s env.timestamp env.envelopeNonce call.readings := by
    rw [stamp, nonce]
    exact welcome.admits
  have opens := made.sealedFor.openFrom exchange aead signature welcome.cardId welcome.keys
    welcome.senderCard welcome.valid admits
  cases opened : B.openFrom S s env.toDict call.sender.card (some guard) call.readings with
  | mk result s₁ =>
      rw [opened] at opens
      cases opens
      obtain ⟨_, _, rfl⟩ := openFrom_done opened
      simp only [receivePayload, resolved, openPackage, found, opened,
        genuine.contents_eq aead json made, nonce]

end Secure

end Uxsp
