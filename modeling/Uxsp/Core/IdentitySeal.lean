import Uxsp.Core.Envelope
import Uxsp.Core.Replay

/-!
# `uxsp.core.identity`: sealing and opening

`Identity.sealFor` seals a plaintext for the holder of a card, `Identity.openFrom` opens an envelope
under a replay guard.  A card is checked at one clock reading and a guarded call reads the clock
several times; the readings are arguments.
-/

namespace Uxsp

/-- A public card with what its validity rests on. -/
structure Card extends PublicCard where
  isRevoked : Bool
  revocationReason : Option Str
  validUntil : Option Str

/-- `public_card()`. -/
def Identity.card {P : Platform} (i : Identity P) : Card where
  toPublicCard := i.publicCard
  isRevoked := false
  revocationReason := none
  validUntil := none

namespace Card

/-- The card is past its `valid_until`. -/
def isExpired (R : Runtime) (card : Card) (now : ℚ) : Except PyErr Bool :=
  match card.validUntil with
  | some (c :: s) => do
      let validUntil ← R.fromIsoFormat (c :: s)
      return decide (validUntil < now)
  | _ => .ok false

def revokedError (card : Card) : PyErr :=
  let reason : Msg := match card.revocationReason with
    | some (c :: s) => [" (reason: ", .str (c :: s), ")"]
    | _ => []
  ⟨.cardRevokedError, [.lit "PublicCard for entity '", .str card.entityId,
    .lit "' has been revoked"] ++ reason ++ [.lit "."]⟩

/-- The card is neither revoked nor expired. -/
def verifyValidity (R : Runtime) (card : Card) (now : ℚ) : Except PyErr Unit := do
  ensure (!card.isRevoked) card.revokedError
  let expired ← card.isExpired R now
  ensure (!expired) ⟨.cardExpiredError, ["PublicCard for entity '", .str card.entityId,
    "' expired at ", .str (card.validUntil.getD []), "."]⟩

end Card

namespace Identity

variable {P : Platform}

/-- Encrypt and sign plaintext for the given recipient. -/
def sealFor (i : Identity P) (plaintext : Bytes) (recipientCard : Card) (checked now : ℚ)
    (coins : SealCoins) : Except PyErr Envelope := do
  ensure (!recipientCard.isRevoked) ⟨.cardRevokedError,
    ["Cannot seal for revoked card: ", .str recipientCard.entityId]⟩
  recipientCard.verifyValidity P.toRuntime checked
  let raw ← Hybrid.seal P plaintext i.keypair recipientCard.publicKeys i.entityId
    recipientCard.entityId now [] coins
  Envelope.fromDict P.toRuntime (.dict raw)

/-- The clock readings of `open_from`, in the order they are taken. -/
structure OpenReadings where
  checked : ℚ
  fresh : ℚ
  seen : ℚ
  verify : ℚ
  again : ℚ
  mark : ℚ
  checked_le : checked ≤ fresh
  fresh_le : fresh ≤ seen
  seen_le : seen ≤ verify
  verify_le : verify ≤ again
  again_le : again ≤ mark

/-- The checks of `open_from` before it asks its guard. -/
def openChecks (i : Identity P) (envelope : Dict) (senderCard : Card) (guard : Option ReplayGuard)
    (checked : ℚ) : Except PyErr ReplayGuard := do
  ensure (!senderCard.isRevoked) ⟨.cardRevokedError,
    ["Cannot open from revoked card: ", .str senderCard.entityId]⟩
  senderCard.verifyValidity P.toRuntime checked
  match guard with
  | none => .error ⟨.runtimeError, ["CRITICAL SECURITY ERROR: open_from() must be called with a ",
      "replay_guard. Replay protection is mandatory in UXSP."]⟩
  | some guard => do
      ensure (Val.eqStr (envelope.get? "recipient_id") i.entityId) ⟨.valueError,
        ["Recipient ID mismatch: envelope not intended for this identity."]⟩
      ensure (Val.eqStr (envelope.get? "sender_id") senderCard.entityId) ⟨.valueError,
        ["Sender ID mismatch: envelope sender does not match sender card."]⟩
      return guard

/-- Verify, mark and decrypt, once the guard has let the envelope pass. -/
def openGuarded (i : Identity P) (S : SeenStore) (s : S.State) (envelope : Dict)
    (senderCard : Card) (guard : ReplayGuard) (t : OpenReadings) : Except PyErr Bytes × S.State :=
  match verifyEnvelope P envelope senderCard.publicKeys i.entityId senderCard.entityId guard.window
    guard.clockSkew t.verify with
  | .error e => (.error e, s)
  | .ok verified =>
      match guard.commit S P.toRuntime s (.dict envelope) t.again t.mark with
      | (.error e, s) => (.error e, s)
      | (.ok (), s) => (decryptVerifiedEnvelope P verified i.keypair [], s)

/-- Decrypt and authenticate an envelope of the holder of a card. -/
def openFrom (i : Identity P) (S : SeenStore) (s : S.State) (envelope : Dict) (senderCard : Card)
    (guard : Option ReplayGuard) (t : OpenReadings) : Except PyErr Bytes × S.State :=
  match i.openChecks envelope senderCard guard t.checked with
  | .error e => (.error e, s)
  | .ok guard =>
      match guard.precheck S P.toRuntime s (.dict envelope) t.fresh t.seen with
      | (.error e, s) => (.error e, s)
      | (.ok (), s) => i.openGuarded S s envelope senderCard guard t

end Identity

/-! ## What a call of `open_from` has done -/

variable {P : Platform} {i : Identity P} {S : SeenStore} {s : S.State} {envelope : Dict}
  {senderCard : Card} {guard : ReplayGuard} {t : Identity.OpenReadings} {plaintext : Bytes}

theorem openChecks_eq_ok {g : ReplayGuard} {checked : ℚ} :
    i.openChecks envelope senderCard (some guard) checked = .ok g ↔
      senderCard.isRevoked = false ∧ senderCard.verifyValidity P.toRuntime checked = .ok () ∧
      envelope.get? "recipient_id" = some (.str i.entityId) ∧
      envelope.get? "sender_id" = some (.str senderCard.entityId) ∧ g = guard := by
  simp only [Identity.openChecks, bind_eq_ok, ensure_eq_ok, pure_eq_ok, Val.eqStr_eq_true,
    Bool.not_eq_true']
  constructor
  · rintro ⟨_, live, _, valid, _, recipient, _, sender, rfl⟩
    exact ⟨live, valid, recipient, sender, rfl⟩
  · rintro ⟨live, valid, recipient, sender, rfl⟩
    exact ⟨(), live, (), valid, (), recipient, (), sender, rfl⟩

/-- An envelope that was opened was verified and decrypted. -/
theorem openFrom_facts
    (opened : (i.openFrom S s envelope senderCard (some guard) t).1 = .ok plaintext) :
    ∃ ctx, verifyEnvelope P envelope senderCard.publicKeys i.entityId senderCard.entityId
        guard.window guard.clockSkew t.verify = .ok ctx ∧
      decryptVerifiedEnvelope P ctx i.keypair [] = .ok plaintext := by
  unfold Identity.openFrom at opened
  cases checked : i.openChecks envelope senderCard (some guard) t.checked with
  | error e => rw [checked] at opened; cases opened
  | ok g =>
      rw [checked] at opened
      obtain rfl := (openChecks_eq_ok.mp checked).2.2.2.2
      simp only at opened
      generalize g.precheck S P.toRuntime s (.dict envelope) t.fresh t.seen = pre at opened
      rcases pre with ⟨_ | _, s'⟩
      · cases opened
      · simp only [Identity.openGuarded] at opened
        cases verified : verifyEnvelope P envelope senderCard.publicKeys i.entityId
            senderCard.entityId g.window g.clockSkew t.verify with
        | error e => rw [verified] at opened; cases opened
        | ok ctx =>
            rw [verified] at opened
            simp only at opened
            generalize g.commit S P.toRuntime s' (.dict envelope) t.again t.mark = marked at opened
            rcases marked with ⟨_ | _, s''⟩
            · cases opened
            · exact ⟨ctx, rfl, opened⟩

/-! ## The signed bytes determine the signed fields -/

theorem timestampBytes_inj {R : Runtime} {m n : ℤ} {b : Bytes} (hm : timestampBytes R m = .ok b)
    (hn : timestampBytes R n = .ok b) : m = n := by
  have same := Str.encode_inj (timestampBytes_eq_ok.mp hm).2 (timestampBytes_eq_ok.mp hn).2
  exact Str.ofInt_inj.mp same

theorem SealedFields.signable_inj {R : Runtime} {f f' : SealedFields} {b : Bytes}
    (hf : f.signable R = .ok b) (hf' : f'.signable R = .ok b) : f = f' := by
  simp only [SealedFields.signable, bind_eq_ok, Str.utf8_eq_ok] at hf hf'
  rcases hf with ⟨s, es, r, er, t, et, n, en, bound⟩
  rcases hf' with ⟨s', es', r', er', t', et', n', en', bound'⟩
  have fields := bindFields_inj bound bound'
  simp only [List.cons.injEq, and_true, true_and] at fields
  rcases fields with ⟨ciphertext, nonce, rfl, rfl, rfl, rfl, ephemeralPub, kemCiphertext⟩
  cases f
  cases f'
  simp only at ciphertext nonce ephemeralPub kemCiphertext es es' er er' et et' en en'
  subst ciphertext nonce ephemeralPub kemCiphertext
  rw [Str.encode_inj es es', Str.encode_inj er er', timestampBytes_inj et et',
    Str.encode_inj en en']

/-! ## What a sealed envelope is -/

/-- The envelope was sealed for the card, and holds these signed fields. -/
structure SealedFor (i : Identity P) (plaintext : Bytes) (recipientCard : Card) (now : ℚ)
    (coins : SealCoins) (e : Envelope) (f : SealedFields) (b : Bytes) : Prop where
  dict : ∃ sigs, hybridSign P b i.keypair coins.signing = .ok sigs ∧ e.toDict = sealDict f sigs
  signable : f.signable P.toRuntime = .ok b
  fields : sealFields P plaintext recipientCard.publicKeys i.entityId recipientCard.entityId now []
    coins = .ok f
  small : Envelope.fromDict P.toRuntime (.dict e.toDict) = .ok e

theorem sealFor_facts {i : Identity P} {plaintext : Bytes} {recipientCard : Card}
    {checked now : ℚ} {coins : SealCoins} {e : Envelope}
    (made : i.sealFor plaintext recipientCard checked now coins = .ok e) :
    ∃ f b, SealedFor i plaintext recipientCard now coins e f b := by
  simp only [Identity.sealFor, Hybrid.seal, bind_eq_ok, pure_eq_ok] at made
  rcases made with ⟨_, _, _, _, raw, ⟨f, fields, b, signable, sigs, signed, rfl⟩, built⟩
  have dict := Envelope.toDict_of_sealDict built
  exact ⟨f, b, ⟨sigs, signed, dict⟩, signable, fields, dict ▸ built⟩

theorem sealFields_eq_ok {plaintext : Bytes} {recipient : PublicKeys} {senderId recipientId : Str}
    {now : ℚ} {ad : Bytes} {coins : SealCoins} {f : SealedFields} :
    sealFields P plaintext recipient senderId recipientId now ad coins = .ok f ↔
      senderId ≠ [] ∧ recipientId ≠ [] ∧ ∃ exchange encrypted,
        hybridSenderExchange P recipient coins.exchange = .ok exchange ∧
        Symmetric.encrypt P plaintext exchange.sharedKey ad coins.nonce = .ok encrypted ∧
        f = ⟨encrypted.ciphertext, encrypted.nonce, senderId, recipientId, ⌊now⌋,
          coins.envelopeNonce.1.hex, exchange.ephemeralPub, exchange.kemCiphertext⟩ := by
  simp only [sealFields, bind_eq_ok, ensure_eq_ok, pure_eq_ok, decide_eq_true_eq]
  constructor
  · rintro ⟨_, sender, _, recipient, exchange, exchanged, encrypted, sealed, rfl⟩
    exact ⟨sender, recipient, exchange, encrypted, exchanged, sealed, rfl⟩
  · rintro ⟨sender, recipient, exchange, encrypted, exchanged, sealed, rfl⟩
    exact ⟨(), sender, (), recipient, exchange, exchanged, encrypted, sealed, rfl⟩

/-- A sealed envelope has the signed fields in it. -/
theorem SealedFor.envelope_eq {i : Identity P} {plaintext : Bytes} {recipientCard : Card} {now : ℚ}
    {coins : SealCoins} {e : Envelope} {f : SealedFields} {b : Bytes}
    (made : SealedFor i plaintext recipientCard now coins e f b) :
    e.senderId = f.senderId ∧ e.recipientId = f.recipientId ∧ e.timestamp = f.timestamp ∧
      e.envelopeNonce = f.envelopeNonce := by
  rcases made.dict with ⟨sigs, _, same⟩
  simp only [Envelope.toDict, sealDict, List.cons.injEq, Prod.mk.injEq, Val.str.injEq,
    Val.int.injEq, true_and, and_true] at same
  exact ⟨same.2.1, same.2.2.1, same.2.2.2.1, same.2.2.2.2.1⟩

/-- What was sealed for some keys is decrypted with them. -/
theorem decrypt_sealFields (correct : P.ExchangeCorrect) (aead : P.AeadCorrect)
    {keypair : HybridKeypair} (generated : keypair.Generated P) {plaintext ad : Bytes}
    {senderId recipientId : Str} {now : ℚ} {coins : SealCoins} {f : SealedFields}
    (fields : sealFields P plaintext (extractPublicKeys keypair) senderId recipientId now ad coins =
      .ok f) {ctx : VerifiedContext} (same : ctx.toSealedFields = f) :
    decryptVerifiedEnvelope P ctx keypair ad = .ok plaintext := by
  obtain ⟨_, _, exchange, encrypted, exchanged, sealed, rfl⟩ := sealFields_eq_ok.mp fields
  obtain ⟨fields, c, p⟩ := ctx
  subst same
  have key := hybridRecipientExchange_sender correct generated exchanged
  simp only [decryptVerifiedEnvelope, key]
  exact Symmetric.decrypt_encrypt aead sealed

/-- The recipient opens what was sealed for its keys. -/
theorem SealedFor.opens (correct : P.ExchangeCorrect) (aead : P.AeadCorrect) {i r : Identity P}
    {plaintext : Bytes} {recipientCard : Card} {now : ℚ} {coins : SealCoins} {e : Envelope}
    {f : SealedFields} {b : Bytes} (made : SealedFor i plaintext recipientCard now coins e f b)
    (keys : recipientCard.publicKeys = extractPublicKeys r.keypair) {ctx : VerifiedContext}
    (same : ctx.toSealedFields = f) :
    decryptVerifiedEnvelope P ctx r.keypair [] = .ok plaintext := by
  have fields := made.fields
  rw [keys] at fields
  exact decrypt_sealFields correct aead r.generated fields same

/-- The context of a sealed envelope. -/
def SealedFields.context (f : SealedFields) (sigs : Signatures) : VerifiedContext :=
  ⟨f, .str sigs.classicalSig, .str sigs.pqcSig⟩

@[simp] theorem hexField_str {envelope : Dict} {field : Str} {b : Bytes}
    (found : envelope.get? field = some (.str b.hex)) : hexField envelope field = .ok b := by
  refine hexField_eq_ok.mpr ⟨_, found, ?_⟩
  rw [fromHexVal, Str.fromHex_hex]

/-- A sealed envelope reads as its context. -/
theorem reads_context (P : Platform) (f : SealedFields) (sigs : Signatures) :
    VerifiedContext.Reads P (sealDict f sigs) (f.context sigs) where
  timestamp := ⟨.int f.timestamp, by simp [sealDict], rfl⟩
  senderId := by simp [sealDict, SealedFields.context]
  recipientId := by simp [sealDict, SealedFields.context]
  envelopeNonce := by simp [sealDict, SealedFields.context]
  ciphertext := hexField_str (by simp [sealDict, SealedFields.context])
  nonce := hexField_str (by simp [sealDict, SealedFields.context])
  ephemeralPub := hexField_str (by simp [sealDict, SealedFields.context])
  kemCiphertext := hexField_str (by simp [sealDict, SealedFields.context])
  classicalSig := by simp [sealDict, SealedFields.context]
  pqcSig := by simp [sealDict, SealedFields.context]

/-- A dict reads as one context at most. -/
theorem VerifiedContext.Reads.unique {envelope : Dict} {ctx ctx' : VerifiedContext}
    (reads : ctx.Reads P envelope) (reads' : ctx'.Reads P envelope) : ctx = ctx' := by
  rcases ctx with ⟨⟨c, n, si, ri, ts, en, ep, kc⟩, cs, ps⟩
  rcases ctx' with ⟨⟨c', n', si', ri', ts', en', ep', kc'⟩, cs', ps'⟩
  rcases reads with ⟨⟨v, stamp, value⟩, hsi, hri, hen, hc, hn, hep, hkc, hcs, hps⟩
  rcases reads' with ⟨⟨v', stamp', value'⟩, hsi', hri', hen', hc', hn', hep', hkc', hcs', hps'⟩
  rw [stamp, Option.some.injEq] at stamp'
  subst stamp'
  simp only at *
  rw [hsi, Option.some.injEq, Val.str.injEq] at hsi'
  rw [hri, Option.some.injEq, Val.str.injEq] at hri'
  rw [hen, Option.some.injEq, Val.str.injEq] at hen'
  rw [hcs, Option.some.injEq] at hcs'
  rw [hps, Option.some.injEq] at hps'
  rw [hc, Except.ok.injEq] at hc'
  rw [hn, Except.ok.injEq] at hn'
  rw [hep, Except.ok.injEq] at hep'
  rw [hkc, Except.ok.injEq] at hkc'
  rw [value, Except.ok.injEq] at value'
  subst hsi' hri' hen' hcs' hps' hc' hn' hep' hkc' value'
  rfl

/-- A sealed envelope is verified by its recipient while it is fresh. -/
theorem verifyEnvelope_sealDict (correct : P.SignatureCorrect) {keypair : HybridKeypair}
    (generated : keypair.Generated P) {f : SealedFields} {b : Bytes} {coins : Urandom 32}
    {sigs : Signatures} (signable : f.signable P.toRuntime = .ok b)
    (signed : hybridSign P b keypair coins = .ok sigs) (sender : f.senderId ≠ [])
    (recipient : f.recipientId ≠ []) (nonce : f.envelopeNonce ≠ []) {maxAge clockSkew : ℤ}
    {now : ℚ} (notStale : now - f.timestamp ≤ maxAge) (notFuture : -clockSkew ≤ now - f.timestamp) :
    verifyEnvelope P (sealDict f sigs) (extractPublicKeys keypair) f.recipientId f.senderId maxAge
      clockSkew now = .ok (f.context sigs) := by
  have reads := reads_context P f sigs
  have accepted := hybridVerify_sign correct generated signed
  have opened : requireOpenContext P (sealDict f sigs) f.recipientId maxAge clockSkew now =
      .ok (f.context sigs) := by
    simp only [requireOpenContext, bind_eq_ok, ensure_eq_ok, intTimestamp_eq_ok, catching_eq_ok,
      decodeHexFields_eq_ok, nonEmptyField_eq_ok, Dict.item_eq_ok, pure_eq_ok, Val.eqStr_eq_true,
      decide_eq_true_eq, requireFields_eq_ok]
    refine ⟨(), by simp [sealDict], (), by simp [sealDict, Val.eqStr], (),
      by simp [SEAL_REQUIRED, sealDict, Dict.has], f.timestamp, reads.timestamp, (), notStale, (),
      notFuture, (), reads.recipientId, _, ⟨reads.senderId, sender⟩, _,
      ⟨reads.recipientId, recipient⟩, _, ⟨reads.envelopeNonce, nonce⟩,
      ⟨f.ciphertext, f.nonce, f.ephemeralPub, f.kemCiphertext⟩,
      ⟨reads.ciphertext, reads.nonce, reads.ephemeralPub, reads.kemCiphertext⟩, _,
      reads.classicalSig, _, reads.pqcSig, rfl⟩
  simp only [verifyEnvelope, opened, bind_eq_ok, ensure_eq_ok, pure_eq_ok, Except.ok.injEq,
    exists_eq_left']
  exact ⟨(), beq_self_eq_true _, b, signable, true, accepted, (), rfl, trivial⟩

/-! ## Opening what was sealed -/

/-- A valid card is not revoked. -/
theorem Card.verifyValidity_live {R : Runtime} {card : Card} {now : ℚ}
    (valid : card.verifyValidity R now = .ok ()) : card.isRevoked = false := by
  simp only [Card.verifyValidity, bind_eq_ok, ensure_eq_ok, Bool.not_eq_true'] at valid
  rcases valid with ⟨_, live, _⟩
  exact live

/-- The envelope a guard has converted is the one it was given. -/
theorem normalise_toDict {R : Runtime} {e : Envelope} (nonce : e.envelopeNonce ≠ []) :
    ReplayGuard.normalise R (.dict e.toDict) = .ok ⟨e.toDict, e.timestamp, e.envelopeNonce⟩ := by
  have guarded : ReplayGuard.guardNonce e.toDict = .ok e.envelopeNonce := by
    have found : Dict.get? e.toDict "envelope_nonce" = some (.str e.envelopeNonce) := by
      simp [Envelope.toDict]
    unfold ReplayGuard.guardNonce
    rw [found]
    cases drawn : e.envelopeNonce with
    | nil => exact absurd drawn nonce
    | cons c s => rfl
  simp only [ReplayGuard.normalise, bind_eq_ok, requireFields_eq_ok, intTimestamp_eq_ok, guarded,
    pure_eq_ok, Except.ok.injEq, exists_eq_left']
  refine ⟨(), ?_, e.timestamp, ⟨.int e.timestamp, by simp [Envelope.toDict], rfl⟩, rfl⟩
  simp [Envelope.toDict, Dict.has]

theorem normalise_toDict_eq_ok {R : Runtime} {e : Envelope} {n : ReplayGuard.Normalised} :
    ReplayGuard.normalise R (.dict e.toDict) = .ok n ↔
      e.envelopeNonce ≠ [] ∧ n = ⟨e.toDict, e.timestamp, e.envelopeNonce⟩ := by
  by_cases nonce : e.envelopeNonce = []
  · refine ⟨fun normal => ?_, fun wanted => absurd nonce wanted.1⟩
    have refused : ReplayGuard.guardNonce e.toDict ≠ .ok n.envelopeNonce := by
      simp [ReplayGuard.guardNonce, Envelope.toDict, nonce]
    simp only [ReplayGuard.normalise, bind_eq_ok, pure_eq_ok] at normal
    obtain ⟨_, _, _, _, _, guarded, rfl⟩ := normal
    exact absurd guarded refused
  · rw [normalise_toDict nonce, Except.ok.injEq, eq_comm]
    exact ⟨fun same => ⟨nonce, same⟩, fun wanted => wanted.2⟩

/-- The guard lets an envelope pass: it is fresh from the first reading to the last, and the store
takes its nonce. -/
structure Admits (guard : ReplayGuard) (S : SeenStore) (s : S.State) (timestamp : ℤ) (nonce : Str)
    (t : Identity.OpenReadings) : Prop where
  notStale : t.again - timestamp ≤ guard.window
  notFuture : timestamp ≤ t.fresh + guard.clockSkew
  unseen : (S.isSeen s nonce t.seen).1 = .ok false
  marked : (S.markUsed (S.isSeen s nonce t.seen).2 nonce guard.ttl t.mark).1 = .ok true

theorem Identity.OpenReadings.fresh_le_verify (t : Identity.OpenReadings) : t.fresh ≤ t.verify :=
  t.fresh_le.trans t.seen_le

/-- The guard's two checks of an admitted envelope. -/
theorem Admits.precheck {R : Runtime} {e : Envelope} (nonce : e.envelopeNonce ≠ [])
    (admits : Admits guard S s e.timestamp e.envelopeNonce t) :
    guard.precheck S R s (.dict e.toDict) t.fresh t.seen =
      (.ok (), (S.isSeen s e.envelopeNonce t.seen).2) := by
  have early : t.fresh ≤ t.again := t.fresh_le_verify.trans t.verify_le
  have fresh : guard.fresh R (.dict e.toDict) t.fresh =
      .ok ⟨e.toDict, e.timestamp, e.envelopeNonce⟩ :=
    ReplayGuard.fresh_eq_ok.mpr ⟨normalise_toDict nonce,
      (sub_le_sub_right early _).trans admits.notStale, admits.notFuture⟩
  have unseen := admits.unseen
  simp only [ReplayGuard.precheck, fresh, ReplayGuard.refuseSeen]
  generalize S.isSeen s e.envelopeNonce t.seen = peeked at unseen ⊢
  rcases peeked with ⟨_, s'⟩
  cases unseen
  rfl

theorem Admits.commit {R : Runtime} {e : Envelope} (nonce : e.envelopeNonce ≠ [])
    (admits : Admits guard S s e.timestamp e.envelopeNonce t) :
    (guard.commit S R (S.isSeen s e.envelopeNonce t.seen).2 (.dict e.toDict) t.again t.mark).1 =
      .ok () := by
  have early : t.fresh ≤ t.again := t.fresh_le_verify.trans t.verify_le
  have fresh : guard.fresh R (.dict e.toDict) t.again =
      .ok ⟨e.toDict, e.timestamp, e.envelopeNonce⟩ :=
    ReplayGuard.fresh_eq_ok.mpr ⟨normalise_toDict nonce, admits.notStale,
      admits.notFuture.trans (add_le_add_left early _)⟩
  simp only [ReplayGuard.commit, fresh]
  exact ReplayGuard.markFirst_eq_ok.mpr admits.marked

theorem verifyEnvelope_toDict (signature : P.SignatureCorrect) {sender : Identity P} {card : Card}
    {now : ℚ} {coins : SealCoins} {e : Envelope} {f : SealedFields} {b : Bytes}
    (made : SealedFor sender plaintext card now coins e f b)
    (admits : Admits guard S s e.timestamp e.envelopeNonce t) :
    ∃ ctx : VerifiedContext, ctx.toSealedFields = f ∧
      verifyEnvelope P e.toDict (extractPublicKeys sender.keypair) card.entityId sender.entityId
        guard.window guard.clockSkew t.verify = .ok ctx := by
  rcases made.dict with ⟨sigs, signed, written⟩
  rcases made.envelope_eq with ⟨_, _, stamp, _⟩
  have notStale : t.verify - f.timestamp ≤ guard.window := by
    rw [← stamp]
    exact (sub_le_sub_right t.verify_le _).trans admits.notStale
  have notFuture : -(guard.clockSkew : ℚ) ≤ t.verify - f.timestamp := by
    have early := t.fresh_le_verify
    have allowed := admits.notFuture
    rw [stamp] at allowed
    linarith
  have fields := made.fields
  rcases sealFields_eq_ok.mp fields with ⟨senderId, recipientId, _, _, _, _, rfl⟩
  have nonce : coins.envelopeNonce.1.hex ≠ [] := by
    intro none
    have size := congrArg List.length none
    rw [Bytes.length_hex, coins.envelopeNonce.2] at size
    cases size
  rw [written]
  exact ⟨_, rfl, verifyEnvelope_sealDict signature sender.generated made.signable signed senderId
    recipientId nonce notStale notFuture⟩

/-- The holder of the keys opens an admitted envelope that was sealed for them. -/
theorem SealedFor.openFrom (exchange : P.ExchangeCorrect) (aead : P.AeadCorrect)
    (signature : P.SignatureCorrect) {sender recipient : Identity P} {card : Card} {now : ℚ}
    {coins : SealCoins} {e : Envelope} {f : SealedFields} {b : Bytes}
    (made : SealedFor sender plaintext card now coins e f b)
    (address : card.entityId = recipient.entityId)
    (keys : card.publicKeys = extractPublicKeys recipient.keypair)
    (origin : senderCard.toPublicCard = sender.publicCard)
    (valid : senderCard.verifyValidity P.toRuntime t.checked = .ok ())
    (admits : Admits guard S s e.timestamp e.envelopeNonce t) :
    (recipient.openFrom S s e.toDict senderCard (some guard) t).1 = .ok plaintext := by
  have senderId : senderCard.entityId = sender.entityId := congrArg PublicCard.entityId origin
  have senderKeys : senderCard.publicKeys = extractPublicKeys sender.keypair :=
    congrArg PublicCard.publicKeys origin
  rcases sealFields_eq_ok.mp made.fields with ⟨_, _, _, _, _, _, same⟩
  rcases made.envelope_eq with ⟨hsender, hrecipient, _, hnonce⟩
  have nonce : e.envelopeNonce ≠ [] := by
    intro none
    have size := congrArg List.length (hnonce.symm.trans none)
    rw [same, Bytes.length_hex, coins.envelopeNonce.2] at size
    cases size
  have checks : recipient.openChecks e.toDict senderCard (some guard) t.checked = .ok guard := by
    refine openChecks_eq_ok.mpr ⟨Card.verifyValidity_live valid, valid, ?_, ?_, rfl⟩
    · rw [← address]
      simp [Envelope.toDict, hrecipient, same]
    · rw [senderId]
      simp [Envelope.toDict, hsender, same]
  rcases verifyEnvelope_toDict signature made admits with ⟨ctx, fields, verified⟩
  rw [address, ← senderKeys, ← senderId] at verified
  have committed := admits.commit (R := P.toRuntime) nonce
  have opened := made.opens exchange aead keys fields
  simp only [Identity.openFrom, checks, admits.precheck nonce, Identity.openGuarded, verified]
  generalize guard.commit S P.toRuntime (S.isSeen s e.envelopeNonce t.seen).2 (.dict e.toDict)
    t.again t.mark = result at committed ⊢
  rcases result with ⟨_, s'⟩
  cases committed
  exact opened

end Uxsp
