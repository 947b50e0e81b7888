import Uxsp.Crypto.Hybrid

/-!
# `uxsp.crypto.hybrid`: sealed envelopes

`seal` encrypts and signs a plaintext for a recipient; `verifyEnvelope` checks the metadata and the
signatures of an envelope and `decryptVerifiedEnvelope` opens what it returns.  `now` is the clock
reading of a call.  Envelopes are dicts, so that a field holds whatever a dict may hold.
-/

namespace Uxsp

/-- The random bytes of one sealed envelope. -/
structure SealCoins where
  exchange : ExchangeCoins
  nonce : Urandom NONCE_SIZE
  envelopeNonce : Urandom 16
  signing : Urandom 32

/-- What the signatures of an envelope cover. -/
structure SealedFields where
  ciphertext : Bytes
  nonce : Bytes
  senderId : Str
  recipientId : Str
  timestamp : ℤ
  envelopeNonce : Str
  ephemeralPub : Bytes
  kemCiphertext : Bytes

/-- The canonical signable bytes of an envelope. -/
def SealedFields.signable (R : Runtime) (f : SealedFields) : Except PyErr Bytes := do
  let senderId ← f.senderId.utf8
  let recipientId ← f.recipientId.utf8
  let timestamp ← timestampBytes R f.timestamp
  let envelopeNonce ← f.envelopeNonce.utf8
  bindFields [.lit "UXSP-1", f.ciphertext, f.nonce, senderId, recipientId, timestamp,
    envelopeNonce, f.ephemeralPub, f.kemCiphertext]

def sealDict (f : SealedFields) (sigs : Signatures) : Dict :=
  [("version", .str "UXSP-1"), ("sender_id", .str f.senderId),
    ("recipient_id", .str f.recipientId), ("timestamp", .int f.timestamp),
    ("envelope_nonce", .str f.envelopeNonce), ("ciphertext", .str f.ciphertext.hex),
    ("nonce", .str f.nonce.hex), ("ephemeral_pub", .str f.ephemeralPub.hex),
    ("kem_ciphertext", .str f.kemCiphertext.hex), ("classical_sig", .str sigs.classicalSig),
    ("pqc_sig", .str sigs.pqcSig)]

/-- What `seal` has put together before it signs. -/
def sealFields (P : Platform) (plaintext : Bytes) (recipient : PublicKeys)
    (senderId recipientId : Str) (now : ℚ) (associatedData : Bytes) (coins : SealCoins) :
    Except PyErr SealedFields := do
  ensure (senderId ≠ []) ⟨.valueError, ["sender_id cannot be empty"]⟩
  ensure (recipientId ≠ []) ⟨.valueError, ["recipient_id cannot be empty"]⟩
  let exchange ← hybridSenderExchange P recipient coins.exchange
  let encrypted ← Symmetric.encrypt P plaintext exchange.sharedKey associatedData coins.nonce
  return {
    ciphertext := encrypted.ciphertext
    nonce := encrypted.nonce
    senderId := senderId
    recipientId := recipientId
    timestamp := ⌊now⌋
    envelopeNonce := coins.envelopeNonce.1.hex
    ephemeralPub := exchange.ephemeralPub
    kemCiphertext := exchange.kemCiphertext }

/-- Encrypt and sign plaintext for a specific recipient. -/
def Hybrid.seal (P : Platform) (plaintext : Bytes) (sender : HybridKeypair) (recipient : PublicKeys)
    (senderId recipientId : Str) (now : ℚ) (associatedData : Bytes) (coins : SealCoins) :
    Except PyErr Dict := do
  let fields ← sealFields P plaintext recipient senderId recipientId now associatedData coins
  let signable ← fields.signable P.toRuntime
  let sigs ← hybridSign P signable sender coins.signing
  return sealDict fields sigs

/-! ## Opening -/

def SEAL_REQUIRED : List String :=
  ["ciphertext", "nonce", "sender_id", "recipient_id", "timestamp", "envelope_nonce",
    "ephemeral_pub", "classical_sig", "kem_ciphertext", "pqc_sig"]

/-- The validated context of an envelope: its signed fields and the two signatures. -/
structure VerifiedContext extends SealedFields where
  classicalSig : Val
  pqcSig : Val

/-- Every required field is present; the first that is not is reported. -/
def requireFields (envelope : Dict) (required : List String) (missing : String → PyErr) :
    Except PyErr Unit :=
  match required.find? fun (field : String) => !envelope.has field with
  | some field => .error (missing field)
  | none => .ok ()

def envelopeInvalid (R : Runtime) (msg : Msg) : PyErr := R.err .envelopeValidationError msg

/-- `int(envelope["timestamp"])`, with its failure turned into `invalid`. -/
def intTimestamp (R : Runtime) (envelope : Dict) (invalid : PyErr) : Except PyErr ℤ :=
  catching [.typeError, .valueError] (fun _ => invalid)
    (do R.int (← envelope.item "timestamp"))

/-- A field that must be a non-empty string. -/
def nonEmptyField (envelope : Dict) (field : String) : Except PyErr Str :=
  match envelope.get? field with
  | some (.str (c :: s)) => .ok (c :: s)
  | _ => .error ⟨.envelopeValidationError,
      ["Envelope field '", field, "' must be a non-empty string."]⟩

/-- `bytes.fromhex(envelope[field])`. -/
def hexField (envelope : Dict) (field : Str) : Except PyErr Bytes := do
  fromHexVal (← envelope.item field)

/-- The four hex fields of an envelope. -/
structure SealedBytes where
  ciphertext : Bytes
  nonce : Bytes
  ephemeralPub : Bytes
  kemCiphertext : Bytes

def decodeHexFields (envelope : Dict) : Except PyErr SealedBytes := do
  let ciphertext ← hexField envelope "ciphertext"
  let nonce ← hexField envelope "nonce"
  let ephemeralPub ← hexField envelope "ephemeral_pub"
  let kemCiphertext ← hexField envelope "kem_ciphertext"
  return ⟨ciphertext, nonce, ephemeralPub, kemCiphertext⟩

/-- Validate all required fields, the timestamp and the recipient of an envelope. -/
def requireOpenContext (P : Platform) (envelope : Dict) (expectedRecipientId : Str)
    (maxAge clockSkew : ℤ) (now : ℚ) : Except PyErr VerifiedContext := do
  let R := P.toRuntime
  ensure (Val.eqStr (envelope.get? "version") "UXSP-1") (envelopeInvalid R
    ["Unknown envelope version: ", .val ((envelope.get? "version").getD .none)])
  ensure (!Val.eqStr (envelope.get? "pqc_mode") "none") (envelopeInvalid R
    ["Classical-only envelope rejected (allow_classical_only=False)."])
  requireFields envelope SEAL_REQUIRED fun field => envelopeInvalid R
    ["Envelope missing required field: '", field,
      "'. Possible downgrade attack or corrupted envelope."]
  let ts ← intTimestamp R envelope (envelopeInvalid R
    ["Envelope timestamp must be a Unix integer, got ",
      .repr ((envelope.get? "timestamp").getD .none), "."])
  let age := now - ts
  ensure (age ≤ maxAge) (envelopeInvalid R
    ["Envelope is ", .rounded age, "s old. Possible replay attack."])
  ensure (-clockSkew ≤ age) (envelopeInvalid R
    ["Envelope timestamp is ", .rounded (-age), "s in the future. Clock skew too large."])
  ensure (Val.eqStr (envelope.get? "recipient_id") expectedRecipientId) (envelopeInvalid R
    ["Envelope recipient_id '", .val ((envelope.get? "recipient_id").getD .none),
      "' does not match expected '", .str expectedRecipientId,
      "'. Possible misrouted or replayed envelope."])
  let senderId ← nonEmptyField envelope "sender_id"
  let recipientId ← nonEmptyField envelope "recipient_id"
  let envelopeNonce ← nonEmptyField envelope "envelope_nonce"
  let bytes ← catching [.valueError, .typeError] (fun e => ⟨.envelopeValidationError,
      [.lit "Envelope contains invalid hex data: "] ++ e.msg ++
        [.lit ". Possible malformed or tampered envelope."]⟩)
    (decodeHexFields envelope)
  return {
    ciphertext := bytes.ciphertext
    nonce := bytes.nonce
    senderId := senderId
    recipientId := recipientId
    timestamp := ts
    envelopeNonce := envelopeNonce
    ephemeralPub := bytes.ephemeralPub
    kemCiphertext := bytes.kemCiphertext
    classicalSig := ← envelope.item "classical_sig"
    pqcSig := ← envelope.item "pqc_sig" }

/-- Verify all signatures and metadata of an envelope without decrypting it. -/
def verifyEnvelope (P : Platform) (envelope : Dict) (sender : PublicKeys)
    (expectedRecipientId expectedSenderId : Str) (maxAge clockSkew : ℤ) (now : ℚ) :
    Except PyErr VerifiedContext := do
  let ctx ← requireOpenContext P envelope expectedRecipientId maxAge clockSkew now
  ensure (ctx.senderId == expectedSenderId) ⟨.envelopeValidationError,
    ["Envelope sender_id '", .str ctx.senderId, "' does not match expected '",
      .str expectedSenderId, "'. Possible sender identity confusion attack."]⟩
  let signable ← ctx.signable P.toRuntime
  let signatureOk ← hybridVerify P signable ctx.classicalSig ctx.pqcSig sender
  ensure signatureOk ⟨.envelopeValidationError,
    ["Signature verification failed. Envelope tampered or sender identity invalid."]⟩
  return ctx

/-- Decrypt an envelope context returned by `verify_envelope`. -/
def decryptVerifiedEnvelope (P : Platform) (ctx : VerifiedContext) (recipient : HybridKeypair)
    (associatedData : Bytes) : Except PyErr Bytes := do
  let sharedKey ← hybridRecipientExchange P ctx.ephemeralPub ctx.kemCiphertext recipient
  Symmetric.decrypt P ctx.ciphertext ctx.nonce sharedKey associatedData

/-- Verify and decrypt a sealed envelope, where both ids are expected. -/
def openSeal (P : Platform) (envelope : Dict) (recipient : HybridKeypair) (sender : PublicKeys)
    (expectedRecipientId expectedSenderId : Str) (maxAge clockSkew : ℤ) (associatedData : Bytes)
    (now : ℚ) : Except PyErr Bytes := do
  let ctx ← verifyEnvelope P envelope sender expectedRecipientId expectedSenderId maxAge clockSkew now
  decryptVerifiedEnvelope P ctx recipient associatedData

/-! ## What verification establishes -/

theorem requireFields_eq_ok {envelope : Dict} {required : List String} {missing : String → PyErr}
    {u : Unit} : requireFields envelope required missing = .ok u ↔
      ∀ field ∈ required, envelope.has (Str.ofString field) = true := by
  unfold requireFields
  cases found : required.find? fun (field : String) => !envelope.has field with
  | some field =>
      have absent := List.find?_some found
      have mem := List.mem_of_find?_eq_some found
      refine ⟨nofun, fun all => ?_⟩
      rw [all field mem] at absent
      cases absent
  | none =>
      refine ⟨fun _ field mem => ?_, fun _ => rfl⟩
      simpa using List.find?_eq_none.mp found field mem

theorem nonEmptyField_eq_ok {envelope : Dict} {field : String} {s : Str} :
    nonEmptyField envelope field = .ok s ↔
      envelope.get? field = some (.str s) ∧ s ≠ [] := by
  unfold nonEmptyField
  split
  · rename_i c t found
    rw [found]
    constructor
    · intro h
      cases h
      exact ⟨rfl, List.cons_ne_nil c t⟩
    · intro h
      cases h.1
      rfl
  · rename_i other
    refine ⟨nofun, fun h => ?_⟩
    cases s with
    | nil => exact absurd rfl h.2
    | cons c t => exact absurd h.1 (other c t)

theorem hexField_eq_ok {envelope : Dict} {field : Str} {b : Bytes} :
    hexField envelope field = .ok b ↔
      ∃ v, envelope.get? field = some v ∧ fromHexVal v = .ok b := by
  simp only [hexField, bind_eq_ok, Dict.item_eq_ok]

/-- The context holds what the fields of the envelope read as. -/
structure VerifiedContext.Reads (P : Platform) (envelope : Dict) (ctx : VerifiedContext) :
    Prop where
  timestamp : ∃ v, envelope.get? "timestamp" = some v ∧ P.int v = .ok ctx.timestamp
  senderId : envelope.get? "sender_id" = some (.str ctx.senderId)
  recipientId : envelope.get? "recipient_id" = some (.str ctx.recipientId)
  envelopeNonce : envelope.get? "envelope_nonce" = some (.str ctx.envelopeNonce)
  ciphertext : hexField envelope "ciphertext" = .ok ctx.ciphertext
  nonce : hexField envelope "nonce" = .ok ctx.nonce
  ephemeralPub : hexField envelope "ephemeral_pub" = .ok ctx.ephemeralPub
  kemCiphertext : hexField envelope "kem_ciphertext" = .ok ctx.kemCiphertext
  classicalSig : envelope.get? "classical_sig" = some ctx.classicalSig
  pqcSig : envelope.get? "pqc_sig" = some ctx.pqcSig

/-- What `verify_envelope` has established when it returns. -/
structure Verified (P : Platform) (envelope : Dict) (sender : PublicKeys)
    (recipientId senderId : Str) (maxAge clockSkew : ℤ) (now : ℚ) (ctx : VerifiedContext) :
    Prop where
  reads : ctx.Reads P envelope
  addressed : ctx.recipientId = recipientId
  sent : ctx.senderId = senderId
  fresh : now - ctx.timestamp ≤ maxAge
  notFuture : -clockSkew ≤ now - ctx.timestamp
  signed : ∃ b, ctx.signable P.toRuntime = .ok b ∧
    hybridVerify P b ctx.classicalSig ctx.pqcSig sender = .ok true

variable {P : Platform} {envelope : Dict} {sender : PublicKeys} {recipientId senderId : Str}
  {maxAge clockSkew : ℤ} {now : ℚ} {ctx : VerifiedContext}

theorem intTimestamp_eq_ok {R : Runtime} {invalid : PyErr} {n : ℤ} :
    intTimestamp R envelope invalid = .ok n ↔
      ∃ v, envelope.get? "timestamp" = some v ∧ R.int v = .ok n := by
  simp only [intTimestamp, catching_eq_ok, bind_eq_ok, Dict.item_eq_ok]

theorem decodeHexFields_eq_ok {bytes : SealedBytes} : decodeHexFields envelope = .ok bytes ↔
    hexField envelope "ciphertext" = .ok bytes.ciphertext ∧
    hexField envelope "nonce" = .ok bytes.nonce ∧
    hexField envelope "ephemeral_pub" = .ok bytes.ephemeralPub ∧
    hexField envelope "kem_ciphertext" = .ok bytes.kemCiphertext := by
  simp only [decodeHexFields, bind_eq_ok, pure_eq_ok]
  constructor
  · rintro ⟨c, hc, n, hn, e, he, k, hk, rfl⟩
    exact ⟨hc, hn, he, hk⟩
  · rintro ⟨hc, hn, he, hk⟩
    exact ⟨_, hc, _, hn, _, he, _, hk, rfl⟩

theorem requireOpenContext_facts
    (opened : requireOpenContext P envelope recipientId maxAge clockSkew now = .ok ctx) :
    ctx.Reads P envelope ∧ ctx.recipientId = recipientId ∧ now - ctx.timestamp ≤ maxAge ∧
      -clockSkew ≤ now - ctx.timestamp := by
  simp only [requireOpenContext, bind_eq_ok, ensure_eq_ok, intTimestamp_eq_ok, catching_eq_ok,
    decodeHexFields_eq_ok, nonEmptyField_eq_ok, Dict.item_eq_ok, pure_eq_ok, Val.eqStr_eq_true,
    decide_eq_true_eq] at opened
  rcases opened with ⟨_, _, _, _, _, _, ts, converted, _, fresh, _, notFuture, _, addressed, sid,
    ⟨hs, _⟩, rid, ⟨hr, _⟩, nonce, ⟨hn, _⟩, bytes, ⟨hc, hb, he, hk⟩, c, hcs, p, hps, rfl⟩
  rw [hr, Option.some.injEq, Val.str.injEq] at addressed
  exact ⟨⟨converted, hs, hr, hn, hc, hb, he, hk, hcs, hps⟩, addressed, fresh, notFuture⟩

theorem verifyEnvelope_facts
    (verified : verifyEnvelope P envelope sender recipientId senderId maxAge clockSkew now =
      .ok ctx) :
    Verified P envelope sender recipientId senderId maxAge clockSkew now ctx := by
  simp only [verifyEnvelope, bind_eq_ok, ensure_eq_ok, pure_eq_ok, beq_iff_eq] at verified
  rcases verified with ⟨_, opened, _, sent, b, signable, _, accepted, _, rfl, rfl⟩
  rcases requireOpenContext_facts opened with ⟨reads, addressed, fresh, notFuture⟩
  exact ⟨reads, addressed, sent, fresh, notFuture, b, signable, accepted⟩

end Uxsp
